import PullSecrets.Object.Namespace
import PullSecrets.Object.Secret
import PullSecrets.Object.ServiceAccount
import PullSecrets.Puller.Basic
import PullSecrets.Store.Error

/-!
# Calls to the object store

The store is used through ten calls. Each of them has values of its own type and may fail. A
written object carries the version that it was read with, so that the store can refuse a stale
copy.

## Main facts

* `Call.Reply`: the answer to a call has the type that the call fixes.
* `Call.isWrite`: the calls that can change an object.
-/

namespace PullSecrets

/-- A call to the store. -/
inductive Call where
  /-- Read a puller. -/
  | getPuller (name : String)
  /-- Replace the metadata and the specification of a puller, but not its status. -/
  | replacePuller (puller : Puller)
  /-- Replace the status of a puller and nothing else. -/
  | replacePullerStatus (puller : Puller)
  /-- List the namespaces that a selector chooses, or all of them. -/
  | listNamespaces (selector : Option LabelSelector)
  /-- Read a secret. -/
  | getSecret (inNamespace name : String)
  /-- Create a secret. -/
  | createSecret (secret : Secret)
  /-- Replace a secret. -/
  | replaceSecret (secret : Secret)
  /-- List the service accounts of a namespace, or all of them. -/
  | listServiceAccounts (inNamespace : Option String)
  /-- Read a service account. -/
  | getServiceAccount (inNamespace name : String)
  /-- Replace a service account. -/
  | replaceServiceAccount (account : ServiceAccount)
  deriving DecidableEq, Inhabited

namespace Call

/-- The type of the value that answers a call. -/
abbrev Value : Call → Type
  | getPuller _ => Option Puller
  | replacePuller _ => Puller
  | replacePullerStatus _ => Puller
  | listNamespaces _ => List Namespace
  | getSecret .. => Option Secret
  | createSecret _ => Secret
  | replaceSecret _ => Secret
  | listServiceAccounts _ => List ServiceAccount
  | getServiceAccount .. => Option ServiceAccount
  | replaceServiceAccount _ => ServiceAccount

/-- The answer to a call: a value or a failure. -/
abbrev Reply (c : Call) : Type := Except StoreError c.Value

/-- Whether a call can change an object. -/
def isWrite : Call → Bool
  | replacePuller _ | replacePullerStatus _ | createSecret _ | replaceSecret _
  | replaceServiceAccount _ => true
  | _ => false

/-- The kind of the objects that a call is about. -/
def kind : Call → ResourceKind
  | getPuller _ | replacePuller _ | replacePullerStatus _ => .puller
  | listNamespaces _ => .namespace
  | getSecret .. | createSecret _ | replaceSecret _ => .secret
  | listServiceAccounts _ | getServiceAccount .. | replaceServiceAccount _ => .serviceAccount

end Call

/-! ## The place of a written object -/

/-- The refusal of an object that names no namespace. -/
def StoreError.withoutNamespace (kind : ResourceKind) (m : Metadata) : StoreError :=
  .api 422 (kind.text ++ " " ++ m.effectiveName ++ " has no namespace")

/-- The place that the metadata of an object name; the namespace has to be given. -/
def Metadata.key (kind : ResourceKind) (m : Metadata) : Except StoreError ObjectKey :=
  match m.inNamespace with
  | some ns => .ok ⟨ns, m.effectiveName⟩
  | none => .error (.withoutNamespace kind m)

end PullSecrets
