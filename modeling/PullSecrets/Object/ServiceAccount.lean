import PullSecrets.Object.Metadata

/-!
# Service accounts

A service account lives in a namespace. The containers that run under it pull their images with
the secrets that it lists by name.

## Main facts

* `ServiceAccount.references_iff`: an account references a secret when its list has the name.
-/

namespace PullSecrets

/-- A reference to any object; all of it may be absent. -/
structure ObjectReference where
  apiVersion : Option String
  fieldPath : Option String
  kind : Option String
  name : Option String
  inNamespace : Option String
  resourceVersion : Option String
  uid : Option String
  deriving DecidableEq, Inhabited

/-- A service account. -/
structure ServiceAccount where
  metadata : Metadata
  automountServiceAccountToken : Option Bool := none
  /-- The names of the secrets that images are pulled with. -/
  imagePullSecrets : Option (List String) := none
  /-- The secrets that containers may use. -/
  secrets : Option (List ObjectReference) := none
  deriving DecidableEq, Inhabited

open Json (Node)

/-- Read a reference. -/
def ObjectReference.ofNode? (n : Node) : Option ObjectReference := do
  let ms ← n.members?
  some {
    apiVersion := ← Node.field ms "apiVersion" Node.text?
    fieldPath := ← Node.field ms "fieldPath" Node.text?
    kind := ← Node.field ms "kind" Node.text?
    name := ← Node.field ms "name" Node.text?
    inNamespace := ← Node.field ms "namespace" Node.text?
    resourceVersion := ← Node.field ms "resourceVersion" Node.text?
    uid := ← Node.field ms "uid" Node.text? }

/-- The object of a reference. -/
def ObjectReference.toJson (r : ObjectReference) : Json :=
  Json.ofFields [
    ("apiVersion", r.apiVersion.map .string),
    ("fieldPath", r.fieldPath.map .string),
    ("kind", r.kind.map .string),
    ("name", r.name.map .string),
    ("namespace", r.inNamespace.map .string),
    ("resourceVersion", r.resourceVersion.map .string),
    ("uid", r.uid.map .string)]

namespace ServiceAccount

/-- The names of the secrets that images are pulled with, none if there is no list. -/
def pullSecretList (a : ServiceAccount) : List String := a.imagePullSecrets.getD []

/-- Whether images are pulled with a secret. -/
def references (a : ServiceAccount) (secret : String) : Bool :=
  a.pullSecretList.any (· == secret)

/-- An account references a secret when its list has the name. -/
@[simp] theorem references_iff {a : ServiceAccount} {secret : String} :
    a.references secret = true ↔ secret ∈ a.pullSecretList := by
  simp [references]

/-- Read the name in a reference to a secret. -/
def pullSecret? (n : Node) : Option String :=
  n.members?.bind fun ms => (Node.field ms "name" Node.text?).map (·.getD "")

/-- Read a service account. -/
def ofNode? (n : Node) : Option ServiceAccount := do
  let ms ← n.members?
  Node.constant ms "apiVersion" "v1"
  Node.constant ms "kind" "ServiceAccount"
  some {
    metadata := (← Node.field ms "metadata" Metadata.ofNode?).getD {}
    automountServiceAccountToken := ← Node.field ms "automountServiceAccountToken" Node.bool?
    imagePullSecrets := ← Node.field ms "imagePullSecrets" (Node.list? pullSecret?)
    secrets := ← Node.field ms "secrets" (Node.list? ObjectReference.ofNode?) }

/-- The object of a service account. -/
def toJson (a : ServiceAccount) : Json :=
  Json.ofFields [
    ("apiVersion", some (.string "v1")),
    ("kind", some (.string "ServiceAccount")),
    ("automountServiceAccountToken", a.automountServiceAccountToken.map .bool),
    ("imagePullSecrets", a.imagePullSecrets.map fun names =>
      .array (names.map fun name => .object [("name", .string name)])),
    ("metadata", some a.metadata.toJson),
    ("secrets", a.secrets.map fun rs => .array (rs.map ObjectReference.toJson))]

end ServiceAccount

end PullSecrets
