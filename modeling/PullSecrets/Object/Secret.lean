import PullSecrets.Object.Metadata
import PullSecrets.Text.Base64
import PullSecrets.Text.Utf8

/-!
# Secrets

A secret lives in a namespace and holds bytes under names. Its text form shows the bytes in
base64; a null stands for no bytes.

## Main facts

* `Secret.toJson` and `Secret.ofNode?`: writing and reading a secret.
-/

namespace PullSecrets

/-- A secret. -/
structure Secret where
  metadata : Metadata
  /-- The bytes under each name. -/
  data : Option (Dict String ByteArray) := none
  immutable : Option Bool := none
  /-- Texts that are to be stored as bytes. -/
  stringData : Option (Dict String String) := none
  /-- The type of the secret, which fixes the names it holds. -/
  type : Option String := none
  deriving DecidableEq, Inhabited

namespace Secret

open Json (Node)

/-- Bytes in base64, or a null for no bytes. -/
def bytes? (n : Node) : Option ByteArray :=
  match n.tree with
  | .null => some ByteArray.empty
  | _ => n.text?.bind Text.Base64.toBytes?

/-- Read a secret. -/
def ofNode? (n : Node) : Option Secret := do
  let ms ← n.members?
  Node.constant ms "apiVersion" "v1"
  Node.constant ms "kind" "Secret"
  some {
    metadata := (← Node.field ms "metadata" Metadata.ofNode?).getD {}
    data := ← Node.field ms "data" (Node.dict? bytes?)
    immutable := ← Node.field ms "immutable" Node.bool?
    stringData := ← Node.field ms "stringData" Node.texts?
    type := ← Node.field ms "type" Node.text? }

/-- The object of a secret. -/
def toJson (s : Secret) : Json :=
  Json.ofFields [
    ("apiVersion", some (.string "v1")),
    ("kind", some (.string "Secret")),
    ("data", s.data.map fun d =>
      .object (d.entries.map fun e => (e.1, .string (Text.Base64.ofBytes e.2)))),
    ("immutable", s.immutable.map .bool),
    ("metadata", some s.metadata.toJson),
    ("stringData", s.stringData.map .ofTexts),
    ("type", s.type.map .string)]

end Secret

end PullSecrets
