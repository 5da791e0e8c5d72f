import PullSecrets.Json.Writer
import PullSecrets.Puller.Basic
import PullSecrets.Text.Utf8

/-!
# The document of registry credentials

A puller's credentials become one document: an object that has an entry for every registry
server. Empty texts are left out of an entry, and of several entries for one server the last
counts. Two documents are the same when they are written alike, or when both are values and have
the same members whatever their order.

## Main facts

* `Credentials.same_refl`, `Credentials.same_comm`: being the same holds of a document and itself,
  and both ways round.
-/

namespace PullSecrets.Credentials

/-- What a document says about a server. -/
def entry (r : Registry) : Json := { r with server := "" : Registry }.toJson

/-- The entries of a document, the last one for each server. -/
def entries (rs : List Registry) : Dict String Json :=
  Dict.ofList (rs.map fun r => (r.server, entry r))

/-- The document of a list of credentials. -/
def document (rs : List Registry) : String := (Json.object (entries rs).entries).render

/-- The bytes of the document. -/
def bytes (rs : List Registry) : ByteArray := (document rs).toUTF8

/-- The value of a document, regardless of the order of members and of the signs of zeros. -/
def value? (document : ByteArray) : Option Json :=
  (Json.Tree.ofBytes? document).bind fun t =>
    (t.value? Json.Tree.maxDepth).map fun v => v.canonical.unsignedZeros

/-- Whether two documents are the same. -/
def same (left right : ByteArray) : Bool :=
  decide (left = right) ||
    match value? left, value? right with
    | some x, some y => decide (x = y)
    | _, _ => false

/-- A document is the same as itself. -/
@[simp] theorem same_refl (document : ByteArray) : same document document = true := by
  simp [same]

/-- Being the same holds both ways round. -/
theorem same_comm (left right : ByteArray) : same left right = same right left := by
  cases hl : value? left <;> cases hr : value? right <;> simp [same, hl, hr, eq_comm]

end PullSecrets.Credentials
