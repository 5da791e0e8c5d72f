import PullSecrets.Json.Tree

/-!
# Reading typed values out of a tree

A node is a part of a tree together with the number of levels that may still open below it.
Typed values are read from nodes; a reading either succeeds or fails, and looks at nothing but
the parts it needs.

There are two kinds of objects. A lenient one lets every member be absent or null and takes the
last of a repeated name. A strict one, a record, refuses a repeated name, and may be written as
the array of its values in a fixed order instead.
-/

namespace PullSecrets.Json

/-- A part of a tree, and the number of levels that may still open below it. -/
structure Node where
  /-- The number of levels. -/
  room : Nat
  /-- The part of the tree. -/
  tree : Tree
  deriving Inhabited

namespace Node

/-- The whole of a tree. -/
def whole (t : Tree) : Node := ⟨Tree.maxDepth, t⟩

/-! ## Scalars -/

/-- A text. -/
def text? (n : Node) : Option String :=
  match n.tree with
  | .string s => s
  | _ => none

/-- A truth value. -/
def bool? (n : Node) : Option Bool :=
  match n.tree with
  | .bool b => some b
  | _ => none

/-- A natural number of at most `limit`. -/
def natural? (limit : Nat) (n : Node) : Option Nat :=
  match n.tree with
  | .number (some (.natural k)) => if k ≤ limit then some k else none
  | _ => none

/-- An integer of 64 bits. -/
def int64? (n : Node) : Option Int :=
  match n.tree with
  | .number (some (.natural k)) => if k < UInt64.size / 2 then some k else none
  | .number (some (.negative k)) => some (-k)
  | _ => none

/-- Any value, with the members of its objects in order. -/
def value? (n : Node) : Option Json := (n.tree.value? n.room).map canonical

/-- The name of a variant: a text, or an object with this name and a null. -/
def variant? (n : Node) : Option String :=
  match n.tree with
  | .string s => s
  | .object [(name, .null)] => name
  | _ => none

/-! ## Arrays and objects -/

/-- The items of an array. -/
def items? (n : Node) : Option (List Node) :=
  match n.tree with
  | .array ts => if n.room = 0 then none else some (ts.map (Node.mk (n.room - 1)))
  | _ => none

/-- The members of an object. -/
def members? (n : Node) : Option (List (String × Node)) :=
  match n.tree with
  | .object ms =>
    if n.room = 0 then none
    else ms.mapM fun m => m.1.map fun name => (name, Node.mk (n.room - 1) m.2)
  | _ => none

/-- A value that may be null. -/
def optional {α : Type} (read : Node → Option α) (n : Node) : Option (Option α) :=
  match n.tree with
  | .null => some none
  | _ => (read n).map some

/-- An array of values of one kind. -/
def list? {α : Type} (read : Node → Option α) (n : Node) : Option (List α) :=
  n.items?.bind fun ns => ns.mapM read

/-- An object with any names and values of one kind; the last of a repeated name counts. -/
def dict? {α : Type} (read : Node → Option α) (n : Node) : Option (Dict String α) :=
  n.members?.bind fun ms =>
    (ms.mapM fun m => (read m.2).map fun a => (m.1, a)).map Dict.ofList

/-- An object of texts. -/
def texts? (n : Node) : Option (Dict String String) := n.dict? text?

/-- An array of texts. -/
def strings? (n : Node) : Option (List String) := n.list? text?

/-- A member of a lenient object. It may be absent or null; each of its occurrences has to be
readable, and the last one counts. -/
def field {α : Type} (ms : List (String × Node)) (name : String) (read : Node → Option α) :
    Option (Option α) :=
  (ms.filter fun m => m.1 == name).foldlM (fun _ m => optional read m.2) none

/-- The only occurrence of a field of a record, under any of its names; `none` if the field is
repeated. -/
def only (ms : List (String × Node)) (names : List String) : Option (Option Node) :=
  match ms.filter fun m => names.contains m.1 with
  | [] => some none
  | [m] => some (some m.2)
  | _ => none

/-- The fields of a record in order, each known by some names: the members of an object, or the
items of an array that is no longer than the record. -/
def record? (fields : List (List String)) (n : Node) : Option (List (Option Node)) :=
  match n.items? with
  | some ns =>
    if ns.length ≤ fields.length then
      some (ns.map some ++ List.replicate (fields.length - ns.length) none)
    else none
  | none => n.members?.bind fun ms => fields.mapM (only ms)

/-- A field that has to be there. -/
def required {α : Type} (read : Node → Option α) (n : Option Node) : Option α :=
  n.bind read

/-- A field with a value to take when it is absent. -/
def orElse {α : Type} (missing : α) (read : Node → Option α) (n : Option Node) : Option α :=
  match n with
  | none => some missing
  | some n => read n

end Node

end PullSecrets.Json
