import PullSecrets.Json.Node

/-!
# Label selectors

A selector chooses objects by their labels. It is written as labels that have to be there, and as
expressions that name a key, an operator and values. The operator of an expression is any text;
which ones mean something is decided when the selector is used.

## Main facts

* `LabelSelector.toJson` and `LabelSelector.ofNode?`: writing and reading a selector.
-/

namespace PullSecrets

/-- An expression about the label under a key. -/
structure Requirement where
  key : String
  operator : String
  values : Option (List String)
  deriving DecidableEq, Inhabited

/-- A selector: labels that have to be there, and expressions that have to hold. -/
structure LabelSelector where
  matchExpressions : Option (List Requirement) := none
  matchLabels : Option (Dict String String) := none
  deriving DecidableEq, Inhabited

open Json (Node)

/-- Read an expression. -/
def Requirement.ofNode? (n : Node) : Option Requirement := do
  let ms ← n.members?
  some {
    key := (← Node.field ms "key" Node.text?).getD ""
    operator := (← Node.field ms "operator" Node.text?).getD ""
    values := ← Node.field ms "values" Node.strings? }

/-- The object of an expression. -/
def Requirement.toJson (r : Requirement) : Json :=
  Json.ofFields [
    ("key", some (.string r.key)),
    ("operator", some (.string r.operator)),
    ("values", r.values.map .ofStrings)]

namespace LabelSelector

/-- The expressions, none if there is no list. -/
def requirements (s : LabelSelector) : List Requirement := s.matchExpressions.getD []

/-- The labels that have to be there, in order of their keys. -/
def labels (s : LabelSelector) : List (String × String) :=
  (s.matchLabels.map (·.entries)).getD []

/-- Read a selector. -/
def ofNode? (n : Node) : Option LabelSelector := do
  let ms ← n.members?
  some {
    matchExpressions := ← Node.field ms "matchExpressions" (Node.list? Requirement.ofNode?)
    matchLabels := ← Node.field ms "matchLabels" Node.texts? }

/-- The object of a selector. -/
def toJson (s : LabelSelector) : Json :=
  Json.ofFields [
    ("matchExpressions", s.matchExpressions.map fun rs => .array (rs.map Requirement.toJson)),
    ("matchLabels", s.matchLabels.map .ofTexts)]

end LabelSelector

end PullSecrets
