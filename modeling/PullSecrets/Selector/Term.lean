import PullSecrets.Selector.Basic
import PullSecrets.Text.Quoted

/-!
# The meaning of a label selector

A selector means a list of terms, each a condition on the labels of an object: one for every
label that has to be there, then one for every expression. An expression has no meaning if its
operator is unknown or does not go with its values; the first such expression is reported. An
object is selected when all terms hold, and a query names the terms one after the other.

## Main facts

* `LabelSelector.selects_error_iff`, `LabelSelector.query_error_iff`: selecting and rendering fail
  exactly when the check fails, and in the same way.
-/

namespace PullSecrets

/-! ## Failures -/

/-- Why an expression has no meaning. -/
inductive SelectorError where
  /-- The operator is none of the four. -/
  | unknownOperator (key operator : String)
  /-- The operator needs a value. -/
  | missingValues (key operator : String)
  /-- The operator takes no values. -/
  | unexpectedValues (key operator : String)
  deriving DecidableEq, Inhabited

/-- The text of a failure. -/
def SelectorError.message : SelectorError → String
  | .unknownOperator key operator =>
    "unsupported operator " ++ Text.quote operator ++ " for key " ++ Text.quote key
  | .missingValues key operator =>
    "operator " ++ operator ++ " for key " ++ Text.quote key ++ " requires at least one value"
  | .unexpectedValues key operator =>
    "operator " ++ operator ++ " for key " ++ Text.quote key ++ " does not take values"

/-! ## Terms -/

/-- A condition on the labels of an object. -/
inductive Term where
  /-- The label is there and has the value. -/
  | equals (key value : String)
  /-- The label is there and has one of the values. -/
  | oneOf (key : String) (values : List String)
  /-- The label has none of the values; it may be absent. -/
  | noneOf (key : String) (values : List String)
  /-- The label is there. -/
  | present (key : String)
  /-- The label is not there. -/
  | absent (key : String)
  deriving DecidableEq, Inhabited

namespace Term

/-- Whether a condition holds for labels. -/
def holds (labels : Dict String String) : Term → Bool
  | equals key value => labels.get? key == some value
  | oneOf key values => (labels.get? key).any values.contains
  | noneOf key values => !(labels.get? key).any values.contains
  | present key => labels.contains key
  | absent key => !labels.contains key

/-- The form of a condition in a query. -/
def query : Term → String
  | equals key value => key ++ "=" ++ value
  | oneOf key values => key ++ " in (" ++ String.intercalate "," values ++ ")"
  | noneOf key values => key ++ " notin (" ++ String.intercalate "," values ++ ")"
  | present key => key
  | absent key => "!" ++ key

end Term

/-- The condition that an expression means. -/
def Requirement.term? (r : Requirement) : Except SelectorError Term :=
  let values := r.values.getD []
  if r.operator = "In" ∨ r.operator = "NotIn" then
    if values.isEmpty then .error (.missingValues r.key r.operator)
    else if r.operator = "In" then .ok (.oneOf r.key values)
    else .ok (.noneOf r.key values)
  else if r.operator = "Exists" ∨ r.operator = "DoesNotExist" then
    if !values.isEmpty then .error (.unexpectedValues r.key r.operator)
    else if r.operator = "Exists" then .ok (.present r.key)
    else .ok (.absent r.key)
  else .error (.unknownOperator r.key r.operator)

namespace LabelSelector

/-- The conditions that a selector means. -/
def terms? (s : LabelSelector) : Except SelectorError (List Term) :=
  (s.requirements.mapM Requirement.term?).map fun terms =>
    s.labels.map (fun e => Term.equals e.1 e.2) ++ terms

/-- Whether every expression has a meaning; otherwise the failure of the first that has none. -/
def validate (s : LabelSelector) : Except SelectorError Unit :=
  s.terms?.map fun _ => ()

/-- Whether an object with these labels is selected. -/
def selects (s : LabelSelector) (labels : Option (Dict String String)) :
    Except SelectorError Bool :=
  s.terms?.map fun terms => terms.all (Term.holds (labels.getD Dict.empty))

/-- The selector as a query; the empty query selects everything. -/
def query (s : LabelSelector) : Except SelectorError String :=
  s.terms?.map fun terms => String.intercalate "," (terms.map Term.query)

/-- Selecting fails with the failure of the check. -/
theorem selects_error_iff (s : LabelSelector) (labels : Option (Dict String String))
    (e : SelectorError) : s.selects labels = .error e ↔ s.validate = .error e := by
  simp only [selects, validate]
  cases s.terms? <;> simp [Except.map]

/-- Rendering a query fails with the failure of the check. -/
theorem query_error_iff (s : LabelSelector) (e : SelectorError) :
    s.query = .error e ↔ s.validate = .error e := by
  simp only [query, validate]
  cases s.terms? <;> simp [Except.map]

end LabelSelector

end PullSecrets
