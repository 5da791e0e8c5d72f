import PullSecrets.Program.Run

/-!
# Failures of a reconcile

Work that goes on after a failure collects what went wrong, one entry for each failure, with the
subject in front. A reconcile fails with a failure of the store, or with such a collection.
-/

namespace PullSecrets

/-- Failures that have been collected. -/
structure Aggregate where
  /-- The texts of the failures in the order in which they came. -/
  entries : List String := []
  deriving DecidableEq, Inhabited

namespace Aggregate

/-- A text about a subject. -/
def about (subject error : String) : String := subject ++ ": " ++ error

/-- Collect a failure. -/
def push (a : Aggregate) (subject error : String) : Aggregate :=
  ⟨a.entries ++ [about subject error]⟩

/-- Collect everything that went wrong about a subject. -/
def extend (a : Aggregate) (subject : String) (other : Aggregate) : Aggregate :=
  ⟨a.entries ++ other.entries.map (about subject)⟩

/-- The number of failures. -/
def size (a : Aggregate) : Nat := a.entries.length

/-- Whether nothing went wrong. -/
def isEmpty (a : Aggregate) : Bool := a.entries.isEmpty

/-- The text of all failures. -/
def message (a : Aggregate) : String :=
  match a.entries with
  | [] => ""
  | [only] => only
  | several => "[" ++ String.intercalate ", " several ++ "]"

end Aggregate

/-- Why a reconcile failed. -/
inductive ReconcileError where
  /-- A call to the store failed. -/
  | store (error : StoreError)
  /-- Some of the work failed. -/
  | several (errors : Aggregate)
  deriving DecidableEq, Inhabited

namespace ReconcileError

/-- The text of a failure. -/
def message : ReconcileError → String
  | store error => error.message
  | several errors => errors.message

/-- The failures that a failure consists of. -/
def parts : ReconcileError → Aggregate
  | store error => ⟨[error.message]⟩
  | several errors => errors

end ReconcileError

namespace Program

variable {α δ ε ι : Type}

instance : MonadLift (Program StoreError) (Program ReconcileError) := ⟨mapError .store⟩

/-- Succeed unless something went wrong. -/
def settle (errors : Aggregate) (a : α) : Program ReconcileError α :=
  if errors.isEmpty then pure a else fail (.several errors)

/-- Work on every item of a list, also after a failure; the results come with their items. -/
def forEach (work : ι → Program δ α) : List ι → Program ε (List (ι × Except δ α))
  | [] => pure []
  | i :: is => do
    let result ← (work i).attempt
    let results ← forEach work is
    pure ((i, result) :: results)

end Program

end PullSecrets
