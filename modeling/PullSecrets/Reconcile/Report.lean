import PullSecrets.Retry

/-!
# The report about a reconcile

The status of a puller reports how its last reconcile ended, in two conditions: whether it is
ready, and whether there is an error. A status that says so already is not written, and a written
status leaves all other conditions alone.
-/

namespace PullSecrets.Report

/-- The condition of readiness. -/
def ready : String := "Ready"

/-- The condition about errors. -/
def error : String := "Error"

/-- The status that reports an end, with the text of the failure if there was one. Each condition
has a reading of the clock of its own. -/
def status (current : Option PullerStatus) (failure : Option String)
    (readyTime errorTime : String) : PullerStatus :=
  let current := current.getD {}
  match failure with
  | none =>
    (current.set ready .true "Ready" "puller reconcile ready" readyTime).set
      error .false "NoError" "No error seen" errorTime
  | some message =>
    (current.set ready .unknown "Error" "puller reconcile error" readyTime).set
      error .true "ErrorSeen" message errorTime

/-- The status that reports an end now. -/
def statusNow {ε : Type} (current : Option PullerStatus) (failure : Option String) :
    Program ε PullerStatus := do
  let readyTime ← Program.now
  let errorTime ← Program.now
  pure (status current failure readyTime errorTime)

open Program (ask)

/-- Write a status, unless the puller has it: whether it was written. The first attempt trusts the
copy at hand, later ones read the puller again. -/
def update (policy : RetryPolicy) (copy : Puller) (status : PullerStatus) :
    Program StoreError Bool :=
  if copy.status = some status then pure false
  else
    Program.retry policy fun attemptsBefore => do
      let target ← if attemptsBefore = 0 then pure (some copy) else ask (.getPuller copy.name)
      match target with
      | none => pure false
      | some target =>
        if target.status = some status then pure false
        else
          let _ ← ask (.replacePullerStatus { target with status := some status })
          pure true

end PullSecrets.Report
