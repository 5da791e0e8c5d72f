/-!
# Notes of a program

While it runs, a program notes what it does. A note asks for no answer: it is counted, or it
makes the surroundings wait.

## Main facts

* `Note` lists everything that is counted about the reconciling of pullers.
-/

namespace PullSecrets

/-- What a program tells its surroundings. -/
inductive Note where
  /-- A reconcile has begun. -/
  | reconcileBegun
  /-- A reconcile has ended, however it ended. -/
  | reconcileEnded
  /-- A reconcile has failed. -/
  | reconcileFailed
  /-- Secrets have been written. -/
  | secretsWritten (count : Nat)
  /-- Service accounts have been bound. -/
  | accountsBound (count : Nat)
  /-- Service accounts have been unbound. -/
  | accountsUnbound (count : Nat)
  /-- A conflict is answered by another attempt. -/
  | conflictRetried
  /-- A puller will be looked at again after the usual time. -/
  | resyncScheduled
  /-- A puller will be looked at again after a failure. -/
  | backoffScheduled
  /-- The program waits before it goes on. -/
  | paused (milliseconds : Nat)
  deriving DecidableEq, Inhabited

end PullSecrets
