import PullSecrets.Program.Note

/-!
# Counters

What programs note about their work is counted. A counter never goes down, so the work of any
stretch of time is the growth of its counters.
-/

namespace PullSecrets

/-- The counters about the reconciling of pullers. -/
structure Counters where
  /-- Reconciles that have begun. -/
  reconciliations : Nat := 0
  /-- Reconciles that have failed. -/
  reconciliationErrors : Nat := 0
  /-- Reconciles whose duration has been observed. -/
  durationsObserved : Nat := 0
  /-- Secrets that have been written. -/
  secretsWritten : Nat := 0
  /-- Service accounts that have been bound. -/
  accountsBound : Nat := 0
  /-- Service accounts that have been unbound. -/
  accountsUnbound : Nat := 0
  /-- Attempts that followed a conflict. -/
  conflictRetries : Nat := 0
  /-- Pullers that were scheduled for the usual time. -/
  resyncRequeues : Nat := 0
  /-- Pullers that were scheduled after a failure. -/
  backoffRequeues : Nat := 0
  deriving DecidableEq, Inhabited

namespace Counters

/-- Count a note. -/
def record (n : Note) (c : Counters) : Counters :=
  match n with
  | .reconcileBegun => { c with reconciliations := c.reconciliations + 1 }
  | .reconcileEnded => { c with durationsObserved := c.durationsObserved + 1 }
  | .reconcileFailed => { c with reconciliationErrors := c.reconciliationErrors + 1 }
  | .secretsWritten count => { c with secretsWritten := c.secretsWritten + count }
  | .accountsBound count => { c with accountsBound := c.accountsBound + count }
  | .accountsUnbound count => { c with accountsUnbound := c.accountsUnbound + count }
  | .conflictRetried => { c with conflictRetries := c.conflictRetries + 1 }
  | .resyncScheduled => { c with resyncRequeues := c.resyncRequeues + 1 }
  | .backoffScheduled => { c with backoffRequeues := c.backoffRequeues + 1 }
  | .paused _ => c

end Counters

end PullSecrets
