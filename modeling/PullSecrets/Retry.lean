import PullSecrets.Program.Basic

/-!
# Retrying after conflicts

A change to a stored object reads the object, changes the copy and writes it back. If another
client was faster, the change is attempted again from the start, until a budget of attempts is
spent. Any other failure ends it at once.
-/

namespace PullSecrets

/-- How often a change is attempted, and how long to wait between two attempts. -/
structure RetryPolicy where
  /-- The number of attempts, the first one included; none counts as one. -/
  attempts : Nat := 5
  /-- The pause in milliseconds. -/
  pause : Nat := 10
  deriving DecidableEq, Inhabited

namespace Program

variable {α : Type}

/-- Wait for a pause, unless it takes no time. -/
def wait (milliseconds : Nat) : Program StoreError Unit :=
  if milliseconds = 0 then pure () else leave (.paused milliseconds)

/-- Attempt a change, and attempt it again up to `retries` times after a conflict. The change is
given the number of attempts before this one. -/
def retryFrom (pause : Nat) (change : Nat → Program StoreError α) (before : Nat) :
    Nat → Program StoreError α
  | 0 => change before
  | retries + 1 => do
    match ← (change before).attempt with
    | .ok a => pure a
    | .error e =>
      if e.isConflict then
        leave .conflictRetried
        wait pause
        retryFrom pause change (before + 1) retries
      else fail e

/-- Attempt a change within the budget of a policy. -/
def retry (policy : RetryPolicy) (change : Nat → Program StoreError α) : Program StoreError α :=
  retryFrom policy.pause change 0 (policy.attempts - 1)

end Program

end PullSecrets
