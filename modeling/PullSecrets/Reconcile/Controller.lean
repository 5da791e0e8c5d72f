import PullSecrets.Backoff
import PullSecrets.Reconcile.Basic

/-!
# What follows a reconcile

The controller remembers the failures of every puller since its last success. After a failure it
waits for the next time of that puller's own sequence; a success forgets the failures.

## Main facts

* `Controller.get?_succeed`, `Controller.get?_fail_of_ne`: one puller never changes what is
  remembered about another.
-/

namespace PullSecrets

/-- The failures of every puller since its last success. -/
structure Controller where
  failures : Dict String Failures := .empty
  deriving DecidableEq, Inhabited

namespace Controller

/-- Forget the failures of a puller. -/
def succeed (c : Controller) (name : String) : Controller := ⟨c.failures.erase name⟩

/-- Count a failure of a puller: what to do next, and what to remember. -/
def fail (config : Config) (c : Controller) (name : String) : Action × Controller :=
  let before := (c.failures.get? name).getD (.fresh config.leastBackoff config.mostBackoff)
  let (delay, after) := before.next
  (.requeue delay, ⟨c.failures.insert name after⟩)

/-- What is noted about a failure. -/
def failureNotes : List Note := [.reconcileFailed, .backoffScheduled]

/-- What follows the end of a reconcile. -/
def settle (config : Config) (c : Controller) (name : String) :
    Except ReconcileError Action → Action × Controller
  | .ok action => (action, c.succeed name)
  | .error _ => c.fail config name

/-- Forgetting the failures of a puller leaves the others alone. -/
@[simp] theorem get?_succeed (c : Controller) (name other : String) :
    (c.succeed name).failures.get? other =
      if other = name then none else c.failures.get? other := by
  simp [succeed]

/-- Counting a failure of a puller leaves the others alone. -/
theorem get?_fail_of_ne (config : Config) (c : Controller) {name other : String}
    (h : other ≠ name) :
    (c.fail config name).2.failures.get? other = c.failures.get? other := by
  simp [fail, h]

end Controller

end PullSecrets
