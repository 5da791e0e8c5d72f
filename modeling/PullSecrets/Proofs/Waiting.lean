import Mathlib.Data.List.Induction
import PullSecrets.Proofs.Delays
import PullSecrets.Reconcile.Controller

/-!
# Waiting after failures

The waiting times of a puller follow its own failures since its last success: one step of a sequence
of waiting times for each of them.

Histories are newest first, so that what has happened earlier is the rest of the list.

## Main facts

* `Controller.recalls_after`: what the controller remembers of a history.
* `Controller.settle_after`: how long a puller waits after a failure in any history.
-/

namespace PullSecrets

/-! ## Failures in a row -/

/-- The waiting times that are read from an environment fit 64 bits. -/
theorem Config.ofEnvironment_backoff_le (lookup : String → Option String) :
    (ofEnvironment lookup).leastBackoff ≤ maxSeconds ∧
      (ofEnvironment lookup).mostBackoff ≤ maxSeconds :=
  ⟨setting_le (by decide), setting_le (by decide)⟩

namespace Failures

/-- What is kept of a number of failures in a row. -/
structure Counts (config : Config) (k : Nat) (f : Failures) : Prop where
  count_eq : f.count = min k maxCount
  stage : f.backoff.Stage (max config.leastBackoff 1)
    (max config.mostBackoff (max config.leastBackoff 1)) k

variable {config : Config} {k : Nat} {f : Failures}

theorem counts_fresh (config : Config) :
    (fresh config.leastBackoff config.mostBackoff).Counts config 0 :=
  ⟨rfl, Backoff.stage_start _ _⟩

/-- The bounds of a configuration stay within 64 bits when they are put in order. -/
theorem most_le (fits : config.leastBackoff ≤ maxSeconds)
    (fits' : config.mostBackoff ≤ maxSeconds) :
    max config.mostBackoff (max config.leastBackoff 1) ≤ maxSeconds :=
  max_le fits' (max_le fits (by decide))

theorem Counts.next (h : f.Counts config k) (fits : config.leastBackoff ≤ maxSeconds)
    (fits' : config.mostBackoff ≤ maxSeconds) : f.next.2.Counts config (k + 1) where
  count_eq := by
    show min (f.count + 1) maxCount = min (k + 1) maxCount
    rw [h.count_eq]
    omega
  stage := h.stage.advance (Nat.le_max_right _ _) (most_le fits fits')

end Failures

/-! ## The memory of the controller -/

/-- The end of a reconcile: the name of the puller, and the result. -/
abbrev Ending := String × Except ReconcileError Action

/-- How often a puller has failed since its last success in a history. -/
def streak (name : String) : List Ending → Nat
  | [] => 0
  | (other, .ok _) :: earlier => if other = name then 0 else streak name earlier
  | (other, .error _) :: earlier =>
    if other = name then streak name earlier + 1 else streak name earlier

namespace Controller

variable {config : Config} {history : List Ending} {c : Controller}

/-- The controller after some ends, from the first one to the last. -/
def after (config : Config) (endings : List Ending) : Controller :=
  endings.foldl (fun c e => (c.settle config e.1 e.2).2) {}

/-- The failures of a puller that are remembered, none if there are none. -/
def recalled (config : Config) (c : Controller) (name : String) : Failures :=
  (c.failures.get? name).getD (.fresh config.leastBackoff config.mostBackoff)

/-- After a failure the next time of the puller's own sequence is waited for. -/
theorem fail_fst (config : Config) (c : Controller) (name : String) :
    (c.fail config name).1 = .requeue (c.recalled config name).backoff.delay := rfl

theorem get?_fail (config : Config) (c : Controller) (name : String) :
    (c.fail config name).2.failures.get? name = some (c.recalled config name).next.2 := by
  simp [fail, recalled]

/-- A failure is remembered. -/
theorem recalled_fail (config : Config) (c : Controller) (name other : String) :
    (c.fail config name).2.recalled config other =
      if other = name then (c.recalled config name).next.2 else c.recalled config other := by
  by_cases same : other = name
  · rw [same, if_pos rfl, recalled, get?_fail, Option.getD_some]
  · rw [if_neg same, recalled, get?_fail_of_ne config c same, ← recalled]

/-- After a success no failures are remembered. -/
theorem recalled_succeed (config : Config) (c : Controller) (name other : String) :
    (c.succeed name).recalled config other =
      if other = name then .fresh config.leastBackoff config.mostBackoff
      else c.recalled config other := by
  rw [recalled, get?_succeed]
  split
  next => rfl
  next => rfl

/-- The controller remembers of every puller how often it has failed since its last success. -/
def Recalls (config : Config) (history : List Ending) (c : Controller) : Prop :=
  ∀ name, (c.recalled config name).Counts config (streak name history)

/-- One more end is remembered. -/
theorem Recalls.settle (h : Recalls config history c) (fits : config.leastBackoff ≤ maxSeconds)
    (fits' : config.mostBackoff ≤ maxSeconds) (ending : Ending) :
    Recalls config (ending :: history) (c.settle config ending.1 ending.2).2 := by
  obtain ⟨name, result⟩ := ending
  intro other
  cases result with
  | ok action =>
    show ((c.succeed name).recalled config other).Counts config _
    rw [recalled_succeed, streak]
    by_cases same : other = name
    · rw [if_pos same, if_pos same.symm]
      exact Failures.counts_fresh config
    · rw [if_neg same, if_neg (Ne.symm same)]
      exact h other
  | error e =>
    show ((c.fail config name).2.recalled config other).Counts config _
    rw [recalled_fail, streak]
    by_cases same : other = name
    · subst same
      rw [if_pos rfl, if_pos rfl]
      exact (h other).next fits fits'
    · rw [if_neg same, if_neg (Ne.symm same)]
      exact h other

/-- After any ends the controller remembers what it needs of their history. -/
theorem recalls_after (fits : config.leastBackoff ≤ maxSeconds)
    (fits' : config.mostBackoff ≤ maxSeconds) (endings : List Ending) :
    Recalls config endings.reverse (after config endings) := by
  -- The induction takes the last end off.
  induction endings using List.reverseRecOn with
  | nil => exact fun _ => Failures.counts_fresh config
  | append_singleton earlier ending ih =>
    rw [after, List.foldl_append, List.reverse_append]
    exact ih.settle fits fits' ending

/-- The end of another puller's reconcile makes no difference. -/
theorem get?_settle_of_ne (config : Config) (c : Controller) {name other : String}
    (differ : other ≠ name) (result : Except ReconcileError Action) :
    (c.settle config name result).2.failures.get? other = c.failures.get? other := by
  cases result with
  | ok action => rw [settle, get?_succeed, if_neg differ]
  | error e => exact get?_fail_of_ne config c differ

/-- What an end leads to is up to what is remembered about the puller. -/
theorem settle_congr {c d : Controller} {name : String}
    (same : c.failures.get? name = d.failures.get? name) (result : Except ReconcileError Action) :
    (c.settle config name result).1 = (d.settle config name result).1 ∧
      (c.settle config name result).2.failures.get? name =
        (d.settle config name result).2.failures.get? name := by
  cases result with
  | ok action => simp [settle]
  | error e =>
    have recalled : c.recalled config name = d.recalled config name := by
      rw [Controller.recalled, same, ← Controller.recalled]
    rw [settle, settle, fail_fst, fail_fst, get?_fail, get?_fail, recalled]
    exact ⟨rfl, rfl⟩

/-- What is remembered about a puller is up to its own ends. -/
theorem get?_after_filter (config : Config) (endings : List Ending) (name : String) :
    (after config (endings.filter fun e => e.1 = name)).failures.get? name =
      (after config endings).failures.get? name := by
  induction endings using List.reverseRecOn with
  | nil => rfl
  | append_singleton earlier ending ih =>
    rw [List.filter_append, after, after, List.foldl_append, List.foldl_append, ← after, ← after]
    by_cases own : ending.1 = name
    · rw [List.filter_cons_of_pos (by simpa using own)]
      subst own
      exact (settle_congr ih ending.2).2
    · rw [List.filter_cons_of_neg (by simpa using own), List.filter_nil, List.foldl_nil, ih]
      exact (get?_settle_of_ne config _ (Ne.symm own) ending.2).symm

/-- The waiting time after a failure, in any history of ends of reconciles: the Fibonacci number of
the failures in a row, this one included, times the shortest time, up to the longest time. The
failures are counted up to 32 bits. Ends of other pullers make no difference. -/
theorem settle_after (fits : config.leastBackoff ≤ maxSeconds)
    (fits' : config.mostBackoff ≤ maxSeconds) (endings : List Ending) (name : String)
    (error : ReconcileError) :
    let k := streak name ((name, .error error) :: endings.reverse)
    let least := max config.leastBackoff 1
    let most := max config.mostBackoff least
    let answer := (after config endings).settle config name (.error error)
    let alone := (after config (endings.filter fun e => e.1 = name)).settle config name
      (.error error)
    answer.1 = .requeue (min most (least * Nat.fib k)) ∧
      (answer.2.failures.get? name).map (·.count) = some (min k (2 ^ 32 - 1)) ∧
      alone.1 = answer.1 ∧ alone.2.failures.get? name = answer.2.failures.get? name := by
  intro k least most answer alone
  have recalled := recalls_after fits fits' endings name
  have failures : k = streak name endings.reverse + 1 := if_pos rfl
  have own := get?_after_filter config endings name
  refine ⟨?_, ?_, settle_congr own _⟩
  · have waits := recalled.stage.delay_eq (Failures.most_le fits fits')
    rw [failures, ← waits]
    exact fail_fst config _ name
  · have counts := (recalled.next fits fits').count_eq
    show (((after config endings).fail config name).2.failures.get? name).map _ = _
    rw [get?_fail, Option.map_some, counts, failures]
    rfl

/-- Two failures in a row are forgotten after a success, and the other puller does not count: the
next failure is the third one. -/
theorem settle_after_sample :
    let down : ReconcileError := .store (.transport "down")
    let failed (name : String) : Ending := (name, .error down)
    let endings := [failed "creds1", failed "creds1", ("creds1", .ok .awaitChange),
      failed "creds1", failed "creds2", failed "creds1", failed "creds2"]
    let answer := (after {} endings).settle {} "creds1" (.error down)
    answer.1 = .requeue 10 ∧ (answer.2.failures.get? "creds1").map (·.count) = some 3 := by
  intro down failed endings answer
  have failures : streak "creds1" (failed "creds1" :: endings.reverse) = 3 := by decide
  have fits : ({} : Config).leastBackoff ≤ maxSeconds := by decide
  obtain ⟨waits, count, -⟩ := settle_after fits (by decide) endings "creds1" down
  rw [failures] at waits count
  exact ⟨waits, count⟩

end Controller

end PullSecrets
