import Mathlib.Algebra.BigOperators.Intervals
import Mathlib.Data.ENat.Lattice
import Mathlib.Order.CompletePartialOrder
import PullSecrets.Metrics.Counters
import PullSecrets.Proofs.Leads

/-!
# How often a change is attempted

A change is attempted until it ends without a conflict, or until the budget of attempts is spent.
Which state an attempt starts from is settled by the attempts before it: whatever has become of
them, and what is noted between two attempts. So a change has a sequence of outcomes, which goes on
without end, and attempting it runs along this sequence as far as it has to.

## Main facts

* `Program.Tried`, `Program.tried_retryFrom`: what a run of attempts does, up to its last one.
* `Program.numbered_eq`: attempts that are numbered by 32 bits.
* `Program.retry_outcomes`: how many attempts there are, and what is counted.
-/

namespace PullSecrets

/-! ## Sequences -/

/-- The length of the longest prefix of a sequence that has a property throughout. -/
noncomputable def prefixLength (p : Nat → Prop) : ℕ∞ := sSup {n | ∀ i : Nat, i < n → p i}

/-- A place is within the longest prefix if the property holds up to there. -/
theorem coe_lt_prefixLength_iff {p : Nat → Prop} {i : Nat} :
    (i : ℕ∞) < prefixLength p ↔ ∀ j ≤ i, p j := by
  rw [prefixLength, lt_sSup_iff]
  constructor
  · rintro ⟨n, holds, within⟩ j before
    exact holds j ((Nat.cast_le.2 before).trans_lt within)
  · intro holds
    refine ⟨(i + 1 : Nat), fun j within => holds j ?_, Nat.cast_lt.2 (Nat.lt_succ_self i)⟩
    exact Nat.le_of_lt_succ (Nat.cast_lt.1 within)

/-- The longest prefix ends where the property fails for the first time. -/
theorem prefixLength_eq {p : Nat → Prop} {i : Nat} (holds : ∀ j < i, p j) (fails : ¬ p i) :
    prefixLength p = i := by
  apply le_antisymm
  · refine not_lt.1 fun longer => fails ?_
    exact coe_lt_prefixLength_iff.1 longer i le_rfl
  · exact le_sSup fun j within => holds j (Nat.cast_lt.1 within)

/-- What goes on while a property holds, up to a bound, stops one step after the longest prefix, or
at the bound. -/
theorem succ_eq_min_prefixLength {p : Nat → Prop} {last bound : Nat} (holds : ∀ j < last, p j)
    (le_bound : last ≤ bound) (spent : p last → last = bound) :
    ((last + 1 : Nat) : ℕ∞) = min (prefixLength p + 1) (bound + 1 : Nat) := by
  by_cases more : p last
  · -- The property holds up to the bound, so the prefix is longer than that.
    have longer : (last : ℕ∞) < prefixLength p := by
      refine coe_lt_prefixLength_iff.2 fun j le => ?_
      rcases Nat.eq_or_lt_of_le le with rfl | before
      · exact more
      · exact holds j before
    rw [← spent more, min_eq_right]
    exact add_le_add_left longer.le 1
  · rw [prefixLength_eq holds more, min_eq_left]
    · rfl
    · exact Nat.cast_le.2 (Nat.succ_le_succ le_bound)

/-! ## Notes -/

/-- The counters after some notes. -/
def Counters.recordAll (notes : List Note) (c : Counters) : Counters :=
  notes.foldl (fun c n => c.record n) c

/-- Attempts that follow a conflict are counted one by one. -/
theorem Counters.conflictRetries_recordAll (notes : List Note) (c : Counters) :
    (c.recordAll notes).conflictRetries = c.conflictRetries + notes.count .conflictRetried := by
  induction notes generalizing c with
  | nil => rfl
  | cons n notes ih =>
    rw [recordAll, List.foldl_cons, ← recordAll, ih, List.count_cons]
    cases n <;> simp [record, Nat.add_assoc, Nat.add_comm 1]

namespace Program

variable {σ ε δ α β : Type}

/-- The notes of a run. -/
def notes (h : Handler σ) : Program ε α → σ → List Note
  | done _, _ => []
  | fail _, _ => []
  | call c next, x => (next (h.call c x).1).notes h (h.call c x).2
  | clock next, x => (next (h.clock x).1).notes h (h.clock x).2
  | note n next, x => n :: (next ()).notes h (h.note n x)

section Notes

variable {h : Handler σ} {x : σ}

/-- The notes of two programs one after the other. -/
theorem notes_bind (p : Program ε α) (f : α → Program ε β) :
    (p >>= f).notes h x = p.notes h x ++
      match p.run h x with
      | (.ok a, y) => (f a).notes h y
      | (.error _, _) => [] := by
  rw [bind_eq]
  induction p generalizing x with
  | done a => rfl
  | fail e => rfl
  | call c next ih => exact ih _
  | clock next ih => exact ih _
  | note n next ih => exact congrArg (n :: ·) (ih _)

theorem notes_attempt (p : Program ε α) :
    (p.attempt : Program δ (Except ε α)).notes h x = p.notes h x := by
  induction p generalizing x with
  | done a => rfl
  | fail e => rfl
  | call c next ih => exact ih _
  | clock next ih => exact ih _
  | note n next ih => exact congrArg (n :: ·) (ih _)

end Notes

/-! ## One attempt after the other -/

/-- Whether a result is a conflict. -/
def clashes : Except StoreError α → Bool
  | .ok _ => false
  | .error e => e.isConflict

/-- What comes between two attempts: a note, and a pause if it takes any time. -/
def again (pause : Nat) : Program StoreError Unit := do
  leave .conflictRetried
  wait pause

/-- An attempt that is not the last one, and what follows it. -/
theorem retryFrom_succ (pause : Nat) (change : Nat → Program StoreError α) (i retries : Nat) :
    retryFrom pause change i (retries + 1) = (change i).attempt >>= fun r =>
      if clashes r then again pause >>= fun _ => retryFrom pause change (i + 1) retries
      else ofExcept r := by
  rw [retryFrom]
  refine congrArg _ (funext fun r => ?_)
  cases r with
  | ok a => rfl
  | error e =>
    simp only [clashes, again]
    rfl

section Attempts

variable (h : Handler σ) (pause : Nat) (change : Nat → Program StoreError α) (x : σ)

/-- The state from which an attempt starts, after all the attempts before it. -/
def start : Nat → σ
  | 0 => x
  | i + 1 => ((again pause).run h ((change i).run h (start i)).2).2

/-- The result of an attempt, after all the attempts before it. -/
def outcome (i : Nat) : Except StoreError α := ((change i).run h (start h pause change x i)).1

/-- The notes about attempts that an attempt leaves by itself. -/
def ownRetries (i : Nat) : Nat :=
  ((change i).notes h (start h pause change x i)).count .conflictRetried

/-- A program makes the attempts from one number to another, and it ends like the last one of them.
Each of them but the last was a conflict, and so was the last one only if there may be no more. -/
structure Tried (p : Program StoreError α) (i last bound : Nat) : Prop where
  first_le : i ≤ last
  le_bound : last ≤ bound
  followed : ∀ j, i ≤ j → j < last → clashes (outcome h pause change x j) = true
  spent : clashes (outcome h pause change x last) = true → last = bound
  run_eq : p.run h (start h pause change x i) = (change last).run h (start h pause change x last)
  calls_eq : p.calls h (start h pause change x i) =
    (List.range' i (last + 1 - i)).flatMap fun j => (change j).calls h (start h pause change x j)
  retries_eq : (p.notes h (start h pause change x i)).count .conflictRetried =
    last - i + ∑ j ∈ Finset.Ico i (last + 1), ownRetries h pause change x j

variable {h pause change x} {p : Program StoreError α} {i last bound retries : Nat}

/-- A single attempt, after which there is no other one. -/
theorem Tried.once (le : i ≤ bound)
    (done : clashes (outcome h pause change x i) = true → i = bound)
    (run_eq : p.run h (start h pause change x i) = (change i).run h (start h pause change x i))
    (calls_eq : p.calls h (start h pause change x i) =
      (change i).calls h (start h pause change x i))
    (notes_eq : p.notes h (start h pause change x i) =
      (change i).notes h (start h pause change x i)) :
    Tried h pause change x p i i bound where
  first_le := le_rfl
  le_bound := le
  followed j from_i below := absurd from_i (Nat.not_le.2 below)
  spent := done
  run_eq := run_eq
  calls_eq := by
    rw [calls_eq, Nat.add_sub_cancel_left, List.range'_one, List.flatMap_singleton]
  retries_eq := by
    rw [notes_eq, Nat.sub_self, Nat.zero_add, Nat.Ico_succ_singleton, Finset.sum_singleton]
    rfl

/-- Between two attempts a conflict is counted, and no call is made. -/
theorem run_again (h : Handler σ) (pause : Nat) (x : σ) :
    ∃ y, (again pause).run h x = (.ok (), y) := by
  unfold again wait
  split
  · exact ⟨_, rfl⟩
  · exact ⟨_, rfl⟩

theorem calls_again (x : σ) : (again pause).calls h x = [] := by
  unfold again wait
  split <;> rfl

theorem count_notes_again (h : Handler σ) (pause : Nat) (x : σ) :
    ((again pause).notes h x).count .conflictRetried = 1 := by
  unfold again wait
  split <;> rfl

/-- What follows an attempt that is not the last one. -/
theorem run_retryFrom_succ (y : σ) :
    (retryFrom pause change i (retries + 1)).run h y =
      if clashes ((change i).run h y).1 then
        (retryFrom pause change (i + 1) retries).run h
          ((again pause).run h ((change i).run h y).2).2
      else (change i).run h y := by
  rw [retryFrom_succ, bind_eq, run_bind, run_attempt]
  dsimp only
  split
  next =>
    obtain ⟨z, ended⟩ := run_again h pause ((change i).run h y).2
    rw [bind_eq, run_bind, ended]
  next =>
    rcases (change i).run h y with ⟨e | a, z⟩
    · rfl
    · rfl

theorem calls_retryFrom_succ (y : σ) :
    (retryFrom pause change i (retries + 1)).calls h y =
      (change i).calls h y ++ if clashes ((change i).run h y).1 then
        (retryFrom pause change (i + 1) retries).calls h
          ((again pause).run h ((change i).run h y).2).2
      else [] := by
  rw [retryFrom_succ, calls_bind, calls_attempt, run_attempt]
  dsimp only
  split
  next =>
    obtain ⟨z, ended⟩ := run_again h pause ((change i).run h y).2
    rw [calls_bind, calls_again, ended, List.nil_append]
  next =>
    rcases (change i).run h y with ⟨e | a, z⟩
    · rfl
    · rfl

theorem notes_retryFrom_succ (y : σ) :
    (retryFrom pause change i (retries + 1)).notes h y =
      (change i).notes h y ++ if clashes ((change i).run h y).1 then
        (again pause).notes h ((change i).run h y).2 ++
          (retryFrom pause change (i + 1) retries).notes h
            ((again pause).run h ((change i).run h y).2).2
      else [] := by
  rw [retryFrom_succ, notes_bind, notes_attempt, run_attempt]
  dsimp only
  split
  next =>
    obtain ⟨z, ended⟩ := run_again h pause ((change i).run h y).2
    rw [notes_bind, ended]
  next =>
    rcases (change i).run h y with ⟨e | a, z⟩
    · rfl
    · rfl

/-- One more attempt in front, which was a conflict. -/
theorem Tried.cons
    (clash : clashes ((change i).run h (start h pause change x i)).1 = true)
    (rest : Tried h pause change x (retryFrom pause change (i + 1) retries) (i + 1) last bound) :
    Tried h pause change x (retryFrom pause change i (retries + 1)) i last bound where
  first_le := Nat.le_of_succ_le rest.first_le
  le_bound := rest.le_bound
  followed j from_i below := by
    rcases Nat.eq_or_lt_of_le from_i with rfl | later
    · exact clash
    · exact rest.followed j later below
  spent := rest.spent
  run_eq := by
    rw [run_retryFrom_succ, if_pos clash]
    exact rest.run_eq
  calls_eq := by
    have more : last + 1 - i = last + 1 - (i + 1) + 1 := by
      have := rest.first_le
      omega
    rw [calls_retryFrom_succ, if_pos clash, more, List.range'_succ, List.flatMap_cons]
    exact congrArg _ rest.calls_eq
  retries_eq := by
    have before : i < last + 1 := Nat.lt_succ_of_lt rest.first_le
    have one := count_notes_again h pause
      ((change i).run h (start h pause change x i)).2
    have later : ((retryFrom pause change (i + 1) retries).notes h
        ((again pause).run h ((change i).run h (start h pause change x i)).2).2).count
          .conflictRetried = _ := rest.retries_eq
    rw [notes_retryFrom_succ, if_pos clash, List.count_append, List.count_append, one, later,
      Finset.sum_eq_sum_Ico_succ_bot before, ownRetries]
    have := rest.first_le
    omega

/-- Attempts up to a bound are made until one of them is no conflict. -/
theorem tried_retryFrom (h : Handler σ) (pause : Nat) (change : Nat → Program StoreError α) (x : σ)
    (i retries : Nat) :
    ∃ last, Tried h pause change x (retryFrom pause change i retries) i last (i + retries) := by
  -- The induction is on the attempts that are left after the next one.
  induction retries generalizing i with
  | zero => exact ⟨i, .once le_rfl (fun _ => rfl) rfl rfl rfl⟩
  | succ retries ih =>
    by_cases clash : clashes ((change i).run h (start h pause change x i)).1 = true
    · obtain ⟨last, rest⟩ := ih (i + 1)
      rw [Nat.add_right_comm] at rest
      exact ⟨last, rest.cons clash⟩
    · refine ⟨i, .once (Nat.le_add_right _ _) (fun again => absurd again clash) ?_ ?_ ?_⟩
      · rw [run_retryFrom_succ, if_neg clash]
      · rw [calls_retryFrom_succ, if_neg clash, List.append_nil]
      · rw [notes_retryFrom_succ, if_neg clash, List.append_nil]

end Attempts

/-! ## Attempts with a number -/

/-- A number below another one of 32 bits is not the largest of them. -/
theorem toNat_succ_of_lt {number attempts : UInt32} (below : number < attempts) :
    (number + 1).toNat = number.toNat + 1 := by
  have below : number.toNat < attempts.toNat := UInt32.lt_iff_toNat_lt.1 below
  have := attempts.toNat_lt
  rw [UInt32.toNat_add, UInt32.toNat_one]
  exact Nat.mod_eq_of_lt (by omega)

theorem toNat_max (a b : UInt32) : (max a b).toNat = max a.toNat b.toNat := by
  show (if a ≤ b then b else a).toNat = _
  split
  next le => exact (Nat.max_eq_right (UInt32.le_iff_toNat_le.1 le)).symm
  next not_le =>
    rw [UInt32.le_iff_toNat_le, Nat.not_le] at not_le
    exact (Nat.max_eq_left not_le.le).symm

/-- Attempt a change from the attempt of a number on. The attempts are numbered from one on, by
numbers of 32 bits. -/
def numbered (pause : Nat) (attempts : UInt32) (change : Nat → Program StoreError α)
    (number : UInt32) : Program StoreError α := do
  match ← (change (number.toNat - 1)).attempt with
  | .ok a => pure a
  | .error e =>
    if _ : e.isConflict ∧ number < attempts then
      leave .conflictRetried
      wait pause
      numbered pause attempts change (number + 1)
    else fail e
termination_by attempts.toNat - number.toNat
decreasing_by
  next more =>
    have := UInt32.lt_iff_toNat_lt.1 more.2
    rw [toNat_succ_of_lt more.2]
    omega

/-- An attempt with a number, and what follows it. -/
theorem numbered_eq_bind (pause : Nat) (attempts : UInt32)
    (change : Nat → Program StoreError α) (number : UInt32) :
    numbered pause attempts change number = (change (number.toNat - 1)).attempt >>= fun r =>
      if clashes r = true ∧ number < attempts then
        again pause >>= fun _ => numbered pause attempts change (number + 1)
      else ofExcept r := by
  rw [numbered]
  refine congrArg _ (funext fun r => ?_)
  cases r with
  | ok a =>
    simp only [clashes, Bool.false_eq_true, false_and, if_false]
    rfl
  | error e =>
    simp only [clashes, again, dite_eq_ite]
    rfl

/-- What is taken as a value may be taken as a failure again. -/
theorem attempt_bind_ofExcept (p : Program ε α) : (p.attempt >>= ofExcept : Program ε α) = p := by
  rw [bind_eq]
  induction p with
  | done a => rfl
  | fail e => rfl
  | call c next ih => exact congrArg (call c) (funext ih)
  | clock next ih => exact congrArg clock (funext ih)
  | note n next ih => exact congrArg (note n) (funext ih)

/-- The number of an attempt stays within the budget, so it makes no difference that it has 32
bits. -/
theorem numbered_eq (pause : Nat) {attempts number : UInt32} (change : Nat → Program StoreError α)
    (first : 1 ≤ number.toNat) (within : number.toNat ≤ attempts.toNat) :
    numbered pause attempts change number =
      retryFrom pause change (number.toNat - 1) (attempts.toNat - number.toNat) := by
  -- The induction is on the attempts that are left after the next one.
  induction left : attempts.toNat - number.toNat generalizing number with
  | zero =>
    have no_more : ¬ number < attempts := by
      rw [UInt32.lt_iff_toNat_lt]
      omega
    rw [numbered_eq_bind]
    simp only [no_more, and_false, if_false]
    exact attempt_bind_ofExcept _
  | succ retries ih =>
    have more : number < attempts := by
      rw [UInt32.lt_iff_toNat_lt]
      omega
    have next := toNat_succ_of_lt more
    have index : (number + 1).toNat - 1 = number.toNat - 1 + 1 := by omega
    rw [numbered_eq_bind, retryFrom_succ, ih (by omega) (by omega) (by omega), index]
    simp only [more, and_true]

/-- Every sequence is one of outcomes. -/
theorem outcome_ofExcept {h : Handler σ} {pause : Nat} {x : σ}
    (f : Nat → Except StoreError α) (i : Nat) :
    outcome h pause (fun i => ofExcept (f i)) x i = f i := by
  show ((ofExcept (f i)).run h _).1 = f i
  cases f i <;> rfl

/-- How often a change is attempted, in any surroundings. With the outcomes that it has, as many
attempts are made as there are conflicts in front, and one more, up to the budget. The last attempt
is the end of all: its outcome is the result, and it is the only one that may be no conflict. Every
attempt but the last is counted. The number of an attempt never exceeds 32 bits if the budget does
not. -/
theorem retry_outcomes (h : Handler σ) (policy : RetryPolicy)
    (change : Nat → Program StoreError α) (x : σ) :
    let start := start h policy.pause change x
    let outcome := outcome h policy.pause change x
    let retried := retry policy change
    (∃ last : Nat, ((last + 1 : Nat) : ℕ∞) =
        min (prefixLength (fun i => clashes (outcome i) = true) + 1) (max policy.attempts 1 : Nat) ∧
      (retried.run h x).1 = outcome last ∧
      retried.run h x = (change last).run h (start last) ∧
      (retried.calls h x = (List.range (last + 1)).flatMap fun i => (change i).calls h (start i)) ∧
      (∀ counters : Counters, (counters.recordAll (retried.notes h x)).conflictRetries =
        counters.conflictRetries +
          (last + ∑ i ∈ Finset.range (last + 1), ownRetries h policy.pause change x i)) ∧
      (∀ i < last, clashes (outcome i) = true) ∧
      (clashes (outcome last) = true → last + 1 = max policy.attempts 1)) ∧
    ∀ attempts : UInt32, numbered policy.pause (max attempts 1) change 1 =
      retry { policy with attempts := attempts.toNat } change := by
  intro start outcome retried
  obtain ⟨last, tried⟩ := tried_retryFrom h policy.pause change x 0 (policy.attempts - 1)
  have budget : max policy.attempts 1 = 0 + (policy.attempts - 1) + 1 := by omega
  rw [budget]
  refine ⟨⟨last, ?_, ?_, tried.run_eq, ?_, fun counters => ?_, fun i => tried.followed i i.zero_le,
    fun clash => congrArg Nat.succ (tried.spent clash)⟩, fun attempts => ?_⟩
  · exact succ_eq_min_prefixLength (fun j => tried.followed j j.zero_le) tried.le_bound tried.spent
  · exact congrArg Prod.fst tried.run_eq
  · rw [List.range_eq_range']
    exact tried.calls_eq
  · rw [Counters.conflictRetries_recordAll]
    refine congrArg _ (tried.retries_eq.trans ?_)
    rw [Nat.sub_zero, Finset.range_eq_Ico]
  · have most : (max attempts 1).toNat = max attempts.toNat 1 := toNat_max attempts 1
    have first : 1 ≤ (1 : UInt32).toNat := le_rfl
    have within : (1 : UInt32).toNat ≤ (max attempts 1).toNat := most ▸ Nat.le_max_right _ _
    have retries : (max attempts 1).toNat - (1 : UInt32).toNat = attempts.toNat - 1 := by
      rw [most, UInt32.toNat_one]
      omega
    rw [numbered_eq policy.pause change first within, retries]
    rfl

/-- A stale copy, then an object that is there already, then success, in surroundings that do not
matter. Of five attempts three are made; of two attempts both are made, and the second conflict is
the end; a budget of none is a budget of one. -/
theorem retry_outcomes_sample :
    let outcomes : Nat → Except StoreError String
      | 0 => .error (.conflict .secret "puller-config")
      | 1 => .error (.alreadyExists .secret "puller-config")
      | _ => .ok "written"
    let retried (attempts : Nat) := retry ⟨attempts, 10⟩ fun i => ofExcept (outcomes i)
    let results (attempts : Nat) := ((retried attempts).run Cluster.handler .empty).1
    results 5 = outcomes 2 ∧ results 2 = outcomes 1 ∧ results 0 = outcomes 0 := by
  intro outcomes retried results
  have ends : prefixLength (fun i => clashes (outcomes i) = true) = (2 : Nat) :=
    prefixLength_eq (by decide) (by decide)
  have result (attempts last : Nat) (made : last + 1 = min 3 (max attempts 1)) :
      results attempts = outcomes last := by
    obtain ⟨⟨last', count, ended, -⟩, -⟩ := retry_outcomes Cluster.handler ⟨attempts, 10⟩
      (fun i => ofExcept (outcomes i)) .empty
    simp only [outcome_ofExcept, ends] at count ended
    have same : last' + 1 = min (2 + 1) (max attempts 1) :=
      Nat.cast_injective (count.trans Nat.mono_cast.map_min.symm)
    obtain rfl : last' = last := by omega
    exact ended
  exact ⟨result 5 2 (by decide), result 2 1 (by decide), result 0 0 (by decide)⟩

end Program

end PullSecrets
