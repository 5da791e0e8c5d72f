import Mathlib.Data.Nat.Fib.Basic
import Mathlib.Tactic.NormNum.NatFib
import PullSecrets.Backoff

/-!
# Sequences of waiting times

A sequence of waiting times counts in Fibonacci numbers of 64 bits and stands still at the longest
time. So the numbers that it keeps are exact until the longest time is reached, and from then on
they do not matter. The ninety-fourth Fibonacci number is beyond 64 bits, so the longest time is
reached by then, whatever the two times are.

## Main facts

* `Backoff.Stage.advance`, `Backoff.Stage.delay_eq`: how far a sequence has come, and how long it
  waits.
* `Backoff.delays_start`: the waiting times of a fresh sequence.
-/

namespace PullSecrets

namespace Backoff

/-! ## How far a sequence has come -/

/-- A sequence between two times that has been advanced some times: its numbers are the Fibonacci
numbers, unless it waits for the longest time already. -/
structure Stage (least most k : Nat) (b : Backoff) : Prop where
  least_eq : b.least = least
  most_eq : b.most = most
  exact_or_full : (b.previous = Nat.fib k ∧ b.current = Nat.fib (k + 1)) ∨
    (most ≤ least * Nat.fib (k + 1) ∧ most ≤ b.current * least)

variable {least most k : Nat} {b : Backoff}

theorem stage_start (least most : Nat) :
    (start least most).Stage (max least 1) (max most (max least 1)) 0 :=
  ⟨rfl, rfl, .inl ⟨rfl, rfl⟩⟩

/-- The longest time fits, so a product that does not fit makes no difference. -/
theorem Stage.delay_eq_min (h : b.Stage least most k) (fits : most ≤ maxSeconds) :
    b.delay = min (b.current * least) most := by
  rw [delay, h.least_eq, h.most_eq, min_assoc, min_eq_right fits]

theorem Stage.delay_eq (h : b.Stage least most k) (fits : most ≤ maxSeconds) :
    b.delay = min most (least * Nat.fib (k + 1)) := by
  rw [h.delay_eq_min fits]
  rcases h.exact_or_full with ⟨-, exact⟩ | ⟨full, full'⟩
  · rw [exact, Nat.mul_comm, min_comm]
  · rw [min_eq_right full', min_eq_left full]

theorem Stage.advance (h : b.Stage least most k) (positive : 1 ≤ least) (fits : most ≤ maxSeconds) :
    b.advance.Stage least most (k + 1) := by
  have later : least * Nat.fib (k + 1) ≤ least * Nat.fib (k + 2) :=
    Nat.mul_le_mul_left least (Nat.fib_mono (Nat.le_succ _))
  have waits := h.delay_eq_min fits
  unfold Backoff.advance
  split
  next short =>
    rw [waits, h.most_eq] at short
    have below : b.current * least < most := by omega
    -- Only a sequence with exact numbers waits for less than the longest time.
    obtain ⟨previous, current⟩ := h.exact_or_full.resolve_right fun full => by omega
    refine ⟨h.least_eq, h.most_eq, ?_⟩
    have next : b.previous + b.current = Nat.fib (k + 2) := by
      rw [previous, current, Nat.fib_add_two]
    show (b.current = _ ∧ min (b.previous + b.current) maxSeconds = _) ∨
      (_ ∧ most ≤ min (b.previous + b.current) maxSeconds * least)
    rw [next]
    rcases Nat.le_total (Nat.fib (k + 2)) maxSeconds with small | large
    · exact .inl ⟨current, min_eq_left small⟩
    · right
      have enough : maxSeconds ≤ maxSeconds * least := Nat.le_mul_of_pos_right _ positive
      rw [min_eq_right large]
      refine ⟨?_, fits.trans enough⟩
      calc most ≤ maxSeconds * least := fits.trans enough
        _ ≤ Nat.fib (k + 2) * least := Nat.mul_le_mul_right least large
        _ = least * Nat.fib (k + 1 + 1) := Nat.mul_comm _ _
  next long =>
    rw [waits, h.most_eq] at long
    have above : most ≤ b.current * least := by omega
    refine ⟨h.least_eq, h.most_eq, .inr ⟨?_, above⟩⟩
    rcases h.exact_or_full with ⟨-, current⟩ | ⟨full, -⟩
    · rw [current, Nat.mul_comm] at above
      exact above.trans later
    · exact full.trans later

/-! ## The times one after the other -/

/-- The waiting times from any stage on. -/
theorem Stage.delays_eq (h : b.Stage least most k) (positive : 1 ≤ least)
    (fits : most ≤ maxSeconds) (count : Nat) :
    b.delays count = (List.range' k count).map fun i => min most (least * Nat.fib (i + 1)) := by
  induction count generalizing b k with
  | zero => rfl
  | succ count ih =>
    rw [delays, h.delay_eq fits, ih (h.advance positive fits), List.range'_succ, List.map_cons]

/-- The numbers that a sequence keeps fit 64 bits. -/
structure Fits (b : Backoff) : Prop where
  least : b.least ≤ maxSeconds
  most : b.most ≤ maxSeconds
  previous : b.previous ≤ maxSeconds
  current : b.current ≤ maxSeconds

theorem Fits.advance (h : b.Fits) : b.advance.Fits := by
  unfold Backoff.advance
  split
  · exact ⟨h.least, h.most, h.current, Nat.min_le_right _ _⟩
  · exact h

theorem Fits.iterate_advance (h : b.Fits) (k : Nat) : (Backoff.advance^[k] b).Fits := by
  induction k with
  | zero => exact h
  | succ k ih =>
    rw [Function.iterate_succ_apply']
    exact ih.advance

/-- Two times of 64 bits are put in order within 64 bits. -/
theorem fits_start (least most : UInt64) : (start least.toNat most.toNat).Fits := by
  have few (t : UInt64) : t.toNat ≤ maxSeconds := Nat.le_sub_one_of_lt t.toNat_lt
  have least_le : max least.toNat 1 ≤ maxSeconds := max_le (few least) (by decide)
  have one_le : 1 ≤ maxSeconds := by decide
  exact ⟨least_le, max_le (few most) least_le, Nat.zero_le _, one_le⟩

/-- From the ninety-fourth on, the Fibonacci numbers are beyond 64 bits. -/
theorem maxSeconds_lt_fib {k : Nat} (late : 94 ≤ k) : maxSeconds < Nat.fib k := by
  have first : maxSeconds < Nat.fib 94 := by norm_num [maxSeconds, UInt64.size]
  exact first.trans_le (Nat.fib_mono late)

/-- The waiting times of a fresh sequence between two times of 64 bits, which are put in order: the
Fibonacci numbers times the shortest time, up to the longest time. They never become shorter, and
they are the longest time after ninety-three others at the latest. The numbers that are kept along
the way fit 64 bits. -/
theorem delays_start (least most : UInt64) :
    let b : Backoff := start least.toNat most.toNat
    let m := max least.toNat 1
    let M := max most.toNat m
    (∀ count, b.delays count = (List.range count).map fun k => min M (m * Nat.fib (k + 1))) ∧
    (∀ count, (b.delays count).Pairwise (· ≤ ·)) ∧
    (∀ count, ∀ t ∈ b.delays count, m ≤ t ∧ t ≤ M) ∧
    (∀ count, (b.delays count).drop 93 = List.replicate (count - 93) M) ∧
    ∀ k, (Backoff.advance^[k] b).Fits := by
  intro b m M
  have fits : b.Fits := fits_start least most
  have positive : 1 ≤ m := Nat.le_max_right _ _
  have times (count : Nat) :
      b.delays count = (List.range count).map fun k => min M (m * Nat.fib (k + 1)) := by
    rw [List.range_eq_range']
    exact (stage_start _ _).delays_eq positive fits.most count
  have grows {i j : Nat} (before : i ≤ j) :
      min M (m * Nat.fib (i + 1)) ≤ min M (m * Nat.fib (j + 1)) :=
    min_le_min_left M (Nat.mul_le_mul_left m (Nat.fib_mono (Nat.succ_le_succ before)))
  have full {k : Nat} (late : 93 ≤ k) : min M (m * Nat.fib (k + 1)) = M := by
    refine min_eq_left ?_
    calc M ≤ maxSeconds := fits.most
      _ ≤ Nat.fib (k + 1) := (maxSeconds_lt_fib (Nat.succ_le_succ late)).le
      _ ≤ m * Nat.fib (k + 1) := Nat.le_mul_of_pos_left _ positive
  refine ⟨times, fun count => ?_, fun count t ht => ?_, fun count => ?_, fits.iterate_advance⟩
  · rw [times, List.pairwise_map]
    exact List.pairwise_lt_range.imp fun before => grows before.le
  · rw [times, List.mem_map] at ht
    obtain ⟨k, -, rfl⟩ := ht
    refine ⟨?_, min_le_left _ _⟩
    calc m = min M (m * Nat.fib 1) := by simp [M]
      _ ≤ min M (m * Nat.fib (k + 1)) := grows (Nat.zero_le k)
  · rw [times, List.eq_replicate_iff, List.length_drop, List.length_map, List.length_range]
    refine ⟨rfl, fun t ht => ?_⟩
    rw [← List.map_drop, List.mem_map] at ht
    obtain ⟨k, hk, rfl⟩ := ht
    rw [List.range_eq_range', List.drop_range', List.mem_range'_1] at hk
    exact full (by omega)

/-- Half of the largest time and the largest time: twice the shortest time does not fit any more,
and the third time is the longest one. -/
theorem delays_start_half :
    let least : UInt64 := 0x8000000000000000
    let most : UInt64 := 0xFFFFFFFFFFFFFFFF
    let b : Backoff := start least.toNat most.toNat
    b.delays 4 = [2 ^ 63, 2 ^ 63, 2 ^ 64 - 1, 2 ^ 64 - 1] ∧
      least.toNat ≤ 2 ^ 64 - 1 ∧ (Backoff.advance^[3] b).Fits := by
  intro least most b
  obtain ⟨times, -, within, -, fits⟩ := delays_start least most
  have four : b.delays 4 = [2 ^ 63, 2 ^ 63, 2 ^ 64 - 1, 2 ^ 64 - 1] :=
    (times 4).trans (by decide +kernel)
  have last : 2 ^ 64 - 1 ∈ b.delays 4 := by
    rw [four]
    decide
  exact ⟨four, (within 4 _ last).1, fits 3⟩

end Backoff

end PullSecrets
