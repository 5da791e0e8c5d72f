/-!
# Decimal numbers

Natural numbers in decimal digits: a reader with an upper limit, for settings and for options,
and a writer that fills up with zeros on the left.

## Main facts

* `read_le`: a number that is read never exceeds the limit.
-/

namespace PullSecrets.Text.Decimal

/-- The value of a non-empty run of the digits `0` to `9`. -/
def digits? (cs : List Char) : Option Nat :=
  if !cs.isEmpty && cs.all Char.isDigit then some (Nat.ofDigitChars 10 cs 0) else none

/-- A number of at most `limit`, with an optional plus sign in front. -/
def read (limit : Nat) (s : String) : Option Nat :=
  let number := match s.toList with
    | '+' :: cs => digits? cs
    | cs => digits? cs
  number.filter (· ≤ limit)

/-- The decimal digits of `n`, filled up with zeros to at least `width` of them. -/
def padded (width n : Nat) : String :=
  let cs := Nat.toDigits 10 n
  String.ofList (List.replicate (width - cs.length) '0' ++ cs)

/-- A number that is read never exceeds the limit. -/
theorem read_le {limit n : Nat} {s : String} (h : read limit s = some n) : n ≤ limit := by
  simp only [read, Option.filter_eq_some_iff, decide_eq_true_eq] at h
  exact h.2

/-- Zeros in front do not change the number that is read back. -/
theorem ofDigitChars_padded (width n : Nat) :
    Nat.ofDigitChars 10 (padded width n).toList 0 = n := by
  simp [padded, Nat.ofDigitChars_append, Nat.ofDigitChars_replicate_zero,
    Nat.ofDigitChars_ten_toDigits]

/-- Different numbers are written differently. -/
theorem padded_inj {width m n : Nat} (h : padded width m = padded width n) : m = n := by
  rw [← ofDigitChars_padded width m, ← ofDigitChars_padded width n, h]

end PullSecrets.Text.Decimal
