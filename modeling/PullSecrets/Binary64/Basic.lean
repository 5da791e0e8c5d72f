/-!
# Finite floating-point numbers

The finite numbers of the binary format with 64 bits: a sign and a magnitude. A magnitude is the
place of the number in the ascending order of the non-negative finite numbers, which is also its
bit pattern; `significand` and `exponent` give its value. Arithmetic is exact on naturals and
rounded once, to the nearest number and a tie to the even one.
-/

namespace PullSecrets

/-- A finite floating-point number: its sign and its magnitude. -/
structure Binary64 where
  /-- Whether the sign bit is set. -/
  negative : Bool
  /-- The place among the non-negative finite numbers. -/
  magnitude : Nat
  deriving DecidableEq, Inhabited

namespace Binary64

/-- The first magnitude that is not finite. -/
def limit : Nat := 2047 * Nat.pow 2 52

/-- The integer that stands before the power of two in the value of a magnitude. -/
def significand (m : Nat) : Nat :=
  if m < Nat.pow 2 52 then m else Nat.pow 2 52 + m % Nat.pow 2 52

/-- The power of two in the value of a magnitude: its value is
`significand m * 2 ^ (exponent m)`. -/
def exponent (m : Nat) : Int :=
  if m < Nat.pow 2 52 then -1074 else (m / Nat.pow 2 52 : Nat) - 1075

/-- The integer nearest to `a / b`; a tie goes to the even one. -/
def roundDiv (a b : Nat) : Nat :=
  let q := a / b
  let r := a % b
  if b < 2 * r ∨ (2 * r = b ∧ q % 2 = 1) then q + 1 else q

/-- The magnitude nearest to `a / b`, or `none` if it is not finite. -/
def ofRatio (a b : Nat) : Option Nat :=
  if a = 0 then some 0
  else
    let k : Int := (a.log2 : Int) - b.log2
    let fits : Bool := if 0 ≤ k then b * Nat.pow 2 k.toNat ≤ a else b ≤ a * Nat.pow 2 (-k).toNat
    let e : Int := max (if fits then k - 52 else k - 53) (-1074)
    let q :=
      if 0 ≤ e then roundDiv a (b * Nat.pow 2 e.toNat) else roundDiv (a * Nat.pow 2 (-e).toNat) b
    let m := (e + 1074).toNat * Nat.pow 2 52 + q
    if m < limit then some m else none

/-- The magnitude nearest to a natural number. -/
def ofNat (n : Nat) : Option Nat := ofRatio n 1

/-- The value of a magnitude as a fraction. -/
def fraction (m : Nat) : Nat × Nat :=
  let e := exponent m
  if 0 ≤ e then (significand m * Nat.pow 2 e.toNat, 1) else (significand m, Nat.pow 2 (-e).toNat)

/-- The rounded product of two magnitudes, if it is finite. -/
def mul (x y : Nat) : Option Nat :=
  ofRatio ((fraction x).1 * (fraction y).1) ((fraction x).2 * (fraction y).2)

/-- The rounded quotient of two magnitudes, if it is finite. -/
def div (x y : Nat) : Option Nat :=
  ofRatio ((fraction x).1 * (fraction y).2) ((fraction x).2 * (fraction y).1)

/-- The number nearest to `10 ^ n`. -/
def powerOfTen (n : Nat) : Option Nat := ofRatio (Nat.pow 10 n) 1

end Binary64

end PullSecrets
