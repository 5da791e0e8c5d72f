import PullSecrets.Binary64.Basic

/-!
# The shortest decimal text of a floating-point number

A number is written with the fewest significant digits that still read back as it, and among
those with the digits nearest to it. The digits are found by trying one, two, three digits and so
on: on each decimal grid the two neighbours of the number are the only candidates.
-/

namespace PullSecrets.Binary64

/-- Decimal digits: the number is `digits * 10 ^ scale`. -/
structure Digits where
  /-- The significant digits, as one number. -/
  digits : Nat
  /-- The power of ten. -/
  scale : Int
  deriving DecidableEq, Inhabited

/-- The magnitude that decimal digits are rounded to. -/
def Digits.magnitude (d : Digits) : Option Nat :=
  if 0 ≤ d.scale then ofRatio (d.digits * Nat.pow 10 d.scale.toNat) 1
  else ofRatio d.digits (Nat.pow 10 (-d.scale).toNat)

/-- The largest `k` with `10 ^ k ≤ a / b`, for a positive fraction. -/
def decade (a b : Nat) : Int :=
  let guess : Int := (Nat.toDigits 10 a).length - (Nat.toDigits 10 b).length
  let fits : Bool :=
    if 0 ≤ guess then b * Nat.pow 10 guess.toNat ≤ a else b ≤ a * Nat.pow 10 (-guess).toNat
  if fits then guess else guess - 1

/-- The two neighbours of `a / b` among the multiples of `10 ^ scale`, the nearer one first and
on a tie the even one. -/
def candidates (a b : Nat) (scale : Int) : List Digits :=
  let (n, d) :=
    if 0 ≤ scale then (a, b * Nat.pow 10 scale.toNat) else (a * Nat.pow 10 (-scale).toNat, b)
  let low := n / d
  if roundDiv n d = low then [⟨low, scale⟩, ⟨low + 1, scale⟩]
  else [⟨low + 1, scale⟩, ⟨low, scale⟩]

/-- The fewest digits that read back as the positive magnitude `m`. Rounding up to the next power
of ten leaves a zero at the end, which moves into the scale. -/
def shortest (m : Nat) : Digits :=
  let (a, b) := fraction m
  let top := decade a b
  let grids := (List.range 17).map fun (n : Nat) => candidates a b (top - n)
  let best := (grids.flatten.find? fun d => d.magnitude == some m).getD ⟨0, 0⟩
  if best.digits % 10 = 0 then ⟨best.digits / 10, best.scale + 1⟩ else best

end PullSecrets.Binary64
