import PullSecrets.Binary64.Basic
import PullSecrets.Json.Basic

/-!
# Numerals

The spelling of numbers in a JSON text, and the number that a numeral stands for.

An integer that fits 64 bits is exact. Any other numeral is a floating-point number: as many
digits as fit 64 bits make up a significand, the later ones only count for the place of the
point, and the significand is then scaled by one power of ten at a time, each step rounded.
A numeral whose number is not finite stands for nothing.
-/

namespace PullSecrets.Json

/-- The parts of a numeral. -/
structure Numeral where
  /-- Whether a minus sign stands in front. -/
  minus : Bool
  /-- The digits before the point. -/
  whole : List Char
  /-- The digits after the point; none if there is no point. -/
  decimals : List Char
  /-- The exponent: whether it is negative, and its digits. -/
  scale : Option (Bool × List Char)

namespace Numeral

/-! ## Spelling -/

/-- Split off the digits at the front. -/
def digits (cs : List Char) : List Char × List Char :=
  (cs.takeWhile Char.isDigit, cs.dropWhile Char.isDigit)

/-- The exponent after the letter `e`, which takes the rest of the numeral. -/
def scale? (cs : List Char) : Option (Bool × List Char) :=
  let (minus, ds) := match cs with
    | '-' :: ds => (true, ds)
    | '+' :: ds => (false, ds)
    | ds => (false, ds)
  if !ds.isEmpty && ds.all Char.isDigit then some (minus, ds) else none

/-- The digits before the point: no zero stands in front of another digit. -/
def isWhole (ds : List Char) : Bool :=
  match ds with
  | [] => false
  | '0' :: ds => ds.isEmpty
  | _ => true

/-- The parts of a spelled number. -/
def ofChars? (cs : List Char) : Option Numeral := do
  let (minus, cs) := match cs with
    | '-' :: cs => (true, cs)
    | cs => (false, cs)
  let (whole, cs) := digits cs
  guard (isWhole whole)
  let (decimals, cs) ← match cs with
    | '.' :: cs =>
      let (decimals, cs) := digits cs
      if decimals.isEmpty then none else some (decimals, cs)
    | cs => some ([], cs)
  match cs with
  | [] => some ⟨minus, whole, decimals, none⟩
  | 'e' :: cs | 'E' :: cs => (scale? cs).map fun scale => ⟨minus, whole, decimals, some scale⟩
  | _ => none

/-! ## Value -/

/-- Append digits to a significand as long as it fits 64 bits; the digits left over. -/
def accumulate (s : Nat) : List Char → Nat × List Char
  | [] => (s, [])
  | d :: ds =>
    let t := 10 * s + (d.toNat - '0'.toNat)
    if t < UInt64.size then accumulate t ds else (s, d :: ds)

/-- Divide a magnitude by `10 ^ n`, at most 308 powers of ten at a time. -/
def shrink (f n : Nat) : Nat :=
  if n ≤ 308 then ((Binary64.powerOfTen n).bind (Binary64.div f)).getD 0
  else if f = 0 then 0
  else shrink (((Binary64.powerOfTen 308).bind (Binary64.div f)).getD 0) (n - 308)
termination_by n

/-- The magnitude of `s * 10 ^ e`, if it is finite. -/
def scaled (s : Nat) (e : Int) : Option Nat := do
  let f ← Binary64.ofNat s
  if e < 0 then some (shrink f (-e).toNat)
  else if f = 0 then some 0
  else if e ≤ 308 then (Binary64.powerOfTen e.toNat).bind (Binary64.mul f)
  else none

/-- The largest exponent that is added up; beyond it only zero stays finite, or comes out. -/
def scaleLimit : Nat := UInt32.size / 2 - 1

/-- The magnitude of a significand with a power of ten and a written exponent. -/
def magnitude (s : Nat) (e : Int) (scale : Option (Bool × List Char)) : Option Nat :=
  match scale with
  | none => scaled s e
  | some (minus, ds) =>
    let n := Nat.ofDigitChars 10 ds 0
    if scaleLimit < n then
      if s = 0 || minus then some 0 else none
    else if minus then scaled s (max (e - n) (-(scaleLimit : Int) - 1))
    else scaled s (min (e + n) scaleLimit)

/-- The number that a numeral stands for, if it is finite. -/
def number? (x : Numeral) : Option Number :=
  let (s, late) := accumulate 0 x.whole
  if late.isEmpty && x.decimals.isEmpty && x.scale.isNone then
    if !x.minus then some (.natural s)
    else if 0 < s && s ≤ UInt64.size / 2 then some (.negative s)
    else (Binary64.ofNat s).map fun m => .float ⟨true, m⟩
  else
    let (t, unread) := accumulate s x.decimals
    let e : Int := late.length - (x.decimals.length - unread.length : Nat)
    (magnitude t e x.scale).map fun m => .float ⟨x.minus, m⟩

end Numeral

end PullSecrets.Json
