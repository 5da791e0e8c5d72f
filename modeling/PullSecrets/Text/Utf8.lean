/-!
# Bytes as text

Bytes are read as UTF-8. Bytes that belong to no character do not spoil the rest: every longest
part of them that begins a character, and every byte that begins none, counts as one replacement
character.

The reader takes one byte at a time. Between two bytes it holds what has been read of a character,
if it stands inside one.
-/

namespace PullSecrets.Text

/-- Bytes are compared as arrays of bytes, whatever other instances are in sight. -/
instance (priority := 2000) decidableEqBytes : DecidableEq ByteArray := ByteArray.instDecidableEq

namespace Utf8

/-- The character that stands for bytes without a meaning. -/
def replacement : Char := '\ufffd'

/-- A character of which some bytes are still due. -/
structure Pending where
  /-- The number of bytes that are due. -/
  due : Nat
  /-- The least byte that can come next. -/
  least : Nat := 0x80
  /-- The greatest byte that can come next. -/
  greatest : Nat := 0xBF
  /-- The number of the character, as far as it is known. -/
  value : Nat
  deriving DecidableEq, Inhabited

/-- What the reader has to say after a byte: the characters that are complete, and the one that is
not. -/
abbrev Progress := List Char × Option Pending

/-- A byte between characters. The bounds of the second byte rule out numbers that have a shorter
form, halves of pairs, and numbers beyond the last character. -/
def first (b : Nat) : Progress :=
  if b < 0x80 then ([Char.ofNat b], none)
  else if 0xC2 ≤ b && b < 0xE0 then ([], some { due := 1, value := b - 0xC0 })
  else if b = 0xE0 then ([], some { due := 2, least := 0xA0, value := 0 })
  else if b = 0xED then ([], some { due := 2, greatest := 0x9F, value := 0xD })
  else if 0xE0 < b && b < 0xF0 then ([], some { due := 2, value := b - 0xE0 })
  else if b = 0xF0 then ([], some { due := 3, least := 0x90, value := 0 })
  else if b = 0xF4 then ([], some { due := 3, greatest := 0x8F, value := 4 })
  else if 0xF0 < b && b < 0xF4 then ([], some { due := 3, value := b - 0xF0 })
  else ([replacement], none)

/-- A byte, between characters or inside one. A byte that cannot go on begins anew. -/
def step (p : Option Pending) (b : Nat) : Progress :=
  match p with
  | none => first b
  | some p =>
    if p.least ≤ b && b ≤ p.greatest then
      let value := 64 * p.value + (b - 0x80)
      if p.due ≤ 1 then ([Char.ofNat value], none) else ([], some { due := p.due - 1, value })
    else
      let next := first b
      (replacement :: next.1, next.2)

/-- The characters of the bytes that follow. -/
def decodeFrom (p : Option Pending) : List UInt8 → List Char
  | [] => if p.isSome then [replacement] else []
  | b :: bs =>
    let next := step p b.toNat
    next.1 ++ decodeFrom next.2 bs

/-- The characters of some bytes. -/
def decode (bytes : List UInt8) : List Char := decodeFrom none bytes

end Utf8

end PullSecrets.Text
