import PullSecrets.Text.Hex
import PullSecrets.Text.Utf8

/-!
# Queries

A query is a list of named values. The pairs stand between ampersands, a name and its value on the
two sides of the first equality sign, a plus sign is a blank, and a percent sign with two
hexadecimal digits is a byte.

## Main facts

* `pairs_nil`: the empty query holds nothing.
-/

namespace PullSecrets.Query

open Text

/-! ## Reading -/

/-- The bytes that a written text stands for. -/
def bytes : List Char → List UInt8
  | [] => []
  | '+' :: cs => 0x20 :: bytes cs
  | '%' :: c :: d :: cs =>
    match Hex.digit? c, Hex.digit? d with
    | some high, some low => UInt8.ofNat (16 * high + low) :: bytes cs
    | _, _ => 0x25 :: bytes (c :: d :: cs)
  | c :: cs => String.utf8EncodeChar c ++ bytes cs

/-- The text that a written text stands for. -/
def decode (cs : List Char) : String := String.ofList (Utf8.decode (bytes cs))

/-- The name and the value of a pair. -/
def pair (cs : List Char) : String × String :=
  (decode (cs.takeWhile (· != '=')), decode ((cs.dropWhile (· != '=')).drop 1))

/-- The pairs of a query. Nothing between two ampersands is no pair. -/
def pairs (cs : List Char) : List (String × String) :=
  ((cs.splitOn '&').filter fun piece => !piece.isEmpty).map pair

/-! ## The size of a written query -/

/-- Whether a character is written as it is. -/
def isPlain (c : Char) : Bool := c.isAlphanum || ['*', '-', '.', '_'].contains c

/-- The number of characters that a text takes when it is written: a blank takes one, and a byte
that needs a percent sign takes three. -/
def size (s : String) : Nat :=
  s.toList.foldr (fun c size => (if isPlain c || c = ' ' then 1 else 3 * c.utf8Size) + size) 0

/-- The number of characters that a pair takes behind an ampersand. -/
def pairSize (p : String × String) : Nat := size p.1 + size p.2 + 2

/-! ## Laws -/

/-- The empty query holds nothing. -/
@[simp] theorem pairs_nil : pairs [] = [] := by
  simp [pairs]

end PullSecrets.Query
