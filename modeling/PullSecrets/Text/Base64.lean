/-!
# Base64

Bytes as text: three bytes become four characters of the standard alphabet, and the last group is
filled up with equality signs. The reader accepts nothing but what the writer produces.
-/

namespace PullSecrets.Text.Base64

/-- The character of a number below sixty-four. -/
def char (n : Nat) : Char :=
  if n < 26 then Char.ofNat ('A'.toNat + n)
  else if n < 52 then Char.ofNat ('a'.toNat + (n - 26))
  else if n < 62 then Char.ofNat ('0'.toNat + (n - 52))
  else if n = 62 then '+'
  else '/'

/-- The number of a character of the alphabet. -/
def value? (c : Char) : Option Nat :=
  if 'A' ≤ c && c ≤ 'Z' then some (c.toNat - 'A'.toNat)
  else if 'a' ≤ c && c ≤ 'z' then some (c.toNat - 'a'.toNat + 26)
  else if '0' ≤ c && c ≤ '9' then some (c.toNat - '0'.toNat + 52)
  else if c = '+' then some 62
  else if c = '/' then some 63
  else none

/-- The text of a list of bytes. -/
def encode : List UInt8 → List Char
  | [] => []
  | [x] =>
    let n := x.toNat
    [char (n / 4), char (n % 4 * 16), '=', '=']
  | [x, y] =>
    let n := x.toNat * 256 + y.toNat
    [char (n / 1024), char (n / 16 % 64), char (n % 16 * 4), '=']
  | x :: y :: z :: rest =>
    let n := (x.toNat * 256 + y.toNat) * 256 + z.toNat
    char (n / 262144) :: char (n / 4096 % 64) :: char (n / 64 % 64) :: char (n % 64) :: encode rest

/-- The bytes of a text. The bits that the last group does not use have to be zero. -/
def decode? : List Char → Option (List UInt8)
  | [] => some []
  | a :: b :: c :: d :: rest => do
    let x ← value? a
    let y ← value? b
    if c = '=' then
      guard (d = '=' ∧ rest = [] ∧ y % 16 = 0)
      some [UInt8.ofNat (x * 4 + y / 16)]
    else
      let z ← value? c
      if d = '=' then
        guard (rest = [] ∧ z % 4 = 0)
        some [UInt8.ofNat (x * 4 + y / 16), UInt8.ofNat (y % 16 * 16 + z / 4)]
      else
        let w ← value? d
        let bytes ← decode? rest
        some (UInt8.ofNat (x * 4 + y / 16) :: UInt8.ofNat (y % 16 * 16 + z / 4)
          :: UInt8.ofNat (z % 4 * 64 + w) :: bytes)
  | _ => none

/-- The text of an array of bytes. -/
def ofBytes (bytes : ByteArray) : String := String.ofList (encode bytes.toList)

/-- The array of bytes that a text stands for. -/
def toBytes? (s : String) : Option ByteArray := (decode? s.toList).map fun bs => ⟨bs.toArray⟩

end PullSecrets.Text.Base64
