import PullSecrets.Binary64.Shortest
import PullSecrets.Json.Basic

/-!
# The text of a JSON value

Values are written without any space. In a text only the quotation mark, the backslash and the
control characters are escaped. A floating-point number is written with its shortest digits: as
a plain decimal while its point lies within the first sixteen digits or at most four zeros stand
behind it, and otherwise with an exponent, which always has a sign.
-/

namespace PullSecrets.Json

/-- A character inside a text. -/
def escape (c : Char) : List Char :=
  if c = '"' then ['\\', '"']
  else if c = '\\' then ['\\', '\\']
  else if c = '\x08' then ['\\', 'b']
  else if c = '\t' then ['\\', 't']
  else if c = '\n' then ['\\', 'n']
  else if c = '\x0c' then ['\\', 'f']
  else if c = '\r' then ['\\', 'r']
  else if c.toNat < 0x20 then
    ['\\', 'u', '0', '0', Nat.digitChar (c.toNat / 16), Nat.digitChar (c.toNat % 16)]
  else [c]

/-- A text between quotation marks. -/
def text (s : String) : List Char := '"' :: (s.toList.flatMap escape ++ ['"'])

/-- An integer in decimal digits. -/
def integer (n : Int) : List Char :=
  match n with
  | .ofNat n => Nat.toDigits 10 n
  | .negSucc n => '-' :: Nat.toDigits 10 (n + 1)

/-- A power of ten behind the digits. -/
def exponent (n : Int) : List Char :=
  'e' :: if 0 ≤ n then '+' :: integer n else integer n

/-- A positive floating-point number by its shortest digits. -/
def decimal (d : Binary64.Digits) : List Char :=
  let ds := Nat.toDigits 10 d.digits
  let point : Int := ds.length + d.scale
  if 0 ≤ d.scale && point ≤ 16 then ds ++ List.replicate d.scale.toNat '0' ++ ['.', '0']
  else if 0 < point && point ≤ 16 then ds.take point.toNat ++ '.' :: ds.drop point.toNat
  else if -5 < point && point ≤ 0 then '0' :: '.' :: (List.replicate (-point).toNat '0' ++ ds)
  else match ds with
    | [] => []
    | [c] => c :: exponent (point - 1)
    | c :: cs => c :: '.' :: (cs ++ exponent (point - 1))

/-- A number. -/
def Number.chars : Number → List Char
  | .natural n => Nat.toDigits 10 n
  | .negative n => '-' :: Nat.toDigits 10 n
  | .float x =>
    (if x.negative then ['-'] else [])
      ++ if x.magnitude = 0 then ['0', '.', '0'] else decimal (Binary64.shortest x.magnitude)

mutual

/-- The characters of a value. -/
def chars : Json → List Char
  | null => ['n', 'u', 'l', 'l']
  | bool true => ['t', 'r', 'u', 'e']
  | bool false => ['f', 'a', 'l', 's', 'e']
  | number n => n.chars
  | string s => text s
  | array [] => ['[', ']']
  | array (x :: xs) => '[' :: (chars x ++ moreItems xs)
  | object [] => ['\x7b', '\x7d']
  | object ((k, x) :: ms) => '\x7b' :: (text k ++ ':' :: (chars x ++ moreMembers ms))

/-- The items after the first, and the end of the array. -/
def moreItems : List Json → List Char
  | [] => [']']
  | x :: xs => ',' :: (chars x ++ moreItems xs)

/-- The members after the first, and the end of the object. -/
def moreMembers : List (String × Json) → List Char
  | [] => ['\x7d']
  | (k, x) :: ms => ',' :: (text k ++ ':' :: (chars x ++ moreMembers ms))

end

/-- The text of a value. -/
def render (v : Json) : String := String.ofList v.chars

end PullSecrets.Json
