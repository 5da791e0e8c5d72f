import PullSecrets.Text.Unprinted

/-!
# Quoted texts

Messages name a text in quotes, so that blanks and invisible characters in it can be seen: a
quotation mark and a backslash carry a backslash, the usual control characters are written as
letters, and every other character that does not print is written by its number.
-/

namespace PullSecrets.Text

/-- The number of a character in lower-case hexadecimal digits, without leading zeros. -/
def hexNumber (c : Char) : List Char :=
  Nat.toDigits 16 c.toNat

/-- A character as it is written between quotation marks. -/
def escape (c : Char) : List Char :=
  if c = '"' then ['\\', '"']
  else if c = '\\' then ['\\', '\\']
  else if c = '\n' then ['\\', 'n']
  else if c = '\r' then ['\\', 'r']
  else if c = '\t' then ['\\', 't']
  else if c = '\x00' then ['\\', '0']
  else if isUnprinted c then '\\' :: 'u' :: '\x7b' :: (hexNumber c ++ ['\x7d'])
  else [c]

/-- A text between quotation marks. -/
def quote (s : String) : String :=
  String.ofList ('"' :: (s.toList.flatMap escape ++ ['"']))

end PullSecrets.Text
