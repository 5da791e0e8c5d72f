import PullSecrets.Json.Basic
import PullSecrets.Json.Writer

/-!
# Values as YAML

A value in block style: a member on each line, the members of an inner object two columns further
to the right, the items of a list after a dash. A text stands as it is where that cannot be
misread, between single quotes where it can, and as a block of its own lines where it has several.
-/

namespace PullSecrets.Json.Yaml

/-! ## Texts -/

/-- The words that stand for something other than a text. -/
def reserved : List String :=
  ["~", "null", "Null", "NULL", "true", "True", "TRUE", "false", "False", "FALSE",
    ".nan", ".NaN", ".NAN", ".inf", ".Inf", ".INF", "-.inf", "-.Inf", "-.INF",
    "+.inf", "+.Inf", "+.INF"]

/-- Whether a text may be read as a number. -/
def isNumeric (cs : List Char) : Bool :=
  cs.any Char.isDigit && cs.all fun c => c.isDigit || "+-._abcdefABCDEFxXoO".toList.contains c

/-- The characters that have a meaning at the beginning of a text. -/
def indicators : List Char :=
  ['#', ',', '[', ']', '\x7b', '\x7d', '&', '*', '!', '|', '>', '\'', '"', '%', '@', '\x60', '?',
    ':', '-']

/-- Whether a later character ends a text or begins a comment. -/
def isBroken : List Char → Bool
  | [] => false
  | [c] => c == ':' || c == ' '
  | c :: d :: cs => (c == ':' && d == ' ') || (c == ' ' && d == '#') || isBroken (d :: cs)

/-- Whether a text of one line can stand without quotes. -/
def isPlain (cs : List Char) : Bool :=
  match cs with
  | [] => false
  | c :: _ =>
    !indicators.contains c && c != ' ' && !isBroken cs && !isNumeric cs
      && !reserved.contains (String.ofList cs)

/-- A text of one line. -/
def scalar (s : String) : String :=
  let cs := s.toList
  if isPlain cs then s
  else
    String.ofList ('\'' :: (cs.flatMap fun c => if c = '\'' then ['\'', '\''] else [c]) ++ ['\''])

/-- A line two columns further to the right; an empty line stays empty. -/
def indent (line : String) : String := if line.isEmpty then line else "  " ++ line

/-- The lines of a text. -/
def splitLines : List Char → List (List Char)
  | [] => [[]]
  | c :: cs =>
    if c = '\n' then [] :: splitLines cs
    else match splitLines cs with
      | [] => [[c]]
      | line :: lines => (c :: line) :: lines

/-- A text of several lines that does not end with a line break. -/
def literal (s : String) : List String :=
  "|-" :: (splitLines s.toList).map fun line => indent (String.ofList line)

/-- A text. -/
def text (s : String) : List String := if s.toList.contains '\n' then literal s else [scalar s]

/-! ## Values -/

/-- Put lines after a mark, and the further lines below the end of the mark. -/
def hang (mark : String) : List String → List String
  | [] => [mark]
  | line :: lines => (mark ++ line) :: lines.map indent

/-- Put lines after the name of a member: a scalar follows the name, a list stands below it, and
an object stands below it further to the right. -/
def member (name : String) (v : Json) (lines : List String) : List String :=
  match v, lines with
  | array (_ :: _), lines => (scalar name ++ ":") :: lines
  | object (_ :: _), lines => (scalar name ++ ":") :: lines.map indent
  | _, [] => [scalar name ++ ":"]
  | _, line :: lines => (scalar name ++ ": " ++ line) :: lines

mutual

/-- The lines of a value. -/
def lines : Json → List String
  | null => ["null"]
  | bool true => ["true"]
  | bool false => ["false"]
  | number n => [String.ofList n.chars]
  | string s => text s
  | array [] => ["[]"]
  | array (v :: vs) => hang "- " (lines v) ++ itemLines vs
  | object [] => ["\x7b\x7d"]
  | object ((k, v) :: ms) => member k v (lines v) ++ memberLines ms

/-- The lines of some items. -/
def itemLines : List Json → List String
  | [] => []
  | v :: vs => hang "- " (lines v) ++ itemLines vs

/-- The lines of some members. -/
def memberLines : List (String × Json) → List String
  | [] => []
  | (k, v) :: ms => member k v (lines v) ++ memberLines ms

end

end PullSecrets.Json.Yaml
