import PullSecrets.Json.Numeral
import PullSecrets.Text.Hex

/-!
# The tree of a JSON text

A text is read into a tree that keeps what the text says: repeated members stay, and texts and
numbers that no value can hold, a lone surrogate or a number that is not finite, are marked but
do not spoil the rest. What is needed from the tree is then read out of it, and what is not needed
may hold such marks and may be nested as deeply as it likes.

The reader is a stack machine that takes one character at a time. Its stack holds the arrays and
objects that are open, so that no depth is too deep for it.

## Main facts

* `run_append`: reading goes on where it stopped.
-/

namespace PullSecrets.Json

/-- What a JSON text says. A text or number is absent where no value can hold it. -/
inductive Tree where
  | null
  | bool (b : Bool)
  | number (n : Option Number)
  | string (s : Option String)
  | array (items : List Tree)
  | object (members : List (Option String × Tree))
  deriving Inhabited

namespace Tree

/-! ## Scalars -/

/-- The tree of a bare word: a constant or a numeral. -/
def ofWord? (cs : List Char) : Option Tree :=
  if cs = ['n', 'u', 'l', 'l'] then some .null
  else if cs = ['t', 'r', 'u', 'e'] then some (.bool true)
  else if cs = ['f', 'a', 'l', 's', 'e'] then some (.bool false)
  else (Numeral.ofChars? cs).map fun x => .number x.number?

/-- Whether a code unit is the first half of a pair. -/
def isHigh (u : Nat) : Bool := 0xD800 ≤ u && u < 0xDC00

/-- Whether a code unit is the second half of a pair. -/
def isLow (u : Nat) : Bool := 0xDC00 ≤ u && u < 0xE000

/-- The characters of a text whose escapes may be halves of pairs; `none` if a half stands
alone. -/
def ofUnits? : List Nat → Option (List Char)
  | [] => some []
  | u :: v :: us =>
    if isHigh u then
      if isLow v then
        (ofUnits? us).map (Char.ofNat (0x10000 + (u - 0xD800) * 0x400 + (v - 0xDC00)) :: ·)
      else none
    else if isLow u then none
    else (ofUnits? (v :: us)).map (Char.ofNat u :: ·)
  | [u] => if isHigh u || isLow u then none else some [Char.ofNat u]

/-! ## The machine -/

/-- An array or object that is open. What has been read of it is listed backwards. -/
inductive Frame where
  /-- An array, with its items so far. -/
  | items (done : List Tree)
  /-- An object whose next name is due, with its members so far. -/
  | names (done : List (Option String × Tree))
  /-- An object in which the value of a name is due. -/
  | value (done : List (Option String × Tree)) (name : Option String)

/-- How far an escape in a text has been read. -/
inductive Escape where
  /-- No escape is open. -/
  | closed
  /-- The backslash has been read. -/
  | opened
  /-- Some digits are still due, and the number so far. -/
  | digits (due : Nat) (value : Nat)

/-- What the next character belongs to. -/
inductive Mode where
  /-- A value is due; the array that has just been opened may also close. -/
  | due (closable : Bool)
  /-- A name is due; the object that has just been opened may also close. -/
  | nameDue (closable : Bool)
  /-- The colon after a name is due. -/
  | colonDue
  /-- A bare word, listed backwards. -/
  | word (done : List Char)
  /-- A text, its code units listed backwards. -/
  | text (done : List Nat) (escape : Escape)
  /-- A value is complete. -/
  | complete (t : Tree)

/-- The state of the reader: what is open, and what the next character belongs to. -/
structure State where
  /-- The open arrays and objects, the innermost first. -/
  frames : List Frame
  /-- What the next character belongs to. -/
  mode : Mode

/-- The characters that may stand between the parts of a text. -/
def isSpace (c : Char) : Bool := c = ' ' || c = '\t' || c = '\n' || c = '\r'

/-- The characters of constants and numerals. -/
def isWord (c : Char) : Bool := c.isAlphanum || c = '-' || c = '+' || c = '.'

/-- The character after a complete value. -/
def afterValue (frames : List Frame) (t : Tree) (c : Char) : Option State :=
  if isSpace c then some ⟨frames, .complete t⟩
  else match frames with
    | .items done :: outer =>
      if c = ',' then some ⟨.items (t :: done) :: outer, .due false⟩
      else if c = ']' then some ⟨outer, .complete (.array (t :: done).reverse)⟩
      else none
    | .value done name :: outer =>
      if c = ',' then some ⟨.names ((name, t) :: done) :: outer, .nameDue false⟩
      else if c = '\x7d' then some ⟨outer, .complete (.object ((name, t) :: done).reverse)⟩
      else none
    | _ => none

/-- The end of a text: it is a name where a name was due, and a value elsewhere. -/
def endText (frames : List Frame) (units : List Nat) : State :=
  let s := (ofUnits? units.reverse).map String.ofList
  match frames with
  | .names done :: outer => ⟨.value done s :: outer, .colonDue⟩
  | frames => ⟨frames, .complete (.string s)⟩

/-- A character inside a text. -/
def inText (frames : List Frame) (units : List Nat) (escape : Escape) (c : Char) : Option State :=
  let go (unit : Nat) : Option State := some ⟨frames, .text (unit :: units) .closed⟩
  match escape with
  | .closed =>
    if c = '"' then some (endText frames units)
    else if c = '\\' then some ⟨frames, .text units .opened⟩
    else if c.toNat < 0x20 then none
    else go c.toNat
  | .opened =>
    if c = '"' || c = '\\' || c = '/' then go c.toNat
    else if c = 'b' then go 8
    else if c = 't' then go 9
    else if c = 'n' then go 10
    else if c = 'f' then go 12
    else if c = 'r' then go 13
    else if c = 'u' then some ⟨frames, .text units (.digits 4 0)⟩
    else none
  | .digits due value =>
    (Text.Hex.digit? c).bind fun d =>
      if due ≤ 1 then go (16 * value + d)
      else some ⟨frames, .text units (.digits (due - 1) (16 * value + d))⟩

/-- Take one character. -/
def step (s : State) (c : Char) : Option State :=
  match s.mode with
  | .due closable =>
    if isSpace c then some s
    else if c = '[' then some ⟨.items [] :: s.frames, .due true⟩
    else if c = '\x7b' then some ⟨.names [] :: s.frames, .nameDue true⟩
    else if c = '"' then some ⟨s.frames, .text [] .closed⟩
    else if isWord c then some ⟨s.frames, .word [c]⟩
    else if c = ']' && closable then some ⟨s.frames.tail, .complete (.array [])⟩
    else none
  | .nameDue closable =>
    if isSpace c then some s
    else if c = '"' then some ⟨s.frames, .text [] .closed⟩
    else if c = '\x7d' && closable then some ⟨s.frames.tail, .complete (.object [])⟩
    else none
  | .colonDue =>
    if isSpace c then some s
    else if c = ':' then some ⟨s.frames, .due false⟩
    else none
  | .word done =>
    if isWord c then some ⟨s.frames, .word (c :: done)⟩
    else (ofWord? done.reverse).bind fun t => afterValue s.frames t c
  | .text units escape => inText s.frames units escape c
  | .complete t => afterValue s.frames t c

/-- Take all characters of a text, one after the other. -/
def run (s : State) : List Char → Option State
  | [] => some s
  | c :: cs => (step s c).bind fun s => run s cs

/-- The tree at the end of a text: nothing is open, and a value is complete. -/
def finish (s : State) : Option Tree :=
  match s.frames, s.mode with
  | [], .complete t => some t
  | [], .word done => ofWord? done.reverse
  | _, _ => none

/-- The state before the first character. -/
def start : State := ⟨[], .due false⟩

/-- The tree of a text, if it follows the grammar. -/
def ofChars? (cs : List Char) : Option Tree := (run start cs).bind finish

/-- The tree of a text, if it follows the grammar. -/
def ofString? (s : String) : Option Tree := ofChars? s.toList

/-- The tree of a text in UTF-8. -/
def ofBytes? (bytes : ByteArray) : Option Tree := (String.fromUTF8? bytes).bind ofString?

/-- Reading goes on where it stopped. -/
theorem run_append (s : State) (cs ds : List Char) :
    run s (cs ++ ds) = (run s cs).bind fun s => run s ds := by
  induction cs generalizing s with
  | nil => rfl
  | cons c cs ih =>
    rw [List.cons_append, run, run]
    cases step s c with
    | none => rfl
    | some t => exact ih t

/-! ## The value of a tree -/

/-- The number of arrays and objects that may stand inside each other. -/
def maxDepth : Nat := 127

mutual

/-- The value of a tree with at most `room` arrays and objects inside each other, if every text
and number in it has a value. -/
def value? (room : Nat) : Tree → Option Json
  | .null => some .null
  | .bool b => some (.bool b)
  | .number n => n.map .number
  | .string s => s.map .string
  | .array items => if room = 0 then none else (items? (room - 1) items).map .array
  | .object members => if room = 0 then none else (members? (room - 1) members).map .object

/-- The values of all items. -/
def items? (room : Nat) : List Tree → Option (List Json)
  | [] => some []
  | t :: ts => (value? room t).bind fun v => (items? room ts).map (v :: ·)

/-- The names and values of all members. -/
def members? (room : Nat) : List (Option String × Tree) → Option (List (String × Json))
  | [] => some []
  | (name, t) :: ms =>
    name.bind fun k => (value? room t).bind fun v => (members? room ms).map ((k, v) :: ·)

end

mutual

/-- The tree of a value. -/
def ofValue : Json → Tree
  | .null => .null
  | .bool b => .bool b
  | .number n => .number (some n)
  | .string s => .string (some s)
  | .array items => .array (ofItems items)
  | .object members => .object (ofMembers members)

/-- The trees of all items. -/
def ofItems : List Json → List Tree
  | [] => []
  | v :: vs => ofValue v :: ofItems vs

/-- The trees of all members. -/
def ofMembers : List (String × Json) → List (Option String × Tree)
  | [] => []
  | (k, v) :: ms => (some k, ofValue v) :: ofMembers ms

end

end Tree

end PullSecrets.Json
