import PullSecrets.Text.Blank
import PullSecrets.Text.Decimal

/-!
# Points in time

A point in time has a resolution of one second. It is read from the text form with a date, a
time of day and an offset, in a lenient reading: blanks may stand before each part, numbers may
be short, and the offset may be `Z`, `UTC` or hours and minutes. It is written in universal time
with the letter `Z`.
-/

namespace PullSecrets

/-- A point in time: the second since the start of 1970 in universal time, and whether it is the
leap second that follows this second. -/
structure Timestamp where
  /-- Seconds since the start of 1970. -/
  seconds : Int
  /-- Whether the leap second after it is meant. -/
  leap : Bool
  deriving DecidableEq, Inhabited

namespace Timestamp

/-! ## The calendar -/

/-- Whether a year has a leap day. -/
def isLeapYear (year : Int) : Bool :=
  year % 4 == 0 && (year % 100 != 0 || year % 400 == 0)

/-- The number of days in a month. -/
def daysInMonth (year : Int) (month : Nat) : Nat :=
  if month = 2 then (if isLeapYear year then 29 else 28)
  else if month = 4 ∨ month = 6 ∨ month = 9 ∨ month = 11 then 30
  else 31

/-- The days from the start of 1970 to a date. Years are counted from March, so that the leap day
is the last day of its year. -/
def daysOfDate (year : Int) (month day : Nat) : Int :=
  let y := if month ≤ 2 then year - 1 else year
  let m : Nat := (month + 9) % 12
  365 * y + y / 4 - y / 100 + y / 400 + ((153 * m + 2) / 5 : Nat) + (day : Int) - 1 - 719468

/-- The date that lies a number of days after the start of 1970: year, month, day. -/
def dateOfDays (days : Int) : Int × Nat × Nat :=
  let z := days + 719468
  let era := z / 146097
  let dayOfEra := (z % 146097).toNat
  let yearOfEra :=
    (dayOfEra - dayOfEra / 1460 + dayOfEra / 36524 - dayOfEra / 146096) / 365
  let dayOfYear := dayOfEra - (365 * yearOfEra + yearOfEra / 4 - yearOfEra / 100)
  let m := (5 * dayOfYear + 2) / 153
  let month := if m < 10 then m + 3 else m - 9
  let year : Int := era * 400 + yearOfEra
  (if month ≤ 2 then year + 1 else year, month, dayOfYear - (153 * m + 2) / 5 + 1)

/-- The first and the last year of the calendar. -/
def firstYear : Int := -262143

/-- The last year of the calendar. -/
def lastYear : Int := 262142

/-! ## Reading -/

/-- At most `width` digits at the front, at least one, after blanks. -/
def number? (width : Nat) (cs : List Char) : Option (Nat × List Char) :=
  let cs := Text.trimStart cs
  let ds := (cs.take width).takeWhile Char.isDigit
  if ds.isEmpty then none else some (Nat.ofDigitChars 10 ds 0, cs.drop ds.length)

/-- A year: four digits at most, or any number of digits after a sign. -/
def year? (cs : List Char) : Option (Int × List Char) :=
  let signed (cs : List Char) : Option (Nat × List Char) :=
    match cs with
    | c :: _ => if c.isDigit then number? cs.length cs else none
    | [] => none
  match Text.trimStart cs with
  | '-' :: cs => (signed cs).map fun (n, cs) => (-n, cs)
  | '+' :: cs => (signed cs).map fun (n, cs) => (n, cs)
  | cs => (number? 4 cs).map fun (n, cs) => (n, cs)

/-- A separator after blanks. -/
def separator? (c : Char) (cs : List Char) : Option (List Char) :=
  match Text.trimStart cs with
  | d :: cs => if c = d then some cs else none
  | [] => none

/-- Skip a fraction of a second: a point and at least one digit. -/
def fraction? (cs : List Char) : Option (List Char) :=
  match cs with
  | '.' :: cs =>
    if (cs.takeWhile Char.isDigit).isEmpty then none else some (cs.dropWhile Char.isDigit)
  | cs => some cs

/-- Two digits at the front. -/
def twoDigits? : List Char → Option (Nat × List Char)
  | a :: b :: cs =>
    if a.isDigit && b.isDigit then some (Nat.ofDigitChars 10 [a, b] 0, cs) else none
  | _ => none

/-- Hours and minutes after a sign, in seconds. Colons and blanks between them are skipped. -/
def hoursMinutes? (cs : List Char) : Option (Int × List Char) := do
  let (hours, cs) ← twoDigits? cs
  let (minutes, cs) ← twoDigits? (cs.dropWhile fun c => c = ':' || Text.isBlank c)
  if minutes < 60 then some (3600 * hours + 60 * minutes, cs) else none

/-- An offset from universal time in seconds. -/
def offset? (cs : List Char) : Option (Int × List Char) :=
  match Text.trimStart cs with
  | 'Z' :: cs | 'z' :: cs => some (0, cs)
  | '+' :: cs => hoursMinutes? cs
  | '-' :: cs | '−' :: cs => (hoursMinutes? cs).map fun (n, cs) => (-n, cs)
  | u :: t :: c :: cs =>
    if u.toLower = 'u' && t.toLower = 't' && c.toLower = 'c' then some (0, cs) else none
  | _ => none

/-- The point in time that a text names. -/
def ofString? (s : String) : Option Timestamp := do
  let (year, cs) ← year? s.toList
  let (month, cs) ← number? 2 (← separator? '-' cs)
  let (day, cs) ← number? 2 (← separator? '-' cs)
  let cs ← match cs with
    | 'T' :: cs | 't' :: cs | ' ' :: cs => some cs
    | _ => none
  let (hour, cs) ← number? 2 cs
  let (minute, cs) ← number? 2 (← separator? ':' cs)
  let (second, cs) ← number? 2 (← separator? ':' cs)
  let cs ← fraction? cs
  let (offset, cs) ← offset? cs
  guard (Text.trimStart cs).isEmpty
  guard (firstYear ≤ year ∧ year ≤ lastYear)
  guard (1 ≤ month ∧ month ≤ 12 ∧ 1 ≤ day ∧ day ≤ daysInMonth year month)
  guard (hour < 24 ∧ minute < 60 ∧ second ≤ 60)
  guard (-86400 < offset ∧ offset < 86400)
  let seconds := daysOfDate year month day * 86400
    + (3600 * hour + 60 * minute + min second 59 : Nat) - offset
  let (utcYear, _, _) := dateOfDays (seconds / 86400)
  guard (firstYear ≤ utcYear ∧ utcYear ≤ lastYear)
  some ⟨seconds, second = 60⟩

/-! ## Writing -/

/-- A year of four digits; years outside of them carry a sign. -/
def yearText (year : Int) : String :=
  if 0 ≤ year ∧ year ≤ 9999 then Text.Decimal.padded 4 year.toNat
  else if year < 0 then "-" ++ Text.Decimal.padded 4 (-year).toNat
  else "+" ++ Text.Decimal.padded 4 year.toNat

/-- The year of a point in time. -/
def year (t : Timestamp) : Int := (dateOfDays (t.seconds / 86400)).1

/-- The text of a point in time, in universal time. -/
def text (t : Timestamp) : String :=
  let (year, month, day) := dateOfDays (t.seconds / 86400)
  let clock := (t.seconds % 86400).toNat
  let second := clock % 60 + if t.leap then 1 else 0
  let two := Text.Decimal.padded 2
  yearText year ++ "-" ++ two month ++ "-" ++ two day ++ "T" ++ two (clock / 3600) ++ ":"
    ++ two (clock / 60 % 60) ++ ":" ++ two second ++ "Z"

end Timestamp

end PullSecrets
