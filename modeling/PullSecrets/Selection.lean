import PullSecrets.Text.Blank
import PullSecrets.Text.Quoted

/-!
# Which controllers run

The controllers to run are chosen by a list of entries: the name of a controller switches it on,
the name after a minus sign switches it off, and a star stands for all that are not named. Blanks
around an entry and empty entries do not count. The first entry that names a controller decides.
-/

namespace PullSecrets

/-- A choice of controllers. -/
structure Selection where
  /-- The entries, without blanks around them. -/
  entries : List String
  deriving DecidableEq, Inhabited

namespace Selection

/-- The names of all controllers. -/
def known : List String := ["puller"]

/-- The entry that stands for all controllers that are not named. -/
def star : String := "*"

/-- The choice of everything. -/
def default : Selection := ⟨[star]⟩

/-- The name after a minus sign. -/
def excluded? (entry : String) : Option String :=
  match entry.toList with
  | '-' :: name => some (String.ofList name)
  | _ => none

/-- Whether an entry means something. -/
def isValid (entry : String) : Bool :=
  entry == star || known.contains ((excluded? entry).getD entry)

/-- The choice of a list of entries, or the first entry that means nothing. -/
def ofEntries (entries : List String) : Except String Selection :=
  let entries := (entries.map Text.trim).filter (!·.isEmpty)
  match entries.find? (!isValid ·) with
  | some entry => .error entry
  | none => .ok ⟨entries⟩

/-- The text about an entry that means nothing. -/
def unknownMessage (entry : String) : String :=
  Text.quote entry ++ " is not a known controller (known controllers: "
    ++ String.intercalate ", " known ++ ")"

/-- What the first entry that names a controller says about it. -/
def decision? (name : String) : List String → Option Bool
  | [] => none
  | entry :: entries =>
    if entry = name then some true
    else if excluded? entry = some name then some false
    else decision? name entries

/-- Whether a controller runs. -/
def isEnabled (s : Selection) (name : String) : Bool :=
  (decision? name s.entries).getD (s.entries.contains star)

/-- The controllers that run. -/
def enabled (s : Selection) : List String := known.filter s.isEnabled

end Selection

end PullSecrets
