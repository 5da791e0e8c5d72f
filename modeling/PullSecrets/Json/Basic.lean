import PullSecrets.Binary64.Basic
import PullSecrets.Dict

/-!
# JSON values

A value keeps the members of an object in the order in which they are written. Numbers are of
three kinds that never equal each other: natural numbers, negative integers, and floating-point
numbers.

## Main facts

* `Json.same_iff`: equality of values can be decided.
* `Json.canonical` orders the members of every object by name and keeps the last of a repeated
  name, so that two objects with the same members have one form; `Json.unsignedZeros` does the
  same for the two zeros.
-/

namespace PullSecrets

/-- A number: the integers that fit 64 bits are exact, all others are floating-point numbers. -/
inductive Json.Number where
  /-- A natural number below `2 ^ 64`. -/
  | natural (n : Nat)
  /-- The integer `-n`, for `n` from one to `2 ^ 63`. -/
  | negative (n : Nat)
  /-- A finite floating-point number. -/
  | float (x : Binary64)
  deriving DecidableEq, Inhabited

/-- A JSON value; the members of an object stand in the order in which they are written. -/
inductive Json where
  | null
  | bool (b : Bool)
  | number (n : Json.Number)
  | string (s : String)
  | array (items : List Json)
  | object (members : List (String × Json))
  deriving Inhabited

namespace Json

/-! ## Equality -/

mutual

/-- Whether two values are the same, with members in the same order. -/
def same : Json → Json → Bool
  | null, null => true
  | bool a, bool b => a == b
  | number m, number n => m == n
  | string s, string t => s == t
  | array xs, array ys => sameItems xs ys
  | object ms, object ns => sameMembers ms ns
  | _, _ => false

/-- Whether two lists hold the same values. -/
def sameItems : List Json → List Json → Bool
  | [], [] => true
  | x :: xs, y :: ys => same x y && sameItems xs ys
  | _, _ => false

/-- Whether two lists hold the same members. -/
def sameMembers : List (String × Json) → List (String × Json) → Bool
  | [], [] => true
  | (j, x) :: ms, (k, y) :: ns => j == k && same x y && sameMembers ms ns
  | _, _ => false

end

mutual

/-- `same` decides equality. -/
theorem same_iff (x y : Json) : same x y = true ↔ x = y := by
  cases x <;> cases y <;> simp [same, sameItems_iff, sameMembers_iff]

theorem sameItems_iff (xs ys : List Json) : sameItems xs ys = true ↔ xs = ys := by
  match xs, ys with
  | [], [] => simp [sameItems]
  | [], _ :: _ => simp [sameItems]
  | _ :: _, [] => simp [sameItems]
  | x :: xs, y :: ys => simp [sameItems, same_iff x y, sameItems_iff xs ys]

theorem sameMembers_iff (ms ns : List (String × Json)) : sameMembers ms ns = true ↔ ms = ns := by
  match ms, ns with
  | [], [] => simp [sameMembers]
  | [], _ :: _ => simp [sameMembers]
  | _ :: _, [] => simp [sameMembers]
  | (j, x) :: ms, (k, y) :: ns =>
    simp [sameMembers, same_iff x y, sameMembers_iff ms ns]

end

instance : DecidableEq Json := fun x y =>
  decidable_of_iff (same x y = true) (same_iff x y)

/-! ## Parts of a value -/

/-- The members that are present, in order. -/
def ofFields (fields : List (String × Option Json)) : Json :=
  object (fields.filterMap fun f => f.2.map fun v => (f.1, v))

/-- The object of a dictionary of texts. -/
def ofTexts (d : Dict String String) : Json :=
  object (d.entries.map fun e => (e.1, string e.2))

/-- The array of a list of texts. -/
def ofStrings (xs : List String) : Json := array (xs.map string)

/-- The number of an integer that fits 64 bits. -/
def ofInt : Int → Json
  | .ofNat n => number (.natural n)
  | .negSucc n => number (.negative (n + 1))

/-- The number of a natural number that fits 64 bits. -/
def ofNat (n : Nat) : Json := number (.natural n)

/-! ## The form in which objects are compared -/

mutual

/-- The value with the members of every object in order of their names, the last of a repeated
name kept. -/
def canonical : Json → Json
  | array xs => array (canonicalItems xs)
  | object ms => object (Dict.ofList (canonicalMembers ms)).entries
  | null => null
  | bool b => bool b
  | number n => number n
  | string s => string s

/-- `canonical` of every item. -/
def canonicalItems : List Json → List Json
  | [] => []
  | x :: xs => canonical x :: canonicalItems xs

/-- `canonical` of every member. -/
def canonicalMembers : List (String × Json) → List (String × Json)
  | [] => []
  | (k, x) :: ms => (k, canonical x) :: canonicalMembers ms

end

mutual

/-- The value with every floating-point zero taken as positive. -/
def unsignedZeros : Json → Json
  | array xs => array (unsignedZeroItems xs)
  | object ms => object (unsignedZeroMembers ms)
  | number (.float x) => number (.float ⟨x.negative && x.magnitude != 0, x.magnitude⟩)
  | number n => number n
  | null => null
  | bool b => bool b
  | string s => string s

/-- `unsignedZeros` of every item. -/
def unsignedZeroItems : List Json → List Json
  | [] => []
  | x :: xs => unsignedZeros x :: unsignedZeroItems xs

/-- `unsignedZeros` of every member. -/
def unsignedZeroMembers : List (String × Json) → List (String × Json)
  | [] => []
  | (k, x) :: ms => (k, unsignedZeros x) :: unsignedZeroMembers ms

end

end Json

end PullSecrets
