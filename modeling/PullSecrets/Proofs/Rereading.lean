import PullSecrets.Json.Node
import PullSecrets.Json.Writer

/-!
# Texts that are read again

A value that is written is read again as it was: the reader, which takes one character at a time,
comes out of the text of a value with the tree of this value, in whatever array or object the text
stands. Numbers are left out here, since none of the values that are written and read again holds
any.

## Main facts

* `Json.Tree.run_text`, `Json.Tree.run_name`: a text is read back, as a value or as a name.
* `Json.Tree.ofString?_render`: a value without numbers is read back.
* `Json.Tree.value?_ofValue`: the tree of a value that is not too deep has this value.
-/

namespace PullSecrets.Json

/-! ## Values without numbers -/

mutual

/-- Whether a value holds no number. -/
def numberless : Json → Bool
  | null => true
  | bool _ => true
  | number _ => false
  | string _ => true
  | array xs => numberlessItems xs
  | object ms => numberlessMembers ms

/-- Whether no item holds a number. -/
def numberlessItems : List Json → Bool
  | [] => true
  | x :: xs => numberless x && numberlessItems xs

/-- Whether no member holds a number. -/
def numberlessMembers : List (String × Json) → Bool
  | [] => true
  | (_, x) :: ms => numberless x && numberlessMembers ms

end

theorem numberlessItems_iff {xs : List Json} :
    numberlessItems xs = true ↔ ∀ x ∈ xs, x.numberless = true := by
  induction xs with
  | nil => simp [numberlessItems]
  | cons x xs ih => simp [numberlessItems, ih]

theorem numberlessMembers_iff {ms : List (String × Json)} :
    numberlessMembers ms = true ↔ ∀ m ∈ ms, m.2.numberless = true := by
  induction ms with
  | nil => simp [numberlessMembers]
  | cons m ms ih => simp [numberlessMembers, ih]

namespace Tree

/-! ## Texts -/

/-- The digits of a control character are read back as its number. -/
theorem digit?_digitChar {n : Nat} (h : n < 16) : Text.Hex.digit? n.digitChar = some n := by
  revert h
  revert n
  decide

/-- A character that is written in a text is read back as its number. -/
theorem run_escape (frames : List Frame) (units : List Nat) (c : Char) :
    run ⟨frames, .text units .closed⟩ (escape c) =
      some ⟨frames, .text (c.toNat :: units) .closed⟩ := by
  rw [escape]
  split
  · next h => subst h; rfl
  split
  · next h => subst h; rfl
  split
  · next h => subst h; rfl
  split
  · next h => subst h; rfl
  split
  · next h => subst h; rfl
  split
  · next h => subst h; rfl
  split
  · next h => subst h; rfl
  split
  next control =>
    have high := digit?_digitChar (show c.toNat / 16 < 16 by omega)
    have low := digit?_digitChar (show c.toNat % 16 < 16 by omega)
    have zero : Text.Hex.digit? '0' = some 0 := by decide
    have value : 16 * (c.toNat / 16) + c.toNat % 16 = c.toNat := by omega
    simp [run, step, inText, high, low, zero, value]
  next quote backslash _ _ _ _ _ control =>
    simp [run, step, inText, quote, backslash, control]

theorem run_flatMap_escape (frames : List Frame) (units : List Nat) (cs : List Char) :
    run ⟨frames, .text units .closed⟩ (cs.flatMap escape) =
      some ⟨frames, .text ((cs.map Char.toNat).reverse ++ units) .closed⟩ := by
  induction cs generalizing units with
  | nil => rfl
  | cons c cs ih =>
    rw [List.flatMap_cons, run_append, run_escape]
    simp [ih]

/-- No character is half of a pair. -/
theorem not_surrogate (c : Char) : isHigh c.toNat = false ∧ isLow c.toNat = false := by
  have valid := c.valid
  have number : c.toNat = c.val.toNat := rfl
  simp only [isHigh, isLow, Bool.and_eq_false_iff, decide_eq_false_iff_not, number]
  simp only [UInt32.isValidChar, Nat.isValidChar] at valid
  omega

/-- The numbers of characters are read back as these characters. -/
theorem ofUnits?_map_toNat (cs : List Char) : ofUnits? (cs.map Char.toNat) = some cs := by
  induction cs with
  | nil => rfl
  | cons c cs ih =>
    obtain ⟨high, low⟩ := not_surrogate c
    cases cs with
    | nil => simp [ofUnits?, high, low]
    | cons d ds =>
      rw [List.map_cons, List.map_cons, ofUnits?, ← List.map_cons, ih]
      simp [high, low]

/-! ## Where a value may stand -/

/-- Whether a value may come next in what is open. -/
def Accepts : List Frame → Prop
  | .names _ :: _ => False
  | _ => True

/-- The reader comes to the end of a text that it takes for a value. -/
theorem endText_value {frames : List Frame} (accepts : Accepts frames) (s : String) :
    endText frames (s.toList.map Char.toNat).reverse =
      ⟨frames, .complete (.string (some s))⟩ := by
  rw [endText, List.reverse_reverse, ofUnits?_map_toNat, Option.map_some, String.ofList_toList]
  rintro done outer rfl
  exact accepts

/-- The reader comes to the end of a text that it takes for a name. -/
theorem endText_name (done : List (Option String × Tree)) (outer : List Frame) (s : String) :
    endText (.names done :: outer) (s.toList.map Char.toNat).reverse =
      ⟨.value done (some s) :: outer, .colonDue⟩ := by
  rw [endText, List.reverse_reverse, ofUnits?_map_toNat, Option.map_some, String.ofList_toList]

/-- After its first quotation mark a text is read to its end. -/
theorem run_quoted (frames : List Frame) (s : String) :
    run ⟨frames, .text [] .closed⟩ (s.toList.flatMap escape ++ ['"']) =
      some (endText frames (s.toList.map Char.toNat).reverse) := by
  rw [run_append, run_flatMap_escape, List.append_nil]
  rfl

/-- A text is read back as a value. -/
theorem run_text {frames : List Frame} (accepts : Accepts frames) (closable : Bool) (s : String) :
    run ⟨frames, .due closable⟩ (text s) = some ⟨frames, .complete (.string (some s))⟩ := by
  rw [← endText_value accepts]
  exact run_quoted frames s

/-- A text is read back as a name. -/
theorem run_name (done : List (Option String × Tree)) (outer : List Frame) (closable : Bool)
    (s : String) :
    run ⟨.names done :: outer, .nameDue closable⟩ (text s) =
      some ⟨.value done (some s) :: outer, .colonDue⟩ := by
  rw [← endText_name]
  exact run_quoted _ s

/-- A value has been read: it is complete, or it is a bare word that has not been ended yet. -/
inductive Read (frames : List Frame) (t : Tree) : State → Prop
  | complete : Read frames t ⟨frames, .complete t⟩
  | word (done : List Char) (h : ofWord? done.reverse = some t) : Read frames t ⟨frames, .word done⟩

/-- A character that is in no word ends the value. -/
theorem Read.step {frames : List Frame} {t : Tree} {s : State} (read : Read frames t s) {c : Char}
    (h : isWord c = false) : step s c = afterValue frames t c := by
  cases read with
  | complete => rfl
  | word done known => simp [Tree.step, h, known]

/-- The end of the whole text ends the value. -/
theorem Read.finish {t : Tree} {s : State} (read : Read [] t s) : finish s = some t := by
  cases read with
  | complete => rfl
  | word done known => exact known

/-! ## Values -/

mutual

/-- A value is read back wherever it may stand. -/
theorem run_chars (frames : List Frame) (accepts : Accepts frames) (closable : Bool) (v : Json)
    (h : v.numberless = true) :
    ∃ s, run ⟨frames, .due closable⟩ v.chars = some s ∧ Read frames (ofValue v) s := by
  match v with
  | .null => exact ⟨_, rfl, .word _ rfl⟩
  | .bool true => exact ⟨_, rfl, .word _ rfl⟩
  | .bool false => exact ⟨_, rfl, .word _ rfl⟩
  | .number n => cases h
  | .string s => exact ⟨_, run_text accepts closable s, .complete⟩
  | .array [] => exact ⟨_, rfl, .complete⟩
  | .object [] => exact ⟨_, rfl, .complete⟩
  | .array (x :: xs) =>
    rw [numberless, numberlessItems, Bool.and_eq_true] at h
    obtain ⟨s, first, read⟩ := run_chars (.items [] :: frames) trivial true x h.1
    refine ⟨_, ?_, .complete⟩
    have opened : step ⟨frames, .due closable⟩ '[' = some ⟨.items [] :: frames, .due true⟩ := rfl
    rw [chars, run, opened, Option.bind_some, run_append, first, Option.bind_some,
      run_moreItems xs h.2 read]
    rfl
  | .object ((k, x) :: ms) =>
    rw [numberless, numberlessMembers, Bool.and_eq_true] at h
    obtain ⟨s, first, read⟩ :=
      run_chars (.value [] (some k) :: frames) trivial false x h.1
    refine ⟨_, ?_, .complete⟩
    have opened : step ⟨frames, .due closable⟩ '\x7b' =
      some ⟨.names [] :: frames, .nameDue true⟩ := rfl
    have colon : step ⟨.value [] (some k) :: frames, .colonDue⟩ ':' =
      some ⟨.value [] (some k) :: frames, .due false⟩ := rfl
    rw [chars, run, opened, Option.bind_some, run_append, run_name, Option.bind_some, run, colon,
      Option.bind_some, run_append, first, Option.bind_some, run_moreMembers ms h.2 read]
    rfl

/-- The items that are left are read back, and the array is complete. -/
theorem run_moreItems {frames : List Frame} {done : List Tree} {t : Tree} {s : State}
    (xs : List Json) (h : numberlessItems xs = true) (read : Read (.items done :: frames) t s) :
    run s (moreItems xs) =
      some ⟨frames, .complete (.array ((t :: done).reverse ++ ofItems xs))⟩ := by
  match xs with
  | [] =>
    rw [moreItems, run, read.step (by decide), ofItems, List.append_nil]
    rfl
  | x :: xs =>
    rw [numberlessItems, Bool.and_eq_true] at h
    obtain ⟨s', next, read'⟩ :=
      run_chars (.items (t :: done) :: frames) trivial false x h.1
    have comma : afterValue (.items done :: frames) t ',' =
      some ⟨.items (t :: done) :: frames, .due false⟩ := rfl
    rw [moreItems, run, read.step (by decide), comma, Option.bind_some, run_append, next,
      Option.bind_some, run_moreItems xs h.2 read', ofItems]
    simp

/-- The members that are left are read back, and the object is complete. -/
theorem run_moreMembers {frames : List Frame} {done : List (Option String × Tree)}
    {name : Option String} {t : Tree} {s : State} (ms : List (String × Json))
    (h : numberlessMembers ms = true) (read : Read (.value done name :: frames) t s) :
    run s (moreMembers ms) =
      some ⟨frames, .complete (.object (((name, t) :: done).reverse ++ ofMembers ms))⟩ := by
  match ms with
  | [] =>
    rw [moreMembers, run, read.step (by decide), ofMembers, List.append_nil]
    rfl
  | (k, x) :: ms =>
    rw [numberlessMembers, Bool.and_eq_true] at h
    obtain ⟨s', next, read'⟩ :=
      run_chars (.value ((name, t) :: done) (some k) :: frames) trivial false x h.1
    have comma : afterValue (.value done name :: frames) t ',' =
      some ⟨.names ((name, t) :: done) :: frames, .nameDue false⟩ := rfl
    have colon : step ⟨.value ((name, t) :: done) (some k) :: frames, .colonDue⟩ ':' =
      some ⟨.value ((name, t) :: done) (some k) :: frames, .due false⟩ := rfl
    rw [moreMembers, run, read.step (by decide), comma, Option.bind_some, run_append, run_name,
      Option.bind_some, run, colon, Option.bind_some, run_append, next, Option.bind_some,
      run_moreMembers ms h.2 read', ofMembers]
    simp

end

/-- A value without numbers is read back from its text. -/
theorem ofString?_render {v : Json} (h : v.numberless = true) :
    ofString? v.render = some (ofValue v) := by
  obtain ⟨s, run, read⟩ := run_chars [] trivial false v h
  rw [ofString?, render, String.toList_ofList, ofChars?, start, run]
  exact read.finish

end Tree

/-! ## Values that are not too deep -/

mutual

/-- The number of arrays and objects that stand inside each other. -/
def depth : Json → Nat
  | array xs => depthOfItems xs + 1
  | object ms => depthOfMembers ms + 1
  | null => 0
  | bool _ => 0
  | number _ => 0
  | string _ => 0

/-- The depth of the deepest item. -/
def depthOfItems : List Json → Nat
  | [] => 0
  | x :: xs => max (depth x) (depthOfItems xs)

/-- The depth of the deepest member. -/
def depthOfMembers : List (String × Json) → Nat
  | [] => 0
  | (_, x) :: ms => max (depth x) (depthOfMembers ms)

end

theorem depthOfMembers_le {ms : List (String × Json)} {n : Nat}
    (h : ∀ m ∈ ms, m.2.depth ≤ n) : depthOfMembers ms ≤ n := by
  induction ms with
  | nil => exact Nat.zero_le n
  | cons m ms ih =>
    rw [depthOfMembers]
    exact Nat.max_le.2 ⟨h m List.mem_cons_self, ih fun m' hm => h m' (List.mem_cons_of_mem m hm)⟩

namespace Tree

mutual

/-- The tree of a value has this value, if there is room for its depth. -/
theorem value?_ofValue {room : Nat} (v : Json) (h : v.depth ≤ room) :
    value? room (ofValue v) = some v := by
  match v with
  | .null | .bool _ => rw [ofValue, value?]
  | .number _ | .string _ =>
    rw [ofValue, value?]
    rfl
  | .array xs =>
    rw [depth] at h
    rw [ofValue, value?, if_neg (by omega), items?_ofItems xs (by omega)]
    rfl
  | .object ms =>
    rw [depth] at h
    rw [ofValue, value?, if_neg (by omega), members?_ofMembers ms (by omega)]
    rfl

theorem items?_ofItems {room : Nat} (xs : List Json) (h : depthOfItems xs ≤ room) :
    items? room (ofItems xs) = some xs := by
  match xs with
  | [] => rw [ofItems, items?]
  | x :: xs =>
    rw [depthOfItems] at h
    rw [ofItems, items?, value?_ofValue x (by omega), items?_ofItems xs (by omega)]
    rfl

theorem members?_ofMembers {room : Nat} (ms : List (String × Json))
    (h : depthOfMembers ms ≤ room) : members? room (ofMembers ms) = some ms := by
  match ms with
  | [] => rw [ofMembers, members?]
  | (k, x) :: ms =>
    rw [depthOfMembers] at h
    rw [ofMembers, members?, value?_ofValue x (by omega), members?_ofMembers ms (by omega)]
    rfl

end

theorem ofItems_eq (xs : List Json) : ofItems xs = xs.map ofValue := by
  induction xs with
  | nil => rfl
  | cons x xs ih => rw [ofItems, ih, List.map_cons]

theorem ofMembers_eq (ms : List (String × Json)) :
    ofMembers ms = ms.map fun m => (some m.1, ofValue m.2) := by
  induction ms with
  | nil => rfl
  | cons m ms ih => rw [ofMembers, ih, List.map_cons]

end Tree

/-! ## Nodes of values -/

/-- The members that are present, in order. -/
def present (fields : List (String × Option Json)) : List (String × Json) :=
  fields.filterMap fun f => f.2.map fun v => (f.1, v)

theorem filter_present (p : String → Bool) (fields : List (String × Option Json)) :
    (present fields).filter (fun m => p m.1) = present (fields.filter fun f => p f.1) := by
  induction fields with
  | nil => rfl
  | cons f fields ih =>
    obtain ⟨name, _ | v⟩ := f
    · by_cases h : p name <;> simpa [present, h] using ih
    · by_cases h : p name <;> simpa [present, h] using ih

namespace Node

/-- The node of a value. -/
def ofValue (room : Nat) (v : Json) : Node := ⟨room, Tree.ofValue v⟩

variable (room : Nat)

theorem items?_ofValue (xs : List Json) :
    (ofValue (room + 1) (.array xs)).items? = some (xs.map (ofValue room)) := by
  rw [ofValue, Tree.ofValue, items?, Tree.ofItems_eq]
  simp only [Nat.add_one_ne_zero, if_false, Nat.add_sub_cancel, List.map_map]
  rfl

theorem members?_ofValue (ms : List (String × Json)) :
    (ofValue (room + 1) (.object ms)).members? =
      some (ms.map fun m => (m.1, ofValue room m.2)) := by
  rw [ofValue, Tree.ofValue, members?, Tree.ofMembers_eq]
  simp only [Nat.add_one_ne_zero, if_false, Nat.add_sub_cancel]
  induction ms with
  | nil => rfl
  | cons m ms ih =>
    rw [List.map_cons, List.mapM_cons, ih]
    rfl

@[simp] theorem text?_ofValue (s : String) : (ofValue room (.string s)).text? = some s := rfl

/-- Written items are read back if each of them is. -/
theorem list?_ofValue {α : Type} {read : Node → Option α} {write : α → Json}
    (readable : ∀ a, read (ofValue room (write a)) = some a) (as : List α) :
    (ofValue (room + 1) (.array (as.map write))).list? read = some as := by
  rw [list?, items?_ofValue, Option.bind_some]
  induction as with
  | nil => rfl
  | cons a as ih =>
    rw [List.map_cons, List.map_cons, List.mapM_cons, readable, ih]
    rfl

@[simp] theorem strings?_ofStrings (xs : List String) :
    (ofValue (room + 1) (.ofStrings xs)).strings? = some xs :=
  list?_ofValue room (fun _ => rfl) xs

@[simp] theorem texts?_ofTexts (d : Dict String String) :
    (ofValue (room + 1) (.ofTexts d)).texts? = some d := by
  rw [texts?, dict?, ofTexts, members?_ofValue, Option.bind_some]
  have entries : (((d.entries.map fun e => (e.1, string e.2)).map fun m =>
      (m.1, ofValue room m.2)).mapM fun m => m.2.text?.map fun a => (m.1, a)) =
      some d.entries := by
    induction d.entries with
    | nil => rfl
    | cons e es ih =>
      rw [List.map_cons, List.map_cons, List.mapM_cons, ih]
      rfl
  rw [entries, Option.map_some, Dict.ofList_entries]

/-! ### Fields -/

theorem members?_ofFields (fields : List (String × Option Json)) :
    (ofValue (room + 1) (ofFields fields)).members? =
      some ((present fields).map fun m => (m.1, ofValue room m.2)) :=
  members?_ofValue room _

/-- The members of an object that stem from one of its fields. -/
theorem filter_members {fields : List (String × Option Json)} {p : String → Bool} {name : String}
    {v : Option Json} (h : fields.filter (fun f => p f.1) = [(name, v)]) :
    ((present fields).map fun m => (m.1, ofValue room m.2)).filter (fun m => p m.1) =
      (v.map fun v => (name, ofValue room v)).toList := by
  rw [List.filter_map]
  show ((present fields).filter fun m => p m.1).map _ = _
  rw [filter_present, h]
  cases v <;> rfl

/-- A field of a record is read back if no other field goes by one of its names. -/
theorem only_members {fields : List (String × Option Json)} {ns : List String} {name : String}
    {v : Option Json} (h : (fields.filter fun f => ns.contains f.1) = [(name, v)]) :
    only ((present fields).map fun m => (m.1, ofValue room m.2)) ns =
      some (v.map (ofValue room)) := by
  rw [only, filter_members room h]
  cases v <;> rfl

/-- The fields of a record are read back if each of them goes by names of its own. -/
theorem record?_ofFields {fields : List (String × Option Json)} {names : List (List String)}
    (known : (names.map fun ns => fields.filter fun f => ns.contains f.1) =
      fields.map fun f => [f]) :
    (ofValue (room + 1) (ofFields fields)).record? names =
      some (fields.map fun f => f.2.map (ofValue room)) := by
  have object : (ofValue (room + 1) (ofFields fields)).items? = none := rfl
  have all : ∀ (names : List (List String)) (found : List (String × Option Json)),
      (names.map fun ns => fields.filter fun f => ns.contains f.1) = found.map (fun f => [f]) →
      names.mapM (only ((present fields).map fun m => (m.1, ofValue room m.2))) =
        some (found.map fun f => f.2.map (ofValue room)) := by
    intro names
    induction names with
    | nil =>
      intro found h
      obtain rfl : found = [] := by simpa using h.symm
      rfl
    | cons ns names ih =>
      intro found h
      obtain _ | ⟨f, found⟩ := found
      · cases h
      · rw [List.map_cons, List.map_cons, List.cons.injEq] at h
        rw [List.mapM_cons, only_members room h.1, ih found h.2]
        rfl
  rw [record?, object, members?_ofFields]
  exact all names fields known

section Optional

variable {α : Type} {read : Node → Option α} {write : α → Json}
  (readable : ∀ a, read (ofValue room (write a)) = some a)
  (there : ∀ a, Tree.ofValue (write a) ≠ .null)

include readable there

/-- A value that is not written as null is not taken for an absent one. -/
theorem optional_ofValue (a : α) : optional read (ofValue room (write a)) = some (some a) := by
  have present := there a
  rw [optional, readable, ofValue]
  cases h : Tree.ofValue (write a) with
  | null => exact absurd h present
  | bool | number | string | array | object => rfl

/-- A field of a record that may be absent is read back. -/
theorem orElse_optional_map (a : Option α) :
    orElse none (optional read) ((a.map write).map (ofValue room)) = some a := by
  cases a with
  | none => rfl
  | some a => exact optional_ofValue room readable there a

/-- A member of a lenient object is read back. -/
theorem field_members {fields : List (String × Option Json)} {name : String} (a : Option α)
    (h : (fields.filter fun f => f.1 == name) = [(name, a.map write)]) :
    field ((present fields).map fun m => (m.1, ofValue room m.2)) name read = some a := by
  rw [field, filter_members room (p := (· == name)) h]
  cases a with
  | none => rfl
  | some a => simp [optional_ofValue room readable there a]

end Optional

end Node

end PullSecrets.Json
