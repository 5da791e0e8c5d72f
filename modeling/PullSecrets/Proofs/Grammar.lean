import PullSecrets.Proofs.Rereading
import Mathlib.Computability.Language
import Mathlib.Order.CompletePartialOrder

/-!
# The grammar of JSON texts

A tree has many texts: blanks may stand between the parts of a text, and a character of a string
may be written as it is or as an escape. The texts of a tree are a formal language, which is put
together from the languages of its parts, and the reader finds the tree in each of them.

## Main facts

* `Json.Tree.quoted_some`: a string is spelled one character after the other.
* `Json.Tree.words_of_numeral`: a numeral is made of the characters of words.
* `Json.Tree.run_language`: a text of a tree is read as this tree, wherever it may stand.
-/

namespace PullSecrets.Json

namespace Tree

/-! ## The grammar -/

/-- One character. -/
def char (c : Char) : Language Char := {[c]}

/-- The characters that may stand between the parts of a text, any number of them. -/
def blank : Language Char := {cs | ∀ c ∈ cs, isSpace c = true}

/-- A part of a text with blanks around it. -/
def padded (l : Language Char) : Language Char := blank * l * blank

/-- Parts with commas between them. -/
def separated : List (Language Char) → Language Char
  | [] => blank
  | [l] => padded l
  | l :: l' :: ls => padded l * char ',' * separated (l' :: ls)

/-- The letters that stand for one code unit behind a backslash. -/
def letters : List (Char × Nat) :=
  [('"', 0x22), ('\\', 0x5C), ('/', 0x2F), ('b', 8), ('t', 9), ('n', 10), ('f', 12), ('r', 13)]

/-- The number with the given hexadecimal digits. -/
def hex? (ds : List Char) : Option Nat :=
  ds.foldlM (fun value c => (Text.Hex.digit? c).map (16 * value + ·)) 0

/-- The ways to write a code unit of a text. -/
inductive Writes : Nat → List Char → Prop
  /-- A character as it is. -/
  | plain (c : Char) (quote : c ≠ '"') (backslash : c ≠ '\\') (control : 0x20 ≤ c.toNat) :
    Writes c.toNat [c]
  /-- A letter behind a backslash. -/
  | letter {c : Char} {unit : Nat} (h : (c, unit) ∈ letters) : Writes unit ['\\', c]
  /-- Four digits behind a backslash and the letter `u`. -/
  | digits {ds : List Char} {unit : Nat} (four : ds.length = 4) (h : hex? ds = some unit) :
    Writes unit ('\\' :: 'u' :: ds)

/-- The texts of a code unit. -/
def unit (n : Nat) : Language Char := {cs | Writes n cs}

/-- The texts of code units in a row. -/
def units (us : List Nat) : Language Char := (us.map unit).prod

/-- A text between quotation marks, in any of its spellings. -/
def quoted (s : Option String) : Language Char :=
  {cs | ∃ us, (ofUnits? us).map String.ofList = s ∧ cs ∈ char '"' * units us * char '"'}

mutual

/-- The texts of a tree, without blanks at their ends. -/
def language : Tree → Language Char
  | .null => {['n', 'u', 'l', 'l']}
  | .bool true => {['t', 'r', 'u', 'e']}
  | .bool false => {['f', 'a', 'l', 's', 'e']}
  | .number n => {cs | (Numeral.ofChars? cs).map Numeral.number? = some n}
  | .string s => quoted s
  | .array items => char '[' * separated (itemLanguages items) * char ']'
  | .object members => char '\x7b' * separated (memberLanguages members) * char '\x7d'

/-- The texts of every item. -/
def itemLanguages : List Tree → List (Language Char)
  | [] => []
  | t :: ts => language t :: itemLanguages ts

/-- The texts of every member. -/
def memberLanguages : List (Option String × Tree) → List (Language Char)
  | [] => []
  | (name, t) :: ms => quoted name * blank * char ':' * blank * language t :: memberLanguages ms

end

/-! ## Brackets and commas -/

theorem mem_char (c : Char) : [c] ∈ char c := rfl

theorem mem_between {a b : Char} {l : Language Char} {cs : List Char} :
    cs ∈ char a * l * char b ↔ ∃ ds ∈ l, cs = a :: (ds ++ [b]) := by
  constructor
  · intro h
    obtain ⟨_, front, _, rfl, rfl⟩ := Language.mem_mul.1 h
    obtain ⟨_, rfl, ds, inside, rfl⟩ := Language.mem_mul.1 front
    exact ⟨ds, inside, rfl⟩
  · rintro ⟨ds, inside, rfl⟩
    exact Language.append_mem_mul (Language.append_mem_mul (mem_char a) inside) (mem_char b)

theorem mem_before {a : Char} {l m : Language Char} {cs : List Char} :
    cs ∈ l * char a * m ↔ ∃ ds ∈ l, ∃ es ∈ m, cs = ds ++ a :: es := by
  constructor
  · intro h
    obtain ⟨_, front, es, behind, rfl⟩ := Language.mem_mul.1 h
    obtain ⟨ds, before, _, rfl, rfl⟩ := Language.mem_mul.1 front
    exact ⟨ds, before, es, behind, by simp⟩
  · rintro ⟨ds, before, es, behind, rfl⟩
    rw [List.append_cons]
    exact Language.append_mem_mul (Language.append_mem_mul before (mem_char a)) behind

/-! ## The characters of a text -/

/-- The first half of the pair that stands for a large character. -/
def firstHalf (c : Char) : Nat := 0xD800 + (c.toNat - 0x10000) / 0x400

/-- The second half of the pair that stands for a large character. -/
def secondHalf (c : Char) : Nat := 0xDC00 + (c.toNat - 0x10000) % 0x400

/-- The texts of a character: it is one code unit, or a pair of them if it is large. -/
def spellings (c : Char) : Language Char :=
  {cs | cs ∈ unit c.toNat ∨ 0x10000 ≤ c.toNat ∧ cs ∈ unit (firstHalf c) * unit (secondHalf c)}

theorem hex?_concat (ds : List Char) (c : Char) :
    hex? (ds ++ [c]) = (hex? ds).bind fun value => (Text.Hex.digit? c).map (16 * value + ·) := by
  simp [hex?, List.foldlM_append]

theorem hex?_lt {ds : List Char} {n : Nat} (h : hex? ds = some n) : n < 16 ^ ds.length := by
  induction ds using List.reverseRecOn generalizing n with
  | nil =>
    cases h
    decide
  | append_singleton ds c ih =>
    rw [hex?_concat, Option.bind_eq_some_iff] at h
    obtain ⟨value, known, last⟩ := h
    obtain ⟨d, digit, rfl⟩ := Option.map_eq_some_iff.1 last
    have := ih known
    have := Text.Hex.digit?_lt digit
    rw [List.length_append, List.length_singleton, pow_succ]
    omega

/-- A code unit that can be written is the number of a character, or half of a pair. -/
theorem Writes.bounded {n : Nat} {cs : List Char} (h : Writes n cs) (high : isHigh n = false)
    (low : isLow n = false) : (Char.ofNat n).toNat = n := by
  have valid : n.isValidChar := by
    cases h with
    | plain c => exact c.valid
    | letter h =>
      simp only [letters, List.mem_cons, Prod.mk.injEq, List.not_mem_nil, or_false] at h
      left
      omega
    | digits four h =>
      have := hex?_lt h
      rw [four] at this
      simp only [isHigh, isLow, Bool.and_eq_false_iff, decide_eq_false_iff_not] at high low
      simp only [Nat.isValidChar]
      omega
  rw [Char.ofNat, dif_pos valid]
  rfl

/-- The number of a character is read as this character. -/
theorem ofUnits?_toNat_cons (c : Char) (us : List Nat) :
    ofUnits? (c.toNat :: us) = (ofUnits? us).map (c :: ·) := by
  obtain ⟨high, low⟩ := not_surrogate c
  cases us with
  | nil => simp [ofUnits?, high, low]
  | cons u us => simp [ofUnits?, high, low]

/-- The halves of a pair are read as their character. -/
theorem ofUnits?_halves_cons {c : Char} (large : 0x10000 ≤ c.toNat) (us : List Nat) :
    ofUnits? (firstHalf c :: secondHalf c :: us) = (ofUnits? us).map (c :: ·) := by
  have bound : c.toNat < 0x110000 := by
    rcases c.valid with h | h
    · exact Nat.lt_trans h (by decide)
    · exact h.2
  have high : isHigh (firstHalf c) = true := by
    rw [isHigh, Bool.and_eq_true, decide_eq_true_eq, decide_eq_true_eq, firstHalf]
    omega
  have low : isLow (secondHalf c) = true := by
    rw [isLow, Bool.and_eq_true, decide_eq_true_eq, decide_eq_true_eq, secondHalf]
    omega
  have joined : 0x10000 + (firstHalf c - 0xD800) * 0x400 + (secondHalf c - 0xDC00) = c.toNat := by
    rw [firstHalf, secondHalf]
    omega
  rw [ofUnits?, if_pos high, if_pos low, joined, Char.ofNat_toNat]

/-- Halves that mean a character are the halves of this character. -/
theorem halves_of_joined {u v : Nat} (high : isHigh u = true) (low : isLow v = true) {c : Char}
    (joined : c = Char.ofNat (0x10000 + (u - 0xD800) * 0x400 + (v - 0xDC00))) :
    0x10000 ≤ c.toNat ∧ firstHalf c = u ∧ secondHalf c = v := by
  rw [isHigh, Bool.and_eq_true, decide_eq_true_eq, decide_eq_true_eq] at high
  rw [isLow, Bool.and_eq_true, decide_eq_true_eq, decide_eq_true_eq] at low
  have valid : (0x10000 + (u - 0xD800) * 0x400 + (v - 0xDC00)).isValidChar := by
    right
    omega
  have number : c.toNat = 0x10000 + (u - 0xD800) * 0x400 + (v - 0xDC00) := by
    rw [joined, Char.ofNat, dif_pos valid]
    rfl
  rw [firstHalf, secondHalf, number]
  omega

/-- Code units that mean some characters are texts of these characters. -/
theorem units_le_spellings {us : List Nat} {ds : List Char} (h : ofUnits? us = some ds) :
    units us ≤ (ds.map spellings).prod := by
  have one {u : Nat} {us : List Nat} {ds : List Char} (high : isHigh u = false)
      (low : isLow u = false) (ih : units us ≤ (ds.map spellings).prod) :
      units (u :: us) ≤ ((Char.ofNat u :: ds).map spellings).prod := by
    rw [units, List.map_cons, List.map_cons, List.prod_cons, List.prod_cons]
    rintro _ ⟨as, first, bs, rest, rfl⟩
    refine Language.append_mem_mul (.inl ?_) (ih rest)
    rwa [first.bounded high low]
  -- The cases are those of the reader: two halves, half of a pair alone, and a whole character.
  fun_induction ofUnits? us generalizing ds with
  | case1 =>
    cases h
    exact le_rfl
  | case2 u v us high low ih =>
    obtain ⟨ds, rest, rfl⟩ := Option.map_eq_some_iff.1 h
    obtain ⟨large, first, second⟩ := halves_of_joined high low rfl
    rw [units, List.map_cons, List.map_cons, List.map_cons, List.prod_cons, List.prod_cons,
      List.prod_cons, ← mul_assoc]
    rintro _ ⟨as, pair, bs, others, rfl⟩
    refine Language.append_mem_mul (.inr ⟨large, ?_⟩) (ih rest others)
    rwa [first, second]
  | case3 => cases h
  | case4 => cases h
  | case5 u v us high low ih =>
    obtain ⟨ds, rest, rfl⟩ := Option.map_eq_some_iff.1 h
    exact one (by simpa using high) (by simpa using low) (ih rest)
  | case6 => cases h
  | case7 u half =>
    cases h
    rw [Bool.or_eq_true, not_or, Bool.not_eq_true, Bool.not_eq_true] at half
    exact one half.1 half.2 le_rfl

/-- Texts of some characters are code units that mean these characters. -/
theorem exists_units_of_spellings {ds cs : List Char} (h : cs ∈ (ds.map spellings).prod) :
    ∃ us, ofUnits? us = some ds ∧ cs ∈ units us := by
  induction ds generalizing cs with
  | nil => exact ⟨[], rfl, h⟩
  | cons d ds ih =>
    rw [List.map_cons, List.prod_cons] at h
    obtain ⟨as, first, bs, rest, rfl⟩ := Language.mem_mul.1 h
    obtain ⟨us, meaning, mem⟩ := ih rest
    rcases first with whole | ⟨large, halves⟩
    · refine ⟨d.toNat :: us, by rw [ofUnits?_toNat_cons, meaning, Option.map_some], ?_⟩
      exact Language.append_mem_mul whole mem
    · refine ⟨firstHalf d :: secondHalf d :: us, ?_, ?_⟩
      · rw [ofUnits?_halves_cons large, meaning, Option.map_some]
      · rw [units, List.map_cons, List.map_cons, List.prod_cons, List.prod_cons, ← mul_assoc]
        exact Language.append_mem_mul halves mem

/-- A text is spelled one character after the other. -/
theorem quoted_some (s : String) :
    quoted (some s) = char '"' * (s.toList.map spellings).prod * char '"' := by
  ext cs
  constructor
  · rintro ⟨us, meaning, spelled⟩
    obtain ⟨ds, known, rfl⟩ := Option.map_eq_some_iff.1 meaning
    obtain ⟨es, inside, rfl⟩ := mem_between.1 spelled
    rw [String.toList_ofList]
    exact mem_between.2 ⟨es, units_le_spellings known inside, rfl⟩
  · intro h
    obtain ⟨es, inside, rfl⟩ := mem_between.1 h
    obtain ⟨us, known, mem⟩ := exists_units_of_spellings inside
    refine ⟨us, ?_, mem_between.2 ⟨es, mem, rfl⟩⟩
    rw [known, Option.map_some, String.ofList_toList]

/-! ## Bare words -/

/-- The characters of words are not blank. -/
theorem isSpace_of_isWord {c : Char} (h : isWord c = true) : isSpace c = false := by
  by_contra space
  simp only [isSpace, Bool.not_eq_false, Bool.or_eq_true, decide_eq_true_eq] at space
  rcases space with ((rfl | rfl) | rfl) | rfl <;> exact absurd h (by decide)

theorem isWord_of_isSpace {c : Char} (h : isSpace c = true) : isWord c = false := by
  by_contra word
  rw [isSpace_of_isWord (by simpa using word)] at h
  cases h

theorem isWord_of_isDigit {c : Char} (h : c.isDigit = true) : isWord c = true := by
  simp [isWord, Char.isAlphanum, h]

/-- A numeral starts with its digits; if the rest is made of the characters of words, then all of
it is. -/
theorem words_of_digits {cs ds es : List Char} (h : Numeral.digits cs = (ds, es))
    (words : ∀ c ∈ es, isWord c = true) : ∀ c ∈ cs, isWord c = true := by
  cases h
  intro c hc
  rw [← List.takeWhile_append_dropWhile (p := Char.isDigit) (l := cs), List.mem_append] at hc
  rcases hc with digit | rest
  · exact isWord_of_isDigit (List.all_eq_true.1 List.all_takeWhile c digit)
  · exact words c rest

theorem words_cons {c : Char} {cs : List Char} (h : isWord c = true)
    (words : ∀ c ∈ cs, isWord c = true) : ∀ d ∈ c :: cs, isWord d = true :=
  List.forall_mem_cons.2 ⟨h, words⟩

theorem words_of_scale {cs : List Char} {scale : Bool × List Char}
    (h : Numeral.scale? cs = some scale) : ∀ c ∈ cs, isWord c = true := by
  have digits {ds : List Char} {minus : Bool}
      (h : (if (!ds.isEmpty && ds.all Char.isDigit) = true then some (minus, ds) else none) =
        some scale) : ∀ c ∈ ds, isWord c = true := by
    intro c hc
    split at h
    · next all =>
      simp only [Bool.and_eq_true, List.all_eq_true] at all
      exact isWord_of_isDigit (all.2 c hc)
    · cases h
  unfold Numeral.scale? at h
  simp only at h
  split at h
  · exact words_cons (by decide) (digits h)
  · exact words_cons (by decide) (digits h)
  · exact digits h

/-- What may stand behind the digits of a numeral. -/
theorem words_of_exponent {α : Type} {cs : List Char} {f : Bool × List Char → α} {x y : α}
    (h : (match cs with
      | [] => some y
      | 'e' :: cs | 'E' :: cs => (Numeral.scale? cs).map f
      | _ => none) = some x) : ∀ c ∈ cs, isWord c = true := by
  split at h
  · simp
  · obtain ⟨scale, known, -⟩ := Option.map_eq_some_iff.1 h
    exact words_cons (by decide) (words_of_scale known)
  · obtain ⟨scale, known, -⟩ := Option.map_eq_some_iff.1 h
    exact words_cons (by decide) (words_of_scale known)
  · cases h

/-- A numeral is made of the characters of words. -/
theorem words_of_numeral {cs : List Char} {x : Numeral}
    (h : Numeral.ofChars? cs = some x) : ∀ c ∈ cs, isWord c = true := by
  unfold Numeral.ofChars? at h
  split at h
  next minus ds sign =>
  suffices words : ∀ c ∈ ds, isWord c = true by
    split at sign <;> cases sign
    · exact words_cons (by decide) words
    · exact words
  split at h
  next whole es front =>
  refine words_of_digits front ?_
  simp only [Option.bind_eq_bind, Option.bind_eq_some_iff] at h
  obtain ⟨-, -, h⟩ := h
  split at h
  · split at h
    · cases h
    · exact words_cons (by decide) (words_of_digits rfl (words_of_exponent h))
  · exact words_of_exponent h

/-- A word that means a tree is one of its texts. -/
theorem mem_language_of_ofWord? {cs : List Char} {t : Tree} (h : ofWord? cs = some t) :
    cs ∈ language t := by
  unfold ofWord? at h
  split_ifs at h with null yes no
  · cases h
    exact null
  · cases h
    exact yes
  · cases h
    exact no
  · obtain ⟨x, spelled, rfl⟩ := Option.map_eq_some_iff.1 h
    show (Numeral.ofChars? cs).map Numeral.number? = some _
    rw [spelled, Option.map_some]

/-- A character of a word begins or goes on with this word. -/
theorem step_due_word (frames : List Frame) (closable : Bool) {c : Char} (h : isWord c = true) :
    step ⟨frames, .due closable⟩ c = some ⟨frames, .word [c]⟩ := by
  have space := isSpace_of_isWord h
  have bracket : c ≠ '[' := by rintro rfl; cases h
  have brace : c ≠ '\x7b' := by rintro rfl; cases h
  have quote : c ≠ '"' := by rintro rfl; cases h
  simp [step, space, bracket, brace, quote, h]

theorem run_word (frames : List Frame) (done : List Char) {cs : List Char}
    (words : ∀ c ∈ cs, isWord c = true) :
    run ⟨frames, .word done⟩ cs = some ⟨frames, .word (cs.reverse ++ done)⟩ := by
  induction cs generalizing done with
  | nil => rfl
  | cons c cs ih =>
    rw [List.forall_mem_cons] at words
    have taken : step ⟨frames, .word done⟩ c = some ⟨frames, .word (c :: done)⟩ := by
      simp [step, words.1]
    rw [run, taken, Option.bind_some, ih (c :: done) words.2]
    simp

/-- A word that means a tree is read as this tree. -/
theorem read_word (frames : List Frame) (closable : Bool) {cs : List Char} {t : Tree}
    (words : ∀ c ∈ cs, isWord c = true) (known : ofWord? cs = some t) :
    ∃ s, run ⟨frames, .due closable⟩ cs = some s ∧ Read frames t s := by
  cases cs with
  | nil => cases known
  | cons c cs =>
    rw [List.forall_mem_cons] at words
    refine ⟨⟨frames, .word (c :: cs).reverse⟩, ?_, .word _ (by rwa [List.reverse_reverse])⟩
    rw [run, step_due_word frames closable words.1, Option.bind_some, run_word _ _ words.2]
    simp

/-! ## Reading the texts of a tree -/

/-- Blanks change nothing where each of them changes nothing. -/
theorem run_blank {s : State} (stay : ∀ c, isSpace c = true → step s c = some s) {cs : List Char}
    (h : cs ∈ blank) : run s cs = some s := by
  induction cs with
  | nil => rfl
  | cons c cs ih =>
    obtain ⟨space, blank⟩ := List.forall_mem_cons.1 h
    rw [run, stay c space, Option.bind_some, ih blank]

theorem afterValue_space (frames : List Frame) (t : Tree) {c : Char} (h : isSpace c = true) :
    afterValue frames t c = some ⟨frames, .complete t⟩ := by
  simp [afterValue, h]

/-- Blanks behind a value change nothing. -/
theorem Read.run_blank {frames : List Frame} {t : Tree} {s : State} (read : Read frames t s)
    {cs : List Char} (h : cs ∈ blank) : ∃ s', run s cs = some s' ∧ Read frames t s' := by
  cases cs with
  | nil => exact ⟨s, rfl, read⟩
  | cons c cs =>
    obtain ⟨space, blank⟩ := List.forall_mem_cons.1 h
    have ended : Tree.step s c = some ⟨frames, .complete t⟩ := by
      rw [read.step (isWord_of_isSpace space), afterValue_space frames t space]
    refine ⟨⟨frames, .complete t⟩, ?_, .complete⟩
    rw [run, ended, Option.bind_some]
    exact Tree.run_blank (fun _ => afterValue_space frames t) blank

/-- A value with blanks around it is read as the value is. -/
theorem run_padded {start : State} (stay : ∀ c, isSpace c = true → step start c = some start)
    {l : Language Char} {frames : List Frame} {t : Tree}
    (reads : ∀ cs ∈ l, ∃ s, run start cs = some s ∧ Read frames t s) {cs : List Char}
    (h : cs ∈ padded l) : ∃ s, run start cs = some s ∧ Read frames t s := by
  obtain ⟨front, hfront, after, hafter, rfl⟩ := Language.mem_mul.1 h
  obtain ⟨before, hbefore, ds, hds, rfl⟩ := Language.mem_mul.1 hfront
  obtain ⟨s, run_ds, read⟩ := reads ds hds
  obtain ⟨s', run_after, read'⟩ := read.run_blank hafter
  refine ⟨s', ?_, read'⟩
  rw [run_append, run_append, run_blank stay hbefore, Option.bind_some, run_ds, Option.bind_some,
    run_after]

/-- A code unit is read from each of its texts. -/
theorem run_unit (frames : List Frame) (done : List Nat) {n : Nat} {cs : List Char}
    (h : cs ∈ unit n) :
    run ⟨frames, .text done .closed⟩ cs = some ⟨frames, .text (n :: done) .closed⟩ := by
  cases h with
  | plain c quote backslash control =>
    simp [run, step, inText, quote, backslash, Nat.not_lt.2 control]
  | @letter c _ h =>
    simp only [letters, List.mem_cons, Prod.mk.injEq, List.not_mem_nil, or_false] at h
    rcases h with ⟨rfl, rfl⟩ | ⟨rfl, rfl⟩ | ⟨rfl, rfl⟩ | ⟨rfl, rfl⟩ | ⟨rfl, rfl⟩ | ⟨rfl, rfl⟩ |
      ⟨rfl, rfl⟩ | ⟨rfl, rfl⟩ <;> rfl
  | @digits ds _ four h =>
    obtain ⟨a, b, c, d, rfl⟩ : ∃ a b c d, ds = [a, b, c, d] := List.length_eq_four.1 four
    simp only [hex?, List.foldlM_cons, List.foldlM_nil, Option.bind_eq_bind,
      Option.bind_eq_some_iff, Option.map_eq_some_iff, Option.pure_def, Option.some.injEq] at h
    obtain ⟨_, ⟨i, hi, rfl⟩, _, ⟨j, hj, rfl⟩, _, ⟨k, hk, rfl⟩, _, ⟨l, hl, rfl⟩, rfl⟩ := h
    simp [run, step, inText, hi, hj, hk, hl]

theorem run_units (frames : List Frame) (done : List Nat) {us : List Nat} {cs : List Char}
    (h : cs ∈ units us) :
    run ⟨frames, .text done .closed⟩ cs = some ⟨frames, .text (us.reverse ++ done) .closed⟩ := by
  induction us generalizing done cs with
  | nil =>
    obtain rfl := (Language.mem_one cs).1 h
    rfl
  | cons u us ih =>
    rw [units, List.map_cons, List.prod_cons] at h
    obtain ⟨ds, first, es, rest, rfl⟩ := Language.mem_mul.1 h
    rw [run_append, run_unit frames done first, Option.bind_some, ih (u :: done) rest]
    simp

/-- A text between quotation marks is read to its end. -/
theorem run_of_mem_quoted (frames : List Frame) {s : Option String} {cs : List Char}
    (h : cs ∈ quoted s) :
    ∃ us ds, (ofUnits? us).map String.ofList = s ∧ cs = '"' :: ds ∧
      run ⟨frames, .text [] .closed⟩ ds = some (endText frames us.reverse) := by
  obtain ⟨us, meaning, spelled⟩ := h
  obtain ⟨ds, hds, rfl⟩ := mem_between.1 spelled
  refine ⟨us, ds ++ ['"'], meaning, rfl, ?_⟩
  rw [run_append, run_units frames [] hds, Option.bind_some, List.append_nil]
  rfl

/-- A text is read as a value from each of its spellings. -/
theorem run_string {frames : List Frame} (accepts : Accepts frames) (closable : Bool)
    {s : Option String} {cs : List Char} (h : cs ∈ quoted s) :
    run ⟨frames, .due closable⟩ cs = some ⟨frames, .complete (.string s)⟩ := by
  obtain ⟨us, ds, rfl, rfl, run_ds⟩ := run_of_mem_quoted frames h
  have quote : step ⟨frames, .due closable⟩ '"' = some ⟨frames, .text [] .closed⟩ := rfl
  rw [run, quote, Option.bind_some, run_ds, endText, List.reverse_reverse]
  rintro done outer rfl
  exact accepts

/-- A text is read as a name from each of its spellings. -/
theorem run_key (done : List (Option String × Tree)) (outer : List Frame) (closable : Bool)
    {s : Option String} {cs : List Char} (h : cs ∈ quoted s) :
    run ⟨.names done :: outer, .nameDue closable⟩ cs =
      some ⟨.value done s :: outer, .colonDue⟩ := by
  obtain ⟨us, ds, rfl, rfl, run_ds⟩ := run_of_mem_quoted (.names done :: outer) h
  have quote : step ⟨.names done :: outer, .nameDue closable⟩ '"' =
    some ⟨.names done :: outer, .text [] .closed⟩ := rfl
  rw [run, quote, Option.bind_some, run_ds, endText, List.reverse_reverse]

/-- Where a value is due, blanks change nothing. -/
theorem step_due_space (frames : List Frame) (closable : Bool) (c : Char)
    (h : isSpace c = true) :
    step ⟨frames, .due closable⟩ c = some ⟨frames, .due closable⟩ := by
  simp [step, h]

/-- Where a name is due, blanks change nothing. -/
theorem step_nameDue_space (frames : List Frame) (closable : Bool) (c : Char)
    (h : isSpace c = true) :
    step ⟨frames, .nameDue closable⟩ c = some ⟨frames, .nameDue closable⟩ := by
  simp [step, h]

/-- Where a colon is due, blanks change nothing. -/
theorem step_colonDue_space (frames : List Frame) (c : Char) (h : isSpace c = true) :
    step ⟨frames, .colonDue⟩ c = some ⟨frames, .colonDue⟩ := by
  simp [step, h]

/-- A member is read if its value is. -/
theorem run_member (done : List (Option String × Tree)) (outer : List Frame) (closable : Bool)
    {name : Option String} {l : Language Char} {t : Tree}
    (reads : ∀ cs ∈ l, ∃ s, run ⟨.value done name :: outer, .due false⟩ cs = some s ∧
      Read (.value done name :: outer) t s)
    (cs : List Char) (h : cs ∈ quoted name * blank * char ':' * blank * l) :
    ∃ s, run ⟨.names done :: outer, .nameDue closable⟩ cs = some s ∧
      Read (.value done name :: outer) t s := by
  rw [mul_assoc _ blank l] at h
  obtain ⟨_, front, _, behind, rfl⟩ := mem_before.1 h
  obtain ⟨key, hkey, before, hbefore, rfl⟩ := Language.mem_mul.1 front
  obtain ⟨after, hafter, ds, value, rfl⟩ := Language.mem_mul.1 behind
  obtain ⟨s, run_ds, read⟩ := reads ds value
  have colon : step ⟨.value done name :: outer, .colonDue⟩ ':' =
    some ⟨.value done name :: outer, .due false⟩ := rfl
  refine ⟨s, ?_, read⟩
  rw [run_append, run_append, run_key done outer closable hkey, Option.bind_some,
    run_blank (step_colonDue_space _) hbefore, Option.bind_some, run, colon, Option.bind_some,
    run_append, run_blank (step_due_space _ _) hafter, Option.bind_some, run_ds]

mutual

/-- A text of a tree is read as this tree, wherever it may stand. -/
theorem run_language (frames : List Frame) (accepts : Accepts frames) (closable : Bool) (t : Tree)
    (cs : List Char) (h : cs ∈ language t) :
    ∃ s, run ⟨frames, .due closable⟩ cs = some s ∧ Read frames t s := by
  match t with
  | .null =>
    obtain rfl : cs = _ := h
    exact read_word frames closable (List.all_eq_true.1 (by decide)) rfl
  | .bool true =>
    obtain rfl : cs = _ := h
    exact read_word frames closable (List.all_eq_true.1 (by decide)) rfl
  | .bool false =>
    obtain rfl : cs = _ := h
    exact read_word frames closable (List.all_eq_true.1 (by decide)) rfl
  | .number n =>
    obtain ⟨x, spelled, meaning⟩ := Option.map_eq_some_iff.1 h
    refine read_word frames closable (words_of_numeral spelled) ?_
    -- No constant is a numeral.
    rw [ofWord?, if_neg, if_neg, if_neg, spelled, Option.map_some, meaning]
    all_goals
      rintro rfl
      cases spelled
  | .string s => exact ⟨_, run_string accepts closable h, .complete⟩
  | .array items =>
    rw [language] at h
    obtain ⟨ds, hds, rfl⟩ := mem_between.1 h
    exact ⟨_, run_items frames [] true items (fun _ => ⟨rfl, rfl⟩) ds hds, .complete⟩
  | .object members =>
    rw [language] at h
    obtain ⟨ds, hds, rfl⟩ := mem_between.1 h
    exact ⟨_, run_members frames [] true members (fun _ => ⟨rfl, rfl⟩) ds hds, .complete⟩

/-- Items are read up to the bracket that closes their array. -/
theorem run_items (frames : List Frame) (done : List Tree) (closable : Bool) (ts : List Tree)
    (fresh : ts = [] → done = [] ∧ closable = true) (cs : List Char)
    (h : cs ∈ separated (itemLanguages ts)) :
    run ⟨.items done :: frames, .due closable⟩ (cs ++ [']']) =
      some ⟨frames, .complete (.array (done.reverse ++ ts))⟩ := by
  match ts with
  | [] =>
    obtain ⟨rfl, rfl⟩ := fresh rfl
    rw [run_append, run_blank (step_due_space _ _) h]
    rfl
  | [t] =>
    obtain ⟨s, run_cs, read⟩ := run_padded (step_due_space (.items done :: frames) closable)
      (run_language (.items done :: frames) trivial closable t) h
    rw [run_append, run_cs, Option.bind_some, run, read.step (by decide), afterValue]
    simp [isSpace, run]
  | t :: t' :: ts =>
    obtain ⟨ds, first, es, rest, rfl⟩ := mem_before.1 h
    obtain ⟨s, run_ds, read⟩ := run_padded (step_due_space (.items done :: frames) closable)
      (run_language (.items done :: frames) trivial closable t) first
    have comma : step s ',' = some ⟨.items (t :: done) :: frames, .due false⟩ := by
      rw [read.step (by decide)]
      rfl
    rw [List.append_assoc, run_append, run_ds, Option.bind_some, List.cons_append, run, comma,
      Option.bind_some,
      run_items frames (t :: done) false (t' :: ts) (fun absurd => by cases absurd) es rest]
    simp

/-- Members are read up to the brace that closes their object. -/
theorem run_members (frames : List Frame) (done : List (Option String × Tree)) (closable : Bool)
    (ms : List (Option String × Tree)) (fresh : ms = [] → done = [] ∧ closable = true)
    (cs : List Char) (h : cs ∈ separated (memberLanguages ms)) :
    run ⟨.names done :: frames, .nameDue closable⟩ (cs ++ ['\x7d']) =
      some ⟨frames, .complete (.object (done.reverse ++ ms))⟩ := by
  match ms with
  | [] =>
    obtain ⟨rfl, rfl⟩ := fresh rfl
    rw [run_append, run_blank (step_nameDue_space _ _) h]
    rfl
  | [(name, t)] =>
    obtain ⟨s, run_cs, read⟩ := run_padded (step_nameDue_space (.names done :: frames) closable)
      (run_member done frames closable
        (run_language (.value done name :: frames) trivial false t)) h
    rw [run_append, run_cs, Option.bind_some, run, read.step (by decide), afterValue]
    simp [isSpace, run]
  | (name, t) :: m :: ms =>
    obtain ⟨ds, first, es, rest, rfl⟩ := mem_before.1 h
    obtain ⟨s, run_ds, read⟩ := run_padded (step_nameDue_space (.names done :: frames) closable)
      (run_member done frames closable
        (run_language (.value done name :: frames) trivial false t)) first
    have comma : step s ',' = some ⟨.names ((name, t) :: done) :: frames, .nameDue false⟩ := by
      rw [read.step (by decide)]
      rfl
    rw [List.append_assoc, run_append, run_ds, Option.bind_some, List.cons_append, run, comma,
      Option.bind_some,
      run_members frames ((name, t) :: done) false (m :: ms) (fun absurd => by cases absurd) es
        rest]
    simp

end

/-- A text of a tree, with blanks at its ends or without, is read as this tree. -/
theorem ofChars?_of_mem {t : Tree} {cs : List Char} (h : cs ∈ padded (language t)) :
    ofChars? cs = some t := by
  obtain ⟨s, run_cs, read⟩ :=
    run_padded (step_due_space [] false) (run_language [] trivial false t) h
  rw [ofChars?, start, run_cs, Option.bind_some, read.finish]

end Tree

end PullSecrets.Json
