import PullSecrets.Proofs.Grammar

/-!
# What the reader accepts

The reader finds a tree in its texts and in no others. That shows in what has been read up to some
character: the state of the reader says which language that belongs to, and every step appends one
character to it.

## Main facts

* `Json.Tree.Reached.step`: what has been read belongs to the language of the state.
* `Json.Tree.ofChars?_eq_some_iff`: a tree is read from its texts, and from no others.
-/

namespace PullSecrets.Json.Tree

/-! ## What has been read -/

/-- Parts with a comma behind each of them. -/
def begun (ls : List (Language Char)) : Language Char :=
  (ls.map fun l => padded l * char ',').prod

theorem begun_concat (ls : List (Language Char)) (l : Language Char) :
    begun (ls ++ [l]) = begun ls * (padded l * char ',') := by
  simp [begun]

theorem separated_cons (l : Language Char) {ls : List (Language Char)} (h : ls ≠ []) :
    separated (l :: ls) = padded l * char ',' * separated ls := by
  cases ls with
  | nil => exact absurd rfl h
  | cons l' ls => rfl

/-- The last part has no comma behind it. -/
theorem separated_concat (ls : List (Language Char)) (l : Language Char) :
    separated (ls ++ [l]) = begun ls * padded l := by
  induction ls with
  | nil => exact (one_mul (padded l)).symm
  | cons l' ls ih =>
    rw [List.cons_append, separated_cons l' (by simp), ih, begun, begun, List.map_cons,
      List.prod_cons, mul_assoc (padded l' * char ',')]

theorem itemLanguages_eq (ts : List Tree) : itemLanguages ts = ts.map language := by
  induction ts with
  | nil => rfl
  | cons t ts ih => rw [itemLanguages, ih, List.map_cons]

/-- The texts of a member. -/
def member (m : Option String × Tree) : Language Char :=
  quoted m.1 * blank * char ':' * blank * language m.2

theorem memberLanguages_eq (ms : List (Option String × Tree)) :
    memberLanguages ms = ms.map member := by
  induction ms with
  | nil => rfl
  | cons m ms ih =>
    rw [memberLanguages, ih, List.map_cons]
    rfl

/-- What has been read when the next value or name is due in what is open, up to blanks. -/
def opened : List Frame → Language Char
  | [] => 1
  | .items done :: outer => opened outer * blank * char '[' * begun (itemLanguages done.reverse)
  | .names done :: outer =>
    opened outer * blank * char '\x7b' * begun (memberLanguages done.reverse)
  | .value done name :: outer =>
    opened outer * blank * char '\x7b' * begun (memberLanguages done.reverse) *
      blank * quoted name * blank * char ':'

/-- What has been read of a code unit. -/
def unfinished : Escape → Language Char
  | .closed => 1
  | .opened => char '\\'
  | .digits due value =>
    {cs | 0 < due ∧ ∃ ds, ds.length + due = 4 ∧ hex? ds = some value ∧ cs = '\\' :: 'u' :: ds}

/-- What has been read in a state of the reader. -/
-- The frame of a value is pushed with its name, so where the colon is due it has not been read yet,
-- although it belongs to what is open.
def consumed : List Frame → Mode → Language Char
  | frames, .due _ => opened frames * blank
  | frames, .nameDue _ => opened frames * blank
  | .value done name :: outer, .colonDue =>
    opened (.names done :: outer) * blank * quoted name * blank
  | _, .colonDue => 0
  | frames, .word done => opened frames * blank * {done.reverse}
  | frames, .text us escape =>
    opened frames * blank * (char '"' * units us.reverse * unfinished escape)
  | frames, .complete t => opened frames * padded (language t)

/-- Whether each array or object that is open stands where a value is due. -/
def Nested : List Frame → Prop
  | [] => True
  | _ :: outer => Accepts outer ∧ Nested outer

/-- Whether the reader can be in a mode: values, names and colons are due where there is a place
for them, and what may close at once is empty. -/
def Fits (frames : List Frame) : Mode → Prop
  | .due closable => Accepts frames ∧ (closable = true → ∃ outer, frames = .items [] :: outer)
  | .nameDue closable => ∃ done outer, frames = .names done :: outer ∧ (closable = true → done = [])
  | .colonDue => ∃ done name outer, frames = .value done name :: outer
  | .word _ => Accepts frames
  | .text _ _ => True
  | .complete _ => Accepts frames

/-- The texts after which the reader is in a state. -/
structure Reached (s : State) (cs : List Char) : Prop where
  nested : Nested s.frames
  fits : Fits s.frames s.mode
  mem : cs ∈ consumed s.frames s.mode

/-! ## The languages of neighbouring states -/

theorem le_mul_blank (l : Language Char) : l ≤ l * blank := by
  intro cs h
  rw [← List.append_nil cs]
  exact Language.append_mem_mul h (List.forall_mem_nil _)

/-- One more blank. -/
theorem mul_blank_mul_char (l : Language Char) {c : Char} (h : isSpace c = true) :
    l * blank * char c ≤ l * blank := by
  rw [mul_assoc]
  gcongr
  rintro _ ⟨cs, blanks, _, rfl, rfl⟩
  exact List.forall_mem_append.2 ⟨blanks, List.forall_mem_singleton.2 h⟩

theorem opened_items (outer : List Frame) :
    opened (.items [] :: outer) = opened outer * blank * char '[' := mul_one _

theorem opened_names (outer : List Frame) :
    opened (.names [] :: outer) = opened outer * blank * char '\x7b' := mul_one _

/-- After a comma the next item is due. -/
theorem opened_items_cons (t : Tree) (done : List Tree) (outer : List Frame) :
    opened (.items (t :: done) :: outer) =
      opened (.items done :: outer) * padded (language t) * char ',' := by
  simp only [opened, List.reverse_cons, itemLanguages_eq, List.map_append, List.map_cons,
    List.map_nil, begun_concat, mul_assoc]

/-- After a comma the next name is due. -/
theorem opened_names_cons (name : Option String) (t : Tree) (done : List (Option String × Tree))
    (outer : List Frame) :
    opened (.names ((name, t) :: done) :: outer) =
      opened (.value done name :: outer) * padded (language t) * char ',' := by
  simp only [opened, List.reverse_cons, memberLanguages_eq, List.map_append, List.map_cons,
    List.map_nil, begun_concat, member, padded, mul_assoc]

/-- The bracket closes an array. -/
theorem opened_items_close (t : Tree) (done : List Tree) (outer : List Frame) :
    opened (.items done :: outer) * padded (language t) * char ']' =
      opened outer * blank * language (.array (t :: done).reverse) := by
  simp only [opened, language, List.reverse_cons, itemLanguages_eq, List.map_append, List.map_cons,
    List.map_nil, separated_concat, mul_assoc]

/-- The brace closes an object. -/
theorem opened_value_close (name : Option String) (t : Tree) (done : List (Option String × Tree))
    (outer : List Frame) :
    opened (.value done name :: outer) * padded (language t) * char '\x7d' =
      opened outer * blank * language (.object ((name, t) :: done).reverse) := by
  simp only [opened, language, List.reverse_cons, memberLanguages_eq, List.map_append,
    List.map_cons, List.map_nil, separated_concat, member, padded, mul_assoc]

theorem units_concat (us : List Nat) (n : Nat) : units (us ++ [n]) = units us * unit n := by
  simp [units]

/-- A letter behind a backslash. -/
theorem backslash_mul_char {c : Char} {n : Nat} (h : (c, n) ∈ letters) :
    char '\\' * char c ≤ unit n := by
  rintro _ ⟨_, rfl, _, rfl, rfl⟩
  exact .letter h

theorem text_le_quoted (us : List Nat) :
    char '"' * units us * char '"' ≤ quoted ((ofUnits? us).map String.ofList) :=
  fun _ h => ⟨us, rfl, h⟩

theorem singleton_mul_char (ds : List Char) (c : Char) :
    {ds} * char c = ({ds ++ [c]} : Language Char) :=
  Set.image2_singleton

/-! ## Steps -/

variable {frames : List Frame} {c : Char} {s : State} {cs : List Char}

/-- A state is reached with one more character if its language has room for it. -/
theorem Reached.of_le {frames' : List Frame} {mode mode' : Mode}
    (reached : Reached ⟨frames, mode⟩ cs) (nested : Nested frames') (fits : Fits frames' mode')
    (le : consumed frames mode * char c ≤ consumed frames' mode') :
    Reached ⟨frames', mode'⟩ (cs ++ [c]) :=
  ⟨nested, fits, le (Language.append_mem_mul reached.mem (mem_char c))⟩

/-- A value that has just been read may have blanks behind it. -/
theorem le_complete (frames : List Frame) (t : Tree) :
    opened frames * blank * language t ≤ consumed frames (.complete t) := by
  rw [consumed, padded, ← mul_assoc, ← mul_assoc]
  exact le_mul_blank _

theorem Reached.afterValue {t : Tree} (reached : Reached ⟨frames, .complete t⟩ cs)
    (h : afterValue frames t c = some s) : Reached s (cs ++ [c]) := by
  unfold Tree.afterValue at h
  split at h
  · next space =>
    cases h
    refine reached.of_le reached.nested reached.fits ?_
    rw [consumed, padded, ← mul_assoc]
    exact mul_blank_mul_char _ space
  split at h
  · next done outer =>
    split_ifs at h with comma bracket
    · cases h
      subst comma
      refine reached.of_le reached.nested ⟨trivial, by simp⟩ ?_
      rw [consumed, consumed, opened_items_cons]
      exact le_mul_blank _
    · cases h
      subst bracket
      refine reached.of_le reached.nested.2 reached.nested.1 ?_
      rw [consumed, opened_items_close]
      exact le_complete _ _
  · next done name outer =>
    split_ifs at h with comma brace
    · cases h
      subst comma
      refine reached.of_le reached.nested ⟨_, _, rfl, by simp⟩ ?_
      rw [consumed, consumed, opened_names_cons]
      exact le_mul_blank _
    · cases h
      subst brace
      refine reached.of_le reached.nested.2 reached.nested.1 ?_
      rw [consumed, opened_value_close]
      exact le_complete _ _
  · cases h

/-- A text comes to its end, as a name or as a value. -/
theorem Reached.endText {us : List Nat} (reached : Reached ⟨frames, .text us .closed⟩ cs) :
    Reached (endText frames us) (cs ++ ['"']) := by
  have ended : consumed frames (.text us .closed) * char '"' ≤
      opened frames * blank * quoted ((ofUnits? us.reverse).map String.ofList) := by
    rw [consumed, unfinished, mul_one, mul_assoc]
    gcongr
    exact text_le_quoted _
  unfold Tree.endText
  split
  · next done outer =>
    refine reached.of_le reached.nested ⟨_, _, _, rfl⟩ (ended.trans ?_)
    exact le_mul_blank _
  · next other =>
    refine reached.of_le reached.nested ?_ (ended.trans ?_)
    · cases frames with
      | nil => trivial
      | cons f outer =>
        cases f with
        | names done => exact absurd rfl (other done outer)
        | items | value => trivial
    · exact le_complete frames (.string _)

/-- A code unit comes to its end. -/
theorem Reached.unit {us : List Nat} {escape : Escape} {n : Nat}
    (reached : Reached ⟨frames, .text us escape⟩ cs) (h : unfinished escape * char c ≤ unit n) :
    Reached ⟨frames, .text (n :: us) .closed⟩ (cs ++ [c]) := by
  refine reached.of_le reached.nested trivial ?_
  let before := opened frames * blank * (char '"' * Tree.units us.reverse)
  calc opened frames * blank * (char '"' * Tree.units us.reverse * unfinished escape) * char c
      = before * (unfinished escape * char c) := by simp only [before, mul_assoc]
    _ ≤ before * Tree.unit n := by gcongr
    _ = consumed frames (.text (n :: us) .closed) := by
        rw [consumed, List.reverse_cons, units_concat, unfinished, mul_one, mul_assoc,
          ← mul_assoc (char '"')]

/-- A code unit goes on. -/
theorem Reached.part {us : List Nat} {escape escape' : Escape}
    (reached : Reached ⟨frames, .text us escape⟩ cs)
    (h : unfinished escape * char c ≤ unfinished escape') :
    Reached ⟨frames, .text us escape'⟩ (cs ++ [c]) := by
  refine reached.of_le reached.nested trivial ?_
  rw [consumed, consumed, mul_assoc, mul_assoc _ _ (char c)]
  gcongr

/-- A character of a text that is behind no backslash. -/
theorem Reached.plain {us : List Nat} (reached : Reached ⟨frames, .text us .closed⟩ cs)
    (h : Tree.inText frames us .closed c = some s) : Reached s (cs ++ [c]) := by
  simp only [Tree.inText] at h
  split_ifs at h with quote backslash control
  · cases h
    subst quote
    exact reached.endText
  · cases h
    subst backslash
    exact reached.part (one_mul _).le
  · cases h
    refine reached.unit ?_
    rw [unfinished, one_mul]
    rintro _ rfl
    exact .plain c quote backslash (Nat.le_of_not_lt control)

/-- The character behind a backslash. -/
theorem Reached.escaped {us : List Nat} (reached : Reached ⟨frames, .text us .opened⟩ cs)
    (h : Tree.inText frames us .opened c = some s) : Reached s (cs ++ [c]) := by
  have letter {n : Nat} (h : (c, n) ∈ letters) :
      Reached ⟨frames, .text (n :: us) .closed⟩ (cs ++ [c]) :=
    reached.unit (backslash_mul_char h)
  simp only [Tree.inText] at h
  split_ifs at h with self b t n f r u
  · cases h
    simp only [Bool.or_eq_true, decide_eq_true_eq] at self
    rcases self with (rfl | rfl) | rfl
    all_goals exact letter (by decide)
  · cases h
    subst b
    exact letter (by decide)
  · cases h
    subst t
    exact letter (by decide)
  · cases h
    subst n
    exact letter (by decide)
  · cases h
    subst f
    exact letter (by decide)
  · cases h
    subst r
    exact letter (by decide)
  · cases h
    subst u
    refine reached.part ?_
    rintro _ ⟨_, rfl, _, rfl, rfl⟩
    exact ⟨by decide, [], rfl, rfl, rfl⟩

/-- A digit of an escape. -/
theorem Reached.digit {us : List Nat} {due value : Nat}
    (reached : Reached ⟨frames, .text us (.digits due value)⟩ cs)
    (h : Tree.inText frames us (.digits due value) c = some s) : Reached s (cs ++ [c]) := by
  simp only [Tree.inText, Option.bind_eq_some_iff] at h
  obtain ⟨d, digit, h⟩ := h
  have appended {ds : List Char} (known : hex? ds = some value) :
      hex? (ds ++ [c]) = some (16 * value + d) := by
    rw [hex?_concat, known, Option.bind_some, digit, Option.map_some]
  split_ifs at h with last
  · cases h
    refine reached.unit ?_
    rintro _ ⟨_, ⟨some_due, ds, length, known, rfl⟩, _, rfl, rfl⟩
    have four : (ds ++ [c]).length = 4 := by
      rw [List.length_append, List.length_singleton]
      omega
    exact .digits four (appended known)
  · cases h
    refine reached.part ?_
    rintro _ ⟨_, ⟨some_due, ds, length, known, rfl⟩, _, rfl, rfl⟩
    have length' : (ds ++ [c]).length + (due - 1) = 4 := by
      rw [List.length_append, List.length_singleton]
      omega
    exact ⟨by omega, ds ++ [c], length', appended known, rfl⟩

/-- A character of a text. -/
theorem Reached.inText {us : List Nat} {escape : Escape}
    (reached : Reached ⟨frames, .text us escape⟩ cs) (h : inText frames us escape c = some s) :
    Reached s (cs ++ [c]) := by
  cases escape with
  | closed => exact reached.plain h
  | opened => exact reached.escaped h
  | digits due value => exact reached.digit h

/-- A text begins. -/
theorem opened_mul_quote (frames : List Frame) :
    opened frames * blank * char '"' = consumed frames (.text [] .closed) := by
  rw [consumed, List.reverse_nil, units, List.map_nil, List.prod_nil, unfinished, mul_one, mul_one]

/-- A character where a value is due. -/
theorem Reached.due {closable : Bool} (reached : Reached ⟨frames, .due closable⟩ cs)
    (h : Tree.step ⟨frames, .due closable⟩ c = some s) : Reached s (cs ++ [c]) := by
  obtain ⟨accepts, fresh⟩ := reached.fits
  simp only [Tree.step] at h
  split_ifs at h with space bracket brace quote word close
  · cases h
    exact reached.of_le reached.nested reached.fits (mul_blank_mul_char _ space)
  · cases h
    subst bracket
    refine reached.of_le ⟨accepts, reached.nested⟩ ⟨trivial, fun _ => ⟨_, rfl⟩⟩ ?_
    rw [consumed, consumed, opened_items]
    exact le_mul_blank _
  · cases h
    subst brace
    refine reached.of_le ⟨accepts, reached.nested⟩ ⟨_, _, rfl, fun _ => rfl⟩ ?_
    rw [consumed, consumed, opened_names]
    exact le_mul_blank _
  · cases h
    subst quote
    exact reached.of_le reached.nested trivial (opened_mul_quote frames).le
  · cases h
    exact reached.of_le reached.nested accepts le_rfl
  · cases h
    simp only [Bool.and_eq_true, decide_eq_true_eq] at close
    obtain ⟨rfl, rfl⟩ := close
    obtain ⟨outer, rfl⟩ := fresh rfl
    refine reached.of_le reached.nested.2 reached.nested.1 (le_trans (le_of_eq ?_)
      (le_complete outer (.array [])))
    simp only [consumed, opened_items, language, itemLanguages, separated, mul_assoc]

/-- A character where a name is due. -/
theorem Reached.nameDue {closable : Bool} (reached : Reached ⟨frames, .nameDue closable⟩ cs)
    (h : Tree.step ⟨frames, .nameDue closable⟩ c = some s) : Reached s (cs ++ [c]) := by
  obtain ⟨done, outer, rfl, fresh⟩ := reached.fits
  simp only [Tree.step] at h
  split_ifs at h with space quote close
  · cases h
    exact reached.of_le reached.nested reached.fits (mul_blank_mul_char _ space)
  · cases h
    subst quote
    exact reached.of_le reached.nested trivial (opened_mul_quote _).le
  · cases h
    simp only [Bool.and_eq_true, decide_eq_true_eq] at close
    obtain ⟨rfl, rfl⟩ := close
    obtain rfl := fresh rfl
    refine reached.of_le reached.nested.2 reached.nested.1 (le_trans (le_of_eq ?_)
      (le_complete outer (.object [])))
    simp only [consumed, opened_names, language, memberLanguages, separated, mul_assoc]

/-- A character where a colon is due. -/
theorem Reached.colonDue (reached : Reached ⟨frames, .colonDue⟩ cs)
    (h : Tree.step ⟨frames, .colonDue⟩ c = some s) : Reached s (cs ++ [c]) := by
  obtain ⟨done, name, outer, rfl⟩ := reached.fits
  simp only [Tree.step] at h
  split_ifs at h with space colon
  · cases h
    exact reached.of_le reached.nested reached.fits (mul_blank_mul_char _ space)
  · cases h
    subst colon
    exact reached.of_le reached.nested ⟨trivial, by simp⟩ (le_mul_blank _)

/-- A word that means a tree has been read as this tree. -/
theorem Reached.word {done : List Char} (reached : Reached ⟨frames, .word done⟩ cs) {t : Tree}
    (known : ofWord? done.reverse = some t) : Reached ⟨frames, .complete t⟩ cs := by
  refine ⟨reached.nested, reached.fits, le_complete frames t ?_⟩
  have le : consumed frames (.word done) ≤ opened frames * blank * language t := by
    rw [consumed]
    gcongr
    rintro _ rfl
    exact mem_language_of_ofWord? known
  exact le reached.mem

/-- What has been read belongs to the language of the state. -/
theorem Reached.step (reached : Reached s cs) {s' : State} (h : step s c = some s') :
    Reached s' (cs ++ [c]) := by
  obtain ⟨frames, mode⟩ := s
  cases mode with
  | due closable => exact reached.due h
  | nameDue closable => exact reached.nameDue h
  | colonDue => exact reached.colonDue h
  | word done =>
    simp only [Tree.step] at h
    split_ifs at h with word
    · cases h
      refine reached.of_le reached.nested reached.fits ?_
      rw [consumed, consumed, List.reverse_cons, mul_assoc, singleton_mul_char]
    · obtain ⟨t, known, h⟩ := Option.bind_eq_some_iff.1 h
      exact (reached.word known).afterValue h
  | text us escape => exact reached.inText h
  | complete t => exact reached.afterValue h

/-- However much is read, it belongs to the language of the state. -/
theorem Reached.run (reached : Reached s cs) {ds : List Char} {s' : State}
    (h : run s ds = some s') : Reached s' (cs ++ ds) := by
  -- The invariant moves along the text: what has been read so far grows by the first character.
  induction ds generalizing s cs with
  | nil =>
    cases h
    rwa [List.append_nil]
  | cons d ds ih =>
    obtain ⟨t, first, rest⟩ := Option.bind_eq_some_iff.1 h
    rw [List.append_cons]
    exact ih (reached.step first) rest

theorem reached_start : Reached start [] :=
  ⟨trivial, ⟨trivial, by simp⟩, le_mul_blank _ rfl⟩

/-- At the end of a text the reader has read one of the texts of its tree. -/
theorem Reached.finish {t : Tree} (reached : Reached s cs) (h : finish s = some t) :
    cs ∈ padded (language t) := by
  obtain ⟨frames, mode⟩ := s
  unfold Tree.finish at h
  split at h
  · next frames_eq mode_eq =>
    cases h
    subst frames_eq mode_eq
    simpa [consumed, opened] using reached.mem
  · next frames_eq mode_eq =>
    subst frames_eq mode_eq
    simpa [consumed, opened] using (reached.word h).mem
  · cases h

/-- A tree is read from its texts, and from no others. -/
theorem ofChars?_eq_some_iff {cs : List Char} {t : Tree} :
    ofChars? cs = some t ↔ cs ∈ padded (language t) := by
  constructor
  · intro h
    obtain ⟨s, run_cs, finished⟩ := Option.bind_eq_some_iff.1 h
    exact (reached_start.run run_cs).finish finished
  · exact ofChars?_of_mem

end PullSecrets.Json.Tree
