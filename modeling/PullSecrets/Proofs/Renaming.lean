import PullSecrets.Json.Node

/-!
# One name in place of another

The reader of JSON texts does not look into names. If two texts differ in nothing but one name of
the outermost object, the trees that are read from them differ in this name alone, and one of the
texts is wrong only if the other is. So a record that knows a field by either name is read from
both texts alike.

## Main facts

* `Json.Tree.step_cons`: the reader looks only at the innermost array or object that is open.
* `Json.Tree.State.Relabeled.alike_run`: two readers that differ in one name go on differing in that
  alone.
* `Json.Node.record?_of_relabeled`: a record that takes both names for one is read alike.
-/

namespace PullSecrets.Json

namespace Tree

/-! ## Where the reader looks -/

/-- The state with more arrays and objects open around what is open. -/
def State.within (outer : List Frame) (s : State) : State := ⟨s.frames ++ outer, s.mode⟩

section Local

variable (frame : Frame) (outer : List Frame) (c : Char)

theorem afterValue_cons (t : Tree) :
    afterValue (frame :: outer) t c = (afterValue [frame] t c).map (State.within outer) := by
  cases frame with
  | items | names | value =>
    simp only [afterValue, apply_ite (Option.map _), Option.map_some, Option.map_none,
      State.within, List.cons_append, List.nil_append]

theorem endText_cons (units : List Nat) :
    endText (frame :: outer) units = (endText [frame] units).within outer := by
  cases frame with
  | items | names | value => rfl

theorem inText_cons (units : List Nat) (escape : Escape) :
    inText (frame :: outer) units escape c =
      (inText [frame] units escape c).map (State.within outer) := by
  cases escape with
  | closed =>
    simp only [inText, apply_ite (Option.map _), Option.map_some, Option.map_none,
      endText_cons frame outer]
    rfl
  | opened =>
    simp only [inText, apply_ite (Option.map _), Option.map_some, Option.map_none]
    rfl
  | digits due value =>
    simp only [inText]
    cases Text.Hex.digit? c with
    | none => rfl
    | some d =>
      simp only [Option.bind_some, apply_ite (Option.map _), Option.map_some]
      rfl

/-- The reader looks only at the innermost array or object that is open. -/
theorem step_cons (mode : Mode) :
    step ⟨frame :: outer, mode⟩ c = (step ⟨[frame], mode⟩ c).map (State.within outer) := by
  cases mode with
  | due | nameDue | colonDue =>
    simp only [step, apply_ite (Option.map _), Option.map_some, Option.map_none]
    rfl
  | word done =>
    simp only [step]
    split
    · rfl
    · cases ofWord? done.reverse with
      | none => rfl
      | some t => exact afterValue_cons frame outer c t
  | text units escape => exact inText_cons frame outer c units escape
  | complete t => exact afterValue_cons frame outer c t

end Local

/-! ## Readers that differ in one name -/

variable {old new : Option String}

/-- Members that differ in one name. -/
def Relabeled (old new : Option String) (ms ns : List (Option String × Tree)) : Prop :=
  ∃ before t after, ms = before ++ (old, t) :: after ∧ ns = before ++ (new, t) :: after

namespace Relabeled

variable {ms ns : List (Option String × Tree)}

theorem head (t : Tree) (ms : List (Option String × Tree)) :
    Relabeled old new ((old, t) :: ms) ((new, t) :: ms) :=
  ⟨[], t, ms, rfl, rfl⟩

theorem cons (h : Relabeled old new ms ns) (m : Option String × Tree) :
    Relabeled old new (m :: ms) (m :: ns) := by
  obtain ⟨before, t, after, rfl, rfl⟩ := h
  exact ⟨m :: before, t, after, rfl, rfl⟩

theorem reverse (h : Relabeled old new ms ns) : Relabeled old new ms.reverse ns.reverse := by
  obtain ⟨before, t, after, rfl, rfl⟩ := h
  exact ⟨after.reverse, t, before.reverse, by simp, by simp⟩

end Relabeled

/-- Objects that are open, with one name that differs. -/
inductive Frame.Relabeled (old new : Option String) : Frame → Frame → Prop
  | name (done : List (Option String × Tree)) :
    Relabeled old new (.value done old) (.value done new)
  | names {done done' : List (Option String × Tree)} (h : Tree.Relabeled old new done done') :
    Relabeled old new (.names done) (.names done')
  | value {done done' : List (Option String × Tree)} (h : Tree.Relabeled old new done done')
    (name : Option String) : Relabeled old new (.value done name) (.value done' name)

/-- States of two readers that differ in one name of the outermost object. -/
inductive State.Relabeled (old new : Option String) : State → State → Prop
  | same (s : State) : Relabeled old new s s
  | opened {f g : Frame} (h : f.Relabeled old new g) (inner : List Frame) (mode : Mode) :
    Relabeled old new ⟨inner ++ [f], mode⟩ ⟨inner ++ [g], mode⟩
  | closed {ms ns : List (Option String × Tree)} (h : Tree.Relabeled old new ms ns) :
    Relabeled old new ⟨[], .complete (.object ms)⟩ ⟨[], .complete (.object ns)⟩

/-- The steps of two readers: both go wrong, or they go on with one name that differs. -/
abbrev Alike (old new : Option String) : Option State → Option State → Prop :=
  Option.Rel (State.Relabeled old new)

theorem alike_refl (s : Option State) : Alike old new s s := by
  cases s with
  | none => exact .none
  | some s => exact .some (.same s)

theorem alike_ite {p : Prop} [Decidable p] {a a' b b' : Option State} (ha : Alike old new a a')
    (hb : Alike old new b b') : Alike old new (if p then a else b) (if p then a' else b') := by
  split
  · exact ha
  · exact hb

theorem Frame.Relabeled.alike_afterValue {f g : Frame} (h : f.Relabeled old new g) (t : Tree)
    (c : Char) :
    Alike old new (afterValue [f] t c) (afterValue [g] t c) := by
  refine alike_ite (.some (.opened h [] _)) ?_
  cases h with
  | names => exact .none
  | name done =>
    refine alike_ite (.some (.opened (.names (.head t done)) [] _)) (alike_ite ?_ .none)
    exact .some (.closed (Tree.Relabeled.head t done).reverse)
  | value h name =>
    refine alike_ite (.some (.opened (.names (h.cons _)) [] _)) (alike_ite ?_ .none)
    exact .some (.closed (h.cons _).reverse)

theorem Frame.Relabeled.relabeled_endText {f g : Frame} (h : f.Relabeled old new g)
    (units : List Nat) :
    State.Relabeled old new (endText [f] units) (endText [g] units) := by
  cases h with
  | names h => exact .opened (.value h _) [] _
  | name done => exact .opened (.name done) [] _
  | value h name => exact .opened (.value h name) [] _

theorem Frame.Relabeled.alike_inText {f g : Frame} (h : f.Relabeled old new g) (units : List Nat)
    (escape : Escape) (c : Char) :
    Alike old new (inText [f] units escape c) (inText [g] units escape c) := by
  have stay : ∀ mode, Alike old new (some ⟨[f], mode⟩) (some ⟨[g], mode⟩) := fun mode =>
    .some (.opened h [] mode)
  cases escape with
  | closed =>
    exact alike_ite (.some (h.relabeled_endText units))
      (alike_ite (stay _) (alike_ite .none (stay _)))
  | opened =>
    exact alike_ite (stay _) (alike_ite (stay _) (alike_ite (stay _) (alike_ite (stay _)
      (alike_ite (stay _) (alike_ite (stay _) (alike_ite (stay _) .none))))))
  | digits due value =>
    simp only [Tree.inText]
    cases Text.Hex.digit? c with
    | none => exact .none
    | some d => exact alike_ite (stay _) (stay _)

theorem Frame.Relabeled.alike_step {f g : Frame} (h : f.Relabeled old new g) (mode : Mode)
    (c : Char) :
    Alike old new (step ⟨[f], mode⟩ c) (step ⟨[g], mode⟩ c) := by
  have stay : ∀ mode, Alike old new (some ⟨[f], mode⟩) (some ⟨[g], mode⟩) := fun mode =>
    .some (.opened h [] mode)
  have push : ∀ frame mode, Alike old new (some ⟨[frame, f], mode⟩) (some ⟨[frame, g], mode⟩) :=
    fun frame mode => .some (.opened h [frame] mode)
  cases mode with
  | due closable =>
    exact alike_ite (stay _) (alike_ite (push _ _) (alike_ite (push _ _) (alike_ite (stay _)
      (alike_ite (stay _) (alike_ite (alike_refl _) .none)))))
  | nameDue closable =>
    exact alike_ite (stay _) (alike_ite (stay _) (alike_ite (alike_refl _) .none))
  | colonDue => exact alike_ite (stay _) (alike_ite (stay _) .none)
  | word done =>
    simp only [step]
    refine alike_ite (stay _) ?_
    cases ofWord? done.reverse with
    | none => exact .none
    | some t => exact h.alike_afterValue t c
  | text units escape => exact h.alike_inText units escape c
  | complete t => exact h.alike_afterValue t c

/-- One character keeps the difference between two readers. -/
theorem State.Relabeled.alike_step {s t : State} (h : s.Relabeled old new t) (c : Char) :
    Alike old new (step s c) (step t c) := by
  cases h with
  | same s => exact alike_refl _
  | closed h => exact alike_ite (.some (.closed h)) .none
  | @opened f g h inner mode =>
    cases inner with
    | nil => exact h.alike_step mode c
    | cons frame inner =>
      show Alike old new (step ⟨frame :: (inner ++ [f]), mode⟩ c)
        (step ⟨frame :: (inner ++ [g]), mode⟩ c)
      rw [step_cons, step_cons frame (inner ++ [g])]
      cases step ⟨[frame], mode⟩ c with
      | none => exact .none
      | some s =>
        refine .some ?_
        rw [State.within, State.within, ← List.append_assoc, ← List.append_assoc]
        exact .opened h (s.frames ++ inner) s.mode

/-- Two readers that differ in one name go on differing in that alone. -/
theorem State.Relabeled.alike_run {s t : State} (h : s.Relabeled old new t) (cs : List Char) :
    Alike old new (run s cs) (run t cs) := by
  induction cs generalizing s t with
  | nil => exact .some h
  | cons c cs ih =>
    have taken := h.alike_step c
    rw [run, run]
    generalize step s c = x, step t c = y at taken ⊢
    cases taken with
    | none => exact .none
    | some next => exact ih next

/-- At the end of a text the trees differ in one name, or they are the same. -/
theorem State.Relabeled.finish {s t : State} (h : s.Relabeled old new t) :
    finish s = finish t ∨ ∃ ms ns, Tree.Relabeled old new ms ns ∧
      finish s = some (.object ms) ∧ finish t = some (.object ns) := by
  cases h with
  | same s => exact .inl rfl
  | closed h => exact .inr ⟨_, _, h, rfl, rfl⟩
  | opened h inner mode =>
    cases inner with
    | nil => exact .inl rfl
    | cons frame inner => exact .inl rfl

/-- Two texts that differ in the name of one member of the outermost object are both wrong, or
they have the same tree, or their trees differ in this name alone. -/
theorem ofChars?_relabeled {a k l : List Char} {done : List (Option String × Tree)}
    {closable : Bool} (opened : run start a = some ⟨[.names done], .nameDue closable⟩)
    (read : run ⟨[.names done], .nameDue closable⟩ k = some ⟨[.value done old], .colonDue⟩)
    (read' : run ⟨[.names done], .nameDue closable⟩ l = some ⟨[.value done new], .colonDue⟩)
    (b : List Char) :
    ofChars? (a ++ k ++ b) = ofChars? (a ++ l ++ b) ∨ ∃ ms ns, Relabeled old new ms ns ∧
      ofChars? (a ++ k ++ b) = some (.object ms) ∧ ofChars? (a ++ l ++ b) = some (.object ns) := by
  have first : run start (a ++ k ++ b) = run ⟨[.value done old], .colonDue⟩ b := by
    rw [run_append, run_append, opened, Option.bind_some, read, Option.bind_some]
  have second : run start (a ++ l ++ b) = run ⟨[.value done new], .colonDue⟩ b := by
    rw [run_append, run_append, opened, Option.bind_some, read', Option.bind_some]
  have begun : State.Relabeled old new ⟨[.value done old], .colonDue⟩
      ⟨[.value done new], .colonDue⟩ := .opened (.name done) [] .colonDue
  have taken := begun.alike_run b
  rw [ofChars?, ofChars?, first, second]
  generalize run ⟨[.value done old], .colonDue⟩ b = x,
    run ⟨[.value done new], .colonDue⟩ b = y at taken ⊢
  cases taken with
  | none => exact .inl rfl
  | some h => exact h.finish

end Tree

/-! ## Records -/

namespace Node

variable {old new : String} {ms ns : List (Option String × Tree)}

/-- A field of a record is read from the values of the members that go by its names. -/
theorem only_eq (ms : List (String × Node)) (names : List String) :
    only ms names = match (ms.filter fun m => names.contains m.1).map Prod.snd with
      | [] => some none
      | [n] => some (some n)
      | _ => none := by
  rw [only]
  generalize ms.filter _ = found
  match found with
  | [] | [_] | _ :: _ :: _ => rfl

/-- A field that takes both names for one is read alike. -/
theorem only_of_relabeled {names : List String} (alike : names.contains old = names.contains new)
    (before after : List (String × Node)) (n : Node) :
    only (before ++ (old, n) :: after) names = only (before ++ (new, n) :: after) names := by
  have same : ((before ++ (old, n) :: after).filter fun m => names.contains m.1).map Prod.snd =
      ((before ++ (new, n) :: after).filter fun m => names.contains m.1).map Prod.snd := by
    cases h : names.contains new with
    | true => simp only [List.filter_append, List.filter_cons, alike, h, List.map_append,
        if_true, List.map_cons]
    | false => simp only [List.filter_append, List.filter_cons, alike, h, List.map_append,
        Bool.false_eq_true, if_false]
  rw [only_eq, only_eq, same]

theorem mapM_only_of_relabeled {names : List (List String)}
    (alike : ∀ ks ∈ names, ks.contains old = ks.contains new)
    (before after : List (String × Node)) (n : Node) :
    names.mapM (only (before ++ (old, n) :: after)) =
      names.mapM (only (before ++ (new, n) :: after)) := by
  induction names with
  | nil => rfl
  | cons ks names ih =>
    rw [List.mapM_cons, List.mapM_cons, only_of_relabeled (alike ks List.mem_cons_self),
      ih fun js hjs => alike js (List.mem_cons_of_mem ks hjs)]

theorem members?_cons (room : Nat) (name : Option String) (t : Tree)
    (ms : List (Option String × Tree)) :
    members? ⟨room + 1, .object ((name, t) :: ms)⟩ = name.bind fun k =>
      (members? ⟨room + 1, .object ms⟩).map fun ns => (k, ⟨room, t⟩) :: ns := by
  simp only [members?, Nat.add_one_ne_zero, if_false, Nat.add_sub_cancel, List.mapM_cons]
  cases name with
  | none => rfl
  | some k => exact Option.map_eq_bind.symm

/-- The members around one of them. -/
theorem members?_append (room : Nat) (before after : List (Option String × Tree)) (name : String)
    (t : Tree) :
    members? ⟨room + 1, .object (before ++ (some name, t) :: after)⟩ =
      (members? ⟨room + 1, .object before⟩).bind fun bs =>
        (members? ⟨room + 1, .object after⟩).map fun as => bs ++ (name, ⟨room, t⟩) :: as := by
  induction before with
  | nil => exact members?_cons room (some name) t after
  | cons m before ih =>
    rw [List.cons_append, members?_cons, members?_cons, ih]
    cases m.1 with
    | none => rfl
    | some k =>
      cases members? ⟨room + 1, .object before⟩ with
      | none => rfl
      | some bs => simp [Function.comp_def]

/-- A record that takes both names for one is read alike. -/
theorem record?_of_relabeled {names : List (List String)}
    (alike : ∀ ks ∈ names, ks.contains old = ks.contains new)
    (h : Tree.Relabeled (some old) (some new) ms ns) (room : Nat) :
    record? names ⟨room, .object ms⟩ = record? names ⟨room, .object ns⟩ := by
  obtain ⟨before, t, after, rfl, rfl⟩ := h
  cases room with
  | zero => rfl
  | succ room =>
    show (members? _).bind _ = (members? _).bind _
    rw [members?_append, members?_append]
    cases members? ⟨room + 1, .object before⟩ with
    | none => rfl
    | some bs =>
      cases members? ⟨room + 1, .object after⟩ with
      | none => rfl
      | some as => exact mapM_only_of_relabeled alike bs as ⟨room, t⟩

end Node

end PullSecrets.Json
