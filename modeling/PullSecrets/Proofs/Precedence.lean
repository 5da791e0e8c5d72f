import Mathlib.Data.List.Basic
import Mathlib.Tactic.Common
import PullSecrets.Selection

/-!
# Which entry decides

Of the entries that name a controller the first one decides whether it runs. Where there is none,
the star decides, wherever it stands. So the answer for a controller is settled by its own entries
and by the star, and the star has no say once there is an entry of its own.

## Main facts

* `Selection.Names`, `Selection.Stray`: the entries that name a controller, and those that mean
  nothing.
* `Selection.isEnabled_iff`: the first entry that names a controller decides.
* `Selection.first_named_decides`: what is refused, and what runs.
-/

namespace PullSecrets

namespace Selection

/-! ## Entries -/

/-- The entry that switches a controller off. -/
def off (name : String) : String := "-" ++ name

/-- Whether an entry names a controller, to switch it on or to switch it off. -/
def Names (name entry : String) : Prop := entry = name ∨ entry = off name

instance (name : String) : DecidablePred (Names name) :=
  fun entry => inferInstanceAs (Decidable (entry = name ∨ entry = off name))

/-- Whether an entry means nothing: it is there, but it is not the star, and it names no known
controller. -/
def Stray (entry : String) : Prop :=
  entry ≠ "" ∧ entry ≠ star ∧ ∀ name ∈ known, ¬ Names name entry

instance : DecidablePred Stray := fun entry =>
  inferInstanceAs (Decidable (entry ≠ "" ∧ entry ≠ star ∧ ∀ name ∈ known, ¬ Names name entry))

variable {entry name : String} {entries others : List String} {s : Selection}

theorem excluded?_eq_some_iff : excluded? entry = some name ↔ entry = off name := by
  have text : entry = off name ↔ entry.toList = '-' :: name.toList := by
    rw [off, ← String.toList_inj, String.toList_append]
    rfl
  rw [text, excluded?]
  split
  next rest same =>
    rw [same, Option.some.injEq, List.cons.injEq, ← String.toList_inj, String.toList_ofList,
      and_iff_right rfl]
  next other => exact ⟨nofun, fun same => absurd same (other _)⟩

/-- The names of the known controllers do not begin with a minus sign. -/
theorem excluded?_known : ∀ name ∈ known, excluded? name = none := by
  decide

/-- An entry that is accepted is the star, or it names a known controller. -/
theorem isValid_iff : isValid entry = true ↔ entry = star ∨ ∃ name ∈ known, Names name entry := by
  rw [isValid, Bool.or_eq_true, beq_iff_eq, List.contains_iff_mem]
  refine or_congr_right ?_
  cases found : excluded? entry with
  | none =>
    constructor
    · exact fun there => ⟨entry, there, .inl rfl⟩
    · rintro ⟨name, there, rfl | switched⟩
      · exact there
      · rw [excluded?_eq_some_iff.2 switched] at found
        cases found
  | some excluded =>
    constructor
    · exact fun there => ⟨excluded, there, .inr (excluded?_eq_some_iff.1 found)⟩
    · rintro ⟨name, there, rfl | switched⟩
      · rw [excluded?_known entry there] at found
        cases found
      · rw [excluded?_eq_some_iff.2 switched] at found
        cases found
        exact there

theorem stray_iff : Stray entry ↔ entry ≠ "" ∧ isValid entry = false := by
  rw [Stray, ← Bool.not_eq_true, isValid_iff, not_or]
  push Not
  rfl

/-! ## Lists of entries -/

/-- A list of entries is refused because of the first one that means nothing. -/
theorem ofEntries_eq_error_iff :
    ofEntries entries = .error entry ↔
      (entries.map Text.trim).find? (fun t => Stray t) = some entry := by
  have strays : (entries.map Text.trim).find? (fun t => Stray t) =
      ((entries.map Text.trim).filter (!·.isEmpty)).find? (!isValid ·) := by
    rw [List.find?_filter]
    congr 1
    funext t
    rw [Bool.eq_iff_iff, decide_eq_true_eq, stray_iff]
    simp
  rw [strays, ofEntries]
  cases ((entries.map Text.trim).filter (!·.isEmpty)).find? (!isValid ·) with
  | none => simp
  | some t => simp

/-- The entries of a list that is accepted are kept, without those that are blank. -/
theorem entries_of_ofEntries (accepted : ofEntries entries = .ok s) :
    s.entries = (entries.map Text.trim).filter (· ≠ "") := by
  rw [ofEntries] at accepted
  split at accepted
  · cases accepted
  · obtain rfl := Except.ok.inj accepted
    refine List.filter_congr fun t _ => ?_
    rw [Bool.eq_iff_iff]
    simp

section Kinds

variable {p q : String → Prop} [DecidablePred p] [DecidablePred q]

/-- Of the entries of some kind, those of a narrower kind are those of the whole list. -/
theorem filter_filter_of_imp (narrower : ∀ t, p t → q t) (entries : List String) :
    (entries.filter (q ·)).filter (p ·) = entries.filter (p ·) := by
  rw [List.filter_filter]
  refine List.filter_congr fun t _ => ?_
  by_cases holds : p t
  · simp [holds, narrower t holds]
  · simp [holds]

/-- Lists with the same entries of some kind have the same entries of a narrower kind. -/
theorem filter_eq_of_imp (narrower : ∀ t, p t → q t)
    (same : entries.filter (q ·) = others.filter (q ·)) :
    entries.filter (p ·) = others.filter (p ·) := by
  rw [← filter_filter_of_imp narrower entries, same, filter_filter_of_imp narrower]

end Kinds

/-! ## The entry that decides -/

/-- The first entry that names a controller switches it on if it is the name itself. -/
theorem decision?_eq (name : String) (entries : List String) :
    decision? name entries = (entries.find? (Names name ·)).map (· == name) := by
  induction entries with
  | nil => rfl
  | cons entry entries ih =>
    rw [decision?]
    by_cases on : entry = name
    · rw [if_pos on, List.find?_cons_of_pos (by simp [Names, on]), on]
      simp
    · rw [if_neg on]
      by_cases switched : entry = off name
      · rw [if_pos (excluded?_eq_some_iff.2 switched),
          List.find?_cons_of_pos (by simp [Names, switched])]
        simp [on]
      · rw [if_neg (mt excluded?_eq_some_iff.1 switched), ih,
          List.find?_cons_of_neg (by simp [Names, on, switched])]

/-- A controller runs if the first entry that names it is its name, or if none names it and the
star is among the entries. -/
theorem isEnabled_iff (s : Selection) (name : String) :
    s.isEnabled name = true ↔ s.entries.find? (Names name ·) = some name ∨
      s.entries.find? (Names name ·) = none ∧ star ∈ s.entries := by
  rw [isEnabled, decision?_eq]
  cases s.entries.find? (Names name ·) with
  | none => simp
  | some entry => simp

/-- The entries that name a controller settle whether it runs, and the star does if there are
none. -/
theorem isEnabled_congr {s t : Selection}
    (same : s.entries.filter (Names name ·) = t.entries.filter (Names name ·))
    (star_iff : s.entries.filter (Names name ·) = [] → (star ∈ s.entries ↔ star ∈ t.entries)) :
    s.isEnabled name = t.isEnabled name := by
  rw [Bool.eq_iff_iff, isEnabled_iff, isEnabled_iff, ← List.head?_filter, ← List.head?_filter,
    ← same]
  cases own : s.entries.filter (Names name ·) with
  | nil => simp [star_iff own]
  | cons entry rest => simp

/-- Lists with the same entries that concern a controller have the star, or none has it. -/
theorem star_mem_iff_of_concern
    (same : entries.filter (fun e => Names name e ∨ e = star) =
      others.filter (fun e => Names name e ∨ e = star)) : star ∈ entries ↔ star ∈ others := by
  have kept (l : List String) :
      star ∈ l ↔ star ∈ l.filter fun e => Names name e ∨ e = star := by simp
  rw [kept entries, kept others, same]

/-- What neither names a controller nor is the star makes no difference to it. -/
theorem isEnabled_congr_of_concern {s t : Selection}
    (same : s.entries.filter (fun e => Names name e ∨ e = star) =
      t.entries.filter (fun e => Names name e ∨ e = star)) :
    s.isEnabled name = t.isEnabled name :=
  isEnabled_congr (filter_eq_of_imp (fun _ => .inl) same) fun _ => star_mem_iff_of_concern same

/-- A known controller is not named by a blank entry or by the star. -/
theorem ne_of_names (there : name ∈ known) (named : Names name entry) :
    entry ≠ star ∧ entry ≠ "" := by
  have known_ne : ∀ name ∈ known, (name ≠ star ∧ name ≠ "") ∧ off name ≠ star ∧ off name ≠ "" := by
    decide
  rcases named with rfl | rfl
  · exact (known_ne entry there).1
  · exact (known_ne name there).2

section Accepted

variable (accepted : ofEntries entries = .ok s)

include accepted

theorem star_mem_entries_iff : star ∈ s.entries ↔ star ∈ entries.map Text.trim := by
  have there : star ≠ "" := by decide
  simp [entries_of_ofEntries accepted, there]

/-- The entries that name a known controller are kept. -/
theorem filter_names_entries (there : name ∈ known) :
    s.entries.filter (Names name ·) = (entries.map Text.trim).filter (Names name ·) := by
  rw [entries_of_ofEntries accepted]
  exact filter_filter_of_imp (fun _ named => (ne_of_names there named).2) _

/-- Whether a known controller runs can be told from the list that was read. -/
theorem isEnabled_iff_of_ofEntries (there : name ∈ known) :
    s.isEnabled name = true ↔
      (entries.map Text.trim).find? (Names name ·) = some name ∨
        (entries.map Text.trim).find? (Names name ·) = none ∧ star ∈ entries.map Text.trim := by
  rw [isEnabled_iff, ← List.head?_filter, ← List.head?_filter,
    filter_names_entries accepted there, star_mem_entries_iff accepted]

end Accepted

/-- Whatever the entries are: those are refused of which one means nothing, and the first such one
is told. Of the others, a known controller runs if the first entry that names it is its name, or if
none names it and the star is there. So the star and blank entries make no difference to a
controller that is named, wherever they stand, and what neither names a controller nor is the star
makes no difference to it at all. -/
theorem first_named_decides (entries : List String) :
    let trimmed := entries.map Text.trim
    ((∃ e, ofEntries entries = .error e) ↔ ∃ t ∈ trimmed, Stray t) ∧
    (∀ e, ofEntries entries = .error e ↔ trimmed.find? (Stray ·) = some e) ∧
    (∀ s, ofEntries entries = .ok s → ∀ name ∈ known,
      (s.isEnabled name = true ↔ trimmed.find? (Names name ·) = some name ∨
        trimmed.find? (Names name ·) = none ∧ star ∈ trimmed) ∧
      ∀ others t, ofEntries others = .ok t →
        let trimmed' := others.map Text.trim
        ((∃ e ∈ trimmed, Names name e) →
          trimmed.filter (fun e => e ≠ star ∧ e ≠ "") =
            trimmed'.filter (fun e => e ≠ star ∧ e ≠ "") →
          s.isEnabled name = t.isEnabled name) ∧
        (trimmed.filter (fun e => Names name e ∨ e = star) =
            trimmed'.filter (fun e => Names name e ∨ e = star) →
          s.isEnabled name = t.isEnabled name)) ∧
    ∀ (s t : Selection) (name : String),
      s.entries.filter (fun e => Names name e ∨ e = star) =
        t.entries.filter (fun e => Names name e ∨ e = star) →
      s.isEnabled name = t.isEnabled name := by
  intro trimmed
  refine ⟨?_, fun e => ofEntries_eq_error_iff, fun s accepted name there =>
    ⟨isEnabled_iff_of_ofEntries accepted there, fun others t accepted' => ⟨?_, ?_⟩⟩,
    fun s t name => isEnabled_congr_of_concern⟩
  · simp only [ofEntries_eq_error_iff]
    rw [← Option.isSome_iff_exists, List.find?_isSome]
    simp [trimmed]
  · rintro ⟨e, read, named⟩ same
    have own := filter_eq_of_imp (fun _ => ne_of_names there) same
    rw [← filter_names_entries accepted there, ← filter_names_entries accepted' there] at own
    refine isEnabled_congr own fun none => ?_
    -- The controller is named, so the star is not asked for.
    rw [filter_names_entries accepted there, List.filter_eq_nil_iff] at none
    exact absurd named (by simpa using none e read)
  · intro same
    have own := filter_eq_of_imp (fun _ => .inl) same
    rw [← filter_names_entries accepted there, ← filter_names_entries accepted' there] at own
    refine isEnabled_congr own fun _ => ?_
    rw [star_mem_entries_iff accepted, star_mem_entries_iff accepted']
    exact star_mem_iff_of_concern same

/-- After the minus sign there has to be a name: neither the star nor a blank before the name will
do, and the first such entry is told. Of the entries for and against the controller the first one
counts, wherever the star and blank entries are. -/
theorem first_named_decides_sample :
    ofEntries ["*", " -*", "- puller"] = .error "-*" ∧
    ∃ s t, ofEntries [" -puller ", "puller", "*"] = .ok s ∧
      ofEntries ["*", "-puller", "", "puller"] = .ok t ∧
      s.isEnabled "puller" = false ∧ t.isEnabled "puller" = false := by
  refine ⟨((first_named_decides _).2.1 "-*").2 (by decide +kernel),
    ⟨["-puller", "puller", "*"]⟩, ⟨["*", "-puller", "puller"]⟩, by decide +kernel,
    by decide +kernel, ?_⟩
  obtain ⟨iff, stable⟩ := (first_named_decides [" -puller ", "puller", "*"]).2.2.1
    ⟨["-puller", "puller", "*"]⟩ (by decide +kernel) "puller" (by decide)
  have switchedOff : isEnabled ⟨["-puller", "puller", "*"]⟩ "puller" = false := by
    rw [← Bool.not_eq_true, iff]
    decide +kernel
  refine ⟨switchedOff, ?_⟩
  rw [← (stable ["*", "-puller", "", "puller"] ⟨["*", "-puller", "puller"]⟩ (by decide +kernel)).1
    (by decide +kernel) (by decide +kernel)]
  exact switchedOff

end Selection

end PullSecrets
