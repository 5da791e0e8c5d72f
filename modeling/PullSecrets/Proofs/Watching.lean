import Mathlib.Data.List.Induction
import Mathlib.Data.Set.Insert
import PullSecrets.Watch.Trigger

/-!
# Watching namespaces

What a watch shows of the namespaces can be told from the history of its events: which names are
there now, and which names the listing under way has shown so far. The tracker does not keep the
history; two sets of names and a flag are enough to report every name that comes up later than the
first listing.

Histories are newest first, so that what has happened earlier is the rest of the list.

## Main facts

* `Tracker.Tracks.step`, `Tracker.tracks_after`: what a tracker remembers of a history.
* `Tracker.observe_after`: an event triggers exactly if a name is gained, and then the least of the
  gained names is reported.
-/

namespace PullSecrets

namespace WatchEvent

/-- The event with the name of its namespace. -/
def named (e : WatchEvent Namespace) : WatchEvent String :=
  e.map fun ns => ns.metadata.effectiveName

/-- The names of a history since the last listing has begun or has been completed. -/
def relisted : List (WatchEvent String) → Set String
  | .listed name :: earlier => insert name (relisted earlier)
  | .applied _ :: earlier => relisted earlier
  | .deleted _ :: earlier => relisted earlier
  | .listing :: _ => ∅
  | .complete :: _ => ∅
  | [] => ∅

/-- The names that are there after a history. -/
def present : List (WatchEvent String) → Set String
  | .applied name :: earlier => insert name (present earlier)
  | .deleted name :: earlier => present earlier \ {name}
  | .complete :: earlier => relisted earlier
  | .listing :: earlier => present earlier
  | .listed _ :: earlier => present earlier
  | [] => ∅

/-- Whether an event can show that a namespace is new. The first listing cannot. -/
def Telling (history : List (WatchEvent String)) : WatchEvent String → Prop
  | .applied _ => True
  | .complete => .complete ∈ history
  | _ => False

end WatchEvent

open WatchEvent (present relisted Telling)

namespace Tracker

/-- The tracker after some events, from the first one to the last. -/
def after (events : List (WatchEvent Namespace)) : Tracker :=
  events.foldl (fun t e => (t.observe e).2) {}

/-! ## What a tracker remembers -/

/-- The tracker remembers of a history what it needs. -/
structure Tracks (history : List (WatchEvent String)) (t : Tracker) : Prop where
  listed : t.listed = true ↔ .complete ∈ history
  seen : ∀ name, t.seen.contains name = true ↔ name ∈ present history
  pending : ∀ name, t.pending.contains name = true ↔ name ∈ relisted history

theorem tracks_nil : Tracks [] {} where
  listed := by simp
  seen := fun _ => by simp [Dict.contains, present]
  pending := fun _ => by simp [Dict.contains, relisted]

variable {history : List (WatchEvent String)} {t : Tracker}

/-- One more event is remembered. -/
theorem Tracks.step (h : Tracks history t) (e : WatchEvent String) :
    Tracks (e :: history) (t.step e).2 := by
  cases e with
  | listing =>
    refine ⟨by simpa [Tracker.step] using h.listed, h.seen, fun _ => ?_⟩
    simp [Tracker.step, Dict.contains, relisted]
  | listed name =>
    refine ⟨by simpa [Tracker.step] using h.listed, h.seen, fun other => ?_⟩
    rw [relisted, Set.mem_insert_iff, ← h.pending]
    exact t.pending.contains_insert name other ()
  | complete =>
    -- The names of the listing take the place of those that were seen.
    refine ⟨by simp [Tracker.step], h.pending, fun _ => ?_⟩
    simp [Tracker.step, Dict.contains, relisted]
  | applied name =>
    refine ⟨by simpa [Tracker.step] using h.listed, fun other => ?_, h.pending⟩
    rw [present, Set.mem_insert_iff, ← h.seen]
    exact t.seen.contains_insert name other ()
  | deleted name =>
    refine ⟨by simpa [Tracker.step] using h.listed, fun other => ?_, h.pending⟩
    rw [present, Set.mem_sdiff, Set.mem_singleton_iff, ← h.seen]
    exact t.seen.contains_erase name other

/-- A tracker remembers the whole history of its events. -/
theorem tracks_after (events : List (WatchEvent Namespace)) :
    Tracks (events.map WatchEvent.named).reverse (after events) := by
  -- The induction takes the last event off, the one that was observed last.
  induction events using List.reverseRecOn with
  | nil => exact tracks_nil
  | append_singleton earlier e ih =>
    rw [after, List.foldl_append, List.map_append, List.reverse_append]
    exact ih.step e.named

/-! ## Triggers -/

section FirstNew

variable {seen pending : Dict String Unit}

theorem isSome_firstNew?_iff :
    (firstNew? seen pending).isSome = true ↔
      ∃ name, pending.contains name = true ∧ ¬ seen.contains name = true := by
  simp only [firstNew?, List.find?_isSome, Dict.contains_iff_mem_keys (d := pending),
    Bool.not_eq_true, Bool.not_eq_true']

/-- What is found is new, and all other new names are larger. -/
theorem least_of_firstNew? {name : String} (found : firstNew? seen pending = some name) :
    (pending.contains name = true ∧ ¬ seen.contains name = true) ∧
      ∀ other, pending.contains other = true → ¬ seen.contains other = true →
        other = name ∨ compare name other = .lt := by
  have ascending : pending.keys.Pairwise fun a b => compare a b = .lt :=
    List.pairwise_map.2 pending.ascending
  obtain ⟨new, smaller, larger, keys, old⟩ := List.find?_eq_some_iff_append.1 found
  simp only [Dict.contains_iff_mem_keys (d := pending), keys]
  rw [keys] at ascending
  refine ⟨⟨by simp, by simpa using new⟩, ?_⟩
  intro other listed unseen
  rcases List.mem_append.1 listed with before | after
  · exact absurd (by simpa using old other before) unseen
  · rcases List.mem_cons.1 after with rfl | later
    · exact .inl rfl
    · exact .inr (List.rel_of_pairwise_cons (List.pairwise_append.1 ascending).2.1 later)

end FirstNew

/-- What an event triggers: the least of the names that it shows to be new. -/
theorem Tracks.trigger (h : Tracks history t) (e : WatchEvent String) :
    let gained := present (e :: history) \ present history
    ((t.step e).1.isSome = true ↔ Telling history e ∧ gained.Nonempty) ∧
      ∀ cause, (t.step e).1 = some cause → ∃ name ∈ gained, cause = .namespaceCreated name ∧
        ∀ other ∈ gained, other = name ∨ compare name other = .lt := by
  intro gained
  cases e with
  | listing => exact ⟨by simp [Tracker.step, Telling], fun _ h => by cases h⟩
  | listed name => exact ⟨by simp [Tracker.step, Telling], fun _ h => by cases h⟩
  | deleted name => exact ⟨by simp [Tracker.step, Telling], fun _ h => by cases h⟩
  | applied name =>
    have new : ∀ other, other ∈ gained ↔ other = name ∧ name ∉ present history := by
      intro other
      simp only [gained, present, Set.mem_sdiff, Set.mem_insert_iff]
      constructor
      · rintro ⟨rfl | known, unknown⟩
        · exact ⟨rfl, unknown⟩
        · exact absurd known unknown
      · rintro ⟨rfl, unknown⟩
        exact ⟨.inl rfl, unknown⟩
    by_cases known : name ∈ present history
    · have nothing : (t.step (.applied name)).1 = none := if_pos ((h.seen name).2 known)
      rw [nothing]
      refine ⟨⟨(fun h => by cases h), ?_⟩, fun _ h => by cases h⟩
      rintro ⟨-, other, gain⟩
      exact absurd known ((new other).1 gain).2
    · have caused : (t.step (.applied name)).1 = some (.namespaceCreated name) :=
        if_neg fun seen => known ((h.seen name).1 seen)
      have gain : name ∈ gained := (new name).2 ⟨rfl, known⟩
      rw [caused]
      refine ⟨⟨fun _ => ⟨trivial, name, gain⟩, fun _ => rfl⟩, ?_⟩
      rintro _ ⟨⟩
      exact ⟨name, gain, rfl, fun other gain' => .inl ((new other).1 gain').1⟩
  | complete =>
    have new : ∀ other, other ∈ gained ↔
        t.pending.contains other = true ∧ ¬ t.seen.contains other = true := by
      intro other
      rw [h.pending, h.seen]
      exact Iff.rfl
    by_cases later : t.listed = true
    · have caused : (t.step .complete).1 = (firstNew? t.seen t.pending).map .namespaceCreated := by
        simp only [Tracker.step, later, if_true]
      rw [caused, Option.isSome_map, isSome_firstNew?_iff]
      refine ⟨?_, ?_⟩
      · simp only [Telling, ← h.listed, later, true_and, Set.Nonempty, new]
      · intro cause hcause
        obtain ⟨name, found, rfl⟩ := Option.map_eq_some_iff.1 hcause
        obtain ⟨gain, least⟩ := least_of_firstNew? found
        refine ⟨name, (new name).2 gain, rfl, fun other gain' => ?_⟩
        obtain ⟨listed, unseen⟩ := (new other).1 gain'
        exact least other listed unseen
    · -- The first listing triggers nothing, whatever it has shown.
      have nothing : (t.step .complete).1 = none := by
        simp only [Tracker.step, later, Bool.false_eq_true, if_false, Option.map_none]
      rw [nothing]
      exact ⟨⟨(fun h => by cases h), fun telling => absurd (h.listed.2 telling.1) later⟩,
        fun _ h => by cases h⟩

/-- In a watch from its beginning on, an event triggers if and only if it can show that a namespace
is new, and a name is there after it that was not there before. What is triggered is the creation
of the least such name, and every known puller is asked for, in their order. -/
theorem observe_after (events : List (WatchEvent Namespace)) (e : WatchEvent Namespace)
    (pullers : List String) :
    let history := (events.map WatchEvent.named).reverse
    let gained := present (e.named :: history) \ present history
    let trigger := ((after events).observe e).1
    (trigger.isSome = true ↔
        ((∃ ns, e = .applied ns) ∨ (e = .complete ∧ .complete ∈ events)) ∧ gained.Nonempty) ∧
      ∀ cause, trigger = some cause →
        (∃ name ∈ gained, cause = .namespaceCreated name ∧
          ∀ other ∈ gained, other = name ∨ compare name other = .lt) ∧
        cause.requests pullers = pullers := by
  intro history gained trigger
  obtain ⟨triggers, least⟩ := (tracks_after events).trigger e.named
  have telling : Telling history e.named ↔
      (∃ ns, e = .applied ns) ∨ (e = .complete ∧ .complete ∈ events) := by
    cases e with
    | applied ns => simp [WatchEvent.named, WatchEvent.map, Telling]
    | listing | listed | deleted => simp [WatchEvent.named, WatchEvent.map, Telling]
    | complete =>
      have named (d : WatchEvent Namespace) : d.named = .complete ↔ d = .complete := by
        cases d <;> simp [WatchEvent.named, WatchEvent.map]
      show .complete ∈ history ↔ _
      simp [history, named]
  rw [← telling]
  refine ⟨triggers, fun cause caused => ?_⟩
  obtain ⟨name, gain, rfl, smaller⟩ := least cause caused
  exact ⟨⟨name, gain, rfl, smaller⟩, rfl⟩

/-- A listing that is interrupted and begun again shows one namespace that has come up meanwhile. -/
example :
    let ns (name : String) : Namespace := { metadata := { name := some name } }
    let events := [.listing, .listed (ns "a"), .complete, .deleted (ns "a"), .applied (ns "b"),
      .listing, .listed (ns "c"), .listing, .listed (ns "b"), .listed (ns "a")]
    ((after events).observe .complete).1 = some (.namespaceCreated "a") := by
  decide +kernel

end Tracker

end PullSecrets
