/-!
# Dictionaries in key order

A dictionary keeps one value per key and lists its entries in ascending order of the keys. The
order is part of the type, so that two dictionaries with the same look-ups are equal, and every
listing of labels, secrets or accounts comes out sorted.

## Main facts

* `get?_insert`, `get?_erase`: what writing and removing one key does to every look-up.
* `ext_get?`: a dictionary is determined by its look-ups.
* `get?_eq_some_iff`, `contains_iff_mem_keys`: looking up is membership in the listing.
* `get?_ofList_append`, `entries_ofList`: what a dictionary of several entries has and lists.
-/

namespace PullSecrets

universe u v w

/-- Values under keys, listed in ascending order of the keys. -/
structure Dict (κ : Type u) (α : Type v) [Ord κ] where
  /-- The entries in order. -/
  entries : List (κ × α)
  /-- Every key is smaller than the keys after it. -/
  ascending : entries.Pairwise fun a b => compare a.1 b.1 = .lt
  deriving DecidableEq

namespace Dict

section Entries

variable {κ : Type u} {α : Type v} [Ord κ]

/-- The value under a key in a list of entries. -/
def lookup (k : κ) : List (κ × α) → Option α
  | [] => none
  | e :: es => if compare k e.1 = .eq then some e.2 else lookup k es

/-- Write one key into a list of entries in order, at its place. -/
def place (k : κ) (a : α) : List (κ × α) → List (κ × α)
  | [] => [(k, a)]
  | e :: es =>
    match compare k e.1 with
    | .lt => (k, a) :: e :: es
    | .eq => (k, a) :: es
    | .gt => e :: place k a es

/-- Remove one key from a list of entries. -/
def strike (k : κ) (es : List (κ × α)) : List (κ × α) :=
  es.filter fun e => compare k e.1 != .eq

theorem not_compare_self_lt [Std.ReflOrd κ] (k : κ) : compare k k ≠ .lt := by
  rw [Std.ReflOrd.compare_self]
  decide

theorem mem_place {k : κ} {a : α} {x : κ × α} {es : List (κ × α)} (h : x ∈ place k a es) :
    x = (k, a) ∨ x ∈ es := by
  induction es with
  | nil => simpa [place] using h
  | cons e es ih =>
    rw [place] at h
    split at h
    · simpa using h
    · simp only [List.mem_cons] at h ⊢
      exact h.imp_right .inr
    · simp only [List.mem_cons] at h ⊢
      rcases h with h | h
      · exact .inr (.inl h)
      · exact (ih h).imp_right .inr

variable [Std.TransOrd κ] [Std.LawfulEqOrd κ]

theorem ascending_place (k : κ) (a : α) {es : List (κ × α)}
    (h : es.Pairwise fun a b => compare a.1 b.1 = .lt) :
    (place k a es).Pairwise fun a b => compare a.1 b.1 = .lt := by
  induction es with
  | nil => simp [place]
  | cons e es ih =>
    rw [List.pairwise_cons] at h
    rw [place]
    split
    · rename_i hk
      refine List.pairwise_cons.2 ⟨fun x hx => ?_, List.pairwise_cons.2 h⟩
      rcases List.mem_cons.1 hx with rfl | hx
      · exact hk
      · exact Std.TransCmp.lt_trans hk (h.1 x hx)
    · rename_i hk
      rw [Std.LawfulEqCmp.compare_eq_iff_eq] at hk
      exact List.pairwise_cons.2 ⟨hk ▸ h.1, h.2⟩
    · rename_i hk
      refine List.pairwise_cons.2 ⟨fun x hx => ?_, ih h.2⟩
      rcases mem_place hx with rfl | hx
      · exact Std.OrientedCmp.lt_of_gt hk
      · exact h.1 x hx

omit [Std.TransOrd κ] in
theorem lookup_place [DecidableEq κ] (k j : κ) (a : α) (es : List (κ × α)) :
    lookup j (place k a es) = if j = k then some a else lookup j es := by
  induction es with
  | nil => simp [place, lookup, Std.LawfulEqCmp.compare_eq_iff_eq]
  | cons e es ih =>
    rw [place]
    split
    · simp [lookup, Std.LawfulEqCmp.compare_eq_iff_eq]
    · rename_i hk
      rw [Std.LawfulEqCmp.compare_eq_iff_eq] at hk
      simp only [lookup, Std.LawfulEqCmp.compare_eq_iff_eq, hk]
      split <;> rfl
    · rename_i hk
      have hne : e.1 ≠ k := fun h => by simp [h] at hk
      simp only [lookup, Std.LawfulEqCmp.compare_eq_iff_eq, ih]
      grind

omit [Std.TransOrd κ] in
theorem lookup_strike [DecidableEq κ] (k j : κ) (es : List (κ × α)) :
    lookup j (strike k es) = if j = k then none else lookup j es := by
  induction es with
  | nil => simp [strike, lookup]
  | cons e es ih =>
    simp only [strike, List.filter_cons, bne_iff_ne, ne_eq,
      Std.LawfulEqCmp.compare_eq_iff_eq] at ih ⊢
    split
    · simp only [lookup, Std.LawfulEqCmp.compare_eq_iff_eq, ih]
      grind
    · simp only [ih, lookup, Std.LawfulEqCmp.compare_eq_iff_eq]
      grind

omit [Std.TransOrd κ] in
theorem lookup_eq_some_iff {k : κ} {a : α} {es : List (κ × α)}
    (h : es.Pairwise fun a b => compare a.1 b.1 = .lt) :
    lookup k es = some a ↔ (k, a) ∈ es := by
  induction es with
  | nil => simp [lookup]
  | cons e es ih =>
    rw [List.pairwise_cons] at h
    simp only [lookup, List.mem_cons]
    split
    · rename_i hk
      rw [Std.LawfulEqCmp.compare_eq_iff_eq] at hk
      constructor
      · intro ha
        exact .inl (by rw [hk, ← Option.some.inj ha])
      · rintro (rfl | ha)
        · rfl
        · exact absurd (hk ▸ h.1 _ ha) (not_compare_self_lt _)
    · rename_i hk
      rw [Std.LawfulEqCmp.compare_eq_iff_eq] at hk
      rw [ih h.2]
      constructor
      · exact .inr
      · rintro (rfl | ha)
        · exact absurd rfl hk
        · exact ha

/-- Entries in order are determined by membership. -/
theorem eq_of_mem_iff {es fs : List (κ × α)}
    (he : es.Pairwise fun a b => compare a.1 b.1 = .lt)
    (hf : fs.Pairwise fun a b => compare a.1 b.1 = .lt)
    (h : ∀ x, x ∈ es ↔ x ∈ fs) : es = fs := by
  induction es generalizing fs with
  | nil => exact (List.eq_nil_iff_forall_not_mem.2 fun x hx => by simpa using (h x).2 hx).symm
  | cons e es ih =>
    cases fs with
    | nil => exact absurd ((h e).1 List.mem_cons_self) (by simp)
    | cons f fs =>
      rw [List.pairwise_cons] at he hf
      have head : e = f := by
        rcases List.mem_cons.1 ((h e).1 List.mem_cons_self) with hef | hef
        · exact hef
        · rcases List.mem_cons.1 ((h f).2 List.mem_cons_self) with hfe | hfe
          · exact hfe.symm
          · exact absurd (Std.TransCmp.lt_trans (hf.1 e hef) (he.1 f hfe))
              (not_compare_self_lt _)
      subst head
      congr 1
      refine ih he.2 hf.2 fun x => ?_
      have hx := h x
      simp only [List.mem_cons] at hx
      constructor
      · intro hm
        rcases hx.1 (.inr hm) with rfl | hm'
        · exact absurd (he.1 _ hm) (not_compare_self_lt _)
        · exact hm'
      · intro hm
        rcases hx.2 (.inr hm) with rfl | hm'
        · exact absurd (hf.1 _ hm) (not_compare_self_lt _)
        · exact hm'

end Entries

variable {κ : Type u} {α : Type v} {β : Type w} [Ord κ]

/-! ## Reading -/

/-- The dictionary without entries. -/
def empty : Dict κ α := ⟨[], .nil⟩

instance : Inhabited (Dict κ α) := ⟨empty⟩

/-- The value under a key, if there is one. -/
def get? (d : Dict κ α) (k : κ) : Option α := lookup k d.entries

/-- Whether a key has a value. -/
def contains (d : Dict κ α) (k : κ) : Bool := (d.get? k).isSome

/-- The number of keys. -/
def size (d : Dict κ α) : Nat := d.entries.length

/-- Whether there is no key at all. -/
def isEmpty (d : Dict κ α) : Bool := d.entries.isEmpty

/-- The keys in order. -/
def keys (d : Dict κ α) : List κ := d.entries.map (·.1)

/-- The values in the order of their keys. -/
def values (d : Dict κ α) : List α := d.entries.map (·.2)

/-- Change the value of every entry. -/
def map (f : κ → α → β) (d : Dict κ α) : Dict κ β :=
  ⟨d.entries.map fun e => (e.1, f e.1 e.2), List.pairwise_map.2 d.ascending⟩

/-! ## Writing -/

section Writing

variable [Std.TransOrd κ] [Std.LawfulEqOrd κ]

/-- Write a value under a key, in place of the value that was there. -/
def insert (d : Dict κ α) (k : κ) (a : α) : Dict κ α :=
  ⟨place k a d.entries, ascending_place k a d.ascending⟩

/-- Remove a key. -/
def erase (d : Dict κ α) (k : κ) : Dict κ α :=
  ⟨strike k d.entries, d.ascending.filter _⟩

/-- Write several entries one after the other. -/
def insertAll (d : Dict κ α) (es : List (κ × α)) : Dict κ α :=
  es.foldl (fun d e => d.insert e.1 e.2) d

/-- The dictionary of a list of entries; the last entry of a key counts. -/
def ofList (es : List (κ × α)) : Dict κ α := empty.insertAll es

end Writing

/-! ## The laws of look-up -/

@[simp] theorem get?_empty (k : κ) : (empty : Dict κ α).get? k = none := rfl

section Laws

variable [Std.TransOrd κ] [Std.LawfulEqOrd κ]

/-- Writing a key changes the look-up of that key alone. -/
@[simp] theorem get?_insert [DecidableEq κ] (d : Dict κ α) (k j : κ) (a : α) :
    (d.insert k a).get? j = if j = k then some a else d.get? j :=
  lookup_place k j a d.entries

omit [Std.TransOrd κ] in
/-- Removing a key changes the look-up of that key alone. -/
@[simp] theorem get?_erase [DecidableEq κ] (d : Dict κ α) (k j : κ) :
    (d.erase k).get? j = if j = k then none else d.get? j :=
  lookup_strike k j d.entries

omit [Std.TransOrd κ] in
/-- Looking up is membership in the listing. -/
theorem get?_eq_some_iff {d : Dict κ α} {k : κ} {a : α} :
    d.get? k = some a ↔ (k, a) ∈ d.entries :=
  lookup_eq_some_iff d.ascending

/-- A dictionary is determined by its look-ups. -/
theorem ext_get? {d e : Dict κ α} (h : ∀ k, d.get? k = e.get? k) : d = e := by
  have entries : d.entries = e.entries :=
    eq_of_mem_iff d.ascending e.ascending fun x => by
      rw [← get?_eq_some_iff (d := d), ← get?_eq_some_iff (d := e), h]
  cases d; cases e; simp only at entries; subst entries; rfl

omit [Std.TransOrd κ] in
@[simp] theorem get?_map (f : κ → α → β) (d : Dict κ α) (k : κ) :
    (d.map f).get? k = (d.get? k).map (f k) := by
  apply Option.ext
  intro b
  simp only [get?_eq_some_iff, map, List.mem_map, Option.map_eq_some_iff, Prod.mk.injEq]
  constructor
  · rintro ⟨⟨j, a⟩, hmem, rfl, rfl⟩
    exact ⟨a, hmem, rfl⟩
  · rintro ⟨a, hmem, rfl⟩
    exact ⟨(k, a), hmem, rfl, rfl⟩

/-! ## Keys -/

omit [Std.TransOrd κ] in
theorem contains_iff_mem_keys {d : Dict κ α} {k : κ} : d.contains k = true ↔ k ∈ d.keys := by
  rw [contains, Option.isSome_iff_exists, keys, List.mem_map]
  constructor
  · rintro ⟨a, found⟩
    exact ⟨(k, a), get?_eq_some_iff.1 found, rfl⟩
  · rintro ⟨⟨_, a⟩, hmem, rfl⟩
    exact ⟨a, get?_eq_some_iff.2 hmem⟩

theorem contains_insert [DecidableEq κ] (d : Dict κ α) (k j : κ) (a : α) :
    (d.insert k a).contains j = true ↔ j = k ∨ d.contains j = true := by
  rw [contains, get?_insert, contains]
  split
  next same => simp [same]
  next differ => simp [differ]

omit [Std.TransOrd κ] in
theorem contains_erase [DecidableEq κ] (d : Dict κ α) (k j : κ) :
    (d.erase k).contains j = true ↔ d.contains j = true ∧ j ≠ k := by
  rw [contains, get?_erase, contains]
  split
  next same => simp [same]
  next differ => simp [differ]

/-- Keys in order are determined by membership. -/
theorem keys_eq_of_mem_iff {ks js : List κ} (hks : ks.Pairwise fun a b => compare a b = .lt)
    (hjs : js.Pairwise fun a b => compare a b = .lt) (h : ∀ k, k ∈ ks ↔ k ∈ js) : ks = js := by
  have entries : ks.map (fun k => (k, ())) = js.map fun k => (k, ()) :=
    eq_of_mem_iff (List.pairwise_map.2 hks) (List.pairwise_map.2 hjs) (by simp [h])
  have keys := congrArg (List.map Prod.fst) entries
  rw [List.map_map, List.map_map] at keys
  exact (List.map_id ks).symm.trans (keys.trans (List.map_id js))

/-! ## Several entries -/

theorem get?_insertAll_of_forall_ne {k : κ} (d : Dict κ α) {es : List (κ × α)}
    (h : ∀ e ∈ es, e.1 ≠ k) : (d.insertAll es).get? k = d.get? k := by
  classical
  induction es generalizing d with
  | nil => rfl
  | cons e es ih =>
    have other : k ≠ e.1 := Ne.symm (h e List.mem_cons_self)
    have rest : ((d.insert e.1 e.2).insertAll es).get? k = (d.insert e.1 e.2).get? k :=
      ih _ fun x hx => h x (List.mem_cons_of_mem e hx)
    rw [get?_insert, if_neg other] at rest
    exact rest

/-- Every entry of a dictionary was written. -/
theorem mem_of_mem_insertAll {d : Dict κ α} {es : List (κ × α)} {x : κ × α}
    (h : x ∈ (d.insertAll es).entries) : x ∈ d.entries ∨ x ∈ es := by
  induction es generalizing d with
  | nil => exact .inl h
  | cons e es ih =>
    rcases ih (d := d.insert e.1 e.2) h with h | later
    · rcases mem_place h with rfl | before
      · exact .inr List.mem_cons_self
      · exact .inl before
    · exact .inr (List.mem_cons_of_mem e later)

theorem mem_of_mem_ofList {es : List (κ × α)} {x : κ × α} (h : x ∈ (ofList es).entries) :
    x ∈ es := by
  rcases mem_of_mem_insertAll h with h | h
  · cases h
  · exact h

theorem contains_insertAll {d : Dict κ α} {es : List (κ × α)} {k : κ} :
    (d.insertAll es).contains k = true ↔ d.contains k = true ∨ ∃ e ∈ es, e.1 = k := by
  classical
  induction es generalizing d with
  | nil => simp [insertAll]
  | cons e es ih =>
    have rest := ih (d := d.insert e.1 e.2)
    rw [contains_insert] at rest
    simp only [List.mem_cons, exists_eq_or_imp]
    rw [eq_comm (a := e.1), ← or_assoc, or_comm (a := d.contains k = true)]
    exact rest

theorem contains_ofList {es : List (κ × α)} {k : κ} :
    (ofList es).contains k = true ↔ ∃ e ∈ es, e.1 = k := by
  rw [ofList, contains_insertAll]
  simp [contains]

/-- Of the entries of a key the last one counts. -/
theorem get?_ofList_append {k : κ} {a : α} {es fs : List (κ × α)} (h : ∀ e ∈ fs, e.1 ≠ k) :
    (ofList (es ++ (k, a) :: fs)).get? k = some a := by
  classical
  have split : ofList (es ++ (k, a) :: fs) = ((ofList es).insert k a).insertAll fs := by
    rw [ofList, insertAll, List.foldl_append]
    rfl
  rw [split, get?_insertAll_of_forall_ne _ h, get?_insert, if_pos rfl]

omit [Std.LawfulEqOrd κ] in
/-- A key larger than all others goes to the end. -/
theorem place_of_forall_lt {k : κ} {a : α} {es : List (κ × α)}
    (h : ∀ e ∈ es, compare e.1 k = .lt) : place k a es = es ++ [(k, a)] := by
  induction es with
  | nil => rfl
  | cons e es ih =>
    have after : compare k e.1 = .gt := Std.OrientedCmp.gt_of_lt (h e List.mem_cons_self)
    rw [place, after]
    simp only [List.cons_append]
    rw [ih fun x hx => h x (List.mem_cons_of_mem e hx)]

/-- Entries that come in ascending order are listed as they came. -/
theorem entries_insertAll {d : Dict κ α} {es : List (κ × α)}
    (h : (d.entries ++ es).Pairwise fun a b => compare a.1 b.1 = .lt) :
    (d.insertAll es).entries = d.entries ++ es := by
  induction es generalizing d with
  | nil => simp [insertAll]
  | cons e es ih =>
    have last : (d.insert e.1 e.2).entries = d.entries ++ [e] :=
      place_of_forall_lt fun x hx => (List.pairwise_append.1 h).2.2 x hx e List.mem_cons_self
    have rest : ((d.insert e.1 e.2).insertAll es).entries = (d.insert e.1 e.2).entries ++ es := by
      apply ih
      rw [last, List.append_assoc]
      exact h
    show ((d.insert e.1 e.2).insertAll es).entries = _
    rw [rest, last, List.append_assoc]
    rfl

theorem entries_ofList {es : List (κ × α)}
    (h : es.Pairwise fun a b => compare a.1 b.1 = .lt) : (ofList es).entries = es :=
  entries_insertAll h

/-- A dictionary is made of its entries. -/
theorem ofList_entries (d : Dict κ α) : ofList d.entries = d := by
  obtain ⟨es, ascending⟩ := d
  rcases h : ofList es with ⟨fs, _⟩
  have entries : (ofList es).entries = es := entries_ofList ascending
  rw [h] at entries
  subst entries
  rfl

/-- If no key comes twice, a dictionary has the entries that it was made of. -/
theorem get?_ofList_eq_some_iff {k : κ} {a : α} {es : List (κ × α)} (h : (es.map (·.1)).Nodup) :
    (ofList es).get? k = some a ↔ (k, a) ∈ es := by
  constructor
  · exact fun found => mem_of_mem_ofList (get?_eq_some_iff.1 found)
  · intro listed
    obtain ⟨before, after, rfl⟩ := List.append_of_mem listed
    refine get?_ofList_append fun e he same => ?_
    rw [List.map_append, List.map_cons, List.nodup_append] at h
    exact (List.nodup_cons.1 h.2.1).1 (List.mem_map.2 ⟨e, he, same⟩)

theorem map_insertAll (f : α → β) (d : Dict κ α) (es : List (κ × α)) :
    (d.insertAll es).map (fun _ => f) =
      (d.map fun _ => f).insertAll (es.map fun e => (e.1, f e.2)) := by
  classical
  induction es generalizing d with
  | nil => rfl
  | cons e es ih =>
    have head : (d.insert e.1 e.2).map (fun _ => f) = (d.map fun _ => f).insert e.1 (f e.2) := by
      apply ext_get?
      intro j
      by_cases this : j = e.1
      · simp [this]
      · simp [this]
    show ((d.insert e.1 e.2).insertAll es).map _ = _
    rw [ih, head]
    rfl

/-- Changing all values is changing them before they are written. -/
theorem map_ofList (f : α → β) (es : List (κ × α)) :
    (ofList es).map (fun _ => f) = ofList (es.map fun e => (e.1, f e.2)) :=
  map_insertAll f empty es

/-! ## One key twice -/

/-- Of two values under one key the last one counts. -/
theorem insert_insert [DecidableEq κ] (d : Dict κ α) (k : κ) (a b : α) :
    (d.insert k a).insert k b = d.insert k b := by
  apply ext_get?
  intro j
  by_cases this : j = k
  · simp [this]
  · simp [this]

/-- A value that is removed does not count. -/
theorem erase_insert [DecidableEq κ] (d : Dict κ α) (k : κ) (a : α) :
    (d.insert k a).erase k = d.erase k := by
  apply ext_get?
  intro j
  by_cases this : j = k
  · simp [this]
  · simp [this]

end Laws

end Dict

end PullSecrets
