import PullSecrets.Cluster.Answer
import PullSecrets.Selector.Term

/-!
# Reading a query

A query names the conditions of a selector one after the other, with a comma between two of them
and with commas between the values of one of them as well. As long as keys and values are made of
the characters of labels, a reader that looks at the query from the left always knows which
condition it stands in. So a query tells which conditions it was made of.

## Main facts

* `Term.read_query`: the reader gets back the condition at the front of a query.
* `Term.queries_injective`: conditions with the same query are the same, in the same order.
* `LabelSelector.selects_eq_of_query`: selectors with the same query select the same objects.
-/

namespace PullSecrets

/-! ## The characters of labels -/

namespace Label

/-- Whether a character may stand in the value of a label. -/
def inValue (c : Char) : Bool := c.isAlphanum || ['.', '_', '-'].contains c

/-- Whether a character may stand in the key of a label. -/
def inKey (c : Char) : Bool := inValue c || c == '/'

/-- Whether a text is made of the characters of label values; it may be empty. -/
def IsValue (value : String) : Prop := ∀ c ∈ value.toList, inValue c = true

/-- Whether a text is made of the characters of label keys, with one at least. -/
def IsKey (key : String) : Prop := key.toList ≠ [] ∧ ∀ c ∈ key.toList, inKey c = true

-- Only the characters of the text are looked at, not all the characters there are.
instance (value : String) : Decidable (IsValue value) :=
  value.toList.decidableBAll (inValue · = true)

instance (key : String) : Decidable (IsKey key) :=
  haveI := key.toList.decidableBAll (inKey · = true)
  inferInstanceAs (Decidable (key.toList ≠ [] ∧ ∀ c ∈ key.toList, inKey c = true))

theorem IsValue.not_mem {value : String} {c : Char} (h : IsValue value)
    (other : inValue c = false) : c ∉ value.toList := by
  intro there
  rw [h c there] at other
  exact Bool.noConfusion other

theorem IsKey.not_mem {key : String} {c : Char} (h : IsKey key) (other : inKey c = false) :
    c ∉ key.toList := by
  intro there
  rw [h.2 c there] at other
  exact Bool.noConfusion other

end Label

open Label

/-- Whether the key and the values of an expression are made of the characters of labels. -/
structure Requirement.Plain (r : Requirement) : Prop where
  key : IsKey r.key
  values : ∀ v ∈ r.values.getD [], IsValue v

/-- Whether all keys and values of a selector are made of the characters of labels. -/
structure LabelSelector.Plain (s : LabelSelector) : Prop where
  labels : ∀ e ∈ s.labels, IsKey e.1 ∧ IsValue e.2
  requirements : ∀ r ∈ s.requirements, r.Plain

instance (r : Requirement) : Decidable r.Plain :=
  decidable_of_iff (IsKey r.key ∧ ∀ v ∈ r.values.getD [], IsValue v)
    ⟨fun h => ⟨h.1, h.2⟩, fun h => ⟨h.key, h.values⟩⟩

instance (s : LabelSelector) : Decidable s.Plain :=
  decidable_of_iff ((∀ e ∈ s.labels, IsKey e.1 ∧ IsValue e.2) ∧ ∀ r ∈ s.requirements, r.Plain)
    ⟨fun h => ⟨h.1, h.2⟩, fun h => ⟨h.labels, h.requirements⟩⟩

/-! ## Runs of characters -/

section Runs

variable {p : Char → Bool} {run rest : List Char}

theorem takeWhile_append_rest (inside : ∀ c ∈ run, p c = true)
    (stop : ∀ c ∈ rest.head?, p c = false) : (run ++ rest).takeWhile p = run := by
  rw [List.takeWhile_append_of_pos inside]
  cases rest with
  | nil => simp
  | cons c rest => simp [stop c rfl]

theorem dropWhile_append_rest (inside : ∀ c ∈ run, p c = true)
    (stop : ∀ c ∈ rest.head?, p c = false) : (run ++ rest).dropWhile p = rest := by
  rw [List.dropWhile_append_of_pos inside]
  cases rest with
  | nil => rfl
  | cons c rest => simp [stop c rfl]

end Runs

namespace Term

/-- Whether a condition is made of the characters of labels. A list of values is never empty. -/
def Plain : Term → Prop
  | equals key value => IsKey key ∧ IsValue value
  | oneOf key values => IsKey key ∧ values ≠ [] ∧ ∀ v ∈ values, IsValue v
  | noneOf key values => IsKey key ∧ values ≠ [] ∧ ∀ v ∈ values, IsValue v
  | present key => IsKey key
  | absent key => IsKey key

/-! ## The reader -/

/-- The values up to a closing parenthesis. -/
def values (cs : List Char) : List String :=
  ((cs.takeWhile (· != ')')).splitOn ',').map String.ofList

/-- What stands behind a closing parenthesis. -/
def behind (cs : List Char) : List Char := (cs.dropWhile (· != ')')).drop 1

/-- Read what stands behind a key. -/
def readTail (key : String) : List Char → Term × List Char
  | '=' :: cs => (equals key (.ofList (cs.takeWhile inValue)), cs.dropWhile inValue)
  | ' ' :: 'i' :: 'n' :: ' ' :: '(' :: cs => (oneOf key (values cs), behind cs)
  | ' ' :: 'n' :: 'o' :: 't' :: 'i' :: 'n' :: ' ' :: '(' :: cs =>
    (noneOf key (values cs), behind cs)
  | cs => (present key, cs)

/-- Read the condition at the front of a query; also what stands behind it. -/
def read : List Char → Term × List Char
  | '!' :: cs => (absent (.ofList (cs.takeWhile inKey)), cs.dropWhile inKey)
  | cs => readTail (.ofList (cs.takeWhile inKey)) (cs.dropWhile inKey)

/-- Behind an exclamation mark stands a key. -/
theorem read_mark {key : String} {rest : List Char} (plain : IsKey key)
    (stop : ∀ c ∈ rest.head?, inKey c = false) :
    read ('!' :: (key.toList ++ rest)) = (absent key, rest) := by
  rw [read, takeWhile_append_rest plain.2 stop, dropWhile_append_rest plain.2 stop,
    String.ofList_toList]

/-- A key at the front is read up to its end. -/
theorem read_key {key : String} {rest : List Char} (plain : IsKey key)
    (stop : ∀ c ∈ rest.head?, inKey c = false) :
    read (key.toList ++ rest) = readTail key rest := by
  have unmarked : ∀ cs, key.toList ++ rest = '!' :: cs → False := by
    intro cs marked
    cases front : key.toList with
    | nil => exact plain.1 front
    | cons c key =>
      rw [front, List.cons_append] at marked
      obtain rfl : c = '!' := (List.cons.inj marked).1
      exact absurd (front ▸ List.mem_cons_self) (plain.not_mem (c := '!') (by decide))
  rw [read.eq_2 _ unmarked, takeWhile_append_rest plain.2 stop,
    dropWhile_append_rest plain.2 stop, String.ofList_toList]

section Values

variable {vs : List String}

/-- Between the parentheses of a list of values there is no other parenthesis. -/
theorem inside_values (plain : ∀ v ∈ vs, IsValue v) :
    ∀ c ∈ (String.intercalate "," vs).toList, (c != ')') = true := by
  induction vs with
  | nil => simp
  | cons v vs ih =>
    have first : ∀ c ∈ v.toList, c ≠ ')' := fun c hc closing =>
      (plain v List.mem_cons_self).not_mem (by decide) (closing ▸ hc)
    have others := ih fun w hw => plain w (List.mem_cons_of_mem v hw)
    cases vs with
    | nil => simpa using first
    | cons w vs =>
      intro c hc
      simp only [String.intercalate_cons_cons, String.toList_append, List.mem_append] at hc
      rcases hc with (hc | hc) | hc
      · simpa using first c hc
      · obtain rfl : c = ',' := by simpa using hc
        decide
      · exact others c hc

/-- A list of values is read back, since no value has a comma or a parenthesis. -/
theorem values_intercalate (filled : vs ≠ []) (plain : ∀ v ∈ vs, IsValue v) (rest : List Char) :
    values ((String.intercalate "," vs).toList ++ ')' :: rest) = vs := by
  have pieces : ∀ l ∈ vs.map String.toList, ',' ∉ l := by
    intro l hl
    obtain ⟨v, hv, rfl⟩ := List.mem_map.1 hl
    exact (plain v hv).not_mem (by decide)
  rw [values, takeWhile_append_rest (inside_values plain) (by simp), String.toList_intercalate]
  rw [show (",").toList = [','] from rfl, List.splitOn_intercalate _ pieces (by simpa using filled)]
  simp [Function.comp_def]

theorem behind_intercalate (plain : ∀ v ∈ vs, IsValue v) (rest : List Char) :
    behind ((String.intercalate "," vs).toList ++ ')' :: rest) = rest := by
  rw [behind, dropWhile_append_rest (inside_values plain) (by simp), List.drop_one, List.tail_cons]

end Values

/-- The reader gets back the condition at the front of a query. -/
theorem read_query {t : Term} {rest : List Char} (plain : t.Plain)
    (stop : ∀ c ∈ rest.head?, c = ',') : read (t.query.toList ++ rest) = (t, rest) := by
  have keyStop : ∀ c ∈ rest.head?, inKey c = false := by
    intro c hc
    rw [stop c hc]
    decide
  have valueStop : ∀ c ∈ rest.head?, inValue c = false := by
    intro c hc
    rw [stop c hc]
    decide
  cases t with
  | equals key value =>
    obtain ⟨isKey, isValue⟩ := plain
    have text : (equals key value).query.toList ++ rest =
        key.toList ++ '=' :: (value.toList ++ rest) := by simp [query]
    rw [text, read_key isKey (by simp [inKey, inValue]), readTail,
      takeWhile_append_rest isValue valueStop, dropWhile_append_rest isValue valueStop,
      String.ofList_toList]
  | oneOf key vs =>
    obtain ⟨isKey, filled, areValues⟩ := plain
    have text : (oneOf key vs).query.toList ++ rest = key.toList ++
        ' ' :: 'i' :: 'n' :: ' ' :: '(' :: ((String.intercalate "," vs).toList ++ ')' :: rest) := by
      simp [query]
    rw [text, read_key isKey (by simp [inKey, inValue]), readTail,
      values_intercalate filled areValues, behind_intercalate areValues]
  | noneOf key vs =>
    obtain ⟨isKey, filled, areValues⟩ := plain
    have text : (noneOf key vs).query.toList ++ rest = key.toList ++
        ' ' :: 'n' :: 'o' :: 't' :: 'i' :: 'n' :: ' ' :: '(' ::
          ((String.intercalate "," vs).toList ++ ')' :: rest) := by
      simp [query]
    rw [text, read_key isKey (by simp [inKey, inValue]), readTail,
      values_intercalate filled areValues, behind_intercalate areValues]
  | present key =>
    rw [query, read_key plain keyStop]
    cases rest with
    | nil => rfl
    | cons c rest =>
      obtain rfl := stop c rfl
      rfl
  | absent key =>
    have text : (absent key).query.toList ++ rest = '!' :: (key.toList ++ rest) := by simp [query]
    rw [text, read_mark plain keyStop]

/-! ## Whole queries -/

/-- Conditions with a comma before each of them. -/
def trail (ts : List Term) : List Char := ts.flatMap fun t => ',' :: t.query.toList

@[simp] theorem trail_cons (t : Term) (ts : List Term) :
    trail (t :: ts) = ',' :: (t.query.toList ++ trail ts) := rfl

theorem head_trail (ts : List Term) : ∀ c ∈ (trail ts).head?, c = ',' := by
  cases ts with
  | nil => simp [trail]
  | cons t ts =>
    intro c hc
    exact (Option.some.inj hc).symm

/-- A query is its first condition, and the others with a comma before each. -/
theorem toList_intercalate_query (t : Term) (ts : List Term) :
    (String.intercalate "," ((t :: ts).map query)).toList = t.query.toList ++ trail ts := by
  induction ts generalizing t with
  | nil => simp [trail]
  | cons u ts ih =>
    have tail := ih u
    simp only [List.map_cons] at tail ⊢
    rw [String.intercalate_cons_cons, String.toList_append, tail]
    simp

theorem query_ne_nil {t : Term} (plain : t.Plain) : t.query.toList ≠ [] := by
  cases t with
  | equals key value => simp [query]
  | oneOf key vs => simp [query]
  | noneOf key vs => simp [query]
  | present key => exact plain.1
  | absent key => simp [query]

variable {ts us : List Term}

/-- Conditions read one after the other are the ones that were written. -/
theorem trail_injective (plain : ∀ t ∈ ts, t.Plain) (plain' : ∀ u ∈ us, u.Plain)
    (same : trail ts = trail us) : ts = us := by
  induction ts generalizing us with
  | nil =>
    cases us with
    | nil => rfl
    | cons u us => simp [trail] at same
  | cons t ts ih =>
    cases us with
    | nil => simp [trail] at same
    | cons u us =>
      simp only [trail_cons, List.cons.injEq, true_and] at same
      have back := congrArg read same
      rw [read_query (plain t List.mem_cons_self) (head_trail ts),
        read_query (plain' u List.mem_cons_self) (head_trail us)] at back
      obtain ⟨rfl, rest⟩ := Prod.mk.inj back
      rw [ih (fun x hx => plain x (List.mem_cons_of_mem t hx))
        (fun x hx => plain' x (List.mem_cons_of_mem t hx)) rest]

/-- Conditions with the same query are the same, in the same order. -/
theorem queries_injective (plain : ∀ t ∈ ts, t.Plain) (plain' : ∀ u ∈ us, u.Plain)
    (same : String.intercalate "," (ts.map query) = String.intercalate "," (us.map query)) :
    ts = us := by
  replace same := congrArg String.toList same
  cases ts with
  | nil =>
    cases us with
    | nil => rfl
    | cons u us =>
      rw [toList_intercalate_query] at same
      have nothing : u.query.toList = [] := (List.append_eq_nil_iff.1 same.symm).1
      exact absurd nothing (query_ne_nil (plain' u List.mem_cons_self))
  | cons t ts =>
    cases us with
    | nil =>
      rw [toList_intercalate_query] at same
      have nothing : t.query.toList = [] := (List.append_eq_nil_iff.1 same).1
      exact absurd nothing (query_ne_nil (plain t List.mem_cons_self))
    | cons u us =>
      rw [toList_intercalate_query, toList_intercalate_query] at same
      exact trail_injective plain plain' (by simp [same])

end Term

/-! ## Selectors -/

/-- The condition of a plain expression is plain. -/
theorem Requirement.Plain.term {r : Requirement} {t : Term} (plain : r.Plain)
    (ht : r.term? = .ok t) : t.Plain := by
  simp only [Requirement.term?] at ht
  split at ht
  · split at ht
    · exact absurd ht (by simp)
    · next unempty =>
      have filled : r.values.getD [] ≠ [] := fun nothing => unempty (by rw [nothing]; rfl)
      split at ht
      · obtain rfl := Except.ok.inj ht
        exact ⟨plain.key, filled, plain.values⟩
      · obtain rfl := Except.ok.inj ht
        exact ⟨plain.key, filled, plain.values⟩
  · split at ht
    · split at ht
      · exact absurd ht (by simp)
      · split at ht
        · obtain rfl := Except.ok.inj ht
          exact plain.key
        · obtain rfl := Except.ok.inj ht
          exact plain.key
    · exact absurd ht (by simp)

/-- Conditions that expressions mean, one after the other, come from one of the expressions each. -/
theorem Requirement.mem_of_mapM {rs : List Requirement} {ts : List Term}
    (h : rs.mapM term? = .ok ts) : ∀ t ∈ ts, ∃ r ∈ rs, r.term? = .ok t := by
  induction rs generalizing ts with
  | nil =>
    obtain rfl : [] = ts := Except.ok.inj h
    simp
  | cons r rs ih =>
    rw [List.mapM_cons] at h
    cases first : r.term? with
    | error e =>
      rw [first] at h
      cases h
    | ok t =>
      cases others : rs.mapM term? with
      | error e =>
        rw [first, others] at h
        cases h
      | ok us =>
        rw [first, others] at h
        obtain rfl : t :: us = ts := Except.ok.inj h
        intro x hx
        rcases List.mem_cons.1 hx with rfl | hx
        · exact ⟨r, List.mem_cons_self, first⟩
        · obtain ⟨r', hr', meaning⟩ := ih others x hx
          exact ⟨r', List.mem_cons_of_mem r hr', meaning⟩

namespace LabelSelector

variable {s t : LabelSelector}

/-- The conditions of a plain selector are plain. -/
theorem Plain.terms {ts : List Term} (plain : s.Plain) (hts : s.terms? = .ok ts) :
    ∀ x ∈ ts, x.Plain := by
  rw [terms?] at hts
  cases meant : s.requirements.mapM Requirement.term? with
  | error e => simp [meant, Except.map] at hts
  | ok us =>
    simp only [meant, Except.map, Except.ok.injEq] at hts
    subst hts
    intro x hx
    rcases List.mem_append.1 hx with hx | hx
    · obtain ⟨e, he, rfl⟩ := List.mem_map.1 hx
      exact plain.labels e he
    · obtain ⟨r, hr, meaning⟩ := Requirement.mem_of_mapM meant x hx
      exact (plain.requirements r hr).term meaning

/-- Plain selectors with the same query mean the same conditions, or fail in the same way. -/
theorem Plain.terms_eq (plain : s.Plain) (plain' : t.Plain) (same : s.query = t.query) :
    s.terms? = t.terms? := by
  rw [query, query] at same
  cases hs : s.terms? with
  | error e =>
    cases ht : t.terms? with
    | error e' =>
      rw [hs, ht] at same
      rw [Except.error.inj same]
    | ok us =>
      rw [hs, ht] at same
      cases same
  | ok ts =>
    cases ht : t.terms? with
    | error e =>
      rw [hs, ht] at same
      cases same
    | ok us =>
      rw [hs, ht] at same
      rw [Term.queries_injective (plain.terms hs) (plain'.terms ht) (Except.ok.inj same)]

/-- Selectors that select the same labels choose the same namespaces. -/
theorem choose_congr (same : ∀ labels, s.selects labels = t.selects labels)
    (namespaces : List Namespace) : Cluster.choose s namespaces = Cluster.choose t namespaces := by
  induction namespaces with
  | nil => rfl
  | cons ns rest ih => rw [Cluster.choose, Cluster.choose, same, ih]

/-- Selectors with the same query select the same objects, and list the same namespaces of every
cluster. -/
theorem selects_eq_of_query (plain : s.Plain) (plain' : t.Plain) (same : s.query = t.query) :
    (∀ labels, s.selects labels = t.selects labels) ∧
      ∀ c : Cluster, c.listNamespaces (some s) = c.listNamespaces (some t) := by
  have selected : ∀ labels, s.selects labels = t.selects labels := by
    intro labels
    rw [selects, selects, plain.terms_eq plain' same]
  refine ⟨selected, fun c => ?_⟩
  rw [Cluster.listNamespaces, Cluster.listNamespaces]
  simp only [choose_congr selected]

/-- A label without a value, a list with an empty value and an expression without values, written
in two ways. -/
theorem selects_eq_of_query_sample :
    let tiers : List Requirement :=
      [⟨"tier", "In", some ["", "front"]⟩, ⟨"old", "NotIn", some [""]⟩]
    let s : LabelSelector :=
      ⟨some (tiers ++ [⟨"team", "Exists", none⟩]), some (.ofList [("app/kind", "")])⟩
    let t : LabelSelector :=
      ⟨some (tiers ++ [⟨"team", "Exists", some []⟩]), some (.ofList [("app/kind", "")])⟩
    s ≠ t ∧ s.query = .ok "app/kind=,tier in (,front),old notin (),team" ∧
      (∀ labels, s.selects labels = t.selects labels) ∧
        ∀ c : Cluster, c.listNamespaces (some s) = c.listNamespaces (some t) := by
  intro tiers s t
  have plain : s.Plain ∧ t.Plain := by decide +kernel
  exact ⟨by decide +kernel, rfl, selects_eq_of_query plain.1 plain.2 rfl⟩

end LabelSelector

end PullSecrets
