import PullSecrets.Proofs.Documents
import Mathlib.Data.List.Induction
import Mathlib.Data.List.Nodup

/-!
# Documents that are the same

Being the same is an equivalence of documents, whether they are values or not. Between documents
of credentials it comes down to what counts of the credentials: the last ones that are given for
each server. The order of the servers does not matter, and neither does what a later entry hides.

## Main facts

* `Credentials.same_iff`, `Credentials.same_trans`: being the same is an equivalence.
* `Json.member?_canonical`: the members of a value are those of its canonical form.
* `Credentials.same_bytes_iff`: which lists of credentials have the same document.
-/

namespace PullSecrets

/-! ## The members of a value -/

namespace Json

theorem canonicalMembers_eq (ms : List (String × Json)) :
    canonicalMembers ms = ms.map fun m => (m.1, m.2.canonical) := by
  induction ms with
  | nil => rfl
  | cons m ms ih =>
    rw [List.map_cons, ← ih]
    rfl

theorem unsignedZeroMembers_eq (ms : List (String × Json)) :
    unsignedZeroMembers ms = ms.map fun m => (m.1, m.2.unsignedZeros) := by
  induction ms with
  | nil => rfl
  | cons m ms ih =>
    rw [List.map_cons, ← ih]
    rfl

/-- The member of a name, the last one if there are several. -/
def member? (name : String) : Json → Option Json
  | object ms => (Dict.ofList ms).get? name
  | null | bool _ | number _ | string _ | array _ => none

/-- The members of a value are those of its canonical form. -/
theorem member?_canonical (name : String) (v : Json) :
    v.canonical.member? name = (v.member? name).map canonical := by
  cases v with
  | object ms =>
    simp only [canonical, member?, Dict.ofList_entries, canonicalMembers_eq, ← Dict.map_ofList,
      Dict.get?_map]
  | null | bool | number | string | array => rfl

theorem member?_unsignedZeros (name : String) (v : Json) :
    v.unsignedZeros.member? name = (v.member? name).map unsignedZeros := by
  cases v with
  | object ms =>
    simp only [unsignedZeros, member?, unsignedZeroMembers_eq, ← Dict.map_ofList, Dict.get?_map]
  | number n => cases n <;> rfl
  | null | bool | string | array => rfl

theorem names_present_sublist (fields : List (String × Option Json)) :
    ((present fields).map (·.1)).Sublist (fields.map (·.1)) := by
  induction fields with
  | nil => exact .slnil
  | cons f fields ih =>
    obtain ⟨name, _ | v⟩ := f
    · exact ih.cons name
    · exact ih.cons_cons name

/-- Of fields under different names those that are there are members. -/
theorem member?_ofFields {fields : List (String × Option Json)}
    (nodup : (fields.map (·.1)).Nodup) {name : String} {v : Option Json}
    (given : (name, v) ∈ fields) : (ofFields fields).member? name = v := by
  have mem (w : Json) : (name, w) ∈ present fields ↔ (name, some w) ∈ fields := by
    simp [present]
  have names := nodup.sublist (names_present_sublist fields)
  apply Option.ext
  intro w
  show (Dict.ofList (present fields)).get? name = some w ↔ v = some w
  rw [Dict.get?_ofList_eq_some_iff names, mem]
  constructor
  · exact fun given' => congrArg Prod.snd (List.inj_on_of_nodup_map nodup given given' rfl)
  · rintro rfl
    exact given

/-- Of texts under different names those that are not empty are members. -/
theorem member?_nonempty {texts : List (String × String)} (nodup : (texts.map (·.1)).Nodup)
    {name s : String} (given : (name, s) ∈ texts) :
    (object (nonempty texts)).member? name = if s.isEmpty then none else some (.string s) := by
  have object : object (nonempty texts) = ofFields (texts.map fun t => (t.1, ofNonempty t.2)) :=
    congrArg Json.object (present_ofNonempty texts).symm
  rw [object]
  exact member?_ofFields (by rwa [List.map_map]) (List.mem_map.2 ⟨_, given, rfl⟩)

end Json

namespace Credentials

/-! ## An equivalence -/

/-- Documents are the same if they are equal, or if they have equal values. -/
theorem same_iff {left right : ByteArray} :
    same left right = true ↔
      left = right ∨ ∃ v, value? left = some v ∧ value? right = some v := by
  rw [same, Bool.or_eq_true, decide_eq_true_eq]
  cases value? left <;> cases value? right <;> simp [eq_comm]

theorem same_trans {left middle right : ByteArray} (h : same left middle = true)
    (h' : same middle right = true) : same left right = true := by
  rw [same_iff] at *
  rcases h with rfl | ⟨v, hl, hm⟩
  · exact h'
  · rcases h' with rfl | ⟨v', hm', hr⟩
    · exact .inr ⟨v, hl, hm⟩
    · rw [hm, Option.some.injEq] at hm'
      exact .inr ⟨v, hl, hm' ▸ hr⟩

/-! ## Documents of credentials -/

/-- The last credentials that are given for a server. -/
def last? (rs : List Registry) (server : String) : Option Registry :=
  (rs.filter (·.server == server)).getLast?

/-- The entry of a server is that of its last credentials. -/
theorem get?_entries (rs : List Registry) (server : String) :
    (entries rs).get? server = (last? rs server).map entry := by
  induction rs using List.reverseRecOn with
  | nil => rfl
  | append_singleton rs r ih =>
    have added : entries (rs ++ [r]) = (entries rs).insert r.server (entry r) := by
      simp only [entries, Dict.ofList, Dict.insertAll, List.map_append, List.foldl_append,
        List.map_cons, List.map_nil, List.foldl_cons, List.foldl_nil]
    rw [added, Dict.get?_insert, ih, last?, last?, List.filter_append]
    by_cases this : server = r.server
    · simp [this]
    · simp [this, Ne.symm this]

theorem server_of_last? {rs : List Registry} {server : String} {r : Registry}
    (h : last? rs server = some r) : r.server = server := by
  simpa using (List.mem_filter.1 (List.mem_of_getLast? h)).2

/-- The value of the document, up to the order of members. -/
theorem value?_eq (rs : List Registry) :
    value? (bytes rs) = some (Json.object (entries rs).entries).canonical.unsignedZeros := by
  obtain ⟨t, read, valued⟩ := Option.bind_eq_some_iff.1 (value?_bytes rs)
  rw [value?, read, Option.bind_some, valued, Option.map_some]

/-- What the value of a document says about a server, in the form in which values are compared. -/
theorem member?_value (rs : List Registry) (server : String) :
    (Json.object (entries rs).entries).canonical.unsignedZeros.member? server =
      (last? rs server).map fun r => (entry r).canonical.unsignedZeros := by
  rw [Json.member?_unsignedZeros, Json.member?_canonical, Json.member?, Dict.ofList_entries,
    get?_entries]
  simp only [Option.map_map, Function.comp_def]

/-- Every text of credentials can be told from their entry, in the form in which values are
compared. -/
theorem text_of_entry {r r' : Registry} (name : String) {s s' : String}
    (same : (entry r).canonical.unsignedZeros = (entry r').canonical.unsignedZeros)
    (given : (name, s) ∈ r.credentials) (given' : (name, s') ∈ r'.credentials) : s = s' := by
  have nodup (r : Registry) : (r.credentials.map (·.1)).Nodup := by simp [Registry.credentials]
  have members := congrArg (Json.member? name) same
  rw [Json.member?_unsignedZeros, Json.member?_unsignedZeros, Json.member?_canonical,
    Json.member?_canonical, entry_eq, entry_eq, Json.member?_nonempty (nodup r) given,
    Json.member?_nonempty (nodup r') given'] at members
  by_cases empty : s = ""
  · by_cases empty' : s' = ""
    · rw [empty, empty']
    · simp [empty, empty'] at members
  · by_cases empty' : s' = ""
    · simp [empty, empty'] at members
    · simpa [empty, empty', Json.canonical, Json.unsignedZeros] using members

theorem eq_of_entry {r r' : Registry} (server : r.server = r'.server)
    (same : (entry r).canonical.unsignedZeros = (entry r').canonical.unsignedZeros) : r = r' := by
  obtain ⟨s, u, p, e, a⟩ := r
  obtain ⟨s', u', p', e', a'⟩ := r'
  cases server
  have username : u = u' := text_of_entry "username" same (by simp [Registry.credentials])
    (by simp [Registry.credentials])
  have password : p = p' := text_of_entry "password" same (by simp [Registry.credentials])
    (by simp [Registry.credentials])
  have email : e = e' := text_of_entry "email" same (by simp [Registry.credentials])
    (by simp [Registry.credentials])
  have auth : a = a' := text_of_entry "auth" same (by simp [Registry.credentials])
    (by simp [Registry.credentials])
  subst username password email auth
  rfl

/-- The bytes of a document are settled by the last credentials for each server. -/
theorem bytes_congr {as bs : List Registry} (h : ∀ server, last? as server = last? bs server) :
    bytes as = bytes bs := by
  have same : entries as = entries bs := Dict.ext_get? fun server => by
    rw [get?_entries, get?_entries, h]
  rw [bytes, bytes, document, document, same]

/-- Two lists of credentials have the same document if and only if the last credentials for every
server are equal. -/
theorem same_bytes_iff {as bs : List Registry} :
    same (bytes as) (bytes bs) = true ↔ ∀ server, last? as server = last? bs server := by
  constructor
  · intro h server
    have values : value? (bytes as) = value? (bytes bs) := by
      rcases same_iff.1 h with equal | ⟨v, left, right⟩
      · rw [equal]
      · rw [left, right]
    rw [value?_eq, value?_eq, Option.some.injEq] at values
    have members := congrArg (Json.member? server) values
    rw [member?_value, member?_value] at members
    cases ha : last? as server with
    | none =>
      rw [ha, Option.map_none, eq_comm, Option.map_eq_none_iff] at members
      exact members.symm
    | some r =>
      rw [ha, Option.map_some, eq_comm, Option.map_eq_some_iff] at members
      obtain ⟨r', hb, same⟩ := members
      have server : r.server = r'.server :=
        (server_of_last? ha).trans (server_of_last? hb).symm
      rw [hb, eq_of_entry server same.symm]
  · intro h
    rw [bytes_congr h]
    exact same_refl _

end Credentials

end PullSecrets
