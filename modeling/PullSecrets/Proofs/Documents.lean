import PullSecrets.Credentials
import PullSecrets.Proofs.Serialization
import Mathlib.Tactic.SplitIfs

/-!
# What the document of credentials says

The document is read again as an object that has one member for every server, in the order of the
bytes of their names. Under a server stand the credentials that were given last for it, those of
them that are not empty, whatever characters they are made of.

## Main facts

* `Text.bytes_lt`: texts in order have their bytes in order.
* `Credentials.value?_bytes`: the bytes of the document are read again as its entries.
* `Credentials.says_last`: the document says for every server what was given last, and no more.
-/

namespace PullSecrets

/-! ## The order of bytes -/

namespace Text

/-- The bytes of a text in UTF-8. -/
def bytes (s : String) : List UInt8 := s.toUTF8.data.toList

theorem bytes_eq (s : String) : bytes s = s.toList.flatMap String.utf8EncodeChar := by
  have encoded : s.toUTF8 = s.toList.utf8Encode := by
    rw [← String.toByteArray_ofList, String.ofList_toList, String.toUTF8]
  rw [bytes, encoded]
  exact List.toList_data_toByteArray

theorem ofNat_lt_ofNat_iff {m n : Nat} (hm : m < 256) (hn : n < 256) :
    UInt8.ofNat m < UInt8.ofNat n ↔ m < n := by
  rw [UInt8.lt_iff_toNat_lt, UInt8.toNat_ofNat', UInt8.toNat_ofNat', Nat.mod_eq_of_lt hm,
    Nat.mod_eq_of_lt hn]

theorem ofNat_eq_ofNat_iff {m n : Nat} (hm : m < 256) (hn : n < 256) :
    UInt8.ofNat m = UInt8.ofNat n ↔ m = n := by
  rw [← UInt8.toNat_inj, UInt8.toNat_ofNat', UInt8.toNat_ofNat', Nat.mod_eq_of_lt hm,
    Nat.mod_eq_of_lt hn]

/-- Numbers in order have their digits to the base 64 in order, the first of four taken whole. -/
theorem digits_lt {m n : Nat} (less : m < n) :
    m / 262144 < n / 262144 ∨ m / 262144 = n / 262144 ∧
      (m / 4096 % 64 < n / 4096 % 64 ∨ m / 4096 % 64 = n / 4096 % 64 ∧
        (m / 64 % 64 < n / 64 % 64 ∨ m / 64 % 64 = n / 64 % 64 ∧ m % 64 < n % 64)) := by
  have split : ∀ {m n : Nat}, m < n →
      m / 64 < n / 64 ∨ m / 64 = n / 64 ∧ m % 64 < n % 64 := by
    omega
  have m₂ : m / 64 / 64 = m / 4096 := Nat.div_div_eq_div_mul m 64 64
  have n₂ : n / 64 / 64 = n / 4096 := Nat.div_div_eq_div_mul n 64 64
  have m₃ : m / 4096 / 64 = m / 262144 := Nat.div_div_eq_div_mul m 4096 64
  have n₃ : n / 4096 / 64 = n / 262144 := Nat.div_div_eq_div_mul n 4096 64
  rcases split less with less | ⟨same, less⟩
  · rcases split less with less | ⟨same, less⟩
    · rw [m₂, n₂] at less
      have := split less
      omega
    · omega
  · omega

theorem toNat_lt (c : Char) : c.val.toNat < 0x110000 := by
  have valid := c.valid
  simp only [UInt32.isValidChar, Nat.isValidChar] at valid
  omega

/-- The bytes of a smaller character come first, whatever follows. -/
theorem utf8EncodeChar_append_lt {c d : Char} (less : c < d) (bs es : List UInt8) :
    String.utf8EncodeChar c ++ bs < String.utf8EncodeChar d ++ es := by
  have hc := toNat_lt c
  have hd := toNat_lt d
  have hless : c.val.toNat < d.val.toNat := less
  have digits := digits_lt hless
  have topc : c.val.toNat / 262144 % 8 = c.val.toNat / 262144 := Nat.mod_eq_of_lt (by omega)
  have topd : d.val.toNat / 262144 % 8 = d.val.toNat / 262144 := Nat.mod_eq_of_lt (by omega)
  rw [String.utf8EncodeChar, String.utf8EncodeChar]
  generalize c.val.toNat = m at *
  generalize d.val.toNat = n at *
  -- A character with fewer bytes has a smaller first byte; those with as many differ in a digit.
  split_ifs
  all_goals
    simp (disch := omega) only [List.cons_append, List.nil_append, List.cons_lt_cons_iff,
      ofNat_lt_ofNat_iff, ofNat_eq_ofNat_iff]
    omega

theorem utf8EncodeChar_ne_nil (c : Char) : String.utf8EncodeChar c ≠ [] := by
  rw [String.utf8EncodeChar]
  split_ifs <;> simp

/-- Texts in order have their bytes in order. -/
theorem bytes_lt {s t : String} (h : compare s t = .lt) : bytes s < bytes t := by
  have before : s < t := compareOfLessAndEq_eq_lt.1 h
  have less : s.toList < t.toList := before
  rw [bytes_eq, bytes_eq]
  generalize s.toList = cs at less
  generalize t.toList = ds at less
  induction ds generalizing cs with
  | nil => exact absurd less (List.not_lt_nil cs)
  | cons d ds ih =>
    cases cs with
    | nil =>
      obtain ⟨b, bs, first⟩ := List.exists_cons_of_ne_nil (utf8EncodeChar_ne_nil d)
      rw [List.flatMap_cons, first]
      exact List.nil_lt_cons _ _
    | cons c cs =>
      rw [List.flatMap_cons, List.flatMap_cons]
      rcases List.cons_lt_cons_iff.1 less with smaller | ⟨rfl, rest⟩
      · exact utf8EncodeChar_append_lt smaller _ _
      · exact List.append_left_lt (ih cs rest)

end Text

namespace Credentials

/-! ## Entries -/

/-- What a document says about a server leaves out its name and what is empty. -/
theorem entry_eq (r : Registry) : entry r = .object (Json.nonempty r.credentials) :=
  Registry.toJson_eq { r with server := "" }

theorem ne_server_of_mem_credentials {r : Registry} {f : String × String}
    (h : f ∈ r.credentials) : f.1 ≠ "server" := by
  simp only [Registry.credentials, List.mem_cons, List.not_mem_nil, or_false] at h
  rcases h with rfl | rfl | rfl | rfl <;> simp

/-- An entry stems from credentials for its server. -/
theorem exists_of_mem_entries {rs : List Registry} {m : String × Json}
    (h : m ∈ (entries rs).entries) : ∃ r ∈ rs, r.server = m.1 ∧ entry r = m.2 := by
  obtain ⟨r, hr, rfl⟩ := List.mem_map.1 (Dict.mem_of_mem_ofList h)
  exact ⟨r, hr, rfl, rfl⟩

/-- Every server has an entry. -/
theorem mem_keys_entries {rs : List Registry} {r : Registry} (h : r ∈ rs) :
    r.server ∈ (entries rs).keys := by
  rw [← Dict.contains_iff_mem_keys, entries, Dict.contains_ofList]
  exact ⟨(r.server, entry r), List.mem_map.2 ⟨r, h, rfl⟩, rfl⟩

/-- The entry of a server is what was given last for it. -/
theorem mem_entries_of_last {before after : List Registry} {r : Registry}
    (last : ∀ r' ∈ after, r'.server ≠ r.server) :
    (r.server, entry r) ∈ (entries (before ++ r :: after)).entries := by
  rw [← Dict.get?_eq_some_iff, entries, List.map_append, List.map_cons]
  apply Dict.get?_ofList_append
  intro e he
  obtain ⟨r', hr', rfl⟩ := List.mem_map.1 he
  exact last r' hr'

/-! ## The document -/

theorem numberless_object (rs : List Registry) :
    (Json.object (entries rs).entries).numberless = true := by
  refine Json.numberlessMembers_iff.2 fun m hm => ?_
  obtain ⟨r, -, -, same⟩ := exists_of_mem_entries hm
  rw [← same]
  exact Registry.numberless_toJson _

/-- The document is not deep. -/
theorem depth_object_le (rs : List Registry) : (Json.object (entries rs).entries).depth ≤ 2 := by
  refine Nat.succ_le_succ (Json.depthOfMembers_le fun m hm => ?_)
  obtain ⟨r, -, -, same⟩ := exists_of_mem_entries hm
  rw [← same, entry_eq]
  refine Nat.succ_le_succ (Json.depthOfMembers_le fun f hf => ?_)
  obtain ⟨t, -, rfl⟩ := List.mem_map.1 hf
  exact Nat.le_refl 0

/-- The bytes of the document are read again as its entries. -/
theorem value?_bytes (rs : List Registry) :
    ((Json.Tree.ofBytes? (bytes rs)).bind fun t => t.value? Json.Tree.maxDepth) =
      some (.object (entries rs).entries) := by
  have decoded : String.fromUTF8? (bytes rs) = some (document rs) := by
    rw [String.fromUTF8?, bytes, dif_pos (show (document rs).toUTF8.IsValidUTF8 from
      (document rs).isValidUTF8)]
    rfl
  have room : (Json.object (entries rs).entries).depth ≤ Json.Tree.maxDepth :=
    Nat.le_trans (depth_object_le rs) (by decide)
  rw [Json.Tree.ofBytes?, decoded, Option.bind_some, document,
    Json.Tree.ofString?_render (numberless_object rs), Option.bind_some,
    Json.Tree.value?_ofValue _ room]

/-- The document says for every server, in the order of the bytes of their names, what was given
last for it, and no more. -/
theorem says_last (rs : List Registry) :
    ∃ ms, ((Json.Tree.ofBytes? (bytes rs)).bind fun t => t.value? Json.Tree.maxDepth) =
        some (.object ms) ∧
      (ms.map fun m => Text.bytes m.1).Pairwise (· < ·) ∧
      (∀ server, server ∈ ms.map Prod.fst ↔ ∃ r ∈ rs, r.server = server) ∧
      (∀ before r after, rs = before ++ r :: after → (∀ r' ∈ after, r'.server ≠ r.server) →
        (r.server, .object (Json.nonempty r.credentials)) ∈ ms) ∧
      ∀ m ∈ ms, ∃ fields, m.2 = .object fields ∧ ∀ f ∈ fields, f.1 ≠ "server" := by
  refine ⟨(entries rs).entries, value?_bytes rs, ?_, fun server => ⟨?_, ?_⟩, ?_, ?_⟩
  · exact List.pairwise_map.2 ((entries rs).ascending.imp Text.bytes_lt)
  · intro listed
    obtain ⟨m, hm, rfl⟩ := List.mem_map.1 listed
    obtain ⟨r, hr, same, -⟩ := exists_of_mem_entries hm
    exact ⟨r, hr, same⟩
  · rintro ⟨r, hr, rfl⟩
    exact mem_keys_entries hr
  · rintro before r after rfl last
    rw [← entry_eq]
    exact mem_entries_of_last last
  · intro m hm
    obtain ⟨r, -, -, same⟩ := exists_of_mem_entries hm
    refine ⟨Json.nonempty r.credentials, same.symm.trans (entry_eq r), fun f hf => ?_⟩
    obtain ⟨t, ht, rfl⟩ := List.mem_map.1 hf
    exact ne_server_of_mem_credentials (List.mem_filter.1 ht).1

end Credentials

end PullSecrets
