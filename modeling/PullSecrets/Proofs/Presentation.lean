import PullSecrets.Proofs.Acceptance
import PullSecrets.Proofs.Sameness
import Mathlib.Logic.Relation

/-!
# Documents that differ in their presentation

A document is accepted if it is a text of a value that is not too deep. Such documents are the
same when they are texts of one value, however they are written, and also when the members of
objects stand in another order, at any depth, as long as the names in such an object are distinct.
Documents that are no texts of values are only the same if they are equal.

## Main facts

* `Json.Tree.value?_eq_some_iff`: the trees that have a value are those of values.
* `Json.ofBytes?_eq_some_iff`: the documents that are accepted with a value.
* `Json.Reorder.canonical_eq`, `Json.Reorder.depth_eq`: what another order does not change.
* `Credentials.same_of_presented`: being the same is an equivalence that ignores presentation.
-/

namespace PullSecrets

namespace Json

/-! ## The trees of values -/

namespace Tree

mutual

/-- A tree that has a value is the tree of this value, and there is room for its depth. -/
theorem eq_ofValue_of_value? {room : Nat} (t : Tree) {v : Json} (h : value? room t = some v) :
    t = ofValue v ∧ v.depth ≤ room := by
  match t with
  | .null | .bool _ =>
    rw [value?] at h
    cases h
    exact ⟨rfl, Nat.zero_le room⟩
  | .number n =>
    rw [value?, Option.map_eq_some_iff] at h
    obtain ⟨n, rfl, rfl⟩ := h
    exact ⟨rfl, Nat.zero_le room⟩
  | .string s =>
    rw [value?, Option.map_eq_some_iff] at h
    obtain ⟨s, rfl, rfl⟩ := h
    exact ⟨rfl, Nat.zero_le room⟩
  | .array items =>
    rw [value?] at h
    split at h
    · cases h
    · obtain ⟨xs, valued, rfl⟩ := Option.map_eq_some_iff.1 h
      obtain ⟨rfl, shallow⟩ := eq_ofItems_of_items? items valued
      refine ⟨rfl, ?_⟩
      rw [depth]
      omega
  | .object members =>
    rw [value?] at h
    split at h
    · cases h
    · obtain ⟨ms, valued, rfl⟩ := Option.map_eq_some_iff.1 h
      obtain ⟨rfl, shallow⟩ := eq_ofMembers_of_members? members valued
      refine ⟨rfl, ?_⟩
      rw [depth]
      omega

theorem eq_ofItems_of_items? {room : Nat} (ts : List Tree) {xs : List Json}
    (h : items? room ts = some xs) : ts = ofItems xs ∧ depthOfItems xs ≤ room := by
  match ts with
  | [] =>
    rw [items?] at h
    cases h
    exact ⟨rfl, Nat.zero_le room⟩
  | t :: ts =>
    rw [items?, Option.bind_eq_some_iff] at h
    obtain ⟨x, valued, h⟩ := h
    obtain ⟨xs, others, rfl⟩ := Option.map_eq_some_iff.1 h
    obtain ⟨rfl, shallow⟩ := eq_ofValue_of_value? t valued
    obtain ⟨rfl, flat⟩ := eq_ofItems_of_items? ts others
    exact ⟨rfl, Nat.max_le.2 ⟨shallow, flat⟩⟩

theorem eq_ofMembers_of_members? {room : Nat} (ts : List (Option String × Tree))
    {ms : List (String × Json)} (h : members? room ts = some ms) :
    ts = ofMembers ms ∧ depthOfMembers ms ≤ room := by
  match ts with
  | [] =>
    rw [members?] at h
    cases h
    exact ⟨rfl, Nat.zero_le room⟩
  | (name, t) :: ts =>
    rw [members?, Option.bind_eq_some_iff] at h
    obtain ⟨k, rfl, h⟩ := h
    obtain ⟨x, valued, h⟩ := Option.bind_eq_some_iff.1 h
    obtain ⟨ms, others, rfl⟩ := Option.map_eq_some_iff.1 h
    obtain ⟨rfl, shallow⟩ := eq_ofValue_of_value? t valued
    obtain ⟨rfl, flat⟩ := eq_ofMembers_of_members? ts others
    exact ⟨rfl, Nat.max_le.2 ⟨shallow, flat⟩⟩

end

/-- The trees that have a value are the trees of values, up to a depth. -/
theorem value?_eq_some_iff {room : Nat} {t : Tree} {v : Json} :
    value? room t = some v ↔ t = ofValue v ∧ v.depth ≤ room := by
  constructor
  · exact eq_ofValue_of_value? t
  · rintro ⟨rfl, shallow⟩
    exact value?_ofValue v shallow

end Tree

/-! ## The documents of values -/

/-- The texts of a value, with blanks at their ends or without. -/
def texts (v : Json) : Language Char := Tree.padded (Tree.ofValue v).language

/-- A document presents a value if it is one of its texts in UTF-8. -/
def Presents (document : ByteArray) (v : Json) : Prop :=
  ∃ cs ∈ v.texts, document = (String.ofList cs).toUTF8

theorem fromUTF8?_eq_some_iff {bytes : ByteArray} {s : String} :
    String.fromUTF8? bytes = some s ↔ bytes = s.toUTF8 := by
  constructor
  · intro h
    unfold String.fromUTF8? at h
    split at h
    · cases h
      rfl
    · cases h
  · rintro rfl
    rw [String.fromUTF8?, dif_pos (show s.toUTF8.IsValidUTF8 from s.isValidUTF8)]
    rfl

/-- The documents that are accepted with a value are those that present it, up to a depth. -/
theorem ofBytes?_eq_some_iff {document : ByteArray} {v : Json} :
    ((Tree.ofBytes? document).bind fun t => t.value? Tree.maxDepth) = some v ↔
      Presents document v ∧ v.depth ≤ Tree.maxDepth := by
  constructor
  · intro h
    obtain ⟨t, read, valued⟩ := Option.bind_eq_some_iff.1 h
    obtain ⟨s, decoded, read⟩ := Option.bind_eq_some_iff.1 read
    obtain ⟨rfl, shallow⟩ := Tree.value?_eq_some_iff.1 valued
    refine ⟨⟨s.toList, Tree.ofChars?_eq_some_iff.1 read, ?_⟩, shallow⟩
    rw [String.ofList_toList, fromUTF8?_eq_some_iff.1 decoded]
  · rintro ⟨⟨cs, spelled, rfl⟩, shallow⟩
    rw [Tree.ofBytes?, fromUTF8?_eq_some_iff.2 rfl, Option.bind_some, Tree.ofString?,
      String.toList_ofList, Tree.ofChars?_eq_some_iff.2 spelled, Option.bind_some,
      Tree.value?_ofValue v shallow]

/-! ## Another order -/

/-- The members of one object, at any depth, stand in another order; their names are distinct. -/
inductive Reorder : Json → Json → Prop
  /-- The value is the object. -/
  | members {ms ns : List (String × Json)} (distinct : (ms.map (·.1)).Nodup) (perm : ms.Perm ns) :
    Reorder (.object ms) (.object ns)
  /-- The object is found in an item. -/
  | item {x y : Json} (xs ys : List Json) (h : Reorder x y) :
    Reorder (.array (xs ++ x :: ys)) (.array (xs ++ y :: ys))
  /-- The object is found in a member. -/
  | member {x y : Json} (ms ns : List (String × Json)) (name : String) (h : Reorder x y) :
    Reorder (.object (ms ++ (name, x) :: ns)) (.object (ms ++ (name, y) :: ns))

/-- Values that differ at most in the order of members, in any number of objects. -/
def Reordered : Json → Json → Prop := Relation.ReflTransGen Reorder

theorem canonicalItems_eq (xs : List Json) : canonicalItems xs = xs.map canonical := by
  induction xs with
  | nil => rfl
  | cons x xs ih =>
    rw [List.map_cons, ← ih]
    rfl

/-- Members under distinct names can be given in any order. -/
theorem ofList_perm {ms ns : List (String × Json)} (distinct : (ms.map (·.1)).Nodup)
    (perm : ms.Perm ns) : Dict.ofList ms = Dict.ofList ns := by
  have distinct' : (ns.map (·.1)).Nodup := (perm.map _).nodup_iff.1 distinct
  apply Dict.ext_get?
  intro name
  apply Option.ext
  intro v
  rw [Dict.get?_ofList_eq_some_iff distinct, Dict.get?_ofList_eq_some_iff distinct', perm.mem_iff]

/-- The form in which values are compared does not depend on the order of members. -/
theorem Reorder.canonical_eq {v w : Json} (h : Reorder v w) : v.canonical = w.canonical := by
  induction h with
  | @members ms ns distinct perm =>
    have names : ((ms.map fun m => (m.1, m.2.canonical)).map (·.1)) = ms.map (·.1) := by
      rw [List.map_map]
      rfl
    rw [canonical, canonical, canonicalMembers_eq, canonicalMembers_eq,
      ofList_perm (names ▸ distinct) (perm.map _)]
  | item xs ys h ih =>
    simp only [canonical, canonicalItems_eq, List.map_append, List.map_cons, ih]
  | member ms ns name h ih =>
    simp only [canonical, canonicalMembers_eq, List.map_append, List.map_cons, ih]

theorem depthOfItems_append (xs ys : List Json) :
    depthOfItems (xs ++ ys) = max (depthOfItems xs) (depthOfItems ys) := by
  induction xs with
  | nil => simp [depthOfItems]
  | cons x xs ih => rw [List.cons_append, depthOfItems, depthOfItems, ih, max_assoc]

theorem depthOfMembers_append (ms ns : List (String × Json)) :
    depthOfMembers (ms ++ ns) = max (depthOfMembers ms) (depthOfMembers ns) := by
  induction ms with
  | nil => simp [depthOfMembers]
  | cons m ms ih => rw [List.cons_append, depthOfMembers, depthOfMembers, ih, max_assoc]

theorem depthOfMembers_perm {ms ns : List (String × Json)} (perm : ms.Perm ns) :
    depthOfMembers ms = depthOfMembers ns := by
  induction perm with
  | nil => rfl
  | cons m _ ih => rw [depthOfMembers, depthOfMembers, ih]
  | swap m m' ms => simp only [depthOfMembers, max_left_comm]
  | trans _ _ ih ih' => exact ih.trans ih'

/-- Another order of members is as deep. -/
theorem Reorder.depth_eq {v w : Json} (h : Reorder v w) : v.depth = w.depth := by
  induction h with
  | members distinct perm => rw [depth, depth, depthOfMembers_perm perm]
  | item xs ys h ih => simp only [depth, depthOfItems_append, depthOfItems, ih]
  | member ms ns name h ih => simp only [depth, depthOfMembers_append, depthOfMembers, ih]

theorem Reordered.canonical_eq {v w : Json} (h : Reordered v w) : v.canonical = w.canonical := by
  induction h with
  | refl => rfl
  | tail _ last ih => exact ih.trans last.canonical_eq

theorem Reordered.depth_eq {v w : Json} (h : Reordered v w) : v.depth = w.depth := by
  induction h with
  | refl => rfl
  | tail _ last ih => exact ih.trans last.depth_eq

end Json

namespace Credentials

/-- The value in which a document is compared, if it is accepted. -/
theorem value?_of_accepted {document : ByteArray} {v : Json}
    (h : ((Json.Tree.ofBytes? document).bind fun t => t.value? Json.Tree.maxDepth) = some v) :
    value? document = some v.canonical.unsignedZeros := by
  obtain ⟨t, read, valued⟩ := Option.bind_eq_some_iff.1 h
  rw [value?, read, Option.bind_some, valued, Option.map_some]

/-- Being the same is an equivalence of documents, whether they are accepted or not. A document
that is accepted presents a value, and it is the same as every document that presents this value,
with the members of objects in whatever order. -/
theorem same_of_presented :
    (∀ a, same a a = true) ∧
    (∀ a b, same a b = same b a) ∧
    (∀ a b c, same a b = true → same b c = true → same a c = true) ∧
    ∀ a v, ((Json.Tree.ofBytes? a).bind fun t => t.value? Json.Tree.maxDepth) = some v →
      Json.Presents a v ∧
      ∀ w, Json.Reordered v w → ∀ b, Json.Presents b w → same a b = true := by
  refine ⟨same_refl, same_comm, fun a b c => same_trans, fun a v accepted => ?_⟩
  obtain ⟨presents, shallow⟩ := Json.ofBytes?_eq_some_iff.1 accepted
  refine ⟨presents, fun w reordered b presented => ?_⟩
  have accepted' : ((Json.Tree.ofBytes? b).bind fun t => t.value? Json.Tree.maxDepth) = some w :=
    Json.ofBytes?_eq_some_iff.2 ⟨presented, reordered.depth_eq ▸ shallow⟩
  rw [same_iff, value?_of_accepted accepted, value?_of_accepted accepted', reordered.canonical_eq]
  exact .inr ⟨_, rfl, rfl⟩

/-- A document without blanks. -/
def plainDocument : ByteArray :=
  "\x7b\"r\":\x7b\"username\":\"a/b\",\"password\":\"\\ud83d\\ude00\"\x7d,\"n\":[1,2]\x7d".toUTF8

/-- What it says. -/
def plainValue : Json :=
  .object [
    ("r", .object [
      ("username", .string "a/b"),
      ("password", .string (String.singleton (Char.ofNat 0x1F600)))]),
    ("n", .array [.number (.natural 1), .number (.natural 2)])]

/-- The document with blanks, with its members in another order and with other escapes. -/
def styledDocument : ByteArray :=
  "\x7b \"\\u006e\" : [1 , 2],\n \"r\" : \x7b \"password\":\"\\uD83D\\uDE00\",
    \"username\" : \"a\\/b\" \x7d \x7d\n".toUTF8

/-- What it says. -/
def styledValue : Json :=
  .object [
    ("n", .array [.number (.natural 1), .number (.natural 2)]),
    ("r", .object [
      ("password", .string (String.singleton (Char.ofNat 0x1F600))),
      ("username", .string "a/b")])]

/-- Two documents with a different presentation. -/
theorem same_of_presented_sample :
    ((Json.Tree.ofBytes? plainDocument).bind fun t => t.value? Json.Tree.maxDepth) =
        some plainValue ∧
      Json.Reordered plainValue styledValue ∧
      Json.Presents styledDocument styledValue ∧
      same plainDocument styledDocument = true ∧
      same styledDocument plainDocument = true ∧
      same plainDocument plainDocument = true := by
  have accepted : ((Json.Tree.ofBytes? plainDocument).bind fun t =>
      t.value? Json.Tree.maxDepth) = some plainValue := by
    decide +kernel
  have inner := Json.Reorder.member [] [("n", .array [.number (.natural 1), .number (.natural 2)])]
    "r" (.members (by decide) (.swap ("password", .string (String.singleton (Char.ofNat 0x1F600)))
      ("username", .string "a/b") []))
  have reordered : Json.Reordered plainValue styledValue :=
    (Relation.ReflTransGen.single inner).tail (.members (by decide) (.swap _ _ []))
  have presented : Json.Presents styledDocument styledValue :=
    (Json.ofBytes?_eq_some_iff.1 (by decide +kernel)).1
  obtain ⟨-, comm, trans, presentation⟩ := same_of_presented
  have styled := (presentation _ _ accepted).2 _ reordered _ presented
  have plain := (comm _ _).symm.trans styled
  exact ⟨accepted, reordered, presented, styled, plain, trans _ _ _ styled plain⟩

end Credentials

end PullSecrets
