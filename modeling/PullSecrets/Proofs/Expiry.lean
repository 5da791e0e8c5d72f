import Mathlib.Algebra.Group.Nat.Defs
import Mathlib.Data.List.Infix
import PullSecrets.Watch.Failure

/-!
# Versions that are too old

A watch that asks for a version that is too old fails with a text that names two versions. The text
is searched for the marks of a missing permission first, and one of these is a number. So the
failure is recognised as long as this number does not occur among the digits of the two versions;
otherwise it is taken for a missing permission.

## Main facts

* `WatchFailure.contains_iff`: what the search finds.
* `WatchFailure.infix_toDigits_iff`: when a number of three digits occurs in the digits of another.
* `WatchFailure.ofText_tooOld_iff`: when the failure is recognised.
* `WatchFailure.ofText_tooOld_unauthorized`: a version for which it is not.
-/

namespace PullSecrets.WatchFailure

/-! ## Searching -/

section Infix

variable {α : Type} {m xs ys : List α} {c : α}

/-- What lacks a character does not reach across it. -/
theorem infix_append_cons_iff (lacks : c ∉ m) : m <:+: xs ++ c :: ys ↔ m <:+: xs ∨ m <:+: ys := by
  have front : ∀ {l : List α}, l <+: c :: ys → (∀ x ∈ l, x ∈ m) → l = [] := by
    intro l hl sub
    rcases List.prefix_cons_iff.1 hl with rfl | ⟨t, rfl, -⟩
    · rfl
    · exact absurd (sub c List.mem_cons_self) lacks
  constructor
  · intro h
    rcases List.infix_append_iff.1 h with h | h | ⟨l, l', rfl, hl, hl'⟩
    · exact .inl h
    · rcases List.infix_cons_iff.1 h with h | h
      · obtain rfl := front h fun _ => id
        exact .inl List.nil_infix
      · exact .inr h
    · obtain rfl := front hl' fun x hx => List.mem_append_right l hx
      rw [List.append_nil]
      exact .inl hl.isInfix
  · rintro (h | h)
    · exact h.trans (List.prefix_append _ _).isInfix
    · exact h.trans ((List.suffix_cons _ _).trans (List.suffix_append _ _)).isInfix

/-- What ends with a character does not reach into a part that lacks it. -/
theorem concat_infix_append_iff (lacks : c ∉ ys) : m ++ [c] <:+: xs ++ ys ↔ m ++ [c] <:+: xs := by
  constructor
  · intro h
    rcases List.infix_append_iff.1 h with h | h | ⟨l, l', split, hl, hl'⟩
    · exact h
    · exact absurd (h.subset (by simp)) lacks
    · rcases List.eq_nil_or_concat l' with rfl | ⟨l', d, rfl⟩
      · rw [split, List.append_nil]
        exact hl.isInfix
      · rw [List.concat_eq_append, ← List.append_assoc] at split
        obtain ⟨-, same⟩ := List.append_inj' split rfl
        obtain rfl := List.singleton_inj.1 same
        exact absurd (hl'.subset (by simp)) lacks
  · intro h
    exact h.trans (List.prefix_append _ _).isInfix

end Infix

/-- The search finds what stands somewhere in the text. -/
theorem contains_iff (text mark : List Char) : contains text mark = true ↔ mark <:+: text := by
  induction text with
  | nil => simp [contains]
  | cons c text ih => simp [contains, ih, List.infix_cons_iff]

/-! ## Digits -/

/-- The digits of a number end with what is left over by ten. -/
theorem concat_suffix_toDigits_iff {p : List Char} {d : Nat} (digit : d < 10) (n : Nat) :
    p ++ [d.digitChar] <:+ Nat.toDigits 10 n ↔
      n % 10 = d ∧ (p = [] ∨ 10 ≤ n ∧ p <:+ Nat.toDigits 10 (n / 10)) := by
  have injective : ∀ a < 10, ∀ b < 10, Nat.digitChar a = Nat.digitChar b → a = b := by decide
  have last : (n % 10).digitChar = d.digitChar ↔ n % 10 = d :=
    ⟨injective _ (Nat.mod_lt n (by decide)) d digit, congrArg Nat.digitChar⟩
  have split : ∀ {ds : List Char}, p ++ [d.digitChar] <:+ ds ++ [(n % 10).digitChar] ↔
      n % 10 = d ∧ p <:+ ds := by
    intro ds
    rw [List.suffix_concat_iff]
    constructor
    · rintro (nothing | ⟨t, same, ht⟩)
      · simp at nothing
      · obtain ⟨rfl, ends⟩ := List.append_inj' same rfl
        exact ⟨last.1 (List.singleton_inj.1 ends).symm, ht⟩
    · rintro ⟨ends, hp⟩
      exact .inr ⟨p, by rw [last.2 ends], hp⟩
  rw [Nat.toDigits_eq_if (by decide)]
  split_ifs with small
  · have same : n % 10 = n := Nat.mod_eq_of_lt small
    have h := @split []
    rw [same] at h
    simpa [same, List.suffix_nil, Nat.not_le.2 small] using h
  · rw [split]
    refine and_congr_right fun _ => ⟨fun hp => .inr ⟨Nat.not_lt.1 small, hp⟩, ?_⟩
    rintro (rfl | ⟨-, hp⟩)
    · exact List.nil_suffix
    · exact hp

/-- The digits of a number end with these three if they are left over by a thousand. -/
theorem suffix_toDigits_iff (n : Nat) :
    ['4', '0', '1'] <:+ Nat.toDigits 10 n ↔ n % 1000 = 401 := by
  have ones := concat_suffix_toDigits_iff (p := ['4', '0']) (d := 1) (by decide) n
  have tens := concat_suffix_toDigits_iff (p := ['4']) (d := 0) (by decide) (n / 10)
  have hundreds := concat_suffix_toDigits_iff (p := []) (d := 4) (by decide) (n / 10 / 10)
  simp only [List.nil_append, true_or, and_true] at hundreds
  simp only [reduceCtorEq, false_or] at ones tens
  refine ones.trans ?_
  rw [show ['4', '0'] = ['4'] ++ [Nat.digitChar 0] from rfl, tens,
    show ['4'] = [Nat.digitChar 4] from rfl, hundreds]
  omega

/-- These three digits follow each other in a number if they are left over by a thousand once some
digits behind them are taken away. -/
theorem infix_toDigits_iff (n : Nat) :
    ['4', '0', '1'] <:+: Nat.toDigits 10 n ↔ ∃ k, n / 10 ^ k % 1000 = 401 := by
  induction n using Nat.strongRecOn with
  | ind n ih =>
    -- The last digit is taken away.
    have shifted : (∃ k, n / 10 ^ k % 1000 = 401) ↔
        n % 1000 = 401 ∨ ∃ k, n / 10 / 10 ^ k % 1000 = 401 := by
      constructor
      · rintro ⟨k, hk⟩
        cases k with
        | zero => exact .inl (by simpa using hk)
        | succ k =>
          rw [Nat.pow_succ', ← Nat.div_div_eq_div_mul] at hk
          exact .inr ⟨k, hk⟩
      · rintro (h | ⟨k, hk⟩)
        · exact ⟨0, by simpa using h⟩
        · refine ⟨k + 1, ?_⟩
          rw [Nat.pow_succ', ← Nat.div_div_eq_div_mul]
          exact hk
    rw [shifted, ← suffix_toDigits_iff]
    by_cases small : n < 10
    · have nothing : ¬ ∃ k, n / 10 / 10 ^ k % 1000 = 401 := by
        rintro ⟨k, hk⟩
        rw [Nat.div_eq_of_lt small, Nat.zero_div] at hk
        cases hk
      rw [Nat.toDigits_of_lt_base small]
      refine ⟨fun h => absurd h.length_le (by simp), ?_⟩
      rintro (h | h)
      · exact h.isInfix
      · exact absurd h nothing
    · have digits : Nat.toDigits 10 n =
          Nat.toDigits 10 (n / 10) ++ [(n % 10).digitChar] := by
        rw [Nat.toDigits_eq_if (by decide), if_neg small]
      rw [digits, List.infix_concat_iff, ih (n / 10) (by omega)]

/-! ## Failures of a watch -/

/-- What a server says of a version that is too old, with the oldest one that it still has. -/
def tooOld (version oldest : Nat) : String :=
  "too old resource version: " ++ toString version ++ " (" ++ toString oldest ++ ")"

/-- The words of the text, one behind the other. -/
theorem toList_tooOld (version oldest : Nat) : (tooOld version oldest).toList =
    "too".toList ++ ' ' :: ("old resource version:".toList ++ ' ' ::
      (Nat.toDigits 10 version ++ ' ' :: '(' :: (Nat.toDigits 10 oldest ++ [')']))) := by
  have front : "too old resource version: ".toList =
      "too".toList ++ ' ' :: ("old resource version:".toList ++ [' ']) := by
    decide +kernel
  have opened : " (".toList = [' ', '('] := by decide +kernel
  have closed : ")".toList = [')'] := by decide +kernel
  unfold tooOld
  simp only [String.toList_append, toString, Nat.toList_repr, front, opened, closed,
    List.append_assoc, List.cons_append, List.nil_append]

/-- The number of a missing permission is found in the source or among the digits. -/
theorem infix_number_iff (source : String) (version oldest : Nat) :
    "401".toList <:+: (source ++ tooOld version oldest).toList ↔
      "401".toList <:+: source.toList ∨ (∃ k, version / 10 ^ k % 1000 = 401) ∨
        ∃ k, oldest / 10 ^ k % 1000 = 401 := by
  have number : "401".toList = ['4', '0'] ++ ['1'] := by decide +kernel
  have front : '1' ∉ "too".toList := by decide +kernel
  have words : ¬ ['4', '0'] ++ ['1'] <:+: "old resource version:".toList := by decide +kernel
  rw [String.toList_append, toList_tooOld, number, ← List.append_assoc,
    infix_append_cons_iff (by decide), concat_infix_append_iff front,
    infix_append_cons_iff (by decide), infix_append_cons_iff (by decide),
    ← List.nil_append ('(' :: _), infix_append_cons_iff (by decide),
    infix_append_cons_iff (by decide)]
  simp only [words, List.infix_nil, List.append_eq_nil_iff, reduceCtorEq, false_and, or_false,
    false_or]
  exact or_congr_right (or_congr (infix_toDigits_iff version) (infix_toDigits_iff oldest))

/-- The word for a missing permission is found in the source alone. -/
theorem infix_word_iff (source : String) (version oldest : Nat) :
    "Unauthorized".toList <:+: (source ++ tooOld version oldest).toList ↔
      "Unauthorized".toList <:+: source.toList := by
  have word : "Unauthorized".toList = "Unauthorize".toList ++ ['d'] := by decide +kernel
  have front : 'd' ∉ "too".toList := by decide +kernel
  have space : ' ' ∉ "Unauthorize".toList ++ ['d'] := by decide +kernel
  have first : 'U' ∈ "Unauthorize".toList ++ ['d'] := by decide +kernel
  have words : 'U' ∉ "old resource version:".toList := by decide +kernel
  have digits : ∀ n, 'U' ∉ Nat.toDigits 10 n := by
    intro n there
    have digit := Nat.isDigit_of_mem_toDigits (by decide) (by decide) there
    cases digit
  -- Behind the first word there is no capital letter.
  have rest : ¬ "Unauthorize".toList ++ ['d'] <:+: "old resource version:".toList ++ ' ' ::
      (Nat.toDigits 10 version ++ ' ' :: '(' :: (Nat.toDigits 10 oldest ++ [')'])) := by
    intro h
    have there := h.subset first
    simp only [List.mem_append, List.mem_cons, words, digits, List.not_mem_nil] at there
    simp at there
  rw [String.toList_append, toList_tooOld, word, ← List.append_assoc,
    infix_append_cons_iff space, concat_infix_append_iff front]
  exact or_iff_left rest

/-- A version that is too old is recognised unless the source tells of a missing permission, or the
number of that failure occurs among the digits of a version; it is taken for that failure then. -/
theorem ofText_tooOld_iff (source : String) (version oldest : Nat) :
    (ofText (source ++ tooOld version oldest) = expired ↔
      (¬ "401".toList <:+: source.toList ∧ ¬ "Unauthorized".toList <:+: source.toList) ∧
        (∀ k, version / 10 ^ k % 1000 ≠ 401) ∧ ∀ k, oldest / 10 ^ k % 1000 ≠ 401) ∧
    (ofText (source ++ tooOld version oldest) = expired ∨
      ofText (source ++ tooOld version oldest) = unauthorized) := by
  have told : containsAny (source ++ tooOld version oldest).toList
      ["410", "too old resource version", "Expired", "Gone"] = true := by
    have mark : "too old resource version: ".toList =
        "too old resource version".toList ++ [':', ' '] := by
      decide +kernel
    refine List.any_eq_true.2 ⟨_, .tail _ (.head _), (contains_iff _ _).2 ?_⟩
    unfold tooOld
    simp only [String.toList_append, mark, List.append_assoc]
    exact (List.prefix_append _ _).isInfix.trans (List.suffix_append _ _).isInfix
  have permission : containsAny (source ++ tooOld version oldest).toList
      ["401", "Unauthorized"] = true ↔
      ("401".toList <:+: source.toList ∨ (∃ k, version / 10 ^ k % 1000 = 401) ∨
        ∃ k, oldest / 10 ^ k % 1000 = 401) ∨ "Unauthorized".toList <:+: source.toList := by
    simp only [containsAny, List.any_cons, List.any_nil, Bool.or_false, Bool.or_eq_true,
      contains_iff, infix_number_iff, infix_word_iff]
  unfold ofText
  by_cases missing : containsAny (source ++ tooOld version oldest).toList
      ["401", "Unauthorized"] = true
  · rw [if_pos missing]
    refine ⟨iff_of_false nofun ?_, .inr rfl⟩
    rintro ⟨⟨number, word⟩, first, second⟩
    rcases permission.1 missing with (h | ⟨k, hk⟩ | ⟨k, hk⟩) | h
    · exact number h
    · exact first k hk
    · exact second k hk
    · exact word h
  · rw [if_neg missing, if_pos told]
    rw [permission] at missing
    push Not at missing
    obtain ⟨⟨number, first, second⟩, word⟩ := missing
    exact ⟨iff_of_true rfl ⟨⟨number, word⟩, first, second⟩, .inl rfl⟩

example : ofText (tooOld 123 456) = expired := by decide +kernel

/-- The number of the missing permission stands among the digits of the first version. -/
theorem ofText_tooOld_unauthorized : ofText (tooOld 14012 14999) = unauthorized := by
  decide +kernel

end PullSecrets.WatchFailure
