/-!
# Hexadecimal digits

## Main facts

* `digit?_lt`: a digit stands for a number below sixteen.
-/

namespace PullSecrets.Text.Hex

/-- The value of a hexadecimal digit. -/
def digit? (c : Char) : Option Nat :=
  if '0' ≤ c && c ≤ '9' then some (c.toNat - '0'.toNat)
  else if 'a' ≤ c && c ≤ 'f' then some (c.toNat - 'a'.toNat + 10)
  else if 'A' ≤ c && c ≤ 'F' then some (c.toNat - 'A'.toNat + 10)
  else none

/-- A digit stands for a number below sixteen. -/
theorem digit?_lt {c : Char} {n : Nat} (h : digit? c = some n) : n < 16 := by
  simp only [digit?, Bool.and_eq_true, decide_eq_true_eq, Char.le_def, UInt32.le_iff_toNat_le] at h
  have toNat : c.toNat = c.val.toNat := rfl
  split at h
  · next hc =>
    have top : c.val.toNat ≤ 57 := hc.2
    have zero : '0'.toNat = 48 := rfl
    cases h
    omega
  · split at h
    · next hc =>
      have top : c.val.toNat ≤ 102 := hc.2
      have letter : 'a'.toNat = 97 := rfl
      cases h
      omega
    · split at h
      · next hc =>
        have top : c.val.toNat ≤ 70 := hc.2
        have letter : 'A'.toNat = 65 := rfl
        cases h
        omega
      · cases h

end PullSecrets.Text.Hex
