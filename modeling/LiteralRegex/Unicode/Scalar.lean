/-!
# Scalar values

The numbers that characters have: those up to U+10FFFF except the surrogates U+D800
to U+DFFF.
-/

namespace LiteralRegex.Unicode

/-- Holds of the numbers that are left out among those of characters. -/
def IsSurrogate (n : Nat) : Prop := 0xD800 ≤ n ∧ n ≤ 0xDFFF

instance (n : Nat) : Decidable (IsSurrogate n) := inferInstanceAs (Decidable (_ ∧ _))

/-- The character numbered `n`, if there is one. -/
def scalar? (n : Nat) : Option Char :=
  if h : n.isValidChar then some (Char.ofNatAux n h) else none

theorem scalar?_toNat (c : Char) : scalar? c.toNat = some c := by
  have h : c.toNat.isValidChar := c.valid
  rw [scalar?, dif_pos h]
  exact congrArg some (Char.toNat_inj.mp rfl)

/-- Each character is numbered by its own number and no other. -/
theorem scalar?_eq_some_iff {n : Nat} {c : Char} : scalar? n = some c ↔ n = c.toNat := by
  constructor
  · intro hfound
    by_cases h : n.isValidChar
    · rw [scalar?, dif_pos h] at hfound
      rw [← Option.some.inj hfound]
      rfl
    · rw [scalar?, dif_neg h] at hfound
      nomatch hfound
  · intro h
    rw [h]
    exact scalar?_toNat c

/-- The numbers without a character are the surrogates and those beyond U+10FFFF. -/
theorem scalar?_eq_none_iff {n : Nat} :
    scalar? n = none ↔ IsSurrogate n ∨ 0x10FFFF < n := by
  by_cases h : n.isValidChar
  · rw [scalar?, dif_pos h]
    refine ⟨(nomatch ·), fun hnumber => ?_⟩
    simp only [Nat.isValidChar, IsSurrogate] at h hnumber
    omega
  · rw [scalar?, dif_neg h]
    refine ⟨fun _ => ?_, fun _ => rfl⟩
    simp only [Nat.isValidChar, IsSurrogate] at h ⊢
    omega

/-- The number of a character is no surrogate and not beyond U+10FFFF. -/
theorem toNat_valid (c : Char) : ¬ IsSurrogate c.toNat ∧ c.toNat ≤ 0x10FFFF := by
  have hsome : scalar? c.toNat ≠ none := by
    rw [scalar?_toNat]
    exact Option.some_ne_none c
  rwa [Ne, scalar?_eq_none_iff, not_or, Nat.not_lt] at hsome

end LiteralRegex.Unicode
