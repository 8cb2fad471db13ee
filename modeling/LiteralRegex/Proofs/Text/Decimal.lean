import LiteralRegex.Text.Decimal
import Mathlib

/-!
# The grammar of decimal integers

An integer is one or more digits behind at most one sign. The digits stand in a row in the order of their
values, and a text of digits has the number for its value whose base-10 digits are their places in the row.
The reader accepts exactly these texts, each with its own value (`integer?_eq_some_iff`). Zeros in front do
not change a value, so there is no bound on the length of a text.
-/

namespace LiteralRegex.Text.Decimal

/-! ## The grammar -/

/-- The digits in the order of their values. -/
def digitRow : Text := "0123456789".toList

/-- The number whose base-10 digits are the places of the characters in the row, the last one of the least
value. -/
def value (digits : Text) : ℕ := Nat.ofDigits 10 (digits.reverse.map digitRow.idxOf)

/-- Holds when the text is one or more digits. -/
def IsNatural (text : Text) : Prop := text ≠ [] ∧ ∀ c ∈ text, c ∈ digitRow

/-- Holds when the text spells the integer: digits of its value, with or without a sign in front. -/
inductive Spells : Text → ℤ → Prop
  | bare {digits : Text} (h : IsNatural digits) : Spells digits (value digits)
  | plus {digits : Text} (h : IsNatural digits) : Spells ('+' :: digits) (value digits)
  | minus {digits : Text} (h : IsNatural digits) : Spells ('-' :: digits) (-value digits)

/-! ## Digits -/

variable {text digits : Text} {c : Char}

lemma isDigit_iff_mem : c.isDigit ↔ c ∈ digitRow := by
  constructor
  · intro h
    have hnumber : 0x30 ≤ c.toNat ∧ c.toNat ≤ 0x39 := by
      simpa [Char.isDigit, UInt32.le_iff_toNat_le] using h
    have hrow : digitRow.map Char.toNat = List.range' 0x30 10 := by decide
    have hmem : c.toNat ∈ digitRow.map Char.toNat := by
      rw [hrow, List.mem_range'_1]
      omega
    obtain ⟨d, hd, hdc⟩ := List.mem_map.mp hmem
    rw [← Char.toNat_inj.mp hdc]
    exact hd
  · intro h
    have hrow : digitRow.all Char.isDigit := by decide
    exact List.all_eq_true.mp hrow c h

lemma isNatural_iff : IsNatural text ↔ text ≠ [] ∧ text.all Char.isDigit := by
  simp only [IsNatural, List.all_eq_true, isDigit_iff_mem]

/-- The place of a digit in the row is how far it is from the first. -/
lemma idxOf_digitRow (h : c ∈ digitRow) : digitRow.idxOf c = c.toNat - '0'.toNat := by
  have hrow : digitRow.all fun d => digitRow.idxOf d = d.toNat - '0'.toNat := by decide
  exact of_decide_eq_true (List.all_eq_true.mp hrow c h)

lemma value_append_singleton (digits : Text) (c : Char) :
    value (digits ++ [c]) = 10 * value digits + digitRow.idxOf c := by
  rw [value, List.reverse_append, List.reverse_singleton, List.singleton_append, List.map_cons,
    Nat.ofDigits_cons, Nat.add_comm]
  rfl

/-- Adding digit by digit gives the value. -/
lemma ofDigitChars_eq_value (h : ∀ c ∈ digits, c ∈ digitRow) :
    Nat.ofDigitChars 10 digits 0 = value digits := by
  induction digits using List.reverseRecOn with
  | nil => rfl
  | append_singleton digits c ih =>
    have hfront := ih fun d hd => h d (List.mem_append_left _ hd)
    rw [Nat.ofDigitChars_append, hfront, value_append_singleton, idxOf_digitRow (h c (by simp)),
      Nat.ofDigitChars_cons, Nat.ofDigitChars_nil]

/-- An integer is made of signs and digits. -/
lemma Spells.mem_signs_or_digits {n : ℤ} (h : Spells text n) (hc : c ∈ text) :
    c ∈ '+' :: '-' :: digitRow := by
  cases h with
  | bare h => exact List.mem_cons_of_mem _ (List.mem_cons_of_mem _ (h.2 c hc))
  | plus h =>
    rcases List.mem_cons.mp hc with rfl | hc
    · exact List.mem_cons_self
    · exact List.mem_cons_of_mem _ (List.mem_cons_of_mem _ (h.2 c hc))
  | minus h =>
    rcases List.mem_cons.mp hc with rfl | hc
    · exact List.mem_cons_of_mem _ List.mem_cons_self
    · exact List.mem_cons_of_mem _ (List.mem_cons_of_mem _ (h.2 c hc))

/-! ## Reading -/

lemma natural?_eq_some_iff {n : ℕ} : natural? text = some n ↔ IsNatural text ∧ n = value text := by
  rw [natural?]
  by_cases h : IsNatural text
  · rw [if_pos (isNatural_iff.mp h), ofDigitChars_eq_value h.2, Option.some.injEq, eq_comm,
      and_iff_right h]
  · rw [if_neg (mt isNatural_iff.mpr h)]
    simp [h]

lemma natural?_of_isNatural (h : IsNatural digits) : natural? digits = some (value digits) :=
  natural?_eq_some_iff.mpr ⟨h, rfl⟩

lemma plus_not_mem_digitRow : '+' ∉ digitRow := by decide

lemma minus_not_mem_digitRow : '-' ∉ digitRow := by decide

/-- Neither sign is a digit, so digits without a sign are read as they are. -/
lemma integer?_of_isNatural (h : IsNatural digits) : integer? digits = some (value digits : ℤ) := by
  unfold integer?
  split
  · exact absurd (h.2 _ List.mem_cons_self) plus_not_mem_digitRow
  · exact absurd (h.2 _ List.mem_cons_self) minus_not_mem_digitRow
  · rw [natural?_of_isNatural h]
    rfl

lemma Spells.integer? {n : ℤ} (h : Spells text n) : integer? text = some n := by
  cases h with
  | bare h => exact integer?_of_isNatural h
  | plus h =>
    rw [Decimal.integer?, natural?_of_isNatural h]
    rfl
  | minus h =>
    rw [Decimal.integer?, natural?_of_isNatural h]
    rfl

lemma spells_of_integer? {n : ℤ} (h : integer? text = some n) : Spells text n := by
  unfold Decimal.integer? at h
  simp only [bind, pure] at h
  split at h
  all_goals
    obtain ⟨_, hcast, rfl⟩ := Option.map_eq_some_iff.mp h
    obtain ⟨k, hk, hcast⟩ := Option.bind_eq_some_iff.mp hcast
    obtain ⟨hdigits, rfl⟩ := natural?_eq_some_iff.mp hk
    obtain rfl := Option.some.inj hcast
  · exact .plus hdigits
  · exact .minus hdigits
  · exact .bare hdigits

/-- The reader accepts the integers of the grammar, each with its value, and nothing else. -/
theorem integer?_eq_some_iff {n : ℤ} : integer? text = some n ↔ Spells text n :=
  ⟨spells_of_integer?, Spells.integer?⟩

lemma integer?_eq_none_iff : integer? text = none ↔ ∀ n, ¬ Spells text n := by
  simp only [Option.eq_none_iff_forall_ne_some, Ne, integer?_eq_some_iff]

end LiteralRegex.Text.Decimal
