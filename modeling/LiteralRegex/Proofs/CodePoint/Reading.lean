import LiteralRegex.CodePoint
import Mathlib

/-!
# Which texts spell out a character

A text is read as a number when it is one to eight hexadecimal digits. Eight digits never stand for more
than 32 bits (`value_lt`), so nothing else is refused (`read_eq_error_iff`). A character is read when
there is one of this number (`readChar_eq_ok_iff`), and the two refusals exclude each other
(`readChar_eq_error_iff`).
-/

namespace LiteralRegex

/-! ## The size of the value -/

namespace Text.Hex

/-- The value is below the power of 16 that has as many digits. -/
lemma value_lt (text : Text) : value text < 16 ^ text.length := by
  induction text using List.reverseRecOn with
  | nil => decide
  | append_singleton text c ih =>
    have hdigit : (digit? c).getD 0 < 16 := by
      cases hc : digit? c with
      | none => decide
      | some n => exact digit?_lt hc
    rw [value_append_singleton, List.length_append, List.length_singleton, pow_succ]
    omega

end Text.Hex

namespace CodePoint

open Text

/-! ## Numbers -/

/-- Eight digits stand for at most 32 bits. -/
lemma value_lt_size {text : Text} (h : IsDigits text) : Hex.value text < UInt32.size :=
  calc
    Hex.value text < 16 ^ text.length := Hex.value_lt text
    _ ≤ 16 ^ 8 := Nat.pow_le_pow_right (by decide) h.1.2
    _ = UInt32.size := by decide

/-- The number that digits stand for is read. -/
lemma read_of_isDigits {text : Text} (h : IsDigits text) :
    read text = .ok (.ofNatLT (Hex.value text) (value_lt_size h)) := by
  have hword : word? text = some (.ofNatLT (Hex.value text) (value_lt_size h)) :=
    dif_pos (value_lt_size h)
  rw [read, if_pos h, hword]

/-- The only texts that are refused are those that are not one to eight digits. -/
theorem read_eq_error_iff {text : Text} {e : Error} :
    read text = .error e ↔ ¬ IsDigits text ∧ e = .input (.notHexadecimal text) := by
  by_cases hdigits : IsDigits text
  · simp [read_of_isDigits hdigits, hdigits]
  · rw [read, if_neg hdigits, Except.error.injEq, eq_comm]
    simp [hdigits]

/-- A number is read from digits that have it for their value. -/
theorem read_eq_ok_iff {text : Text} {n : UInt32} :
    read text = .ok n ↔ IsDigits text ∧ n.toNat = Hex.value text := by
  by_cases hdigits : IsDigits text
  · rw [read_of_isDigits hdigits, Except.ok.injEq, ← UInt32.toNat_inj, UInt32.toNat_ofNatLT,
      eq_comm, and_iff_right hdigits]
  · rw [read_eq_error_iff.mpr ⟨hdigits, rfl⟩]
    simp [hdigits]

/-! ## Characters -/

/-- Digits are read as the character that has their value for its number. -/
lemma readChar_of_isDigits {text : Text} (h : IsDigits text) :
    readChar text = match Unicode.scalar? (Hex.value text) with
      | some c => .ok c
      | none => .error (.input (.notScalarValue text)) := by
  rw [readChar, read_of_isDigits h]
  rfl

lemma readChar_of_not_isDigits {text : Text} (h : ¬ IsDigits text) :
    readChar text = .error (.input (.notHexadecimal text)) := by
  rw [readChar, read_eq_error_iff.mpr ⟨h, rfl⟩]
  rfl

/-- The character that is read has the value of the digits for its number. -/
theorem readChar_eq_ok_iff {text : Text} {c : Char} :
    readChar text = .ok c ↔ IsDigits text ∧ Hex.value text = c.toNat := by
  by_cases hdigits : IsDigits text
  · rw [readChar_of_isDigits hdigits, ← Unicode.scalar?_eq_some_iff]
    cases Unicode.scalar? (Hex.value text) with
    | none => simp
    | some d => simp [hdigits]
  · simp [readChar_of_not_isDigits hdigits, hdigits]

/-- A text is refused because it is not one to eight digits, or because no character has their
value. -/
theorem readChar_eq_error_iff {text : Text} {e : Error} :
    readChar text = .error e ↔
      (¬ IsDigits text ∧ e = .input (.notHexadecimal text)) ∨
      (IsDigits text ∧ Unicode.scalar? (Hex.value text) = none ∧
        e = .input (.notScalarValue text)) := by
  by_cases hdigits : IsDigits text
  · rw [readChar_of_isDigits hdigits]
    cases Unicode.scalar? (Hex.value text) with
    | none => simp [hdigits, eq_comm]
    | some c => simp [hdigits]
  · simp [readChar_of_not_isDigits hdigits, hdigits, eq_comm]

end CodePoint

end LiteralRegex
