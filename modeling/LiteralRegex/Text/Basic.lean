/-!
# Texts

A text is a list of characters, that is of Unicode scalar values. Lengths and
positions count characters; the bytes that encode them matter only where a
buffer is edited in place.
-/

namespace LiteralRegex

/-- A finite sequence of characters. -/
abbrev Text := List Char

/-- Characters are in the order of their numbers. -/
theorem char_le_iff {c d : Char} : c ≤ d ↔ c.toNat ≤ d.toNat := by
  rw [Char.le_def, UInt32.le_iff_toNat_le]
  rfl

theorem char_lt_iff {c d : Char} : c < d ↔ c.toNat < d.toNat := by
  rw [Char.lt_def, UInt32.lt_iff_toNat_lt]
  rfl

end LiteralRegex
