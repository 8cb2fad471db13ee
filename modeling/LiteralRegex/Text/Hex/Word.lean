import LiteralRegex.Text.Hex

/-!
# Words in hexadecimal digits

A general reader of numbers of 32 bits. It takes one digit after the other, whatever their number, and
gives up at the first character that is no digit and at the first digit that makes the number too large.
A plus sign may stand in front, so it takes texts that are no code points.
-/

namespace LiteralRegex.Text.Hex

/-- Why a text spells out no word. -/
inductive WordError where
  | empty
  | notDigit
  | tooLarge
deriving DecidableEq

/-- The word with one more digit behind it. -/
def appendDigit (n : UInt32) (c : Char) : Except WordError UInt32 :=
  match digit? c with
  | none => .error .notDigit
  | some d =>
    if h : 16 * n.toNat + d < UInt32.size then .ok (.ofNatLT (16 * n.toNat + d) h)
    else .error .tooLarge

/-- The word that a text spells out, with or without a plus sign. A sign alone is no digit. -/
def readWord : Text → Except WordError UInt32
  | [] => .error .empty
  | '+' :: c :: digits => (c :: digits).foldlM appendDigit 0
  | digits => digits.foldlM appendDigit 0

theorem appendDigit_eq_ok {n m : UInt32} {c : Char} {d : Nat} (hc : digit? c = some d)
    (hm : m.toNat = 16 * n.toNat + d) : appendDigit n c = .ok m := by
  have hlt : 16 * n.toNat + d < UInt32.size := hm ▸ m.toNat_lt
  rw [appendDigit, hc]
  simp only [dif_pos hlt]
  rw [Except.ok.injEq, ← UInt32.toNat_inj, UInt32.toNat_ofNatLT, hm]

end LiteralRegex.Text.Hex
