import LiteralRegex.Text.Basic

/-!
# Decimal integers

An integer is written as an optional sign and one or more ASCII digits, with any
number of leading zeros.
-/

namespace LiteralRegex.Text.Decimal

/-- The number that one or more digits stand for. -/
def natural? (text : Text) : Option Nat :=
  if text ≠ [] ∧ text.all Char.isDigit then some (Nat.ofDigitChars 10 text 0) else none

/-- The integer that a text spells out as a whole. -/
def integer? : Text → Option Int
  | '+' :: digits => (natural? digits).map fun n => (n : Int)
  | '-' :: digits => (natural? digits).map fun n => -(n : Int)
  | digits => (natural? digits).map fun n => (n : Int)

/-- The integers of 64 bits. -/
def Fits64 (n : Int) : Prop := Int64.minValue.toInt ≤ n ∧ n ≤ Int64.maxValue.toInt

instance (n : Int) : Decidable (Fits64 n) := inferInstanceAs (Decidable (_ ∧ _))

end LiteralRegex.Text.Decimal
