import LiteralRegex.Error
import LiteralRegex.Text.Hex
import LiteralRegex.Unicode.Scalar

/-!
# Code points

The number of a character as hexadecimal text. It is written in upper case, padded
with zeros to a width; one to eight digits of either case are read. Numbers have 32
bits, whether or not a character has them.
-/

namespace LiteralRegex.CodePoint

/-- The width that fits every number. -/
def defaultWidth : Nat := 8

/-- The number in upper-case digits, padded with zeros to `width` digits if one is given.
Digits are never dropped. -/
def format (n : UInt32) (width : Option Nat) : Text := Text.Hex.upper (width.getD 0) n.toNat

/-- The number of a character, padded in the same way. -/
def formatChar (c : Char) (width : Option Nat) : Text := format c.val width

/-- The number of 32 bits that digits stand for. -/
def word? (digits : Text) : Option UInt32 :=
  if h : Text.Hex.value digits < UInt32.size then some (.ofNatLT (Text.Hex.value digits) h)
  else none

/-- Holds of one to eight hexadecimal digits. -/
def IsDigits (text : Text) : Prop :=
  (1 ≤ text.length ∧ text.length ≤ 8) ∧ text.all Text.Hex.isDigit

instance (text : Text) : Decidable (IsDigits text) := inferInstanceAs (Decidable (_ ∧ _))

/-- The number that a text spells out. -/
def read (text : Text) : Except Error UInt32 :=
  if IsDigits text then
    match word? text with
    | some n => .ok n
    | none => .error (.input (.hexadecimalTooLarge text))
  else .error (.input (.notHexadecimal text))

/-- The character whose number a text spells out. -/
def readChar (text : Text) : Except Error Char := do
  match Unicode.scalar? (← read text).toNat with
  | some c => .ok c
  | none => .error (.input (.notScalarValue text))

end LiteralRegex.CodePoint
