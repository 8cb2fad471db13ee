import LiteralRegex.Text.Order

/-!
# The bytes of a text

A text in UTF-8, and the order of texts by their bytes. UTF-8 keeps the order of the
characters, so sorting by bytes is sorting by characters. The bytes of a character after its
first are marked as such, so the byte at a place tells whether a character begins there.
-/

namespace LiteralRegex.Text

/-- The text in UTF-8. -/
def utf8 (text : Text) : List UInt8 := text.flatMap String.utf8EncodeChar

/-- Holds of the bytes of a character after its first, those from 0x80 to 0xBF. -/
def isContinuation (b : UInt8) : Bool := 0x80 ≤ b && b < 0xC0

/-- Holds of the places in a buffer that are between characters: its end, and those in front
of a byte that begins a character. -/
def isBoundary (buffer : List UInt8) (place : Nat) : Bool :=
  match buffer[place]? with
  | some b => !isContinuation b
  | none => place == buffer.length

/-- Holds when `a` may stand before `b`: it has more characters, or as many and bytes that
are not greater. -/
def BytesPrecede (a b : Text) : Prop :=
  b.length < a.length ∨ a.length = b.length ∧ List.le a.utf8 b.utf8

instance (a b : Text) : Decidable (BytesPrecede a b) := inferInstanceAs (Decidable (_ ∨ _))

/-- The texts longest first, those of one length by their bytes. -/
def longestFirstByBytes (texts : List Text) : List Text :=
  texts.mergeSort (decide <| BytesPrecede · ·)

end LiteralRegex.Text
