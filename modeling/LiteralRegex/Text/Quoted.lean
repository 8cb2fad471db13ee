import LiteralRegex.Text.Hex
import LiteralRegex.Unicode.Extender
import LiteralRegex.Unicode.Filler
import LiteralRegex.Unicode.Unprintable

/-!
# Quoted texts

How a text is shown inside a message: between double quotes, with an escape for
everything that would not be seen as itself.
-/

namespace LiteralRegex.Text

/-- The escape that names a character by its number in braces. -/
def numbered (c : Char) : Text := ['\\', 'u', '{'] ++ Hex.lower 1 c.toNat ++ ['}']

/-- Holds of a character that cannot be seen as itself in a line of text: it melts
into the character before it, fills the place of an absent letter, or has no
printed form. -/
def isHidden (c : Char) : Bool :=
  Unicode.isAttached c || Unicode.isFiller c || Unicode.isUnprintable c

/-- How one character is shown between double quotes. -/
def quotedChar (c : Char) : Text :=
  match c with
  | '"' => ['\\', '"']
  | '\\' => ['\\', '\\']
  | '\t' => ['\\', 't']
  | '\n' => ['\\', 'n']
  | '\r' => ['\\', 'r']
  | '\x00' => ['\\', '0']
  | c => if isHidden c then numbered c else [c]

/-- The text between double quotes. -/
def quoted (text : Text) : Text := ['"'] ++ text.flatMap quotedChar ++ ['"']

end LiteralRegex.Text
