import LiteralRegex.CharTraits
import LiteralRegex.Flavor.Basic
import LiteralRegex.Literal.NumberForm

/-!
# Literals

The fragment that matches one character and nothing else, and the fragment of a
text, which is that of its characters in a row. A letter or digit stands for itself.
Any other character follows a backslash; where the flavor does not allow that, the
number of the character is written in braces instead.
-/

namespace LiteralRegex

/-- Holds of the characters that stand behind a backslash in the flavor. -/
def Flavor.isBackslashed (f : Flavor) (c : Char) : Bool :=
  match f with
  | re => !CharTraits.isSafe c
  | re2 => CharTraits.isAlwaysEscaped c && CharTraits.isPunctuation c

/-- The fragment that matches exactly the character `c`. -/
def Flavor.escape (f : Flavor) (c : Char) : Text :=
  if CharTraits.isSafe c then [c]
  else if f.isBackslashed c then ['\\', c]
  else numberForm c

/-- The fragment that matches exactly the text. -/
def Flavor.literal (f : Flavor) (text : Text) : Text := text.flatMap f.escape

theorem Flavor.literal_append (f : Flavor) (a b : Text) :
    f.literal (a ++ b) = f.literal a ++ f.literal b := by
  simp [literal]

end LiteralRegex
