import LiteralRegex.Text.Basic

/-!
# Traits of characters

Three traits decide how a character is written in a fragment. Only ASCII characters
have any: letters and digits are safe, the metacharacters and white space of the
backtracking engines are always escaped, and the third trait is ASCII punctuation.
-/

namespace LiteralRegex

/-- What is known of a character before a flavor is chosen. -/
structure CharTraits where
  /-- A letter or digit, which stands for itself in every flavor. -/
  safe : Bool
  /-- A metacharacter, or white space that a verbose pattern would ignore. -/
  alwaysEscaped : Bool
  /-- ASCII punctuation. -/
  punctuation : Bool
deriving DecidableEq

namespace CharTraits

/-- The ASCII digits. -/
def digits : String := "0123456789"

/-- The ASCII letters, lower case first. -/
def letters : String := "abcdefghijklmnopqrstuvwxyzABCDEFGHIJKLMNOPQRSTUVWXYZ"

/-- The metacharacters and the white space that is always escaped. -/
def metacharacters : String := "()[]\x7b\x7d?*+-|^$\\.&~# \t\n\r\x0b\x0c"

/-- Holds of an ASCII letter or digit. -/
def isSafe (c : Char) : Bool := c.isAlphanum

/-- Holds of the members of `metacharacters`. -/
def isAlwaysEscaped (c : Char) : Bool := metacharacters.toList.contains c

/-- Holds of the 32 graphic ASCII characters that are neither letters nor digits. -/
def isPunctuation (c : Char) : Bool := '!' ≤ c && c ≤ '~' && !c.isAlphanum

/-- The traits of a character. -/
def of (c : Char) : CharTraits where
  safe := isSafe c
  alwaysEscaped := isAlwaysEscaped c
  punctuation := isPunctuation c

/-- The names of the traits that are set, each with the bit that stands for it. -/
def flags (t : CharTraits) : List (Nat × String) :=
  (if t.safe then [(1, "SAFE")] else [])
    ++ (if t.alwaysEscaped then [(2, "ALWAYS_ESCAPE")] else [])
    ++ (if t.punctuation then [(4, "PUNCTUATION")] else [])

/-- The traits as one number. -/
def bits (t : CharTraits) : Nat := t.flags.foldl (· + ·.1) 0

/-- The names of the traits that are set. -/
def names (t : CharTraits) : List String := t.flags.map (·.2)

end CharTraits

end LiteralRegex
