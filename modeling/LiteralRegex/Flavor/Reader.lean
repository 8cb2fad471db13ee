import LiteralRegex.Error
import LiteralRegex.Text.Blank
import LiteralRegex.Text.Decimal

/-!
# Reading a flavor

A flavor is given by its name in any case or by its code in decimal digits; blanks
around either do not count.
-/

namespace LiteralRegex.Flavor

/-- The flavor with a given code. -/
def ofCode (n : Int) : Except Error Flavor :=
  match ofCode? n with
  | some f => .ok f
  | none => .error (.unknownFlavor n)

/-- The flavor that a word names in either case. -/
def named? (word : Text) : Option Flavor :=
  let folded := word.map Char.toLower
  if folded = ['r', 'e'] then some re
  else if folded = ['r', 'e', '2'] then some re2
  else none

/-- The flavor that a text gives. An integer beyond 64 bits is no code at all. -/
def read (text : Text) : Except Error Flavor :=
  let word := text.trim
  match named? word with
  | some f => .ok f
  | none =>
    match Text.Decimal.integer? word with
    | some n => if Text.Decimal.Fits64 n then ofCode n else .error (.input (.notFlavor text))
    | none => .error (.input (.notFlavor text))

end LiteralRegex.Flavor
