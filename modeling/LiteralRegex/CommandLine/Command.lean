import LiteralRegex.CharRange.Basic
import LiteralRegex.CodePoint
import LiteralRegex.Edit
import LiteralRegex.Request

/-!
# Commands

What the program can be asked to do, and the text it then prints.
-/

namespace LiteralRegex.CommandLine

/-- A command with its arguments. -/
inductive Command where
  /-- The fragment of one character. -/
  | escape (char : String)
  /-- The fragment of a text. -/
  | literal (text : String)
  /-- The alternation of texts. -/
  | alternation (texts : List String)
  /-- The class body of the characters of a text. -/
  | classBody (chars : String)
  /-- The code point of one character. -/
  | codePoint (char : String)
  /-- The character of a code point. -/
  | character (digits : String)
  /-- All characters between two. -/
  | range (first last : String)
  /-- A text in Normalization Form C. -/
  | compose (text : String)
deriving DecidableEq

namespace Command

/-- A command as diagnostics show it: a label and the quoted arguments. -/
def display (command : Command) : String :=
  let quoted (text : String) := InputError.shown text.toList
  let call (label arguments : String) := label ++ "(" ++ arguments ++ ")"
  match command with
  | escape char => call "Escape" (quoted char)
  | literal text => call "String" (quoted text)
  | alternation texts => call "Strings" ("[" ++ ", ".intercalate (texts.map quoted) ++ "]")
  | classBody chars => call "Make" (quoted chars)
  | codePoint char => call "Cpoint" (quoted char)
  | character digits => call "Char" (quoted digits)
  | range first last => call "Range" (quoted first ++ ", " ++ quoted last)
  | compose text => call "Nfc" (quoted text)

/-- The text that a command prints, with the flavor that its fragments are written for. -/
def output (choice : FlavorChoice) (command : Command) : Report String :=
  let fragment (request : Request) := String.ofList <$> request.answer .initial choice
  match command with
  | escape char => fragment (.characterText char.toList)
  | literal text => fragment (.literal text.toList)
  | alternation texts => fragment (.alternation (texts.map String.toList))
  | classBody chars => fragment (.classBody chars.toList)
  | codePoint char => .ofExcept do
    let c ← Text.single char.toList
    return String.ofList (CodePoint.formatChar c (some CodePoint.defaultWidth))
  | character digits => .ofExcept do
    let c ← CodePoint.readChar digits.toList
    return String.ofList [c]
  | range first last => .ofExcept do
    let first ← Text.single first.toList
    let last ← Text.single last.toList
    return String.ofList (CharRange.mk first last).toList
  | compose text => pure (composeText text)

end Command

end LiteralRegex.CommandLine
