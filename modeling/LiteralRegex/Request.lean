import LiteralRegex.Alternation.Basic
import LiteralRegex.ClassBody.Basic
import LiteralRegex.Flavor.Choice
import LiteralRegex.Text.Single

/-!
# Requests

The fragments a caller can ask for. The flavor is settled before the rest of a request
is looked at, so its errors come first. After that only the requests that give their
characters as texts can fail.
-/

namespace LiteralRegex

/-- A fragment to build. -/
inductive Request where
  /-- The fragment of one character. -/
  | character (c : Char)
  /-- The fragment of a text that has to be one character. -/
  | characterText (text : Text)
  /-- The fragment of a text. -/
  | literal (text : Text)
  /-- The alternation of texts. -/
  | alternation (texts : List Text)
  /-- The class body of characters. -/
  | classBody (chars : List Char)
  /-- The class body of texts each of which has to be one character. -/
  | classBodyTexts (texts : List Text)
deriving DecidableEq

namespace Request

/-- The fragment for a request in a flavor. -/
def build (f : Flavor) : Request → Except Error Text
  | character c => .ok (f.escape c)
  | characterText text => f.escape <$> text.single
  | literal text => .ok (f.literal text)
  | alternation texts => .ok (f.alternation texts)
  | classBody chars => .ok (f.classBody chars)
  | classBodyTexts texts => f.classBody <$> texts.mapM Text.single

/-- What there is to tell about a request. -/
def notices : Request → List Notice
  | alternation texts => (singleCharacterCount? texts).toList.map .singleCharacters
  | _ => []

/-- The fragment for a request, with the flavor as the caller gives it. -/
def answer (default : DefaultCode) (choice : FlavorChoice) (r : Request) : Report Text := do
  let f ← choice.resolve default
  { result := r.build f, notices := r.notices }

end Request

end LiteralRegex
