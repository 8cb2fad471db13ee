import LiteralRegex.Alternation.Basic
import LiteralRegex.Text.Comparison

/-!
# Alternations in the order of bytes

The same fragments put together by comparing bytes and nothing else. A set that is kept in the order of
bytes drops repetitions; sorting it by length and bytes gives the alternatives.
-/

namespace LiteralRegex

/-- Puts a text into a set whose texts are in the order of their bytes. -/
def insertByBytes (text : Text) : List Text → List Text
  | [] => [text]
  | t :: rest =>
    match text.compareBytes t with
    | .lt => text :: t :: rest
    | .eq => t :: rest
    | .gt => t :: insertByBytes text rest

/-- The different texts of a list in the order of their bytes. -/
def distinctByBytes (texts : List Text) : List Text :=
  texts.foldl (fun set text => insertByBytes text set) []

/-- The fragment that matches exactly the texts of the list, with the alternatives in the order of their
bytes. -/
def Flavor.alternationByBytes (f : Flavor) (texts : List Text) : Text :=
  ['|'].intercalate ((Text.longestFirstByBytes (distinctByBytes texts)).map f.literal)

end LiteralRegex
