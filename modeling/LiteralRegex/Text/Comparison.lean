import LiteralRegex.Text.Utf8

/-!
# Comparing texts

Two ways to tell which of two texts comes first in a dictionary: by the numbers of their characters, or by
the bytes that encode them. In both a text comes before those that it begins. They always agree in UTF-8,
as they would not in UTF-16, which puts the characters beyond U+FFFF before some of those below.
-/

namespace LiteralRegex.Text

/-- Compares texts by the numbers of their characters. -/
def compareNumbers (a b : Text) : Ordering :=
  List.compareLex (fun c d => compare c.toNat d.toNat) a b

/-- Compares texts by their bytes. -/
def compareBytes (a b : Text) : Ordering := List.compareLex compare a.utf8 b.utf8

end LiteralRegex.Text
