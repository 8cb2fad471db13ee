import LiteralRegex.Unicode.CharSet

/-!
# Hangul fillers

The letters that hold the place of an absent Hangul letter. They are the only
letters with the property Default_Ignorable_Code_Point: they count as letters,
but nothing is drawn for them.
-/

namespace LiteralRegex.Unicode

/-- The runs of fillers: of an absent leading consonant and vowel of a syllable,
of an absent letter that stands alone, and of its halfwidth form. -/
def fillerRanges : List (Nat × Nat) := [(0x115F, 0x1160), (0x3164, 0x3164), (0xFFA0, 0xFFA0)]

/-- Holds of a letter for which nothing is drawn. -/
def isFiller (c : Char) : Bool := inRanges fillerRanges c

end LiteralRegex.Unicode
