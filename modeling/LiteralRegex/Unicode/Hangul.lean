/-!
# Hangul syllables

The 11172 syllables of the Korean script are numbered by their letters: 19 leading
consonants, 21 vowels, and 28 endings of which the first is no letter at all. So
the letters of a syllable, and the syllable of two neighbours, are computed.
-/

namespace LiteralRegex.Unicode.Hangul

/-- The number of the first syllable. -/
def firstSyllable : Nat := 0xAC00

/-- The number of the first leading consonant. -/
def firstLeading : Nat := 0x1100

/-- The number of the first vowel. -/
def firstVowel : Nat := 0x1161

/-- The number before the first ending, which stands for no ending. -/
def noEnding : Nat := 0x11A7

/-- The number of leading consonants. -/
def leadingCount : Nat := 19

/-- The number of vowels. -/
def vowelCount : Nat := 21

/-- The number of endings, with the missing one among them. -/
def endingCount : Nat := 28

/-- The number of syllables. -/
def syllableCount : Nat := leadingCount * vowelCount * endingCount

/-- The two or three letters of the syllable numbered `n`. -/
def letters? (n : Nat) : Option (List Nat) :=
  if firstSyllable ≤ n ∧ n < firstSyllable + syllableCount then
    let i := n - firstSyllable
    let opening := [firstLeading + i / endingCount / vowelCount,
      firstVowel + i / endingCount % vowelCount]
    some (if i % endingCount = 0 then opening else opening ++ [noEnding + i % endingCount])
  else none

/-- The syllable of a leading consonant and a vowel, or of a syllable without
ending and an ending. -/
def join? (a b : Nat) : Option Nat :=
  if (firstLeading ≤ a ∧ a < firstLeading + leadingCount)
      ∧ (firstVowel ≤ b ∧ b < firstVowel + vowelCount) then
    some (firstSyllable + ((a - firstLeading) * vowelCount + (b - firstVowel)) * endingCount)
  else if (firstSyllable ≤ a ∧ a < firstSyllable + syllableCount
        ∧ (a - firstSyllable) % endingCount = 0)
      ∧ (noEnding < b ∧ b < noEnding + endingCount) then
    some (a + (b - noEnding))
  else none

end LiteralRegex.Unicode.Hangul
