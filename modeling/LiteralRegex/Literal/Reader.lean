import LiteralRegex.Literal.Basic
import LiteralRegex.Unicode.Scalar

/-!
# Reading literals

What an engine of a flavor makes of a literal fragment. A letter or digit stands for
itself. After a backslash, `re` engines take any character that is no letter or digit
and `re2` engines take ASCII punctuation; they also take the number of a character
in braces. Everything else is refused, so a fragment that can be read is free of
characters with a meaning of their own.
-/

namespace LiteralRegex

/-- The character that a number in braces stands for, and the text after the braces. -/
def readNumber? (text : Text) : Option (Char × Text) := do
  let (digits, rest) ← bracedDigits? text
  return (← Unicode.scalar? (Text.Hex.value digits), rest)

/-- The character that an escape stands for, from behind its backslash on, and the text
after the escape. -/
def Flavor.readEscaped? (f : Flavor) : Text → Option (Char × Text)
  | [] => none
  | c :: rest =>
    match f with
    | re => if c.isAlphanum then none else some (c, rest)
    | re2 =>
      if CharTraits.isPunctuation c then some (c, rest)
      else if c = 'x' then readNumber? rest
      else none

/-- The character that a text begins with, as the flavor reads it, and the text after it. -/
def Flavor.readAtom? (f : Flavor) : Text → Option (Char × Text)
  | [] => none
  | '\\' :: rest => f.readEscaped? rest
  | c :: rest => if c.isAlphanum then some (c, rest) else none

/-! ## Every atom takes some text -/

theorem length_of_readNumber? {text rest : Text} {c : Char}
    (h : readNumber? text = some (c, rest)) : rest.length < text.length := by
  simp only [readNumber?, bind, pure, Option.bind_eq_some_iff] at h
  obtain ⟨⟨digits, tail⟩, hdigits, d, _, hpair⟩ := h
  simp only [Option.some.injEq, Prod.mk.injEq] at hpair
  rw [← hpair.2]
  exact length_of_bracedDigits? hdigits

theorem Flavor.length_of_readEscaped? {f : Flavor} {text rest : Text} {c : Char}
    (h : f.readEscaped? text = some (c, rest)) : rest.length < text.length := by
  cases text with
  | nil => simp [readEscaped?] at h
  | cons d text =>
    cases f with
    | re =>
      simp only [readEscaped?] at h
      split at h <;> simp_all
    | re2 =>
      simp only [readEscaped?] at h
      split at h
      · simp_all
      · split at h
        · have := length_of_readNumber? h
          simp only [List.length_cons]
          omega
        · simp at h

theorem Flavor.length_of_readAtom? {f : Flavor} {text rest : Text} {c : Char}
    (h : f.readAtom? text = some (c, rest)) : rest.length < text.length := by
  unfold readAtom? at h
  split at h
  · simp at h
  · have := length_of_readEscaped? h
    simp only [List.length_cons]
    omega
  · split at h <;> simp_all

/-! ## Whole fragments -/

/-- The text that a fragment stands for, if all of it can be read. -/
def Flavor.readLiteral? (f : Flavor) (fragment : Text) : Option Text :=
  if fragment = [] then some []
  else
    match _h : f.readAtom? fragment with
    | none => none
    | some (c, rest) => (f.readLiteral? rest).map (c :: ·)
termination_by fragment.length
decreasing_by exact length_of_readAtom? _h

end LiteralRegex
