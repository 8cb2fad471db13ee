import LiteralRegex.Literal.NumberForm
import LiteralRegex.Text.Blank

/-!
# Bare characters

Which characters of a fragment an engine takes for more than themselves. A backslash
protects the character after it, and opens a number form if an `x` and digits in
braces follow; every other character is bare. In verbose mode an engine drops bare
white space, and bare number signs with the rest of their line.
-/

namespace LiteralRegex

/-- A part of a fragment as the scan sees it. -/
inductive Scanned where
  /-- A character that no backslash protects. -/
  | bare (c : Char)
  /-- A backslash and the character that it protects. -/
  | guarded (c : Char)
  /-- The number of a character in braces, with at least one digit. -/
  | number (digits : Text)
  /-- A backslash at the end, which protects nothing. -/
  | dangling
deriving DecidableEq

/-- The part as it stands in the fragment. -/
def Scanned.text : Scanned → Text
  | bare c => [c]
  | guarded c => ['\\', c]
  | number digits => ['\\', 'x', '{'] ++ digits ++ ['}']
  | dangling => ['\\']

/-- The parts of a fragment from left to right. -/
def scan : Text → List Scanned
  | [] => []
  | ['\\'] => [.dangling]
  | '\\' :: c :: rest =>
    match _h : if c = 'x' then bracedDigits? rest else none with
    | some (digits, tail) => .number digits :: scan tail
    | none => .guarded c :: scan rest
  | c :: rest => .bare c :: scan rest
termination_by text => text.length
decreasing_by
  · split at _h
    · have := length_of_bracedDigits? _h
      simp only [List.length_cons]
      omega
    · simp at _h
  · simp only [List.length_cons]; omega
  · simp

/-- The white space that verbose mode ignores in one engine or another: blanks, and the two marks for
the direction of writing that count as white space in patterns. -/
def isVerboseSpace (c : Char) : Bool := Text.isBlank c || c == '\u200e' || c == '\u200f'

/-- The fragment as an engine in verbose mode sees it, from inside a comment on or from
outside one. -/
def dropVerbose (inComment : Bool) : Text → Text
  | [] => []
  | c :: d :: rest =>
    if inComment then dropVerbose (c ≠ '\n') (d :: rest)
    else if c = '\\' then c :: d :: dropVerbose false rest
    else if isVerboseSpace c then dropVerbose false (d :: rest)
    else if c = '#' then dropVerbose true (d :: rest)
    else c :: dropVerbose false (d :: rest)
  | [c] => if inComment ∨ isVerboseSpace c ∨ c = '#' then [] else [c]

end LiteralRegex
