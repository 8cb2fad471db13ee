import LiteralRegex.Text.Hex

/-!
# Number forms

A character written as its number: a backslash, an `x`, and hexadecimal digits in
braces.
-/

namespace LiteralRegex

/-- The number of `c` in braces: four digits, or eight beyond U+FFFF. -/
def numberForm (c : Char) : Text :=
  ['\\', 'x', '{'] ++ Text.Hex.lower (if c.toNat < 0x10000 then 4 else 8) c.toNat ++ ['}']

/-- The digits for `c` by another rule: all eight, without the first four if these are zeros. -/
def trimmedDigits (c : Char) : Text :=
  let digits := Text.Hex.lower 8 c.toNat
  (['0', '0', '0', '0'].isPrefixOf? digits).getD digits

/-- The digits in braces that a text begins with, at least one, and the text after them. -/
def bracedDigits? : Text → Option (Text × Text)
  | '{' :: rest =>
    match rest.dropWhile Text.Hex.isDigit with
    | '}' :: tail =>
      let digits := rest.takeWhile Text.Hex.isDigit
      if digits ≠ [] then some (digits, tail) else none
    | _ => none
  | _ => none

/-- Digits in braces read back whatever follows them. -/
theorem bracedDigits?_append {digits : Text} (rest : Text) (hne : digits ≠ [])
    (hdigits : ∀ c ∈ digits, Text.Hex.isDigit c) :
    bracedDigits? (['{'] ++ digits ++ ['}'] ++ rest) = some (digits, rest) := by
  have hbrace : Text.Hex.isDigit '}' = false := rfl
  have htake : (digits ++ '}' :: rest).takeWhile Text.Hex.isDigit = digits := by
    rw [List.takeWhile_append_of_pos hdigits]
    simp [hbrace]
  have hdrop : (digits ++ '}' :: rest).dropWhile Text.Hex.isDigit = '}' :: rest := by
    rw [List.dropWhile_append_of_pos hdigits]
    simp [hbrace]
  simp [bracedDigits?, htake, hdrop, hne]

theorem length_of_bracedDigits? {text digits tail : Text}
    (h : bracedDigits? text = some (digits, tail)) : tail.length < text.length := by
  unfold bracedDigits? at h
  split at h
  · rename_i body
    split at h
    · rename_i tail' hdrop
      have := (List.dropWhile_suffix (l := body) Text.Hex.isDigit).length_le
      rw [hdrop] at this
      dsimp only at h
      split at h
      · simp only [Option.some.injEq, Prod.mk.injEq] at h
        simp only [List.length_cons] at this ⊢
        rw [← h.2]
        omega
      · simp at h
    · simp at h
  · simp at h

end LiteralRegex
