import LiteralRegex.Error

/-!
# Texts of one character

A text can stand for a character if it is exactly one long. A letter with a mark of its
own after it is two characters, and is refused however it looks.
-/

namespace LiteralRegex.Text

/-- The one character of a text. -/
def single (text : Text) : Except Error Char :=
  match text with
  | [c] => .ok c
  | _ => .error (.input (.notOneCharacter text))

/-- The texts of one character are the only ones that pass. -/
theorem single_eq_ok_iff {text : Text} {c : Char} : single text = .ok c ↔ text = [c] := by
  constructor
  · intro h
    unfold single at h
    split at h
    · rw [Except.ok.inj h]
    · cases h
  · intro h
    rw [h]
    rfl

end LiteralRegex.Text
