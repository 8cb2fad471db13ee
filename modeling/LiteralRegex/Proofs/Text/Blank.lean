import LiteralRegex.Text.Blank
import Mathlib.Data.List.DropRight
import Mathlib.Data.List.TakeWhile

/-!
# Trimmed texts

Trimming drops blanks from the front and then, with the text turned round, from the back. What is left is
the one word with blanks around it in the text that has no blank at either end (`trim_eq_iff`).
-/

namespace LiteralRegex.Text

/-- Holds when the text is the word with blanks around it and no blank is at an end of the word. -/
def TrimsTo (text word : Text) : Prop :=
  ∃ front back, text = front ++ word ++ back ∧ (∀ c ∈ front ++ back, isBlank c) ∧
    (∀ c ∈ word.head?, ¬ isBlank c) ∧ ∀ c ∈ word.getLast?, ¬ isBlank c

variable {text word : Text}

/-! ## Blanks in front -/

lemma not_isBlank_of_mem_head?_dropWhile {c : Char} (h : c ∈ (text.dropWhile isBlank).head?) :
    ¬ isBlank c := by
  have hhead := List.head?_dropWhile_not isBlank text
  rw [Option.mem_def.mp h] at hhead
  simp [hhead]

/-- Blanks are dropped up to a character that is none. -/
lemma dropWhile_blanks_append {front rest : Text} (hfront : ∀ c ∈ front, isBlank c)
    (hrest : ∀ c ∈ rest.head?, ¬ isBlank c) : (front ++ rest).dropWhile isBlank = rest := by
  rw [List.dropWhile_append_of_pos hfront]
  cases rest with
  | nil => rfl
  | cons c rest => exact List.dropWhile_cons_of_neg (hrest c rfl)

/-! ## Blanks at both ends -/

lemma trimsTo_trim (text : Text) : TrimsTo text (trim text) := by
  have hfront : text.takeWhile isBlank ++ text.dropWhile isBlank = text :=
    List.takeWhile_append_dropWhile
  have hback : trim text ++ (text.dropWhile isBlank).rtakeWhile isBlank = text.dropWhile isBlank :=
    List.rdropWhile_append_rtakeWhile
  refine ⟨text.takeWhile isBlank, (text.dropWhile isBlank).rtakeWhile isBlank, ?_, ?_, ?_, ?_⟩
  · rw [List.append_assoc, hback, hfront]
  · intro c hc
    rcases List.mem_append.mp hc with hc | hc
    · exact List.mem_takeWhile_imp hc
    · exact List.mem_rtakeWhile_imp hc
  · intro c hc
    -- the word begins where the first blanks end
    apply not_isBlank_of_mem_head?_dropWhile
    rw [← hback]
    exact List.mem_head?_append_of_mem_head? hc
  · intro c hc
    apply not_isBlank_of_mem_head?_dropWhile
    rwa [trim, List.getLast?_reverse] at hc

/-- Nothing but the trimmed text is left between the blanks at the ends. -/
theorem trim_eq_iff : trim text = word ↔ TrimsTo text word := by
  constructor
  · rintro rfl
    exact trimsTo_trim text
  · rintro ⟨front, back, rfl, hblank, hhead, hlast⟩
    obtain ⟨hfront, hback⟩ := List.forall_mem_append.mp hblank
    cases word with
    | nil =>
      -- the text is blank as a whole
      rw [trim, List.append_nil, List.dropWhile_eq_nil_iff.mpr hblank]
      rfl
    | cons c word =>
      have hreversed : ∀ d ∈ (c :: word).reverse.head?, ¬ isBlank d := by
        rwa [List.head?_reverse]
      rw [trim, List.append_assoc, dropWhile_blanks_append hfront (by simpa using hhead),
        List.reverse_append, dropWhile_blanks_append (by simpa using hback) hreversed,
        List.reverse_reverse]

end LiteralRegex.Text
