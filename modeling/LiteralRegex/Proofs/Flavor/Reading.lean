import LiteralRegex.Flavor.Reader
import Mathlib.Tactic.Common

/-!
# What reading a flavor refuses

A text that is refused is quoted as it was given, or its code is told (`read_eq_error`). Two
dashes in front make a text neither a name nor an integer, whatever follows and however it is
trimmed.
-/

namespace LiteralRegex

open Text

/-! ## Trimming -/

lemma dropWhile_isBlank_append {lead : Text} (hne : lead ≠ [])
    (hlead : ∀ c ∈ lead, isBlank c = false) (text : Text) :
    (lead ++ text).dropWhile isBlank = lead ++ text := by
  cases lead with
  | nil => exact absurd rfl hne
  | cons c lead =>
    have hc := hlead c List.mem_cons_self
    rw [List.cons_append, List.dropWhile_cons_of_neg (by simp [hc])]

/-- Trimming keeps what a text begins with if no blank is there. -/
lemma exists_trim_append {lead : Text} (hne : lead ≠ []) (hlead : ∀ c ∈ lead, isBlank c = false)
    (text : Text) : ∃ rest, trim (lead ++ text) = lead ++ rest := by
  have hback : lead.reverse.dropWhile isBlank = lead.reverse := by
    have hne' : lead.reverse ≠ [] := by simpa using hne
    have h := dropWhile_isBlank_append hne' (fun c hc => hlead c (List.mem_reverse.mp hc)) []
    rwa [List.append_nil] at h
  rw [trim, dropWhile_isBlank_append hne hlead, List.reverse_append, List.dropWhile_append]
  split
  · -- everything behind it was blank
    exact ⟨[], by rw [hback, List.reverse_reverse, List.append_nil]⟩
  · exact ⟨(text.reverse.dropWhile isBlank).reverse, by
      rw [List.reverse_append, List.reverse_reverse]⟩

/-! ## Refusals -/

lemma natural?_eq_none_of_mem {text : Text} {c : Char} (hmem : c ∈ text)
    (hc : c.isDigit = false) : Decimal.natural? text = none := by
  have hall : ¬ (text ≠ [] ∧ text.all Char.isDigit) := by
    intro h
    have hdigit := List.all_eq_true.mp h.2 c hmem
    rw [hc] at hdigit
    exact Bool.false_ne_true hdigit
  rw [Decimal.natural?, if_neg hall]

/-- A refused text is told as it was given, or it is an integer that is no code. -/
lemma Flavor.read_eq_error {text : Text} {reason : Error} (h : read text = .error reason) :
    reason = .input (.notFlavor text) ∨ ∃ n, reason = .unknownFlavor n := by
  unfold read at h
  dsimp only at h
  split at h
  · simp at h
  · split at h
    · next n _ =>
      split at h
      · unfold ofCode at h
        split at h
        · simp at h
        · exact .inr ⟨n, (Except.error.inj h).symm⟩
      · exact .inl (Except.error.inj h).symm
    · exact .inl (Except.error.inj h).symm

/-- Nothing that begins with two dashes is a flavor. -/
lemma Flavor.read_dashes (text : Text) :
    read ('-' :: '-' :: text) = .error (.input (.notFlavor ('-' :: '-' :: text))) := by
  have hdashes : ∀ c ∈ ['-', '-'], isBlank c = false := by simp [isBlank]
  obtain ⟨rest, htrim⟩ := exists_trim_append (List.cons_ne_nil _ _) hdashes text
  have hword : trim ('-' :: '-' :: text) = '-' :: '-' :: rest := htrim
  have hnamed : named? ('-' :: '-' :: rest) = none := by simp [named?]
  have hinteger : Decimal.integer? ('-' :: '-' :: rest) = none := by
    -- the first dash is a sign and the second is no digit
    have hdash : Decimal.natural? ('-' :: rest) = none :=
      natural?_eq_none_of_mem List.mem_cons_self rfl
    rw [Decimal.integer?, hdash]
    rfl
  simp only [read, hword, hnamed, hinteger]

end LiteralRegex
