import LiteralRegex.Alternation.Basic
import LiteralRegex.Literal.Reader

/-!
# Reading alternations

An alternation is cut at its bars, except those that a backslash protects, and every
piece is read as a literal.
-/

namespace LiteralRegex

/-- Puts characters before the first of some pieces. -/
def beforeFirst (text : Text) : List Text → List Text
  | [] => [text]
  | piece :: pieces => (text ++ piece) :: pieces

/-- The pieces between the bars of an alternation. A backslash protects the character
after it. -/
def cutAtBars : Text → List Text
  | [] => [[]]
  | '\\' :: c :: rest => beforeFirst ['\\', c] (cutAtBars rest)
  | '|' :: rest => [] :: cutAtBars rest
  | c :: rest => beforeFirst [c] (cutAtBars rest)

/-- The texts that an alternation stands for, in the order in which they are tried. -/
def Flavor.readAlternation? (f : Flavor) (fragment : Text) : Option (List Text) :=
  (cutAtBars fragment).mapM f.readLiteral?

/-! ## Cutting what was joined -/

theorem beforeFirst_append (a b : Text) (pieces : List Text) :
    beforeFirst a (beforeFirst b pieces) = beforeFirst (a ++ b) pieces := by
  cases pieces <;> simp [beforeFirst]

theorem cutAtBars_ne_nil (text : Text) : cutAtBars text ≠ [] := by
  fun_cases cutAtBars text
  · simp
  · cases h : cutAtBars ‹_› <;> simp [beforeFirst]
  · simp
  · cases h : cutAtBars ‹_› <;> simp [beforeFirst]

theorem beforeFirst_nil_cutAtBars (text : Text) :
    beforeFirst [] (cutAtBars text) = cutAtBars text := by
  cases h : cutAtBars text with
  | nil => exact absurd h (cutAtBars_ne_nil text)
  | cons => simp [beforeFirst]

theorem cutAtBars_cons {c : Char} {text : Text} (hslash : c ≠ '\\') (hbar : c ≠ '|') :
    cutAtBars (c :: text) = beforeFirst [c] (cutAtBars text) := by
  rw [cutAtBars] <;> simp_all

/-- Characters other than backslash and bar stay together. -/
theorem cutAtBars_append {lead text : Text} (h : ∀ c ∈ lead, c ≠ '\\' ∧ c ≠ '|') :
    cutAtBars (lead ++ text) = beforeFirst lead (cutAtBars text) := by
  induction lead with
  | nil => exact (beforeFirst_nil_cutAtBars text).symm
  | cons c lead ih =>
    have hc := h c List.mem_cons_self
    rw [List.cons_append, cutAtBars_cons hc.1 hc.2,
      ih fun d hd => h d (List.mem_cons_of_mem _ hd), beforeFirst_append]
    rfl

/-- The fragment of a character is never cut. -/
theorem cutAtBars_escape (f : Flavor) (c : Char) (text : Text) :
    cutAtBars (f.escape c ++ text) = beforeFirst (f.escape c) (cutAtBars text) := by
  unfold Flavor.escape
  split
  · next hsafe =>
    refine cutAtBars_append fun d hd => ?_
    obtain rfl := List.mem_singleton.mp hd
    constructor
    · intro hslash
      subst hslash
      exact absurd hsafe (by decide)
    · intro hbar
      subst hbar
      exact absurd hsafe (by decide)
  · split
    · rfl
    · have hnumber : ∀ d ∈ ['{'] ++ Text.Hex.lower (if c.toNat < 0x10000 then 4 else 8) c.toNat
          ++ ['}'], d ≠ '\\' ∧ d ≠ '|' := by
        intro d hd
        simp only [List.mem_append, List.mem_singleton] at hd
        rcases hd with (rfl | hd) | rfl
        · decide
        · have hdigit := Text.Hex.isDigit_of_mem_lower d hd
          constructor
          · intro hslash
            subst hslash
            exact absurd hdigit (by decide)
          · intro hbar
            subst hbar
            exact absurd hdigit (by decide)
        · decide
      have hcut := @cutAtBars_append _ text hnumber
      simp only [List.cons_append, List.nil_append] at hcut
      simp only [numberForm, List.cons_append, List.nil_append, cutAtBars, hcut, beforeFirst_append]

/-- The fragment of a text is never cut. -/
theorem cutAtBars_literal (f : Flavor) (t text : Text) :
    cutAtBars (f.literal t ++ text) = beforeFirst (f.literal t) (cutAtBars text) := by
  induction t with
  | nil => exact (beforeFirst_nil_cutAtBars text).symm
  | cons c t ih =>
    rw [show f.literal (c :: t) = f.escape c ++ f.literal t by simp [Flavor.literal],
      List.append_assoc, cutAtBars_escape, ih, beforeFirst_append]

/-- The pieces of an alternation are the fragments that were joined, and one empty piece if
there were none. -/
theorem cutAtBars_intercalate (f : Flavor) {texts : List Text} (hne : texts ≠ []) :
    cutAtBars (['|'].intercalate (texts.map f.literal)) = texts.map f.literal := by
  induction texts with
  | nil => exact absurd rfl hne
  | cons t texts ih =>
    cases texts with
    | nil =>
      have hone := cutAtBars_literal f t []
      simpa [cutAtBars, beforeFirst] using hone
    | cons u texts =>
      have hjoined := ih (by simp)
      simp only [List.map_cons] at hjoined ⊢
      rw [List.intercalate_cons_cons, List.append_assoc, cutAtBars_literal, List.singleton_append,
        cutAtBars, hjoined]
      simp [beforeFirst]

end LiteralRegex
