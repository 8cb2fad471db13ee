import LiteralRegex.Literal.Reader
import LiteralRegex.Proofs.Text.Row
import Mathlib.Data.List.TakeWhile

/-!
# Literal fragments are uniquely decodable

The reader of `Literal/Reader` is a scanner. Here the fragments it should accept are said
a second time, as a grammar:

* `Flavor.AtomFor`, the ways to spell one character in a flavor;
* `Flavor.LiteralFor`, atoms in a row, which spell the text of their characters.

The grammar leaves open how a fragment is cut into atoms, and nothing marks the seams.
That there is only one way to cut is what `readAtom?_append` carries: the scanner, which
never looks back, takes every atom of the grammar off whatever stands behind it. Two texts
with one fragment are therefore equal.
-/

namespace LiteralRegex

open Text

/-! ## The grammar -/

/-- Holds when the fragment spells the character `c`: bare, behind a backslash, or by its
number. -/
inductive Flavor.AtomFor : Flavor → Text → Char → Prop
  | bare {f : Flavor} {c : Char} (h : c.isAlphanum) : AtomFor f [c] c
  | backslashed {c : Char} (h : ¬ c.isAlphanum) : AtomFor re ['\\', c] c
  | punctuation {c : Char} (h : CharTraits.isPunctuation c) : AtomFor re2 ['\\', c] c
  | number {digits : Text} {c : Char} (hne : digits ≠ []) (hdigits : ∀ d ∈ digits, Hex.isDigit d)
      (hvalue : Hex.value digits = c.toNat) : AtomFor re2 (['\\', 'x', '{'] ++ digits ++ ['}']) c

/-- Holds when the fragment spells the text, character by character. -/
def Flavor.LiteralFor (f : Flavor) (fragment text : Text) : Prop := InRow f.AtomFor fragment text

/-! ## The reader accepts exactly the grammar -/

lemma bracedDigits?_eq_some_iff {text digits rest : Text} :
    bracedDigits? text = some (digits, rest) ↔
      digits ≠ [] ∧ (∀ d ∈ digits, Hex.isDigit d) ∧ text = ['{'] ++ digits ++ ['}'] ++ rest := by
  constructor
  · intro h
    unfold bracedDigits? at h
    split at h
    · next body =>
      split at h
      · next tail hdrop =>
        dsimp only at h
        split at h
        · next hne =>
          injection h with h
          injection h with hdigits htail
          subst hdigits htail
          refine ⟨hne, fun d hd => List.mem_takeWhile_imp hd, ?_⟩
          -- the digits and what was dropped make up the text
          have hbody := List.takeWhile_append_dropWhile (p := Hex.isDigit) (l := body)
          rw [hdrop] at hbody
          simpa using hbody.symm
        · simp at h
      · simp at h
    · simp at h
  · intro h
    obtain ⟨hne, hdigits, rfl⟩ := h
    exact bracedDigits?_append rest hne hdigits

lemma readNumber?_eq_some_iff {text rest : Text} {c : Char} :
    readNumber? text = some (c, rest) ↔
      ∃ digits, digits ≠ [] ∧ (∀ d ∈ digits, Hex.isDigit d) ∧ Hex.value digits = c.toNat ∧
        text = ['{'] ++ digits ++ ['}'] ++ rest := by
  simp only [readNumber?, bind, pure, Option.bind_eq_some_iff, Prod.exists, Option.some.injEq,
    Prod.mk.injEq, bracedDigits?_eq_some_iff, Unicode.scalar?_eq_some_iff]
  constructor
  · intro h
    obtain ⟨digits, _, ⟨hne, hdigits, htext⟩, _, hvalue, rfl, rfl⟩ := h
    exact ⟨digits, hne, hdigits, hvalue, htext⟩
  · intro h
    obtain ⟨digits, hne, hdigits, hvalue, htext⟩ := h
    exact ⟨digits, rest, ⟨hne, hdigits, htext⟩, c, hvalue, rfl, rfl⟩

lemma backslash_not_alphanum : ¬ '\\'.isAlphanum := by decide

lemma x_not_punctuation : ¬ CharTraits.isPunctuation 'x' := by decide

/-- What the reader takes off the front of a fragment is an atom. -/
lemma exists_atomFor_of_readAtom? {f : Flavor} {fragment rest : Text} {c : Char}
    (h : f.readAtom? fragment = some (c, rest)) :
    ∃ atom, f.AtomFor atom c ∧ fragment = atom ++ rest := by
  unfold Flavor.readAtom? at h
  split at h
  · simp at h
  · next escaped =>
    cases escaped with
    | nil => simp [Flavor.readEscaped?] at h
    | cons d tail =>
      cases f with
      | re =>
        simp only [Flavor.readEscaped?] at h
        split at h
        · simp at h
        · next hd =>
          obtain ⟨rfl, rfl⟩ : d = c ∧ tail = rest := by simpa using h
          exact ⟨['\\', d], .backslashed hd, rfl⟩
      | re2 =>
        -- punctuation stands for itself and the letter x opens a number
        simp only [Flavor.readEscaped?] at h
        split at h
        · next hd =>
          obtain ⟨rfl, rfl⟩ : d = c ∧ tail = rest := by simpa using h
          exact ⟨['\\', d], .punctuation hd, rfl⟩
        · split at h
          · next hx =>
            obtain ⟨digits, hne, hdigits, hvalue, rfl⟩ := readNumber?_eq_some_iff.mp h
            subst hx
            exact ⟨_, .number hne hdigits hvalue, by simp⟩
          · simp at h
  · next d tail _ =>
    split at h
    · next hd =>
      obtain ⟨rfl, rfl⟩ : d = c ∧ tail = rest := by simpa using h
      exact ⟨[d], .bare hd, rfl⟩
    · simp at h

/-- The reader takes an atom off the front of a fragment, whatever stands behind it. -/
lemma readAtom?_append {f : Flavor} {atom : Text} {c : Char} (h : f.AtomFor atom c)
    (rest : Text) : f.readAtom? (atom ++ rest) = some (c, rest) := by
  cases h with
  | bare hc =>
    -- a bare atom is not taken for the backslash of another
    have hslash : c ≠ '\\' := by
      intro heq
      subst heq
      exact backslash_not_alphanum hc
    simp [Flavor.readAtom?, hc]
  | backslashed hc => simp [Flavor.readAtom?, Flavor.readEscaped?, hc]
  | punctuation hc => simp [Flavor.readAtom?, Flavor.readEscaped?, hc]
  | @number digits c hne hdigits hvalue =>
    have hnumber : readNumber? (['{'] ++ digits ++ ['}'] ++ rest) = some (c, rest) :=
      readNumber?_eq_some_iff.mpr ⟨digits, hne, hdigits, hvalue, rfl⟩
    simpa [Flavor.readAtom?, Flavor.readEscaped?, x_not_punctuation] using hnumber

lemma repeats_readLiteral? (f : Flavor) : Repeats f.readAtom? f.readLiteral? where
  nil := by simp [Flavor.readLiteral?]
  stuck hne hstep := by
    rw [Flavor.readLiteral?, if_neg hne]
    split
    · rfl
    · next hsome => simp [hstep] at hsome
  next {fragment rest c} hstep := by
    have hne : fragment ≠ [] := by
      intro hnil
      subst hnil
      simp [Flavor.readAtom?] at hstep
    rw [Flavor.readLiteral?, if_neg hne]
    split
    · next hnone => simp [hstep] at hnone
    · next d tail hsome =>
      obtain ⟨rfl, rfl⟩ : c = d ∧ rest = tail := by simpa [hstep] using hsome
      rfl

/-- A fragment can be read exactly when the grammar has it, and only in one way. -/
theorem readLiteral?_eq_some_iff {f : Flavor} {fragment text : Text} :
    f.readLiteral? fragment = some text ↔ f.LiteralFor fragment text :=
  (repeats_readLiteral? f).eq_some_iff exists_atomFor_of_readAtom?
    fun hatom _ => readAtom?_append hatom _

/-! ## Fragments spell their texts -/

/-- In the backtracking flavor every character that is not safe has its backslash. -/
lemma Flavor.isBackslashed_re {c : Char} (h : ¬ CharTraits.isSafe c) : re.isBackslashed c := by
  simpa [isBackslashed] using h

/-- A character is written as one atom. -/
lemma Flavor.atomFor_escape (f : Flavor) (c : Char) : f.AtomFor (f.escape c) c := by
  unfold escape
  by_cases hsafe : CharTraits.isSafe c
  · rw [if_pos hsafe]
    exact .bare hsafe
  · rw [if_neg hsafe]
    by_cases hback : f.isBackslashed c
    · rw [if_pos hback]
      cases f with
      | re => exact .backslashed hsafe
      | re2 =>
        have hboth : CharTraits.isAlwaysEscaped c ∧ CharTraits.isPunctuation c := by
          simpa [isBackslashed] using hback
        exact .punctuation hboth.2
    · rw [if_neg hback]
      cases f with
      | re => exact absurd (isBackslashed_re hsafe) hback
      | re2 =>
        exact .number (Hex.lower_ne_nil _ _) Hex.isDigit_of_mem_lower (Hex.value_lower _ _)

lemma Flavor.literalFor_literal (f : Flavor) (text : Text) :
    f.LiteralFor (f.literal text) text := by
  induction text with
  | nil => exact .nil
  | cons c text ih =>
    rw [literal, List.flatMap_cons]
    exact .cons (f.atomFor_escape c) ih

/-- The fragment of a text reads back as that text. -/
theorem readLiteral?_literal (f : Flavor) (text : Text) :
    f.readLiteral? (f.literal text) = some text :=
  readLiteral?_eq_some_iff.mpr (f.literalFor_literal text)

/-! ## Every fragment has one reading -/

/-- No fragment stands for two texts. -/
lemma Flavor.LiteralFor.unique {f : Flavor} {fragment a b : Text}
    (ha : f.LiteralFor fragment a) (hb : f.LiteralFor fragment b) : a = b := by
  rw [← readLiteral?_eq_some_iff] at ha hb
  exact Option.some.inj (ha.symm.trans hb)

lemma literal_injective (f : Flavor) : Function.Injective f.literal := by
  intro a b h
  have ha := f.literalFor_literal a
  rw [h] at ha
  exact ha.unique (f.literalFor_literal b)

/-- The fragment of a text is read to its end and gives back the text, which is the only text
that it spells. Fragments are put together as their texts are, and differ where their texts do. -/
theorem literal_uniquely_decodable (f : Flavor) :
    (∀ text, f.readLiteral? (f.literal text) = some text) ∧
    (∀ text other, f.LiteralFor (f.literal text) other ↔ other = text) ∧
    (∀ a b, f.literal (a ++ b) = f.literal a ++ f.literal b) ∧
    (∀ a b, f.literal a = f.literal b ↔ a = b) := by
  refine ⟨readLiteral?_literal f, fun text other => ⟨fun h => ?_, ?_⟩, f.literal_append,
    fun a b => (literal_injective f).eq_iff⟩
  · exact h.unique (f.literalFor_literal text)
  · intro heq
    subst heq
    exact f.literalFor_literal other

end LiteralRegex
