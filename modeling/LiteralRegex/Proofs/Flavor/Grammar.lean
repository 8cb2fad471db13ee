import LiteralRegex.Flavor.Reader
import LiteralRegex.Proofs.Text.Blank
import LiteralRegex.Proofs.Text.Decimal
import Mathlib

/-!
# The grammar of flavors

A flavor is a word with blanks around it: a name, with letters of either case, or an integer. An integer of 64
bits that is no code is told apart from all other words (`Flavor.ReadsAs`). No integer is a name, and every
word is in one of the cases, so the reader follows the grammar in both directions
(`Flavor.read_eq_iff`).
-/

namespace LiteralRegex

open Text

/-! ## Names -/

/-- Holds when the text is the word, which is given in lower case, with any of its letters in upper case. -/
def InAnyCase (word text : Text) : Prop := List.Forall₂ (fun c d => d = c ∨ d = c.toUpper) word text

lemma toLower_eq_iff {c d : Char} (hc : c.toLower = c) : d.toLower = c ↔ d = c ∨ d = c.toUpper := by
  constructor
  · intro h
    by_cases hupper : d.isUpper
    · have hlower : ¬ d.isLower := by
        simp only [Char.isUpper, Char.isLower, Bool.and_eq_true, decide_eq_true_eq, ge_iff_le,
          UInt32.le_iff_toNat_le] at hupper ⊢
        have hZa : 'Z'.val.toNat < 'a'.val.toNat := by decide
        omega
      right
      rw [← h, Char.toUpper_toLower_eq_toUpper, Char.toUpper_eq_of_not_isLower hlower]
    · left
      rw [← h, Char.toLower_eq_of_not_isUpper hupper]
  · rintro (rfl | rfl)
    · exact hc
    · rw [Char.toLower_toUpper_eq_toLower, hc]

lemma map_toLower_eq_iff {word text : Text} (hword : ∀ c ∈ word, c.toLower = c) :
    text.map Char.toLower = word ↔ InAnyCase word text := by
  induction word generalizing text with
  | nil => simp [InAnyCase]
  | cons c word ih =>
    obtain ⟨hc, hword⟩ := List.forall_mem_cons.mp hword
    cases text with
    | nil => simp [InAnyCase]
    | cons d text =>
      rw [List.map_cons, List.cons_eq_cons, toLower_eq_iff hc, ih hword, InAnyCase, InAnyCase,
        List.forall₂_cons]

lemma InAnyCase.exists_mem {word text : Text} {d : Char} (h : InAnyCase word text) (hd : d ∈ text) :
    ∃ c ∈ word, d = c ∨ d = c.toUpper := by
  induction h with
  | nil => simp at hd
  | @cons c _ word _ hc _ ih =>
    rcases List.mem_cons.mp hd with rfl | hd
    · exact ⟨c, List.mem_cons_self, hc⟩
    · obtain ⟨c', hc', hd⟩ := ih hd
      exact ⟨c', List.mem_cons_of_mem _ hc', hd⟩

namespace Flavor

/-- The name of a flavor in lower case. -/
def word : Flavor → Text
  | re => ['r', 'e']
  | re2 => ['r', 'e', '2']

variable {text : Text} {f : Flavor} {n : ℤ}

lemma named?_eq_some_iff : named? text = some f ↔ InAnyCase f.word text := by
  have hword : ∀ g : Flavor, text.map Char.toLower = g.word ↔ InAnyCase g.word text := by
    intro g
    apply map_toLower_eq_iff
    cases g <;> simp [word]
  rw [← hword]
  show (if text.map Char.toLower = re.word then some re
    else if text.map Char.toLower = re2.word then some re2 else none) = some f ↔ _
  by_cases hre : text.map Char.toLower = re.word
  · rw [if_pos hre, hre]
    cases f <;> decide
  · rw [if_neg hre]
    by_cases hre2 : text.map Char.toLower = re2.word
    · rw [if_pos hre2, hre2]
      cases f <;> decide
    · rw [if_neg hre2]
      cases f <;> simp [hre, hre2]

lemma named?_eq_none_iff : named? text = none ↔ ∀ f : Flavor, ¬ InAnyCase f.word text := by
  simp only [Option.eq_none_iff_forall_ne_some, Ne, named?_eq_some_iff]

/-! ## No integer is a name -/

/-- Every name begins with the same letter, which is in no integer. -/
lemma not_inAnyCase_of_spells (h : Decimal.Spells text n) : ¬ InAnyCase f.word text := by
  have hletters : 'r' ∉ '+' :: '-' :: Decimal.digitRow ∧ 'R' ∉ '+' :: '-' :: Decimal.digitRow := by
    decide
  intro hname
  obtain ⟨rest, hrest⟩ : ∃ rest, f.word = 'r' :: rest := by cases f <;> exact ⟨_, rfl⟩
  rw [hrest] at hname
  cases hname with
  | cons hd _ =>
    have hmem := h.mem_signs_or_digits List.mem_cons_self
    rcases hd with rfl | rfl
    · exact hletters.1 hmem
    · exact hletters.2 hmem

lemma named?_of_spells (h : Decimal.Spells text n) : named? text = none :=
  named?_eq_none_iff.mpr fun _ => not_inAnyCase_of_spells h

/-! ## Reading -/

lemma fits64_iff : Decimal.Fits64 n ↔ -2 ^ 63 ≤ n ∧ n < 2 ^ 63 := by
  have hmin : Int64.minValue.toInt = -2 ^ 63 := by decide
  have hmax : Int64.maxValue.toInt = 2 ^ 63 - 1 := by decide
  rw [Decimal.Fits64, hmin, hmax]
  omega

/-- The codes are 1 and 2. -/
lemma ofCode_of_ne (hre : n ≠ 1) (hre2 : n ≠ 2) : ofCode n = .error (.unknownFlavor n) := by
  have hnone : ofCode? n = none := by
    rw [Option.eq_none_iff_forall_ne_some]
    intro f hf
    rw [ofCode?_eq_some_iff] at hf
    cases f with
    | re => exact hre hf
    | re2 => exact hre2 hf
  rw [ofCode, hnone]

lemma read_of_inAnyCase (h : InAnyCase f.word text.trim) : read text = .ok f := by
  have hnamed : named? text.trim = some f := named?_eq_some_iff.mpr h
  simp only [read, hnamed]

lemma read_of_spells (h : Decimal.Spells text.trim n) :
    read text = if Decimal.Fits64 n then ofCode n else .error (.input (.notFlavor text)) := by
  have hinteger : Decimal.integer? text.trim = some n := Decimal.integer?_eq_some_iff.mpr h
  simp only [read, named?_of_spells h, hinteger]

/-- The codes are integers of 64 bits. -/
lemma read_of_spells_code (h : Decimal.Spells text.trim f.code) : read text = .ok f := by
  have hfits : Decimal.Fits64 f.code := by cases f <;> decide
  rw [read_of_spells h, if_pos hfits, ofCode, ofCode?_code]

/-- What is neither a name nor an integer is refused. -/
lemma read_of_forall_not (hname : ∀ f : Flavor, ¬ InAnyCase f.word text.trim)
    (hinteger : ∀ n, ¬ Decimal.Spells text.trim n) :
    read text = .error (.input (.notFlavor text)) := by
  have hnamed : named? text.trim = none := named?_eq_none_iff.mpr hname
  have hnumber : Decimal.integer? text.trim = none := Decimal.integer?_eq_none_iff.mpr hinteger
  simp only [read, hnamed, hnumber]

/-! ## The grammar -/

/-- Holds of a text that is nothing or a sign alone, or has a blank in it. -/
def Malformed (text : Text) : Prop :=
  text ∈ [[], ['+'], ['-']] ∨ ∃ c ∈ text, isBlank c

/-- Holds when the text gives the result: it is a name or a code with blanks around it, an integer of 64 bits
that is no code, or anything else. -/
inductive ReadsAs (text : Text) : Except Error Flavor → Prop
  | re (h : InAnyCase ['r', 'e'] text.trim ∨ Decimal.Spells text.trim 1) : ReadsAs text (.ok re)
  | re2 (h : InAnyCase ['r', 'e', '2'] text.trim ∨ Decimal.Spells text.trim 2) :
      ReadsAs text (.ok re2)
  | unknown {n : ℤ} (h : Decimal.Spells text.trim n) (hre : n ≠ 1) (hre2 : n ≠ 2)
      (hlow : -2 ^ 63 ≤ n) (hhigh : n < 2 ^ 63) : ReadsAs text (.error (.unknownFlavor n))
  | other (hre : ¬ InAnyCase ['r', 'e'] text.trim) (hre2 : ¬ InAnyCase ['r', 'e', '2'] text.trim)
      (hn : ∀ n, Decimal.Spells text.trim n → n < -2 ^ 63 ∨ 2 ^ 63 ≤ n) :
      ReadsAs text (.error (.input (.notFlavor text)))

variable {result : Except Error Flavor}

lemma ReadsAs.read_eq (h : ReadsAs text result) : read text = result := by
  cases h with
  | re h =>
    rcases h with hname | hcode
    · exact read_of_inAnyCase (f := .re) hname
    · exact read_of_spells_code (f := .re) hcode
  | re2 h =>
    rcases h with hname | hcode
    · exact read_of_inAnyCase (f := .re2) hname
    · exact read_of_spells_code (f := .re2) hcode
  | unknown h hre hre2 hlow hhigh =>
    rw [read_of_spells h, if_pos (fits64_iff.mpr ⟨hlow, hhigh⟩), ofCode_of_ne hre hre2]
  | other hre hre2 hn =>
    by_cases hinteger : ∃ n, Decimal.Spells text.trim n
    · obtain ⟨n, h⟩ := hinteger
      have hrange := hn n h
      rw [read_of_spells h, if_neg]
      rw [fits64_iff]
      omega
    · apply read_of_forall_not
      · intro f
        cases f with
        | re => exact hre
        | re2 => exact hre2
      · exact fun n h => hinteger ⟨n, h⟩

/-- Every text is in one of the cases. -/
lemma exists_readsAs (text : Text) : ∃ result, ReadsAs text result := by
  by_cases hre : InAnyCase ['r', 'e'] text.trim ∨ Decimal.Spells text.trim 1
  · exact ⟨_, .re hre⟩
  by_cases hre2 : InAnyCase ['r', 'e', '2'] text.trim ∨ Decimal.Spells text.trim 2
  · exact ⟨_, .re2 hre2⟩
  rw [not_or] at hre hre2
  by_cases hn : ∃ n, Decimal.Spells text.trim n ∧ -2 ^ 63 ≤ n ∧ n < 2 ^ 63
  · obtain ⟨n, h, hlow, hhigh⟩ := hn
    refine ⟨_, .unknown h ?_ ?_ hlow hhigh⟩
    · rintro rfl
      exact hre.2 h
    · rintro rfl
      exact hre2.2 h
  · refine ⟨_, .other hre.1 hre2.1 fun n h => ?_⟩
    by_contra hrange
    exact hn ⟨n, h, by omega⟩

/-- The reader follows the grammar. -/
lemma read_eq_iff : read text = result ↔ ReadsAs text result := by
  constructor
  · rintro rfl
    obtain ⟨result, h⟩ := exists_readsAs text
    rwa [h.read_eq]
  · exact ReadsAs.read_eq

/-! ## Words that are neither -/

lemma Malformed.not_spells (h : Malformed text) : ¬ Decimal.Spells text n := by
  intro hn
  rcases h with hshort | ⟨c, hc, hblank⟩
  · have hnone : [[], ['+'], ['-']].all fun w => Decimal.integer? w = none := by decide
    have htext := of_decide_eq_true (List.all_eq_true.mp hnone text hshort)
    exact Decimal.integer?_eq_none_iff.mp htext n hn
  · have hrow : ('+' :: '-' :: Decimal.digitRow).all (!isBlank ·) := by decide
    have hc' := List.all_eq_true.mp hrow c (hn.mem_signs_or_digits hc)
    simp [hblank] at hc'

lemma Malformed.not_inAnyCase (h : Malformed text) : ¬ InAnyCase f.word text := by
  intro hname
  rcases h with hshort | ⟨c, hc, hblank⟩
  · have hnone : [[], ['+'], ['-']].all fun w => named? w = none := by decide
    have htext := of_decide_eq_true (List.all_eq_true.mp hnone text hshort)
    exact named?_eq_none_iff.mp htext f hname
  · have hletters : f.word.all fun d => !isBlank d && !isBlank d.toUpper := by cases f <;> decide
    obtain ⟨d, hd, hcd⟩ := hname.exists_mem hc
    have hd' := List.all_eq_true.mp hletters d hd
    rcases hcd with rfl | rfl
    · simp [hblank] at hd'
    · simp [hblank] at hd'

/-- Without the blanks around it, which leaves one word, a text is read as the grammar has it and in no other
way: as a flavor where the word is its name in any case or its code, as an unknown flavor where the word is
another integer of 64 bits, and else it is refused. That goes for the empty word, for a sign alone, for a blank
inside, and for the integers beyond 64 bits. -/
theorem flavor_grammar (text : Text) :
    (∀ word, TrimsTo text word ↔ word = text.trim) ∧
    (∀ result, read text = result ↔ ReadsAs text result) ∧
    (∃! result, ReadsAs text result) ∧
    (Malformed text.trim ∨ (∃ n, Decimal.Spells text.trim n ∧ (n < -2 ^ 63 ∨ 2 ^ 63 ≤ n)) →
      read text = .error (.input (.notFlavor text))) := by
  refine ⟨fun word => ?_, fun result => read_eq_iff, ⟨read text, read_eq_iff.mp rfl, ?_⟩, ?_⟩
  · rw [← trim_eq_iff, eq_comm]
  · exact fun result h => h.read_eq.symm
  · rintro (hword | ⟨n, hn, hrange⟩)
    · apply read_of_forall_not
      · exact fun f => hword.not_inAnyCase
      · exact fun n => hword.not_spells
    · rw [read_of_spells hn, if_neg]
      rw [fits64_iff]
      omega

/-- A code with a sign, zeros and blanks, the least integer of 64 bits, the first one beyond them, and a name with
a blank inside. -/
theorem flavor_grammar_limits :
    TrimsTo "\u00a0+0002\n".toList "+0002".toList ∧
    ReadsAs "\u00a0+0002\n".toList (.ok .re2) ∧
    ReadsAs "-9223372036854775808".toList (.error (.unknownFlavor (-2 ^ 63))) ∧
    Decimal.Spells (trim "9223372036854775808".toList) (2 ^ 63) ∧
    read "9223372036854775808".toList =
      .error (.input (.notFlavor "9223372036854775808".toList)) ∧
    Malformed (trim "re 2".toList) ∧
    read "re 2".toList = .error (.input (.notFlavor "re 2".toList)) := by
  obtain ⟨hword, hpadded, -⟩ := flavor_grammar "\u00a0+0002\n".toList
  obtain ⟨-, hlow, -⟩ := flavor_grammar "-9223372036854775808".toList
  obtain ⟨-, -, -, hhigh⟩ := flavor_grammar "9223372036854775808".toList
  obtain ⟨-, -, -, hinside⟩ := flavor_grammar "re 2".toList
  have hspells : Decimal.Spells (trim "9223372036854775808".toList) (2 ^ 63) :=
    Decimal.integer?_eq_some_iff.mp (by decide)
  have hblank : Malformed (trim "re 2".toList) := .inr ⟨' ', by decide, by decide⟩
  exact ⟨(hword _).mpr (by decide), (hpadded _).mp (by decide), (hlow _).mp (by decide), hspells,
    hhigh (.inr ⟨_, hspells, by decide⟩), hblank, hinside (.inl hblank)⟩

end Flavor

end LiteralRegex
