import LiteralRegex.Proofs.CodePoint.RoundTrip
import LiteralRegex.Proofs.Flavor.Agreement
import Mathlib

/-!
# Number forms are code points

What stands between the braces of a number form is a code point in lower case. Its width is four or eight, so
it has no more digits than are read (`readChar_lower`), and in upper case it is what is written for the
character with that width.

Two rules give the same digits (`trimmedDigits_eq`). Up to U+FFFF the eight digits begin with four zeros.
Beyond it they do not, or else the four digits behind the zeros would have too large a value.
-/

namespace LiteralRegex

/-! ## Four digits or eight -/

namespace Text.Hex

variable {width n : ℕ}

lemma log_lt_four (h : n < 0x10000) : Nat.log 16 n < 4 :=
  Nat.log_lt_of_lt_pow' (by decide) h

/-- Eight digits of a number that has at most four begin with four zeros. -/
lemma lower_eight_of_lt (h : n < 0x10000) :
    lower 8 n = ['0', '0', '0', '0'] ++ lower 4 n := by
  have hlog := log_lt_four h
  have hcount : 8 - (Nat.toDigits 16 n).length = 4 + (4 - (Nat.toDigits 16 n).length) := by
    rw [length_toDigits]
    omega
  rw [lower, lower, List.leftpad, List.leftpad, hcount, List.replicate_add, List.append_assoc]
  rfl

/-- Eight digits of a larger number do not, since behind the zeros it would have only four. -/
lemma lower_eight_ne_of_le (h : 0x10000 ≤ n) (hlog : Nat.log 16 n < 8) (rest : Text) :
    ['0', '0', '0', '0'] ++ rest ≠ lower 8 n := by
  intro heq
  have hlength : rest.length = 4 := by
    have := congrArg List.length heq
    rw [length_lower, List.length_append, List.length_cons, List.length_cons, List.length_cons,
      List.length_singleton] at this
    omega
  have hpadded : rest.leftpad 8 '0' = lower 8 n := by
    rw [← heq, List.leftpad, hlength]
    rfl
  have hvalue : value rest = n := by
    rw [← value_leftpad 8, hpadded, value_lower]
  have hlt := value_lt rest
  rw [hlength, hvalue] at hlt
  omega

end Text.Hex

open Text (Hex.lower)

variable {c : Char} {digits : Text}

lemma log_toNat_char_lt (c : Char) : Nat.log 16 c.toNat < 8 := CodePoint.log_toNat_lt c.val

/-- The digits that are left of all eight are those of the number form. -/
lemma trimmedDigits_eq (c : Char) :
    trimmedDigits c = Hex.lower (if c.toNat < 0x10000 then 4 else 8) c.toNat := by
  unfold trimmedDigits
  dsimp only
  by_cases hsmall : c.toNat < 0x10000
  · have hfront : ['0', '0', '0', '0'].isPrefixOf? (Hex.lower 8 c.toNat) =
        some (Hex.lower 4 c.toNat) :=
      List.isPrefixOf?_eq_some_iff_append_eq.mpr (Text.Hex.lower_eight_of_lt hsmall).symm
    rw [if_pos hsmall, hfront, Option.getD_some]
  · have hfront : ['0', '0', '0', '0'].isPrefixOf? (Hex.lower 8 c.toNat) = none := by
      apply Option.eq_none_iff_forall_ne_some.mpr
      intro rest hrest
      exact Text.Hex.lower_eight_ne_of_le (Nat.le_of_not_lt hsmall) (log_toNat_char_lt c) rest
        (List.isPrefixOf?_eq_some_iff_append_eq.mp hrest)
    rw [if_neg hsmall, hfront, Option.getD_none]

/-- Digits are read as the character that they were written for, unless there are too many. -/
lemma readChar_lower {width : ℕ} (hwidth : width ≤ 8) :
    CodePoint.readChar (Hex.lower width c.toNat) = .ok c := by
  have hlog := log_toNat_char_lt c
  have hall : (Hex.lower width c.toNat).all Text.Hex.isDigit :=
    List.all_eq_true.mpr Text.Hex.isDigit_of_mem_lower
  rw [CodePoint.readChar_eq_ok_iff, CodePoint.IsDigits, Text.Hex.length_lower,
    Text.Hex.value_lower]
  refine ⟨⟨?_, hall⟩, rfl⟩
  omega

/-! ## Which characters have a number form -/

/-- No other part reads like a number. -/
lemma Scanned.text_eq_text_number_iff {part : Scanned} :
    part.text = (number digits).text ↔ part = number digits := by
  cases part with
  | bare d => simp [text]
  | guarded d => simp [text]
  | number digits' => simp [text]
  | dangling => simp [text]

/-- The linear-time flavor writes a number where the flavors differ, and nowhere else. -/
lemma part_eq_number_iff : Flavor.re2.part c = .number digits ↔
    ¬ WrittenAlike c ∧ digits = Hex.lower (if c.toNat < 0x10000 then 4 else 8) c.toNat := by
  rw [writtenAlike_iff]
  unfold Flavor.part
  by_cases hsafe : CharTraits.isSafe c
  · rw [if_pos hsafe]
    exact iff_of_false (by simp) fun h => h.1 (.inl hsafe)
  · rw [if_neg hsafe]
    by_cases hre2 : Flavor.re2.isBackslashed c
    · rw [if_pos hre2]
      exact iff_of_false (by simp) fun h => h.1 (.inr hre2)
    · rw [if_neg hre2, and_iff_right (not_or.mpr ⟨hsafe, hre2⟩), Scanned.number.injEq, eq_comm]

lemma escape_eq_text_number_iff : Flavor.re2.escape c = (Scanned.number digits).text ↔
    ¬ WrittenAlike c ∧ digits = Hex.lower (if c.toNat < 0x10000 then 4 else 8) c.toNat := by
  rw [← text_part, Scanned.text_eq_text_number_iff, part_eq_number_iff]

/-- A character that stands for itself or behind a backslash leaves no room for a number form. -/
lemma length_escape_re_le (c : Char) : (Flavor.re.escape c).length ≤ 2 := by
  unfold Flavor.escape
  by_cases hsafe : CharTraits.isSafe c
  · rw [if_pos hsafe]
    exact Nat.le_succ 1
  · rw [if_neg hsafe, if_pos (Flavor.isBackslashed_re hsafe)]
    exact Nat.le_refl 2

/-- The linear-time flavor writes the number of a character if the flavors write it differently. Whatever
stands between the braces is then read as the character. It is four digits up to U+FFFF and eight beyond,
as many as trimming leaves of eight, and in upper case it is what is written for the character with this
width. All other characters are the same fragment in both flavors, in which no number form begins. -/
theorem number_forms_are_code_points (c : Char) :
    ((∃ digits, Flavor.re2.escape c = (Scanned.number digits).text) ↔ ¬ WrittenAlike c) ∧
    (∀ digits, Flavor.re2.escape c = (Scanned.number digits).text →
      digits = trimmedDigits c ∧ CodePoint.readChar digits = .ok c ∧
      (c.toNat ≤ 0xFFFF → digits.length = 4 ∧
        digits.map Char.toUpper = CodePoint.formatChar c (some 4)) ∧
      (0xFFFF < c.toNat → digits.length = 8 ∧
        digits.map Char.toUpper = CodePoint.formatChar c (some CodePoint.defaultWidth))) ∧
    (WrittenAlike c → Flavor.re2.escape c = Flavor.re.escape c ∧
      ¬ ['\\', 'x', '{'] <:+: Flavor.re2.escape c) := by
  refine ⟨?_, fun digits hdigits => ?_, fun halike => ?_⟩
  · simp only [escape_eq_text_number_iff, exists_and_left, exists_eq, and_true]
  · obtain ⟨-, rfl⟩ := escape_eq_text_number_iff.mp hdigits
    have hlog := log_toNat_char_lt c
    refine ⟨(trimmedDigits_eq c).symm, readChar_lower (by split <;> decide), fun hsmall => ?_,
      fun hlarge => ?_⟩
    · have hlt : c.toNat < 0x10000 := Nat.lt_succ_of_le hsmall
      have hfour := Text.Hex.log_lt_four hlt
      rw [if_pos hlt]
      refine ⟨?_, rfl⟩
      rw [Text.Hex.length_lower]
      omega
    · rw [if_neg (Nat.not_lt_of_le hlarge)]
      refine ⟨?_, rfl⟩
      rw [Text.Hex.length_lower]
      omega
  · have hsame : Flavor.re2.escape c = Flavor.re.escape c := by
      rw [← text_part, ← text_part, part_re_eq_iff.mpr halike]
    refine ⟨hsame, fun hopen => ?_⟩
    rw [hsame] at hopen
    exact absurd (hopen.length_le.trans (length_escape_re_le c)) (by decide)

/-- The last character with four digits, the first with eight, of which the last four are zeros, and a brace,
which both flavors write alike. -/
theorem number_forms_are_code_points_ends :
    (Flavor.re2.escape '\uffff' = (Scanned.number "ffff".toList).text ∧ '\uffff'.toNat ≤ 0xFFFF ∧
      "ffff".toList.length = 4 ∧
      "ffff".toList.map Char.toUpper = CodePoint.formatChar '\uffff' (some 4)) ∧
    (Flavor.re2.escape (Char.ofNat 0x10000) = (Scanned.number "00010000".toList).text ∧
      0xFFFF < (Char.ofNat 0x10000).toNat ∧
      CodePoint.readChar "00010000".toList = .ok (Char.ofNat 0x10000) ∧
      "00010000".toList = trimmedDigits (Char.ofNat 0x10000)) ∧
    WrittenAlike '{' ∧ Flavor.re2.escape '{' = Flavor.re.escape '{' := by
  have hfour : Flavor.re2.escape '\uffff' = (Scanned.number "ffff".toList).text := by
    decide +kernel
  have height : Flavor.re2.escape (Char.ofNat 0x10000) =
      (Scanned.number "00010000".toList).text := by decide +kernel
  have hsmall : '\uffff'.toNat ≤ 0xFFFF := by decide
  have hlarge : 0xFFFF < (Char.ofNat 0x10000).toNat := by decide
  have halike : WrittenAlike '{' := .inr (by decide)
  obtain ⟨-, hforms, -⟩ := number_forms_are_code_points '\uffff'
  obtain ⟨-, hforms', -⟩ := number_forms_are_code_points (Char.ofNat 0x10000)
  obtain ⟨-, -, hsame⟩ := number_forms_are_code_points '{'
  obtain ⟨htrimmed, hread, -, -⟩ := hforms' _ height
  exact ⟨⟨hfour, hsmall, (hforms _ hfour).2.2.1 hsmall⟩, ⟨height, hlarge, hread, htrimmed⟩,
    halike, (hsame halike).1⟩

end LiteralRegex
