import LiteralRegex.Proofs.CodePoint.Reading
import LiteralRegex.Proofs.CommandLine.BeforeCommand
import LiteralRegex.Proofs.CommandLine.ExitCode
import LiteralRegex.Proofs.Text.Hex
import Mathlib

/-!
# Reading back what was written

A number of 32 bits has at most eight digits, which is as many as are read. So what is written for it is
read back whenever the width leaves it at that (`isDigits_format_iff`), and a wider text is refused, even
though all that is added to it are zeros. On the command line the width is eight, so one command reads what
the other has printed.
-/

namespace LiteralRegex.CodePoint

open CommandLine
open Text.Hex (upperDigits)

variable {n : UInt32} {width : Option ℕ}

/-- A number of 32 bits has at most eight digits. -/
lemma log_toNat_lt (n : UInt32) : Nat.log 16 n.toNat < 8 :=
  Nat.log_lt_of_lt_pow' (by decide) n.toNat_lt

lemma length_format :
    (format n width).length = max (width.getD 0) (Nat.log 16 n.toNat + 1) :=
  Text.Hex.length_upper

lemma mem_upperDigits_of_mem_format : ∀ d ∈ format n width, d ∈ upperDigits :=
  Text.Hex.mem_upperDigits_of_mem_upper

/-- What is written can be read unless the width makes it too long. -/
lemma isDigits_format_iff : IsDigits (format n width) ↔ width.getD 0 ≤ 8 := by
  have hlog := log_toNat_lt n
  have hall : (format n width).all Text.Hex.isDigit := by
    rw [List.all_eq_true]
    intro d hd
    exact Text.Hex.isDigit_of_mem_upperDigits (mem_upperDigits_of_mem_format d hd)
  rw [IsDigits, length_format, and_iff_left hall]
  omega

lemma read_format :
    read (format n width) =
      if width.getD 0 ≤ 8 then .ok n else .error (.input (.notHexadecimal (format n width))) := by
  by_cases hwidth : width.getD 0 ≤ 8
  · rw [if_pos hwidth, read_eq_ok_iff]
    exact ⟨isDigits_format_iff.mpr hwidth, Text.Hex.value_upper.symm⟩
  · rw [if_neg hwidth, read_eq_error_iff]
    exact ⟨fun hdigits => hwidth (isDigits_format_iff.mp hdigits), rfl⟩

lemma readChar_formatChar {c : Char} :
    readChar (formatChar c width) =
      if width.getD 0 ≤ 8 then .ok c
      else .error (.input (.notHexadecimal (formatChar c width))) := by
  by_cases hwidth : width.getD 0 ≤ 8
  · rw [if_pos hwidth, readChar_eq_ok_iff]
    exact ⟨isDigits_format_iff.mpr hwidth, Text.Hex.value_upper⟩
  · rw [if_neg hwidth]
    exact readChar_of_not_isDigits fun hdigits => hwidth (isDigits_format_iff.mp hdigits)

/-! ## On the command line -/

lemma outcome_codePoint (c : Char) (setting : Option String) :
    (outcome ["cpoint", String.singleton c] setting).exitCode = 0 ∧
      (outcome ["cpoint", String.singleton c] setting).stdout =
        String.ofList (formatChar c (some defaultWidth)) ++ "\n" := by
  have hargs : Invocation.ofArgs ["cpoint", String.singleton c] =
      .ok (.run (.codePoint (String.singleton c)) {}) := read_name _ _ (by decide)
  apply outcome_of_text hargs
  rw [Invocation.text, Command.output, String.toList_singleton]
  rfl

/-- Digits that are read as a character are the argument for which it is printed. -/
lemma outcome_character {digits : Text} {c : Char} (h : readChar digits = .ok c)
    (setting : Option String) :
    (outcome ["char", String.ofList digits] setting).exitCode = 0 ∧
      (outcome ["char", String.ofList digits] setting).stdout = String.singleton c ++ "\n" := by
  have hargs : Invocation.ofArgs ["char", String.ofList digits] =
      .ok (.run (.character (String.ofList digits)) {}) := read_name _ _ (by decide)
  apply outcome_of_text hargs
  rw [Invocation.text, Command.output, String.toList_ofList, h, String.singleton_eq_ofList]
  rfl

/-- A number is written in upper-case digits, no fewer than it has and no fewer than the width. It is read
back, as is the character that has it, unless the width is beyond what is read: then the text is refused.
The command that reads the code point of a character from the other command's line prints the character. -/
theorem code_points_read_back (width : Option ℕ) :
    (∀ n : UInt32,
      (∀ d ∈ format n width, d ∈ upperDigits) ∧
      (format n width).length = max (width.getD 0) (Nat.log 16 n.toNat + 1) ∧
      read (format n width) =
        if width.getD 0 ≤ 8 then .ok n
        else .error (.input (.notHexadecimal (format n width)))) ∧
    (∀ c : Char, readChar (formatChar c width) =
      if width.getD 0 ≤ 8 then .ok c
      else .error (.input (.notHexadecimal (formatChar c width)))) ∧
    ∀ (c : Char) (setting setting' : Option String), ∃ digits : String,
      (outcome ["cpoint", String.singleton c] setting).exitCode = 0 ∧
      (outcome ["cpoint", String.singleton c] setting).stdout = digits ++ "\n" ∧
      (outcome ["char", digits] setting').exitCode = 0 ∧
      (outcome ["char", digits] setting').stdout = String.singleton c ++ "\n" := by
  refine ⟨fun n => ⟨mem_upperDigits_of_mem_format, length_format, read_format⟩,
    fun c => readChar_formatChar, fun c setting setting' => ?_⟩
  have hwritten := outcome_codePoint c setting
  have hread : readChar (formatChar c (some defaultWidth)) = .ok c := readChar_formatChar
  have hprinted := outcome_character hread setting'
  exact ⟨_, hwritten.1, hwritten.2, hprinted.1, hprinted.2⟩

/-- Zeros are added up to the width, and with nine digits the text is refused. -/
example :
    format 0xB0 (some 4) = "00B0".toList ∧
      read (format 0xB0 (some 9)) = .error (.input (.notHexadecimal "0000000B0".toList)) := by
  decide

end LiteralRegex.CodePoint
