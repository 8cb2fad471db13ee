import LiteralRegex.Proofs.CodePoint.RoundTrip
import LiteralRegex.Proofs.Report
import LiteralRegex.Text.Hex.Word
import Mathlib

/-!
# The grammar of code points

A code point is one to eight digits in any mix of cases. The general reader of words would take more, a
sign or any number of zeros in front, but it never fails on such digits (`readWord_of_read`): eight of
them stay below 32 bits. Texts that differ in case or in zeros in front have one canonical form, which is
what is written for their number (`format_of_read`).
-/

namespace LiteralRegex

/-! ## Words -/

namespace Text.Hex

variable {digits : Text}

/-- Digits whose value is a word are read as that word. -/
lemma foldlM_appendDigit {n : UInt32} (h : ∀ c ∈ digits, isDigit c) (hn : n.toNat = value digits) :
    digits.foldlM appendDigit 0 = .ok n := by
  induction digits using List.reverseRecOn generalizing n with
  | nil =>
    obtain rfl : n = 0 := UInt32.toNat_inj.mp hn
    rfl
  | append_singleton digits c ih =>
    have hc : digit? c = some (digitValue c) := digit?_eq_digitValue (h c (by simp))
    rw [value_append_singleton, hc, Option.getD_some] at hn
    -- the digits in front have a smaller value, which is a word as well
    have hlt : value digits < UInt32.size := by
      have := n.toNat_lt_size
      omega
    have hfront : digits.foldlM appendDigit 0 = .ok (.ofNatLT (value digits) hlt) :=
      ih (fun d hd => h d (List.mem_append_left _ hd)) UInt32.toNat_ofNatLT
    have hlast : appendDigit (.ofNatLT (value digits) hlt) c = .ok n :=
      appendDigit_eq_ok hc (by rw [hn, UInt32.toNat_ofNatLT])
    rw [List.foldlM_append, bind_eq_ok_iff]
    refine ⟨_, hfront, ?_⟩
    rw [List.foldlM_cons, bind_eq_ok_iff]
    exact ⟨n, hlast, rfl⟩

/-- Where there is no sign, digits are all that is read. -/
lemma readWord_eq_foldlM (hne : digits ≠ []) (h : ∀ c ∈ digits, isDigit c) :
    readWord digits = digits.foldlM appendDigit 0 := by
  unfold readWord
  split
  · exact absurd rfl hne
  · exact absurd (h '+' List.mem_cons_self) (by decide)
  · rfl

end Text.Hex

namespace CodePoint

open Text.Hex (lowerDigits upperDigits baseValue readWord)

variable {text : Text}

lemma isDigits_iff :
    IsDigits text ↔
      1 ≤ text.length ∧ text.length ≤ 8 ∧ ∀ c ∈ text, c ∈ lowerDigits ∨ c ∈ upperDigits := by
  rw [IsDigits, List.all_eq_true, and_assoc]
  simp only [Text.Hex.isDigit_iff_mem, List.mem_append]

lemma IsDigits.isDigit (h : IsDigits text) : ∀ c ∈ text, Text.Hex.isDigit c :=
  List.all_eq_true.mp h.2

/-- The general reader of words agrees on all code points. -/
lemma readWord_of_read {n : UInt32} (h : read text = .ok n) : readWord text = .ok n := by
  obtain ⟨hdigits, hn⟩ := read_eq_ok_iff.mp h
  rw [Text.Hex.readWord_eq_foldlM (List.ne_nil_of_length_pos hdigits.1.1) hdigits.isDigit]
  exact Text.Hex.foldlM_appendDigit hdigits.isDigit hn

/-- The canonical form is in upper case and padded with zeros to the default width. -/
lemma format_of_read {n : UInt32} (h : read text = .ok n) :
    format n (some defaultWidth) = (text.map Char.toUpper).leftpad defaultWidth '0' := by
  obtain ⟨hdigits, hn⟩ := read_eq_ok_iff.mp h
  have hupper : ∀ d ∈ (text.map Char.toUpper).leftpad defaultWidth '0', d ∈ upperDigits := by
    intro d hd
    rcases List.mem_append.mp hd with hzero | hd
    · rw [(List.mem_replicate.mp hzero).2]
      decide
    · obtain ⟨c, hc, rfl⟩ := List.mem_map.mp hd
      exact Text.Hex.toUpper_mem_upperDigits (hdigits.isDigit c hc)
  apply Text.Hex.eq_of_value_eq mem_upperDigits_of_mem_format hupper
  · -- both are as long as the width
    have hlength := hdigits.1.2
    have hlog := log_toNat_lt n
    rw [length_format, List.length_leftpad, List.length_map, Option.getD_some, defaultWidth]
    omega
  · rw [format, Text.Hex.value_upper, Text.Hex.value_leftpad,
      Text.Hex.value_map_toUpper hdigits.isDigit, hn]

/-! ## Characters -/

lemma readChar_eq_ok_iff_read {c : Char} :
    readChar text = .ok c ↔ ∃ n, read text = .ok n ∧ n.toNat = c.toNat := by
  rw [readChar_eq_ok_iff]
  constructor
  · rintro ⟨hdigits, hvalue⟩
    exact ⟨c.val, read_eq_ok_iff.mpr ⟨hdigits, hvalue.symm⟩, rfl⟩
  · rintro ⟨n, hn, hc⟩
    obtain ⟨hdigits, hvalue⟩ := read_eq_ok_iff.mp hn
    exact ⟨hdigits, hvalue.symm.trans hc⟩

/-- No character is read where no number is, and where the number belongs to none. -/
lemma readChar_eq_error_iff_read {e : Error} :
    readChar text = .error e ↔
      read text = .error e ∨
      (∃ n, read text = .ok n ∧ (Unicode.IsSurrogate n.toNat ∨ 0x10FFFF < n.toNat)) ∧
        e = .input (.notScalarValue text) := by
  rw [readChar_eq_error_iff, read_eq_error_iff, Unicode.scalar?_eq_none_iff]
  simp only [read_eq_ok_iff]
  apply or_congr_right
  constructor
  · rintro ⟨hdigits, hnone, he⟩
    exact ⟨⟨.ofNatLT _ (value_lt_size hdigits), ⟨hdigits, UInt32.toNat_ofNatLT⟩, hnone⟩, he⟩
  · rintro ⟨⟨n, ⟨hdigits, hn⟩, hnone⟩, he⟩
    rw [hn] at hnone
    exact ⟨hdigits, hnone, he⟩

/-- A text is read when it is one to eight digits of either case, and then it is read as their value in
base 16. This is a word, which the general reader finds as well, so the only refusal is that of the
grammar. What is written for the number is the text in upper case with zeros in front. A character is read
when a number is read that it has, and otherwise the number is refused or belongs to no character. -/
theorem code_point_grammar (text : Text) :
    ((∃ n, read text = .ok n) ↔
      1 ≤ text.length ∧ text.length ≤ 8 ∧ ∀ c ∈ text, c ∈ lowerDigits ∨ c ∈ upperDigits) ∧
    (∀ n, read text = .ok n →
      n.toNat = baseValue text ∧ baseValue text < 2 ^ 32 ∧ readWord text = .ok n ∧
      format n (some defaultWidth) = (text.map Char.toUpper).leftpad 8 '0') ∧
    (∀ e, read text = .error e → e = .input (.notHexadecimal text)) ∧
    (∀ c, readChar text = .ok c ↔ ∃ n, read text = .ok n ∧ n.toNat = c.toNat) ∧
    ∀ e, readChar text = .error e ↔
      read text = .error e ∨
      (∃ n, read text = .ok n ∧ (Unicode.IsSurrogate n.toNat ∨ 0x10FFFF < n.toNat)) ∧
        e = .input (.notScalarValue text) := by
  refine ⟨?_, fun n hn => ?_, fun e he => (read_eq_error_iff.mp he).2,
    fun c => readChar_eq_ok_iff_read, fun e => readChar_eq_error_iff_read⟩
  · rw [← isDigits_iff]
    constructor
    · rintro ⟨n, hn⟩
      exact (read_eq_ok_iff.mp hn).1
    · intro hdigits
      exact ⟨_, read_of_isDigits hdigits⟩
  · obtain ⟨hdigits, hvalue⟩ := read_eq_ok_iff.mp hn
    rw [Text.Hex.value_eq_baseValue hdigits.isDigit] at hvalue
    exact ⟨hvalue, hvalue ▸ n.toNat_lt, readWord_of_read hn, format_of_read hn⟩

/-- Both cases and a zero in front are read, and a sign is refused although it could stand in front of a
word. -/
theorem code_point_grammar_mixed :
    read "0fE".toList = .ok 0xFE ∧
    (0xFE : UInt32).toNat = baseValue "0fE".toList ∧
    baseValue "0fE".toList < 2 ^ 32 ∧
    readWord "0fE".toList = .ok 0xFE ∧
    format 0xFE (some defaultWidth) = ("0fE".toList.map Char.toUpper).leftpad 8 '0' ∧
    readWord "+41".toList = .ok 0x41 ∧
    ∃ e, read "+41".toList = .error e ∧ e = .input (.notHexadecimal "+41".toList) := by
  have hread : read "0fE".toList = .ok 0xFE := by decide
  have hrefused : read "+41".toList = .error (.input (.notHexadecimal "+41".toList)) := by decide
  obtain ⟨-, hvalue, -⟩ := code_point_grammar "0fE".toList
  obtain ⟨-, -, herror, -⟩ := code_point_grammar "+41".toList
  obtain ⟨hn, hlt, hword, hformat⟩ := hvalue 0xFE hread
  exact ⟨hread, hn, hlt, hword, hformat, by decide, _, hrefused, herror _ hrefused⟩

end CodePoint

end LiteralRegex
