import LiteralRegex.Text.Hex
import Mathlib

/-!
# The digits of a number

Hexadecimal digits stand in a row in the order of their values, once in lower and once in upper case. The
value of a text is the number whose base-16 digits are the places of its characters in the row
(`value_eq_baseValue`), so texts of one length that are in upper case differ in value if they differ at all
(`eq_of_value_eq`). What is written for a number is in upper case and never shorter than its digits
(`length_upper`).
-/

namespace LiteralRegex.Text.Hex

/-! ## The rows of digits -/

/-- The digits in the order of their values. -/
def lowerDigits : Text := "0123456789abcdef".toList

/-- The digits in upper case, in the order of their values. -/
def upperDigits : Text := "0123456789ABCDEF".toList

/-- The place of a digit in the row of its case. -/
def digitValue (c : Char) : ℕ := lowerDigits.idxOf c.toLower

/-- The number whose base-16 digits are the characters of a text, the last one of the least value. -/
def baseValue (digits : Text) : ℕ := Nat.ofDigits 16 (digits.reverse.map digitValue)

/-- The characters of both rows are digits and there are no others. -/
lemma isDigit_iff_mem {c : Char} : isDigit c ↔ c ∈ lowerDigits ++ upperDigits := by
  constructor
  · intro h
    obtain ⟨n, hn⟩ := Option.isSome_iff_exists.mp h
    rw [digit?_eq_some_iff] at hn
    have hrows : (lowerDigits ++ upperDigits).map Char.toNat =
        List.range' 0x30 10 ++ List.range' 0x61 6 ++
          (List.range' 0x30 10 ++ List.range' 0x41 6) := by decide
    have hmem : c.toNat ∈ (lowerDigits ++ upperDigits).map Char.toNat := by
      simp only [hrows, List.mem_append, List.mem_range'_1]
      omega
    obtain ⟨d, hd, hdc⟩ := List.mem_map.mp hmem
    rw [← Char.toNat_inj.mp hdc]
    exact hd
  · intro h
    have hrows : (lowerDigits ++ upperDigits).all (isDigit ·) := by decide
    exact List.all_eq_true.mp hrows c h

/-- What holds of the characters of both rows holds of every digit. -/
lemma of_isDigit {p : Char → Bool} (hrows : (lowerDigits ++ upperDigits).all p) {c : Char}
    (h : isDigit c) : p c :=
  List.all_eq_true.mp hrows c (isDigit_iff_mem.mp h)

lemma digit?_eq_digitValue {c : Char} (h : isDigit c) : digit? c = some (digitValue c) := by
  apply of_decide_eq_true
  exact of_isDigit (p := fun d => digit? d = some (digitValue d)) (by decide) h

lemma digit?_toUpper {c : Char} (h : isDigit c) : digit? c.toUpper = digit? c := by
  apply of_decide_eq_true
  exact of_isDigit (p := fun d => digit? d.toUpper = digit? d) (by decide) h

lemma toUpper_mem_upperDigits {c : Char} (h : isDigit c) : c.toUpper ∈ upperDigits := by
  apply List.contains_iff_mem.mp
  exact of_isDigit (p := fun d => upperDigits.contains d.toUpper) (by decide) h

lemma digitValue_lt {c : Char} (h : isDigit c) : digitValue c < 16 :=
  digit?_lt (digit?_eq_digitValue h)

lemma isDigit_of_mem_upperDigits {c : Char} (h : c ∈ upperDigits) : isDigit c :=
  isDigit_iff_mem.mpr (List.mem_append_right _ h)

/-- A digit in upper case is the one that is written for its value. -/
lemma toUpper_digitChar_digitValue {c : Char} (h : c ∈ upperDigits) :
    (digitValue c).digitChar.toUpper = c := by
  have hrow : upperDigits.all fun d => (digitValue d).digitChar.toUpper = d := by decide
  exact of_decide_eq_true (List.all_eq_true.mp hrow c h)

/-! ## Values -/

section Value

variable {digits : Text}

/-- Adding digit by digit gives the number that the digits stand for. -/
lemma value_eq_baseValue (h : ∀ c ∈ digits, isDigit c) : value digits = baseValue digits := by
  induction digits using List.reverseRecOn with
  | nil => rfl
  | append_singleton digits c ih =>
    have hc : digit? c = some (digitValue c) := digit?_eq_digitValue (h c (by simp))
    have hfront : value digits = baseValue digits :=
      ih fun d hd => h d (List.mem_append_left _ hd)
    rw [value_append_singleton, hc, hfront, baseValue, baseValue, List.reverse_append,
      List.map_append, List.reverse_singleton, List.map_singleton, List.singleton_append,
      Nat.ofDigits_cons, Option.getD_some, Nat.add_comm]

/-- Upper case does not change a value. -/
lemma value_map_toUpper (h : ∀ c ∈ digits, isDigit c) :
    value (digits.map Char.toUpper) = value digits := by
  induction digits using List.reverseRecOn with
  | nil => rfl
  | append_singleton digits c ih =>
    have hfront := ih fun d hd => h d (List.mem_append_left _ hd)
    rw [List.map_append, List.map_singleton, value_append_singleton, value_append_singleton,
      hfront, digit?_toUpper (h c (by simp))]

/-- Digits in upper case are known from their number and their value. -/
lemma eq_of_value_eq {a b : Text} (ha : ∀ c ∈ a, c ∈ upperDigits) (hb : ∀ c ∈ b, c ∈ upperDigits)
    (hlength : a.length = b.length) (hvalue : value a = value b) : a = b := by
  have hdigits {text : Text} (h : ∀ c ∈ text, c ∈ upperDigits) : ∀ c ∈ text, isDigit c :=
    fun c hc => isDigit_of_mem_upperDigits (h c hc)
  have hlt {text : Text} (h : ∀ c ∈ text, c ∈ upperDigits) :
      ∀ n ∈ text.reverse.map digitValue, n < 16 := by
    intro n hn
    obtain ⟨c, hc, rfl⟩ := List.mem_map.mp hn
    exact digitValue_lt (hdigits h c (List.mem_reverse.mp hc))
  -- what is written for the values is the text itself
  have hwritten {text : Text} (h : ∀ c ∈ text, c ∈ upperDigits) :
      (text.map digitValue).map (fun n => n.digitChar.toUpper) = text := by
    rw [List.map_map, List.map_congr_left (g := id), List.map_id]
    exact fun c hc => toUpper_digitChar_digitValue (h c hc)
  rw [value_eq_baseValue (hdigits ha), value_eq_baseValue (hdigits hb)] at hvalue
  have hvalues : a.reverse.map digitValue = b.reverse.map digitValue :=
    Nat.ofDigits_inj_of_len_eq (by decide) (by simpa using hlength) (hlt ha) (hlt hb) hvalue
  rw [List.map_reverse, List.map_reverse, List.reverse_inj] at hvalues
  rw [← hwritten ha, hvalues, hwritten hb]

end Value

/-! ## What is written -/

variable {width n : ℕ}

/-- The digits of a number are one more than its logarithm. -/
lemma length_toDigits : (Nat.toDigits 16 n).length = Nat.log 16 n + 1 := by
  apply Nat.le_antisymm
  · rw [Nat.length_toDigits_le_iff (by decide) (Nat.succ_pos _)]
    exact Nat.lt_pow_succ_log_self (by decide) n
  · have hpos : 0 < (Nat.toDigits 16 n).length := Nat.length_toDigits_pos
    have hlt : n < 16 ^ (Nat.toDigits 16 n).length :=
      (Nat.length_toDigits_le_iff (by decide) hpos).mp (Nat.le_refl _)
    exact Nat.log_lt_of_lt_pow' (Nat.ne_of_gt hpos) hlt

lemma length_lower : (lower width n).length = max width (Nat.log 16 n + 1) := by
  rw [lower, List.length_leftpad, length_toDigits]

lemma length_upper : (upper width n).length = max width (Nat.log 16 n + 1) := by
  rw [upper, List.length_map, length_lower]

lemma mem_upperDigits_of_mem_upper : ∀ c ∈ upper width n, c ∈ upperDigits := by
  intro c hc
  obtain ⟨d, hd, rfl⟩ := List.mem_map.mp hc
  exact toUpper_mem_upperDigits (isDigit_of_mem_lower d hd)

/-- Upper-case digits read back as the number they were written for. -/
lemma value_upper : value (upper width n) = n := by
  rw [upper, value_map_toUpper isDigit_of_mem_lower, value_lower]

end LiteralRegex.Text.Hex
