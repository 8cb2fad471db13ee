import LiteralRegex.Proofs.Text.Utf8
import LiteralRegex.Text.Comparison
import LiteralRegex.Text.Order
import LiteralRegex.Unicode.Scalar
import Mathlib

/-!
# Bytes are in the order of characters

UTF-8 spreads the number of a character over a lead byte and the low six bits of the bytes after it, most
significant bits first, and a character with more bytes has a greater lead byte. So the first byte in which
two characters differ tells which number is smaller, whatever stands behind
(`compareLex_utf8EncodeChar_append`). Texts follow by their common front (`compareBytes_eq_compareNumbers`).
-/

namespace LiteralRegex

/-! ## Lexicographic comparison -/

section Lexicographic

variable {α : Type} {cmp : α → α → Ordering}

lemma compareLex_cons_of_lt {x y : α} (h : cmp x y = .lt) (a b : List α) :
    List.compareLex cmp (x :: a) (y :: b) = .lt := by
  rw [List.compareLex_cons_cons, h]
  rfl

/-- A common front does not count. -/
lemma compareLex_append_left (hself : ∀ x, cmp x x = .eq) (front a b : List α) :
    List.compareLex cmp (front ++ a) (front ++ b) = List.compareLex cmp a b := by
  induction front with
  | nil => rfl
  | cons x front ih =>
    rw [List.cons_append, List.cons_append, List.compareLex_cons_cons, hself, ih]
    rfl

/-- The comparison finds the lexicographic order of the list. -/
lemma compareLex_eq_lt_iff [LT α] (hlt : ∀ x y, cmp x y = .lt ↔ x < y)
    (heq : ∀ x y, cmp x y = .eq ↔ x = y) {a b : List α} :
    List.compareLex cmp a b = .lt ↔ a < b := by
  induction a generalizing b with
  | nil =>
    cases b with
    | nil => simp [List.compareLex_nil_nil]
    | cons y b => simp [List.compareLex_nil_cons]
  | cons x a ih =>
    cases b with
    | nil => simp [List.compareLex_cons_nil]
    | cons y b =>
      rw [List.compareLex_cons_cons, List.cons_lt_cons_iff, Ordering.then_eq_lt, hlt, heq, ih]

end Lexicographic

namespace Text

/-! ## Characters -/

/-- A number in a lead byte and `k` bytes after it. -/
def spread (mark : ℕ) : ℕ → ℕ → List UInt8
  | 0, n => [UInt8.ofNat (mark + n)]
  | k + 1, n => spread mark k (n / 64) ++ [UInt8.ofNat (n % 64 + 128)]

/-- How many bytes stand behind the lead byte of a character. -/
def trailing (n : ℕ) : ℕ :=
  if n ≤ 0x7F then 0 else if n ≤ 0x7FF then 1 else if n ≤ 0xFFFF then 2 else 3

/-- What tells in a lead byte how many bytes follow. -/
def leadMark : ℕ → ℕ
  | 0 => 0
  | 1 => 0xC0
  | 2 => 0xE0
  | _ => 0xF0

lemma utf8EncodeChar_eq_spread (c : Char) :
    String.utf8EncodeChar c = spread (leadMark (trailing c.toNat)) (trailing c.toNat) c.toNat := by
  have hbound : c.toNat ≤ 0x10FFFF := (Unicode.toNat_valid c).2
  have hval : c.val.toNat = c.toNat := rfl
  unfold String.utf8EncodeChar trailing
  dsimp only
  rw [hval]
  -- what is left for the lead byte fits into it, so its remainder is the number itself
  split_ifs with hone htwo hthree
  · simp [spread, leadMark]
  · have hlead : c.toNat / 64 % 32 = c.toNat / 64 := by omega
    simp [spread, leadMark, hlead, Nat.add_comm]
  · have hlead : c.toNat / 4096 % 16 = c.toNat / 64 / 64 := by omega
    simp [spread, leadMark, hlead, Nat.add_comm]
  · have hlead : c.toNat / 262144 % 8 = c.toNat / 64 / 64 / 64 := by omega
    have hsecond : c.toNat / 4096 % 64 = c.toNat / 64 / 64 % 64 := by omega
    simp [spread, leadMark, hlead, hsecond, Nat.add_comm]

lemma compare_ofNat {m n : ℕ} (h : m < n) (hn : n < 256) :
    compare (UInt8.ofNat m) (UInt8.ofNat n) = .lt := by
  rw [Std.compare_eq_lt, UInt8.lt_iff_toNat_lt, UInt8.toNat_ofNat_of_lt' (h.trans hn),
    UInt8.toNat_ofNat_of_lt' hn]
  exact h

/-- The lead byte holds what is left of the number above the bits of the other bytes. -/
lemma exists_spread_eq_cons (mark k n : ℕ) :
    ∃ rest, spread mark k n = UInt8.ofNat (mark + n / 64 ^ k) :: rest := by
  induction k generalizing n with
  | zero => exact ⟨[], by rw [spread, pow_zero, Nat.div_one]⟩
  | succ k ih =>
    obtain ⟨rest, hrest⟩ := ih (n / 64)
    rw [spread, hrest, Nat.div_div_eq_div_mul, ← pow_succ']
    exact ⟨_, rfl⟩

/-- Of numbers in equally many bytes the smaller one comes first. -/
lemma compareLex_spread_append {mark k m n : ℕ} (h : m < n) (hn : mark + n / 64 ^ k < 256)
    (x y : List UInt8) :
    List.compareLex compare (spread mark k m ++ x) (spread mark k n ++ y) = .lt := by
  induction k generalizing m n x y with
  | zero =>
    rw [pow_zero, Nat.div_one] at hn
    exact compareLex_cons_of_lt (compare_ofNat (by omega) hn) x y
  | succ k ih =>
    rw [pow_succ', ← Nat.div_div_eq_div_mul] at hn
    rw [spread, spread, List.append_assoc, List.append_assoc]
    by_cases hhigh : m / 64 < n / 64
    · exact ih hhigh hn _ _
    · -- the bytes in front are the same, and the last one differs
      have heq : m / 64 = n / 64 := by omega
      rw [heq, compareLex_append_left fun b => Std.ReflCmp.compare_self]
      exact compareLex_cons_of_lt (compare_ofNat (by omega) (by omega)) x y

/-- A lead byte is a byte. -/
lemma leadMark_add_lt {n : ℕ} (h : n ≤ 0x10FFFF) :
    leadMark (trailing n) + n / 64 ^ trailing n < 256 := by
  unfold trailing
  split_ifs
  all_goals
    simp only [leadMark]
    omega

/-- With more bytes behind it, a lead byte is greater. -/
lemma leadMark_add_lt_of_ne {m n : ℕ} (h : m < n) (hm : m ≤ 0x10FFFF)
    (hne : trailing m ≠ trailing n) :
    leadMark (trailing m) + m / 64 ^ trailing m < leadMark (trailing n) + n / 64 ^ trailing n := by
  unfold trailing at *
  split_ifs at *
  all_goals
    simp only [leadMark]
    omega

/-- The bytes of a character come before those of a character with a greater number, whatever stands
behind them. -/
lemma compareLex_utf8EncodeChar_append {c d : Char} (h : c.toNat < d.toNat) (x y : List UInt8) :
    List.compareLex compare (String.utf8EncodeChar c ++ x) (String.utf8EncodeChar d ++ y) = .lt := by
  have hbyte := leadMark_add_lt (Unicode.toNat_valid d).2
  rw [utf8EncodeChar_eq_spread, utf8EncodeChar_eq_spread]
  by_cases heq : trailing c.toNat = trailing d.toNat
  · rw [heq]
    exact compareLex_spread_append h hbyte x y
  · have hlead := leadMark_add_lt_of_ne h (Unicode.toNat_valid c).2 heq
    obtain ⟨restc, hc⟩ := exists_spread_eq_cons (leadMark (trailing c.toNat)) (trailing c.toNat) c.toNat
    obtain ⟨restd, hd⟩ := exists_spread_eq_cons (leadMark (trailing d.toNat)) (trailing d.toNat) d.toNat
    rw [hc, hd]
    exact compareLex_cons_of_lt (compare_ofNat hlead hbyte) _ _

/-! ## Texts -/

/-- Comparing bytes is comparing numbers. -/
theorem compareBytes_eq_compareNumbers (a b : Text) : compareBytes a b = compareNumbers a b := by
  unfold compareBytes compareNumbers
  induction a generalizing b with
  | nil =>
    cases b with
    | nil => rfl
    | cons d b =>
      obtain ⟨lead, rest, hbytes, _⟩ := utf8EncodeChar_eq_cons d
      rw [utf8_nil, utf8_cons, hbytes]
      rfl
  | cons c a ih =>
    cases b with
    | nil =>
      obtain ⟨lead, rest, hbytes, _⟩ := utf8EncodeChar_eq_cons c
      rw [utf8_nil, utf8_cons, hbytes]
      rfl
    | cons d b =>
      rw [utf8_cons, utf8_cons, List.compareLex_cons_cons]
      rcases Nat.lt_trichotomy c.toNat d.toNat with hlt | heq | hgt
      · rw [compareLex_utf8EncodeChar_append hlt, Nat.compare_eq_lt.mpr hlt]
        rfl
      · obtain rfl := Char.toNat_inj.mp heq
        rw [compareLex_append_left fun b => Std.ReflCmp.compare_self, ih, Nat.compare_eq_eq.mpr rfl]
        rfl
      · have hlater : List.compareLex compare (String.utf8EncodeChar c ++ utf8 a)
            (String.utf8EncodeChar d ++ utf8 b) = .gt :=
          Std.OrientedCmp.gt_iff_lt.mpr (compareLex_utf8EncodeChar_append hgt _ _)
        rw [hlater, Nat.compare_eq_gt.mpr hgt]
        rfl

/-- Beyond U+FFFF a character has four bytes, and greater ones than all characters below. -/
example : compareBytes ['\uffff'] ['🐶'] = .lt := by decide

lemma compareNumbers_eq_lt_iff {a b : Text} : compareNumbers a b = .lt ↔ a < b :=
  compareLex_eq_lt_iff (fun _ _ => by rw [Nat.compare_eq_lt, char_lt_iff])
    fun _ _ => by rw [Nat.compare_eq_eq, Char.toNat_inj]

/-- Texts are the same when no number tells them apart. -/
lemma compareNumbers_eq_eq_iff {a b : Text} : compareNumbers a b = .eq ↔ a = b := by
  have : Std.LawfulEqCmp fun c d : Char => compare c.toNat d.toNat := {
    compare_self := Nat.compare_eq_eq.mpr rfl
    eq_of_compare := fun h => Char.toNat_inj.mp (Nat.compare_eq_eq.mp h) }
  rw [compareNumbers]
  exact Std.LawfulEqCmp.compare_eq_iff_eq

lemma compareBytes_eq_lt_iff {a b : Text} : compareBytes a b = .lt ↔ a.utf8 < b.utf8 :=
  compareLex_eq_lt_iff (fun _ _ => Std.compare_eq_lt) fun _ _ => Std.LawfulEqCmp.compare_eq_iff_eq

lemma compareNumbers_swap (a b : Text) : compareNumbers a b = (compareNumbers b a).swap := by
  -- that the arguments may be swapped is known of bytes
  rw [← compareBytes_eq_compareNumbers, ← compareBytes_eq_compareNumbers]
  show List.compareLex compare a.utf8 b.utf8 = (List.compareLex compare b.utf8 a.utf8).swap
  exact Std.OrientedCmp.eq_swap

lemma compareNumbers_ne_gt_iff {a b : Text} : compareNumbers a b ≠ .gt ↔ List.le a b := by
  rw [compareNumbers_swap, Ne, Ordering.swap_eq_gt, compareNumbers_eq_lt_iff]

end Text

end LiteralRegex
