import LiteralRegex.Text.Basic

/-!
# Hexadecimal digits

Numbers are written with the fewest digits and padded with zeros on the left;
digits of either case are read. The digits of a number have that number as their
value, so padding and case never change what is read back.
-/

namespace LiteralRegex.Text.Hex

/-- The value of a digit of either case. -/
def digit? (c : Char) : Option Nat :=
  if '0' ≤ c ∧ c ≤ '9' then some (c.toNat - '0'.toNat)
  else if 'a' ≤ c ∧ c ≤ 'f' then some (c.toNat - 'a'.toNat + 10)
  else if 'A' ≤ c ∧ c ≤ 'F' then some (c.toNat - 'A'.toNat + 10)
  else none

/-- Holds of the 22 characters that are digits. -/
def isDigit (c : Char) : Bool := (digit? c).isSome

/-- The number that digits stand for, most significant digit first. A character that
is no digit counts as zero. -/
def value (digits : Text) : Nat :=
  digits.foldl (fun n c => 16 * n + (digit? c).getD 0) 0

/-- The number in lower-case digits, at least `width` of them. -/
def lower (width n : Nat) : Text := (Nat.toDigits 16 n).leftpad width '0'

/-- The number in upper-case digits, at least `width` of them. -/
def upper (width n : Nat) : Text := (lower width n).map Char.toUpper

/-! ## Digits by their numbers -/

/-- The three rows of digits, each with its values in order. -/
theorem digit?_eq_some_iff {c : Char} {n : Nat} :
    digit? c = some n ↔
      (0x30 ≤ c.toNat ∧ c.toNat ≤ 0x39 ∧ n = c.toNat - 0x30) ∨
      (0x61 ≤ c.toNat ∧ c.toNat ≤ 0x66 ∧ n = c.toNat - 0x61 + 10) ∨
      (0x41 ≤ c.toNat ∧ c.toNat ≤ 0x46 ∧ n = c.toNat - 0x41 + 10) := by
  unfold digit?
  simp only [char_le_iff, Char.reduceToNat]
  split
  · rw [Option.some.injEq]
    omega
  · split
    · rw [Option.some.injEq]
      omega
    · split
      · rw [Option.some.injEq]
        omega
      · simp only [reduceCtorEq, false_iff]
        omega

theorem digit?_lt {c : Char} {n : Nat} (h : digit? c = some n) : n < 16 := by
  rw [digit?_eq_some_iff] at h
  omega

/-! ## Reading what was written -/

theorem value_append_singleton (digits : Text) (c : Char) :
    value (digits ++ [c]) = 16 * value digits + (digit? c).getD 0 := by
  simp [value]

theorem digit?_digitChar {n : Nat} (h : n < 16) : digit? n.digitChar = some n := by
  revert n; decide

/-- Leading zeros do not change a value. -/
theorem value_leftpad (width : Nat) (digits : Text) :
    value (digits.leftpad width '0') = value digits := by
  have hzeros : ∀ k : Nat, (List.replicate k '0').foldl
      (fun n c => 16 * n + (digit? c).getD 0) 0 = 0 := by
    intro k
    induction k with
    | zero => rfl
    | succ k ih => simpa [List.replicate_succ, digit?] using ih
  simp [value, List.leftpad, List.foldl_append, hzeros]

theorem value_toDigits (n : Nat) : value (Nat.toDigits 16 n) = n := by
  induction n using Nat.strongRecOn with
  | ind n ih =>
    rw [Nat.toDigits_eq_if (by decide)]
    split
    · next h => simp [value, digit?_digitChar h]
    · next h =>
      rw [value_append_singleton, ih (n / 16) (by omega),
        digit?_digitChar (Nat.mod_lt _ (by decide))]
      simp only [Option.getD_some]
      omega

/-- Lower-case digits read back as the number they were written for. -/
theorem value_lower (width n : Nat) : value (lower width n) = n := by
  rw [lower, value_leftpad, value_toDigits]

/-! ## What is written consists of digits -/

theorem isDigit_digitChar {n : Nat} (h : n < 16) : isDigit n.digitChar := by
  simp [isDigit, digit?_digitChar h]

theorem isDigit_of_mem_toDigits {n : Nat} : ∀ c ∈ Nat.toDigits 16 n, isDigit c := by
  induction n using Nat.strongRecOn with
  | ind n ih =>
    rw [Nat.toDigits_eq_if (by decide)]
    split
    · next h => simpa using isDigit_digitChar h
    · next h =>
      intro c hc
      rcases List.mem_append.mp hc with hc | hc
      · exact ih (n / 16) (by omega) c hc
      · rw [List.mem_singleton.mp hc]
        exact isDigit_digitChar (Nat.mod_lt _ (by decide))

theorem isDigit_of_mem_lower {width n : Nat} : ∀ c ∈ lower width n, isDigit c := by
  intro c hc
  simp only [lower, List.leftpad, List.mem_append, List.mem_replicate] at hc
  rcases hc with ⟨_, rfl⟩ | hc
  · rfl
  · exact isDigit_of_mem_toDigits c hc

theorem lower_ne_nil (width n : Nat) : lower width n ≠ [] := by
  simp [lower, List.leftpad, Nat.toDigits_ne_nil]

end LiteralRegex.Text.Hex
