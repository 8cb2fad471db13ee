import LiteralRegex.Proofs.CharRange.Walk
import Mathlib.Data.List.Basic

/-!
# What a call does to a walk

A call for the next character passes over surrogates until it meets a character, and leaves the walk one
step behind it (`Cursor.next_eq_some`). The last number of a walk is that of a character, so a walk that has
not finished never misses one (`Cursor.next_eq_none_iff`).
-/

namespace LiteralRegex

namespace Cursor

open Unicode (IsSurrogate)

variable {r : CharRange} {cur : Cursor} {n : ℕ} {c : Char}

/-- The last number of a walk is no surrogate. -/
lemma Within.not_isSurrogate_last (hcur : cur.Within r) : ¬ IsSurrogate cur.last := by
  rw [hcur.last_eq]
  exact (Unicode.toNat_valid r.last).1

/-- Behind a number the walk stands one step on, if at all. -/
lemma eq_step_of_position_after {m : ℕ} (h : (cur.after n).position = some m) : cur.step n = m := by
  unfold Cursor.after at h
  dsimp only at h
  split at h
  · nomatch h
  · exact Option.some.inj h

lemma nextFrom_eq_some (h : (cur.nextFrom n).1 = some c) :
    (cur.nextFrom n).2 = cur.after c.toNat ∧
      if cur.descending then c.toNat ≤ n else n ≤ c.toNat := by
  fun_induction Cursor.nextFrom cur n with
  | case1 n d hd =>
    obtain rfl := Option.some.inj h
    obtain rfl := Unicode.scalar?_eq_some_iff.mp hd
    refine ⟨rfl, ?_⟩
    split <;> exact Nat.le_refl _
  | case2 n hnone hgo ih =>
    obtain ⟨hbehind, hside⟩ := ih h
    refine ⟨hbehind, ?_⟩
    unfold step at hside
    split
    · next hd =>
      rw [if_pos hd, if_pos hd] at hside
      omega
    · next hd =>
      rw [if_neg hd, if_neg hd] at hside
      omega
  | case3 n hnone hstop => exact absurd h.symm (Option.some_ne_none c)

/-- From inside a range a character is always found. -/
lemma nextFrom_ne_none (hcur : cur.Within r) (hn : r.Spans n) : (cur.nextFrom n).1 ≠ none := by
  fun_induction Cursor.nextFrom cur n with
  | case1 n d hd => exact Option.some_ne_none d
  | case2 n hnone hgo ih => exact ih (hcur.spans_step hn hgo.2)
  | case3 n hnone hstop =>
    -- a number without a character is a surrogate here, and the last number is none
    rcases Unicode.scalar?_eq_none_iff.mp hnone with hsurrogate | hbeyond
    · have hne : n ≠ cur.last := by
        intro heq
        exact hcur.not_isSurrogate_last (heq ▸ hsurrogate)
      exact absurd ⟨hsurrogate, hne⟩ hstop
    · exact absurd (le_of_spans hn) (Nat.not_le_of_lt hbeyond)

/-- The character is found ahead of the walk, which then stands one step behind it. -/
lemma next_eq_some (h : cur.next.1 = some c) :
    ∃ n, cur.position = some n ∧ cur.next.2 = cur.after c.toNat ∧
      if cur.descending then c.toNat ≤ n else n ≤ c.toNat := by
  cases hposition : cur.position with
  | none =>
    rw [next_of_position_eq_none hposition] at h
    nomatch h
  | some n =>
    rw [next_of_position_eq_some hposition] at h ⊢
    exact ⟨n, rfl, nextFrom_eq_some h⟩

lemma next_eq_none_iff (hcur : cur.Within r) : cur.next.1 = none ↔ cur.position = none := by
  cases hposition : cur.position with
  | none =>
    rw [next_of_position_eq_none hposition]
    exact iff_of_true rfl rfl
  | some n =>
    rw [next_of_position_eq_some hposition]
    exact iff_of_false (nextFrom_ne_none hcur (hcur.spans n hposition)) (Option.some_ne_none n)

end Cursor

end LiteralRegex
