import LiteralRegex.ClassBody.Run
import Mathlib.Tactic.Common

/-!
# Runs of a set of characters

The runs of some characters cover the numbers of the characters and no others: a new
character is in the head run already, extends it by one number, or opens a run of its own.

The characters come in ascending order, so a run that is opened ends below the number in
front of the head: the runs stand in order and apart (`pairwise_before_charRuns`). What is
covered by one of them ends where the run ends.
-/

namespace LiteralRegex

/-! ## What runs cover -/

/-- Holds of the numbers from the first to the last character of the run. -/
def CharRun.Covers (r : CharRun) (n : ℕ) : Prop := r.first.toNat ≤ n ∧ n ≤ r.last.toNat

instance (r : CharRun) (n : ℕ) : Decidable (r.Covers n) := inferInstanceAs (Decidable (_ ∧ _))

lemma CharRun.toNat_first_le (r : CharRun) : r.first.toNat ≤ r.last.toNat :=
  char_le_iff.mp r.first_le_last

lemma CharRun.covers_single {c : Char} {n : ℕ} : (CharRun.single c).Covers n ↔ n = c.toNat := by
  unfold CharRun.Covers CharRun.single
  dsimp only
  omega

/-- A character before some runs adds its own number to those covered. -/
lemma CharRun.exists_covers_cons {c : Char} {runs : List CharRun} {n : ℕ} :
    (∃ r ∈ CharRun.cons c runs, r.Covers n) ↔ n = c.toNat ∨ ∃ r ∈ runs, r.Covers n := by
  cases runs with
  | nil => simp [CharRun.cons, CharRun.covers_single]
  | cons head rest =>
    rw [CharRun.cons]
    by_cases hfirst : c = head.first
    · -- the head begins with the character already
      have hcovers : n = c.toNat → head.Covers n := by
        intro hn
        rw [hn, hfirst]
        exact ⟨Nat.le_refl _, head.toNat_first_le⟩
      rw [if_pos hfirst]
      simp only [List.mem_cons, exists_eq_or_imp]
      tauto
    · rw [if_neg hfirst]
      by_cases hnext : c.toNat + 1 = head.first.toNat
      · -- the character stands right before the head and becomes its first number
        have hcovers : c.toNat ≤ n ∧ n ≤ head.last.toNat ↔ n = c.toNat ∨ head.Covers n := by
          have hhead := head.toNat_first_le
          unfold CharRun.Covers
          omega
        rw [dif_pos hnext]
        simp only [List.mem_cons, exists_eq_or_imp]
        rw [← or_assoc, ← hcovers]
        rfl
      · -- anywhere else it is a run by itself
        rw [dif_neg hnext]
        simp only [List.mem_cons, exists_eq_or_imp, CharRun.covers_single]

/-- In whatever order characters are put before one another, the runs cover them. -/
lemma CharRun.exists_covers_foldr_cons {chars : List Char} {n : ℕ} :
    (∃ r ∈ chars.foldr CharRun.cons [], r.Covers n) ↔ ∃ c ∈ chars, c.toNat = n := by
  induction chars with
  | nil => simp
  | cons c chars ih =>
    rw [List.foldr_cons, CharRun.exists_covers_cons, ih]
    simp [eq_comm]

/-- The runs of some characters cover the numbers of the characters. -/
lemma exists_covers_charRuns {chars : List Char} {n : ℕ} :
    (∃ r ∈ charRuns chars, r.Covers n) ↔ ∃ c ∈ chars, c.toNat = n := by
  have hmem : ∀ c, c ∈ chars.mergeSort (decide <| · ≤ ·) ↔ c ∈ chars := by
    intro c
    exact (List.mergeSort_perm chars _).mem_iff
  rw [charRuns, CharRun.exists_covers_foldr_cons]
  simp only [hmem]

/-! ## Runs stand apart -/

/-- Holds when the first run ends in front of the second, with a number between them. -/
def CharRun.Before (r r' : CharRun) : Prop := r.last.toNat + 1 < r'.first.toNat

/-- A character that stands in front of some runs, or begins the first of them, leaves them in
order and apart. -/
lemma CharRun.pairwise_before_cons {c : Char} {runs : List CharRun}
    (hruns : runs.Pairwise CharRun.Before) (hc : ∀ r ∈ runs, c.toNat ≤ r.first.toNat) :
    (CharRun.cons c runs).Pairwise CharRun.Before := by
  cases runs with
  | nil => exact List.pairwise_singleton _ _
  | cons head rest =>
    obtain ⟨hhead, hrest⟩ := List.pairwise_cons.mp hruns
    rw [CharRun.cons]
    by_cases hfirst : c = head.first
    · rwa [if_pos hfirst]
    · rw [if_neg hfirst]
      by_cases hnext : c.toNat + 1 = head.first.toNat
      · -- only the first character of the head changes, and its end stays apart
        rw [dif_pos hnext]
        exact List.pairwise_cons.mpr ⟨hhead, hrest⟩
      · rw [dif_neg hnext]
        have hle := hc head List.mem_cons_self
        have hne : c.toNat ≠ head.first.toNat := fun h => hfirst (Char.toNat_inj.mp h)
        have hbefore : (CharRun.single c).Before head := by
          unfold CharRun.Before CharRun.single
          dsimp only
          omega
        refine List.pairwise_cons.mpr ⟨fun r hr => ?_, hruns⟩
        rcases List.mem_cons.mp hr with rfl | hr
        · exact hbefore
        · -- later runs begin behind the head
          have hlater : head.Before r := hhead r hr
          have hlength := head.toNat_first_le
          unfold CharRun.Before at hbefore hlater ⊢
          omega

/-- The runs of some characters stand in order and apart. -/
lemma pairwise_before_charRuns (chars : List Char) :
    (charRuns chars).Pairwise CharRun.Before := by
  have hfold : ∀ l : List Char, l.Pairwise (· ≤ ·) →
      (l.foldr CharRun.cons []).Pairwise CharRun.Before := by
    intro l
    induction l with
    | nil => exact fun _ => List.Pairwise.nil
    | cons c l ih =>
      intro hsorted
      obtain ⟨hc, hl⟩ := List.pairwise_cons.mp hsorted
      refine CharRun.pairwise_before_cons (ih hl) fun r hr => ?_
      -- a run begins with one of the later characters
      obtain ⟨d, hd, hfirst⟩ := CharRun.exists_covers_foldr_cons.mp
        ⟨r, hr, Nat.le_refl _, r.toNat_first_le⟩
      rw [← hfirst]
      exact char_le_iff.mp (hc d hd)
  have hsorted : (chars.mergeSort (decide <| · ≤ ·)).Pairwise (· ≤ ·) := by
    have hsort : (chars.mergeSort (decide <| · ≤ ·)).Pairwise (fun c d => decide (c ≤ d) = true) :=
      List.pairwise_mergeSort
        (fun a b c hab hbc => by
          simp only [decide_eq_true_eq] at hab hbc ⊢
          exact Char.le_trans hab hbc)
        (fun a b => by simpa using Char.le_total a b) chars
    exact hsort.imp of_decide_eq_true
  exact hfold _ hsorted

end LiteralRegex
