import LiteralRegex.Proofs.ClassBody.Items
import Mathlib

/-!
# Separated sets of characters

Where the characters of one list end two numbers or more in front of those of another, the runs of both
together are those of the first and behind them those of the second: put in a row they are still in order and
apart, and they cover both lists (`charRuns_append`). So a body can be cut wherever a number is missing.
-/

namespace LiteralRegex

variable {a b : List Char}

/-- Holds when a number is missing between all characters of the first list and all of the second. -/
def Separated (a b : List Char) : Prop := ∀ c ∈ a, ∀ d ∈ b, c.toNat + 1 < d.toNat

/-- The runs of the first list stand in front of those of the second. -/
lemma Separated.before (h : Separated a b) {r r' : CharRun} (hr : r ∈ charRuns a)
    (hr' : r' ∈ charRuns b) : r.Before r' := by
  obtain ⟨c, hc, hlast⟩ := (mem_charRuns_iff.mp hr).inside r.last.toNat r.covers_last
  obtain ⟨d, hd, hfirst⟩ := (mem_charRuns_iff.mp hr').inside r'.first.toNat r'.covers_first
  have hgap := h c hc d hd
  rwa [hlast, hfirst] at hgap

/-- The runs of separated lists are those of both. -/
lemma charRuns_append (h : Separated a b) : charRuns (a ++ b) = charRuns a ++ charRuns b := by
  apply charRuns_eq_of_covers
  · rw [List.pairwise_append]
    exact ⟨pairwise_before_charRuns a, pairwise_before_charRuns b,
      fun r hr r' hr' => h.before hr hr'⟩
  · intro n
    simp only [List.mem_append, or_and_right, exists_or, exists_covers_charRuns]

lemma classBody_append (f : Flavor) (h : Separated a b) :
    f.classBody (a ++ b) = f.classBody a ++ f.classBody b := by
  unfold Flavor.classBody Flavor.writeItems classItems
  rw [charRuns_append h, List.flatMap_append, List.flatMap_append]

/-- The body of separated lists is that of the lower characters and behind it that of the higher ones, in
whatever order the lists are given. A body is the literal of its characters in ascending order if no three of
them are consecutive, and only then. -/
theorem classBody_of_parts (f : Flavor) :
    (∀ a b : List Char, (∀ c ∈ a, ∀ d ∈ b, c.toNat + 1 < d.toNat) →
      f.classBody (a ++ b) = f.classBody a ++ f.classBody b ∧
      f.classBody (b ++ a) = f.classBody a ++ f.classBody b) ∧
    ∀ chars : List Char, f.classBody chars = f.literal (chars.toFinset.sort (· ≤ ·)) ↔
      ¬ ∃ c ∈ chars, ∃ d ∈ chars, ∃ e ∈ chars,
        d.toNat = c.toNat + 1 ∧ e.toNat = c.toNat + 2 := by
  refine ⟨fun a b h => ⟨classBody_append f h, ?_⟩, fun chars => classBody_eq_literal_sort_iff⟩
  rw [← classBody_append f h, classBody_eq_iff]
  intro c
  rw [List.mem_append, List.mem_append, or_comm]

/-- Only one number is missing between a range and two characters behind it. -/
theorem classBody_of_parts_adjacent :
    (∀ c ∈ ['c', 'a', 'b'], ∀ d ∈ ['f', 'e'], c.toNat + 1 < d.toNat) ∧
    Flavor.re2.classBody (['c', 'a', 'b'] ++ ['f', 'e']) =
      Flavor.re2.classBody ['c', 'a', 'b'] ++ Flavor.re2.classBody ['f', 'e'] ∧
    Flavor.re2.classBody (['f', 'e'] ++ ['c', 'a', 'b']) =
      Flavor.re2.classBody ['c', 'a', 'b'] ++ Flavor.re2.classBody ['f', 'e'] := by
  have hgap : ∀ c ∈ ['c', 'a', 'b'], ∀ d ∈ ['f', 'e'], c.toNat + 1 < d.toNat := by simp
  exact ⟨hgap, (classBody_of_parts .re2).1 _ _ hgap⟩

end LiteralRegex
