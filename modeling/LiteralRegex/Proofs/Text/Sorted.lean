import LiteralRegex.Proofs.Text.Comparison
import Mathlib

/-!
# Sorted texts

Texts of one length that compare as equal are the same text, so of the texts of a list there is only one
list in order (`eq_sorted_iff`). All else that can be said of sorting follows: the order in which the texts
come does not matter, nor does sorting them twice, and one direction is the mirror of the other because what
is in order backwards is in the reverse order forwards.
-/

namespace LiteralRegex.Text

/-- Holds when `a` may stand before `b`. Forwards a longer text stands first, and of texts of one length
the lesser one. Backwards it is the other way round. -/
def InOrder (reverse : Bool) (a b : Text) : Prop :=
  match reverse with
  | false => b.length < a.length ∨ a.length = b.length ∧ compareNumbers a b ≠ .gt
  | true => a.length < b.length ∨ a.length = b.length ∧ compareNumbers a b ≠ .lt

variable {texts others : List Text} {reverse : Bool} {a b : Text}

lemma inOrder_false : InOrder false a b ↔ Precedes a b := by
  rw [InOrder, Precedes, compareNumbers_ne_gt_iff]

lemma inOrder_true : InOrder true a b ↔ Precedes b a := by
  rw [InOrder, Precedes, compareNumbers_swap, Ne, Ordering.swap_eq_lt, ← Ne,
    compareNumbers_ne_gt_iff, eq_comm]

instance : Std.Antisymm (InOrder reverse) where
  antisymm a b hab hba := by
    cases reverse with
    | false => exact (inOrder_false.mp hab).antisymm (inOrder_false.mp hba)
    | true => exact (inOrder_true.mp hba).antisymm (inOrder_true.mp hab)

lemma sorted_perm (texts : List Text) (reverse : Bool) : (sorted texts reverse).Perm texts := by
  cases reverse with
  | false => exact longestFirst_perm texts
  | true => exact (List.reverse_perm _).trans (longestFirst_perm texts)

lemma pairwise_sorted (texts : List Text) (reverse : Bool) :
    (sorted texts reverse).Pairwise (InOrder reverse) := by
  have hfirst := pairwise_longestFirst texts
  cases reverse with
  | false => exact hfirst.imp inOrder_false.mpr
  | true => exact List.pairwise_reverse.mpr (hfirst.imp inOrder_true.mpr)

/-- The texts are in order in one list only. -/
lemma eq_sorted_iff :
    others = sorted texts reverse ↔ others.Perm texts ∧ others.Pairwise (InOrder reverse) := by
  constructor
  · rintro rfl
    exact ⟨sorted_perm texts reverse, pairwise_sorted texts reverse⟩
  · rintro ⟨hperm, horder⟩
    apply List.Perm.eq_of_pairwise' horder (pairwise_sorted texts reverse)
    exact hperm.trans (sorted_perm texts reverse).symm

/-- Sorting forgets the order in which the texts come, and nothing else. -/
lemma sorted_eq_sorted_iff : sorted others reverse = sorted texts reverse ↔ others.Perm texts := by
  rw [eq_sorted_iff, and_iff_left (pairwise_sorted others reverse)]
  exact (sorted_perm others reverse).congr_left texts

lemma sorted_not (texts : List Text) (reverse : Bool) :
    sorted texts (!reverse) = (sorted texts reverse).reverse := by
  cases reverse with
  | false => rfl
  | true => exact (List.reverse_reverse _).symm

/-- The sorted list has every text as often as the given one and has them in order, and no other list does.
It is the same for all orders in which the texts come, those of sorted lists included, and the opposite
direction gives its mirror. -/
theorem sorted_unique (texts : List Text) (reverse : Bool) :
    (∀ others, others = sorted texts reverse ↔
      others.Perm texts ∧ others.Pairwise (InOrder reverse)) ∧
    (∀ others, sorted others reverse = sorted texts reverse ↔ others.Perm texts) ∧
    sorted texts (!reverse) = (sorted texts reverse).reverse ∧
    ∀ direction, sorted (sorted texts direction) reverse = sorted texts reverse := by
  refine ⟨fun _ => eq_sorted_iff, fun _ => sorted_eq_sorted_iff, sorted_not texts reverse, ?_⟩
  intro direction
  exact sorted_eq_sorted_iff.mpr (sorted_perm texts direction)

end LiteralRegex.Text
