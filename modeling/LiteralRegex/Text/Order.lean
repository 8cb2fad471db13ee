import LiteralRegex.Text.Basic

/-!
# Order of texts

Texts are ordered longest first, and texts of one length by their characters. The
order is total, so a list of texts has exactly one sorted form.
-/

namespace LiteralRegex.Text

/-- Holds when `a` may stand before `b`: it is longer, or as long and not greater in
the lexicographic order of the character numbers. -/
def Precedes (a b : Text) : Prop := b.length < a.length ∨ a.length = b.length ∧ List.le a b

instance (a b : Text) : Decidable (Precedes a b) := inferInstanceAs (Decidable (_ ∨ _))

/-- The texts longest first. -/
def longestFirst (texts : List Text) : List Text := texts.mergeSort (decide <| Precedes · ·)

/-- The texts longest first or, in reverse, shortest first with the greatest of one
length in front. -/
def sorted (texts : List Text) (reverse : Bool) : List Text :=
  if reverse then (longestFirst texts).reverse else longestFirst texts

/-! ## The order is linear -/

theorem Precedes.refl (a : Text) : Precedes a a := .inr ⟨rfl, List.le_refl a⟩

theorem Precedes.trans {a b c : Text} (hab : Precedes a b) (hbc : Precedes b c) :
    Precedes a c := by
  rcases hab with hab | ⟨hab, hab'⟩ <;> rcases hbc with hbc | ⟨hbc, hbc'⟩
  · exact .inl (by omega)
  · exact .inl (by omega)
  · exact .inl (by omega)
  · exact .inr ⟨hab.trans hbc, List.le_trans hab' hbc'⟩

theorem Precedes.antisymm {a b : Text} (hab : Precedes a b) (hba : Precedes b a) : a = b := by
  rcases hab with hab | ⟨_, hab⟩ <;> rcases hba with hba | ⟨_, hba⟩
  · omega
  · omega
  · omega
  · exact List.le_antisymm hab hba

theorem Precedes.total (a b : Text) : Precedes a b ∨ Precedes b a := by
  rcases Nat.lt_trichotomy a.length b.length with h | h | h
  · exact .inr (.inl h)
  · exact (List.le_total a b).imp (fun l => .inr ⟨h, l⟩) (fun l => .inr ⟨h.symm, l⟩)
  · exact .inl (.inl h)

/-! ## Sorting -/

theorem longestFirst_perm (texts : List Text) : (longestFirst texts).Perm texts :=
  List.mergeSort_perm _ _

theorem pairwise_longestFirst (texts : List Text) :
    (longestFirst texts).Pairwise Precedes := by
  have hsorted : (longestFirst texts).Pairwise (fun a b => decide (Precedes a b) = true) :=
    List.pairwise_mergeSort
      (fun a b c hab hbc => by
        simpa using Precedes.trans (of_decide_eq_true hab) (of_decide_eq_true hbc))
      (fun a b => by simpa using Precedes.total a b) texts
  exact hsorted.imp of_decide_eq_true

end LiteralRegex.Text
