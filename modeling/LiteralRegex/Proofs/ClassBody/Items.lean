import LiteralRegex.Proofs.ClassBody.Canonical
import LiteralRegex.Proofs.ClassBody.Shortest
import Mathlib

/-!
# The items of a class body

The items of a run begin and end at its ends and lie one behind the other in between, so all items of a body
are in ascending order (`pairwise_classItems`). A run of three or more is one range, and a shorter one is single
characters. Items that are single characters throughout are written as a literal, the one of the characters in
ascending order, and since a body can be read back no other items are
(`classBody_eq_literal_sort_iff`).
-/

namespace LiteralRegex

variable {f : Flavor} {r : CharRun} {item : ClassItem} {chars row : List Char} {c : Char}

/-! ## Ends -/

/-- The ends of the items of a run are the ends of the run. -/
lemma CharRun.exists_end_items :
    (∃ item ∈ r.items, c = item.first ∨ c = item.last) ↔ c = r.first ∨ c = r.last := by
  unfold CharRun.items
  by_cases hone : r.length = 1
  · have hends : r.last = r.first := by
      have hle := r.toNat_first_le
      unfold CharRun.length at hone
      rw [← Char.toNat_inj]
      omega
    rw [if_pos hone, hends]
    simp [ClassItem.first, ClassItem.last]
  · rw [if_neg hone]
    by_cases htwo : r.length = 2
    · rw [if_pos htwo]
      simp [ClassItem.first, ClassItem.last]
    · rw [if_neg htwo]
      simp [ClassItem.first, ClassItem.last]

/-- The ends of the items of a body are the ends of its runs. -/
lemma exists_end_classItems : (∃ item ∈ classItems chars, c = item.first ∨ c = item.last) ↔
    ∃ r ∈ charRuns chars, c = r.first ∨ c = r.last := by
  simp only [classItems, List.mem_flatMap, ← CharRun.exists_end_items]
  constructor
  · rintro ⟨item, ⟨r, hr, hitem⟩, hend⟩
    exact ⟨r, hr, item, hitem, hend⟩
  · rintro ⟨r, hr, item, hitem, hend⟩
    exact ⟨item, ⟨r, hr, hitem⟩, hend⟩

/-! ## Order -/

/-- Holds when the first item ends in front of the second. -/
def ClassItem.Before (a b : ClassItem) : Prop := a.last.toNat < b.first.toNat

lemma CharRun.pairwise_items (r : CharRun) : r.items.Pairwise ClassItem.Before := by
  unfold CharRun.items
  by_cases hone : r.length = 1
  · rw [if_pos hone]
    exact List.pairwise_singleton _ _
  · rw [if_neg hone]
    by_cases htwo : r.length = 2
    · rw [if_pos htwo, List.pairwise_pair]
      unfold CharRun.length at htwo
      show r.first.toNat < r.last.toNat
      omega
    · rw [if_neg htwo]
      exact List.pairwise_singleton _ _

/-- An item of a run begins and ends inside the run. -/
lemma CharRun.covers_ends_of_mem_items (h : item ∈ r.items) :
    r.Covers item.first.toNat ∧ r.Covers item.last.toNat :=
  ⟨exists_covers_items.mp ⟨item, h, item.covers_first⟩,
    exists_covers_items.mp ⟨item, h, item.covers_last⟩⟩

/-- The items of a body are in ascending order. -/
lemma pairwise_classItems (chars : List Char) : (classItems chars).Pairwise ClassItem.Before := by
  rw [classItems, List.pairwise_flatMap]
  refine ⟨fun r _ => r.pairwise_items, (pairwise_before_charRuns chars).imp ?_⟩
  intro r r' hbefore a ha b hb
  have hlast := (CharRun.covers_ends_of_mem_items ha).2
  have hfirst := (CharRun.covers_ends_of_mem_items hb).1
  unfold CharRun.Covers at hlast hfirst
  unfold CharRun.Before at hbefore
  unfold ClassItem.Before
  omega

/-! ## Items that are single characters -/

/-- Single characters one after the other are written as a literal. -/
lemma writeItems_map_char (f : Flavor) (row : List Char) :
    f.writeItems (row.map ClassItem.char) = f.literal row := by
  rw [Flavor.writeItems, List.flatMap_map]
  rfl

lemma writeItems_injective (f : Flavor) : Function.Injective f.writeItems := by
  intro a b h
  have hread := readItems?_writeItems f a
  rw [h, readItems?_writeItems] at hread
  exact (Option.some.inj hread).symm

lemma classBody_eq_literal_iff : f.classBody chars = f.literal row ↔
    classItems chars = row.map ClassItem.char := by
  rw [Flavor.classBody, ← writeItems_map_char, (writeItems_injective f).eq_iff]

/-- If all items are single characters, they are the characters in ascending order. -/
lemma eq_sort_of_classItems_eq (h : classItems chars = row.map ClassItem.char) :
    row = chars.toFinset.sort (· ≤ ·) := by
  have horder : row.Pairwise (· < ·) := by
    have hitems := pairwise_classItems chars
    rw [h, List.pairwise_map] at hitems
    exact hitems.imp char_lt_iff.mpr
  apply horder.eq_of_mem_iff chars.toFinset.sortedLT_sort.pairwise
  intro c
  have hcovers : (∃ item ∈ classItems chars, item.Covers c.toNat) ↔ ∃ d ∈ chars, d.toNat = c.toNat :=
    exists_covers_classItems
  rw [h, mem_iff_exists_toNat_eq] at hcovers
  simpa [ClassItem.Covers, Char.toNat_inj] using hcovers

/-- A run of less than three is written character by character. -/
lemma CharRun.forall_mem_items_char_iff :
    (∀ item ∈ r.items, item ∈ Set.range ClassItem.char) ↔ ¬ 3 ≤ r.length := by
  have hpos : 1 ≤ r.length := Nat.le_add_left 1 _
  unfold CharRun.items
  by_cases hone : r.length = 1
  · rw [if_pos hone]
    simp [hone]
  · rw [if_neg hone]
    by_cases htwo : r.length = 2
    · rw [if_pos htwo]
      simp [htwo]
    · have hlong : 3 ≤ r.length := by omega
      rw [if_neg htwo]
      simp [hlong]

/-- Holds when three consecutive characters are in the list. -/
def ThreeInRow (chars : List Char) : Prop :=
  ∃ c ∈ chars, ∃ d ∈ chars, ∃ e ∈ chars, d.toNat = c.toNat + 1 ∧ e.toNat = c.toNat + 2

/-- Three consecutive characters are in one run. -/
lemma exists_three_le_length_iff : (∃ r ∈ charRuns chars, 3 ≤ r.length) ↔ ThreeInRow chars := by
  constructor
  · rintro ⟨r, hr, hlong⟩
    have hinside := (mem_charRuns_iff.mp hr).inside
    unfold CharRun.length at hlong
    unfold CharRun.Covers at hinside
    obtain ⟨c, hc, hcn⟩ := hinside r.first.toNat (by omega)
    obtain ⟨d, hd, hdn⟩ := hinside (r.first.toNat + 1) (by omega)
    obtain ⟨e, he, hen⟩ := hinside (r.first.toNat + 2) (by omega)
    exact ⟨c, hc, d, hd, e, he, by omega, by omega⟩
  · rintro ⟨c, hc, d, hd, e, he, hdn, hen⟩
    obtain ⟨r, hr, hcovers⟩ := exists_covers_charRuns.mpr ⟨c, hc, rfl⟩
    -- the run goes on behind the first and the second of them
    have hbehind := (mem_charRuns_iff.mp hr).behind
    have hdne : d.toNat ≠ r.last.toNat + 1 := fun heq => hbehind ⟨d, hd, heq⟩
    have hene : e.toNat ≠ r.last.toNat + 1 := fun heq => hbehind ⟨e, he, heq⟩
    refine ⟨r, hr, ?_⟩
    unfold CharRun.Covers at hcovers
    unfold CharRun.length
    omega

/-- Without three consecutive characters a body has no range. -/
lemma exists_classItems_eq_map_char_iff :
    (∃ row : List Char, classItems chars = row.map ClassItem.char) ↔ ¬ ThreeInRow chars := by
  have hrange : (∃ row : List Char, classItems chars = row.map ClassItem.char) ↔
      ∀ item ∈ classItems chars, item ∈ Set.range ClassItem.char := by
    have hmap := Set.ext_iff.mp (Set.range_list_map ClassItem.char) (classItems chars)
    simpa only [Set.mem_range, Set.mem_ofPred_eq, eq_comm] using hmap
  rw [hrange, ← exists_three_le_length_iff, classItems]
  simp only [List.mem_flatMap, forall_exists_index, and_imp, not_exists, not_and,
    ← CharRun.forall_mem_items_char_iff]
  exact ⟨fun h r hr item hitem => h item r hr hitem, fun h item r hr hitem => h r hr item hitem⟩

/-- A body is the literal of its characters in ascending order unless three of them are consecutive. -/
theorem classBody_eq_literal_sort_iff :
    f.classBody chars = f.literal (chars.toFinset.sort (· ≤ ·)) ↔ ¬ ThreeInRow chars := by
  rw [classBody_eq_literal_iff, ← exists_classItems_eq_map_char_iff]
  constructor
  · intro h
    exact ⟨_, h⟩
  · rintro ⟨row, hrow⟩
    rwa [← eq_sort_of_classItems_eq hrow]

end LiteralRegex
