import LiteralRegex.Proofs.ClassBody.Decoding
import LiteralRegex.Proofs.ClassBody.Runs
import Mathlib.Data.Set.Basic

/-!
# A class body covers its characters

The runs of a set of characters cover the numbers of the characters and no others. The items of
a run cover what the run covers, so a body denotes exactly its characters.

Bodies stay items in a row when they are put one after the other. No hyphen begins an item,
so the seam between two bodies makes no range.
-/

namespace LiteralRegex

/-! ## Items -/

/-- The items of a run cover what the run covers, however they are written. -/
lemma CharRun.exists_covers_items {r : CharRun} {n : ℕ} :
    (∃ item ∈ r.items, item.Covers n) ↔ r.Covers n := by
  have hle := r.toNat_first_le
  unfold CharRun.items CharRun.Covers
  by_cases hone : r.length = 1
  · rw [if_pos hone]
    unfold CharRun.length at hone
    simp only [List.mem_singleton, exists_eq_left, ClassItem.Covers]
    omega
  · rw [if_neg hone]
    by_cases htwo : r.length = 2
    · rw [if_pos htwo]
      unfold CharRun.length at htwo
      simp only [List.mem_cons, List.not_mem_nil, or_false, exists_eq_or_imp, exists_eq_left,
        ClassItem.Covers]
      omega
    · rw [if_neg htwo]
      simp only [List.mem_singleton, exists_eq_left, ClassItem.Covers]

lemma exists_covers_classItems {chars : List Char} {n : ℕ} :
    (∃ item ∈ classItems chars, item.Covers n) ↔ ∃ c ∈ chars, c.toNat = n := by
  rw [← exists_covers_charRuns]
  unfold classItems
  constructor
  · intro h
    obtain ⟨item, hitem, hcovers⟩ := h
    obtain ⟨r, hr, hitem⟩ := List.mem_flatMap.mp hitem
    exact ⟨r, hr, CharRun.exists_covers_items.mp ⟨item, hitem, hcovers⟩⟩
  · intro h
    obtain ⟨r, hr, hcovers⟩ := h
    obtain ⟨item, hitem, hcovers⟩ := CharRun.exists_covers_items.mpr hcovers
    exact ⟨item, List.mem_flatMap.mpr ⟨r, hr, hitem⟩, hcovers⟩

/-! ## Bodies -/

/-- Holds when the body can be read, in one way only, and covers exactly the given numbers. -/
def Flavor.Denotes (f : Flavor) (body : Text) (numbers : Set ℕ) : Prop :=
  ∃ items, f.readItems? body = some items ∧ (∀ other, f.BodyFor body other ↔ other = items) ∧
    ∀ n, (∃ item ∈ items, item.Covers n) ↔ n ∈ numbers

lemma denotes_writeItems (f : Flavor) (items : List ClassItem) :
    f.Denotes (f.writeItems items) {n | ∃ item ∈ items, item.Covers n} := by
  have hread := readItems?_writeItems f items
  refine ⟨items, hread, fun other => ?_, fun n => Iff.rfl⟩
  rw [← readItems?_eq_some_iff, hread, Option.some_inj]
  exact eq_comm

/-- Bodies one after the other are the items of all of them. -/
lemma flatMap_classBody (f : Flavor) (sets : List (List Char)) :
    sets.flatMap f.classBody = f.writeItems (sets.flatMap classItems) := by
  unfold Flavor.classBody Flavor.writeItems
  rw [List.flatMap_assoc]

/-- Bodies one after the other are read as one body, which denotes the characters of all of
the sets; in particular the body of one set denotes its characters. -/
theorem classBodies_denote_union (f : Flavor) :
    (∀ sets : List (List Char), f.Denotes (sets.flatMap f.classBody)
      {n | ∃ chars ∈ sets, ∃ c ∈ chars, c.toNat = n}) ∧
    ∀ chars : List Char, f.Denotes (f.classBody chars) {n | ∃ c ∈ chars, c.toNat = n} := by
  have hunion : ∀ sets : List (List Char), f.Denotes (sets.flatMap f.classBody)
      {n | ∃ chars ∈ sets, ∃ c ∈ chars, c.toNat = n} := by
    intro sets
    have hcovers : ∀ n, (∃ item ∈ sets.flatMap classItems, item.Covers n) ↔
        ∃ chars ∈ sets, ∃ c ∈ chars, c.toNat = n := by
      intro n
      simp only [← exists_covers_classItems, List.mem_flatMap]
      constructor
      · intro h
        obtain ⟨item, ⟨chars, hchars, hitem⟩, hn⟩ := h
        exact ⟨chars, hchars, item, hitem, hn⟩
      · intro h
        obtain ⟨chars, hchars, item, hitem, hn⟩ := h
        exact ⟨item, ⟨chars, hchars, hitem⟩, hn⟩
    have hwritten := denotes_writeItems f (sets.flatMap classItems)
    simp only [hcovers] at hwritten
    rwa [flatMap_classBody]
  refine ⟨hunion, fun chars => ?_⟩
  simpa using hunion [chars]

end LiteralRegex
