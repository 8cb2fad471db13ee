import LiteralRegex.Proofs.ClassBody.Canonical
import LiteralRegex.Proofs.Literal.Parts
import Mathlib.Data.Set.Card

/-!
# Bare hyphens of a class body

The parts of a class body are those of its items, and only a range has a bare hyphen. A run of three
or more is written as one range and a shorter one without any, so there are as many bare hyphens as
maximal runs of three or more (`count_hyphen_classBody`).
-/

namespace LiteralRegex

variable {f : Flavor}

/-- The parts that an item is written as. -/
def ClassItem.parts (f : Flavor) : ClassItem → List Scanned
  | char c => [f.part c]
  | range first last _ => [f.part first, .bare '-', f.part last]

lemma scan_write_append (f : Flavor) (item : ClassItem) (rest : Text) :
    scan (item.write f ++ rest) = item.parts f ++ scan rest := by
  cases item with
  | char c => exact scan_escape_append f c rest
  | range first last hle =>
    have hhyphen : scan ('-' :: (f.escape last ++ rest)) =
        .bare '-' :: f.part last :: scan rest := by
      rw [scan_bare (by decide), scan_escape_append]
    rw [ClassItem.write, List.append_assoc, List.append_assoc, scan_escape_append,
      List.singleton_append, hhyphen]
    rfl

/-- The parts of items in a row are those of each of them. -/
lemma scan_writeItems (f : Flavor) (items : List ClassItem) :
    scan (f.writeItems items) = items.flatMap (ClassItem.parts f) := by
  induction items with
  | nil => exact scan_nil
  | cons item items ih =>
    rw [Flavor.writeItems, List.flatMap_cons, scan_write_append, List.flatMap_cons, ← ih]
    rfl

lemma eq_hyphen_or_inert_of_mem_parts {item : ClassItem} {part : Scanned}
    (h : part ∈ item.parts f) : part = .bare '-' ∨ f.Inert part := by
  cases item with
  | char c =>
    rw [List.mem_singleton.mp h]
    exact .inr (f.inert_part c)
  | range first last hle =>
    simp only [ClassItem.parts, List.mem_cons, List.not_mem_nil, or_false] at h
    rcases h with rfl | rfl | rfl
    · exact .inr (f.inert_part first)
    · exact .inl rfl
    · exact .inr (f.inert_part last)

/-- A bare hyphen in a class body is the only part with a meaning of its own. -/
lemma eq_hyphen_or_inert_of_mem_scan_classBody {chars : List Char} {part : Scanned}
    (h : part ∈ scan (f.classBody chars)) : part = .bare '-' ∨ f.Inert part := by
  rw [Flavor.classBody, scan_writeItems] at h
  obtain ⟨item, _, hpart⟩ := List.mem_flatMap.mp h
  exact eq_hyphen_or_inert_of_mem_parts hpart

/-! ## Counting hyphens -/

lemma part_ne_hyphen (f : Flavor) (c : Char) : f.part c ≠ .bare '-' := by
  intro h
  have hinert := f.inert_part c
  rw [h] at hinert
  exact hyphen_not_alphanum hinert

/-- A run has one bare hyphen if it is three or longer, and none else. -/
lemma count_hyphen_items (f : Flavor) (r : CharRun) :
    (r.items.flatMap (ClassItem.parts f)).count (.bare '-') = if 3 ≤ r.length then 1 else 0 := by
  have hpart := part_ne_hyphen f
  unfold CharRun.items
  by_cases hone : r.length = 1
  · rw [if_pos hone, if_neg (by omega)]
    simp [ClassItem.parts, hpart]
  · rw [if_neg hone]
    by_cases htwo : r.length = 2
    · rw [if_pos htwo, if_neg (by omega)]
      simp [ClassItem.parts, hpart]
    · have hlength : 3 ≤ r.length := by
        unfold CharRun.length at hone htwo ⊢
        omega
      rw [if_neg htwo, if_pos hlength]
      simp [ClassItem.parts, hpart]

lemma count_hyphen_flatMap_items (f : Flavor) (runs : List CharRun) :
    ((runs.flatMap CharRun.items).flatMap (ClassItem.parts f)).count (.bare '-') =
      (runs.filter (3 ≤ ·.length)).length := by
  induction runs with
  | nil => rfl
  | cons r runs ih =>
    rw [List.flatMap_cons, List.flatMap_append, List.count_append, ih, count_hyphen_items,
      List.filter_cons]
    by_cases hlength : 3 ≤ r.length
    · rw [if_pos hlength, if_pos (decide_eq_true hlength), List.length_cons]
      omega
    · rw [if_neg hlength, if_neg (by simpa using hlength)]
      omega

/-- A class body has one bare hyphen for each maximal run of three or more numbers. -/
theorem count_hyphen_classBody (f : Flavor) (chars : List Char) :
    ((scan (f.classBody chars)).count (.bare '-') : ℕ∞) =
      {r : CharRun | r.MaximalIn (fun n => ∃ c ∈ chars, c.toNat = n) ∧ 3 ≤ r.length}.encard := by
  have hset : {r : CharRun | r.MaximalIn (fun n => ∃ c ∈ chars, c.toNat = n) ∧ 3 ≤ r.length} =
      ((charRuns chars).filter (3 ≤ ·.length)).toFinset := by
    ext r
    simp [mem_charRuns_iff]
  -- no run stands in front of itself, so each is there once
  have hnodup : (charRuns chars).Nodup := (pairwise_before_charRuns chars).imp fun h => ne_of_irrefl h
  rw [hset, Set.encard_coe_eq_coe_finsetCard, List.toFinset_card_of_nodup (hnodup.filter _),
    Flavor.classBody, scan_writeItems, classItems, count_hyphen_flatMap_items]

end LiteralRegex
