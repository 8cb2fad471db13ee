import LiteralRegex.Proofs.CharRange.Members
import LiteralRegex.Proofs.ClassBody.Canonical

/-!
# The body of a range

A class body names the ends of its runs. The characters from one to another are one run, unless the
surrogates lie between them: these are missing from the range, and two runs are left. Runs that stand in
order and apart are determined by what they cover (`charRuns_eq_of_covers`), so it does not matter how
the range was walked through.
-/

namespace LiteralRegex

open Unicode (IsSurrogate toNat_valid)

/-! ## Pieces -/

/-- What a body has for the characters from one to another: one or two of them are written out, more
are written as a range. -/
def Flavor.piece (f : Flavor) (first last : Char) : Text :=
  if last = first then f.escape first
  else if last.toNat = first.toNat + 1 then f.escape first ++ f.escape last
  else f.escape first ++ ['-'] ++ f.escape last

lemma CharRun.writeItems_items (f : Flavor) (r : CharRun) :
    f.writeItems r.items = f.piece r.first r.last := by
  have hle := r.toNat_first_le
  have hone : r.length = 1 ↔ r.last = r.first := by
    rw [← Char.toNat_inj]
    unfold CharRun.length
    omega
  have htwo : r.length = 2 ↔ r.last.toNat = r.first.toNat + 1 := by
    unfold CharRun.length
    omega
  unfold CharRun.items Flavor.piece Flavor.writeItems
  simp only [hone, htwo]
  split
  · exact List.append_nil _
  · split
    · simp [ClassItem.write]
    · exact List.append_nil _

/-- A body is made of a piece for each run. -/
lemma Flavor.classBody_eq_flatMap (f : Flavor) (chars : List Char) :
    f.classBody chars = (charRuns chars).flatMap fun r => f.piece r.first r.last := by
  unfold Flavor.classBody Flavor.writeItems classItems
  rw [List.flatMap_assoc]
  apply List.flatMap_congr
  intro r _
  exact r.writeItems_items f

/-! ## Runs of a range -/

variable {a b : Char} {n : ℕ}

/-- The numbers in a range are those between its ends that are no surrogates. -/
lemma CharRange.exists_toNat_eq_iff :
    (∃ c ∈ (mk a b).toList, c.toNat = n) ↔
      ((min a b).toNat ≤ n ∧ n ≤ (max a b).toNat) ∧ ¬ IsSurrogate n := by
  constructor
  · rintro ⟨c, hc, rfl⟩
    rw [mem_toList, char_le_iff, char_le_iff] at hc
    exact ⟨hc, (toNat_valid c).1⟩
  · rintro ⟨hends, hsurrogate⟩
    have hbound := (toNat_valid (max a b)).2
    obtain ⟨c, hc⟩ := exists_scalar?_eq_some hsurrogate (Nat.le_trans hends.2 hbound)
    obtain rfl := Unicode.scalar?_eq_some_iff.mp hc
    refine ⟨c, ?_, rfl⟩
    rw [mem_toList, char_le_iff, char_le_iff]
    exact hends

/-- On one side of the surrogates a range is one run. -/
lemma charRuns_toList (h : ¬ (CharRange.mk a b).CrossesSurrogates) :
    charRuns (CharRange.mk a b).toList = [⟨min a b, max a b, min_le_max⟩] := by
  have hlow := (toNat_valid (min a b)).1
  have hhigh := (toNat_valid (max a b)).1
  have hside : ¬ ((min a b).toNat < 0xD800 ∧ 0xDFFF < (max a b).toNat) := h
  apply charRuns_eq_of_covers (List.pairwise_singleton _ _)
  intro n
  rw [CharRange.exists_toNat_eq_iff]
  simp only [List.mem_singleton, exists_eq_left, CharRun.Covers]
  unfold IsSurrogate at *
  omega

/-- Across the surrogates a range is two runs, which end next to them. -/
lemma charRuns_toList_of_crossesSurrogates (h : (CharRange.mk a b).CrossesSurrogates) :
    ∃ (hlow : min a b ≤ '\ud7ff') (hhigh : '\ue000' ≤ max a b),
      charRuns (CharRange.mk a b).toList =
        [⟨min a b, '\ud7ff', hlow⟩, ⟨'\ue000', max a b, hhigh⟩] := by
  obtain ⟨hlow, hhigh⟩ : (min a b).toNat < 0xD800 ∧ 0xDFFF < (max a b).toNat := h
  have hbelow : '\ud7ff'.toNat = 0xD7FF := rfl
  have habove : '\ue000'.toNat = 0xE000 := rfl
  refine ⟨by rw [char_le_iff]; omega, by rw [char_le_iff]; omega, charRuns_eq_of_covers ?_ ?_⟩
  · rw [List.pairwise_pair, CharRun.Before, hbelow, habove]
    omega
  · intro n
    rw [CharRange.exists_toNat_eq_iff]
    simp only [List.mem_cons, List.not_mem_nil, or_false, exists_eq_or_imp, exists_eq_left,
      CharRun.Covers, hbelow, habove]
    unfold IsSurrogate
    omega

/-- The body of a range is the piece from its lowest to its highest character. Where the surrogates lie
between them, it is two pieces, one up to the surrogates and one from there on. The direction of the
range does not matter. -/
theorem classBody_range (f : Flavor) (a b : Char) :
    f.classBody (CharRange.mk a b).toList =
      (if (CharRange.mk a b).CrossesSurrogates then
        f.piece (min a b) '\ud7ff' ++ f.piece '\ue000' (max a b)
      else f.piece (min a b) (max a b)) ∧
    f.classBody (CharRange.mk a b).toList = f.classBody (CharRange.mk b a).toList := by
  refine ⟨?_, ?_⟩
  · rw [Flavor.classBody_eq_flatMap]
    by_cases h : (CharRange.mk a b).CrossesSurrogates
    · obtain ⟨hlow, hhigh, hruns⟩ := charRuns_toList_of_crossesSurrogates h
      rw [if_pos h, hruns, List.flatMap_cons, List.flatMap_cons, List.flatMap_nil, List.append_nil]
    · rw [if_neg h, charRuns_toList h, List.flatMap_cons, List.flatMap_nil, List.append_nil]
  · rw [classBody_eq_iff, CharRange.toList_swap]
    intro c
    rw [List.mem_reverse]

end LiteralRegex
