import LiteralRegex.Proofs.CharRange.Walk
import Mathlib.Data.Char
import Mathlib.Data.List.Nodup
import Mathlib.Order.MinMax

/-!
# A range lists its characters

A walk goes over the members of its range, and these are the characters between two numbers, in
ascending order or the other way round. So what there is to say of a range is said of `charsBetween`
first: its members, its order, its ends, and its length. The length is counted number by number
(`length_filterMap_scalar?_add`), since numbers are what a range is made of, and surrogates count among
them.

`CharRange.ascending` is what the two directions have in common, and one is the other backwards
(`CharRange.toList_swap`).
-/

namespace LiteralRegex

open Unicode (scalar? IsSurrogate toNat_valid)

lemma exists_scalar?_eq_some {n : ℕ} (hsurrogate : ¬ IsSurrogate n) (hbound : n ≤ 0x10FFFF) :
    ∃ c, scalar? n = some c := by
  apply Option.ne_none_iff_exists'.mp
  rw [Ne, Unicode.scalar?_eq_none_iff, not_or, not_lt]
  exact ⟨hsurrogate, hbound⟩

lemma monotone_toNat : Monotone Char.toNat := fun _ _ => char_le_iff.mp

/-! ## Characters between two numbers -/

variable {low high : ℕ} {c : Char}

lemma mem_charsBetween : c ∈ charsBetween low high ↔ low ≤ c.toNat ∧ c.toNat ≤ high := by
  simp only [charsBetween, List.mem_filterMap, List.mem_range'_1, Unicode.scalar?_eq_some_iff,
    exists_eq_right]
  omega

/-- Characters are in the order of their numbers. -/
lemma pairwise_charsBetween (low high : ℕ) : (charsBetween low high).Pairwise (· < ·) := by
  unfold charsBetween
  apply (List.pairwise_lt_range' 1).filterMap
  intro m n hlt c hc d hd
  rw [Unicode.scalar?_eq_some_iff] at hc hd
  rw [char_lt_iff, ← hc, ← hd]
  exact hlt

/-- With the number of a character in front, the character is in front. -/
lemma head?_charsBetween (h : c.toNat ≤ high) : (charsBetween c.toNat high).head? = some c := by
  have hcount : high + 1 - c.toNat = (high - c.toNat) + 1 := by omega
  rw [charsBetween, hcount, List.range'_succ, List.filterMap_cons, Unicode.scalar?_toNat]
  rfl

lemma getLast?_charsBetween (h : low ≤ c.toNat) :
    (charsBetween low c.toNat).getLast? = some c := by
  have hcount : c.toNat + 1 - low = (c.toNat - low) + 1 := by omega
  have hlast : low + 1 * (c.toNat - low) = c.toNat := by omega
  rw [charsBetween, hcount, List.range'_concat, hlast, List.filterMap_append,
    List.filterMap_cons, Unicode.scalar?_toNat]
  exact List.getLast?_concat

/-- Each of some numbers in a row is that of a character or a surrogate. -/
lemma length_filterMap_scalar?_add {count : ℕ} (h : low + count ≤ 0x110000) :
    ((List.range' low count).filterMap scalar?).length +
      (min (low + count) 0xE000 - max low 0xD800) = count := by
  induction count with
  | zero =>
    rw [List.range'_zero, List.filterMap_nil, List.length_nil]
    omega
  | succ count ih =>
    have hfront := ih (by omega)
    rw [List.range'_concat, List.filterMap_append, List.length_append, Nat.one_mul]
    by_cases hsurrogate : IsSurrogate (low + count)
    · have hnone : scalar? (low + count) = none :=
        Unicode.scalar?_eq_none_iff.mpr (.inl hsurrogate)
      unfold IsSurrogate at hsurrogate
      rw [List.filterMap_cons, hnone, List.filterMap_nil, List.length_nil]
      omega
    · obtain ⟨c, hc⟩ := exists_scalar?_eq_some hsurrogate (by omega)
      unfold IsSurrogate at hsurrogate
      rw [List.filterMap_cons, hc, List.filterMap_nil, List.length_singleton]
      omega

/-- From one character to another there is a character for each number, except for surrogates, of
which all lie between the two or none. -/
lemma length_charsBetween_add {c d : Char} (h : c.toNat ≤ d.toNat) :
    (charsBetween c.toNat d.toNat).length +
      (if c.toNat < 0xD800 ∧ 0xDFFF < d.toNat then 2048 else 0) = d.toNat - c.toNat + 1 := by
  obtain ⟨hc, _⟩ := toNat_valid c
  obtain ⟨hd, hbound⟩ := toNat_valid d
  unfold IsSurrogate at hc hd
  have hend : c.toNat + (d.toNat + 1 - c.toNat) = d.toNat + 1 := by omega
  have hlength := @length_filterMap_scalar?_add c.toNat (d.toNat + 1 - c.toNat) (by omega)
  rw [← charsBetween, hend] at hlength
  by_cases hcross : c.toNat < 0xD800 ∧ 0xDFFF < d.toNat
  · have hsurrogates : min (d.toNat + 1) 0xE000 - max c.toNat 0xD800 = 2048 := by omega
    rw [if_pos hcross]
    omega
  · have hsurrogates : min (d.toNat + 1) 0xE000 - max c.toNat 0xD800 = 0 := by omega
    rw [if_neg hcross]
    omega

lemma charsBetween_self (c : Char) : charsBetween c.toNat c.toNat = [c] := by
  rw [charsBetween, Nat.add_sub_cancel_left, List.range'_one, List.filterMap_cons,
    Unicode.scalar?_toNat]
  rfl

/-! ## Characters of a range -/

namespace CharRange

/-- The characters of a range from the lowest to the highest. -/
def ascending (r : CharRange) : Text :=
  charsBetween (min r.first r.last).toNat (max r.first r.last).toNat

/-- Holds when the surrogates lie between the ends of the range. -/
def CrossesSurrogates (r : CharRange) : Prop :=
  (min r.first r.last).toNat < 0xD800 ∧ 0xDFFF < (max r.first r.last).toNat

instance (r : CharRange) : Decidable r.CrossesSurrogates := inferInstanceAs (Decidable (_ ∧ _))

lemma mem_ascending {r : CharRange} {c : Char} :
    c ∈ r.ascending ↔ min r.first r.last ≤ c ∧ c ≤ max r.first r.last := by
  rw [ascending, mem_charsBetween, ← char_le_iff, ← char_le_iff]

variable {a b : Char}

lemma toList_of_le (h : a ≤ b) : (mk a b).toList = (mk a b).ascending := by
  have hascending : ¬ (mk a b).isDescending = true := by
    rw [isDescending_iff]
    exact Nat.not_lt_of_le (char_le_iff.mp h)
  rw [toList_eq_members, members, if_neg hascending, ascending, min_eq_left h, max_eq_right h]

/-- A range of one character is the same in both directions. -/
lemma toList_of_ge (h : b ≤ a) : (mk a b).toList = (mk a b).ascending.reverse := by
  by_cases heq : a = b
  · rw [heq, toList_of_le le_rfl, ascending, min_self, max_self, charsBetween_self]
    rfl
  · have hlt : b < a := lt_of_le_of_ne h (Ne.symm heq)
    have hdescending : (mk a b).isDescending = true := isDescending_iff.mpr (char_lt_iff.mp hlt)
    rw [toList_eq_members, members, if_pos hdescending, ascending, min_eq_right h, max_eq_left h]

lemma ascending_swap (a b : Char) : (mk b a).ascending = (mk a b).ascending := by
  rw [ascending, ascending, min_comm, max_comm]

lemma toList_perm_ascending (a b : Char) : (mk a b).toList.Perm (mk a b).ascending := by
  rcases le_total a b with h | h
  · rw [toList_of_le h]
  · rw [toList_of_ge h]
    exact List.reverse_perm _

lemma mem_toList {c : Char} : c ∈ (mk a b).toList ↔ min a b ≤ c ∧ c ≤ max a b := by
  rw [(toList_perm_ascending a b).mem_iff, mem_ascending]

/-- The same characters the other way round. -/
lemma toList_swap (a b : Char) : (mk b a).toList = (mk a b).toList.reverse := by
  rcases le_total a b with h | h
  · rw [toList_of_ge h, toList_of_le h, ascending_swap]
  · rw [toList_of_le h, toList_of_ge h, ascending_swap, List.reverse_reverse]

lemma getLast?_toList (a b : Char) : (mk a b).toList.getLast? = some b := by
  rcases le_total a b with h | h
  · rw [toList_of_le h, ascending, min_eq_left h, max_eq_right h]
    exact getLast?_charsBetween (char_le_iff.mp h)
  · rw [toList_of_ge h, List.getLast?_reverse, ascending, min_eq_right h, max_eq_left h]
    exact head?_charsBetween (char_le_iff.mp h)

lemma head?_toList (a b : Char) : (mk a b).toList.head? = some a := by
  rw [toList_swap b a, List.head?_reverse, getLast?_toList]

lemma length_toList_add (a b : Char) :
    (mk a b).toList.length + (if (mk a b).CrossesSurrogates then 2048 else 0) =
      ((b.toNat : ℤ) - a.toNat).natAbs + 1 := by
  have hlow : (min a b).toNat ≤ (max a b).toNat := char_le_iff.mp min_le_max
  have hdistance : ((b.toNat : ℤ) - a.toNat).natAbs = (max a b).toNat - (min a b).toNat := by
    rw [monotone_toNat.map_min, monotone_toNat.map_max]
    omega
  rw [(toList_perm_ascending a b).length_eq, hdistance]
  exact length_charsBetween_add hlow

end CharRange

/-- A range from `a` to `b` has every character between its ends once and no others, in order from
`a` to `b`, which are the first and the last of them. Surrogates are missing where it crosses them. The
range from `b` to `a` is the same backwards. -/
theorem range_enumerates_exactly (a b : Char) :
    (∀ c, (CharRange.mk a b).toList.count c = if min a b ≤ c ∧ c ≤ max a b then 1 else 0) ∧
    (a ≤ b → (CharRange.mk a b).toList.Pairwise (· < ·)) ∧
    (b < a → (CharRange.mk a b).toList.Pairwise (· > ·)) ∧
    (CharRange.mk a b).toList.head? = some a ∧
    (CharRange.mk a b).toList.getLast? = some b ∧
    (CharRange.mk a b).toList.length +
      (if (CharRange.mk a b).CrossesSurrogates then 2048 else 0) =
        ((b.toNat : ℤ) - a.toNat).natAbs + 1 ∧
    (CharRange.mk b a).toList = (CharRange.mk a b).toList.reverse := by
  have hsorted : (CharRange.mk a b).ascending.Pairwise (· < ·) := pairwise_charsBetween _ _
  refine ⟨fun c => ?_, fun h => ?_, fun h => ?_, CharRange.head?_toList a b,
    CharRange.getLast?_toList a b, CharRange.length_toList_add a b, CharRange.toList_swap a b⟩
  · have hnodup : (CharRange.mk a b).toList.Nodup := by
      rw [(CharRange.toList_perm_ascending a b).nodup_iff]
      exact hsorted.nodup
    rw [hnodup.count]
    simp only [CharRange.mem_toList]
  · rw [CharRange.toList_of_le h]
    exact hsorted
  · rw [CharRange.toList_of_ge h.le, List.pairwise_reverse]
    exact hsorted

/-- Across the surrogates in both directions: the four characters next to them. -/
theorem range_enumerates_exactly_surrogates :
    '\ud7fe' ≤ '\ue001' ∧ (CharRange.mk '\ud7fe' '\ue001').toList.Pairwise (· < ·) ∧
    '\ud7fe' < '\ue001' ∧ (CharRange.mk '\ue001' '\ud7fe').toList.Pairwise (· > ·) ∧
    (CharRange.mk '\ud7fe' '\ue001').toList.length = 4 := by
  have hle : '\ud7fe' ≤ '\ue001' := by decide
  have hlt : '\ud7fe' < '\ue001' := by decide
  obtain ⟨_, hup, _, _, _, hlength, _⟩ := range_enumerates_exactly '\ud7fe' '\ue001'
  obtain ⟨_, _, hdown, _⟩ := range_enumerates_exactly '\ue001' '\ud7fe'
  refine ⟨hle, hup hle, hlt, hdown hlt, ?_⟩
  have hcross : (CharRange.mk '\ud7fe' '\ue001').CrossesSurrogates := by decide
  have hdistance : (('\ue001'.toNat : ℤ) - '\ud7fe'.toNat).natAbs = 2051 := rfl
  rw [if_pos hcross, hdistance] at hlength
  exact Nat.add_right_cancel hlength

end LiteralRegex
