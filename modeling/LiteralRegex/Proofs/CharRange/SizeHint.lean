import LiteralRegex.Proofs.CharRange.Calls
import LiteralRegex.Proofs.CharRange.Members
import Mathlib.Order.MinMax

/-!
# Size hints and characters

The hint of a walk counts numbers, and there are fewer characters. Between calls a walk never stands inside the
surrogates, only at their near edge (`Cursor.Settled`), so it has all of them before it or none. This is
what the hint is too large by (`Cursor.Settled.numbersLeft_eq`), and what a call that passes over them takes
off it besides the character.
-/

namespace LiteralRegex

open Unicode (IsSurrogate scalar? toNat_valid)

/-- The walk after some calls for the next character. -/
def CharRange.afterCalls (r : CharRange) : ℕ → Cursor
  | 0 => r.start
  | count + 1 => (r.afterCalls count).next.2

namespace Cursor

/-- Holds when the surrogates are among the numbers that the walk has before it. -/
def CrossesSurrogates (cur : Cursor) : Prop :=
  ∃ n ∈ cur.position, min n cur.last ≤ 0xD800 ∧ 0xDFFF ≤ max n cur.last

instance decidableCrossesSurrogates (cur : Cursor) : Decidable cur.CrossesSurrogates :=
  inferInstanceAs (Decidable (∃ n ∈ cur.position, _ ∧ _))

/-- Holds of the walks that stand inside their range, on a surrogate only if it is the first that they
meet. -/
structure Settled (r : CharRange) (cur : Cursor) : Prop extends Within r cur where
  edge : ∀ n, cur.position = some n → IsSurrogate n →
    n = if cur.descending then 0xDFFF else 0xD800

variable {r : CharRange} {cur : Cursor} {n : ℕ} {c : Char}

/-! ## Between calls -/

/-- One step behind a character a surrogate is the first of them. -/
lemma edge_step (h : IsSurrogate (cur.step c.toNat)) :
    cur.step c.toNat = if cur.descending then 0xDFFF else 0xD800 := by
  have hc := (toNat_valid c).1
  unfold IsSurrogate step at *
  split
  · next hd =>
    rw [if_pos hd] at h
    omega
  · next hd =>
    rw [if_neg hd] at h
    omega

lemma Settled.next (h : cur.Settled r) : cur.next.2.Settled r where
  toWithin := (next_spec h.toWithin).2.2
  edge := by
    intro m hm hsurrogate
    cases hfound : cur.next.1 with
    | none =>
      have hposition := (next_eq_none_iff h.toWithin).mp hfound
      rw [next_of_position_eq_none hposition] at hm ⊢
      exact h.edge m hm hsurrogate
    | some c =>
      obtain ⟨n, -, hbehind, -⟩ := next_eq_some hfound
      rw [hbehind] at hm ⊢
      obtain rfl := eq_step_of_position_after hm
      exact edge_step hsurrogate

lemma settled_afterCalls (r : CharRange) (calls : ℕ) : (r.afterCalls calls).Settled r := by
  induction calls with
  | zero =>
    refine ⟨r.within_start, fun n hn hsurrogate => ?_⟩
    obtain rfl : r.first.toNat = n := Option.some.inj hn
    exact absurd hsurrogate (toNat_valid r.first).1
  | succ calls ih => exact ih.next

/-! ## Numbers and characters -/

/-- Each number that is left is that of a character or a surrogate. -/
lemma length_aheadFrom_add (hcur : cur.Within r) (hposition : cur.position = some n) :
    (cur.aheadFrom n).length +
      (min (max n cur.last + 1) 0xE000 - max (min n cur.last) 0xD800) = cur.numbersLeft := by
  have hspans := hcur.spans n hposition
  have hreaches := hcur.reaches hspans
  have hbound := le_of_spans hspans
  have hlast : cur.last ≤ 0x10FFFF := hcur.last_eq ▸ (toNat_valid r.last).2
  unfold Reaches at hreaches
  unfold aheadFrom numbersFrom numbersLeft
  rw [hposition]
  dsimp only
  split
  · next hd =>
    rw [if_pos hd] at hreaches
    have hlength := @length_filterMap_scalar?_add cur.last (n + 1 - cur.last) (by omega)
    rw [List.filterMap_reverse, List.length_reverse]
    split <;> omega
  · next hd =>
    rw [if_neg hd] at hreaches
    have hlength := @length_filterMap_scalar?_add n (cur.last + 1 - n) (by omega)
    split <;> omega

/-- Between numbers that are at most at the edges of the surrogates all of these lie or none. -/
lemma surrogates_between {low high : ℕ} (hlow : IsSurrogate low → low = 0xD800)
    (hhigh : IsSurrogate high → high = 0xDFFF) :
    min (high + 1) 0xE000 - max low 0xD800 =
      if low ≤ 0xD800 ∧ 0xDFFF ≤ high then 2048 else 0 := by
  unfold IsSurrogate at hlow hhigh
  split <;> omega

/-- Between calls all surrogates are before the walk or none. -/
lemma Settled.numbersLeft_eq (h : cur.Settled r) :
    cur.numbersLeft = cur.ahead.length + if cur.CrossesSurrogates then 2048 else 0 := by
  cases hposition : cur.position with
  | none =>
    have hcross : ¬ cur.CrossesSurrogates := by
      rintro ⟨n, hn, -⟩
      rw [hposition] at hn
      nomatch hn
    rw [if_neg hcross, ahead_of_position_eq_none hposition, numbersLeft, hposition]
    rfl
  | some n =>
    have hcross : cur.CrossesSurrogates ↔ min n cur.last ≤ 0xD800 ∧ 0xDFFF ≤ max n cur.last := by
      simp [CrossesSurrogates, hposition]
    have hlast := h.not_isSurrogate_last
    have hreaches := h.reaches (h.spans n hposition)
    have hedge := h.edge n hposition
    unfold Reaches at hreaches
    have hlow : IsSurrogate (min n cur.last) → min n cur.last = 0xD800 := by
      split at hreaches
      · rw [Nat.min_eq_right hreaches]
        exact fun hs => absurd hs hlast
      · next hd =>
        rw [Nat.min_eq_left hreaches]
        rwa [if_neg hd] at hedge
    have hhigh : IsSurrogate (max n cur.last) → max n cur.last = 0xDFFF := by
      split at hreaches
      · next hd =>
        rw [Nat.max_eq_left hreaches]
        rwa [if_pos hd] at hedge
      · rw [Nat.max_eq_right hreaches]
        exact fun hs => absurd hs hlast
    rw [← length_aheadFrom_add h.toWithin hposition, ahead_of_position_eq_some hposition, if_congr hcross rfl rfl,
      surrogates_between hlow hhigh]

/-- No call brings the surrogates back before the walk. -/
lemma CrossesSurrogates.of_next (h : cur.Settled r) (hcross : cur.next.2.CrossesSurrogates) :
    cur.CrossesSurrogates := by
  cases hfound : cur.next.1 with
  | none =>
    have hposition := (next_eq_none_iff h.toWithin).mp hfound
    rwa [next_of_position_eq_none hposition] at hcross
  | some c =>
    obtain ⟨n, hn, hbehind, hside⟩ := next_eq_some hfound
    have hsettled := h.next
    rw [hbehind] at hcross hsettled
    obtain ⟨m, hm, hlow, hhigh⟩ := hcross
    have hreaches : cur.Reaches m := hsettled.reaches (hsettled.spans m hm)
    have hstep : cur.step c.toNat = m := eq_step_of_position_after hm
    -- the walk came from beyond where it stands now
    refine ⟨n, hn, ?_⟩
    change min m cur.last ≤ 0xD800 at hlow
    change 0xDFFF ≤ max m cur.last at hhigh
    unfold Reaches at hreaches
    unfold step at hstep
    split at hside
    · next hd =>
      rw [if_pos hd] at hreaches hstep
      omega
    · next hd =>
      rw [if_neg hd] at hreaches hstep
      omega

/-- Each call that finds a character takes one number off, and the surrogates if it passes over them. -/
theorem numbersLeft_next (h : cur.Settled r) :
    cur.numbersLeft = cur.next.2.numbersLeft +
      match cur.next.1 with
      | none => 0
      | some _ => if cur.CrossesSurrogates ∧ ¬ cur.next.2.CrossesSurrogates then 2049 else 1 := by
  cases hfound : cur.next.1 with
  | none =>
    have hposition := (next_eq_none_iff h.toWithin).mp hfound
    rw [next_of_position_eq_none hposition]
    rfl
  | some c =>
    obtain ⟨hhead, htail, -⟩ := next_spec h.toWithin
    have hlength : cur.ahead.length = cur.next.2.ahead.length + 1 := by
      rw [hfound, eq_comm, List.head?_eq_some_iff] at hhead
      obtain ⟨rest, hrest⟩ := hhead
      rw [htail, hrest]
      rfl
    have hmono := CrossesSurrogates.of_next h
    rw [h.numbersLeft_eq, h.next.numbersLeft_eq, hlength]
    dsimp only
    by_cases hbehind : cur.next.2.CrossesSurrogates
    · have hcross := hmono hbehind
      rw [if_pos hcross, if_pos hbehind, if_neg fun hand => hand.2 hbehind]
    · rw [if_neg hbehind]
      by_cases hcross : cur.CrossesSurrogates
      · rw [if_pos hcross, if_pos ⟨hcross, hbehind⟩]
      · rw [if_neg hcross, if_neg fun hand => hcross hand.1]

lemma numbersLeft_eq_zero_iff (hcur : cur.Within r) :
    cur.numbersLeft = 0 ↔ cur.next.1 = none := by
  rw [next_eq_none_iff hcur]
  unfold numbersLeft
  cases cur.position with
  | none => exact iff_of_true rfl rfl
  | some n => exact iff_of_false (Nat.succ_ne_zero _) (Option.some_ne_none n)

end Cursor

/-- After any number of calls for the next character the hint is from nothing to the numbers that are left.
These are the characters that are left, and the 2048 surrogates if the walk still crosses them. A call that
finds a character takes one number off, or 2049 if it passes over the surrogates. No number is left when no
character is found, and only then. -/
theorem size_hints_exact (r : CharRange) (calls : ℕ) :
    (∀ saved, ((Walk.mk r (r.afterCalls calls) saved).move .sizeHint).1 =
      .bounds 0 (r.afterCalls calls).numbersLeft) ∧
    (r.afterCalls calls).numbersLeft = (r.afterCalls calls).rest.1.length +
      (if (r.afterCalls calls).CrossesSurrogates then 2048 else 0) ∧
    (r.afterCalls calls).numbersLeft = (r.afterCalls (calls + 1)).numbersLeft +
      (match (r.afterCalls calls).next.1 with
      | none => 0
      | some _ =>
        if (r.afterCalls calls).CrossesSurrogates ∧ ¬ (r.afterCalls (calls + 1)).CrossesSurrogates
        then 2049 else 1) ∧
    ((r.afterCalls calls).numbersLeft = 0 ↔ (r.afterCalls calls).next.1 = none) := by
  have hsettled := Cursor.settled_afterCalls r calls
  refine ⟨fun saved => rfl, ?_, Cursor.numbersLeft_next hsettled,
    Cursor.numbersLeft_eq_zero_iff hsettled.toWithin⟩
  rw [(Cursor.rest_spec hsettled.toWithin).1]
  exact hsettled.numbersLeft_eq

/-- From the last character in front of the surrogates on: one number less while they are ahead, then all of
them and a character at once. -/
example :
    (List.range 4).map (fun calls =>
        ((CharRange.mk '\ud7ff' '\ue001').afterCalls calls).numbersLeft) = [2051, 2050, 1, 0] := by
  decide +kernel

end LiteralRegex
