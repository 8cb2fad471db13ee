import LiteralRegex.CharRange.Words
import LiteralRegex.Proofs.CharRange.Calls
import LiteralRegex.Proofs.CharRange.Members
import Mathlib.Order.MinMax

/-!
# Words are enough for a walk

A walk in words stays inside its range as the walk over numbers of any size does, so its steps never leave
the words (`exists_after?_eq_some`) and one turn can come to three things only (`turn_cases`). A turn that
goes on has looked at a surrogate, and the last number is none. So turns go on no more often than there are
surrogates ahead (`isSome_call?`), and the call finds what it finds over numbers of any size
(`next_of_call?`).
-/

namespace LiteralRegex

lemma CharRange.Spans.between {r : CharRange} {n : ℕ} (h : r.Spans n) :
    (min r.first r.last).toNat ≤ n ∧ n ≤ (max r.first r.last).toNat := by
  rw [monotone_toNat.map_min, monotone_toNat.map_max]
  unfold CharRange.Spans at h
  split at h <;> omega

namespace Cursor

open Unicode (IsSurrogate)

variable {cur : Cursor} {n : ℕ}

/-- The position of a walk has no say in what is found from a number on. -/
lemma nextFrom_with_position (cur : Cursor) (position : Option ℕ) (n : ℕ) :
    ({ cur with position }).nextFrom n = cur.nextFrom n := by
  fun_induction Cursor.nextFrom cur n with
  | case1 n c hc =>
    rw [nextFrom, hc]
    rfl
  | case2 n hnone hgo ih =>
    rw [nextFrom, hnone]
    dsimp only
    rw [if_pos hgo]
    exact ih
  | case3 n hnone hstop =>
    rw [nextFrom, hnone]
    dsimp only
    rw [if_neg hstop]

/-- A surrogate is one of 2048, and one fewer is ahead behind it. -/
lemma surrogatesAhead_of_isSurrogate (h : IsSurrogate n) :
    cur.surrogatesAhead (cur.step n) < cur.surrogatesAhead n ∧ cur.surrogatesAhead n ≤ 2048 := by
  unfold IsSurrogate at h
  unfold surrogatesAhead step
  split <;> omega

/-- Passing over a surrogate does not change what the call finds. -/
lemma next_after (hposition : cur.position = some n) (hsurrogate : IsSurrogate n)
    (hne : n ≠ cur.last) : (cur.after n).next = cur.next := by
  have hafter : (cur.after n).position = some (cur.step n) := if_neg hne
  have hnone : Unicode.scalar? n = none := Unicode.scalar?_eq_none_iff.mpr (.inl hsurrogate)
  rw [next_of_position_eq_some hafter, next_of_position_eq_some hposition]
  conv_rhs => rw [nextFrom, hnone]
  dsimp only
  rw [if_pos ⟨hsurrogate, hne⟩]
  exact nextFrom_with_position cur _ _

end Cursor

namespace WordCursor

open Unicode (IsSurrogate)

variable {r : CharRange} {w : WordCursor} {n : UInt32}

/-! ## One turn -/

lemma position_toCursor (h : w.position = some n) : w.toCursor.position = some n.toNat := by
  rw [toCursor, h]
  rfl

/-- In front of the last number there is room for a step. -/
lemma room_of_ne_last (hw : w.toCursor.Within r) (hn : w.position = some n) (hne : n ≠ w.last) :
    if w.descending then 1 ≤ n.toNat else n.toNat + 1 ≤ 0x10FFFF := by
  have hreaches := hw.reaches (hw.spans _ (position_toCursor hn))
  have hlast : w.toCursor.last ≤ 0x10FFFF := hw.last_eq ▸ (Unicode.toNat_valid r.last).2
  have hne' : n.toNat ≠ w.last.toNat := fun heq => hne (UInt32.toNat_inj.mp heq)
  change w.last.toNat ≤ 0x10FFFF at hlast
  unfold Cursor.Reaches at hreaches
  change if w.descending then w.last.toNat ≤ n.toNat else n.toNat ≤ w.last.toNat at hreaches
  split
  · next hd =>
    rw [if_pos hd] at hreaches
    omega
  · next hd =>
    rw [if_neg hd] at hreaches
    omega

lemma exists_step?_eq_some
    (hroom : if w.descending then 1 ≤ n.toNat else n.toNat + 1 ≤ 0x10FFFF) :
    ∃ next, w.step? n = some next ∧ next.toNat = w.toCursor.step n.toNat := by
  change ∃ next, w.step? n = some next ∧
    next.toNat = if w.descending then n.toNat - 1 else n.toNat + 1
  unfold step?
  cases hd : w.descending with
  | true =>
    rw [hd, if_pos rfl] at hroom
    have hne : n ≠ 0 := by
      rintro rfl
      exact absurd hroom (by decide)
    have hle : 1 ≤ n := UInt32.le_iff_toNat_le.mpr hroom
    rw [if_pos rfl, if_pos rfl, if_neg hne]
    exact ⟨n - 1, rfl, UInt32.toNat_sub_of_le n 1 hle⟩
  | false =>
    rw [hd, if_neg Bool.false_ne_true] at hroom
    have hne : n ≠ 0xFFFFFFFF := by
      rintro rfl
      exact absurd hroom (by decide)
    have hlt : n.toNat + (1 : UInt32).toNat < 2 ^ 32 := by
      rw [UInt32.toNat_one]
      omega
    rw [if_neg Bool.false_ne_true, if_neg Bool.false_ne_true, if_neg hne]
    refine ⟨n + 1, rfl, ?_⟩
    rw [UInt32.toNat_add, Nat.mod_eq_of_lt hlt]
    rfl

/-- No turn leaves the words. -/
lemma exists_after?_eq_some (hw : w.toCursor.Within r) (hn : w.position = some n) :
    ∃ after, w.after? n = some after ∧ after.toCursor = w.toCursor.after n.toNat := by
  unfold after? Cursor.after
  by_cases hlast : n = w.last
  · have hlast' : n.toNat = w.toCursor.last := congrArg UInt32.toNat hlast
    rw [if_pos hlast, if_pos hlast']
    exact ⟨_, rfl, rfl⟩
  · have hlast' : n.toNat ≠ w.toCursor.last := fun heq => hlast (UInt32.toNat_inj.mp heq)
    obtain ⟨next, hnext, hvalue⟩ := exists_step?_eq_some (room_of_ne_last hw hn hlast)
    rw [if_neg hlast, if_neg hlast', hnext, ← hvalue]
    exact ⟨_, rfl, rfl⟩

/-- What a turn inside the range can come to: the walk has finished, a character is found, or a surrogate
is passed over. -/
lemma turn_cases (hw : w.toCursor.Within r) :
    (w.position = none ∧ w.turn = .ends none w) ∨
    (∃ n c after, w.position = some n ∧ Unicode.scalar? n.toNat = some c ∧
      w.turn = .ends (some c) after ∧ after.toCursor = w.toCursor.after n.toNat) ∨
    ∃ n after, w.position = some n ∧ IsSurrogate n.toNat ∧
      w.turn = .goesOn after ∧ after.toCursor = w.toCursor.after n.toNat := by
  unfold turn
  cases hn : w.position with
  | none => exact .inl ⟨rfl, rfl⟩
  | some n =>
    obtain ⟨after, hafter, hcursor⟩ := exists_after?_eq_some hw hn
    dsimp only
    rw [hafter]
    cases hscalar : Unicode.scalar? n.toNat with
    | some c => exact .inr (.inl ⟨n, c, after, rfl, hscalar, rfl, hcursor⟩)
    | none =>
      have hsurrogate : IsSurrogate n.toNat := by
        have hbound := Cursor.le_of_spans (hw.spans _ (position_toCursor hn))
        exact (Unicode.scalar?_eq_none_iff.mp hscalar).resolve_right (Nat.not_lt_of_le hbound)
      exact .inr (.inr ⟨n, after, rfl, hsurrogate, rfl, hcursor⟩)

/-- A turn leaves the walk inside its range. -/
lemma within_of_turn {after : WordCursor} (hw : w.toCursor.Within r)
    (hturn : w.turn.walk? = some after) : after.toCursor.Within r := by
  obtain ⟨-, h⟩ | ⟨n, c, after', hn, -, h, hcursor⟩ | ⟨n, after', hn, -, h, hcursor⟩ := turn_cases hw
  · rw [h] at hturn
    obtain rfl : w = after := Option.some.inj hturn
    exact hw
  · rw [h] at hturn
    obtain rfl : after' = after := Option.some.inj hturn
    rw [hcursor]
    exact hw.after (hw.spans _ (position_toCursor hn))
  · rw [h] at hturn
    obtain rfl : after' = after := Option.some.inj hturn
    rw [hcursor]
    exact hw.after (hw.spans _ (position_toCursor hn))

lemma Reached.within (h : w.Reached r) : w.toCursor.Within r := by
  induction h with
  | start => exact r.within_start
  | turn _ hturn ih => exact within_of_turn ih hturn

/-! ## All turns of a call -/

/-- A call ends when there are more turns than surrogates ahead. -/
lemma isSome_call? {turns : ℕ} (hw : w.toCursor.Within r) (hpos : 0 < turns)
    (hturns : ∀ n, w.position = some n → IsSurrogate n.toNat →
      w.toCursor.surrogatesAhead n.toNat < turns) : (w.call? turns).isSome := by
  induction turns generalizing w with
  | zero => exact absurd hpos (Nat.lt_irrefl 0)
  | succ turns ih =>
    rw [call?]
    obtain ⟨-, h⟩ | ⟨n, c, after, -, -, h, -⟩ | ⟨n, after, hn, hsurrogate, h, hcursor⟩ :=
      turn_cases hw
    · rw [h]
      rfl
    · rw [h]
      rfl
    · rw [h]
      have hahead := hturns n hn hsurrogate
      have hless := (w.toCursor.surrogatesAhead_of_isSurrogate hsurrogate).1
      have hafter : after.toCursor.Within r := within_of_turn hw (by rw [h]; rfl)
      refine ih hafter (by omega) fun m hm _ => ?_
      have hm' := position_toCursor hm
      rw [hcursor] at hm' ⊢
      rw [← Cursor.eq_step_of_position_after hm']
      exact Nat.lt_of_lt_of_le hless (Nat.le_of_lt_succ hahead)

/-- A call that ends has found what it finds over numbers of any size. -/
lemma next_of_call? {turns : ℕ} {found : Option Char} {after : WordCursor}
    (hw : w.toCursor.Within r) (hcall : w.call? turns = some (found, after)) :
    w.toCursor.next = (found, after.toCursor) := by
  induction turns generalizing w with
  | zero => nomatch hcall
  | succ turns ih =>
    rw [call?] at hcall
    obtain ⟨hn, h⟩ | ⟨n, c, behind, hn, hc, h, hcursor⟩ | ⟨n, behind, hn, hsurrogate, h, hcursor⟩ :=
      turn_cases hw
    · rw [h] at hcall
      obtain ⟨rfl, rfl⟩ := Prod.mk.inj (Option.some.inj hcall)
      have hposition : w.toCursor.position = none := by rw [toCursor, hn]; rfl
      exact Cursor.next_of_position_eq_none hposition
    · rw [h] at hcall
      obtain ⟨rfl, rfl⟩ := Prod.mk.inj (Option.some.inj hcall)
      rw [Cursor.next_of_position_eq_some (position_toCursor hn), Cursor.nextFrom, hc, hcursor]
    · rw [h] at hcall
      have hbehind : behind.toCursor.Within r := within_of_turn hw (by rw [h]; rfl)
      have hne : n.toNat ≠ w.toCursor.last := by
        intro heq
        exact hw.not_isSurrogate_last (heq ▸ hsurrogate)
      rw [← ih hbehind hcall, hcursor]
      exact (Cursor.next_after (position_toCursor hn) hsurrogate hne).symm

lemma Reached.call? {turns : ℕ} {found : Option Char} {after : WordCursor} (h : w.Reached r)
    (hcall : w.call? turns = some (found, after)) : after.Reached r := by
  induction turns generalizing w with
  | zero => nomatch hcall
  | succ turns ih =>
    rw [WordCursor.call?] at hcall
    cases hturn : w.turn with
    | ends found' after' =>
      rw [hturn] at hcall
      obtain ⟨rfl, rfl⟩ := Prod.mk.inj (Option.some.inj hcall)
      exact h.turn (by rw [hturn]; rfl)
    | goesOn behind =>
      rw [hturn] at hcall
      exact ih (h.turn (by rw [hturn]; rfl)) hcall
    | overflows =>
      rw [hturn] at hcall
      nomatch hcall

/-- A finished walk stays as it is. -/
lemma eq_of_call? {turns : ℕ} {found : Option Char} {after : WordCursor}
    (hposition : w.position = none) (hcall : w.call? turns = some (found, after)) : after = w := by
  cases turns with
  | zero => nomatch hcall
  | succ turns =>
    rw [call?, turn, hposition] at hcall
    exact (Prod.mk.inj (Option.some.inj hcall)).2.symm

/-- Wherever a walk has come to turn by turn, it keeps its end and direction. Its number is between the ends
of the range, not beyond the last one in its direction, and one step on there is still no number below 0 or
beyond U+10FFFF. A call that begins there ends within 2049 turns. It finds what it finds over numbers of any
size, which is nothing only if the walk has finished, and then the walk stays as it is. -/
theorem calls_end_in_words {r : CharRange} {w : WordCursor} (h : w.Reached r) :
    (w.last = r.last.val ∧ w.descending = r.isDescending) ∧
    (∀ n, w.position = some n →
      ((min r.first r.last).val ≤ n ∧ n ≤ (max r.first r.last).val) ∧
      (if w.descending then w.last ≤ n else n ≤ w.last) ∧
      (n ≠ w.last → if w.descending then 1 ≤ n.toNat else n.toNat + 1 ≤ 0x10FFFF)) ∧
    (w.call? 2049).isSome ∧
    ∀ turns found after, w.call? turns = some (found, after) →
      after.Reached r ∧ (found = none ↔ w.position = none) ∧ (found = none → after = w) ∧
      w.toCursor.next = (found, after.toCursor) := by
  have hw := h.within
  refine ⟨⟨UInt32.toNat_inj.mp hw.last_eq, hw.descending_eq⟩,
    fun n hn => ⟨?_, ?_, room_of_ne_last hw hn⟩, ?_, fun turns found after hcall => ?_⟩
  · obtain ⟨hlow, hhigh⟩ := (hw.spans _ (position_toCursor hn)).between
    exact ⟨UInt32.le_iff_toNat_le.mpr hlow, UInt32.le_iff_toNat_le.mpr hhigh⟩
  · have hreaches := hw.reaches (hw.spans _ (position_toCursor hn))
    simp only [UInt32.le_iff_toNat_le]
    exact hreaches
  · apply isSome_call? hw (by decide)
    intro n _ hsurrogate
    exact Nat.lt_succ_of_le (Cursor.surrogatesAhead_of_isSurrogate hsurrogate).2
  · have hnext := next_of_call? hw hcall
    have hfound : found = none ↔ w.position = none := by
      have hiff := Cursor.next_eq_none_iff hw
      rw [hnext] at hiff
      exact hiff.trans Option.map_eq_none_iff
    exact ⟨h.call? hcall, hfound, fun hnone => eq_of_call? (hfound.mp hnone) hcall, hnext⟩

/-- One step behind the last character in front of the surrogates: a call has to pass over all of them. The
walk has finished afterwards and finds nothing more. -/
theorem calls_end_in_words_surrogates :
    (WordCursor.mk (some 0xD800) 0xE000 false).Reached ⟨'\ud7ff', '\ue000'⟩ ∧
    (0xD800 : UInt32) ≠ 0xE000 ∧ (0xD800 : UInt32).toNat + 1 ≤ 0x10FFFF ∧
    (WordCursor.mk (some 0xD800) 0xE000 false).call? 2049 =
      some (some '\ue000', ⟨none, 0xE000, false⟩) ∧
    (WordCursor.mk (some 0xD800) 0xE000 false).toCursor.next =
      (some '\ue000', ⟨none, 0xE000, false⟩) ∧
    (WordCursor.mk none 0xE000 false).Reached ⟨'\ud7ff', '\ue000'⟩ ∧
    ∃ after, (WordCursor.mk none 0xE000 false).call? 2049 = some (none, after) ∧
      after = WordCursor.mk none 0xE000 false := by
  have hreached : (WordCursor.mk (some 0xD800) 0xE000 false).Reached ⟨'\ud7ff', '\ue000'⟩ :=
    .turn .start (by decide)
  have hne : (0xD800 : UInt32) ≠ 0xE000 := by decide
  have hcall : (WordCursor.mk (some 0xD800) 0xE000 false).call? 2049 =
      some (some '\ue000', ⟨none, 0xE000, false⟩) := by decide +kernel
  obtain ⟨-, hposition, -, hcalls⟩ := calls_end_in_words hreached
  obtain ⟨hafter, -, -, hnext⟩ := hcalls _ _ _ hcall
  obtain ⟨-, -, -, hcalls'⟩ := calls_end_in_words hafter
  have hdone : (WordCursor.mk none 0xE000 false).call? 2049 =
      some (none, WordCursor.mk none 0xE000 false) := by decide
  exact ⟨hreached, hne, (hposition _ rfl).2.2 hne, hcall, hnext, hafter, _, hdone,
    (hcalls' _ _ _ hdone).2.2.1 rfl⟩

end WordCursor

end LiteralRegex
