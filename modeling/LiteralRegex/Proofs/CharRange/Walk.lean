import LiteralRegex.CharRange.ListWalk
import Mathlib.Data.List.Basic
import Mathlib.Tactic.Common

/-!
# A walk is a walk over a list

A cursor keeps a number, not a list, and passes surrogates over on the way. `Cursor.ahead` says
which characters it has before it: those of the numbers up to the last one, in its direction.
`Cursor.next_spec` shows that the next character is the first of these and that the others are
ahead of the cursor behind it, for cursors that stand inside their range (`Cursor.Within`).

The rest is put together from this one step. Reading several characters takes a front of the list
(`Cursor.takeOnto_spec`), each move keeps a walk and a list in step (`Walk.Shows.move`), and so
does every sequence of moves (`Walk.Shows.getElem?_replies`).
-/

namespace LiteralRegex

open Unicode (scalar?)

/-! ## Numbers ahead -/

/-- Holds of the numbers from one end of the range to the other. -/
def CharRange.Spans (r : CharRange) (n : ℕ) : Prop :=
  if r.isDescending then r.last.toNat ≤ n ∧ n ≤ r.first.toNat
  else r.first.toNat ≤ n ∧ n ≤ r.last.toNat

lemma CharRange.isDescending_iff {r : CharRange} :
    r.isDescending = true ↔ r.last.toNat < r.first.toNat := by
  rw [isDescending, decide_eq_true_iff, Char.lt_def, UInt32.lt_iff_toNat_lt]
  rfl

namespace Cursor

/-- Holds when the walk meets its last number going on from `n`. -/
def Reaches (cur : Cursor) (n : ℕ) : Prop := if cur.descending then cur.last ≤ n else n ≤ cur.last

/-- The numbers from `n` to the last one in the direction of the walk. -/
def numbersFrom (cur : Cursor) (n : ℕ) : List ℕ :=
  if cur.descending then (List.range' cur.last (n + 1 - cur.last)).reverse
  else List.range' n (cur.last + 1 - n)

lemma numbersFrom_last (cur : Cursor) : cur.numbersFrom cur.last = [cur.last] := by
  unfold numbersFrom
  rw [Nat.add_sub_cancel_left]
  cases cur.descending <;> rfl

/-- In front of the last number, one step is taken at a time. -/
lemma numbersFrom_eq_cons {cur : Cursor} {n : ℕ} (h : cur.Reaches n) (hne : n ≠ cur.last) :
    cur.numbersFrom n = n :: cur.numbersFrom (cur.step n) := by
  unfold Reaches at h
  unfold numbersFrom step
  cases hd : cur.descending with
  | true =>
    rw [hd, if_pos rfl] at h
    have hcount : n + 1 - cur.last = (n - 1 + 1 - cur.last) + 1 := by omega
    have htop : cur.last + 1 * (n - 1 + 1 - cur.last) = n := by omega
    rw [if_pos rfl, if_pos rfl, if_pos rfl, hcount, List.range'_concat, htop, List.reverse_append]
    rfl
  | false =>
    rw [hd, if_neg Bool.false_ne_true] at h
    have hcount : cur.last + 1 - n = (cur.last + 1 - (n + 1)) + 1 := by omega
    simp only [Bool.false_eq_true, if_false]
    rw [hcount, List.range'_succ]

/-- The characters that the walk has before it from the number `n` on. -/
def aheadFrom (cur : Cursor) (n : ℕ) : Text := (cur.numbersFrom n).filterMap scalar?

/-- The characters that the walk has before it. -/
def ahead (cur : Cursor) : Text :=
  match cur.position with
  | none => []
  | some n => cur.aheadFrom n

lemma ahead_of_position_eq_none {cur : Cursor} (h : cur.position = none) : cur.ahead = [] := by
  rw [ahead, h]

lemma ahead_of_position_eq_some {cur : Cursor} {n : ℕ} (h : cur.position = some n) :
    cur.ahead = cur.aheadFrom n := by
  rw [ahead, h]

/-- Looking at a number takes its character off what is ahead. -/
lemma aheadFrom_eq {cur : Cursor} {n : ℕ} (h : cur.Reaches n) :
    cur.aheadFrom n = (scalar? n).toList ++ (cur.after n).ahead := by
  have hcons : ∀ rest : List ℕ, (n :: rest).filterMap scalar? =
      (scalar? n).toList ++ rest.filterMap scalar? := by
    intro rest
    rw [List.filterMap_cons]
    cases scalar? n <;> rfl
  unfold aheadFrom after ahead
  by_cases hlast : n = cur.last
  · rw [if_pos hlast, hlast, numbersFrom_last, ← hlast, hcons]
    rfl
  · rw [if_neg hlast, numbersFrom_eq_cons h hlast, hcons]
    rfl

/-! ## One step -/

/-- Holds of the walks that go through the range and stand inside it. -/
structure Within (r : CharRange) (cur : Cursor) : Prop where
  last_eq : cur.last = r.last.toNat
  descending_eq : cur.descending = r.isDescending
  spans : ∀ n, cur.position = some n → r.Spans n

variable {r : CharRange} {cur : Cursor} {n : ℕ}

lemma Within.reaches (hcur : cur.Within r) (hn : r.Spans n) : cur.Reaches n := by
  unfold CharRange.Spans at hn
  unfold Reaches
  rw [hcur.descending_eq, hcur.last_eq]
  split at hn
  · next hd => rw [if_pos hd]; exact hn.1
  · next hd => rw [if_neg hd]; exact hn.2

/-- The number after one inside the range is inside the range, unless it was the last. -/
lemma Within.spans_step (hcur : cur.Within r) (hn : r.Spans n) (hne : n ≠ cur.last) :
    r.Spans (cur.step n) := by
  rw [hcur.last_eq] at hne
  unfold CharRange.Spans at *
  unfold step
  rw [hcur.descending_eq]
  split at hn
  · next hd =>
    rw [if_pos hd, if_pos hd]
    omega
  · next hd =>
    rw [if_neg hd, if_neg hd]
    omega

lemma Within.after (hcur : cur.Within r) (hn : r.Spans n) : (cur.after n).Within r where
  last_eq := hcur.last_eq
  descending_eq := hcur.descending_eq
  spans := by
    intro m hm
    unfold Cursor.after at hm
    dsimp only at hm
    split at hm
    · simp at hm
    · next hne =>
      rw [← Option.some.inj hm]
      exact hcur.spans_step hn hne

/-- No number inside a range is beyond those of characters. -/
lemma le_of_spans (hn : r.Spans n) : n ≤ 0x10FFFF := by
  have hfirst := (Unicode.toNat_valid r.first).2
  have hlast := (Unicode.toNat_valid r.last).2
  unfold CharRange.Spans at hn
  split at hn <;> omega

/-- From a number inside the range on, the next character is the first of those ahead. -/
lemma nextFrom_spec (hcur : cur.Within r) (hn : r.Spans n) :
    (cur.nextFrom n).1 = (cur.aheadFrom n).head? ∧
      (cur.nextFrom n).2.ahead = (cur.aheadFrom n).tail ∧ (cur.nextFrom n).2.Within r := by
  fun_induction Cursor.nextFrom cur n with
  | case1 n c hc =>
    rw [aheadFrom_eq (hcur.reaches hn), hc]
    exact ⟨rfl, rfl, hcur.after hn⟩
  | case2 n hnone hgo ih =>
    -- a surrogate in front of the last number adds nothing to what is ahead
    have hstep := hcur.spans_step hn hgo.2
    have hahead : cur.aheadFrom n = cur.aheadFrom (cur.step n) := by
      rw [aheadFrom_eq (hcur.reaches hn), hnone]
      unfold Cursor.after ahead
      rw [if_neg hgo.2]
      rfl
    rw [hahead]
    exact ih hstep
  | case3 n hnone hstop =>
    -- only the last number can be left, and it has no character
    have hlast : n = cur.last := by
      by_contra hne
      have hle := le_of_spans hn
      rcases Unicode.scalar?_eq_none_iff.mp hnone with hsurrogate | hbeyond
      · exact hstop ⟨hsurrogate, hne⟩
      · omega
    have hahead : cur.aheadFrom n = [] := by
      rw [aheadFrom_eq (hcur.reaches hn), hnone]
      unfold Cursor.after ahead
      rw [if_pos hlast]
      rfl
    rw [hahead]
    exact ⟨rfl, rfl, hcur.last_eq, hcur.descending_eq, by simp⟩

lemma next_of_position_eq_none (h : cur.position = none) : cur.next = (none, cur) := by
  rw [next, h]

lemma next_of_position_eq_some (h : cur.position = some n) : cur.next = cur.nextFrom n := by
  rw [next, h]

/-- The next character is the first of those ahead, and the others are ahead afterwards. -/
theorem next_spec (hcur : cur.Within r) :
    cur.next.1 = cur.ahead.head? ∧ cur.next.2.ahead = cur.ahead.tail ∧ cur.next.2.Within r := by
  cases hposition : cur.position with
  | none =>
    rw [next_of_position_eq_none hposition, ahead_of_position_eq_none hposition]
    exact ⟨rfl, rfl, hcur⟩
  | some n =>
    rw [next_of_position_eq_some hposition, ahead_of_position_eq_some hposition]
    exact nextFrom_spec hcur (hcur.spans n hposition)

/-! ## Several characters -/

/-- Taking characters takes a front of those ahead. -/
lemma takeOnto_spec (hcur : cur.Within r) (taken : List Char) (count : ℕ) :
    (cur.takeOnto taken count).1 = taken.reverse ++ cur.ahead.take count ∧
      (cur.takeOnto taken count).2.ahead = cur.ahead.drop count ∧
      (cur.takeOnto taken count).2.Within r := by
  induction count generalizing taken cur with
  | zero => exact ⟨by simp [takeOnto], rfl, hcur⟩
  | succ count ih =>
    obtain ⟨hnext, hahead, hwithin⟩ := next_spec hcur
    rw [takeOnto]
    cases hstep : cur.next with
    | mk found behind =>
      rw [hstep] at hnext hahead hwithin
      dsimp only at hnext hahead hwithin
      cases hleft : cur.ahead with
      | nil =>
        -- nothing was ahead, so the walk stops here
        rw [hleft] at hnext hahead
        rw [hnext]
        exact ⟨by simp, hahead, hwithin⟩
      | cons c left =>
        rw [hleft] at hnext hahead
        obtain ⟨htaken, hbehind, hinside⟩ := ih hwithin (c :: taken)
        rw [hahead] at htaken hbehind
        rw [hnext]
        exact ⟨by simpa using htaken, hbehind, hinside⟩

/-- No more characters are ahead than numbers. -/
lemma length_ahead_le (hcur : cur.Within r) : cur.ahead.length ≤ cur.numbersLeft := by
  unfold ahead numbersLeft
  cases hposition : cur.position with
  | none => exact Nat.le_refl 0
  | some n =>
    have hreaches := hcur.reaches (hcur.spans n hposition)
    have hlength : (cur.aheadFrom n).length ≤ (cur.numbersFrom n).length :=
      List.length_filterMap_le _ _
    unfold numbersFrom at hlength
    unfold Reaches at hreaches
    dsimp only
    split at hlength
    · next hd =>
      rw [if_pos hd] at hreaches
      rw [List.length_reverse, List.length_range'] at hlength
      split <;> omega
    · next hd =>
      rw [if_neg hd] at hreaches
      rw [List.length_range'] at hlength
      rw [if_pos hreaches]
      omega

/-- Reading the rest takes all that is ahead. -/
lemma rest_spec (hcur : cur.Within r) :
    cur.rest.1 = cur.ahead ∧ cur.rest.2.ahead = [] ∧ cur.rest.2.Within r := by
  obtain ⟨htaken, hahead, hwithin⟩ := takeOnto_spec hcur [] cur.numbersLeft
  rw [List.take_of_length_le (length_ahead_le hcur)] at htaken
  rw [List.drop_of_length_le (length_ahead_le hcur)] at hahead
  exact ⟨htaken, hahead, hwithin⟩

end Cursor

/-! ## From the beginning -/

namespace CharRange

lemma within_start (r : CharRange) : r.start.Within r where
  last_eq := rfl
  descending_eq := rfl
  spans := by
    intro n hn
    obtain rfl : r.first.toNat = n := Option.some.inj hn
    unfold Spans
    have hiff := r.isDescending_iff
    split
    · next hd => exact ⟨Nat.le_of_lt (hiff.mp hd), Nat.le_refl _⟩
    · next hd => exact ⟨Nat.le_refl _, Nat.le_of_not_lt fun hlt => hd (hiff.mpr hlt)⟩

/-- At the beginning all members are ahead. -/
lemma ahead_start (r : CharRange) : r.start.ahead = r.members := by
  show (if r.isDescending then (List.range' r.last.toNat (r.first.toNat + 1 - r.last.toNat)).reverse
    else List.range' r.first.toNat (r.last.toNat + 1 - r.first.toNat)).filterMap scalar? = _
  unfold members charsBetween
  split
  · rw [List.filterMap_reverse]
  · rfl

lemma toList_eq_members (r : CharRange) : r.toList = r.members := by
  rw [toList, (Cursor.rest_spec r.within_start).1, ahead_start]

end CharRange

/-! ## All moves -/

namespace Walk

/-- Holds when the walk and its saved walk have before them what the list walk has left. -/
structure Shows (w : Walk) (l : ListWalk) : Prop where
  range_eq : w.range = l.range
  cursor_within : w.cursor.Within w.range
  saved_within : w.saved.Within w.range
  cursor_ahead : w.cursor.ahead = l.left
  saved_ahead : w.saved.ahead = l.saved

lemma shows_start (r : CharRange) : (start r).Shows (ListWalk.start r) where
  range_eq := rfl
  cursor_within := r.within_start
  saved_within := r.within_start
  cursor_ahead := r.ahead_start
  saved_ahead := r.ahead_start

variable {w : Walk} {l : ListWalk}

/-- A walk that goes on behind some characters stays in step when these are passed in the list. -/
lemma Shows.pass (h : w.Shows l) {cursor : Cursor} {count : ℕ}
    (hahead : cursor.ahead = w.cursor.ahead.drop count) (hwithin : cursor.Within w.range) :
    { w with cursor }.Shows (l.pass count) where
  range_eq := h.range_eq
  cursor_within := hwithin
  saved_within := h.saved_within
  cursor_ahead := by rw [hahead, h.cursor_ahead]; rfl
  saved_ahead := h.saved_ahead

/-- Every move leaves a walk and a list in step, and tells the same of both, except for bounds of
their length. -/
lemma Shows.move (h : w.Shows l) (m : Move) :
    (m ≠ .sizeHint → (w.move m).1 = (l.move m).1) ∧ (w.move m).2.Shows (l.move m).2 := by
  have hrest := Cursor.rest_spec h.cursor_within
  have hdone : w.cursor.rest.2.ahead = w.cursor.ahead.drop l.left.length := by
    rw [hrest.2.1, h.cursor_ahead, List.drop_length]
  have hlist : w.range.toList = l.range.members := by
    rw [CharRange.toList_eq_members, h.range_eq]
  cases m with
  | next =>
    obtain ⟨hfound, hahead, hwithin⟩ := Cursor.next_spec h.cursor_within
    rw [← List.drop_one] at hahead
    refine ⟨fun _ => ?_, h.pass hahead hwithin⟩
    show Reply.character w.cursor.next.1 = .character l.left.head?
    rw [hfound, h.cursor_ahead]
  | takeThree =>
    obtain ⟨htaken, hahead, hwithin⟩ := Cursor.takeOnto_spec h.cursor_within [] 3
    refine ⟨fun _ => ?_, h.pass hahead hwithin⟩
    show Reply.characters (w.cursor.takeOnto [] 3).1 = .characters (l.left.take 3)
    rw [htaken, h.cursor_ahead]
    rfl
  | rest =>
    refine ⟨fun _ => ?_, h.pass hdone hrest.2.2⟩
    show Reply.characters w.cursor.rest.1 = .characters l.left
    rw [hrest.1, h.cursor_ahead]
  | count =>
    refine ⟨fun _ => ?_, h.pass hdone hrest.2.2⟩
    show Reply.count w.cursor.rest.1.length = .count l.left.length
    rw [hrest.1, h.cursor_ahead]
  | sizeHint => exact ⟨fun hne => absurd rfl hne, h⟩
  | restart =>
    refine ⟨fun _ => rfl, h.range_eq, w.range.within_start, h.saved_within, ?_, h.saved_ahead⟩
    show w.range.start.ahead = l.range.members
    rw [CharRange.ahead_start, h.range_eq]
  | save =>
    exact ⟨fun _ => rfl, h.range_eq, h.cursor_within, h.cursor_within, h.cursor_ahead,
      h.cursor_ahead⟩
  | load =>
    exact ⟨fun _ => rfl, h.range_eq, h.saved_within, h.saved_within, h.saved_ahead, h.saved_ahead⟩
  | whole => exact ⟨fun _ => congrArg Reply.characters hlist, h⟩
  | describe => exact ⟨fun _ => congrArg Reply.description h.range_eq, h⟩

/-- A walk and a list in step tell the same at every move but those that ask for bounds. -/
lemma Shows.getElem?_replies (h : w.Shows l) {moves : List Move} {i : ℕ}
    (hi : moves[i]? ≠ some .sizeHint) : (w.replies moves)[i]? = (l.replies moves)[i]? := by
  induction moves generalizing w l i with
  | nil => rfl
  | cons m moves ih =>
    obtain ⟨hreply, hshows⟩ := h.move m
    rw [replies, ListWalk.replies]
    cases i with
    | zero =>
      have hm : m ≠ .sizeHint := by simpa using hi
      simp [hreply hm]
    | succ i =>
      simp only [List.getElem?_cons_succ] at hi ⊢
      exact ih hshows hi

/-- Whatever is done with a walk and its saved walk, each answer is that of the list of the members
of the range, of which the walk and the saved walk have an end left. Bounds of the count that is left
are told apart: the list knows its length. -/
theorem replies_eq_list_replies (r : CharRange) (moves : List Move) :
    (∀ i : ℕ, moves[i]? ≠ some .sizeHint →
      ((start r).replies moves)[i]? = ((ListWalk.start r).replies moves)[i]?) ∧
    (.sizeHint ∉ moves → (start r).replies moves = (ListWalk.start r).replies moves) := by
  have hall : ∀ i : ℕ, moves[i]? ≠ some .sizeHint →
      ((start r).replies moves)[i]? = ((ListWalk.start r).replies moves)[i]? :=
    fun _ => (shows_start r).getElem?_replies
  refine ⟨hall, fun hnone => List.ext_getElem? fun i => hall i fun hi => ?_⟩
  exact hnone (List.mem_of_getElem? hi)

/-- Across the surrogates, with a walk saved in front of them: four characters, then the saved three
are counted, and a new start gives all of them again. Asking for bounds changes nothing. -/
theorem replies_eq_list_replies_surrogates :
    Move.sizeHint ∉ [Move.next, .save, .takeThree, .next, .load, .count, .next, .restart, .rest] ∧
    (start ⟨'\ud7fe', '\ue001'⟩).replies
        [.next, .save, .takeThree, .next, .load, .count, .next, .restart, .rest] =
      [.character '\ud7fe', .saved, .characters ['\ud7ff', '\ue000', '\ue001'], .character none,
        .loaded, .count 3, .character none, .restarted,
        .characters ['\ud7fe', '\ud7ff', '\ue000', '\ue001']] ∧
    [Move.sizeHint, .next][1]? ≠ some .sizeHint ∧
    ((start ⟨'\ue001', '\ud7fe'⟩).replies [.sizeHint, .next])[1]? =
      some (.character '\ue001') := by
  have hnone : Move.sizeHint ∉
      [Move.next, .save, .takeThree, .next, .load, .count, .next, .restart, .rest] := by decide
  have hother : [Move.sizeHint, .next][1]? ≠ some .sizeHint := by decide
  refine ⟨hnone, ?_, hother, ?_⟩
  · rw [(replies_eq_list_replies _ _).2 hnone]
    decide +kernel
  · rw [(replies_eq_list_replies _ _).1 1 hother]
    decide +kernel

end Walk

end LiteralRegex
