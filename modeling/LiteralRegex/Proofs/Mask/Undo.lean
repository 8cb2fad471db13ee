import LiteralRegex.Proofs.Mask.Assembly

/-!
# Masks can be undone

In the masked text each mask stands where its span stood, moved by what the masks in front of
it have more or fewer characters than their spans. Put back into these places, the characters
of the spans give the text again.

`movedEnds` says where the masks stand with integers, from the sums of the differences in
front. `movedSpans` finds the same places going through the text, next to the position where
the last span ended; that is the form in which an induction from mask to mask carries the
masked text along (`maskedFrom_movedSpans`).
-/

namespace LiteralRegex

/-! ## Where masks stand -/

/-- The number of characters that masks have more than their spans. -/
def drift (masks : List (Span × Text)) : ℤ :=
  (masks.map fun m => (m.2.length : ℤ) - ((m.1.stop : ℤ) - m.1.start)).sum

/-- The ends of the masks in the masked text: each is moved by the drift of those in front. -/
def movedEnds (masks : List (Span × Text)) : List (ℤ × ℤ) :=
  masks.mapIdx fun i m =>
    (m.1.start + drift (masks.take i), m.1.start + drift (masks.take i) + m.2.length)

/-- The places of the masks in the masked text, where a position of the text has come to stand at
`place`. -/
def movedSpans (position place : ℕ) : List (Span × Text) → List Span
  | [] => []
  | (s, mask) :: rest =>
    let start := place + (s.start - position)
    ⟨start, start + mask.length⟩ :: movedSpans s.stop (start + mask.length) rest

/-- The characters of a span. -/
def Span.slice (s : Span) (text : Text) : Text := (text.drop s.start).take s.length

lemma drift_cons (m : Span × Text) (masks : List (Span × Text)) :
    drift (m :: masks) = m.2.length - ((m.1.stop : ℤ) - m.1.start) + drift masks := by
  rw [drift, List.map_cons, List.sum_cons, drift]

lemma length_movedSpans (position place : ℕ) (masks : List (Span × Text)) :
    (movedSpans position place masks).length = masks.length := by
  induction masks generalizing position place with
  | nil => rfl
  | cons m masks ih => rw [movedSpans, List.length_cons, ih, List.length_cons]

/-- The places of the masks have the ends that the drifts say. -/
lemma map_ends_movedSpans {n position place : ℕ} {shift : ℤ} {masks : List (Span × Text)}
    (hfit : SpansFit n position (masks.map (·.1))) (hplace : (place : ℤ) = position + shift) :
    (movedSpans position place masks).map (fun s => ((s.start : ℤ), (s.stop : ℤ))) =
      masks.mapIdx fun i m => (m.1.start + (shift + drift (masks.take i)),
        m.1.start + (shift + drift (masks.take i)) + m.2.length) := by
  induction masks generalizing position place shift with
  | nil => rfl
  | cons m masks ih =>
    obtain ⟨hstart, hstop, hrest⟩ := hfit
    dsimp only at hstart hstop
    have hplace' : ((place + (m.1.start - position) + m.2.length : ℕ) : ℤ) =
        m.1.stop + (shift + (m.2.length - ((m.1.stop : ℤ) - m.1.start))) := by
      omega
    have hlater := ih hrest hplace'
    rw [movedSpans, List.map_cons, List.mapIdx_cons, hlater]
    simp only [List.take_zero, List.take_succ_cons, drift_cons]
    congr 1
    · -- nothing stands in front of the first mask
      have hnil : drift [] = 0 := rfl
      rw [hnil]
      ext
      · push_cast
        omega
      · push_cast
        omega
    · -- the drift of the first mask counts for all behind it
      simp only [add_assoc]

/-! ## The text comes back -/

/-- A piece of a text and what stands behind the piece. -/
lemma take_drop_append_drop (text : Text) {position stop : ℕ} (h : position ≤ stop) :
    (text.drop position).take (stop - position) ++ text.drop stop = text.drop position := by
  have hdrop : text.drop stop = (text.drop position).drop (stop - position) := by
    rw [List.drop_drop, Nat.add_sub_cancel' h]
  rw [hdrop, List.take_append_drop]

/-- The characters in front of a span are as many as the positions there. -/
lemma length_take_drop {text : Text} (position : ℕ) {start : ℕ} (h : start ≤ text.length) :
    ((text.drop position).take (start - position)).length = start - position := by
  rw [List.length_take, List.length_drop]
  omega

/-- The places of the masks fit the masked text. -/
lemma spansFit_movedSpans {text : Text} {masks : List (Span × Text)} {position : ℕ} (place : ℕ)
    (hfit : SpansFit text.length position (masks.map (·.1))) :
    SpansFit (place + (maskedFrom text position masks).length) place
      (movedSpans position place masks) := by
  induction masks generalizing position place with
  | nil => exact Nat.le_add_right _ _
  | cons m masks ih =>
    obtain ⟨hstart, hstop, hrest⟩ := hfit
    have hend := hrest.position_le
    dsimp only at hstart hstop hend
    have hlater := ih (place + (m.1.start - position) + m.2.length) hrest
    have htotal : place + (maskedFrom text position (m :: masks)).length =
        place + (m.1.start - position) + m.2.length +
          (maskedFrom text m.1.stop masks).length := by
      rw [maskedFrom, List.length_append, List.length_append,
        length_take_drop position (Nat.le_trans hstop hend)]
      omega
    rw [htotal]
    exact ⟨Nat.le_add_right _ _, Nat.le_add_right _ _, hlater⟩

/-- The masked text is put together behind some characters. From their end on, the characters of
the spans put back give the rest of the text. -/
lemma maskedFrom_movedSpans {text : Text} (front : Text) {masks : List (Span × Text)}
    {position : ℕ} (hfit : SpansFit text.length position (masks.map (·.1))) :
    maskedFrom (front ++ maskedFrom text position masks) front.length
      ((movedSpans position front.length masks).zip (masks.map (·.1.slice text))) =
        text.drop position := by
  induction masks generalizing position front with
  | nil => exact List.drop_left
  | cons m masks ih =>
    obtain ⟨hstart, hstop, hrest⟩ := hfit
    have hend := hrest.position_le
    dsimp only at hstart hstop hend
    have hgap := length_take_drop position (Nat.le_trans hstop hend)
    rw [maskedFrom, movedSpans]
    set gap := (text.drop position).take (m.1.start - position)
    -- what was put together up to the end of the mask is in front of all that follows
    have hfront : (front ++ gap ++ m.2).length =
        front.length + (m.1.start - position) + m.2.length := by
      rw [List.length_append, List.length_append, hgap]
    have hwhole : front ++ (gap ++ m.2 ++ maskedFrom text m.1.stop masks) =
        front ++ gap ++ m.2 ++ maskedFrom text m.1.stop masks := by
      simp only [List.append_assoc]
    have hlater := ih (front ++ gap ++ m.2) hrest
    rw [hfront] at hlater
    have htaken : ((front ++ gap ++ m.2 ++ maskedFrom text m.1.stop masks).drop front.length).take
        (front.length + (m.1.start - position) - front.length) = gap := by
      rw [Nat.add_sub_cancel_left, ← hgap, List.append_assoc, List.append_assoc, List.drop_left,
        List.take_left]
    rw [List.map_cons, List.zip_cons_cons, maskedFrom, hwhole, htaken, hlater, List.append_assoc,
      Span.slice, Span.length, take_drop_append_drop text hstop,
      take_drop_append_drop text hstart]

/-- Masks that were accepted can be undone. No end of a moved mask is negative, and putting the
characters of the old spans into the places with these ends is accepted and gives back the text. -/
theorem masks_undone {text out : String} {spans : List Span} {masks : List String}
    (h : (maskSpansWith text spans masks).result = .ok out) :
    (∀ ends ∈ movedEnds (spans.zip (masks.map String.toList)), 0 ≤ ends.1 ∧ 0 ≤ ends.2) ∧
    ∃ moved : List Span,
      moved.map (fun s => ((s.start : ℤ), (s.stop : ℤ))) =
        movedEnds (spans.zip (masks.map String.toList)) ∧
      (maskSpansWith out moved (spans.map fun s => String.ofList (s.slice text.toList))).result =
        .ok text := by
  obtain ⟨hlength, hfit, hout⟩ := maskSpansWith_result_eq_ok_iff.mp h
  set pairs := spans.zip (masks.map String.toList)
  have hspans : pairs.map (·.1) = spans := map_fst_zip_toList hlength
  have hpairs : SpansFit text.toList.length 0 (pairs.map (·.1)) := by
    rwa [hspans, String.length_toList]
  have hplace : ((0 : ℕ) : ℤ) = (0 : ℕ) + 0 := rfl
  have hends := map_ends_movedSpans hpairs hplace
  simp only [zero_add] at hends
  rw [← movedEnds] at hends
  refine ⟨fun ends hmem => ?_, movedSpans 0 0 pairs, hends, ?_⟩
  · rw [← hends] at hmem
    obtain ⟨s, _, rfl⟩ := List.mem_map.mp hmem
    exact ⟨Int.natCast_nonneg _, Int.natCast_nonneg _⟩
  -- the old spans are those of the pairs, so their characters are what is put back
  have hslices : (spans.map fun s => String.ofList (s.slice text.toList)).map String.toList =
      pairs.map (·.1.slice text.toList) := by
    rw [← hspans]
    simp only [List.map_map, Function.comp_def, String.toList_ofList]
  have hmoved := spansFit_movedSpans 0 hpairs
  have hback := maskedFrom_movedSpans [] hpairs
  rw [← masked, ← hout, Nat.zero_add, String.length_toList] at hmoved
  rw [List.nil_append, ← masked, ← hout, List.drop_zero] at hback
  rw [maskSpansWith_result_eq_ok_iff, length_movedSpans, List.length_map, ← hspans, List.length_map,
    hspans, hslices]
  exact ⟨rfl, hmoved, hback.symm⟩

/-- A longer mask, two masks at one place, and a removal, among characters of one to four bytes:
the masks come to stand at 1 to 4, 4 to 5, 5 to 6, and 7. -/
theorem masks_undone_mixed :
    (maskSpansWith "aé🐶z" [⟨1, 2⟩, ⟨2, 2⟩, ⟨2, 2⟩, ⟨3, 4⟩] ["xyz", "1", "ß", ""]).result =
      .ok "axyz1ß🐶" ∧
    ∃ moved : List Span,
      moved.map (fun s => ((s.start : ℤ), (s.stop : ℤ))) = [(1, 4), (4, 5), (5, 6), (7, 7)] ∧
      (maskSpansWith "axyz1ß🐶" moved ["é", "", "", "z"]).result = .ok "aé🐶z" := by
  have haccepted : (maskSpansWith "aé🐶z" [⟨1, 2⟩, ⟨2, 2⟩, ⟨2, 2⟩, ⟨3, 4⟩]
      ["xyz", "1", "ß", ""]).result = .ok "axyz1ß🐶" := by decide
  obtain ⟨_, moved, hends, hback⟩ := masks_undone haccepted
  exact ⟨haccepted, moved, hends, hback⟩

end LiteralRegex
