import LiteralRegex.Proofs.Mask.Refusal
import LiteralRegex.Proofs.Mask.Undo

/-!
# One mask after the other

Several masks at once use one table of offsets, made of the untouched text. Single masks, put in one
after the other, each make a table of the text as it is by then. From the last span to the first the
two agree: what is in front of a position has the same places after the masks behind it went in
(`maskEach_append`). From the first span to the last each span has to be shifted by what the masks in
front of it added or took away; the text in front of it is finished by then and the text behind it still
untouched (`maskInTurn_shiftedSpans`).
-/

namespace LiteralRegex

open String (utf8Len)

/-! ## Masks behind a position -/

lemma SpansFit.exists_of_append {n position : ℕ} {front back : List Span}
    (h : SpansFit n position (front ++ back)) :
    ∃ middle, SpansFit middle position front ∧ SpansFit n middle back := by
  induction front generalizing position with
  | nil => exact ⟨position, Nat.le_refl _, h⟩
  | cons s front ih =>
    obtain ⟨hstart, hstop, hrest⟩ := h
    obtain ⟨middle, hfront, hback⟩ := ih hrest
    exact ⟨middle, ⟨hstart, hstop, hfront⟩, hback⟩

/-- Spans that fit also fit more characters. -/
lemma SpansFit.mono {m n position : ℕ} {spans : List Span} (h : SpansFit m position spans)
    (hle : m ≤ n) : SpansFit n position spans := by
  induction spans generalizing position with
  | nil => exact Nat.le_trans h hle
  | cons s spans ih => exact ⟨h.1, h.2.1, ih h.2.2⟩

lemma SpansFit.of_le {n position middle : ℕ} {spans : List Span} (h : SpansFit n middle spans)
    (hle : position ≤ middle) : SpansFit n position spans := by
  cases spans with
  | nil => exact Nat.le_trans hle h
  | cons s spans => exact ⟨Nat.le_trans hle h.1, h.2⟩

/-- The places of a span are the same in texts that agree up to its end. -/
lemma Span.byteRange_congr {s : Span} {text text' : Text} {n : ℕ} (hle : s.start ≤ s.stop)
    (hstop : s.stop ≤ n) (h : text.take n = text'.take n) : s.byteRange text = s.byteRange text' := by
  have htake : ∀ i ≤ n, text.take i = text'.take i := by
    intro i hi
    rw [← Nat.min_eq_left hi, ← List.take_take, h, List.take_take]
  unfold Span.byteRange
  rw [htake s.start (Nat.le_trans hle hstop), htake s.stop hstop]

/-- Masks are accepted when their spans fit, and then they go in at the places of their spans in the
untouched text. -/
lemma maskEach_result_eq_ok_iff_replaceAll {text out : String} {masks : List (Span × String)} :
    (maskEach text masks).result = .ok out ↔
      SpansFit text.length 0 (masks.map (·.1)) ∧
        replaceAll text (masks.map fun m => (m.1.byteRange text.toList, m.2)) = out := by
  rw [maskEach_result_eq_ok_iff]
  apply and_congr_right
  intro hfit
  have hall := toList_replaceAll hfit
  rw [List.take_zero, List.nil_append, ← masked] at hall
  rw [← hall, String.toList_inj, eq_comm]

/-- Several masks at once are those of a later part of the text and then those in front of them. -/
lemma maskEach_append {text out : String} {front back : List (Span × String)}
    (h : (maskEach text (front ++ back)).result = .ok out) :
    ∃ between, (maskEach text back).result = .ok between ∧
      (maskEach between front).result = .ok out := by
  simp only [maskEach_result_eq_ok_iff_replaceAll] at h ⊢
  rw [List.map_append, List.map_append] at h
  obtain ⟨hfit, hout⟩ := h
  obtain ⟨middle, hfront, hback⟩ := hfit.exists_of_append
  have hmiddle : middle ≤ text.toList.length := by
    rw [String.length_toList]
    exact hback.position_le
  set between := replaceAll text (back.map fun m => (m.1.byteRange text.toList, m.2)) with hbetween
  have hagree : between.toList.take middle = text.toList.take middle := by
    rw [hbetween, toList_replaceAll hback, List.take_left' (List.length_take_of_le hmiddle)]
  have hlength : middle ≤ between.length := by
    have htake := congrArg List.length hagree
    rw [List.length_take_of_le hmiddle, List.length_take, String.length_toList] at htake
    omega
  refine ⟨between, ⟨hback.of_le (Nat.zero_le _), rfl⟩, hfront.mono hlength, ?_⟩
  -- the table of the new text has the same entries for the spans in front
  have hplaces : (front.map fun m => (m.1.byteRange between.toList, m.2)) =
      front.map fun m => (m.1.byteRange text.toList, m.2) := by
    apply List.map_congr_left
    intro m hm
    obtain ⟨hle, hstop⟩ := (spansFit_iff.mp hfront).2.2.within m.1 (List.mem_map_of_mem hm)
    rw [Span.byteRange_congr hle hstop hagree]
  rw [hplaces, hbetween, ← hout]
  exact List.foldr_append.symm

/-! ## One call for each mask -/

/-- The text after one span after the other was replaced, each in the text as the one in front of it left
it. One that is refused ends them all, so a result says that none was refused. -/
def maskInTurn (text : String) (masks : List (Span × String)) : Except Error String :=
  masks.foldlM (fun text m => maskSpan text m.1 (some m.2)) text

lemma maskInTurn_append (text : String) (front back : List (Span × String)) :
    maskInTurn text (front ++ back) =
      (maskInTurn text front >>= fun between => maskInTurn between back) :=
  List.foldlM_append

lemma maskInTurn_cons (text : String) (m : Span × String) (masks : List (Span × String)) :
    maskInTurn text (m :: masks) =
      (maskSpan text m.1 (some m.2) >>= fun between => maskInTurn between masks) :=
  List.foldlM_cons

lemma maskEach_singleton (text : String) (m : Span × String) :
    (maskEach text [m]).result = maskSpan text m.1 (some m.2) :=
  (maskSpan_eq text m.1 (some m.2)).symm

/-- From the last span to the first, single masks give what all of them give at once. -/
lemma maskInTurn_reverse {text out : String} {masks : List (Span × String)}
    (h : (maskEach text masks).result = .ok out) : maskInTurn text masks.reverse = .ok out := by
  induction masks generalizing out with
  | nil =>
    obtain ⟨_, hout⟩ := maskEach_result_eq_ok_iff_replaceAll.mp h
    exact congrArg Except.ok hout
  | cons m masks ih =>
    obtain ⟨between, hback, hfirst⟩ := @maskEach_append text out [m] masks h
    rw [maskEach_singleton] at hfirst
    rw [List.reverse_cons, maskInTurn_append, ih hback]
    show maskInTurn between [m] = .ok out
    rw [maskInTurn_cons, hfirst]
    rfl

/-! ## Shifted spans -/

/-- The ends of the spans at the time when the masks in front are in: each is shifted by the drift of
those. -/
def shiftedEnds (masks : List (Span × Text)) : List (ℤ × ℤ) :=
  masks.mapIdx fun i m =>
    (m.1.start + drift (masks.take i), m.1.stop + drift (masks.take i))

/-- The places of the spans at the time when the masks in front are in, where a position of the text has
come to stand at `place`. A span starts where its mask will start. -/
def shiftedSpans (position place : ℕ) (masks : List (Span × Text)) : List Span :=
  (movedSpans position place masks).zipWith
    (fun moved m => ⟨moved.start, moved.start + m.1.length⟩) masks

lemma shiftedSpans_cons (position place : ℕ) (m : Span × Text) (masks : List (Span × Text)) :
    shiftedSpans position place (m :: masks) =
      ⟨place + (m.1.start - position), place + (m.1.start - position) + m.1.length⟩ ::
        shiftedSpans m.1.stop (place + (m.1.start - position) + m.2.length) masks :=
  rfl

/-- A shifted span has as many characters as the span itself, so both of its ends are shifted alike. -/
lemma map_ends_shiftedSpans {n : ℕ} {masks : List (Span × Text)}
    (hfit : SpansFit n 0 (masks.map (·.1))) :
    (shiftedSpans 0 0 masks).map (fun s => ((s.start : ℤ), (s.stop : ℤ))) = shiftedEnds masks := by
  have hmoved := map_ends_movedSpans hfit (show ((0 : ℕ) : ℤ) = (0 : ℕ) + 0 from rfl)
  simp only [zero_add] at hmoved
  unfold shiftedSpans shiftedEnds
  apply List.ext_getElem
  · rw [List.length_map, List.length_zipWith, length_movedSpans, Nat.min_self, List.length_mapIdx]
  · intro i hi hi'
    have hlt : i < masks.length := by rwa [List.length_mapIdx] at hi'
    have hle := ((spansFit_iff.mp hfit).2.2.within _
      (List.mem_map_of_mem (List.getElem_mem hlt))).1
    have hends := List.getElem_of_eq hmoved (by rwa [List.length_map, length_movedSpans])
    rw [List.getElem_map, List.getElem_mapIdx] at hends
    have hstart := congrArg Prod.fst hends
    dsimp only at hstart
    rw [List.getElem_map, List.getElem_zipWith, List.getElem_mapIdx, Prod.mk.injEq]
    have hspan : masks[i].1.length = masks[i].1.stop - masks[i].1.start := rfl
    refine ⟨hstart, ?_⟩
    dsimp only
    omega

/-- Of a text in three parts the part in the middle is replaced. -/
lemma maskSpan_ofList (front middle back : Text) (mask : String) :
    maskSpan (String.ofList (front ++ middle ++ back))
        ⟨front.length, front.length + middle.length⟩ (some mask) =
      .ok (String.ofList (front ++ mask.toList ++ back)) := by
  set whole := front ++ middle ++ back with hwhole
  have htake : whole.take front.length = front := by
    rw [hwhole, List.append_assoc, List.take_left]
  have htake' : whole.take (front.length + middle.length) = front ++ middle := by
    rw [hwhole, ← List.length_append, List.take_left]
  have hlength : front.length + middle.length ≤ (String.ofList whole).length := by
    rw [String.length_ofList, hwhole, List.length_append, List.length_append]
    omega
  have hbytes : Span.bytes (byteOffsets (String.ofList whole))
      ⟨front.length, front.length + middle.length⟩ =
        .ok ⟨⟨utf8Len front⟩, ⟨utf8Len (front ++ middle)⟩⟩ := by
    rw [Span.bytes_eq_ok_iff, String.toList_ofList, Span.byteRange, htake, htake']
    exact ⟨Nat.le_add_right _ _, hlength, rfl⟩
  rw [maskSpan, hbytes]
  show Except.ok (replaceBytes _ _ mask) = _
  rw [hwhole, replaceBytes_ofList]

/-- From the first span to the last: some characters are finished, and the text is untouched from a
position on. -/
lemma maskInTurn_shiftedSpans {text : Text} (front : Text) {masks : List (Span × Text)}
    {position : ℕ} (hfit : SpansFit text.length position (masks.map (·.1))) :
    maskInTurn (String.ofList (front ++ text.drop position))
        ((shiftedSpans position front.length masks).zip (masks.map fun m => String.ofList m.2)) =
      .ok (String.ofList (front ++ maskedFrom text position masks)) := by
  induction masks generalizing position front with
  | nil => rfl
  | cons m masks ih =>
    obtain ⟨hstart, hstop, hrest⟩ := hfit
    have hend := hrest.position_le
    dsimp only at hstart hstop hend
    have hgap := length_take_drop position (Nat.le_trans hstop hend)
    have hslice := length_take_drop m.1.start hend
    have hparts : front ++ text.drop position =
        front ++ (text.drop position).take (m.1.start - position) ++ m.1.slice text ++
          text.drop m.1.stop := by
      rw [Span.slice, Span.length, List.append_assoc, List.append_assoc,
        take_drop_append_drop text hstop, take_drop_append_drop text hstart]
    set gap := (text.drop position).take (m.1.start - position)
    rw [shiftedSpans_cons, List.map_cons, List.zip_cons_cons, maskInTurn_cons, maskedFrom]
    have hstep := maskSpan_ofList (front ++ gap) (m.1.slice text) (text.drop m.1.stop)
      (String.ofList m.2)
    rw [← hparts, List.length_append, hgap, Span.slice, Span.length, hslice] at hstep
    have hlater := ih (front ++ gap ++ m.2) hrest
    rw [List.length_append, List.length_append, hgap] at hlater
    rw [Span.length, hstep]
    show maskInTurn _ _ = _
    rw [String.toList_ofList, hlater, List.append_assoc, List.append_assoc, List.append_assoc]

/-! ## All at once and one by one -/

lemma map_ofList_zip_toList {spans : List Span} {masks : List String}
    (h : spans.length = masks.length) :
    ((spans.zip (masks.map String.toList)).map fun m => String.ofList m.2) = masks := by
  have hsnd : (spans.zip (masks.map String.toList)).map (·.2) = masks.map String.toList :=
    List.map_snd_zip (by rw [List.length_map, h])
  have hcomp := congrArg (List.map String.ofList) hsnd
  simpa only [List.map_map, Function.comp_def, String.ofList_toList, List.map_id'] using hcomp

/-- Masks that are accepted at once can be put in one by one, with the same text in the end: from the last
span to the first as the spans are, and from the first to the last with each span shifted by what the
masks in front of it have more characters than their spans. They can also be put in part by part, any
number of the last ones before the others. -/
theorem masks_stepwise {text out : String} {spans : List Span} {masks : List String}
    (h : (maskSpansWith text spans masks).result = .ok out) :
    maskInTurn text (spans.zip masks).reverse = .ok out ∧
    (∃ shifted : List Span,
      shifted.map (fun s => ((s.start : ℤ), (s.stop : ℤ))) =
        shiftedEnds (spans.zip (masks.map String.toList)) ∧
      maskInTurn text (shifted.zip masks) = .ok out) ∧
    ∀ k : ℕ, ∃ between,
      (maskSpansWith text (spans.drop k) (masks.drop k)).result = .ok between ∧
      (maskSpansWith between (spans.take k) (masks.take k)).result = .ok out := by
  obtain ⟨hlength, hfit, hout⟩ := maskSpansWith_result_eq_ok_iff.mp h
  have heach : (maskEach text (spans.zip masks)).result = .ok out := by
    rwa [maskSpansWith, if_pos hlength] at h
  refine ⟨maskInTurn_reverse heach, ?_, fun k => ?_⟩
  · set pairs := spans.zip (masks.map String.toList)
    have hspans : pairs.map (·.1) = spans := map_fst_zip_toList hlength
    have hpairs : SpansFit text.toList.length 0 (pairs.map (·.1)) := by
      rwa [hspans, String.length_toList]
    have hmasks : (pairs.map fun m => String.ofList m.2) = masks := map_ofList_zip_toList hlength
    have hturn := maskInTurn_shiftedSpans [] hpairs
    rw [hmasks, List.nil_append, List.nil_append, List.drop_zero, String.ofList_toList, ← masked,
      ← hout, String.ofList_toList] at hturn
    exact ⟨shiftedSpans 0 0 pairs, map_ends_shiftedSpans hpairs, hturn⟩
  · have hsplit : spans.zip masks =
        (spans.take k).zip (masks.take k) ++ (spans.drop k).zip (masks.drop k) := by
      rw [← List.zip_append (by rw [List.length_take, List.length_take, hlength]),
        List.take_append_drop, List.take_append_drop]
    rw [hsplit] at heach
    obtain ⟨between, hback, hfront⟩ := maskEach_append heach
    refine ⟨between, ?_, ?_⟩
    · rwa [maskSpansWith, if_pos (by rw [List.length_drop, List.length_drop, hlength])]
    · rwa [maskSpansWith, if_pos (by rw [List.length_take, List.length_take, hlength])]

/-- A removal in front shifts what follows to the left: the second span is empty at 2 and is at 0 by the
time the first is gone. With the first span put in last, two characters more stand in front. -/
theorem masks_stepwise_removal :
    (maskSpansWith "aé🐶z" [⟨0, 2⟩, ⟨2, 2⟩, ⟨3, 4⟩] ["", "xy", "ß"]).result = .ok "xy🐶ß" ∧
    maskInTurn "aé🐶z" [(⟨3, 4⟩, "ß"), (⟨2, 2⟩, "xy"), (⟨0, 2⟩, "")] = .ok "xy🐶ß" ∧
    (∃ shifted : List Span,
      shifted.map (fun s => ((s.start : ℤ), (s.stop : ℤ))) = [(0, 2), (0, 0), (3, 4)] ∧
      maskInTurn "aé🐶z" (shifted.zip ["", "xy", "ß"]) = .ok "xy🐶ß") ∧
    ∃ between, (maskSpansWith "aé🐶z" [⟨2, 2⟩, ⟨3, 4⟩] ["xy", "ß"]).result = .ok between ∧
      (maskSpansWith between [⟨0, 2⟩] [""]).result = .ok "xy🐶ß" := by
  have haccepted : (maskSpansWith "aé🐶z" [⟨0, 2⟩, ⟨2, 2⟩, ⟨3, 4⟩] ["", "xy", "ß"]).result =
      .ok "xy🐶ß" := by decide
  obtain ⟨hreverse, ⟨shifted, hends, hforward⟩, hsplit⟩ := masks_stepwise haccepted
  exact ⟨haccepted, hreverse, ⟨shifted, hends, hforward⟩, hsplit 1⟩

end LiteralRegex
