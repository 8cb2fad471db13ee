import LiteralRegex.Mask.Forward
import LiteralRegex.Proofs.Mask.Offsets
import LiteralRegex.Proofs.Report
import Mathlib

/-!
# Masks are assembled from front to back

The places of all spans are looked up in the untouched text, and then the masks go in from the
last span to the first. The invariant of that loop is `toList_replaceAll`: with the masks from
some position on put in, the buffer is the untouched text up to that position, followed by the
forward assembly of the rest. The span in front ends at or before the position, so its place
still holds.

`maskSpansWith_result_eq_ok_iff` says which masks are accepted and what they give;
`length_add_of_maskSpansWith` counts the characters of the result.
-/

namespace LiteralRegex

/-! ## Spans that fit -/

lemma SpansFit.position_le {n position : ℕ} {spans : List Span}
    (h : SpansFit n position spans) : position ≤ n := by
  induction spans generalizing position with
  | nil => exact h
  | cons s spans ih =>
    obtain ⟨hstart, hstop, hrest⟩ := h
    have := ih hrest
    omega

/-- Spans that fit cover no more characters than there are. -/
lemma SpansFit.sum_length_le {n position : ℕ} {spans : List Span}
    (h : SpansFit n position spans) : position + (spans.map Span.length).sum ≤ n := by
  induction spans generalizing position with
  | nil => simpa [SpansFit] using h
  | cons s spans ih =>
    obtain ⟨hstart, hstop, hrest⟩ := h
    have hlater := ih hrest
    have hlength : s.length = s.stop - s.start := rfl
    rw [List.map_cons, List.sum_cons]
    omega

/-- Of spans that fit, each is in order, and those behind it fit behind its end. -/
lemma SpansFit.of_append {n position : ℕ} {front back : List Span} {s : Span}
    (h : SpansFit n position (front ++ s :: back)) :
    s.start ≤ s.stop ∧ SpansFit n s.stop back := by
  induction front generalizing position with
  | nil => exact h.2
  | cons _ front ih => exact ih h.2.2

/-- No overlap is found when the span in front ends at or before the start. -/
lemma filter_overlap_eq_none_iff {previous : Option Span} {s : Span} :
    previous.filter (s.start < ·.stop) = none ↔ previous.elim 0 Span.stop ≤ s.start := by
  cases previous with
  | none => simp
  | some p => simp

/-- The spans that are located are those that fit behind the span in front of them, and their
places are looked up one by one. -/
lemma locate_eq_ok_iff {text : String} {previous : Option Span} {spans : List Span}
    {places : List ByteRange} (hprevious : previous.elim 0 Span.stop ≤ text.length) :
    locate (byteOffsets text) previous spans = .ok places ↔
      SpansFit text.length (previous.elim 0 Span.stop) spans ∧
        places = spans.map (·.byteRange text.toList) := by
  induction spans generalizing previous places with
  | nil =>
    simp only [locate, Except.ok.injEq, SpansFit, hprevious, List.map_nil, true_and]
    exact eq_comm
  | cons s spans ih =>
    rw [locate, SpansFit]
    cases hoverlap : previous.filter (s.start < ·.stop) with
    | some p =>
      -- a span that overlaps is refused, and it does not fit either
      have hstart : ¬ previous.elim 0 Span.stop ≤ s.start := by
        rw [← filter_overlap_eq_none_iff, hoverlap]
        simp
      simp [hstart]
    | none =>
      have hstart := filter_overlap_eq_none_iff.mp hoverlap
      simp only [bind_eq_ok_iff, Span.bytes_eq_ok_iff, pure, Except.pure, Except.ok.injEq]
      -- the spans left are located behind this one
      have hrest : ∀ {others}, s.stop ≤ text.length →
          (locate (byteOffsets text) (some s) spans = .ok others ↔
            SpansFit text.length s.stop spans ∧
              others = spans.map (·.byteRange text.toList)) := fun hstop => ih hstop
      constructor
      · intro h
        obtain ⟨place, ⟨hle, hstop, rfl⟩, others, hothers, rfl⟩ := h
        obtain ⟨hfit, rfl⟩ := (hrest hstop).mp hothers
        exact ⟨⟨hstart, hle, hfit⟩, rfl⟩
      · intro h
        obtain ⟨⟨_, hle, hfit⟩, rfl⟩ := h
        have hstop := hfit.position_le
        exact ⟨_, ⟨hle, hstop, rfl⟩, _, (hrest hstop).mpr ⟨hfit, rfl⟩, rfl⟩

/-! ## The loop -/

/-- The buffer after the masks from a position on went in: untouched up to the position, and
assembled from there. -/
lemma toList_replaceAll {text : String} {masks : List (Span × String)} {position : ℕ}
    (hfit : SpansFit text.length position (masks.map (·.1))) :
    (replaceAll text (masks.map fun m => (m.1.byteRange text.toList, m.2))).toList =
      text.toList.take position ++
        maskedFrom text.toList position (masks.map fun m => (m.1, m.2.toList)) := by
  induction masks generalizing position with
  | nil => simp [replaceAll, maskedFrom]
  | cons m masks ih =>
    obtain ⟨hstart, hstop, hrest⟩ := hfit
    have hbuffer := ih hrest
    -- one more span: its end is where the untouched part of the buffer ends
    have hstep := toList_replaceBytes_byteRange hstop hbuffer m.2
    have htake : text.toList.take m.1.start = text.toList.take position ++
        (text.toList.drop position).take (m.1.start - position) := by
      rw [← List.take_add, Nat.add_sub_cancel' hstart]
    rw [htake, List.append_assoc, List.append_assoc] at hstep
    rw [List.map_cons, List.map_cons, maskedFrom, List.append_assoc]
    exact hstep

/-- Masks are accepted when their spans fit, and what they give is the forward assembly. -/
theorem maskEach_result_eq_ok_iff {text : String} {masks : List (Span × String)}
    {out : String} :
    (maskEach text masks).result = .ok out ↔
      SpansFit text.length 0 (masks.map (·.1)) ∧
        out.toList = masked text.toList (masks.map fun m => (m.1, m.2.toList)) := by
  have hlocate := @locate_eq_ok_iff text none (masks.map (·.1))
  rw [Option.elim_none] at hlocate
  dsimp only [maskEach]
  cases hplaces : locate (byteOffsets text) none (masks.map (·.1)) with
  | error e =>
    have hfit : ¬ SpansFit text.length 0 (masks.map (·.1)) := by
      -- spans that fit would have been located
      intro h
      rw [(hlocate (Nat.zero_le _)).mpr ⟨h, rfl⟩] at hplaces
      simp at hplaces
    simp [hfit]
  | ok places =>
    obtain ⟨hfit, rfl⟩ := (hlocate (Nat.zero_le _)).mp hplaces
    have hall := toList_replaceAll hfit
    rw [List.take_zero, List.nil_append] at hall
    simp only [hfit, true_and, Except.ok.injEq, List.map_map, List.zip_map', Function.comp_def]
    rw [masked, ← hall, String.toList_inj, eq_comm]

/-- Masks that come in a list of their own are accepted if there is one for each span. -/
theorem maskSpansWith_result_eq_ok_iff {text : String} {spans : List Span} {masks : List String}
    {out : String} :
    (maskSpansWith text spans masks).result = .ok out ↔
      spans.length = masks.length ∧ SpansFit text.length 0 spans ∧
        out.toList = masked text.toList (spans.zip (masks.map String.toList)) := by
  unfold maskSpansWith
  by_cases hlength : spans.length = masks.length
  · have hspans : (spans.zip masks).map (·.1) = spans := List.map_fst_zip (Nat.le_of_eq hlength)
    have hmasks : (spans.zip masks).map (fun m => (m.1, m.2.toList)) =
        spans.zip (masks.map String.toList) := by
      rw [List.zip_map_right]
      rfl
    rw [if_pos hlength, maskEach_result_eq_ok_iff, hspans, hmasks]
    exact ⟨fun h => ⟨hlength, h⟩, fun h => h.2⟩
  · rw [if_neg hlength]
    simp [hlength]

/-- The spans can be had back from the pairs of spans and masks. -/
lemma map_fst_zip_toList {spans : List Span} {masks : List String}
    (h : spans.length = masks.length) :
    (spans.zip (masks.map String.toList)).map (·.1) = spans :=
  List.map_fst_zip (by rw [List.length_map, h])

/-! ## Counting characters -/

/-- From a position on, the assembly has the characters that are left, less those in spans and
with those of the masks. -/
lemma length_maskedFrom_add {text : Text} {masks : List (Span × Text)} {position : ℕ}
    (hfit : SpansFit text.length position (masks.map (·.1))) :
    (maskedFrom text position masks).length + position + ((masks.map (·.1)).map Span.length).sum =
      text.length + ((masks.map (·.2)).map List.length).sum := by
  induction masks generalizing position with
  | nil =>
    have hposition : position ≤ text.length := hfit
    rw [maskedFrom, List.length_drop]
    simp only [List.map_nil, List.sum_nil]
    omega
  | cons m masks ih =>
    obtain ⟨hstart, hstop, hrest⟩ := hfit
    have hlater := ih hrest
    have hend := hrest.position_le
    have hspan : m.1.length = m.1.stop - m.1.start := rfl
    dsimp only at hstart hstop hlater hend
    rw [maskedFrom, List.length_append, List.length_append, List.length_take, List.length_drop]
    simp only [List.map_cons, List.sum_cons]
    omega

/-- What masks give has the characters outside the spans and those of the masks. -/
lemma length_add_of_maskSpansWith {text out : String} {spans : List Span} {masks : List String}
    (h : (maskSpansWith text spans masks).result = .ok out) :
    out.length + (spans.map Span.length).sum =
      text.length + (masks.map String.length).sum := by
  obtain ⟨hlength, hfit, hout⟩ := maskSpansWith_result_eq_ok_iff.mp h
  -- both lists can be had back from the list of pairs
  have hspans := map_fst_zip_toList hlength
  have hmasks : (spans.zip (masks.map String.toList)).map (·.2) = masks.map String.toList :=
    List.map_snd_zip (by rw [List.length_map, hlength])
  have hadded : masks.map (List.length ∘ String.toList) = masks.map String.length :=
    List.map_congr_left fun mask _ => String.length_toList
  have hzip : SpansFit text.toList.length 0 ((spans.zip (masks.map String.toList)).map (·.1)) := by
    rwa [hspans, String.length_toList]
  have hcount := length_maskedFrom_add hzip
  rw [← masked, ← hout, hspans, hmasks, List.map_map, hadded, String.length_toList,
    String.length_toList] at hcount
  exact hcount

/-! ## All three operations -/

/-- Removing spans is replacing each of them by nothing. -/
lemma maskSpans_eq (text : String) (spans : List Span) :
    maskSpans text spans = maskSpansWith text spans (spans.map fun _ => "") := by
  have hzip : spans.zip (spans.map fun _ => "") = spans.map fun s => (s, "") := by
    have h := List.zip_map' (f := id) (g := fun _ : Span => "") (l := spans)
    rwa [List.map_id] at h
  unfold maskSpans maskSpansWith
  rw [if_pos (List.length_map _).symm, hzip]

/-- One span is replaced as a list of one span is. -/
lemma maskSpan_eq (text : String) (span : Span) (mask : Option String) :
    maskSpan text span mask = (maskSpansWith text [span] [mask.getD ""]).result := by
  have hlocate : locate (byteOffsets text) none [span] =
      (span.bytes (byteOffsets text)).map fun place => [place] := by
    rw [locate]
    cases span.bytes (byteOffsets text) with
    | error e => rfl
    | ok place => rfl
  have hwith : maskSpansWith text [span] [mask.getD ""] =
      maskEach text [(span, mask.getD "")] := rfl
  rw [hwith]
  simp only [maskEach, List.map_cons, List.map_nil, hlocate, maskSpan]
  cases span.bytes (byteOffsets text) with
  | error e => rfl
  | ok place => rfl

/-- The masks stand in the text from front to back, each in the place of its span, and the
characters outside the spans are kept: so many are there in the result, and those of the masks.
Removing spans and replacing one span are cases of this. -/
theorem masks_assemble_forward (text : String) :
    (∀ spans masks out, (maskSpansWith text spans masks).result = .ok out →
      out.toList = masked text.toList (spans.zip (masks.map String.toList)) ∧
      (spans.map Span.length).sum ≤ text.length ∧
      out.length = text.length - (spans.map Span.length).sum + (masks.map String.length).sum) ∧
    (∀ spans, maskSpans text spans = maskSpansWith text spans (spans.map fun _ => "")) ∧
    ∀ span mask, maskSpan text span mask = (maskSpansWith text [span] [mask.getD ""]).result := by
  refine ⟨fun spans masks out h => ?_, maskSpans_eq text, maskSpan_eq text⟩
  obtain ⟨_, hfit, hout⟩ := maskSpansWith_result_eq_ok_iff.mp h
  have hcovered := hfit.sum_length_le
  have hcount := length_add_of_maskSpansWith h
  exact ⟨hout, by omega, by omega⟩

/-- A longer mask, two masks at one place, and a removal, among characters of one to four
bytes. -/
theorem masks_assemble_forward_mixed :
    (maskSpansWith "aé🐶z" [⟨1, 2⟩, ⟨2, 2⟩, ⟨2, 2⟩, ⟨3, 4⟩] ["xyz", "1", "ß", ""]).result =
      .ok "axyz1ß🐶" ∧
    "axyz1ß🐶".toList = masked "aé🐶z".toList
      [(⟨1, 2⟩, ['x', 'y', 'z']), (⟨2, 2⟩, ['1']), (⟨2, 2⟩, ['ß']), (⟨3, 4⟩, [])] ∧
    "axyz1ß🐶".length = 4 - 2 + 5 := by
  have haccepted : (maskSpansWith "aé🐶z" [⟨1, 2⟩, ⟨2, 2⟩, ⟨2, 2⟩, ⟨3, 4⟩]
      ["xyz", "1", "ß", ""]).result = .ok "axyz1ß🐶" := by decide
  have h := (masks_assemble_forward "aé🐶z").1 _ _ _ haccepted
  exact ⟨haccepted, h.1, h.2.2⟩

end LiteralRegex
