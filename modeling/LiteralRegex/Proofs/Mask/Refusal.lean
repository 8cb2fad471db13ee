import LiteralRegex.Proofs.Mask.Assembly

/-!
# Which masks are refused

Each span is compared with the one in front of it and with no other. Since a span that ends before it
starts is refused, this is enough: in spans that are accepted, each ends before any later one starts
(`spansFit_iff`).

Several spans may have something wrong with them, and a span more than one thing. `Span.Defect` says
what a single span is refused for, and `FirstDefect` which of the spans that is; the search for places
finds exactly this (`locate_eq_error_iff`).
-/

namespace LiteralRegex

/-! ## Spans that stand apart -/

/-- Holds when every span is in order and within `length` characters, and ends before any later one
starts. -/
structure SpansApart (length : ℕ) (spans : List Span) : Prop where
  within : ∀ s ∈ spans, s.start ≤ s.stop ∧ s.stop ≤ length
  apart : spans.Pairwise fun s later => s.stop ≤ later.start

lemma spansApart_cons {n : ℕ} {s : Span} {spans : List Span} :
    SpansApart n (s :: spans) ↔
      (s.start ≤ s.stop ∧ s.stop ≤ n) ∧ (∀ later ∈ spans, s.stop ≤ later.start) ∧
        SpansApart n spans := by
  constructor
  · intro h
    obtain ⟨hs, hwithin⟩ := List.forall_mem_cons.mp h.within
    obtain ⟨hlater, hapart⟩ := List.pairwise_cons.mp h.apart
    exact ⟨hs, hlater, hwithin, hapart⟩
  · intro h
    obtain ⟨hs, hlater, hspans⟩ := h
    exact ⟨List.forall_mem_cons.mpr ⟨hs, hspans.within⟩,
      List.pairwise_cons.mpr ⟨hlater, hspans.apart⟩⟩

/-- Spans fit, each behind the one in front of it, exactly when any two of them stand apart. -/
lemma spansFit_iff {n position : ℕ} {spans : List Span} :
    SpansFit n position spans ↔
      position ≤ n ∧ (∀ s ∈ spans, position ≤ s.start) ∧ SpansApart n spans := by
  induction spans generalizing position with
  | nil =>
    have hnil : SpansApart n [] := ⟨by simp, List.Pairwise.nil⟩
    simp [SpansFit, hnil]
  | cons s spans ih =>
    rw [SpansFit, ih, spansApart_cons, List.forall_mem_cons]
    constructor
    · intro h
      obtain ⟨hposition, hle, hstop, hlater, hapart⟩ := h
      refine ⟨by omega, ⟨hposition, fun later hmem => ?_⟩, ⟨hle, hstop⟩, hlater, hapart⟩
      -- a later span starts behind the end of this one, which is in order
      have hstart := hlater later hmem
      omega
    · intro h
      obtain ⟨_, ⟨hposition, _⟩, ⟨hle, hstop⟩, hlater, hapart⟩ := h
      exact ⟨hposition, hle, hstop, hlater, hapart⟩

lemma spansFit_zero_iff {n : ℕ} {spans : List Span} : SpansFit n 0 spans ↔ SpansApart n spans := by
  rw [spansFit_iff]
  simp

/-! ## What is wrong with a span -/

/-- Holds when the error tells what is wrong with a span behind another one. An overlap counts before
a reversed span, and that before a span out of bounds. -/
inductive Span.Defect (length : ℕ) (previous : Option Span) (s : Span) : InputError → Prop
  | overlaps {p : Span} (hprevious : previous = some p) (h : s.start < p.stop) :
      Defect length previous s (.spanOverlaps s p)
  | reversed (hbehind : ∀ p ∈ previous, p.stop ≤ s.start) (h : s.stop < s.start) :
      Defect length previous s (.reversedSpan s)
  | outOfBounds (hbehind : ∀ p ∈ previous, p.stop ≤ s.start) (hordered : s.start ≤ s.stop)
      (h : length < s.stop) : Defect length previous s (.spanOutOfBounds s length)

/-- The span in front of a position, where `previous` stands in front of all. -/
def spanBefore (previous : Option Span) (spans : List Span) : ℕ → Option Span
  | 0 => previous
  | i + 1 => spans[i]?

/-- Holds when the error tells what is wrong with the span at a position. -/
def DefectAt (length : ℕ) (previous : Option Span) (spans : List Span) (i : ℕ) (d : InputError) :
    Prop :=
  ∃ s, spans[i]? = some s ∧ s.Defect length (spanBefore previous spans i) d

/-- Holds when nothing is wrong with the spans in front of a position, and the error tells what is
wrong with the one there. -/
structure FirstDefect (length : ℕ) (previous : Option Span) (spans : List Span) (i : ℕ)
    (d : InputError) : Prop where
  here : DefectAt length previous spans i d
  front : ∀ j < i, ∀ d', ¬ DefectAt length previous spans j d'

section Defects

variable {n i : ℕ} {previous : Option Span} {s : Span} {spans : List Span} {d : InputError}

lemma defectAt_zero : DefectAt n previous (s :: spans) 0 d ↔ s.Defect n previous d := by
  simp [DefectAt, spanBefore]

/-- Behind the first span the others have it in front of them. -/
lemma defectAt_succ :
    DefectAt n previous (s :: spans) (i + 1) d ↔ DefectAt n (some s) spans i d := by
  have hbefore : spanBefore previous (s :: spans) (i + 1) = spanBefore (some s) spans i := by
    cases i <;> rfl
  rw [DefectAt, DefectAt, hbefore, List.getElem?_cons_succ]

/-- The first defect is that of the first span, or the first one behind it if there is none. -/
lemma exists_firstDefect_cons :
    (∃ i, FirstDefect n previous (s :: spans) i d) ↔
      s.Defect n previous d ∨
        (∀ d', ¬ s.Defect n previous d') ∧ ∃ i, FirstDefect n (some s) spans i d := by
  constructor
  · intro h
    obtain ⟨i, hhere, hfront⟩ := h
    cases i with
    | zero => exact .inl (defectAt_zero.mp hhere)
    | succ i =>
      refine .inr ⟨fun d' hd' => ?_, i, defectAt_succ.mp hhere, fun j hj d' hd' => ?_⟩
      · exact hfront 0 (Nat.succ_pos i) d' (defectAt_zero.mpr hd')
      · exact hfront (j + 1) (Nat.succ_lt_succ hj) d' (defectAt_succ.mpr hd')
  · intro h
    rcases h with hdefect | ⟨hnone, i, hhere, hfront⟩
    · exact ⟨0, defectAt_zero.mpr hdefect, fun j hj => absurd hj (Nat.not_lt_zero j)⟩
    · refine ⟨i + 1, defectAt_succ.mpr hhere, fun j hj d' hd' => ?_⟩
      cases j with
      | zero => exact hnone d' (defectAt_zero.mp hd')
      | succ j => exact hfront j (Nat.lt_of_succ_lt_succ hj) d' (defectAt_succ.mp hd')

end Defects

/-! ## Looking up places -/

/-- A span has no bytes when it is reversed or reaches beyond the text. -/
lemma Span.bytes_eq_error_iff {text : String} {s : Span} {e : Error} :
    s.bytes (byteOffsets text) = .error e ↔
      s.stop < s.start ∧ e = .input (.reversedSpan s) ∨
      s.start ≤ s.stop ∧ text.length < s.stop ∧
        e = .input (.spanOutOfBounds s text.length) := by
  have hsize := size_byteOffsets text
  unfold Span.bytes
  by_cases hreversed : s.stop < s.start
  · rw [dif_pos hreversed, Except.error.injEq]
    have hordered : ¬ s.start ≤ s.stop := Nat.not_le_of_lt hreversed
    simp only [hreversed, hordered, true_and, false_and, or_false]
    exact eq_comm
  · rw [dif_neg hreversed]
    have hordered : s.start ≤ s.stop := Nat.le_of_not_lt hreversed
    by_cases hbounds : s.stop < (byteOffsets text).size
    · rw [dif_pos hbounds]
      have hwithin : ¬ text.length < s.stop := by omega
      simp [hreversed, hwithin]
    · rw [dif_neg hbounds, Except.error.injEq]
      have hbeyond : text.length < s.stop := by omega
      have hlength : (byteOffsets text).size - 1 = text.length := by omega
      simp only [hreversed, hordered, hbeyond, hlength, true_and, false_and, false_or]
      exact eq_comm

/-- A span behind the end of the one in front has a defect when it has no bytes. -/
lemma Span.defect_iff_of_behind {text : String} {previous : Option Span} {s : Span}
    {d : InputError} (hbehind : ∀ p ∈ previous, p.stop ≤ s.start) :
    s.Defect text.length previous d ↔ s.bytes (byteOffsets text) = .error (.input d) := by
  rw [Span.bytes_eq_error_iff]
  constructor
  · intro h
    cases h with
    | overlaps hprevious h =>
      have hle := hbehind _ hprevious
      omega
    | reversed _ h => exact .inl ⟨h, rfl⟩
    | outOfBounds _ hordered h => exact .inr ⟨hordered, h, rfl⟩
  · intro h
    rcases h with ⟨h, hd⟩ | ⟨hordered, h, hd⟩
    · rw [Error.input.inj hd]
      exact .reversed hbehind h
    · rw [Error.input.inj hd]
      exact .outOfBounds hbehind hordered h

/-- The search for places ends at the first span or goes on behind it. -/
lemma locate_cons_eq_error_iff {text : String} {previous : Option Span} {s : Span}
    {spans : List Span} {e : Error} :
    locate (byteOffsets text) previous (s :: spans) = .error e ↔
      (∃ d, s.Defect text.length previous d ∧ e = .input d) ∨
        (∀ d, ¬ s.Defect text.length previous d) ∧
          locate (byteOffsets text) (some s) spans = .error e := by
  rw [locate]
  cases hoverlap : previous.filter (s.start < ·.stop) with
  | some p =>
    obtain ⟨hprevious, hstart⟩ : previous = some p ∧ s.start < p.stop := by
      simpa [Option.filter_eq_some_iff] using hoverlap
    have hdefect : ∀ d, s.Defect text.length previous d ↔ d = .spanOverlaps s p := by
      intro d
      constructor
      · intro h
        cases h with
        | overlaps hprevious' _ =>
          rw [Option.some.inj (hprevious.symm.trans hprevious')]
        | reversed hbehind _ =>
          have hle := hbehind p hprevious
          omega
        | outOfBounds hbehind _ _ =>
          have hle := hbehind p hprevious
          omega
      · intro h
        rw [h]
        exact .overlaps hprevious hstart
    simp only [hdefect, exists_eq_left, Except.error.injEq, forall_eq, false_and,
      or_false]
    exact eq_comm
  | none =>
    have hbehind : ∀ p ∈ previous, p.stop ≤ s.start := by
      intro p hp
      have hstart := filter_overlap_eq_none_iff.mp hoverlap
      rwa [Option.mem_def.mp hp] at hstart
    have hdefect : ∀ d, s.Defect text.length previous d ↔
        s.bytes (byteOffsets text) = .error (.input d) := fun d =>
      Span.defect_iff_of_behind hbehind
    simp only [hdefect]
    cases hbytes : s.bytes (byteOffsets text) with
    | error e' =>
      obtain ⟨d', rfl⟩ : ∃ d', e' = .input d' := by
        rcases Span.bytes_eq_error_iff.mp hbytes with ⟨_, rfl⟩ | ⟨_, _, rfl⟩
        · exact ⟨_, rfl⟩
        · exact ⟨_, rfl⟩
      simp [bind, Except.bind, eq_comm]
    | ok place =>
      simp only [bind_eq_error_iff, pure, Except.pure]
      simp

/-- The search for places is refused for the first defect there is. -/
theorem locate_eq_error_iff {text : String} {previous : Option Span} {spans : List Span}
    {e : Error} :
    locate (byteOffsets text) previous spans = .error e ↔
      ∃ d, (∃ i, FirstDefect text.length previous spans i d) ∧ e = .input d := by
  induction spans generalizing previous with
  | nil =>
    have hnone : ∀ i d, ¬ FirstDefect text.length previous [] i d := by
      intro i d h
      obtain ⟨s, hs, _⟩ := h.here
      simp at hs
    simp [locate, hnone]
  | cons s spans ih =>
    rw [locate_cons_eq_error_iff, ih]
    simp only [exists_firstDefect_cons]
    constructor
    · intro h
      rcases h with ⟨d, hd, he⟩ | ⟨hnone, d, hd, he⟩
      · exact ⟨d, .inl hd, he⟩
      · exact ⟨d, .inr ⟨hnone, hd⟩, he⟩
    · intro h
      obtain ⟨d, hd | ⟨hnone, hd⟩, he⟩ := h
      · exact .inl ⟨d, hd, he⟩
      · exact .inr ⟨hnone, d, hd, he⟩

/-! ## All three operations -/

lemma maskEach_result_eq_error_iff {text : String} {masks : List (Span × String)} {e : Error} :
    (maskEach text masks).result = .error e ↔
      ∃ d, (∃ i, FirstDefect text.length none (masks.map (·.1)) i d) ∧ e = .input d := by
  rw [← locate_eq_error_iff, maskEach]
  cases locate (byteOffsets text) none (masks.map (·.1)) with
  | error e' => simp
  | ok places => simp

lemma exists_maskEach_eq_ok_iff {text : String} {masks : List (Span × String)} :
    (∃ out, (maskEach text masks).result = .ok out) ↔
      SpansApart text.length (masks.map (·.1)) := by
  simp only [maskEach_result_eq_ok_iff, spansFit_zero_iff]
  constructor
  · intro h
    exact h.choose_spec.1
  · intro h
    exact ⟨String.ofList _, h, String.toList_ofList⟩

lemma map_fst_map_pair (spans : List Span) :
    (spans.map fun s => (s, "")).map (·.1) = spans := by
  rw [List.map_map]
  exact List.map_id spans

/-- Masks are accepted when there is one for each span and the spans stand apart, each within the text.
Too few or too many masks are told before anything that is wrong with a span, and the first span with
something wrong is told before any other. One span is refused when it is reversed, and else when it
reaches beyond the text. All of these are errors of the input. -/
theorem masks_refused_for_first_defect (text : String) :
    (∀ spans masks, (∃ out, (maskSpansWith text spans masks).result = .ok out) ↔
      spans.length = masks.length ∧ SpansApart text.length spans) ∧
    (∀ spans, (∃ out, (maskSpans text spans).result = .ok out) ↔ SpansApart text.length spans) ∧
    (∀ spans masks, spans.length ≠ masks.length → (maskSpansWith text spans masks).result =
      .error (.input (.maskCount spans.length masks.length))) ∧
    (∀ spans masks, spans.length = masks.length → ∀ e,
      (maskSpansWith text spans masks).result = .error e ↔
        ∃ d, (∃ i, FirstDefect text.length none spans i d) ∧ e = .input d) ∧
    (∀ spans e, (maskSpans text spans).result = .error e ↔
      ∃ d, (∃ i, FirstDefect text.length none spans i d) ∧ e = .input d) ∧
    ∀ span mask e, maskSpan text span mask = .error e ↔
      span.stop < span.start ∧ e = .input (.reversedSpan span) ∨
      span.start ≤ span.stop ∧ text.length < span.stop ∧
        e = .input (.spanOutOfBounds span text.length) := by
  have heach : ∀ spans masks, spans.length = masks.length →
      maskSpansWith text spans masks = maskEach text (spans.zip masks) ∧
        (spans.zip masks).map (·.1) = spans := by
    intro spans masks h
    exact ⟨if_pos h, List.map_fst_zip (Nat.le_of_eq h)⟩
  have hcount : ∀ spans masks, spans.length ≠ masks.length → (maskSpansWith text spans masks).result =
      .error (.input (.maskCount spans.length masks.length)) := by
    intro spans masks h
    rw [maskSpansWith, if_neg h]
  refine ⟨fun spans masks => ?_, fun spans => ?_, hcount, fun spans masks h e => ?_,
    fun spans e => ?_, fun span mask e => ?_⟩
  · by_cases h : spans.length = masks.length
    · obtain ⟨hmasks, hspans⟩ := heach spans masks h
      rw [hmasks, exists_maskEach_eq_ok_iff, hspans]
      simp [h]
    · rw [hcount spans masks h]
      simp [h]
  · rw [maskSpans, exists_maskEach_eq_ok_iff, map_fst_map_pair]
  · obtain ⟨hmasks, hspans⟩ := heach spans masks h
    rw [hmasks, maskEach_result_eq_error_iff, hspans]
  · rw [maskSpans, maskEach_result_eq_error_iff, map_fst_map_pair]
  · rw [← Span.bytes_eq_error_iff, maskSpan, bind_eq_error_iff]
    simp [pure, Except.pure]

/-- Neighbours among these spans do not overlap, but the second one is reversed, which is what they are
refused for, and not that the first and the third overlap. With a mask too few nothing is said of the
spans. -/
theorem masks_refused_for_first_defect_reversed :
    [(⟨0, 5⟩ : Span), ⟨6, 1⟩, ⟨2, 9⟩].length = ["x", "é", ""].length ∧
    FirstDefect 6 none [⟨0, 5⟩, ⟨6, 1⟩, ⟨2, 9⟩] 1 (.reversedSpan ⟨6, 1⟩) ∧
    (maskSpansWith "aé🐶bcd" [⟨0, 5⟩, ⟨6, 1⟩, ⟨2, 9⟩] ["x", "é", ""]).result =
      .error (.input (.reversedSpan ⟨6, 1⟩)) ∧
    [(⟨0, 5⟩ : Span), ⟨6, 1⟩, ⟨2, 9⟩].length ≠ ["x", "é"].length ∧
    (maskSpansWith "aé🐶bcd" [⟨0, 5⟩, ⟨6, 1⟩, ⟨2, 9⟩] ["x", "é"]).result =
      .error (.input (.maskCount 3 2)) := by
  obtain ⟨_, _, hcount, hfirst, _⟩ := masks_refused_for_first_defect "aé🐶bcd"
  have hdefect : FirstDefect 6 none [⟨0, 5⟩, ⟨6, 1⟩, ⟨2, 9⟩] 1 (.reversedSpan ⟨6, 1⟩) := by
    refine ⟨⟨⟨6, 1⟩, rfl, .reversed (by simp [spanBefore]) (by decide)⟩, fun j hj d hd => ?_⟩
    obtain rfl : j = 0 := by omega
    -- nothing is wrong with the first span
    cases defectAt_zero.mp hd with
    | overlaps hprevious _ => nomatch hprevious
    | reversed _ h => exact absurd h (by decide)
    | outOfBounds _ _ h => exact absurd h (by decide)
  exact ⟨rfl, hdefect, (hfirst _ _ rfl _).mpr ⟨_, ⟨1, hdefect⟩, rfl⟩, by decide,
    hcount _ _ (by decide)⟩

end LiteralRegex
