import LiteralRegex.Proofs.Mask.Refusal
import LiteralRegex.Proofs.Mask.Undo

/-!
# Spans in any order

Spans that come in any order can be sorted before they are removed. Sorting settles the order but not
whether spans overlap: sorted spans are accepted exactly when no two of the given ones overlap
(`spansApart_sorted_iff`). That holds for empty spans too, since of two spans with one start the shorter
comes first.

What is left of the text are the characters at the positions that no span covers
(`maskedFrom_removed`). This does not speak of the order of the spans.
-/

namespace LiteralRegex

/-! ## Sorting -/

namespace Span

lemma Precedes.antisymm {a b : Span} (hab : Precedes a b) (hba : Precedes b a) : a = b := by
  unfold Precedes at *
  have hstart : a.start = b.start := by omega
  have hstop : a.stop = b.stop := by omega
  cases a
  cases b
  exact congrArg₂ Span.mk hstart hstop

instance : Std.Antisymm Precedes := ⟨fun _ _ => Precedes.antisymm⟩

instance : IsTrans Span Precedes := ⟨fun a b c hab hbc => by
  unfold Precedes at *
  omega⟩

instance : Std.Total Precedes := ⟨fun a b => by
  unfold Precedes
  omega⟩

lemma sorted_perm (spans : List Span) : (sorted spans).Perm spans := List.mergeSort_perm _ _

lemma pairwise_sorted (spans : List Span) : (sorted spans).Pairwise Precedes :=
  List.pairwise_mergeSort' Precedes spans

/-- Spans have one sorted order. -/
lemma sorted_eq_of_perm {spans spans' : List Span} (h : spans.Perm spans') :
    sorted spans = sorted spans' := by
  apply List.Perm.eq_of_pairwise' (pairwise_sorted spans) (pairwise_sorted spans')
  exact (sorted_perm spans).trans (h.trans (sorted_perm spans').symm)

/-- Holds when one of the spans ends before the other starts. -/
def Disjoint (s t : Span) : Prop := s.stop ≤ t.start ∨ t.stop ≤ s.start

lemma Disjoint.symm {s t : Span} (h : s.Disjoint t) : t.Disjoint s := Or.symm h

/-- Of two disjoint spans that are in order the first ends before the second starts. -/
lemma Precedes.stop_le_iff {s t : Span} (h : Precedes s t) (ht : t.start ≤ t.stop) :
    s.stop ≤ t.start ↔ s.Disjoint t := by
  unfold Precedes at h
  unfold Disjoint
  omega

end Span

/-- Sorted spans stand apart when the spans are disjoint, whatever order they were in. -/
lemma spansApart_sorted_iff {n : ℕ} {spans : List Span}
    (h : ∀ s ∈ spans, s.start ≤ s.stop ∧ s.stop ≤ n) :
    SpansApart n (Span.sorted spans) ↔ spans.Pairwise Span.Disjoint := by
  have hperm := Span.sorted_perm spans
  have hwithin : ∀ s ∈ Span.sorted spans, s.start ≤ s.stop ∧ s.stop ≤ n := by
    intro s hs
    exact h s (hperm.mem_iff.mp hs)
  rw [← hperm.pairwise_iff Span.Disjoint.symm]
  constructor
  · intro hapart
    exact hapart.apart.imp fun hle => .inl hle
  · intro hdisjoint
    refine ⟨hwithin, ?_⟩
    apply (hdisjoint.and (Span.pairwise_sorted spans)).imp_of_mem
    rintro s t _ ht ⟨hst, hprecedes⟩
    exact (hprecedes.stop_le_iff (hwithin t ht).1).mpr hst

/-- Two spans at different positions of a list are those at one position and a later one. -/
lemma pairwise_disjoint_iff {spans : List Span} :
    spans.Pairwise Span.Disjoint ↔
      ∀ i j : Fin spans.length, i ≠ j → spans[i].Disjoint spans[j] := by
  rw [List.pairwise_iff_get]
  constructor
  · intro h i j hne
    rcases lt_or_gt_of_ne hne with hlt | hgt
    · exact h i j hlt
    · exact (h j i hgt).symm
  · intro h i j hlt
    exact h i j hlt.ne

/-! ## Removing -/

/-- Holds of the positions of the span. -/
def Span.Covers (s : Span) (i : ℕ) : Prop := s.start ≤ i ∧ i < s.stop

instance Span.instDecidableCovers (s : Span) (i : ℕ) : Decidable (s.Covers i) :=
  inferInstanceAs (Decidable (_ ∧ _))

/-- The characters at positions that no span covers, where the first one is at `position`. -/
def uncoveredFrom (position : ℕ) (text : Text) (spans : List Span) : Text :=
  ((text.zipIdx position).filter fun p => ¬ ∃ s ∈ spans, s.Covers p.2).map Prod.fst

/-- The characters of a text at positions that no span covers. -/
def uncovered (text : Text) (spans : List Span) : Text := uncoveredFrom 0 text spans

section Uncovered

variable {position : ℕ} {text : Text} {spans spans' : List Span}

lemma uncoveredFrom_append (position : ℕ) (front back : Text) (spans : List Span) :
    uncoveredFrom position (front ++ back) spans =
      uncoveredFrom position front spans ++
        uncoveredFrom (position + front.length) back spans := by
  unfold uncoveredFrom
  rw [List.zipIdx_append, List.filter_append, List.map_append]

lemma uncoveredFrom_eq_self
    (h : ∀ i, i < position + text.length → ¬ ∃ s ∈ spans, s.Covers i) :
    uncoveredFrom position text spans = text := by
  unfold uncoveredFrom
  rw [List.filter_eq_self.mpr, List.zipIdx_map_fst]
  intro p hp
  exact decide_eq_true (h p.2 (List.snd_lt_add_of_mem_zipIdx hp))

lemma uncoveredFrom_eq_nil {s : Span} (hs : s ∈ spans)
    (h : ∀ i, position ≤ i → i < position + text.length → s.Covers i) :
    uncoveredFrom position text spans = [] := by
  unfold uncoveredFrom
  rw [List.filter_eq_nil_iff.mpr, List.map_nil]
  intro p hp
  rw [decide_eq_true_iff, not_not]
  exact ⟨s, hs, h p.2 (List.le_snd_of_mem_zipIdx hp) (List.snd_lt_add_of_mem_zipIdx hp)⟩

/-- Only what is covered from the first position on counts. -/
lemma uncoveredFrom_congr
    (h : ∀ i, position ≤ i → ((∃ s ∈ spans, s.Covers i) ↔ ∃ s ∈ spans', s.Covers i)) :
    uncoveredFrom position text spans = uncoveredFrom position text spans' := by
  unfold uncoveredFrom
  rw [List.filter_congr]
  intro p hp
  rw [decide_eq_decide, h p.2 (List.le_snd_of_mem_zipIdx hp)]

lemma uncovered_eq_of_perm (text : Text) (h : spans.Perm spans') :
    uncovered text spans = uncovered text spans' := by
  apply uncoveredFrom_congr
  intro i _
  simp only [h.mem_iff]

/-- In front of the other spans and apart from them, a span covers its own characters only. -/
lemma uncoveredFrom_drop_cons {s : Span} (hstart : position ≤ s.start) (hstop : s.start ≤ s.stop)
    (hend : s.stop ≤ text.length) (hlater : ∀ t ∈ spans, s.stop ≤ t.start) :
    uncoveredFrom position (text.drop position) (s :: spans) =
      (text.drop position).take (s.start - position) ++
        uncoveredFrom s.stop (text.drop s.stop) spans := by
  have hgap := length_take_drop position (Nat.le_trans hstop hend)
  have hslice := length_take_drop s.start hend
  have hparts := take_drop_append_drop text hstart
  rw [← take_drop_append_drop text hstop] at hparts
  set gap := (text.drop position).take (s.start - position)
  set slice := (text.drop s.start).take (s.stop - s.start)
  have hkept : uncoveredFrom position gap (s :: spans) = gap := by
    apply uncoveredFrom_eq_self
    rintro i hi ⟨t, ht, hcovers⟩
    have hle : s.start ≤ t.start := by
      rcases List.mem_cons.mp ht with rfl | ht
      · exact Nat.le_refl _
      · exact Nat.le_trans hstop (hlater t ht)
    unfold Span.Covers at hcovers
    omega
  have hremoved : uncoveredFrom s.start slice (s :: spans) = [] := by
    apply uncoveredFrom_eq_nil List.mem_cons_self
    intro i hi hi'
    exact ⟨hi, by omega⟩
  have hothers : uncoveredFrom s.stop (text.drop s.stop) (s :: spans) =
      uncoveredFrom s.stop (text.drop s.stop) spans := by
    apply uncoveredFrom_congr
    intro i hi
    have hbehind : ¬ s.Covers i := fun h => Nat.not_lt_of_le hi h.2
    simp [hbehind]
  rw [← hparts, uncoveredFrom_append, uncoveredFrom_append, hgap, hslice,
    Nat.add_sub_cancel' hstart, Nat.add_sub_cancel' hstop, hkept, hremoved, hothers,
    List.nil_append]

/-- Spans that fit and are replaced by nothing leave the characters that none of them covers. -/
lemma maskedFrom_removed (hfit : SpansFit text.length position spans) :
    maskedFrom text position (spans.map fun s => (s, [])) =
      uncoveredFrom position (text.drop position) spans := by
  induction spans generalizing position with
  | nil =>
    rw [uncoveredFrom_eq_self (by simp)]
    rfl
  | cons s spans ih =>
    obtain ⟨hstart, hstop, hrest⟩ := hfit
    obtain ⟨_, hlater, _⟩ := spansFit_iff.mp hrest
    rw [uncoveredFrom_drop_cons hstart hstop hrest.position_le hlater, ← ih hrest, List.map_cons,
      maskedFrom, List.append_nil]

end Uncovered

lemma exists_maskSpans_eq_ok_iff {text : String} {spans : List Span} :
    (∃ out, (maskSpans text spans).result = .ok out) ↔ SpansApart text.length spans := by
  rw [maskSpans, exists_maskEach_eq_ok_iff, map_fst_map_pair]

lemma toList_of_maskSpans {text out : String} {spans : List Span}
    (h : (maskSpans text spans).result = .ok out) : out.toList = uncovered text.toList spans := by
  rw [maskSpans, maskEach_result_eq_ok_iff, map_fst_map_pair, List.map_map] at h
  obtain ⟨hfit, hout⟩ := h
  rw [← String.length_toList] at hfit
  rw [hout, masked, uncovered]
  exact maskedFrom_removed hfit

/-- Spans within a text can be removed in sorted order exactly when no two of them overlap. What is left
are the characters that none of them covers, and the order in which the spans were given does not
matter. -/
theorem sorted_spans_removed {text : String} {spans : List Span}
    (h : ∀ s ∈ spans, s.start ≤ s.stop ∧ s.stop ≤ text.length) :
    ((∃ out, (maskSpans text (Span.sorted spans)).result = .ok out) ↔
      ∀ i j : Fin spans.length, i ≠ j →
        spans[i].stop ≤ spans[j].start ∨ spans[j].stop ≤ spans[i].start) ∧
    (∀ out, (maskSpans text (Span.sorted spans)).result = .ok out →
      out.toList = uncovered text.toList spans) ∧
    ∀ spans', spans'.Perm spans →
      maskSpans text (Span.sorted spans') = maskSpans text (Span.sorted spans) := by
  refine ⟨?_, fun out hout => ?_, fun spans' hperm => ?_⟩
  · rw [exists_maskSpans_eq_ok_iff, spansApart_sorted_iff h, pairwise_disjoint_iff]
    rfl
  · rw [toList_of_maskSpans hout, uncovered_eq_of_perm _ (Span.sorted_perm spans)]
  · rw [Span.sorted_eq_of_perm hperm]

/-- An empty span, twice, at the start of one that is not empty: in sorted order they are removed, and
in the opposite order as well. An empty span inside another one overlaps it. -/
theorem sorted_spans_removed_empty :
    (∀ s ∈ [(⟨3, 4⟩ : Span), ⟨1, 1⟩, ⟨1, 3⟩, ⟨1, 1⟩],
      s.start ≤ s.stop ∧ s.stop ≤ "aé🐶zß".length) ∧
    (maskSpans "aé🐶zß" (Span.sorted [⟨3, 4⟩, ⟨1, 1⟩, ⟨1, 3⟩, ⟨1, 1⟩])).result = .ok "aß" ∧
    [(⟨1, 1⟩ : Span), ⟨1, 3⟩, ⟨1, 1⟩, ⟨3, 4⟩].Perm [⟨3, 4⟩, ⟨1, 1⟩, ⟨1, 3⟩, ⟨1, 1⟩] ∧
    (maskSpans "aé🐶zß" (Span.sorted [⟨1, 1⟩, ⟨1, 3⟩, ⟨1, 1⟩, ⟨3, 4⟩])).result = .ok "aß" ∧
    (∀ s ∈ [(⟨2, 2⟩ : Span), ⟨1, 3⟩], s.start ≤ s.stop ∧ s.stop ≤ "aé🐶zß".length) ∧
    ¬ ∃ out, (maskSpans "aé🐶zß" (Span.sorted [⟨2, 2⟩, ⟨1, 3⟩])).result = .ok out := by
  have hwithin : ∀ s ∈ [(⟨3, 4⟩ : Span), ⟨1, 1⟩, ⟨1, 3⟩, ⟨1, 1⟩],
      s.start ≤ s.stop ∧ s.stop ≤ "aé🐶zß".length := by decide
  have hwithin' : ∀ s ∈ [(⟨2, 2⟩ : Span), ⟨1, 3⟩],
      s.start ≤ s.stop ∧ s.stop ≤ "aé🐶zß".length := by decide
  have hperm : [(⟨1, 1⟩ : Span), ⟨1, 3⟩, ⟨1, 1⟩, ⟨3, 4⟩].Perm [⟨3, 4⟩, ⟨1, 1⟩, ⟨1, 3⟩, ⟨1, 1⟩] := by
    decide
  obtain ⟨haccepted, hresult, horder⟩ := sorted_spans_removed hwithin
  obtain ⟨out, hout⟩ := haccepted.mpr (by decide)
  have hleft : out = "aß" := by
    rw [← String.toList_inj, hresult out hout]
    decide
  rw [hleft] at hout
  refine ⟨hwithin, hout, hperm, ?_, hwithin', ?_⟩
  · rw [horder _ hperm]
    exact hout
  · rw [(sorted_spans_removed hwithin').1]
    decide

end LiteralRegex
