import LiteralRegex.Alternation.ByBytes
import LiteralRegex.Proofs.Alternation.Canonical
import LiteralRegex.Proofs.Text.Comparison
import Mathlib

/-!
# Sorting by bytes

Bytes are in the order of characters, so texts may be compared by their bytes wherever their characters are
meant: a set in the order of bytes has no repetitions (`pairwise_distinctByBytes`), and what is sorted by
bytes is sorted (`longestFirstByBytes_eq`).
-/

namespace LiteralRegex

open Text

/-! ## Sorting -/

lemma bytesPrecede_iff {a b : Text} : BytesPrecede a b ↔ Precedes a b := by
  rw [BytesPrecede, Precedes, List.le, ← compareBytes_eq_lt_iff, compareBytes_eq_compareNumbers,
    compareNumbers_eq_lt_iff]

/-- Sorting by length and bytes is sorting by length and characters. -/
lemma longestFirstByBytes_eq (texts : List Text) :
    longestFirstByBytes texts = longestFirst texts := by
  unfold longestFirstByBytes longestFirst
  simp only [bytesPrecede_iff]

/-! ## Sets in the order of bytes -/

variable {t text : Text} {set texts : List Text}

lemma mem_insertByBytes : t ∈ insertByBytes text set ↔ t = text ∨ t ∈ set := by
  induction set with
  | nil => simp [insertByBytes]
  | cons u set ih =>
    rw [insertByBytes, compareBytes_eq_compareNumbers]
    cases hcompare : compareNumbers text u with
    | lt => exact List.mem_cons
    | eq =>
      obtain rfl := compareNumbers_eq_eq_iff.mp hcompare
      simp
    | gt =>
      simp only [List.mem_cons, ih, or_left_comm]

/-- A set stays in order. -/
lemma pairwise_insertByBytes (h : set.Pairwise (· < ·)) :
    (insertByBytes text set).Pairwise (· < ·) := by
  induction set with
  | nil => exact List.pairwise_singleton _ _
  | cons u set ih =>
    obtain ⟨hu, hset⟩ := List.pairwise_cons.mp h
    rw [insertByBytes, compareBytes_eq_compareNumbers]
    cases hcompare : compareNumbers text u with
    | lt =>
      have hlt : text < u := compareNumbers_eq_lt_iff.mp hcompare
      refine List.pairwise_cons.mpr ⟨?_, h⟩
      intro t ht
      rcases List.mem_cons.mp ht with rfl | ht
      · exact hlt
      · exact List.lt_trans hlt (hu t ht)
    | eq => exact h
    | gt =>
      have hgt : u < text := by
        rwa [compareNumbers_swap, Ordering.swap_eq_gt, compareNumbers_eq_lt_iff] at hcompare
      refine List.pairwise_cons.mpr ⟨?_, ih hset⟩
      intro t ht
      rcases mem_insertByBytes.mp ht with rfl | ht
      · exact hgt
      · exact hu t ht

lemma pairwise_foldl_insertByBytes (h : set.Pairwise (· < ·)) :
    (texts.foldl (fun set text => insertByBytes text set) set).Pairwise (· < ·) := by
  induction texts generalizing set with
  | nil => exact h
  | cons text texts ih => exact ih (pairwise_insertByBytes h)

lemma mem_foldl_insertByBytes :
    t ∈ texts.foldl (fun set text => insertByBytes text set) set ↔ t ∈ texts ∨ t ∈ set := by
  induction texts generalizing set with
  | nil => simp
  | cons text texts ih =>
    rw [List.foldl_cons, ih, mem_insertByBytes, List.mem_cons, or_left_comm, or_assoc]

lemma pairwise_distinctByBytes (texts : List Text) :
    (distinctByBytes texts).Pairwise (· < ·) :=
  pairwise_foldl_insertByBytes List.Pairwise.nil

lemma nodup_distinctByBytes (texts : List Text) : (distinctByBytes texts).Nodup := by
  apply (pairwise_distinctByBytes texts).imp
  rintro t _ hlt rfl
  exact List.lt_irrefl t hlt

lemma mem_distinctByBytes : t ∈ distinctByBytes texts ↔ t ∈ texts := by
  rw [distinctByBytes, mem_foldl_insertByBytes, or_iff_left List.not_mem_nil]

/-! ## Alternations -/

/-- Sorting texts that are given once gives the alternatives. -/
lemma longestFirst_eq_alternatives (hset : set.Nodup) (h : ∀ t, t ∈ set ↔ t ∈ texts) :
    longestFirst set = alternatives texts := by
  have hnodup : (longestFirst set).Nodup := (longestFirst_perm set).nodup_iff.mpr hset
  have horder : (longestFirst set).Pairwise StandsBefore :=
    (pairwise_longestFirst set).and hnodup
  have halternatives : (alternatives texts).Pairwise StandsBefore := pairwise_alternatives texts
  apply horder.eq_of_mem_iff halternatives
  intro t
  rw [(longestFirst_perm set).mem_iff, mem_alternatives, h]

/-- The bytes of texts compare as the numbers of their characters do. So texts are sorted alike by their
bytes and by their characters, and the fragment for some texts is the same when they are put into a set and
sorted by their bytes. -/
theorem bytes_in_order_of_characters :
    (∀ a b : Text, compareBytes a b = compareNumbers a b) ∧
    (∀ texts : List Text, longestFirstByBytes texts = longestFirst texts) ∧
    ∀ (f : Flavor) (texts : List Text), f.alternationByBytes texts = f.alternation texts := by
  refine ⟨compareBytes_eq_compareNumbers, longestFirstByBytes_eq, fun f texts => ?_⟩
  have hsorted : longestFirst (distinctByBytes texts) = alternatives texts :=
    longestFirst_eq_alternatives (nodup_distinctByBytes texts) fun t => mem_distinctByBytes
  rw [Flavor.alternationByBytes, Flavor.alternation, longestFirstByBytes_eq, hsorted]

end LiteralRegex
