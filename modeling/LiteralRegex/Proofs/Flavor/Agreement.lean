import LiteralRegex.Proofs.Alternation.Members
import LiteralRegex.Proofs.ClassBody.Hyphens
import LiteralRegex.Proofs.ClassBody.Items
import Mathlib

/-!
# Where the flavors agree

The flavors write a character alike if it is a letter or digit, or a metacharacter that is punctuation
(`part_re_eq_iff`). Fragments that differ anywhere differ as a whole: the scan loses nothing, so equal fragments
have equal parts, and both flavors write a character as one part. In a class body the parts of an item are as
many in the one flavor as in the other, and only the ends of a run are written.
-/

namespace LiteralRegex

variable {chars : List Char} {text : Text} {texts : List Text} {c : Char}

/-! ## Characters -/

/-- Holds of the characters that both flavors write in the same way: letters, digits, and the
metacharacters among ASCII punctuation. -/
def WrittenAlike (c : Char) : Prop :=
  c.isAlphanum ∨ c ∈ CharTraits.metacharacters.toList ∧ CharTraits.isPunctuation c

lemma writtenAlike_iff :
    WrittenAlike c ↔ CharTraits.isSafe c ∨ Flavor.re2.isBackslashed c := by
  rw [Flavor.isBackslashed, Bool.and_eq_true, CharTraits.isAlwaysEscaped, List.contains_iff_mem]
  rfl

lemma part_re_eq_iff : Flavor.re.part c = Flavor.re2.part c ↔ WrittenAlike c := by
  rw [writtenAlike_iff]
  unfold Flavor.part
  by_cases hsafe : CharTraits.isSafe c
  · rw [if_pos hsafe, if_pos hsafe]
    exact iff_of_true rfl (.inl hsafe)
  · rw [if_neg hsafe, if_neg hsafe, if_pos (Flavor.isBackslashed_re hsafe)]
    by_cases hre2 : Flavor.re2.isBackslashed c
    · rw [if_pos hre2]
      exact iff_of_true rfl (.inr hre2)
    · -- the one flavor puts a backslash in front, the other writes the number
      rw [if_neg hre2]
      exact iff_of_false (by simp) (not_or.mpr ⟨hsafe, hre2⟩)

/-! ## Texts -/

/-- Fragments with the same parts are the same. -/
lemma scan_injective : Function.Injective scan :=
  Function.LeftInverse.injective flatMap_text_scan

/-- Nowhere in a literal can what the flavors write differently make up for itself. -/
lemma literal_re_eq_iff :
    Flavor.re.literal text = Flavor.re2.literal text ↔ ∀ c ∈ text, WrittenAlike c := by
  rw [← scan_injective.eq_iff, scan_literal, scan_literal, List.map_inj_left]
  simp only [part_re_eq_iff]

/-- Cut at their bars, alternations are compared one alternative with the other. -/
lemma alternation_re_eq_iff : Flavor.re.alternation texts = Flavor.re2.alternation texts ↔
    ∀ t ∈ texts, Flavor.re.literal t = Flavor.re2.literal t := by
  have hmem : ∀ t, t ∈ texts ↔ t ∈ alternatives texts := fun t => mem_alternatives.symm
  simp only [hmem]
  rw [← List.map_inj_left]
  constructor
  · intro h
    by_cases hne : alternatives texts = []
    · rw [hne]
      rfl
    · have hcut := congrArg cutAtBars h
      rwa [Flavor.alternation, Flavor.alternation, cutAtBars_intercalate .re hne,
        cutAtBars_intercalate .re2 hne] at hcut
  · intro h
    rw [Flavor.alternation, Flavor.alternation, h]

/-! ## Class bodies -/

/-- Rows of pieces with the same lengths are the same if the pieces are. -/
lemma flatMap_eq_flatMap_iff {α β : Type} {g g' : α → List β} {l : List α}
    (hlength : ∀ a, (g a).length = (g' a).length) :
    l.flatMap g = l.flatMap g' ↔ ∀ a ∈ l, g a = g' a := by
  refine ⟨fun h => ?_, List.flatMap_congr⟩
  induction l with
  | nil => simp
  | cons a l ih =>
    rw [List.flatMap_cons, List.flatMap_cons] at h
    obtain ⟨hhead, htail⟩ := List.append_inj h (hlength a)
    exact List.forall_mem_cons.mpr ⟨hhead, ih htail⟩

lemma length_parts (f g : Flavor) (item : ClassItem) :
    (item.parts f).length = (item.parts g).length := by
  cases item with
  | char c => rfl
  | range first last hle => rfl

/-- An item is written alike if its ends are. -/
lemma parts_re_eq_iff {item : ClassItem} : item.parts .re = item.parts .re2 ↔
    ∀ c, c = item.first ∨ c = item.last → WrittenAlike c := by
  simp only [forall_eq_or_imp, forall_eq, ← part_re_eq_iff]
  cases item with
  | char c => simp [ClassItem.parts, ClassItem.first, ClassItem.last]
  | range first last hle => simp [ClassItem.parts, ClassItem.first, ClassItem.last]

lemma writeItems_re_eq_iff {items : List ClassItem} :
    Flavor.re.writeItems items = Flavor.re2.writeItems items ↔
      ∀ c, (∃ item ∈ items, c = item.first ∨ c = item.last) → WrittenAlike c := by
  rw [← scan_injective.eq_iff, scan_writeItems, scan_writeItems,
    flatMap_eq_flatMap_iff (length_parts .re .re2)]
  simp only [parts_re_eq_iff, forall_exists_index, and_imp]
  constructor
  · intro h c item hitem hend
    exact h item hitem c hend
  · intro h item hitem c hend
    exact h c item hitem hend

/-- Holds of the characters that are neither the first nor the last of a maximal run of three or more. -/
def StrictlyInside (chars : List Char) (c : Char) : Prop :=
  ∃ r : CharRun, r.MaximalIn (fun n => ∃ d ∈ chars, d.toNat = n) ∧ 3 ≤ r.length ∧
    r.Covers c.toNat ∧ c ≠ r.first ∧ c ≠ r.last

/-- The ends of runs are the characters that are not strictly inside one. -/
lemma exists_end_charRuns_iff :
    (∃ r ∈ charRuns chars, c = r.first ∨ c = r.last) ↔ c ∈ chars ∧ ¬ StrictlyInside chars c := by
  constructor
  · rintro ⟨r, hr, hend⟩
    have hmaximal := mem_charRuns_iff.mp hr
    have hcovers : r.Covers c.toNat := by
      rcases hend with rfl | rfl
      · exact r.covers_first
      · exact r.covers_last
    refine ⟨mem_iff_exists_toNat_eq.mp (hmaximal.inside _ hcovers), ?_⟩
    rintro ⟨r', hmaximal', -, hcovers', hfirst, hlast⟩
    -- the run that the character is inside of is the one that it ends
    obtain rfl := hmaximal.eq hmaximal' hcovers hcovers'
    exact hend.elim hfirst hlast
  · rintro ⟨hc, hinside⟩
    obtain ⟨r, hr, hcovers⟩ := exists_covers_charRuns.mpr ⟨c, hc, rfl⟩
    refine ⟨r, hr, ?_⟩
    by_contra hend
    obtain ⟨hfirst, hlast⟩ := not_or.mp hend
    have hlong : 3 ≤ r.length := by
      rw [← Char.toNat_inj] at hfirst hlast
      unfold CharRun.Covers at hcovers
      unfold CharRun.length
      omega
    exact hinside ⟨r, mem_charRuns_iff.mp hr, hlong, hcovers, hfirst, hlast⟩

/-- What the flavors write differently shows in a class body at the ends of its runs. -/
lemma classBody_re_eq_iff : Flavor.re.classBody chars = Flavor.re2.classBody chars ↔
    ∀ c ∈ chars, ¬ StrictlyInside chars c → WrittenAlike c := by
  rw [Flavor.classBody, Flavor.classBody, writeItems_re_eq_iff]
  simp only [exists_end_classItems, exists_end_charRuns_iff, and_imp]

/-- The flavors build the same fragment of a text or of several if they write each character of it alike, and
only then. The same class body is built if they do so for the characters that are not strictly inside a
maximal run of three or more. -/
theorem flavors_agree_iff :
    (∀ texts : List Text, Flavor.re.alternation texts = Flavor.re2.alternation texts ↔
      ∀ t ∈ texts, ∀ c ∈ t, WrittenAlike c) ∧
    (∀ text : Text, Flavor.re.literal text = Flavor.re2.literal text ↔
      ∀ c ∈ text, WrittenAlike c) ∧
    ∀ chars : List Char, Flavor.re.classBody chars = Flavor.re2.classBody chars ↔
      ∀ c ∈ chars, ¬ StrictlyInside chars c → WrittenAlike c := by
  refine ⟨fun texts => ?_, fun text => literal_re_eq_iff, fun chars => classBody_re_eq_iff⟩
  rw [alternation_re_eq_iff]
  simp only [literal_re_eq_iff]

/-- The flavors write a comma differently, which no range around it shows. -/
example : Flavor.re.literal ['+', ',', '-'] ≠ Flavor.re2.literal ['+', ',', '-'] ∧
    Flavor.re.classBody ['+', ',', '-'] = Flavor.re2.classBody ['+', ',', '-'] := by
  constructor
  · decide
  · cbv

end LiteralRegex
