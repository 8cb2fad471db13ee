import LiteralRegex.Proofs.Alternation.Bars
import LiteralRegex.Proofs.ClassBody.Items
import LiteralRegex.Request
import Mathlib

/-!
# Alternations of single characters

If several texts are one character each, a class body stands for them too, and the request for the alternation
gives a notice of it (`Request.notices_alternation`). The body is at most as long as the characters in a row,
since nothing that stands for them is shorter, and the alternation has the bars between them in addition
(`length_classBody_add_le`).
-/

namespace LiteralRegex

variable {f : Flavor} {texts : List Text}

/-! ## The notice -/

/-- Holds of several different texts of one character each. -/
def SingleCharacters (texts : List Text) : Prop :=
  2 ≤ texts.toFinset.card ∧ ∀ t ∈ texts, t.length = 1

instance decidableSingleCharacters (texts : List Text) : Decidable (SingleCharacters texts) :=
  inferInstanceAs (Decidable (_ ∧ _))

lemma singleCharacterCount?_eq (texts : List Text) :
    singleCharacterCount? texts =
      if SingleCharacters texts then some texts.toFinset.card else none := by
  have hcondition : (1 < (alternatives texts).length ∧ (alternatives texts).all (·.length = 1)) ↔
      SingleCharacters texts := by
    rw [SingleCharacters, ← length_alternatives, List.all_eq_true]
    simp only [decide_eq_true_eq, mem_alternatives]
    rfl
  unfold singleCharacterCount?
  simp only [hcondition]
  rw [length_alternatives]

/-- The one notice is given for several different texts of one character each, and tells their number. -/
lemma Request.notices_alternation (texts : List Text) :
    (Request.alternation texts).notices =
      if SingleCharacters texts then [.singleCharacters texts.toFinset.card] else [] := by
  rw [notices, singleCharacterCount?_eq]
  split <;> rfl

/-! ## The characters -/

/-- The characters of texts of one character each are these texts. -/
lemma mem_flatten_iff_of_length_eq_one (h : ∀ t ∈ texts, t.length = 1) {c : Char} :
    c ∈ texts.flatten ↔ [c] ∈ texts := by
  rw [List.mem_flatten]
  constructor
  · rintro ⟨t, ht, hc⟩
    obtain ⟨d, rfl⟩ := List.length_eq_one_iff.mp (h t ht)
    rwa [List.mem_singleton.mp hc]
  · exact fun hc => ⟨[c], hc, List.mem_singleton_self c⟩

/-! ## Lengths -/

lemma flatten_map_literal (f : Flavor) (texts : List Text) :
    (texts.map f.literal).flatten = f.literal texts.flatten := by
  induction texts with
  | nil => rfl
  | cons t texts ih => rw [List.map_cons, List.flatten_cons, ih, List.flatten_cons, f.literal_append]

/-- An alternation takes the room of its alternatives in a row and of the bars between them. -/
lemma length_alternation (f : Flavor) (texts : List Text) :
    (f.alternation texts).length =
      (f.literal (alternatives texts).flatten).length + (texts.toFinset.card - 1) := by
  rw [Flavor.alternation, length_intercalate, flatten_map_literal, List.length_map,
    length_alternatives]

/-- A class body takes no more room than its characters in a row. -/
lemma length_classBody_le (f : Flavor) {chars row : List Char} (h : ∀ c, c ∈ row ↔ c ∈ chars) :
    (f.classBody chars).length ≤ (f.literal row).length := by
  have hcovers : CoverExactly (row.map ClassItem.char) fun n => ∃ r ∈ charRuns chars, r.Covers n := by
    intro n
    refine Iff.trans ?_ exists_covers_charRuns.symm
    constructor
    · rintro ⟨item, hitem, hn⟩
      obtain ⟨c, hc, rfl⟩ := List.mem_map.mp hitem
      exact ⟨c, (h c).mp hc, hn.symm⟩
    · rintro ⟨c, hc, rfl⟩
      exact ⟨.char c, List.mem_map_of_mem ((h c).mpr hc), rfl⟩
  have hleast := hcovers.length_flatMap_items_le f (pairwise_before_charRuns chars)
  rwa [writeItems_map_char] at hleast

/-- Written as a class, single characters take less room by the bars between them. -/
lemma length_classBody_add_le (f : Flavor) (texts : List Text) :
    (f.classBody texts.flatten).length + (texts.toFinset.card - 1) ≤
      (f.alternation texts).length := by
  have hmem : ∀ c, c ∈ (alternatives texts).flatten ↔ c ∈ texts.flatten := by
    simp only [List.mem_flatten, mem_alternatives, implies_true]
  rw [length_alternation]
  exact Nat.add_le_add_right (length_classBody_le f hmem) _

/-! ## The notice is true -/

/-- The log record that suggests a class body in place of so many alternatives. -/
def classBodyRecord (count : ℕ) : LogRecord where
  level := .debug
  target := "regex_toolkit::engine::alternation"
  place := some 29
  message := "all " ++ toString count
    ++ " alternatives are single characters; make_exp gives a shorter expression"

/-- The request for an alternation is answered by the fragment, and a class body is suggested for several
different texts of one character each and for no others, with their number. In that case the body of the
characters is shorter by the bars at least, and what it covers are the characters that the alternatives
stand for, each by itself. -/
theorem class_body_suggested_truly (f : Flavor) (default : DefaultCode) (texts : List Text) :
    ((Request.alternation texts).answer default (.given f)).result = .ok (f.alternation texts) ∧
    ((Request.alternation texts).answer default (.given f)).notices.map Notice.record =
      (if 2 ≤ texts.toFinset.card ∧ ∀ t ∈ texts, t.length = 1 then
        [classBodyRecord texts.toFinset.card] else []) ∧
    (2 ≤ texts.toFinset.card ∧ (∀ t ∈ texts, t.length = 1) →
      (f.classBody texts.flatten).length + (texts.toFinset.card - 1) ≤
        (f.alternation texts).length ∧
      ∃ items members, f.readItems? (f.classBody texts.flatten) = some items ∧
        f.readAlternation? (f.alternation texts) = some members ∧
        (∀ t ∈ members, ∃ c, t = [c]) ∧
        ∀ n, (∃ item ∈ items, item.Covers n) ↔ ∃ c, [c] ∈ members ∧ c.toNat = n) := by
  refine ⟨rfl, ?_, fun h => ⟨length_classBody_add_le f texts, ?_⟩⟩
  · have hnotices : ((Request.alternation texts).answer default (.given f)).notices =
        (Request.alternation texts).notices := rfl
    rw [hnotices, Request.notices_alternation]
    show _ = if SingleCharacters texts then _ else _
    split <;> rfl
  · obtain ⟨hcount, hlength⟩ := h
    have hne : texts ≠ [] := by
      rintro rfl
      simp at hcount
    refine ⟨classItems texts.flatten, alternatives texts, readItems?_writeItems f _,
      readAlternation?_alternation f hne, fun t ht => ?_, fun n => ?_⟩
    · exact List.length_eq_one_iff.mp (hlength t (mem_alternatives.mp ht))
    · simp only [exists_covers_classItems, mem_flatten_iff_of_length_eq_one hlength, mem_alternatives]

/-- A range that begins and ends with metacharacters, and the bar that alternatives are cut at. -/
theorem class_body_suggested_truly_bar :
    (2 ≤ [['-'], ['+'], ['|'], [','], ['-']].toFinset.card ∧
      ∀ t ∈ [['-'], ['+'], ['|'], [','], ['-']], t.length = 1) ∧
    (Flavor.re2.classBody ['-', '+', '|', ',', '-']).length + (4 - 1) ≤
      (Flavor.re2.alternation [['-'], ['+'], ['|'], [','], ['-']]).length ∧
    ∃ items members,
      Flavor.re2.readItems? (Flavor.re2.classBody ['-', '+', '|', ',', '-']) = some items ∧
      Flavor.re2.readAlternation? (Flavor.re2.alternation [['-'], ['+'], ['|'], [','], ['-']]) =
        some members ∧
      (∀ t ∈ members, ∃ c, t = [c]) ∧
      ∀ n, (∃ item ∈ items, item.Covers n) ↔ ∃ c, [c] ∈ members ∧ c.toNat = n := by
  have hsingle : 2 ≤ [['-'], ['+'], ['|'], [','], ['-']].toFinset.card ∧
      ∀ t ∈ [['-'], ['+'], ['|'], [','], ['-']], t.length = 1 := by decide
  exact ⟨hsingle, (class_body_suggested_truly .re2 default _).2.2 hsingle⟩

end LiteralRegex
