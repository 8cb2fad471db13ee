import LiteralRegex.Proofs.Alternation.Bars
import LiteralRegex.Proofs.Report
import LiteralRegex.Request
import Mathlib

/-!
# The alphabet of fragments

Fragments for `re2` engines are made of ASCII letters and digits and of the punctuation that stands
behind a backslash in them (`mem_fragmentPunctuation_iff`). The characters that are only allowed behind a
backslash in the other flavor, white space among them, are written as numbers, and a number form stays
inside the alphabet too. Bars and hyphens between literals are in it as well, so every fragment that can
be asked for is (`Request.inAlphabet_of_build`).
-/

namespace LiteralRegex

open Text

/-- The punctuation in fragments for `re2` engines. -/
def fragmentPunctuation : Text := "()[]\x7b\x7d?*+-|^$\\.&~#".toList

/-- Holds of the characters that fragments for `re2` engines are made of. -/
def InAlphabet (c : Char) : Prop := c.isAlphanum ∨ c ∈ fragmentPunctuation

/-! ## Fragments of characters -/

/-- The punctuation is what stands behind a backslash. -/
lemma mem_fragmentPunctuation_iff {c : Char} :
    c ∈ fragmentPunctuation ↔ Flavor.re2.isBackslashed c := by
  constructor
  · intro h
    have hall : fragmentPunctuation.all Flavor.re2.isBackslashed := by decide
    exact List.all_eq_true.mp hall c h
  · intro h
    have hall : CharTraits.metacharacters.toList.all fun d =>
        !CharTraits.isPunctuation d || fragmentPunctuation.contains d := by decide +kernel
    obtain ⟨hescaped, hpunctuation⟩ := Bool.and_eq_true_iff.mp h
    have hc := List.all_eq_true.mp hall c (List.contains_iff_mem.mp hescaped)
    simpa [hpunctuation] using hc

lemma inAlphabet_of_mem_numberForm {c d : Char} (h : d ∈ numberForm c) : InAlphabet d := by
  simp only [numberForm, List.mem_append, List.mem_cons, List.not_mem_nil, or_false] at h
  rcases h with ((rfl | rfl | rfl) | h) | rfl
  · exact .inr (by decide)
  · exact .inl (by decide)
  · exact .inr (by decide)
  · exact .inl (isAlphanum_of_isDigit (Hex.isDigit_of_mem_lower d h))
  · exact .inr (by decide)

/-- The fragment of a character is in the alphabet, whatever the character is. -/
lemma inAlphabet_of_mem_escape {c d : Char} (h : d ∈ Flavor.re2.escape c) : InAlphabet d := by
  unfold Flavor.escape at h
  by_cases hsafe : CharTraits.isSafe c
  · rw [if_pos hsafe, List.mem_singleton] at h
    rw [h]
    exact .inl hsafe
  · rw [if_neg hsafe] at h
    by_cases hback : Flavor.re2.isBackslashed c
    · rw [if_pos hback, List.mem_pair] at h
      rcases h with rfl | rfl
      · exact .inr (by decide)
      · exact .inr (mem_fragmentPunctuation_iff.mpr hback)
    · rw [if_neg hback] at h
      exact inAlphabet_of_mem_numberForm h

/-- Each character of the alphabet is in its own fragment. -/
lemma InAlphabet.mem_escape {c : Char} (h : InAlphabet c) : c ∈ Flavor.re2.escape c := by
  unfold Flavor.escape
  by_cases hsafe : CharTraits.isSafe c
  · rw [if_pos hsafe]
    exact List.mem_singleton_self c
  · have hback : Flavor.re2.isBackslashed c :=
      mem_fragmentPunctuation_iff.mp (h.resolve_left hsafe)
    rw [if_neg hsafe, if_pos hback]
    exact List.mem_cons_of_mem _ (List.mem_singleton_self c)

/-! ## Fragments of all requests -/

lemma inAlphabet_of_mem_literal {text : Text} {d : Char} (h : d ∈ Flavor.re2.literal text) :
    InAlphabet d := by
  obtain ⟨c, _, hd⟩ := List.mem_flatMap.mp h
  exact inAlphabet_of_mem_escape hd

lemma inAlphabet_of_mem_write {item : ClassItem} {d : Char} (h : d ∈ item.write .re2) :
    InAlphabet d := by
  cases item with
  | char c => exact inAlphabet_of_mem_escape h
  | range first last hle =>
    simp only [ClassItem.write, List.mem_append, List.mem_singleton] at h
    rcases h with (h | rfl) | h
    · exact inAlphabet_of_mem_escape h
    · exact .inr (by decide)
    · exact inAlphabet_of_mem_escape h

lemma inAlphabet_of_mem_classBody {chars : List Char} {d : Char}
    (h : d ∈ Flavor.re2.classBody chars) : InAlphabet d := by
  obtain ⟨item, _, hd⟩ := List.mem_flatMap.mp h
  exact inAlphabet_of_mem_write hd

lemma inAlphabet_of_mem_alternation {texts : List Text} {d : Char}
    (h : d ∈ Flavor.re2.alternation texts) : InAlphabet d := by
  rcases eq_or_mem_of_mem_intercalate h with rfl | ⟨piece, hpiece, hd⟩
  · exact .inr (by decide)
  · obtain ⟨t, _, rfl⟩ := List.mem_map.mp hpiece
    exact inAlphabet_of_mem_literal hd

/-- Every fragment that can be asked for is in the alphabet. -/
theorem Request.inAlphabet_of_build {r : Request} {fragment : Text}
    (h : r.build .re2 = .ok fragment) : ∀ d ∈ fragment, InAlphabet d := by
  intro d hd
  cases r with
  | character c =>
    obtain rfl := Except.ok.inj h
    exact inAlphabet_of_mem_escape hd
  | characterText text =>
    obtain ⟨c, _, rfl⟩ := map_eq_ok_iff.mp h
    exact inAlphabet_of_mem_escape hd
  | literal text =>
    obtain rfl := Except.ok.inj h
    exact inAlphabet_of_mem_literal hd
  | alternation texts =>
    obtain rfl := Except.ok.inj h
    exact inAlphabet_of_mem_alternation hd
  | classBody chars =>
    obtain rfl := Except.ok.inj h
    exact inAlphabet_of_mem_classBody hd
  | classBodyTexts texts =>
    obtain ⟨chars, _, rfl⟩ := map_eq_ok_iff.mp h
    exact inAlphabet_of_mem_classBody hd

end LiteralRegex
