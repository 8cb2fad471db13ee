import LiteralRegex.Proofs.Alternation.Members
import LiteralRegex.Proofs.ClassBody.Canonical

/-!
# Builders of sets are canonical

The alternatives of some texts stand in an order in which no text stands before itself and no two
stand before each other, so there is one way to put a set of texts in order. An alternation can be
read back, which tells its texts, except that nothing distinguishes no text at all from the empty
one. Together with the bodies of character classes this makes both builders functions of sets,
injective but for that one coincidence.
-/

namespace LiteralRegex

/-- Holds when `a` stands before `b` among alternatives. -/
def StandsBefore (a b : Text) : Prop := Text.Precedes a b ∧ a ≠ b

instance : Std.Irrefl StandsBefore where
  irrefl := fun _ h => h.2 rfl

instance : Std.Antisymm StandsBefore where
  antisymm := fun _ _ h h' => h.1.antisymm h'.1

/-- Lists of the same texts have the same alternatives. -/
lemma alternatives_eq_of_mem_iff {a b : List Text} (h : ∀ t, t ∈ a ↔ t ∈ b) :
    alternatives a = alternatives b := by
  have ha : (alternatives a).Pairwise StandsBefore := pairwise_alternatives a
  have hb : (alternatives b).Pairwise StandsBefore := pairwise_alternatives b
  refine ha.eq_of_mem_iff hb fun t => ?_
  rw [mem_alternatives, mem_alternatives, h]

/-! ## No text and the empty text -/

/-- The texts that an alternation stands for: without texts it is the empty one. -/
def orEmpty (texts : List Text) : List Text := if texts = [] then [[]] else texts

lemma orEmpty_ne_nil (texts : List Text) : orEmpty texts ≠ [] := by
  unfold orEmpty
  split
  · simp
  · next hne => exact hne

lemma mem_orEmpty_of_mem {texts : List Text} {t : Text} (h : t ∈ texts) : t ∈ orEmpty texts := by
  rw [orEmpty, if_neg (List.ne_nil_of_mem h)]
  exact h

/-- Where all texts are empty, the empty text is what the alternation stands for. -/
lemma mem_orEmpty_iff_eq_nil {texts : List Text} (h : ∀ t ∈ texts, t = []) {t : Text} :
    t ∈ orEmpty texts ↔ t = [] := by
  unfold orEmpty
  split
  · exact List.mem_singleton
  · next hne =>
    refine ⟨h t, fun ht => ?_⟩
    obtain ⟨s, hs⟩ := List.exists_mem_of_ne_nil texts hne
    rw [ht, ← h s hs]
    exact hs

/-- The empty text is the only one that leaves nothing to write. -/
lemma alternation_orEmpty (f : Flavor) (texts : List Text) :
    f.alternation (orEmpty texts) = f.alternation texts := by
  unfold orEmpty
  split
  · next hnil =>
    rw [hnil]
    simp [Flavor.alternation, alternatives, Text.longestFirst, Flavor.literal, consDistinct]
  · rfl

lemma readAlternation?_alternation_orEmpty (f : Flavor) (texts : List Text) :
    f.readAlternation? (f.alternation texts) = some (alternatives (orEmpty texts)) := by
  rw [← alternation_orEmpty, readAlternation?_alternation f (orEmpty_ne_nil texts)]

/-- Alternations are the same when they stand for the same texts. -/
lemma alternation_eq_iff_mem_orEmpty {f : Flavor} {a b : List Text} :
    f.alternation a = f.alternation b ↔ ∀ t, t ∈ orEmpty a ↔ t ∈ orEmpty b := by
  constructor
  · intro h t
    have hread := readAlternation?_alternation_orEmpty f a
    rw [h, readAlternation?_alternation_orEmpty] at hread
    rw [← mem_alternatives, ← Option.some.inj hread, mem_alternatives]
  · intro h
    rw [← alternation_orEmpty, ← alternation_orEmpty f b, Flavor.alternation, Flavor.alternation,
      alternatives_eq_of_mem_iff h]

/-- Lists stand for the same texts when they have the same texts or when no text but the empty one is
in either. -/
lemma mem_orEmpty_iff {a b : List Text} :
    (∀ t, t ∈ orEmpty a ↔ t ∈ orEmpty b) ↔
      (∀ t, t ∈ a ↔ t ∈ b) ∨ (∀ t ∈ a, t = []) ∧ ∀ t ∈ b, t = [] := by
  constructor
  · intro h
    by_cases ha : a = []
    · subst ha
      exact .inr ⟨by simp, fun t ht => List.mem_singleton.mp ((h t).mpr (mem_orEmpty_of_mem ht))⟩
    · by_cases hb : b = []
      · subst hb
        exact .inr ⟨fun t ht => List.mem_singleton.mp ((h t).mp (mem_orEmpty_of_mem ht)), by simp⟩
      · simp only [orEmpty, if_neg ha, if_neg hb] at h
        exact .inl h
  · intro h t
    rcases h with h | ⟨ha, hb⟩
    · have hnil : a = [] ↔ b = [] := by
        simp only [List.eq_nil_iff_forall_not_mem, h]
      unfold orEmpty
      simp only [hnil]
      split
      · exact Iff.rfl
      · exact h t
    · rw [mem_orEmpty_iff_eq_nil ha, mem_orEmpty_iff_eq_nil hb]

/-! ## Both builders -/

/-- Class bodies are the same exactly for the same characters, in whatever order and however often
they are given. Alternations are the same exactly for the same texts, but for lists without a text
other than the empty one, which all give nothing. -/
theorem builders_canonical (f : Flavor) :
    (∀ a b : List Char, f.classBody a = f.classBody b ↔ ∀ c, c ∈ a ↔ c ∈ b) ∧
    ∀ a b : List Text, f.alternation a = f.alternation b ↔
      (∀ t, t ∈ a ↔ t ∈ b) ∨ (∀ t ∈ a, t = []) ∧ ∀ t ∈ b, t = [] := by
  refine ⟨fun a b => classBody_eq_iff, fun a b => ?_⟩
  rw [alternation_eq_iff_mem_orEmpty, mem_orEmpty_iff]

end LiteralRegex
