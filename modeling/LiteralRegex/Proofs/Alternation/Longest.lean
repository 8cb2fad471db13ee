import LiteralRegex.Proofs.Alternation.Members

/-!
# The first alternative that matches is the longest

Engines that backtrack try alternatives from left to right and keep the first that matches.
Alternatives stand longest first, and two different ones of the same length never begin the
same subject, so the first one that a subject begins with is longer than all others that it
begins with. Lengths count characters, not the bytes that encode them.
-/

namespace LiteralRegex

/-- Holds when the subject begins with the text `t` of the list and every other text of the list
that it begins with is shorter. -/
structure IsLongestFront (texts : List Text) (subject t : Text) : Prop where
  mem : t ∈ texts
  front : t <+: subject
  longest : ∀ s ∈ texts, s <+: subject → s ≠ t → s.length < t.length

/-- What an engine takes at the front of a subject: the first of the alternatives that the subject
begins with. -/
def firstFront? (members : List Text) (subject : Text) : Option Text :=
  members.find? (·.isPrefixOf subject)

lemma firstFront?_eq_none_iff {members : List Text} {subject : Text} :
    firstFront? members subject = none ↔ ¬ ∃ t ∈ members, t <+: subject := by
  simp [firstFront?, List.find?_eq_none]

/-- Of two texts that begin one subject, the one that comes first in the order is longer. -/
lemma length_lt_of_precedes {a b subject : Text} (h : Text.Precedes a b) (hne : a ≠ b)
    (ha : a <+: subject) (hb : b <+: subject) : b.length < a.length := by
  rcases h with hlonger | ⟨hlength, _⟩
  · exact hlonger
  · -- as long as one another, they would be the same text
    have hfront : a <+: b := List.prefix_of_prefix_length_le ha hb (Nat.le_of_eq hlength)
    exact absurd (hfront.eq_of_length hlength) hne

/-- In a list that is in order and free of repetitions, the first text that a subject begins with is
the longest. -/
lemma isLongestFront_of_firstFront? {members : List Text} {subject t : Text}
    (hmembers : members.Pairwise fun a b => Text.Precedes a b ∧ a ≠ b)
    (h : firstFront? members subject = some t) : IsLongestFront members subject t := by
  induction members with
  | nil => simp [firstFront?] at h
  | cons a members ih =>
    obtain ⟨ha, hmembers⟩ := List.pairwise_cons.mp hmembers
    by_cases hfront : a <+: subject
    · -- the head is taken, and what stands behind it is shorter
      obtain rfl : a = t := by simpa [firstFront?, hfront] using h
      refine ⟨List.mem_cons_self, hfront, fun s hs hsubject hne => ?_⟩
      rcases List.mem_cons.mp hs with rfl | hs
      · exact absurd rfl hne
      · exact length_lt_of_precedes (ha s hs).1 (ha s hs).2 hfront hsubject
    · have hrest : firstFront? members subject = some t := by
        simpa [firstFront?, hfront] using h
      obtain ⟨hmem, hprefix, hlongest⟩ := ih hmembers hrest
      refine ⟨List.mem_cons_of_mem _ hmem, hprefix, fun s hs hsubject hne => ?_⟩
      rcases List.mem_cons.mp hs with rfl | hs
      · exact absurd hsubject hfront
      · exact hlongest s hs hsubject hne

/-- Without texts there is one alternative, which is empty. -/
lemma readAlternation?_alternation_nil (f : Flavor) :
    f.readAlternation? (f.alternation []) = some [[]] := by
  have hnil : f.alternation [] = [] := by
    simp [Flavor.alternation, alternatives, Text.longestFirst]
  rw [hnil]
  simp [Flavor.readAlternation?, cutAtBars, Flavor.readLiteral?]

/-- At the front of every subject the first alternative that matches is the longest text of the list
that does, and none matches unless a text does. Without texts the one alternative is empty. -/
theorem alternation_takes_longest (f : Flavor) (texts : List Text) :
    ∃ members, f.readAlternation? (f.alternation texts) = some members ∧
      (texts = [] → members = [[]]) ∧ ∀ subject : Text,
        ((∃ s ∈ texts, s <+: subject) →
          ∃ t, firstFront? members subject = some t ∧ IsLongestFront texts subject t) ∧
        (texts ≠ [] → (∀ s ∈ texts, ¬ s <+: subject) → ∀ t ∈ members, ¬ t <+: subject) := by
  by_cases hempty : texts = []
  · subst hempty
    refine ⟨[[]], readAlternation?_alternation_nil f, fun _ => rfl, fun subject => ⟨?_, ?_⟩⟩
    · simp
    · exact fun h => absurd rfl h
  refine ⟨alternatives texts, readAlternation?_alternation f hempty,
    fun h => absurd h hempty, fun subject => ?_⟩
  refine ⟨fun h => ?_, fun _ h t ht => h t (mem_alternatives.mp ht)⟩
  -- a text that the subject begins with is an alternative, so some alternative is taken
  obtain ⟨s, hs, hsubject⟩ := h
  have hsome : firstFront? (alternatives texts) subject ≠ none := fun hnone =>
    firstFront?_eq_none_iff.mp hnone ⟨s, mem_alternatives.mpr hs, hsubject⟩
  obtain ⟨t, ht⟩ := Option.ne_none_iff_exists'.mp hsome
  obtain ⟨hmem, hfront, hlongest⟩ := isLongestFront_of_firstFront? (pairwise_alternatives texts) ht
  exact ⟨t, ht, mem_alternatives.mp hmem, hfront,
    fun s hs => hlongest s (mem_alternatives.mpr hs)⟩

/-- Three texts of one beginning, beside a text of fewer characters in more bytes. -/
theorem alternation_takes_longest_shared :
    (∃ s ∈ [['a'], ['é', 'é'], ['a', 'b', 'c'], ['a', 'b']], s <+: ['a', 'b', 'd']) ∧
    (∀ s ∈ [['a'], ['é', 'é'], ['a', 'b', 'c'], ['a', 'b']], ¬ s <+: ['é', 'a']) ∧
    ∃ members, Flavor.re2.readAlternation?
        (Flavor.re2.alternation [['a'], ['é', 'é'], ['a', 'b', 'c'], ['a', 'b']]) =
          some members ∧
      (∃ t, firstFront? members ['a', 'b', 'd'] = some t ∧
        IsLongestFront [['a'], ['é', 'é'], ['a', 'b', 'c'], ['a', 'b']] ['a', 'b', 'd'] t) ∧
      ∀ t ∈ members, ¬ t <+: ['é', 'a'] := by
  have hsome : ∃ s ∈ [['a'], ['é', 'é'], ['a', 'b', 'c'], ['a', 'b']],
      s <+: ['a', 'b', 'd'] := by decide
  have hnone : ∀ s ∈ [['a'], ['é', 'é'], ['a', 'b', 'c'], ['a', 'b']],
      ¬ s <+: ['é', 'a'] := by decide
  obtain ⟨members, hread, _, hfront⟩ := alternation_takes_longest .re2
    [['a'], ['é', 'é'], ['a', 'b', 'c'], ['a', 'b']]
  exact ⟨hsome, hnone, members, hread, (hfront _).1 hsome, (hfront _).2 (by simp) hnone⟩

end LiteralRegex
