import LiteralRegex.Literal.Basic
import LiteralRegex.Text.Order

/-!
# Alternations

The fragment that matches any text of a list and nothing else. Engines try the
alternatives from left to right, so they stand longest first: a text never hides
a longer one that begins with it. Since the order is total and repetitions are
dropped, the fragment depends on the set of texts alone.
-/

namespace LiteralRegex

/-- Puts a text before others unless the first of them is the same. -/
def consDistinct (text : Text) (rest : List Text) : List Text :=
  if rest.head? = some text then rest else text :: rest

/-- The different texts of a list, longest first. -/
def alternatives (texts : List Text) : List Text :=
  (Text.longestFirst texts).foldr consDistinct []

/-- The fragment that matches exactly the texts of the list. -/
def Flavor.alternation (f : Flavor) (texts : List Text) : Text :=
  ['|'].intercalate ((alternatives texts).map f.literal)

theorem mem_consDistinct {t text : Text} {rest : List Text} :
    t ∈ consDistinct text rest ↔ t = text ∨ t ∈ rest := by
  unfold consDistinct
  split
  · next h =>
    have := List.mem_of_mem_head? (Option.mem_def.mpr h)
    grind
  · exact List.mem_cons

theorem mem_foldr_consDistinct {t : Text} {texts : List Text} :
    t ∈ texts.foldr consDistinct [] ↔ t ∈ texts := by
  induction texts with
  | nil => simp
  | cons text texts ih => rw [List.foldr_cons, mem_consDistinct, ih, List.mem_cons]

/-- The alternatives are the texts. -/
theorem mem_alternatives {t : Text} {texts : List Text} :
    t ∈ alternatives texts ↔ t ∈ texts := by
  rw [alternatives, mem_foldr_consDistinct, (Text.longestFirst_perm texts).mem_iff]

/-- Each alternative stands before every later one and differs from it. -/
theorem pairwise_alternatives (texts : List Text) :
    (alternatives texts).Pairwise fun a b => Text.Precedes a b ∧ a ≠ b := by
  have hfold : ∀ l : List Text, l.Pairwise Text.Precedes →
      (l.foldr consDistinct []).Pairwise fun a b => Text.Precedes a b ∧ a ≠ b := by
    intro l
    induction l with
    | nil => simp
    | cons text l ih =>
      intro hsorted
      obtain ⟨hfirst, hsorted⟩ := List.pairwise_cons.mp hsorted
      have hrest := ih hsorted
      rw [List.foldr_cons, consDistinct]
      split
      · exact hrest
      · next hnew =>
        refine List.pairwise_cons.mpr ⟨fun b hb => ?_, hrest⟩
        have hbefore := hfirst b (mem_foldr_consDistinct.mp hb)
        refine ⟨hbefore, ?_⟩
        intro hsame
        subst hsame
        -- the first of the rest stands before the text and after it
        cases h : l.foldr consDistinct [] with
        | nil => simp [h] at hb
        | cons head tail =>
          rw [h] at hrest hb hnew
          rcases List.mem_cons.mp hb with rfl | hb
          · simp at hnew
          · have hafter := (List.pairwise_cons.mp hrest).1 _ hb
            have hhead : head ∈ l := mem_foldr_consDistinct.mp (h ▸ List.mem_cons_self)
            exact hafter.2 (Text.Precedes.antisymm hafter.1 (hfirst head hhead))
  exact hfold _ (Text.pairwise_longestFirst texts)

/-- The number of different texts when there are several and each is one character, so
that a class body would be shorter. -/
def singleCharacterCount? (texts : List Text) : Option Nat :=
  let distinct := alternatives texts
  if 1 < distinct.length ∧ distinct.all (·.length = 1) then some distinct.length else none

end LiteralRegex
