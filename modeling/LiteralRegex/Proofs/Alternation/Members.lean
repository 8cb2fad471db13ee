import LiteralRegex.Alternation.Reader
import LiteralRegex.Proofs.Literal.Decoding

/-!
# An alternation matches its members

An alternation is cut at its live bars and each piece is read as a literal. What comes out
is the list that was written, without repetitions: bars and backslashes inside the texts are
behind backslashes of their own, and the empty text is an empty piece.

* `readAlternation?_alternation` gives the list that is read;
* `mem_iff_of_readAlternation?` ties the list to what an anchored engine accepts.
-/

namespace LiteralRegex

/-- Holds when the fragment, anchored at both ends, matches the text: one of the pieces between
its bars spells it. -/
def Flavor.Accepts (f : Flavor) (fragment text : Text) : Prop :=
  ∃ piece ∈ cutAtBars fragment, f.LiteralFor piece text

/-! ## Reading a list of pieces -/

/-- The members of a list that was read piece by piece are what the pieces read as. -/
private lemma mem_iff_of_mapM_eq_some {α β : Type} {g : α → Option β} {l : List α}
    {l' : List β} (h : l.mapM g = some l') (b : β) : b ∈ l' ↔ ∃ a ∈ l, g a = some b := by
  induction l generalizing l' with
  | nil =>
    obtain rfl : l' = [] := by simpa using h.symm
    simp
  | cons a l ih =>
    simp only [List.mapM_cons, bind, pure, Option.bind_eq_some_iff, Option.some.injEq] at h
    obtain ⟨b', hb', l'', hl'', rfl⟩ := h
    rw [List.mem_cons, ih hl'']
    constructor
    · intro h
      rcases h with rfl | ⟨a', ha', hread⟩
      · exact ⟨a, List.mem_cons_self, hb'⟩
      · exact ⟨a', List.mem_cons_of_mem _ ha', hread⟩
    · intro h
      obtain ⟨a', ha', hread⟩ := h
      rcases List.mem_cons.mp ha' with rfl | ha'
      · exact .inl (Option.some.inj (hread.symm.trans hb'))
      · exact .inr ⟨a', ha', hread⟩

/-- A fragment that can be read accepts the texts that are read from it. -/
lemma mem_iff_of_readAlternation? {f : Flavor} {fragment : Text} {members : List Text}
    (h : f.readAlternation? fragment = some members) (t : Text) :
    t ∈ members ↔ f.Accepts fragment t := by
  rw [mem_iff_of_mapM_eq_some h t, Flavor.Accepts]
  simp only [readLiteral?_eq_some_iff]

lemma mapM_readLiteral?_map_literal (f : Flavor) (texts : List Text) :
    (texts.map f.literal).mapM f.readLiteral? = some texts := by
  induction texts with
  | nil => rfl
  | cons t texts ih => simp [readLiteral?_literal, ih]

/-! ## Reading an alternation -/

lemma alternatives_ne_nil {texts : List Text} (hne : texts ≠ []) : alternatives texts ≠ [] := by
  obtain ⟨t, ht⟩ := List.exists_mem_of_ne_nil texts hne
  exact List.ne_nil_of_mem (mem_alternatives.mpr ht)

lemma nodup_alternatives (texts : List Text) : (alternatives texts).Nodup :=
  (pairwise_alternatives texts).imp And.right

/-- The texts of an alternation are read back longest first. -/
theorem readAlternation?_alternation (f : Flavor) {texts : List Text} (hne : texts ≠ []) :
    f.readAlternation? (f.alternation texts) = some (alternatives texts) := by
  -- no bar inside an alternative is live, so the cuts are those between alternatives
  rw [Flavor.readAlternation?, Flavor.alternation, cutAtBars_intercalate f (alternatives_ne_nil hne),
    mapM_readLiteral?_map_literal]

/-- Every piece of an alternation can be read, no text is read twice, and the texts that are
read are those of the list, which the fragment accepts and no others. -/
theorem alternation_accepts_members (f : Flavor) {texts : List Text} (hne : texts ≠ []) :
    ∃ members, f.readAlternation? (f.alternation texts) = some members ∧ members.Nodup ∧
      (∀ t, t ∈ members ↔ t ∈ texts) ∧ ∀ t, f.Accepts (f.alternation texts) t ↔ t ∈ texts := by
  have hread := readAlternation?_alternation f hne
  have hmem : ∀ t, t ∈ alternatives texts ↔ t ∈ texts := fun t => mem_alternatives
  refine ⟨alternatives texts, hread, nodup_alternatives texts, hmem, fun t => ?_⟩
  rw [← mem_iff_of_readAlternation? hread t, hmem]

/-- A bar, a backslash, the empty text and a repetition among the texts. -/
theorem alternation_accepts_members_bars :
    [['|'], ['\\', '\n'], [], ['|']] ≠ [] ∧
    ∃ members, Flavor.re2.readAlternation?
        (Flavor.re2.alternation [['|'], ['\\', '\n'], [], ['|']]) = some members ∧
      members.Nodup ∧ (∀ t, t ∈ members ↔ t ∈ [['|'], ['\\', '\n'], [], ['|']]) ∧
      ∀ t, Flavor.re2.Accepts (Flavor.re2.alternation [['|'], ['\\', '\n'], [], ['|']]) t ↔
        t ∈ [['|'], ['\\', '\n'], [], ['|']] :=
  ⟨by decide, alternation_accepts_members .re2 (by decide)⟩

end LiteralRegex
