import LiteralRegex.ClassBody.Reader
import LiteralRegex.Proofs.Literal.Decoding

/-!
# Class bodies have one reading

The grammar of class bodies, said without the reader: an item is an atom, or two atoms in
order with a bare hyphen between them, and a body is items in a row. A hyphen that belongs
to a literal is never bare, so an item is over exactly where no hyphen follows its first
atom. That is why the reader, which looks one character ahead, accepts the whole grammar.
-/

namespace LiteralRegex

/-! ## The grammar -/

/-- Holds when the fragment spells the item. -/
inductive Flavor.ItemFor (f : Flavor) : Text → ClassItem → Prop
  | char {atom : Text} {c : Char} (h : f.AtomFor atom c) : ItemFor f atom (.char c)
  | range {atom₁ atom₂ : Text} {first last : Char} (h₁ : f.AtomFor atom₁ first)
      (h₂ : f.AtomFor atom₂ last) (hle : first ≤ last) :
      ItemFor f (atom₁ ++ ['-'] ++ atom₂) (.range first last hle)

/-- Holds when the body spells the items in their order. -/
def Flavor.BodyFor (f : Flavor) (body : Text) (items : List ClassItem) : Prop :=
  InRow f.ItemFor body items

/-! ## Bare hyphens stand inside items -/

lemma hyphen_not_alphanum : ¬ '-'.isAlphanum := by decide

/-- No atom begins with a bare hyphen. -/
lemma Flavor.AtomFor.head?_append_ne_hyphen {f : Flavor} {atom : Text} {c : Char}
    (h : f.AtomFor atom c) (rest : Text) : (atom ++ rest).head? ≠ some '-' := by
  cases h with
  | bare hc =>
    intro hhead
    obtain rfl : c = '-' := by simpa using hhead
    exact hyphen_not_alphanum hc
  | backslashed _ => simp
  | punctuation _ => simp
  | number _ _ _ => simp

lemma Flavor.ItemFor.head?_append_ne_hyphen {f : Flavor} {lead : Text} {item : ClassItem}
    (h : f.ItemFor lead item) (rest : Text) : (lead ++ rest).head? ≠ some '-' := by
  cases h with
  | char hatom => exact hatom.head?_append_ne_hyphen rest
  | range hfirst _ _ =>
    rw [List.append_assoc, List.append_assoc]
    exact hfirst.head?_append_ne_hyphen _

lemma Flavor.BodyFor.head?_ne_hyphen {f : Flavor} {body : Text} {items : List ClassItem}
    (h : f.BodyFor body items) : body.head? ≠ some '-' := by
  cases h with
  | nil => simp
  | cons hitem _ => exact hitem.head?_append_ne_hyphen _

/-! ## The reader accepts exactly the grammar -/

/-- What the reader takes off the front of a body is an item. -/
lemma exists_itemFor_of_readItem? {f : Flavor} {body rest : Text} {item : ClassItem}
    (h : f.readItem? body = some (item, rest)) :
    ∃ lead, f.ItemFor lead item ∧ body = lead ++ rest := by
  unfold Flavor.readItem? at h
  split at h
  · simp at h
  · next first tail hfirst =>
    -- a hyphen behind the first atom, so a second one has to follow
    obtain ⟨atom₁, hatom₁, rfl⟩ := exists_atomFor_of_readAtom? hfirst
    split at h
    · simp at h
    · next last tail' hlast =>
      obtain ⟨atom₂, hatom₂, rfl⟩ := exists_atomFor_of_readAtom? hlast
      split at h
      · next hle =>
        obtain ⟨rfl, rfl⟩ : ClassItem.range first last hle = item ∧ tail' = rest := by
          simpa using h
        exact ⟨atom₁ ++ ['-'] ++ atom₂, .range hatom₁ hatom₂ hle, by simp⟩
      · simp at h
  · next c tail _ hread =>
    obtain ⟨atom, hatom, rfl⟩ := exists_atomFor_of_readAtom? hread
    obtain ⟨rfl, rfl⟩ : ClassItem.char c = item ∧ tail = rest := by simpa using h
    exact ⟨atom, .char hatom, rfl⟩

/-- The reader takes an item off the front of a body unless a hyphen follows. -/
lemma readItem?_append {f : Flavor} {lead rest : Text} {item : ClassItem}
    (h : f.ItemFor lead item) (hrest : rest.head? ≠ some '-') :
    f.readItem? (lead ++ rest) = some (item, rest) := by
  cases h with
  | char hatom =>
    unfold Flavor.readItem?
    rw [readAtom?_append hatom rest]
    split
    · next heq => simp at heq
    · next heq =>
      -- the rest would begin with a hyphen
      simp only [Option.some.injEq, Prod.mk.injEq] at heq
      simp [heq.2] at hrest
    · next heq =>
      simp only [Option.some.injEq, Prod.mk.injEq] at heq
      rw [heq.1, heq.2]
  | @range atom₁ atom₂ first last hfirst hlast hle =>
    have hread₁ : f.readAtom? (atom₁ ++ ['-'] ++ atom₂ ++ rest) =
        some (first, '-' :: (atom₂ ++ rest)) := by
      rw [List.append_assoc, List.append_assoc]
      exact readAtom?_append hfirst _
    have hread₂ := readAtom?_append hlast rest
    simp only [Flavor.readItem?, hread₁, hread₂, dif_pos hle]

lemma repeats_readItems? (f : Flavor) : Repeats f.readItem? f.readItems? where
  nil := by simp [Flavor.readItems?]
  stuck hne hstep := by
    rw [Flavor.readItems?, if_neg hne]
    split
    · rfl
    · next hsome => simp [hstep] at hsome
  next {body rest item} hstep := by
    have hne : body ≠ [] := by
      intro hnil
      subst hnil
      simp [Flavor.readItem?, Flavor.readAtom?] at hstep
    rw [Flavor.readItems?, if_neg hne]
    split
    · next hnone => simp [hstep] at hnone
    · next item' tail hsome =>
      obtain ⟨rfl, rfl⟩ : item = item' ∧ rest = tail := by simpa [hstep] using hsome
      rfl

/-- A body can be read exactly when the grammar has it, and only in one way. -/
theorem readItems?_eq_some_iff {f : Flavor} {body : Text} {items : List ClassItem} :
    f.readItems? body = some items ↔ f.BodyFor body items :=
  (repeats_readItems? f).eq_some_iff exists_itemFor_of_readItem?
    fun hitem hrest => readItem?_append hitem (Flavor.BodyFor.head?_ne_hyphen hrest)

/-! ## Written items -/

lemma Flavor.itemFor_write (f : Flavor) (item : ClassItem) : f.ItemFor (item.write f) item := by
  cases item with
  | char c => exact .char (f.atomFor_escape c)
  | range first last hle => exact .range (f.atomFor_escape first) (f.atomFor_escape last) hle

lemma Flavor.bodyFor_writeItems (f : Flavor) (items : List ClassItem) :
    f.BodyFor (f.writeItems items) items := by
  induction items with
  | nil => exact .nil
  | cons item items ih =>
    rw [writeItems, List.flatMap_cons]
    exact .cons (f.itemFor_write item) ih

/-- The items of a body read back. -/
theorem readItems?_writeItems (f : Flavor) (items : List ClassItem) :
    f.readItems? (f.writeItems items) = some items :=
  readItems?_eq_some_iff.mpr (f.bodyFor_writeItems items)

end LiteralRegex
