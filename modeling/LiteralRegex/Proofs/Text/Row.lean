import LiteralRegex.Text.Basic
import Mathlib.Tactic.Common

/-!
# Reading a text item by item

Both readers of fragments take an item off the front of the text until nothing is left.
`InRow` says which texts such a reader should accept, without saying where one item ends
and the next begins; `Repeats.eq_some_iff` says that a reader accepts exactly those when
its single step is right about single items.
-/

namespace LiteralRegex

variable {α : Type} {spells : Text → α → Prop}

/-- Holds when the text is a row of parts that spell the items in their order. -/
inductive InRow (spells : Text → α → Prop) : Text → List α → Prop
  | nil : InRow spells [] []
  | cons {lead rest : Text} {a : α} {items : List α} (hlead : spells lead a)
      (hrest : InRow spells rest items) : InRow spells (lead ++ rest) (a :: items)

/-- Holds when `read?` applies `step?` until nothing is left. -/
structure Repeats (step? : Text → Option (α × Text)) (read? : Text → Option (List α)) :
    Prop where
  nil : read? [] = some []
  stuck {text : Text} (hne : text ≠ []) (hstep : step? text = none) : read? text = none
  next {text rest : Text} {a : α} (hstep : step? text = some (a, rest)) :
    read? text = (read? rest).map (a :: ·)

namespace Repeats

variable {step? : Text → Option (α × Text)} {read? : Text → Option (List α)}

/-- What is read is a row if every step takes a part that spells its item. -/
lemma inRow_of_eq_some (h : Repeats step? read?)
    (hsound : ∀ {text rest : Text} {a : α}, step? text = some (a, rest) →
      ∃ lead, spells lead a ∧ text = lead ++ rest)
    (items : List α) {text : Text} (hread : read? text = some items) :
    InRow spells text items := by
  induction items generalizing text with
  | nil =>
    by_cases hnil : text = []
    · rw [hnil]
      exact .nil
    · -- a text that is not empty gives an item or is not read
      cases hstep : step? text with
      | none =>
        rw [h.stuck hnil hstep] at hread
        simp at hread
      | some first =>
        rw [h.next hstep] at hread
        simp at hread
  | cons a items ih =>
    by_cases hnil : text = []
    · rw [hnil, h.nil] at hread
      simp at hread
    · cases hstep : step? text with
      | none =>
        rw [h.stuck hnil hstep] at hread
        simp at hread
      | some first =>
        rw [h.next hstep] at hread
        obtain ⟨tail, htail, hcons⟩ := Option.map_eq_some_iff.mp hread
        obtain ⟨hfirst, rfl⟩ : first.1 = a ∧ tail = items := by simpa using hcons
        obtain ⟨lead, hlead, rfl⟩ := hsound hstep
        rw [hfirst] at hlead
        -- what is left is a row by induction on the items
        exact .cons hlead (ih htail)

/-- A row is read if every step takes the first part of a row. -/
lemma eq_some_of_inRow (h : Repeats step? read?)
    (hcomplete : ∀ {lead rest : Text} {a : α} {items : List α}, spells lead a →
      InRow spells rest items → step? (lead ++ rest) = some (a, rest))
    {text : Text} {items : List α} (hrow : InRow spells text items) :
    read? text = some items := by
  induction hrow with
  | nil => exact h.nil
  | cons hlead hrest ih =>
    rw [h.next (hcomplete hlead hrest), ih]
    rfl

/-- The reader accepts exactly the rows. -/
theorem eq_some_iff (h : Repeats step? read?)
    (hsound : ∀ {text rest : Text} {a : α}, step? text = some (a, rest) →
      ∃ lead, spells lead a ∧ text = lead ++ rest)
    (hcomplete : ∀ {lead rest : Text} {a : α} {items : List α}, spells lead a →
      InRow spells rest items → step? (lead ++ rest) = some (a, rest))
    {text : Text} {items : List α} : read? text = some items ↔ InRow spells text items :=
  ⟨h.inRow_of_eq_some hsound items, h.eq_some_of_inRow hcomplete⟩

end Repeats

end LiteralRegex
