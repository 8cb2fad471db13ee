import LiteralRegex.Text.Basic

/-!
# Runs of characters

A set of characters is split into runs of consecutive numbers, each as long as
possible. Between two runs there is always a number that is not in the set, which may
be a surrogate.
-/

namespace LiteralRegex

/-- The characters from one to another, both included. -/
structure CharRun where
  first : Char
  last : Char
  first_le_last : first ≤ last
deriving DecidableEq

namespace CharRun

/-- The run of one character. -/
def single (c : Char) : CharRun := ⟨c, c, Char.le_refl c⟩

/-- The count of numbers from the first to the last. -/
def length (r : CharRun) : Nat := r.last.toNat - r.first.toNat + 1

/-- Puts a character before runs of which none begins below it: it is the first
character already, it stands right before it, or it begins a run of its own. -/
def cons (c : Char) : List CharRun → List CharRun
  | [] => [single c]
  | r :: rest =>
    if c = r.first then r :: rest
    else if h : c.toNat + 1 = r.first.toNat then
      { first := c
        last := r.last
        first_le_last := by
          have := r.first_le_last
          simp only [Char.le_def, UInt32.le_iff_toNat_le, Char.toNat] at this h ⊢
          omega } :: rest
    else single c :: r :: rest

end CharRun

/-- The runs of the characters, in ascending order. -/
def charRuns (chars : List Char) : List CharRun :=
  (chars.mergeSort (decide <| · ≤ ·)).foldr CharRun.cons []

end LiteralRegex
