import LiteralRegex.Text.Basic
import LiteralRegex.Unicode.Scalar

/-!
# Ranges of characters

A range runs from one character to another, upward or downward, and holds both. No
character is numbered by a surrogate, so a walk passes them over. A cursor is a walk
in progress. It stands on a number, which may be the near edge of the surrogates, or
has finished.
-/

namespace LiteralRegex

/-- The characters from `first` to `last` in the direction from one to the other. -/
structure CharRange where
  first : Char
  last : Char
deriving DecidableEq

/-- Holds when the range runs downward. -/
def CharRange.isDescending (r : CharRange) : Bool := r.last < r.first

/-- A walk through a range. -/
structure Cursor where
  /-- The number to look at next, `none` when the walk has finished. -/
  position : Option Nat
  /-- The number at which the walk ends. -/
  last : Nat
  descending : Bool
deriving DecidableEq

/-- A walk from the beginning. -/
def CharRange.start (r : CharRange) : Cursor where
  position := some r.first.toNat
  last := r.last.toNat
  descending := r.isDescending

namespace Cursor

/-- The number one step on from `n`. -/
def step (cur : Cursor) (n : Nat) : Nat := if cur.descending then n - 1 else n + 1

/-- The walk after it looked at `n`: finished at the last number, else one step on. -/
def after (cur : Cursor) (n : Nat) : Cursor :=
  { cur with position := if n = cur.last then none else some (cur.step n) }

/-- The count of surrogates ahead of a walk that stands on the surrogate `n`. -/
def surrogatesAhead (cur : Cursor) (n : Nat) : Nat :=
  if cur.descending then n + 1 - 0xD800 else 0xE000 - n

/-- The first character from the number `n` on, and the walk after it. A number beyond
U+10FFFF ends the walk. -/
def nextFrom (cur : Cursor) (n : Nat) : Option Char × Cursor :=
  match Unicode.scalar? n with
  | some c => (some c, cur.after n)
  | none =>
    if Unicode.IsSurrogate n ∧ n ≠ cur.last then cur.nextFrom (cur.step n)
    else (none, { cur with position := none })
termination_by cur.surrogatesAhead n
decreasing_by
  simp only [Unicode.IsSurrogate] at *
  cases hd : cur.descending <;> simp [surrogatesAhead, step, hd] <;> omega

/-- The next character and the walk after it. A finished walk stays finished. -/
def next (cur : Cursor) : Option Char × Cursor :=
  match cur.position with
  | none => (none, cur)
  | some n => cur.nextFrom n

/-- The numbers left to look at, surrogates included. -/
def numbersLeft (cur : Cursor) : Nat :=
  match cur.position with
  | none => 0
  | some n => (if n ≤ cur.last then cur.last - n else n - cur.last) + 1

/-- Up to `count` characters, put after those in `taken`, which are last one first. -/
def takeOnto (taken : List Char) (cur : Cursor) : Nat → List Char × Cursor
  | 0 => (taken.reverse, cur)
  | count + 1 =>
    match cur.next with
    | (none, cur) => (taken.reverse, cur)
    | (some c, cur) => takeOnto (c :: taken) cur count

/-- Up to `count` characters and the walk after them. -/
def take (cur : Cursor) (count : Nat) : List Char × Cursor := cur.takeOnto [] count

/-- All characters left and the finished walk. No more characters are left than numbers. -/
def rest (cur : Cursor) : List Char × Cursor := cur.take cur.numbersLeft

end Cursor

/-- The characters of a range in the order of its walk. -/
def CharRange.toList (r : CharRange) : List Char := r.start.rest.1

end LiteralRegex
