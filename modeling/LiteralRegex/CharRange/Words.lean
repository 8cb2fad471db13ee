import LiteralRegex.CharRange.Basic

/-!
# Walks in words

A walk that is kept in words of 32 bits. A call for the next character is a loop: each turn looks at one
number, moves the walk one step on, and ends the call if the number is that of a character. Nothing but the
last number stops the walk, so it has to be met exactly, and a step has to give a word again.
-/

namespace LiteralRegex

/-- A walk through a range, kept in words. -/
structure WordCursor where
  /-- The number to look at next, `none` when the walk has finished. -/
  position : Option UInt32
  /-- The number at which the walk ends. -/
  last : UInt32
  descending : Bool
deriving DecidableEq

/-- A walk from the beginning, in words. -/
def CharRange.wordStart (r : CharRange) : WordCursor where
  position := some r.first.val
  last := r.last.val
  descending := r.isDescending

namespace WordCursor

/-- The walk over numbers of any size. -/
def toCursor (w : WordCursor) : Cursor where
  position := w.position.map UInt32.toNat
  last := w.last.toNat
  descending := w.descending

/-- The word one step on from `n`, if there is one. -/
def step? (w : WordCursor) (n : UInt32) : Option UInt32 :=
  if w.descending then
    if n = 0 then none else some (n - 1)
  else if n = 0xFFFFFFFF then none else some (n + 1)

/-- The walk after it looked at `n`, if that is a walk in words. -/
def after? (w : WordCursor) (n : UInt32) : Option WordCursor :=
  if n = w.last then some { w with position := none }
  else (w.step? n).map fun next => { w with position := some next }

/-- What one turn of the loop comes to. -/
inductive Turn where
  /-- The call ends with what it found, and the walk after it. -/
  | ends (found : Option Char) (w : WordCursor)
  /-- No character has the number, so the loop goes on. -/
  | goesOn (w : WordCursor)
  /-- The step gave no word. -/
  | overflows

/-- The walk after a turn. -/
def Turn.walk? : Turn → Option WordCursor
  | ends _ w => some w
  | goesOn w => some w
  | overflows => none

/-- One turn of the loop. -/
def turn (w : WordCursor) : Turn :=
  match w.position with
  | none => .ends none w
  | some n =>
    match w.after? n with
    | none => .overflows
    | some after =>
      match Unicode.scalar? n.toNat with
      | some c => .ends (some c) after
      | none => .goesOn after

/-- What a call for the next character finds, and the walk after it, if it ends within so many turns and
without an overflow. -/
def call? : Nat → WordCursor → Option (Option Char × WordCursor)
  | 0, _ => none
  | turns + 1, w =>
    match w.turn with
    | .ends found after => some (found, after)
    | .goesOn after => call? turns after
    | .overflows => none

/-- Holds of the walks that turns lead to from the beginning of a range. A call is some turns in a row, so
the walks between calls are among these. -/
inductive Reached (r : CharRange) : WordCursor → Prop where
  | start : Reached r r.wordStart
  | turn {w after : WordCursor} (h : Reached r w) (hturn : w.turn.walk? = some after) :
    Reached r after

end WordCursor

end LiteralRegex
