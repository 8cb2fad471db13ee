import LiteralRegex.CharRange.Members
import LiteralRegex.CharRange.Walk

/-!
# Walks over a list

What a walk comes to when the range is taken for the list of its members: the characters
that are left are an end of this list, and so are those that a saved walk has left. Every
move takes characters off the front or puts another end in place.
-/

namespace LiteralRegex

/-- The characters of a range that a walk and a saved walk have left. -/
structure ListWalk where
  range : CharRange
  left : Text
  saved : Text
  left_suffix : left <:+ range.members
  saved_suffix : saved <:+ range.members

namespace ListWalk

/-- All characters are left. -/
def start (range : CharRange) : ListWalk where
  range
  left := range.members
  saved := range.members
  left_suffix := List.suffix_refl _
  saved_suffix := List.suffix_refl _

/-- The walk after some more characters. -/
def pass (w : ListWalk) (count : Nat) : ListWalk :=
  { w with
    left := w.left.drop count
    left_suffix := (List.drop_suffix count w.left).trans w.left_suffix }

/-- What a move tells, and the walk after it. A list has its length for both bounds. -/
def move (w : ListWalk) : Walk.Move → Walk.Reply × ListWalk
  | .next => (.character w.left.head?, w.pass 1)
  | .takeThree => (.characters (w.left.take 3), w.pass 3)
  | .rest => (.characters w.left, w.pass w.left.length)
  | .count => (.count w.left.length, w.pass w.left.length)
  | .sizeHint => (.bounds w.left.length w.left.length, w)
  | .restart =>
    (.restarted, { w with left := w.range.members, left_suffix := List.suffix_refl _ })
  | .save => (.saved, { w with saved := w.left, saved_suffix := w.left_suffix })
  | .load => (.loaded, { w with left := w.saved, left_suffix := w.saved_suffix })
  | .whole => (.characters w.range.members, w)
  | .describe => (.description w.range, w)

/-- What a sequence of moves tells. -/
def replies (w : ListWalk) : List Walk.Move → List Walk.Reply
  | [] => []
  | m :: rest => let (reply, w) := w.move m; reply :: w.replies rest

end ListWalk

end LiteralRegex
