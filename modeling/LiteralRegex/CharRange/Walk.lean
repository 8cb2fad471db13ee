import LiteralRegex.CharRange.Basic

/-!
# Walks

A reader of a range holds a walk and a saved copy of one. Each move reads some
characters, or starts again, saves or restores the walk. Reading the whole range
goes by a walk of its own and leaves the other two alone.
-/

namespace LiteralRegex

/-- A walk through a range and a saved walk. -/
structure Walk where
  range : CharRange
  cursor : Cursor
  saved : Cursor
deriving DecidableEq

namespace Walk

/-- What a reader of a range can do. -/
inductive Move where
  | next
  | takeThree
  | rest
  /-- Counts the characters left, which reads them. -/
  | count
  | sizeHint
  | restart
  | save
  | load
  /-- Reads the whole range. -/
  | whole
  /-- Looks at the range itself. -/
  | describe
deriving DecidableEq

/-- What a move tells. -/
inductive Reply where
  | character (c : Option Char)
  | characters (text : Text)
  | count (n : Nat)
  /-- Bounds of the count of characters left. -/
  | bounds (lower upper : Nat)
  | restarted
  | saved
  | loaded
  | description (range : CharRange)
deriving DecidableEq

/-- The walk from the beginning, which is also the saved one. -/
def start (range : CharRange) : Walk := ⟨range, range.start, range.start⟩

/-- What a move tells, and the walk after it. -/
def move (w : Walk) : Move → Reply × Walk
  | .next => let (c, cursor) := w.cursor.next; (.character c, { w with cursor })
  | .takeThree => let (text, cursor) := w.cursor.take 3; (.characters text, { w with cursor })
  | .rest => let (text, cursor) := w.cursor.rest; (.characters text, { w with cursor })
  | .count => let (text, cursor) := w.cursor.rest; (.count text.length, { w with cursor })
  | .sizeHint => (.bounds 0 w.cursor.numbersLeft, w)
  | .restart => (.restarted, { w with cursor := w.range.start })
  | .save => (.saved, { w with saved := w.cursor })
  | .load => (.loaded, { w with cursor := w.saved })
  | .whole => (.characters w.range.toList, w)
  | .describe => (.description w.range, w)

/-- What a sequence of moves tells. -/
def replies (w : Walk) : List Move → List Reply
  | [] => []
  | m :: rest => let (reply, w) := w.move m; reply :: w.replies rest

end Walk

end LiteralRegex
