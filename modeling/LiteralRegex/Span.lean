/-!
# Spans

A span is a half-open interval of positions in a text. Its ends are any two numbers;
whether they are in order and within a text is checked where the span is used.
-/

namespace LiteralRegex

/-- The positions from `start` up to but not including `stop`. -/
structure Span where
  start : Nat
  stop : Nat
deriving DecidableEq

namespace Span

/-- The number of positions, zero if the ends are not in order. -/
def length (s : Span) : Nat := s.stop - s.start

/-- Holds of a span without positions. -/
def isEmpty (s : Span) : Bool := s.length = 0

/-- How messages show a span. -/
def display (s : Span) : String := "(" ++ toString s.start ++ ", " ++ toString s.stop ++ ")"

/-- Holds when `a` does not come after `b` in the order by start, then by stop. -/
def Precedes (a b : Span) : Prop := a.start < b.start ∨ a.start = b.start ∧ a.stop ≤ b.stop

instance (a b : Span) : Decidable (Precedes a b) := inferInstanceAs (Decidable (_ ∨ _))

/-- The spans by start, then by stop. -/
def sorted (spans : List Span) : List Span := spans.mergeSort (decide <| Precedes · ·)

end Span

end LiteralRegex
