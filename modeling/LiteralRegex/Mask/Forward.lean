import LiteralRegex.Mask.Basic

/-!
# Masks from front to back

What a masked text is, said of its characters from the first to the last: the
characters before the first span, its mask, the characters up to the next span, and so
on to the end.
-/

namespace LiteralRegex

/-- The characters from a position on, with the masks in the places of the spans. -/
def maskedFrom (text : Text) (position : Nat) : List (Span × Text) → Text
  | [] => text.drop position
  | (span, mask) :: rest =>
    (text.drop position).take (span.start - position) ++ mask ++ maskedFrom text span.stop rest

/-- The characters of a text with the masks in the places of the spans. -/
def masked (text : Text) (masks : List (Span × Text)) : Text := maskedFrom text 0 masks

/-- Holds when the spans are in order and apart, each within `length` characters and none
before `position`. -/
def SpansFit (length position : Nat) : List Span → Prop
  | [] => position ≤ length
  | span :: rest =>
    position ≤ span.start ∧ span.start ≤ span.stop ∧ SpansFit length span.stop rest

end LiteralRegex
