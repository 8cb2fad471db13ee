import LiteralRegex.Mask.Basic
import LiteralRegex.Text.Composed

/-!
# Edits

Changes to one text, made one after the other. A change that is refused leaves the
text as it was, and the next one goes on from there.
-/

namespace LiteralRegex

/-- The text in Normalization Form C. -/
def composeText (text : String) : String := String.ofList (Text.composed text.toList)

/-- A change to a text. -/
inductive Edit where
  /-- Replaces one span, or removes it. -/
  | maskSpan (span : Span) (mask : Option String)
  /-- Removes several spans. -/
  | maskSpans (spans : List Span)
  /-- Replaces several spans. -/
  | maskSpansWith (spans : List Span) (masks : List String)
  /-- Brings the text into Normalization Form C. -/
  | compose
deriving DecidableEq

/-- The text after a change. -/
def Edit.apply (text : String) : Edit → Report String
  | maskSpan span mask => .ofExcept (LiteralRegex.maskSpan text span mask)
  | maskSpans spans => LiteralRegex.maskSpans text spans
  | maskSpansWith spans masks => LiteralRegex.maskSpansWith text spans masks
  | compose => pure (composeText text)

/-- The outcome of each of several changes to a text. -/
def Edit.applyAll (text : String) : List Edit → List (Report String)
  | [] => []
  | edit :: rest =>
    let report := edit.apply text
    let text := match report.result with
      | .ok changed => changed
      | .error _ => text
    report :: applyAll text rest

end LiteralRegex
