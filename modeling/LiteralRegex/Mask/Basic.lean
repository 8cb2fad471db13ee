import LiteralRegex.Report

/-!
# Masks

Spans of characters are replaced by other text. A text is kept as a string, that is
as the bytes of its characters, and replacement works on bytes: a table gives for
each character the place of its first byte. Several spans are replaced from the last
to the first, so that the places before the span at hand still hold. Spans have to be
in order and apart, which neighbours are checked for.
-/

namespace LiteralRegex

/-! ## Places in the bytes of a text -/

/-- The place of the first byte of each character, and last the place after the text. -/
def byteOffsets (text : String) : Array Nat :=
  (text.toList.scanl (fun place c => place + c.utf8Size) 0).toArray

/-- The bytes from one place up to but not including another. -/
structure ByteRange where
  start : String.Pos.Raw
  stop : String.Pos.Raw
deriving DecidableEq

/-- The bytes of a span in the text with the given offsets. -/
def Span.bytes (offsets : Array Nat) (s : Span) : Except Error ByteRange :=
  if h : s.stop < s.start then .error (.input (.reversedSpan s))
  else if h' : s.stop < offsets.size then .ok ⟨⟨offsets[s.start]⟩, ⟨offsets[s.stop]⟩⟩
  else .error (.input (.spanOutOfBounds s (offsets.size - 1)))

/-- The bytes of spans in order, where `previous` is the span in front of them. -/
def locate (offsets : Array Nat) (previous : Option Span) :
    List Span → Except Error (List ByteRange)
  | [] => .ok []
  | s :: rest =>
    match previous.filter (s.start < ·.stop) with
    | some p => .error (.input (.spanOverlaps s p))
    | none => do
      let bytes ← s.bytes offsets
      let others ← locate offsets (some s) rest
      return bytes :: others

/-! ## Replacement -/

/-- The text with some of its bytes replaced. -/
def replaceBytes (text : String) (bytes : ByteRange) (mask : String) : String :=
  String.Pos.Raw.extract text 0 bytes.start ++ mask
    ++ String.Pos.Raw.extract text bytes.stop text.rawEndPos

/-- The text with several ranges of its bytes replaced, the last one first. -/
def replaceAll (text : String) (replacements : List (ByteRange × String)) : String :=
  replacements.foldr (fun (bytes, mask) text => replaceBytes text bytes mask) text

/-- The text with the characters of a span replaced, or removed if there is no mask. -/
def maskSpan (text : String) (span : Span) (mask : Option String) : Except Error String := do
  let bytes ← span.bytes (byteOffsets text)
  return replaceBytes text bytes (mask.getD "")

/-- The text with each span replaced by the mask beside it. -/
def maskEach (text : String) (masks : List (Span × String)) : Report String :=
  let offsets := byteOffsets text
  match locate offsets none (masks.map (·.1)) with
  | .error e => { result := .error e }
  | .ok places =>
    { result := .ok (replaceAll text (places.zip (masks.map (·.2))))
      notices := [.masking masks.length (offsets.size - 1)] }

/-- The text without the characters of the spans. -/
def maskSpans (text : String) (spans : List Span) : Report String :=
  maskEach text (spans.map fun span => (span, ""))

/-- The text with each span replaced by the mask at the same place of the other list. -/
def maskSpansWith (text : String) (spans : List Span) (masks : List String) : Report String :=
  if spans.length = masks.length then maskEach text (spans.zip masks)
  else { result := .error (.input (.maskCount spans.length masks.length)) }

end LiteralRegex
