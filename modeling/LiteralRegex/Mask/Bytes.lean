import LiteralRegex.Mask.Basic
import LiteralRegex.Text.Utf8

/-!
# Masks in the bytes of a buffer

Replacement told of bytes alone. A mask goes in where the range lies within the buffer and
neither of its ends falls into a character; any other range is refused, and so is everything
that follows.
-/

namespace LiteralRegex

/-- Holds of the ranges that can be replaced: they lie within the buffer, and both ends are
between characters. -/
structure ByteRange.Fits (bytes : ByteRange) (buffer : List UInt8) : Prop where
  start_le_stop : bytes.start.byteIdx ≤ bytes.stop.byteIdx
  stop_le_length : bytes.stop.byteIdx ≤ buffer.length
  isBoundary_start : Text.isBoundary buffer bytes.start.byteIdx
  isBoundary_stop : Text.isBoundary buffer bytes.stop.byteIdx

instance (bytes : ByteRange) (buffer : List UInt8) : Decidable (bytes.Fits buffer) :=
  decidable_of_iff
    (bytes.start.byteIdx ≤ bytes.stop.byteIdx ∧ bytes.stop.byteIdx ≤ buffer.length ∧
      Text.isBoundary buffer bytes.start.byteIdx ∧ Text.isBoundary buffer bytes.stop.byteIdx)
    ⟨fun ⟨hle, hlength, hstart, hstop⟩ => ⟨hle, hlength, hstart, hstop⟩,
      fun ⟨hle, hlength, hstart, hstop⟩ => ⟨hle, hlength, hstart, hstop⟩⟩

/-- The buffer with some of its bytes replaced by those of a mask, if the range fits. -/
def replaceRange? (buffer : List UInt8) (bytes : ByteRange) (mask : String) :
    Option (List UInt8) :=
  if bytes.Fits buffer then
    some (buffer.take bytes.start.byteIdx ++ Text.utf8 mask.toList
      ++ buffer.drop bytes.stop.byteIdx)
  else none

/-- The buffer with several ranges of its bytes replaced, the last one first, if each of them
fits the buffer as it is by then. -/
def replaceEach? (buffer : List UInt8) (replacements : List (ByteRange × String)) :
    Option (List UInt8) :=
  replacements.foldrM (fun (bytes, mask) buffer => replaceRange? buffer bytes mask) buffer

end LiteralRegex
