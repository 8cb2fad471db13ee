import LiteralRegex.Mask.Bytes
import LiteralRegex.Proofs.Mask.Assembly
import LiteralRegex.Proofs.Text.Utf8

/-!
# Masks never cut a character

The table of offsets is made once, of the untouched text, and used on a buffer that masks have
already gone into. That is safe: a range fits a buffer when it covers whole characters of it,
`ByteRange.fits_utf8_iff`, and up to the end of the span at hand the buffer is still the
untouched text, so no step of the loop is refused, `replaceEach?_byteRange`. Where a range
fits, replacing bytes and replacing characters are the same, `replaceRange?_utf8`.
-/

namespace LiteralRegex

open String (utf8Len)
open Text (utf8)

/-! ## One replacement -/

/-- The ranges that fit the bytes of a text are those of characters that follow one another. -/
theorem ByteRange.fits_utf8_iff {bytes : ByteRange} {text : Text} :
    bytes.Fits (utf8 text) ↔
      ∃ front middle back, text = front ++ middle ++ back ∧
        bytes = ⟨⟨utf8Len front⟩, ⟨utf8Len (front ++ middle)⟩⟩ := by
  constructor
  · intro h
    obtain ⟨front, rest, htext, hstart⟩ := Text.isBoundary_utf8_iff.mp h.isBoundary_start
    obtain ⟨upto, back, htext', hstop⟩ := Text.isBoundary_utf8_iff.mp h.isBoundary_stop
    have hle := h.start_le_stop
    rw [hstart, hstop] at hle
    -- of two fronts of one text, the one with more bytes extends the other
    have hprefix : front <+: upto := by
      obtain hprefix | ⟨middle, rfl⟩ :=
        List.prefix_or_prefix_of_prefix ⟨rest, htext.symm⟩ ⟨back, htext'.symm⟩
      · exact hprefix
      · rw [Text.utf8_append, List.length_append] at hle
        have hmiddle : middle = [] := by
          rw [← Text.utf8_eq_nil_iff, ← List.length_eq_zero_iff]
          omega
        rw [hmiddle, List.append_nil]
    obtain ⟨middle, rfl⟩ := hprefix
    refine ⟨front, middle, back, htext', ?_⟩
    rw [← Text.length_utf8, ← Text.length_utf8, ← hstart, ← hstop]
  · rintro ⟨front, middle, back, rfl, rfl⟩
    constructor
    case start_le_stop =>
      rw [String.utf8Len_append]
      exact Nat.le_add_right _ _
    case stop_le_length =>
      rw [Text.length_utf8, String.utf8Len_append (front ++ middle)]
      exact Nat.le_add_right _ _
    case isBoundary_start =>
      rw [Text.isBoundary_utf8_iff]
      exact ⟨front, middle ++ back, List.append_assoc .., (Text.length_utf8 _).symm⟩
    case isBoundary_stop =>
      rw [Text.isBoundary_utf8_iff]
      exact ⟨front ++ middle, back, rfl, (Text.length_utf8 _).symm⟩

/-- Replacing a range that fits is replacing the characters it covers. -/
theorem replaceRange?_utf8 {buffer : String} {bytes : ByteRange}
    (hfits : bytes.Fits (utf8 buffer.toList)) (mask : String) :
    replaceRange? (utf8 buffer.toList) bytes mask =
      some (utf8 (replaceBytes buffer bytes mask).toList) := by
  obtain ⟨front, middle, back, hbuffer, rfl⟩ := ByteRange.fits_utf8_iff.mp hfits
  obtain rfl : buffer = String.ofList (front ++ middle ++ back) := by
    rw [← hbuffer, String.ofList_toList]
  rw [replaceRange?, if_pos hfits, replaceBytes_ofList, String.toList_ofList,
    String.toList_ofList, ← Text.length_utf8, ← Text.length_utf8]
  have htake : (utf8 (front ++ middle ++ back)).take (utf8 front).length = utf8 front := by
    rw [List.append_assoc, Text.utf8_append, List.take_left]
  have hdrop : (utf8 (front ++ middle ++ back)).drop (utf8 (front ++ middle)).length =
      utf8 back := by
    rw [Text.utf8_append (front ++ middle), List.drop_left]
  rw [htake, hdrop, ← Text.utf8_append, ← Text.utf8_append]

/-- A range that cuts a character is refused. -/
example : replaceRange? (utf8 "aé".toList) ⟨⟨1⟩, ⟨2⟩⟩ "" = none := by decide

/-- The bytes of a span fit every buffer that is untouched up to the end of the span. -/
lemma Span.byteRange_fits {s : Span} (hle : s.start ≤ s.stop) (text back : Text) :
    (s.byteRange text).Fits (utf8 (text.take s.stop ++ back)) := by
  rw [ByteRange.fits_utf8_iff]
  refine ⟨text.take s.start, (text.drop s.start).take s.length, back, ?_, ?_⟩
  · rw [Span.take_stop hle]
  · rw [Span.byteRange, ← Span.take_stop hle]

/-! ## The loop -/

lemma replaceEach?_cons (buffer : List UInt8) (bytes : ByteRange) (mask : String)
    (rest : List (ByteRange × String)) :
    replaceEach? buffer ((bytes, mask) :: rest) =
      (replaceEach? buffer rest).bind (replaceRange? · bytes mask) := by
  rw [replaceEach?, List.foldrM_cons]
  rfl

/-- The bytes of a span fit the buffer that the masks of the spans behind it went into. -/
lemma Span.byteRange_fits_replaceAll {text : String} {s : Span} {masks : List (Span × String)}
    (hle : s.start ≤ s.stop) (hfit : SpansFit text.length s.stop (masks.map (·.1))) :
    (s.byteRange text.toList).Fits (utf8
      (replaceAll text (masks.map fun m => (m.1.byteRange text.toList, m.2))).toList) := by
  rw [toList_replaceAll hfit]
  exact Span.byteRange_fits hle _ _

/-- No step is refused when spans fit, and the bytes are those of the text that the masks are
put into. -/
lemma replaceEach?_byteRange {text : String} {masks : List (Span × String)} {position : ℕ}
    (hfit : SpansFit text.length position (masks.map (·.1))) :
    replaceEach? (utf8 text.toList) (masks.map fun m => (m.1.byteRange text.toList, m.2)) =
      some (utf8
        (replaceAll text (masks.map fun m => (m.1.byteRange text.toList, m.2))).toList) := by
  induction masks generalizing position with
  | nil => rfl
  | cons m masks ih =>
    obtain ⟨_, hle, hrest⟩ := hfit
    have hfits := Span.byteRange_fits_replaceAll hle hrest
    rw [List.map_cons, replaceEach?_cons, ih hrest, Option.bind_some, replaceRange?_utf8 hfits]
    rfl

/-- Whichever step the loop is at, the buffer is a text and the range at hand fits it. -/
lemma exists_fits_of_eq_append {text : String} {masks : List (Span × String)} {position : ℕ}
    {front back : List (ByteRange × String)} {place : ByteRange} {mask : String}
    (hfit : SpansFit text.length position (masks.map (·.1)))
    (hsplit : masks.map (fun m => (m.1.byteRange text.toList, m.2)) =
      front ++ (place, mask) :: back) :
    ∃ buffer : Text, replaceEach? (utf8 text.toList) back = some (utf8 buffer) ∧
      place.Fits (utf8 buffer) := by
  obtain ⟨before, others, rfl, _, hothers⟩ := List.map_eq_append_iff.mp hsplit
  obtain ⟨m, after, rfl, hm, rfl⟩ := List.map_eq_cons_iff.mp hothers
  obtain ⟨rfl, rfl⟩ := Prod.mk.inj hm
  rw [List.map_append, List.map_cons] at hfit
  obtain ⟨hle, hafter⟩ := hfit.of_append
  exact ⟨_, replaceEach?_byteRange hafter, Span.byteRange_fits_replaceAll hle hafter⟩

/-! ## The table -/

/-- The table lists how many bytes each front of the text has, from none of its characters to
all of them. -/
lemma toList_byteOffsets (text : String) :
    (byteOffsets text).toList = text.toList.inits.map fun front => (utf8 front).length := by
  apply List.ext_getElem
  · rw [Array.length_toList, size_byteOffsets, List.length_map, List.length_inits,
      String.length_toList]
  · intro i hi _
    rw [Array.getElem_toList, getElem_byteOffsets, List.getElem_map, List.getElem_inits,
      Text.length_utf8]

/-- Both ends of a span within the text are in the table. -/
lemma Span.lt_size_byteOffsets {text : String} {s : Span} (hle : s.start ≤ s.stop)
    (hstop : s.stop ≤ text.length) :
    s.start < (byteOffsets text).size ∧ s.stop < (byteOffsets text).size := by
  have hsize := size_byteOffsets text
  omega

/-- Both ends of each of the spans that fit are in the table. -/
lemma SpansFit.lt_size_byteOffsets {text : String} {spans : List Span} {position : ℕ}
    (hfit : SpansFit text.length position spans) {s : Span} (hs : s ∈ spans) :
    s.start < (byteOffsets text).size ∧ s.stop < (byteOffsets text).size := by
  obtain ⟨before, after, rfl⟩ := List.append_of_mem hs
  obtain ⟨hle, hafter⟩ := hfit.of_append
  exact s.lt_size_byteOffsets hle hafter.position_le

/-! ## Accepted masks -/

/-- One span is replaced as the forward assembly does it. -/
lemma toList_replaceBytes_eq_masked {s : Span} (hle : s.start ≤ s.stop) (text mask : String) :
    (replaceBytes text (s.byteRange text.toList) mask).toList =
      masked text.toList [(s, mask.toList)] := by
  rw [toList_replaceBytes_byteRange hle (List.take_append_drop s.stop text.toList).symm mask,
    masked, maskedFrom, maskedFrom, List.drop_zero, Nat.sub_zero]

/-- The table has the place of each character and the end. If the spans of some masks are
accepted, the ends of each are in the table; at each step of the loop the range at hand lies
within the buffer as it is by then, between characters, so no step is refused; and the bytes
left are those of the text with the masks in the places of the spans, which is the result. The
same goes for one span. -/
theorem masks_safe_in_bytes (text : String) :
    (byteOffsets text).toList = text.toList.inits.map (fun front => (utf8 front).length) ∧
    (∀ (masks : List (Span × String)) places,
      locate (byteOffsets text) none (masks.map (·.1)) = .ok places →
      (∀ s ∈ masks.map (·.1),
        s.start < (byteOffsets text).size ∧ s.stop < (byteOffsets text).size) ∧
      (∀ front place mask back, places.zip (masks.map (·.2)) = front ++ (place, mask) :: back →
        ∃ buffer : Text, replaceEach? (utf8 text.toList) back = some (utf8 buffer) ∧
          place.Fits (utf8 buffer)) ∧
      replaceEach? (utf8 text.toList) (places.zip (masks.map (·.2))) =
        some (utf8 (masked text.toList (masks.map fun m => (m.1, m.2.toList)))) ∧
      (maskEach text masks).result =
        .ok (String.ofList (masked text.toList (masks.map fun m => (m.1, m.2.toList))))) ∧
    ∀ span mask place, span.bytes (byteOffsets text) = .ok place →
      (span.start < (byteOffsets text).size ∧ span.stop < (byteOffsets text).size) ∧
      place.Fits (utf8 text.toList) ∧
      replaceRange? (utf8 text.toList) place (mask.getD "") =
        some (utf8 (masked text.toList [(span, (mask.getD "").toList)])) ∧
      maskSpan text span mask =
        .ok (String.ofList (masked text.toList [(span, (mask.getD "").toList)])) := by
  refine ⟨toList_byteOffsets text, fun masks places hlocate => ?_, fun span mask place h => ?_⟩
  · obtain ⟨hfit, hplaces⟩ := (locate_eq_ok_iff (Nat.zero_le _)).mp hlocate
    rw [Option.elim_none] at hfit
    have hzip : places.zip (masks.map (·.2)) =
        masks.map fun m => (m.1.byteRange text.toList, m.2) := by
      rw [hplaces, List.map_map, List.zip_map']
      rfl
    rw [hzip]
    refine ⟨fun s hs => hfit.lt_size_byteOffsets hs,
      fun front place mask back hsplit => exists_fits_of_eq_append hfit hsplit, ?_,
      maskEach_result_eq_ok_iff.mpr ⟨hfit, String.toList_ofList⟩⟩
    rw [replaceEach?_byteRange hfit, toList_replaceAll hfit, List.take_zero, List.nil_append,
      masked]
  · obtain ⟨hle, hstop, hplace⟩ := Span.bytes_eq_ok_iff.mp h
    have hfits : (span.byteRange text.toList).Fits (utf8 text.toList) := by
      have hwhole := span.byteRange_fits hle text.toList (text.toList.drop span.stop)
      rwa [List.take_append_drop] at hwhole
    have hmasked := toList_replaceBytes_eq_masked hle text (mask.getD "")
    refine ⟨span.lt_size_byteOffsets hle hstop, hplace ▸ hfits, ?_, ?_⟩
    · rw [hplace, replaceRange?_utf8 hfits, hmasked]
    · rw [← hmasked, String.ofList_toList, maskSpan, h, hplace]
      rfl

/-- A longer mask, two masks at one place, and a removal, among characters of one to four bytes.
The step for the second mask is made in a buffer that has lost its last character. -/
theorem masks_safe_in_bytes_mixed :
    (byteOffsets "aé🐶z").toList = [0, 1, 3, 7, 8] ∧
    locate (byteOffsets "aé🐶z") none [⟨1, 2⟩, ⟨2, 2⟩, ⟨2, 2⟩, ⟨3, 4⟩] =
      .ok [⟨⟨1⟩, ⟨3⟩⟩, ⟨⟨3⟩, ⟨3⟩⟩, ⟨⟨3⟩, ⟨3⟩⟩, ⟨⟨7⟩, ⟨8⟩⟩] ∧
    (3 < (byteOffsets "aé🐶z").size ∧ 4 < (byteOffsets "aé🐶z").size) ∧
    (∃ buffer : Text,
      replaceEach? (utf8 "aé🐶z".toList) [(⟨⟨3⟩, ⟨3⟩⟩, "ß"), (⟨⟨7⟩, ⟨8⟩⟩, "")] =
        some (utf8 buffer) ∧
      ByteRange.Fits ⟨⟨3⟩, ⟨3⟩⟩ (utf8 buffer)) ∧
    replaceEach? (utf8 "aé🐶z".toList)
        [(⟨⟨1⟩, ⟨3⟩⟩, "xyz"), (⟨⟨3⟩, ⟨3⟩⟩, "1"), (⟨⟨3⟩, ⟨3⟩⟩, "ß"), (⟨⟨7⟩, ⟨8⟩⟩, "")] =
      some (utf8 "axyz1ß🐶".toList) ∧
    Span.bytes (byteOffsets "aé🐶z") ⟨1, 2⟩ = .ok ⟨⟨1⟩, ⟨3⟩⟩ ∧
    maskSpan "aé🐶z" ⟨1, 2⟩ none = .ok "a🐶z" := by
  have hlocate : locate (byteOffsets "aé🐶z") none [⟨1, 2⟩, ⟨2, 2⟩, ⟨2, 2⟩, ⟨3, 4⟩] =
      .ok [⟨⟨1⟩, ⟨3⟩⟩, ⟨⟨3⟩, ⟨3⟩⟩, ⟨⟨3⟩, ⟨3⟩⟩, ⟨⟨7⟩, ⟨8⟩⟩] := by decide
  have hbytes : Span.bytes (byteOffsets "aé🐶z") ⟨1, 2⟩ = .ok ⟨⟨1⟩, ⟨3⟩⟩ := by decide
  obtain ⟨htable, hmany, hone⟩ := masks_safe_in_bytes "aé🐶z"
  obtain ⟨hlookup, hstep, hrun, _⟩ :=
    hmany [(⟨1, 2⟩, "xyz"), (⟨2, 2⟩, "1"), (⟨2, 2⟩, "ß"), (⟨3, 4⟩, "")] _ hlocate
  have hspan := hone ⟨1, 2⟩ none _ hbytes
  exact ⟨htable, hlocate, hlookup ⟨3, 4⟩ (by decide),
    hstep [(⟨⟨1⟩, ⟨3⟩⟩, "xyz")] _ "1" _ rfl, hrun, hbytes, hspan.2.2.2⟩

end LiteralRegex
