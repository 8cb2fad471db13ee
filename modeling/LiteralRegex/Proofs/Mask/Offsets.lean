import LiteralRegex.Mask.Basic
import Mathlib.Data.String.Basic

/-!
# Places in the bytes of a text

The table of offsets gives for each position of a text the number of bytes in front of it, so
the bytes of a span are those between two characters, `Span.byteRange`. Replacing bytes between
characters replaces characters, whatever their widths are, and touches nothing in front.
-/

namespace LiteralRegex

open String (utf8Len)

/-! ## The table of offsets -/

lemma foldl_utf8Size (text : Text) (start : ℕ) :
    text.foldl (fun place c => place + c.utf8Size) start = start + utf8Len text := by
  induction text generalizing start with
  | nil => rfl
  | cons c text ih =>
    rw [List.foldl_cons, ih, String.utf8Len_cons]
    omega

/-- The table has an entry for each character and one for the end. -/
lemma size_byteOffsets (text : String) : (byteOffsets text).size = text.length + 1 := by
  unfold byteOffsets
  rw [List.size_toArray, List.length_scanl, String.length_toList]

/-- Each entry counts the bytes of the characters in front of a position. -/
lemma getElem_byteOffsets (text : String) {i : ℕ} (h : i < (byteOffsets text).size) :
    (byteOffsets text)[i] = utf8Len (text.toList.take i) := by
  simp only [byteOffsets, List.getElem_toArray, List.getElem_scanl]
  rw [foldl_utf8Size, Nat.zero_add]

/-- The bytes of a text from the first character of a span to the one after its last. -/
def Span.byteRange (text : Text) (s : Span) : ByteRange :=
  ⟨⟨utf8Len (text.take s.start)⟩, ⟨utf8Len (text.take s.stop)⟩⟩

/-- A span has bytes when it lies within the text. -/
lemma Span.bytes_eq_ok_iff {text : String} {s : Span} {place : ByteRange} :
    s.bytes (byteOffsets text) = .ok place ↔
      s.start ≤ s.stop ∧ s.stop ≤ text.length ∧ place = s.byteRange text.toList := by
  have hsize := size_byteOffsets text
  unfold Span.bytes
  by_cases hreversed : s.stop < s.start
  · rw [dif_pos hreversed]
    simp only [reduceCtorEq, false_iff]
    omega
  · rw [dif_neg hreversed]
    by_cases hbounds : s.stop < (byteOffsets text).size
    · rw [dif_pos hbounds]
      have hstart := getElem_byteOffsets text (Nat.lt_of_le_of_lt (Nat.le_of_not_lt hreversed) hbounds)
      have hstop := getElem_byteOffsets text hbounds
      rw [hstart, hstop, Except.ok.injEq]
      constructor
      · intro h
        exact ⟨by omega, by omega, h.symm⟩
      · intro h
        exact h.2.2.symm
    · rw [dif_neg hbounds]
      simp only [reduceCtorEq, false_iff]
      omega

/-! ## Replacing bytes between characters -/

/-- Replacing the bytes of the characters in the middle replaces these characters. -/
lemma replaceBytes_ofList (front middle back : Text) (mask : String) :
    replaceBytes (String.ofList (front ++ middle ++ back))
        ⟨⟨utf8Len front⟩, ⟨utf8Len (front ++ middle)⟩⟩ mask =
      String.ofList (front ++ mask.toList ++ back) := by
  have hfront : String.Pos.Raw.extract (String.ofList (front ++ middle ++ back)) 0
      ⟨utf8Len front⟩ = String.ofList front := by
    simpa using String.extract_of_valid [] front (middle ++ back)
  have hback : String.Pos.Raw.extract (String.ofList (front ++ middle ++ back))
      ⟨utf8Len (front ++ middle)⟩ (String.ofList (front ++ middle ++ back)).rawEndPos =
      String.ofList back := by
    have h := String.extract_of_valid (front ++ middle) back []
    rw [List.append_nil] at h
    rw [String.rawEndPos_ofList, String.utf8Len_append (front ++ middle) back]
    exact h
  unfold replaceBytes
  rw [hfront, hback, String.ofList_append, String.ofList_append, String.ofList_toList]

/-- The characters up to the end of a span are those up to its start and those within. -/
lemma Span.take_stop {s : Span} (hle : s.start ≤ s.stop) (text : Text) :
    text.take s.stop = text.take s.start ++ (text.drop s.start).take s.length := by
  have h : s.stop = s.start + s.length := by
    unfold Span.length
    omega
  rw [h, List.take_add]

/-- The bytes of a span in a text that agrees with the original up to the end of the span. -/
lemma toList_replaceBytes_byteRange {text : Text} {buffer : String} {s : Span} {back : Text}
    (hle : s.start ≤ s.stop) (hbuffer : buffer.toList = text.take s.stop ++ back)
    (mask : String) :
    (replaceBytes buffer (s.byteRange text) mask).toList =
      text.take s.start ++ mask.toList ++ back := by
  have htake := Span.take_stop hle text
  have hofList : buffer =
      String.ofList (text.take s.start ++ (text.drop s.start).take s.length ++ back) := by
    rw [← htake, ← hbuffer, String.ofList_toList]
  unfold Span.byteRange
  rw [htake, hofList, replaceBytes_ofList, String.toList_ofList]

end LiteralRegex
