import LiteralRegex.Text.Utf8
import Mathlib.Data.List.Basic
import Mathlib.Data.String.Basic

/-!
# Characters in the bytes of a text

In UTF-8 the first byte of a character is told from the others of its bytes, whatever its
width. So the places where characters meet can be found in the bytes alone: they are those in
front of a byte that begins a character, and the end, `isBoundary_utf8_iff`.
-/

namespace LiteralRegex.Text

/-! ## The bytes of a character -/

lemma isContinuation_ofNat {n : ℕ} (h : n < 256) :
    isContinuation (UInt8.ofNat n) = decide (128 ≤ n ∧ n < 192) := by
  have htoNat : (UInt8.ofNat n).toNat = n := UInt8.toNat_ofNat_of_lt' h
  unfold isContinuation
  rw [Bool.decide_and]
  simp only [UInt8.le_iff_toNat_le, UInt8.lt_iff_toNat_lt, htoNat]
  rfl

/-- The first byte of a character is no continuation byte, and all others are. -/
lemma utf8EncodeChar_eq_cons (c : Char) :
    ∃ lead rest, String.utf8EncodeChar c = lead :: rest ∧ isContinuation lead = false ∧
      ∀ b ∈ rest, isContinuation b = true := by
  have hlead {n : ℕ} (h : n < 128 ∨ 192 ≤ n ∧ n < 256) :
      isContinuation (UInt8.ofNat n) = false := by
    rw [isContinuation_ofNat (by omega), decide_eq_false_iff_not]
    omega
  have hrest (n : ℕ) : isContinuation (UInt8.ofNat (n % 64 + 128)) = true := by
    rw [isContinuation_ofNat (by omega), decide_eq_true_iff]
    omega
  -- one case for each width
  unfold String.utf8EncodeChar
  dsimp only
  split_ifs with hone htwo hthree
  · exact ⟨_, _, rfl, hlead (by omega), List.forall_mem_nil _⟩
  · exact ⟨_, _, rfl, hlead (by omega), List.forall_mem_singleton.mpr (hrest _)⟩
  · refine ⟨_, _, rfl, hlead (by omega), List.forall_mem_cons.mpr ⟨hrest _, ?_⟩⟩
    exact List.forall_mem_singleton.mpr (hrest _)
  · refine ⟨_, _, rfl, hlead (by omega), List.forall_mem_cons.mpr ⟨hrest _, ?_⟩⟩
    exact List.forall_mem_cons.mpr ⟨hrest _, List.forall_mem_singleton.mpr (hrest _)⟩

/-! ## The bytes of a text -/

@[simp] lemma utf8_nil : utf8 [] = [] := rfl

@[simp] lemma utf8_cons (c : Char) (text : Text) :
    utf8 (c :: text) = String.utf8EncodeChar c ++ utf8 text := rfl

@[simp] lemma utf8_append (front back : Text) : utf8 (front ++ back) = utf8 front ++ utf8 back :=
  List.flatMap_append

/-- The bytes are as many as the string functions count. -/
lemma length_utf8 (text : Text) : (utf8 text).length = String.utf8Len text := by
  induction text with
  | nil => rfl
  | cons c text ih =>
    rw [utf8_cons, List.length_append, String.length_utf8EncodeChar, ih, String.utf8Len_cons,
      Nat.add_comm]

/-- Only the empty text has no bytes. -/
lemma utf8_eq_nil_iff {text : Text} : utf8 text = [] ↔ text = [] := by
  cases text with
  | nil => simp
  | cons c text =>
    obtain ⟨lead, rest, hbytes, _⟩ := utf8EncodeChar_eq_cons c
    simp [hbytes]

/-! ## The places between characters -/

/-- Behind the front of a buffer, a place is a boundary when it is one of the rest. -/
lemma isBoundary_append_right (front back : List UInt8) (place : ℕ) :
    isBoundary (front ++ back) (front.length + place) = isBoundary back place := by
  unfold isBoundary
  rw [List.getElem?_append_right (Nat.le_add_right _ _), Nat.add_sub_cancel_left,
    List.length_append]
  cases back[place]? with
  | some b => rfl
  | none => simp

/-- No text begins within a character. -/
lemma isBoundary_utf8_zero (text : Text) : isBoundary (utf8 text) 0 = true := by
  cases text with
  | nil => rfl
  | cons c text =>
    obtain ⟨lead, rest, hbytes, hlead, _⟩ := utf8EncodeChar_eq_cons c
    simp [isBoundary, hbytes, hlead]

/-- Within the bytes of a character there is no boundary. -/
lemma isBoundary_utf8_cons_of_lt {c : Char} {text : Text} {place : ℕ} (hpos : 0 < place)
    (hlt : place < (String.utf8EncodeChar c).length) :
    isBoundary (utf8 (c :: text)) place = false := by
  obtain ⟨lead, rest, hbytes, _, hrest⟩ := utf8EncodeChar_eq_cons c
  rw [hbytes, List.length_cons] at hlt
  obtain ⟨i, rfl⟩ : ∃ i, place = i + 1 := ⟨place - 1, by omega⟩
  have hi : i < rest.length := by omega
  have hcontinuation := hrest rest[i] (List.getElem_mem hi)
  rw [utf8_cons, hbytes]
  simp [isBoundary, List.getElem?_append_left hi, List.getElem?_eq_getElem hi, hcontinuation]

/-- The boundaries in the bytes of a text are the places where it can be parted in two. -/
theorem isBoundary_utf8_iff {text : Text} {place : ℕ} :
    isBoundary (utf8 text) place = true ↔
      ∃ front back, text = front ++ back ∧ place = (utf8 front).length := by
  constructor
  · intro h
    induction text generalizing place with
    | nil =>
      have hplace : place = 0 := by simpa [isBoundary] using h
      exact ⟨[], [], rfl, hplace⟩
    | cons c text ih =>
      by_cases hzero : place = 0
      · exact ⟨[], c :: text, rfl, hzero⟩
      -- a place within the first character is no boundary, so it is one of the others
      have hge : (String.utf8EncodeChar c).length ≤ place := by
        by_contra hlt
        rw [isBoundary_utf8_cons_of_lt (by omega) (by omega)] at h
        cases h
      obtain ⟨i, rfl⟩ := Nat.exists_eq_add_of_le hge
      rw [utf8_cons, isBoundary_append_right] at h
      obtain ⟨front, back, rfl, rfl⟩ := ih h
      exact ⟨c :: front, back, rfl, by rw [utf8_cons, List.length_append]⟩
  · rintro ⟨front, back, rfl, rfl⟩
    have h := isBoundary_append_right (utf8 front) (utf8 back) 0
    rw [utf8_append, ← Nat.add_zero (utf8 front).length, h]
    exact isBoundary_utf8_zero back

end LiteralRegex.Text
