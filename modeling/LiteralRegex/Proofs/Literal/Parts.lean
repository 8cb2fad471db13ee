import LiteralRegex.Literal.Scan
import LiteralRegex.Proofs.Literal.Decoding
import Mathlib

/-!
# Parts of a fragment

The scan cuts a fragment into parts and loses nothing (`flatMap_text_scan`). The fragment of a character
is one part, whatever stands behind it, so the parts of a literal are those of its characters
(`scan_literal_append`).

What verbose mode drops is always a bare character. A fragment whose bare characters are neither white
space nor number signs therefore stays as it is, which is said once for all fragments
(`dropVerbose_eq_self`).
-/

namespace LiteralRegex

open Text

/-! ## The scan -/

lemma scan_nil : scan [] = [] := by rw [scan]

lemma scan_slash (c : Char) (rest : Text) :
    scan ('\\' :: c :: rest) =
      match (if c = 'x' then bracedDigits? rest else none) with
      | some (digits, tail) => .number digits :: scan tail
      | none => .guarded c :: scan rest := by
  rw [scan]
  split <;> simp_all

/-- A character other than a backslash is a part by itself. -/
lemma scan_bare {c : Char} (h : c ≠ '\\') (rest : Text) :
    scan (c :: rest) = .bare c :: scan rest := by
  rw [scan] <;> simp_all

lemma scan_guarded {c : Char} (h : c ≠ 'x') (rest : Text) :
    scan ('\\' :: c :: rest) = .guarded c :: scan rest := by
  rw [scan_slash, if_neg h]

lemma scan_number {digits : Text} (hne : digits ≠ []) (hdigits : ∀ d ∈ digits, Hex.isDigit d)
    (rest : Text) :
    scan (['\\', 'x', '{'] ++ digits ++ ['}'] ++ rest) = .number digits :: scan rest := by
  have hbraced := bracedDigits?_append rest hne hdigits
  show scan ('\\' :: 'x' :: (['{'] ++ digits ++ ['}'] ++ rest)) = _
  rw [scan_slash, if_pos rfl, hbraced]

/-- Nothing of a fragment is lost. -/
theorem flatMap_text_scan (text : Text) : (scan text).flatMap Scanned.text = text := by
  fun_induction scan text with
  | case1 => rfl
  | case2 => rfl
  | case3 c rest digits tail h ih =>
    rw [List.flatMap_cons, ih]
    by_cases hx : c = 'x'
    · rw [dif_pos hx] at h
      obtain ⟨_, _, rfl⟩ := bracedDigits?_eq_some_iff.mp h
      simp [Scanned.text, hx]
    · rw [dif_neg hx] at h
      simp at h
  | case4 c rest _ ih =>
    rw [List.flatMap_cons, ih]
    rfl
  | case5 c rest _ _ ih =>
    rw [List.flatMap_cons, ih]
    rfl

/-! ## Parts that stand for one character -/

/-- The part that a character is written as. -/
def Flavor.part (f : Flavor) (c : Char) : Scanned :=
  if CharTraits.isSafe c then .bare c
  else if f.isBackslashed c then .guarded c
  else .number (Hex.lower (if c.toNat < 0x10000 then 4 else 8) c.toNat)

/-- Holds of the parts that have no meaning but the character they stand for: a bare letter or digit,
another character behind a backslash, or a number in the flavor that knows numbers. -/
def Flavor.Inert (f : Flavor) : Scanned → Prop
  | .bare c => c.isAlphanum
  | .guarded c => ¬ c.isAlphanum
  | .number digits => f = re2 ∧ digits ≠ [] ∧ ∀ d ∈ digits, Hex.isDigit d
  | .dangling => False

variable {f : Flavor}

lemma Flavor.inert_part (f : Flavor) (c : Char) : f.Inert (f.part c) := by
  unfold part
  by_cases hsafe : CharTraits.isSafe c
  · rw [if_pos hsafe]
    exact hsafe
  · rw [if_neg hsafe]
    by_cases hback : f.isBackslashed c
    · rw [if_pos hback]
      exact hsafe
    · rw [if_neg hback]
      refine ⟨?_, Hex.lower_ne_nil _ _, Hex.isDigit_of_mem_lower⟩
      cases f with
      | re => exact absurd (isBackslashed_re hsafe) hback
      | re2 => rfl

lemma text_part (f : Flavor) (c : Char) : (f.part c).text = f.escape c := by
  unfold Flavor.part Flavor.escape
  by_cases hsafe : CharTraits.isSafe c
  · rw [if_pos hsafe, if_pos hsafe]
    rfl
  · rw [if_neg hsafe, if_neg hsafe]
    by_cases hback : f.isBackslashed c
    · rw [if_pos hback, if_pos hback]
      rfl
    · rw [if_neg hback, if_neg hback]
      rfl

/-- The fragment of a character is one part, whatever stands behind it. -/
lemma scan_escape_append (f : Flavor) (c : Char) (rest : Text) :
    scan (f.escape c ++ rest) = f.part c :: scan rest := by
  unfold Flavor.escape Flavor.part
  by_cases hsafe : CharTraits.isSafe c
  · rw [if_pos hsafe, if_pos hsafe]
    have hslash : c ≠ '\\' := by
      intro heq
      subst heq
      exact backslash_not_alphanum hsafe
    exact scan_bare hslash rest
  · rw [if_neg hsafe, if_neg hsafe]
    by_cases hback : f.isBackslashed c
    · rw [if_pos hback, if_pos hback]
      have hx : c ≠ 'x' := by
        intro heq
        subst heq
        exact hsafe (by decide)
      exact scan_guarded hx rest
    · rw [if_neg hback, if_neg hback]
      exact scan_number (Hex.lower_ne_nil _ _) Hex.isDigit_of_mem_lower rest

/-- The parts of a literal are those of its characters. -/
lemma scan_literal_append (f : Flavor) (text rest : Text) :
    scan (f.literal text ++ rest) = text.map f.part ++ scan rest := by
  induction text with
  | nil => rfl
  | cons c text ih =>
    rw [Flavor.literal, List.flatMap_cons, List.append_assoc, scan_escape_append, List.map_cons,
      List.cons_append, ← ih]
    rfl

lemma scan_literal (f : Flavor) (text : Text) : scan (f.literal text) = text.map f.part := by
  have h := scan_literal_append f text []
  rwa [scan_nil, List.append_nil, List.append_nil] at h

lemma inert_of_mem_scan_literal {text : Text} {part : Scanned} (h : part ∈ scan (f.literal text)) :
    f.Inert part := by
  rw [scan_literal] at h
  obtain ⟨c, _, rfl⟩ := List.mem_map.mp h
  exact f.inert_part c

/-! ## Verbose mode -/

/-- The letters and digits of ASCII by their numbers. -/
lemma isAlphanum_iff {c : Char} :
    c.isAlphanum ↔ (0x41 ≤ c.toNat ∧ c.toNat ≤ 0x5A ∨ 0x61 ≤ c.toNat ∧ c.toNat ≤ 0x7A) ∨
      0x30 ≤ c.toNat ∧ c.toNat ≤ 0x39 := by
  simp only [Char.isAlphanum, Char.isAlpha, Char.isUpper, Char.isLower, Char.isDigit,
    Bool.or_eq_true, Bool.and_eq_true, decide_eq_true_eq, ge_iff_le, UInt32.le_iff_toNat_le]
  exact Iff.rfl

lemma isAlphanum_of_isDigit {d : Char} (h : Hex.isDigit d) : d.isAlphanum := by
  obtain ⟨n, hn⟩ := Option.isSome_iff_exists.mp h
  have hrows := Hex.digit?_eq_some_iff.mp hn
  rw [isAlphanum_iff]
  omega

/-- Holds of the characters that verbose mode keeps where they are bare, and that protect nothing. -/
structure IsPlain (c : Char) : Prop where
  not_space : isVerboseSpace c = false
  ne_hash : c ≠ '#'
  ne_slash : c ≠ '\\'

/-- Graphic characters of ASCII are no white space. -/
lemma isPlain_of_graphic {c : Char} (hlow : 0x21 ≤ c.toNat) (hhigh : c.toNat ≤ 0x7E) (hhash : c ≠ '#')
    (hslash : c ≠ '\\') : IsPlain c where
  not_space := by
    have hne : ∀ d : Char, 0x7E < d.toNat → c ≠ d := by
      intro d hd heq
      rw [heq] at hhigh
      omega
    have hblank : isBlank c = false := by
      simp only [isBlank, Bool.or_eq_false_iff, Bool.and_eq_false_iff, decide_eq_false_iff_not,
        beq_eq_false_iff_ne]
      omega
    simp only [isVerboseSpace, hblank, Bool.false_or, Bool.or_eq_false_iff, beq_eq_false_iff_ne]
    exact ⟨hne _ (by decide), hne _ (by decide)⟩
  ne_hash := hhash
  ne_slash := hslash

lemma isPlain_of_isAlphanum {c : Char} (h : c.isAlphanum) : IsPlain c := by
  have hrange := isAlphanum_iff.mp h
  apply isPlain_of_graphic
  · omega
  · omega
  · intro heq
    subst heq
    exact absurd h (by decide)
  · intro heq
    subst heq
    exact backslash_not_alphanum h

/-- Verbose mode keeps plain characters in front of a fragment. -/
lemma dropVerbose_append {lead : Text} (h : ∀ c ∈ lead, IsPlain c) (rest : Text) :
    dropVerbose false (lead ++ rest) = lead ++ dropVerbose false rest := by
  induction lead with
  | nil => rfl
  | cons c lead ih =>
    have hc := h c List.mem_cons_self
    have hlead := ih fun d hd => h d (List.mem_cons_of_mem c hd)
    rw [List.cons_append, List.cons_append, ← hlead]
    cases lead ++ rest with
    | nil => simp [dropVerbose, hc.not_space, hc.ne_hash]
    | cons d tail => simp [dropVerbose, hc.not_space, hc.ne_hash, hc.ne_slash]

/-- Holds of the parts that verbose mode keeps. -/
def Scanned.Kept : Scanned → Prop
  | bare c => IsPlain c
  | guarded _ => True
  | number digits => ∀ d ∈ digits, Hex.isDigit d
  | dangling => False

lemma Flavor.Inert.kept {part : Scanned} (h : f.Inert part) : part.Kept := by
  cases part with
  | bare c => exact isPlain_of_isAlphanum h
  | guarded c => trivial
  | number digits => exact h.2.2
  | dangling => exact h

/-- What stands behind a part that is kept is seen as it would be without the part. -/
lemma dropVerbose_text_append {part : Scanned} (h : part.Kept) (rest : Text) :
    dropVerbose false (part.text ++ rest) = part.text ++ dropVerbose false rest := by
  have hguarded : ∀ (c : Char) (rest : Text),
      dropVerbose false ('\\' :: c :: rest) = '\\' :: c :: dropVerbose false rest := by
    intro c rest
    simp [dropVerbose]
  cases part with
  | bare c =>
    apply dropVerbose_append
    intro d hd
    rw [List.mem_singleton.mp hd]
    exact h
  | guarded c => exact hguarded c rest
  | number digits =>
    -- behind the backslash and the x the number is made of plain characters
    have hplain : ∀ c ∈ ['{'] ++ digits ++ ['}'], IsPlain c := by
      intro c hc
      simp only [List.mem_append, List.mem_singleton] at hc
      rcases hc with (rfl | hc) | rfl
      · exact isPlain_of_graphic (by decide) (by decide) (by decide) (by decide)
      · exact isPlain_of_isAlphanum (isAlphanum_of_isDigit (h c hc))
      · exact isPlain_of_graphic (by decide) (by decide) (by decide) (by decide)
    have htail := dropVerbose_append hplain rest
    show dropVerbose false ('\\' :: 'x' :: (['{'] ++ digits ++ ['}'] ++ rest)) = _
    rw [hguarded, htail]
    rfl
  | dangling => exact h.elim

/-- Verbose mode drops nothing of a fragment whose parts are all kept. -/
theorem dropVerbose_eq_self {text : Text} (h : ∀ part ∈ scan text, part.Kept) :
    dropVerbose false text = text := by
  have hparts : ∀ parts : List Scanned, (∀ part ∈ parts, part.Kept) →
      dropVerbose false (parts.flatMap Scanned.text) = parts.flatMap Scanned.text := by
    intro parts
    induction parts with
    | nil =>
      intro _
      rfl
    | cons part parts ih =>
      intro hkept
      obtain ⟨hpart, hrest⟩ := List.forall_mem_cons.mp hkept
      rw [List.flatMap_cons, dropVerbose_text_append hpart, ih hrest]
  have hscan := hparts (scan text) h
  rwa [flatMap_text_scan] at hscan

end LiteralRegex
