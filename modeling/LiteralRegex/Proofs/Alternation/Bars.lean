import LiteralRegex.Proofs.Alternation.Members
import LiteralRegex.Proofs.ClassBody.Hyphens
import Mathlib

/-!
# Fragments have no meaning but their own

The parts of an alternation are those of its alternatives with a bare bar between any two
(`scan_alternation`), so there is one bar less than there are texts (`count_bar_alternation`).

With the parts of literals and of class bodies this says of every fragment that is built what is live in
it: the bars between alternatives, the hyphens of ranges, and nothing else. Neither of the two is lost in
verbose mode.
-/

namespace LiteralRegex

variable {f : Flavor}

/-! ## Lists with one separator between any two -/

lemma eq_or_mem_of_mem_intercalate {α : Type} {sep a : α} {pieces : List (List α)}
    (h : a ∈ [sep].intercalate pieces) : a = sep ∨ ∃ piece ∈ pieces, a ∈ piece := by
  induction pieces with
  | nil => simp at h
  | cons piece pieces ih =>
    cases pieces with
    | nil =>
      rw [List.intercalate_singleton] at h
      exact .inr ⟨piece, List.mem_singleton_self piece, h⟩
    | cons next pieces =>
      rw [List.intercalate_cons_cons, List.append_assoc, List.mem_append, List.mem_append,
        List.mem_singleton] at h
      rcases h with h | h | h
      · exact .inr ⟨piece, List.mem_cons_self, h⟩
      · exact .inl h
      · rcases ih h with heq | ⟨later, hlater, ha⟩
        · exact .inl heq
        · exact .inr ⟨later, List.mem_cons_of_mem _ hlater, ha⟩

lemma count_intercalate {α : Type} [DecidableEq α] {sep : α} {pieces : List (List α)}
    (h : ∀ piece ∈ pieces, sep ∉ piece) :
    ([sep].intercalate pieces).count sep = pieces.length - 1 := by
  induction pieces with
  | nil => rfl
  | cons piece pieces ih =>
    obtain ⟨hpiece, hpieces⟩ := List.forall_mem_cons.mp h
    have hcount : piece.count sep = 0 := List.count_eq_zero_of_not_mem hpiece
    cases pieces with
    | nil =>
      rw [List.intercalate_singleton, hcount]
      rfl
    | cons next pieces =>
      rw [List.intercalate_cons_cons, List.count_append, List.count_append, ih hpieces, hcount,
        List.count_singleton_self]
      simp only [List.length_cons]
      omega

/-- What is joined takes the room of the pieces and of one separator less than there are pieces. -/
lemma length_intercalate {α : Type} (sep : α) (pieces : List (List α)) :
    ([sep].intercalate pieces).length = pieces.flatten.length + (pieces.length - 1) := by
  induction pieces with
  | nil => rfl
  | cons piece pieces ih =>
    cases pieces with
    | nil => simp
    | cons next pieces =>
      rw [List.intercalate_cons_cons, List.length_append, List.length_append, ih]
      simp only [List.flatten_cons, List.length_append, List.length_cons, List.length_nil]
      omega

/-! ## Parts of an alternation -/

/-- Between the parts of the literals that are joined stand bare bars. -/
lemma scan_intercalate (f : Flavor) (texts : List Text) :
    scan (['|'].intercalate (texts.map f.literal)) =
      [.bare '|'].intercalate (texts.map fun t => t.map f.part) := by
  induction texts with
  | nil => exact scan_nil
  | cons t texts ih =>
    cases texts with
    | nil =>
      simp only [List.map_cons, List.map_nil, List.intercalate_singleton]
      exact scan_literal f t
    | cons u texts =>
      have hbar : ∀ rest, scan ('|' :: rest) = .bare '|' :: scan rest :=
        fun rest => scan_bare (by decide) rest
      simp only [List.map_cons] at ih ⊢
      rw [List.intercalate_cons_cons, List.intercalate_cons_cons, List.append_assoc,
        scan_literal_append, List.singleton_append, hbar, ih, List.append_assoc]
      rfl

lemma scan_alternation (f : Flavor) (texts : List Text) :
    scan (f.alternation texts) =
      [.bare '|'].intercalate ((alternatives texts).map fun t => t.map f.part) :=
  scan_intercalate f (alternatives texts)

/-- A bare bar in an alternation is the only part with a meaning of its own. -/
lemma eq_bar_or_inert_of_mem_scan_alternation {texts : List Text} {part : Scanned}
    (h : part ∈ scan (f.alternation texts)) : part = .bare '|' ∨ f.Inert part := by
  rw [scan_alternation] at h
  rcases eq_or_mem_of_mem_intercalate h with hbar | ⟨piece, hpiece, hpart⟩
  · exact .inl hbar
  · obtain ⟨t, _, rfl⟩ := List.mem_map.mp hpiece
    obtain ⟨c, _, rfl⟩ := List.mem_map.mp hpart
    exact .inr (f.inert_part c)

/-! ## Counting bars -/

lemma bar_not_alphanum : ¬ '|'.isAlphanum := by decide

lemma bar_not_mem_map_part (f : Flavor) (t : Text) : .bare '|' ∉ t.map f.part := by
  intro h
  obtain ⟨c, _, hc⟩ := List.mem_map.mp h
  have hinert := f.inert_part c
  rw [hc] at hinert
  exact bar_not_alphanum hinert

lemma length_alternatives (texts : List Text) :
    (alternatives texts).length = texts.toFinset.card := by
  have hset : texts.toFinset = (alternatives texts).toFinset := by
    ext t
    rw [List.mem_toFinset, List.mem_toFinset, mem_alternatives]
  rw [hset, List.toFinset_card_of_nodup (nodup_alternatives texts)]

/-- An alternation has one bare bar less than there are different texts, and none without texts. -/
theorem count_bar_alternation (f : Flavor) (texts : List Text) :
    (scan (f.alternation texts)).count (.bare '|') = texts.toFinset.card - 1 := by
  have hpieces : ∀ piece ∈ (alternatives texts).map fun t => t.map f.part, .bare '|' ∉ piece := by
    intro piece hpiece
    obtain ⟨t, _, rfl⟩ := List.mem_map.mp hpiece
    exact bar_not_mem_map_part f t
  rw [scan_alternation, count_intercalate hpieces, List.length_map, length_alternatives]

/-! ## All fragments -/

lemma kept_bar : (Scanned.bare '|').Kept :=
  isPlain_of_graphic (by decide) (by decide) (by decide) (by decide)

lemma kept_hyphen : (Scanned.bare '-').Kept :=
  isPlain_of_graphic (by decide) (by decide) (by decide) (by decide)

/-- The parts of a literal are all inert. In an alternation the bare bars are the only other parts, one
less than there are different texts, and in a class body the bare hyphens, one for each maximal run of
three or more. Verbose mode leaves every fragment as it is. -/
theorem fragments_inert (f : Flavor) :
    (∀ text, (∀ part ∈ scan (f.literal text), f.Inert part) ∧
      dropVerbose false (f.literal text) = f.literal text) ∧
    (∀ texts, (∀ part ∈ scan (f.alternation texts), part = .bare '|' ∨ f.Inert part) ∧
      (scan (f.alternation texts)).count (.bare '|') = texts.toFinset.card - 1 ∧
      dropVerbose false (f.alternation texts) = f.alternation texts) ∧
    ∀ chars, (∀ part ∈ scan (f.classBody chars), part = .bare '-' ∨ f.Inert part) ∧
      ((scan (f.classBody chars)).count (.bare '-') : ℕ∞) =
        {r : CharRun | r.MaximalIn (fun n => ∃ c ∈ chars, c.toNat = n) ∧ 3 ≤ r.length}.encard ∧
      dropVerbose false (f.classBody chars) = f.classBody chars := by
  refine ⟨fun text => ?_, fun texts => ?_, fun chars => ?_⟩
  · have hparts : ∀ part ∈ scan (f.literal text), f.Inert part :=
      fun part h => inert_of_mem_scan_literal h
    exact ⟨hparts, dropVerbose_eq_self fun part h => (hparts part h).kept⟩
  · have hparts : ∀ part ∈ scan (f.alternation texts), part = .bare '|' ∨ f.Inert part :=
      fun part h => eq_bar_or_inert_of_mem_scan_alternation h
    refine ⟨hparts, count_bar_alternation f texts, dropVerbose_eq_self fun part h => ?_⟩
    rcases hparts part h with rfl | hinert
    · exact kept_bar
    · exact hinert.kept
  · have hparts : ∀ part ∈ scan (f.classBody chars), part = .bare '-' ∨ f.Inert part :=
      fun part h => eq_hyphen_or_inert_of_mem_scan_classBody h
    refine ⟨hparts, count_hyphen_classBody f chars, dropVerbose_eq_self fun part h => ?_⟩
    rcases hparts part h with rfl | hinert
    · exact kept_hyphen
    · exact hinert.kept

/-- A bar, a hyphen, white space and a number sign are in the texts and characters themselves. Only the
bar between the two texts and the hyphen of the range are bare. -/
theorem fragments_inert_metacharacters :
    scan (Flavor.re2.literal ['|', '\n']) = [.guarded '|', .number ['0', '0', '0', 'a']] ∧
    .number ['0', '0', '0', 'a'] ∈ scan (Flavor.re2.literal ['|', '\n']) ∧
    Flavor.re2.Inert (.number ['0', '0', '0', 'a']) ∧
    scan (Flavor.re.alternation [['|'], ['#', ' '], ['|']]) =
      [.guarded '#', .guarded ' ', .bare '|', .guarded '|'] ∧
    (Scanned.guarded '|' = .bare '|' ∨ Flavor.re.Inert (.guarded '|')) ∧
    (scan (Flavor.re.alternation [['|'], ['#', ' '], ['|']])).count (.bare '|') = 1 ∧
    scan (Flavor.re.classBody ['-', 'a', ',', '+']) =
      [.guarded '+', .bare '-', .guarded '-', .bare 'a'] ∧
    (Scanned.guarded '-' = .bare '-' ∨ Flavor.re.Inert (.guarded '-')) ∧
    {r : CharRun | r.MaximalIn (fun n => ∃ c ∈ ['-', 'a', ',', '+'], c.toNat = n) ∧
      3 ≤ r.length}.encard = 1 := by
  have hliteral : scan (Flavor.re2.literal ['|', '\n']) =
      [.guarded '|', .number ['0', '0', '0', 'a']] := by decide +kernel
  have halternation : scan (Flavor.re.alternation [['|'], ['#', ' '], ['|']]) =
      [.guarded '#', .guarded ' ', .bare '|', .guarded '|'] := by cbv
  have hclass : scan (Flavor.re.classBody ['-', 'a', ',', '+']) =
      [.guarded '+', .bare '-', .guarded '-', .bare 'a'] := by cbv
  have hnumber : .number ['0', '0', '0', 'a'] ∈ scan (Flavor.re2.literal ['|', '\n']) := by
    rw [hliteral]
    decide
  obtain ⟨hparts, -⟩ := (fragments_inert .re2).1 ['|', '\n']
  obtain ⟨hpieces, hbars, -⟩ := (fragments_inert .re).2.1 [['|'], ['#', ' '], ['|']]
  obtain ⟨hitems, hhyphens, -⟩ := (fragments_inert .re).2.2 ['-', 'a', ',', '+']
  rw [halternation] at hpieces
  rw [hclass] at hitems hhyphens
  exact ⟨hliteral, hnumber, hparts _ hnumber, halternation, hpieces _ (by decide), hbars, hclass,
    hitems _ (by decide), hhyphens.symm⟩

end LiteralRegex
