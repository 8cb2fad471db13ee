import LiteralRegex.Proofs.ClassBody.Members
import Mathlib.Data.List.Sort

/-!
# A class body depends on the set alone

The runs of some characters are the maximal runs of their numbers: they cover only these and end
where a number is missing (`mem_charRuns_iff`). That speaks of the set of the characters, and runs
stand in order, so lists with the same characters have the same runs and the same body. The
converse needs no look at what is written, since a body can be read back.
-/

namespace LiteralRegex

/-! ## Maximal runs -/

/-- Holds when the run covers only numbers with the property, and none beside it has it. -/
structure CharRun.MaximalIn (r : CharRun) (p : ℕ → Prop) : Prop where
  inside : ∀ n, r.Covers n → p n
  behind : ¬ p (r.last.toNat + 1)
  front : ∀ n, n + 1 = r.first.toNat → ¬ p n

namespace CharRun

variable {r r' : CharRun} {runs others : List CharRun} {n : ℕ}

lemma covers_first (r : CharRun) : r.Covers r.first.toNat := ⟨Nat.le_refl _, r.toNat_first_le⟩

lemma covers_last (r : CharRun) : r.Covers r.last.toNat := ⟨r.toNat_first_le, Nat.le_refl _⟩

lemma eq_of_toNat_eq (hfirst : r.first.toNat = r'.first.toNat)
    (hlast : r.last.toNat = r'.last.toNat) : r = r' := by
  cases r
  cases r'
  simp only [mk.injEq]
  exact ⟨Char.toNat_inj.mp hfirst, Char.toNat_inj.mp hlast⟩

/-- Two of some runs that stand in order and apart are the same, or one is in front. -/
lemma eq_or_before (hruns : runs.Pairwise Before) (hr : r ∈ runs) (hr' : r' ∈ runs) :
    r = r' ∨ r.Before r' ∨ r'.Before r := by
  induction hruns with
  | nil => simp at hr
  | cons hhead _ ih =>
    rcases List.mem_cons.mp hr with rfl | hmem <;> rcases List.mem_cons.mp hr' with rfl | hmem'
    · exact .inl rfl
    · exact .inr (.inl (hhead r' hmem'))
    · exact .inr (.inr (hhead r hmem))
    · exact ih hmem hmem'

/-- No number beside one of some runs that stand in order and apart is covered. -/
lemma not_exists_covers_beside (hruns : runs.Pairwise Before) (hr : r ∈ runs)
    (hn : n = r.last.toNat + 1 ∨ n + 1 = r.first.toNat) : ¬ ∃ r' ∈ runs, r'.Covers n := by
  intro h
  obtain ⟨r', hr', hcovers⟩ := h
  have hle := r.toNat_first_le
  have hle' := r'.toNat_first_le
  unfold Covers at hcovers
  rcases eq_or_before hruns hr hr' with rfl | hbefore | hbefore
  · omega
  · unfold Before at hbefore
    omega
  · unfold Before at hbefore
    omega

/-- Runs that stand in order and apart are maximal in what they cover together. -/
lemma maximalIn_of_mem (hruns : runs.Pairwise Before) (hr : r ∈ runs) :
    r.MaximalIn fun n => ∃ r' ∈ runs, r'.Covers n where
  inside := fun _ hn => ⟨r, hr, hn⟩
  behind := not_exists_covers_beside hruns hr (.inl rfl)
  front := fun _ hn => not_exists_covers_beside hruns hr (.inr hn)

/-- Maximal runs that share a number are the same. -/
lemma MaximalIn.eq {p : ℕ → Prop} (h : r.MaximalIn p) (h' : r'.MaximalIn p) (hn : r.Covers n)
    (hn' : r'.Covers n) : r = r' := by
  have hends : ∀ {a b : CharRun}, a.MaximalIn p → b.MaximalIn p → a.Covers n → b.Covers n →
      a.first.toNat ≤ b.first.toNat ∧ b.last.toNat ≤ a.last.toNat := by
    intro a b ha hb hna hnb
    unfold Covers at hna hnb
    -- a number of the one run beside the other would have the property
    have hfront : ¬ b.first.toNat < a.first.toNat := fun hlt =>
      ha.front (a.first.toNat - 1) (by omega) (hb.inside _ ⟨by omega, by omega⟩)
    have hbehind : ¬ a.last.toNat < b.last.toNat := fun hlt =>
      ha.behind (hb.inside _ ⟨by omega, by omega⟩)
    exact ⟨by omega, by omega⟩
  have hab := hends h h' hn hn'
  have hba := hends h' h hn' hn
  exact eq_of_toNat_eq (by omega) (by omega)

/-- The runs that stand in order and apart are all maximal runs of what they cover. -/
lemma mem_iff_maximalIn (hruns : runs.Pairwise Before) :
    r ∈ runs ↔ r.MaximalIn fun n => ∃ r' ∈ runs, r'.Covers n := by
  refine ⟨maximalIn_of_mem hruns, fun h => ?_⟩
  -- a run has its first number, and the one that covers this number is the same
  obtain ⟨r', hr', hcovers⟩ := h.inside _ r.covers_first
  rw [h.eq (maximalIn_of_mem hruns hr') r.covers_first hcovers]
  exact hr'

instance : Std.Irrefl Before where
  irrefl := by
    intro r h
    have hle := r.toNat_first_le
    unfold Before at h
    omega

instance : Std.Antisymm Before where
  antisymm := by
    intro r r' h h'
    have hle := r.toNat_first_le
    have hle' := r'.toNat_first_le
    unfold Before at h h'
    omega

end CharRun

/-- The runs of some characters are the maximal runs of their numbers. -/
theorem mem_charRuns_iff {chars : List Char} {r : CharRun} :
    r ∈ charRuns chars ↔ r.MaximalIn fun n => ∃ c ∈ chars, c.toNat = n := by
  rw [CharRun.mem_iff_maximalIn (pairwise_before_charRuns chars)]
  simp only [exists_covers_charRuns]

/-- Runs that stand in order and apart are those of the characters whose numbers they cover. -/
lemma charRuns_eq_of_covers {chars : List Char} {runs : List CharRun}
    (hruns : runs.Pairwise CharRun.Before)
    (hcovers : ∀ n, (∃ r ∈ runs, r.Covers n) ↔ ∃ c ∈ chars, c.toNat = n) :
    charRuns chars = runs := by
  apply (pairwise_before_charRuns chars).eq_of_mem_iff hruns
  intro r
  rw [mem_charRuns_iff, CharRun.mem_iff_maximalIn hruns]
  simp only [hcovers]

/-! ## Bodies -/

lemma mem_iff_exists_toNat_eq {chars : List Char} {c : Char} :
    (∃ d ∈ chars, d.toNat = c.toNat) ↔ c ∈ chars := by
  simp only [Char.toNat_inj, exists_eq_right]

/-- Lists of the same characters have the same runs. -/
lemma charRuns_eq_of_mem_iff {a b : List Char} (h : ∀ c, c ∈ a ↔ c ∈ b) :
    charRuns a = charRuns b := by
  refine (pairwise_before_charRuns a).eq_of_mem_iff (pairwise_before_charRuns b) fun r => ?_
  rw [mem_charRuns_iff, mem_charRuns_iff]
  simp only [h]

/-- Lists with one body have the same characters, and the other way round. -/
theorem classBody_eq_iff {f : Flavor} {a b : List Char} :
    f.classBody a = f.classBody b ↔ ∀ c, c ∈ a ↔ c ∈ b := by
  constructor
  · intro h c
    -- what is read is one list of items, and it covers the characters of both
    have hread := readItems?_writeItems f (classItems a)
    rw [← Flavor.classBody, h, Flavor.classBody, readItems?_writeItems] at hread
    rw [← mem_iff_exists_toNat_eq, ← exists_covers_classItems, ← Option.some.inj hread,
      exists_covers_classItems, mem_iff_exists_toNat_eq]
  · intro h
    rw [Flavor.classBody, Flavor.classBody, classItems, classItems, charRuns_eq_of_mem_iff h]

end LiteralRegex
