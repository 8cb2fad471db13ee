import LiteralRegex.Proofs.ClassBody.Members
import Mathlib.Data.List.Perm.Basic
import Mathlib.Order.Bounds.Defs

/-!
# No class body is shorter

Other items may cover the same characters: runs cut differently, ranges that overlap,
characters written twice. None of them takes fewer characters than the items of the runs.

The argument goes run by run. Runs stand apart, so an item lies inside a run or outside it
(`CharRun.covers_iff_covers_first`), and the items can be sorted into those of the first run
and the others. Among the items of a run one begins where the run begins and one ends where
it ends. If these are one item, it is the whole range. If they are two, both ends are paid
for separately, and a third character of the run costs at least one more, which is what the
hyphen of the range costs (`CoverExactly.length_run_items_le`).
-/

namespace LiteralRegex

/-- Holds when the items cover the numbers with a property and no others. -/
def CoverExactly (items : List ClassItem) (p : ℕ → Prop) : Prop :=
  ∀ n, (∃ item ∈ items, item.Covers n) ↔ p n

/-! ## Ends of items -/

/-- The character that an item begins with. -/
def ClassItem.first : ClassItem → Char
  | char c => c
  | range first _ _ => first

/-- The character that an item ends with. -/
def ClassItem.last : ClassItem → Char
  | char c => c
  | range _ last _ => last

lemma ClassItem.toNat_first_le (item : ClassItem) : item.first.toNat ≤ item.last.toNat := by
  cases item with
  | char c => exact Nat.le_refl _
  | range a b hle => exact char_le_iff.mp hle

/-- An item covers the numbers between its ends. -/
lemma ClassItem.covers_iff {item : ClassItem} {n : ℕ} :
    item.Covers n ↔ item.first.toNat ≤ n ∧ n ≤ item.last.toNat := by
  cases item with
  | char c =>
    simp only [Covers, first, last]
    omega
  | range a b hle => rfl

lemma ClassItem.covers_first (item : ClassItem) : item.Covers item.first.toNat :=
  covers_iff.mpr ⟨Nat.le_refl _, item.toNat_first_le⟩

lemma ClassItem.covers_last (item : ClassItem) : item.Covers item.last.toNat :=
  covers_iff.mpr ⟨item.toNat_first_le, Nat.le_refl _⟩

/-! ## The room that items take -/

section Room

variable (f : Flavor) {item : ClassItem} {items others : List ClassItem} {c d : Char}

lemma Flavor.length_escape_pos (c : Char) : 0 < (f.escape c).length := by
  unfold escape numberForm
  split
  · exact Nat.zero_lt_one
  · split <;> simp

/-- An item takes the room of its first character. -/
lemma ClassItem.length_escape_le_of_first (h : item.first = c) :
    (f.escape c).length ≤ (item.write f).length := by
  subst h
  cases item with
  | char c => exact Nat.le_refl _
  | range a b hle =>
    simp only [first, write, List.length_append]
    omega

/-- An item takes the room of its last character. -/
lemma ClassItem.length_escape_le_of_last (h : item.last = c) :
    (f.escape c).length ≤ (item.write f).length := by
  subst h
  cases item with
  | char c => exact Nat.le_refl _
  | range a b hle =>
    simp only [last, write, List.length_append]
    omega

/-- An item with two different ends takes the room of both and of a hyphen. -/
lemma ClassItem.length_write_of_ne (hfirst : item.first = c) (hlast : item.last = d)
    (hne : c ≠ d) : (item.write f).length = (f.escape c).length + 1 + (f.escape d).length := by
  subst hfirst hlast
  cases item with
  | char c => exact absurd rfl hne
  | range a b hle =>
    rw [write, List.length_append, List.length_append]
    rfl

lemma Flavor.length_writeItems_cons :
    (f.writeItems (item :: items)).length = (item.write f).length + (f.writeItems items).length := by
  rw [writeItems, List.flatMap_cons, List.length_append, writeItems]

lemma Flavor.length_writeItems_append :
    (f.writeItems (items ++ others)).length =
      (f.writeItems items).length + (f.writeItems others).length := by
  rw [writeItems, List.flatMap_append, List.length_append, writeItems, writeItems]

/-- The order of items does not change the room that they take. -/
lemma Flavor.length_writeItems_of_perm (h : items.Perm others) :
    (f.writeItems items).length = (f.writeItems others).length :=
  (h.flatMap_right _).length_eq

end Room

/-- One of some items can be told apart from the rest. -/
lemma exists_perm_cons {item : ClassItem} {items : List ClassItem} (h : item ∈ items) :
    ∃ rest, items.Perm (item :: rest) := by
  obtain ⟨front, back, rfl⟩ := List.append_of_mem h
  exact ⟨front ++ back, List.perm_middle⟩

/-! ## One run -/

/-- What is written for a run takes the room of its ends, with a hyphen from three characters on. -/
lemma CharRun.length_writeItems_items (f : Flavor) (r : CharRun) :
    (f.writeItems r.items).length =
      if r.length = 1 then (f.escape r.first).length
      else (f.escape r.first).length + (if r.length = 2 then 0 else 1) +
        (f.escape r.last).length := by
  unfold CharRun.items
  by_cases hone : r.length = 1
  · rw [if_pos hone, if_pos hone, f.length_writeItems_cons]
    rfl
  · rw [if_neg hone, if_neg hone]
    by_cases htwo : r.length = 2
    · rw [if_pos htwo, if_pos htwo, f.length_writeItems_cons, f.length_writeItems_cons]
      rfl
    · rw [if_neg htwo, if_neg htwo, f.length_writeItems_cons]
      simp only [ClassItem.write, List.length_append, List.length_singleton]
      rfl

namespace CoverExactly

variable {r : CharRun} {items others : List ClassItem} {p : ℕ → Prop}

lemma of_perm (h : CoverExactly items p) (hperm : items.Perm others) : CoverExactly others p := by
  intro n
  rw [← h n]
  simp only [hperm.mem_iff]

/-- One of the items of a run begins where the run begins. -/
lemma exists_first_eq (h : CoverExactly items r.Covers) : ∃ item ∈ items, item.first = r.first := by
  obtain ⟨item, hitem, hcovers⟩ := (h _).mpr ⟨Nat.le_refl _, r.toNat_first_le⟩
  have hle := (ClassItem.covers_iff.mp hcovers).1
  have hge := ((h _).mp ⟨item, hitem, item.covers_first⟩).1
  exact ⟨item, hitem, Char.toNat_inj.mp (Nat.le_antisymm hle hge)⟩

/-- One of the items of a run ends where the run ends. -/
lemma exists_last_eq (h : CoverExactly items r.Covers) : ∃ item ∈ items, item.last = r.last := by
  obtain ⟨item, hitem, hcovers⟩ := (h _).mpr ⟨r.toNat_first_le, Nat.le_refl _⟩
  have hge := (ClassItem.covers_iff.mp hcovers).2
  have hle := ((h _).mp ⟨item, hitem, item.covers_last⟩).2
  exact ⟨item, hitem, Char.toNat_inj.mp (Nat.le_antisymm hle hge)⟩

/-- The two ends of a run are held by one item or by two. -/
lemma exists_perm_ends (h : CoverExactly items r.Covers) :
    (∃ a rest, items.Perm (a :: rest) ∧ a.first = r.first ∧ a.last = r.last) ∨
      ∃ a b rest, items.Perm (a :: b :: rest) ∧ a.first = r.first ∧ b.last = r.last := by
  obtain ⟨a, ha, hfirst⟩ := h.exists_first_eq
  obtain ⟨b, hb, hlast⟩ := h.exists_last_eq
  obtain ⟨rest, hperm⟩ := exists_perm_cons ha
  rcases List.mem_cons.mp (hperm.mem_iff.mp hb) with rfl | hb
  · exact .inl ⟨b, rest, hperm, hfirst, hlast⟩
  · obtain ⟨others, hothers⟩ := exists_perm_cons hb
    exact .inr ⟨a, b, others, hperm.trans (hothers.cons a), hfirst, hlast⟩

/-- In a run of three or more characters, two single characters at the ends leave the second number
of the run to another item. -/
lemma rest_ne_nil {a b : ClassItem} {rest : List ClassItem}
    (h : CoverExactly (a :: b :: rest) r.Covers) (hafirst : a.first = r.first)
    (halast : a.last = r.first) (hbfirst : b.first = r.last)
    (hlong : r.first.toNat + 1 < r.last.toNat) : rest ≠ [] := by
  intro hnil
  subst hnil
  obtain ⟨c, hc, hcovers⟩ := (h (r.first.toNat + 1)).mpr ⟨by omega, by omega⟩
  rw [ClassItem.covers_iff] at hcovers
  rcases List.mem_pair.mp hc with rfl | rfl
  · rw [halast] at hcovers
    omega
  · rw [hbfirst] at hcovers
    omega

/-- Two items at the ends of a run of three or more characters take the room of a hyphen beside that
of the ends, or a third item does. -/
lemma length_two_items_le (f : Flavor) {a b : ClassItem} {rest : List ClassItem}
    (h : CoverExactly (a :: b :: rest) r.Covers) (hfirst : a.first = r.first)
    (hlast : b.last = r.last) (hlong : r.first.toNat + 1 < r.last.toNat) :
    (f.escape r.first).length + 1 + (f.escape r.last).length ≤
      (f.writeItems (a :: b :: rest)).length := by
  have hroomA := ClassItem.length_escape_le_of_first f hfirst
  have hroomB := ClassItem.length_escape_le_of_last f hlast
  rw [f.length_writeItems_cons, f.length_writeItems_cons]
  by_cases hasingle : a.last = r.first
  · by_cases hbsingle : b.first = r.last
    · cases rest with
      | nil => exact absurd rfl (h.rest_ne_nil hfirst hasingle hbsingle hlong)
      | cons c rest =>
        have hroomC := ClassItem.length_escape_le_of_first f (Eq.refl c.first)
        have hpos := f.length_escape_pos c.first
        rw [f.length_writeItems_cons]
        omega
    · have hwrite := ClassItem.length_write_of_ne f (Eq.refl b.first) hlast hbsingle
      omega
  · have hwrite := ClassItem.length_write_of_ne f hfirst (Eq.refl a.last) (Ne.symm hasingle)
    omega

/-- Items that cover a run take at least the room of those that are written for it. -/
theorem length_run_items_le (f : Flavor) (h : CoverExactly items r.Covers) :
    (f.writeItems r.items).length ≤ (f.writeItems items).length := by
  have hlength : r.length = r.last.toNat - r.first.toNat + 1 := rfl
  have hle := r.toNat_first_le
  rw [r.length_writeItems_items f]
  rcases h.exists_perm_ends with ⟨a, rest, hperm, hfirst, hlast⟩ | ⟨a, b, rest, hperm, hfirst, hlast⟩
  · -- one item holds both ends, so it is the character or the whole range
    rw [f.length_writeItems_of_perm hperm, f.length_writeItems_cons]
    split
    · have hroom := ClassItem.length_escape_le_of_first f hfirst
      omega
    · have hne : r.first ≠ r.last := by
        intro heq
        rw [heq] at hlength
        omega
      have hwrite := ClassItem.length_write_of_ne f hfirst hlast hne
      split <;> omega
  · -- two items hold the ends, which leaves the hyphen to account for
    have hroomA := ClassItem.length_escape_le_of_first f hfirst
    have hroomB := ClassItem.length_escape_le_of_last f hlast
    rw [f.length_writeItems_of_perm hperm]
    by_cases hlong : r.first.toNat + 1 < r.last.toNat
    · have hroom := (h.of_perm hperm).length_two_items_le f hfirst hlast hlong
      rw [if_neg (by omega), if_neg (by omega)]
      exact hroom
    · rw [f.length_writeItems_cons, f.length_writeItems_cons]
      split
      · omega
      · rw [if_pos (by omega)]
        omega

end CoverExactly

/-! ## All runs -/

/-- An item that leaves out the numbers beside a run lies inside the run or outside it, as its
first number does. -/
lemma CharRun.covers_iff_covers_first {r : CharRun} {item : ClassItem} {n : ℕ}
    (hbehind : ¬ item.Covers (r.last.toNat + 1))
    (hfront : ∀ m, m + 1 = r.first.toNat → ¬ item.Covers m) (hn : item.Covers n) :
    r.Covers n ↔ r.Covers item.first.toNat := by
  have hle := item.toNat_first_le
  have hfront' := hfront (r.first.toNat - 1)
  rw [ClassItem.covers_iff] at hbehind hfront' hn
  unfold CharRun.Covers
  omega

section AllRuns

variable {r : CharRun} {runs : List CharRun} {items : List ClassItem}

/-- A number beside a run, or in it, is in no run behind it. -/
lemma CharRun.not_covers_of_before {r' : CharRun} {n : ℕ} (hbefore : r.Before r')
    (hn : n ≤ r.last.toNat + 1) : ¬ r'.Covers n := by
  unfold CharRun.Before at hbefore
  unfold CharRun.Covers
  omega

/-- Where runs stand apart, each item lies inside the first run or outside it. -/
lemma CoverExactly.covers_iff_covers_first (hbefore : ∀ r' ∈ runs, r.Before r')
    (hitems : CoverExactly items fun n => ∃ r' ∈ r :: runs, r'.Covers n) {item : ClassItem}
    (hitem : item ∈ items) {n : ℕ} (hn : item.Covers n) :
    r.Covers n ↔ r.Covers item.first.toNat := by
  have hle := r.toNat_first_le
  -- the numbers beside the first run are in no run, so no item has them
  have hbeside : ∀ m, m = r.last.toNat + 1 ∨ m + 1 = r.first.toNat → ¬ item.Covers m := by
    intro m hm hcovers
    obtain ⟨r', hr', hin⟩ := (hitems m).mp ⟨item, hitem, hcovers⟩
    rcases List.mem_cons.mp hr' with rfl | hr'
    · unfold CharRun.Covers at hin
      omega
    · exact CharRun.not_covers_of_before (hbefore r' hr') (by omega) hin
  exact CharRun.covers_iff_covers_first (hbeside _ (.inl rfl)) (fun m hm => hbeside m (.inr hm)) hn

/-- The items for some runs can be sorted into those for the first run and those for the runs
behind it. -/
lemma CoverExactly.exists_perm_append (hbefore : ∀ r' ∈ runs, r.Before r')
    (hitems : CoverExactly items fun n => ∃ r' ∈ r :: runs, r'.Covers n) :
    ∃ mine others, items.Perm (mine ++ others) ∧ CoverExactly mine r.Covers ∧
      CoverExactly others fun n => ∃ r' ∈ runs, r'.Covers n := by
  refine ⟨items.filter fun item => r.Covers item.first.toNat,
    items.filter fun item => !decide (r.Covers item.first.toNat),
    (List.filter_append_perm _ items).symm, fun n => ?_, fun n => ?_⟩
  · constructor
    · intro h
      obtain ⟨item, hitem, hn⟩ := h
      obtain ⟨hitem, hfirst⟩ := List.mem_filter.mp hitem
      exact (hitems.covers_iff_covers_first hbefore hitem hn).mpr (of_decide_eq_true hfirst)
    · intro hr
      obtain ⟨item, hitem, hn⟩ := (hitems n).mpr ⟨r, List.mem_cons_self, hr⟩
      have hfirst := (hitems.covers_iff_covers_first hbefore hitem hn).mp hr
      exact ⟨item, List.mem_filter.mpr ⟨hitem, decide_eq_true hfirst⟩, hn⟩
  · constructor
    · intro h
      obtain ⟨item, hitem, hn⟩ := h
      obtain ⟨hitem, hfirst⟩ := List.mem_filter.mp hitem
      have hout : ¬ r.Covers n := by
        rw [hitems.covers_iff_covers_first hbefore hitem hn]
        simpa using hfirst
      obtain ⟨r', hr', hcovers⟩ := (hitems n).mp ⟨item, hitem, hn⟩
      rcases List.mem_cons.mp hr' with rfl | hr'
      · exact absurd hcovers hout
      · exact ⟨r', hr', hcovers⟩
    · intro h
      obtain ⟨r', hr', hcovers⟩ := h
      obtain ⟨item, hitem, hn⟩ := (hitems n).mpr ⟨r', List.mem_cons_of_mem _ hr', hcovers⟩
      have hout : ¬ r.Covers item.first.toNat := by
        rw [← hitems.covers_iff_covers_first hbefore hitem hn]
        intro hin
        exact CharRun.not_covers_of_before (hbefore r' hr') (Nat.le_succ_of_le hin.2) hcovers
      exact ⟨item, List.mem_filter.mpr ⟨hitem, by simpa using hout⟩, hn⟩

/-- Items that cover runs which stand apart take at least the room of those that are written for
the runs. -/
theorem CoverExactly.length_flatMap_items_le (f : Flavor) (hruns : runs.Pairwise CharRun.Before)
    (hitems : CoverExactly items fun n => ∃ r ∈ runs, r.Covers n) :
    (f.writeItems (runs.flatMap CharRun.items)).length ≤ (f.writeItems items).length := by
  induction runs generalizing items with
  | nil => exact Nat.zero_le _
  | cons r runs ih =>
    obtain ⟨hbefore, hruns⟩ := List.pairwise_cons.mp hruns
    obtain ⟨mine, others, hperm, hmine, hothers⟩ := hitems.exists_perm_append hbefore
    rw [List.flatMap_cons, f.length_writeItems_append, f.length_writeItems_of_perm hperm,
      f.length_writeItems_append]
    exact Nat.add_le_add (hmine.length_run_items_le f) (ih hruns hothers)

end AllRuns

/-- The class body of some characters has the least length among all bodies whose items cover
exactly these characters. -/
theorem classBody_length_isLeast (f : Flavor) (chars : List Char) :
    IsLeast {room | ∃ items, (CoverExactly items fun n => ∃ c ∈ chars, c.toNat = n) ∧
      (f.writeItems items).length = room} (f.classBody chars).length := by
  refine ⟨⟨classItems chars, fun n => exists_covers_classItems, rfl⟩, fun room h => ?_⟩
  obtain ⟨items, hitems, rfl⟩ := h
  refine CoverExactly.length_flatMap_items_le f (pairwise_before_charRuns chars) fun n => ?_
  exact (hitems n).trans exists_covers_charRuns.symm

end LiteralRegex
