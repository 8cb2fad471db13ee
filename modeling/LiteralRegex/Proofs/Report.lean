import LiteralRegex.Report
import LiteralRegex.Text.Single
import Mathlib.Tactic.Common

/-!
# Where errors come from

A chain of operations fails where one of them does, and a function that cannot fail adds no error of its
own. A text that stands for one character is refused for its length alone
(`Text.single_eq_error_iff`).
-/

namespace LiteralRegex

section Chains

variable {ε α β : Type} {x : Except ε α} {e : ε}

lemma bind_eq_ok_iff {next : α → Except ε β} {b : β} :
    (x >>= next) = .ok b ↔ ∃ a, x = .ok a ∧ next a = .ok b := by
  cases x with
  | error e => simp [bind, Except.bind]
  | ok a => simp [bind, Except.bind]

lemma bind_eq_error_iff {next : α → Except ε β} :
    (x >>= next) = .error e ↔ x = .error e ∨ ∃ a, x = .ok a ∧ next a = .error e := by
  cases x with
  | error e' => simp [bind, Except.bind]
  | ok a => simp [bind, Except.bind]

lemma map_eq_ok_iff {f : α → β} {b : β} : x.map f = .ok b ↔ ∃ a, x = .ok a ∧ f a = b := by
  cases x with
  | error e => simp [Except.map]
  | ok a => simp [Except.map]

lemma map_eq_error_iff {f : α → β} : x.map f = .error e ↔ x = .error e := by
  cases x with
  | error e' => simp [Except.map]
  | ok a => simp [Except.map]

/-- Of several operations in a row the first one that fails decides. -/
lemma mapM_eq_error_iff {f : α → Except ε β} {xs : List α} :
    xs.mapM f = .error e ↔
      ∃ front a rest, xs = front ++ a :: rest ∧ (∀ b ∈ front, ∃ y, f b = .ok y) ∧
        f a = .error e := by
  have hcons : ∀ (y : β) (xs : List α),
      (xs.mapM f >>= fun ys => pure (y :: ys)) = .error e ↔ xs.mapM f = .error e := by
    intro y xs
    rw [bind_eq_error_iff]
    simp [pure, Except.pure]
  induction xs with
  | nil => simp [pure, Except.pure]
  | cons a xs ih =>
    rw [List.mapM_cons, bind_eq_error_iff]
    simp only [hcons, ih]
    constructor
    · rintro (ha | ⟨y, hy, front, b, rest, rfl, hfront, hb⟩)
      · exact ⟨[], a, xs, rfl, by simp, ha⟩
      · exact ⟨a :: front, b, rest, rfl, List.forall_mem_cons.mpr ⟨⟨y, hy⟩, hfront⟩, hb⟩
    · rintro ⟨front, b, rest, hxs, hfront, hb⟩
      cases front with
      | nil =>
        obtain ⟨rfl, rfl⟩ := List.cons.inj hxs
        exact .inl hb
      | cons c front =>
        obtain ⟨rfl, rfl⟩ := List.cons.inj hxs
        obtain ⟨⟨y, hy⟩, hfront⟩ := List.forall_mem_cons.mp hfront
        exact .inr ⟨y, hy, front, b, rest, rfl, hfront, hb⟩

end Chains

/-- An error is the end, and the notices given before it are kept. -/
lemma Report.bind_of_error {α β : Type} {r : Report α} {e : Error} (h : r.result = .error e)
    (next : α → Report β) : (r >>= next) = { result := .error e, notices := r.notices } := by
  obtain ⟨_, notices⟩ := r
  obtain rfl := h
  rfl

lemma Report.result_map {α β : Type} (f : α → β) (r : Report α) :
    (f <$> r).result = r.result.map f := by
  rcases r with ⟨_ | _, _⟩
  · rfl
  · rfl

lemma Text.exists_single_eq_ok_iff {text : Text} :
    (∃ c, single text = .ok c) ↔ text.length = 1 := by
  simp only [single_eq_ok_iff, List.length_eq_one_iff]

/-- A text that is shorter or longer than one character is refused. -/
lemma Text.single_eq_error_iff {text : Text} {e : Error} :
    single text = .error e ↔ text.length ≠ 1 ∧ e = .input (.notOneCharacter text) := by
  match text with
  | [] => simp [single, eq_comm]
  | [c] => simp [single]
  | c :: d :: rest => simp [single, eq_comm]

end LiteralRegex
