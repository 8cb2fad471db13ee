import LiteralRegex.ClassBody.Basic
import LiteralRegex.Literal.Reader

/-!
# Reading class bodies

What an engine makes of the inside of a character class: each item is a character, or
two characters in order with a bare hyphen between them.
-/

namespace LiteralRegex

/-- The item that a body begins with, and the text after it. -/
def Flavor.readItem? (f : Flavor) (body : Text) : Option (ClassItem × Text) :=
  match f.readAtom? body with
  | none => none
  | some (first, '-' :: rest) =>
    match f.readAtom? rest with
    | none => none
    | some (last, rest) => if h : first ≤ last then some (.range first last h, rest) else none
  | some (c, rest) => some (.char c, rest)

theorem Flavor.length_of_readItem? {f : Flavor} {body rest : Text} {item : ClassItem}
    (h : f.readItem? body = some (item, rest)) : rest.length < body.length := by
  unfold readItem? at h
  split at h
  · simp at h
  · rename_i hfirst
    have hshorter := length_of_readAtom? hfirst
    split at h
    · simp at h
    · rename_i hlast
      have hshorter' := length_of_readAtom? hlast
      split at h
      · simp only [List.length_cons] at hshorter
        simp only [Option.some.injEq, Prod.mk.injEq] at h
        rw [← h.2]
        omega
      · simp at h
  · rename_i hfirst
    have hshorter := length_of_readAtom? hfirst
    simp_all

/-- The items of a body, if all of it can be read. -/
def Flavor.readItems? (f : Flavor) (body : Text) : Option (List ClassItem) :=
  if body = [] then some []
  else
    match _h : f.readItem? body with
    | none => none
    | some (item, rest) => (f.readItems? rest).map (item :: ·)
termination_by body.length
decreasing_by exact length_of_readItem? _h

end LiteralRegex
