import LiteralRegex.Error
import LiteralRegex.Notice

/-!
# Reports

The outcome of an operation together with the notices given on the way. An error
ends the operation and keeps the notices given before it.
-/

namespace LiteralRegex

/-- A result or an error, and the notices in the order in which they were given. -/
structure Report (α : Type) where
  result : Except Error α
  notices : List Notice := []

namespace Report

/-- The outcome of an operation that gives no notices. -/
def ofExcept {α : Type} (result : Except Error α) : Report α := { result }

/-- Goes on with the result of the first operation. -/
def bind {α β : Type} (r : Report α) (next : α → Report β) : Report β :=
  match r.result with
  | .error e => { result := .error e, notices := r.notices }
  | .ok a => { result := (next a).result, notices := r.notices ++ (next a).notices }

instance : Monad Report where
  pure a := { result := .ok a }
  bind := bind

@[simp] theorem result_ofExcept {α : Type} (result : Except Error α) :
    (ofExcept result).result = result := rfl

/-- Results chain as they would without the notices. -/
@[simp] theorem result_bind {α β : Type} (r : Report α) (next : α → Report β) :
    (r >>= next).result = r.result.bind fun a => (next a).result := by
  rcases r with ⟨_ | _, _⟩ <;> rfl

end Report

end LiteralRegex
