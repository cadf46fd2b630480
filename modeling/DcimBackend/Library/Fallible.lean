import Mathlib.Logic.Basic

/-!
# Fallible computations

Inversion of successful runs in `Except`: a sequence of steps that ends in `ok`
went through every step with `ok`.  Proofs about a `do` block peel it apart with
these and never unfold the bind.
-/

namespace DcimBackend.Library

universe u v w

variable {ε : Type u} {α : Type v} {β : Type v}

/-- A sequence succeeds when both steps do. -/
theorem bind_eq_ok_iff {x : Except ε α} {f : α → Except ε β} {b : β} :
    (x >>= f) = .ok b ↔ ∃ a, x = .ok a ∧ f a = .ok b := by
  cases x with
  | error e => simp [bind, Except.bind]
  | ok a => simp [bind, Except.bind]

/-- A sequence fails in one of its steps. -/
theorem bind_eq_error_iff {x : Except ε α} {f : α → Except ε β} {e : ε} :
    (x >>= f) = .error e ↔ x = .error e ∨ ∃ a, x = .ok a ∧ f a = .error e := by
  cases x with
  | error d => simp [bind, Except.bind]
  | ok a => simp [bind, Except.bind]

theorem toOption_eq_some_iff {x : Except ε α} {a : α} :
    x.toOption = some a ↔ x = .ok a := by
  cases x with
  | error e => simp [Except.toOption]
  | ok b => simp [Except.toOption]

end DcimBackend.Library
