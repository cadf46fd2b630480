import Mathlib.Data.List.Sort
import Mathlib.Logic.Basic

/-!
# Computations that agree

`Agree R x y` compares two fallible computations: both raise, whatever they raise, or both return,
and what they return is related by `R`.  A sequence of steps agrees with another one if each step
does (`Agree.bind`), and what the steps before have returned may be used for it.
-/

namespace DcimBackend.Library

universe u v w

variable {ε : Type u} {α β : Type v} {γ δ : Type v}

/-- Both computations raise, or both return related values. -/
inductive Agree (R : α → β → Prop) : Except ε α → Except ε β → Prop
  | ok {a : α} {b : β} : R a b → Agree R (.ok a) (.ok b)
  | error {d e : ε} : Agree R (.error d) (.error e)

namespace Agree

variable {R : α → β → Prop} {S : γ → δ → Prop} {x : Except ε α} {y : Except ε β}

/-- A sequence of steps. -/
theorem bind {f : α → Except ε γ} {g : β → Except ε δ} (h : Agree R x y)
    (hstep : ∀ a b, R a b → Agree S (f a) (g b)) : Agree S (x >>= f) (y >>= g) := by
  cases h with
  | ok hab => exact hstep _ _ hab
  | error => exact .error

/-- A computation agrees with itself. -/
theorem refl {x : Except ε α} {R : α → α → Prop} (hR : ∀ a, x = .ok a → R a a) : Agree R x x := by
  cases x with
  | ok a => exact .ok (hR a rfl)
  | error e => exact .error

theorem of_eq {x y : Except ε α} (h : x = y) : Agree Eq x y := h ▸ refl fun _ _ => rfl

theorem mono {R' : α → β → Prop} (h : Agree R x y) (hR : ∀ a b, R a b → R' a b) : Agree R' x y := by
  cases h with
  | ok hab => exact .ok (hR _ _ hab)
  | error => exact .error

/-- Computations that agree on equal values return the same, if anything. -/
theorem toOption_eq {x y : Except ε α} (h : Agree Eq x y) : x.toOption = y.toOption := by
  cases h with
  | ok hab => exact congrArg some hab
  | error => rfl

end Agree

/-- Two orders that agree on the elements of a list sort it in the same way. -/
theorem mergeSort_congr {xs : List α} {le le' : α → α → Bool}
    (h : ∀ a ∈ xs, ∀ b ∈ xs, le a b = le' a b) : xs.mergeSort le = xs.mergeSort le' := by
  have hmap : (xs.mergeSort le).map id = (xs.map id).mergeSort le' := List.map_mergeSort h
  rwa [List.map_id, List.map_id] at hmap

end DcimBackend.Library
