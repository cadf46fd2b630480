import Mathlib.Algebra.Ring.Nat
import Mathlib.Data.List.Dedup

/-!
# Tallies

Counts of the elements of a list by a value that each of them has.  Over values without repetition
the counts add up to the number of elements that have one of them; over all values, to the length.

The values that some element has are the `groups` of a list.
-/

namespace DcimBackend.Library

variable {α κ : Type*} [DecidableEq κ] {key : α → κ} {values : List κ} {xs : List α}

/-- The elements with one of two properties that exclude each other. -/
theorem countP_or {p q : α → Bool} (h : ∀ x ∈ xs, p x = true → q x = false) :
    xs.countP (fun x => p x || q x) = xs.countP p + xs.countP q := by
  induction xs with
  | nil => rfl
  | cons x xs ih =>
      obtain ⟨hx, hxs⟩ := List.forall_mem_cons.mp h
      rw [List.countP_cons, List.countP_cons, List.countP_cons, ih hxs]
      cases hp : p x with
      | false => simp [Nat.add_assoc]
      | true =>
          rw [hx hp]
          simp [Nat.add_right_comm]

/-- The elements with one value, and those with one of some others. -/
theorem countP_mem_cons {value : κ} (hvalue : value ∉ values) :
    xs.countP (fun x => key x ∈ value :: values) =
      xs.countP (fun x => key x = value) + xs.countP fun x => key x ∈ values := by
  rw [← countP_or]
  · simp
  · intro x _ hx
    rw [of_decide_eq_true hx]
    exact decide_eq_false hvalue

variable (key xs)

/-- Counts by distinct values add up to the elements that have one of them. -/
theorem sum_countP_eq (hnodup : values.Nodup) :
    (values.map fun value => xs.countP fun x => key x = value).sum =
      xs.countP fun x => key x ∈ values := by
  induction values with
  | nil => simp
  | cons value values ih =>
      obtain ⟨hvalue, hnodup⟩ := List.nodup_cons.mp hnodup
      rw [List.map_cons, List.sum_cons, ih hnodup, countP_mem_cons hvalue]

/-- Where every value is counted, the counts add up to the length. -/
theorem sum_countP_eq_length (hnodup : values.Nodup) (hall : ∀ value, value ∈ values) :
    (values.map fun value => xs.countP fun x => key x = value).sum = xs.length := by
  rw [sum_countP_eq key xs hnodup, List.countP_eq_length]
  intro x _
  exact decide_eq_true (hall (key x))

/-! ### Groups -/

/-- The values that the elements have, each of them once. -/
def groups : List κ := (xs.map key).dedup

theorem mem_groups {value : κ} : value ∈ groups key xs ↔ ∃ x ∈ xs, key x = value := by
  rw [groups, List.mem_dedup, List.mem_map]

theorem nodup_groups : (groups key xs).Nodup := List.nodup_dedup _

/-- A group has elements. -/
theorem countP_pos_of_mem_groups {value : κ} (h : value ∈ groups key xs) :
    0 < xs.countP fun x => key x = value := by
  obtain ⟨x, hx, rfl⟩ := (mem_groups key xs).mp h
  exact List.countP_pos_iff.mpr ⟨x, hx, decide_eq_true rfl⟩

/-- The groups together have all the elements. -/
theorem sum_groups :
    ((groups key xs).map fun value => xs.countP fun x => key x = value).sum = xs.length := by
  rw [sum_countP_eq key xs (nodup_groups key xs), List.countP_eq_length]
  exact fun x hx => decide_eq_true ((mem_groups key xs).mpr ⟨x, hx, rfl⟩)

end DcimBackend.Library
