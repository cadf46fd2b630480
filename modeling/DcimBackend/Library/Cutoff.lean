import Mathlib.Data.List.Basic
import Mathlib.Data.List.Count

/-!
# The first elements of a sorted list

A list that is sorted by a relation and cut off after `n` elements.  An element behind the cut has
the whole first part before it (`le_of_mem_take_of_notMem`), and one in front of it fewer than `n`
elements that have to come before it (`countP_lt_of_mem_take`).

`countP_take_eq_min_iff` is about elements of one kind: the first part has as many of them as it
could have exactly if it has no others, or if there are none left.
-/

namespace DcimBackend.Library

variable {α : Type*} {xs : List α} {n : ℕ} {a : α}

section Kind

variable {p : α → Bool}

/-- The first `n` elements have as many of a kind as they could. -/
theorem countP_take_eq_min_iff :
    (xs.take n).countP p = min n (xs.countP p) ↔
      (∀ x ∈ xs.take n, p x = true) ∨ ∀ x ∈ xs.drop n, p x = false := by
  have hsplit : xs.countP p = (xs.take n).countP p + (xs.drop n).countP p := by
    rw [← List.countP_append, List.take_append_drop]
  have hle : (xs.take n).countP p ≤ (xs.take n).length := List.countP_le_length
  have hlength : (xs.take n).length = min n xs.length := List.length_take
  have hdrop : (∀ x ∈ xs.drop n, p x = false) ↔ (xs.drop n).countP p = 0 := by
    rw [List.countP_eq_zero]
    simp
  have htotal : xs.length = (xs.take n).length + (xs.drop n).length := by
    rw [← List.length_append, List.take_append_drop]
  have hrest : (xs.drop n).countP p ≤ (xs.drop n).length := List.countP_le_length
  rw [← List.countP_eq_length, hdrop]
  omega

/-- Fewer elements have a property than a weaker one, if one of them has only that. -/
theorem countP_lt_countP {q : α → Bool} (h : ∀ x ∈ xs, p x = true → q x = true) (ha : a ∈ xs)
    (hq : q a = true) (hp : p a = false) : xs.countP p < xs.countP q := by
  induction xs with
  | nil => cases ha
  | cons x xs ih =>
      rw [List.forall_mem_cons] at h
      rw [List.countP_cons, List.countP_cons]
      rcases List.mem_cons.mp ha with rfl | hmem
      · have hle : xs.countP p ≤ xs.countP q := List.countP_mono_left h.2
        simp only [hp, hq]
        simp
        omega
      · have hlt := ih h.2 hmem
        have hone : (if p x = true then 1 else 0) ≤ if q x = true then 1 else 0 := by
          by_cases hx : p x = true
          · simp [hx, h.1 hx]
          · simp [hx]
        omega

end Kind

section Sorted

variable {r : α → α → Prop}

/-- What is in the first part comes before what is not. -/
theorem le_of_mem_take_of_notMem (hsorted : xs.Pairwise r) (ha : a ∈ xs) (hcut : a ∉ xs.take n) :
    (xs.take n).length = n ∧ ∀ x ∈ xs.take n, r x a := by
  have hdrop : a ∈ xs.drop n := by
    rw [← List.take_append_drop n xs, List.mem_append] at ha
    exact ha.resolve_left hcut
  constructor
  · rw [List.length_take]
    by_contra hlt
    rw [List.drop_eq_nil_of_le (by omega)] at hdrop
    cases hdrop
  · rw [← List.take_append_drop n xs, List.pairwise_append] at hsorted
    exact fun x hx => hsorted.2.2 x hx a hdrop

/-- Few elements have to come before one of the first part. -/
theorem countP_lt_of_mem_take [DecidableRel r] (hsorted : xs.Pairwise r) (hrefl : r a a)
    (ha : a ∈ xs.take n) : xs.countP (fun x => ¬r a x) < n := by
  have hsplit : xs.countP (fun x => ¬r a x) =
      (xs.take n).countP (fun x => ¬r a x) + (xs.drop n).countP (fun x => ¬r a x) := by
    rw [← List.countP_append, List.take_append_drop]
  have hdrop : (xs.drop n).countP (fun x => ¬r a x) = 0 := by
    rw [List.countP_eq_zero]
    intro x hx
    rw [← List.take_append_drop n xs, List.pairwise_append] at hsorted
    simpa using hsorted.2.2 a ha x hx
  have hself : (xs.take n).countP (fun x => ¬r a x) < (xs.take n).length := by
    refine Nat.lt_of_le_of_ne List.countP_le_length fun hall => ?_
    have hnot := List.countP_eq_length.mp hall a ha
    simp [hrefl] at hnot
  have hlength : (xs.take n).length ≤ n := List.length_take_le n xs
  omega

end Sorted

end DcimBackend.Library
