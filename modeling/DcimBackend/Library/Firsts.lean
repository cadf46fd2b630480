import Mathlib.Data.List.Basic
import Mathlib.Data.List.Nodup

/-!
# First occurrences

`Before xs a b` compares two elements of a list by where they first occur, and `Firsts xs ys` says
that `ys` are the elements of `xs`, each once, in this order.  A loop that skips what it has seen
keeps this up as it goes on: the next element is left out if it has occurred
(`Firsts.concat_of_mem`), and comes last if it has not (`Firsts.concat_of_notMem`).
-/

namespace DcimBackend.Library

variable {α : Type*} [DecidableEq α] {xs ys : List α} {a b : α}

/-- One element of a list first occurs before the other. -/
def Before (xs : List α) (a b : α) : Prop := xs.idxOf a < xs.idxOf b

theorem Before.ne (h : Before xs a b) : a ≠ b := by
  rintro rfl
  exact Nat.lt_irrefl _ h

/-- What comes behind a list does not change where its elements first occur. -/
theorem Before.append (h : Before xs a b) (ha : a ∈ xs) (hb : b ∈ xs) (zs : List α) :
    Before (xs ++ zs) a b := by
  unfold Before
  rw [List.idxOf_append_of_mem ha, List.idxOf_append_of_mem hb]
  exact h

/-- A new element first occurs at the end. -/
theorem before_concat (ha : a ∈ xs) (hb : b ∉ xs) : Before (xs ++ [b]) a b := by
  unfold Before
  rw [List.idxOf_append_of_mem ha, List.idxOf_append_of_notMem hb]
  exact Nat.lt_add_right _ (List.idxOf_lt_length_of_mem ha)

/-- The elements of a list, each once, in the order of their first occurrences. -/
structure Firsts (xs ys : List α) : Prop where
  mem_iff : ∀ a, a ∈ ys ↔ a ∈ xs
  ordered : ys.Pairwise (Before xs)

namespace Firsts

theorem nil : Firsts ([] : List α) [] where
  mem_iff _ := Iff.rfl
  ordered := .nil

theorem nodup (h : Firsts xs ys) : ys.Nodup := h.ordered.imp Before.ne

theorem ordered_append (h : Firsts xs ys) (zs : List α) : ys.Pairwise (Before (xs ++ zs)) :=
  h.ordered.imp_of_mem fun {a b} ha hb hbefore =>
    hbefore.append ((h.mem_iff a).mp ha) ((h.mem_iff b).mp hb) zs

theorem concat_of_mem (h : Firsts xs ys) (ha : a ∈ xs) : Firsts (xs ++ [a]) ys where
  mem_iff b := by
    rw [h.mem_iff, List.mem_append, List.mem_singleton]
    constructor
    · exact Or.inl
    · rintro (hb | rfl)
      · exact hb
      · exact ha
  ordered := h.ordered_append [a]

theorem concat_of_notMem (h : Firsts xs ys) (ha : a ∉ xs) : Firsts (xs ++ [a]) (ys ++ [a]) where
  mem_iff b := by
    rw [List.mem_append, List.mem_append, h.mem_iff]
  ordered := by
    rw [List.pairwise_append]
    refine ⟨h.ordered_append [a], List.pairwise_singleton _ _, ?_⟩
    intro b hb c hc
    obtain rfl := List.mem_singleton.mp hc
    exact before_concat ((h.mem_iff b).mp hb) ha

end Firsts

end DcimBackend.Library
