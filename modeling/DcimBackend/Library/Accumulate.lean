import Mathlib.Data.List.Basic

/-!
# Accumulating loops

A loop that only ever adds to an accumulator is described by one equivalence per
iteration: after handling `x`, a fact holds of the accumulator if and only if it
held before or `x` contributes it.  `foldl_iff` lifts that equivalence to the
whole loop, so that nested loops over rows compose as existential statements and
no proof about a particular loop repeats the induction.

For a loop that can fail, `exists_foldlM_eq_ok` does the same with an invariant between
what has been read and the accumulator.
-/

namespace DcimBackend.Library

universe u v

variable {σ : Type u} {α : Type v}

/-- A fact of the accumulator after an adding loop: it was there before, or some
element of the list contributed it. -/
theorem foldl_iff {step : σ → α → σ} {Q : σ → Prop} {P : α → Prop} {xs : List α}
    (h : ∀ s, ∀ x ∈ xs, (Q (step s x) ↔ Q s ∨ P x)) (s : σ) :
    Q (xs.foldl step s) ↔ Q s ∨ ∃ x ∈ xs, P x := by
  induction xs generalizing s with
  | nil => simp
  | cons x xs ih =>
      rw [List.foldl_cons, ih fun s y hy => h s y (List.mem_cons_of_mem x hy),
        h s x List.mem_cons_self, or_assoc]
      simp only [List.exists_mem_cons_iff]

/-- A quantity that no iteration touches is the same after the loop. -/
theorem foldl_unchanged {β : Type*} {step : σ → α → σ} {g : σ → β}
    (h : ∀ s x, g (step s x) = g s) (xs : List α) (s : σ) :
    g (xs.foldl step s) = g s := by
  induction xs generalizing s with
  | nil => rfl
  | cons x xs ih => rw [List.foldl_cons, ih, h]

/-- A loop ends well, with an invariant between what it has read and the accumulator, if every
iteration does. -/
theorem exists_foldlM_eq_ok {ε : Type*} {step : σ → α → Except ε σ} {I : List α → σ → Prop}
    {xs : List α}
    (h : ∀ done s, ∀ x ∈ xs, I done s → ∃ s', step s x = .ok s' ∧ I (done ++ [x]) s')
    {done : List α} {s : σ} (hs : I done s) :
    ∃ s', xs.foldlM step s = .ok s' ∧ I (done ++ xs) s' := by
  induction xs generalizing done s with
  | nil => exact ⟨s, rfl, by rwa [List.append_nil]⟩
  | cons x xs ih =>
      obtain ⟨s₁, hstep, hs₁⟩ := h done s x List.mem_cons_self hs
      obtain ⟨s₂, hloop, hs₂⟩ :=
        ih (fun done s y hy => h done s y (List.mem_cons_of_mem x hy)) hs₁
      refine ⟨s₂, ?_, ?_⟩
      · rw [List.foldlM_cons, hstep]
        exact hloop
      · rwa [List.append_assoc, List.singleton_append] at hs₂

end DcimBackend.Library
