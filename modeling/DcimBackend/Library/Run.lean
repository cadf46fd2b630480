import Mathlib.Data.List.Induction

/-!
# Runs of a labelled step function

A system is a step function `step : σ → ι → σ`: the label carries everything the
environment chooses (which operation, its arguments, the clock), so the state
reached is a function of the labels.  A run is the left fold of the steps.

Two ways of speaking about a run are related here:

* `Along step Q s w` — every step of the run satisfies a relation between the
  state before it, its label and the state after it;
* a split `w = u ++ i :: v`, which names one step of the run and the state in
  front of it.

The rules are the usual ones.  `run_invariant` packages the induction of an
invariant, `run_invariant_of_along` the induction of an invariant that only
survives steps meeting a guard, and `along_mono` lifts a per-step implication to
runs.  `stays_iff_along` is the exact form for "once `P`, always `P`": it holds
of a run if and only if no step of the run leaves `P`.  `always_iff_along` is the exact form
for an invariant: a run stays in `P` if and only if each of its steps meets the guard.
-/

namespace DcimBackend.Library

universe u v

variable {σ : Type u} {ι : Type v}

/-- The state reached from `s` by the labels `w`, in order. -/
def run (step : σ → ι → σ) (s : σ) (w : List ι) : σ := w.foldl step s

/-- Every step of the run from `s` along `w` satisfies `Q`: state before, label,
state after. -/
def Along (step : σ → ι → σ) (Q : σ → ι → σ → Prop) : σ → List ι → Prop
  | _, [] => True
  | s, i :: w => Q s i (step s i) ∧ Along step Q (step s i) w

instance Along.decidable (step : σ → ι → σ) (Q : σ → ι → σ → Prop)
    [∀ s i s', Decidable (Q s i s')] (s : σ) : (w : List ι) → Decidable (Along step Q s w)
  | [] => .isTrue trivial
  | i :: w =>
      have := Along.decidable step Q (step s i) w
      inferInstanceAs (Decidable (_ ∧ _))

section Rules

variable (step : σ → ι → σ)

@[simp] theorem run_nil (s : σ) : run step s [] = s := rfl

@[simp] theorem run_cons (s : σ) (i : ι) (w : List ι) :
    run step s (i :: w) = run step (step s i) w := rfl

theorem run_append (s : σ) (w w' : List ι) :
    run step s (w ++ w') = run step (run step s w) w' :=
  List.foldl_append

/-- One more label at the end is one more step from the state reached. -/
theorem run_concat (s : σ) (w : List ι) (i : ι) :
    run step s (w ++ [i]) = step (run step s w) i := by
  rw [run_append, run_cons, run_nil]

variable {step}

/-- **The invariant rule.**  What one step preserves, a run preserves. -/
theorem run_invariant {I : σ → Prop} (hstep : ∀ s i, I s → I (step s i))
    {s : σ} (hs : I s) (w : List ι) : I (run step s w) := by
  induction w generalizing s with
  | nil => exact hs
  | cons i w ih => exact ih (hstep s i hs)

/-- The invariant rule under a guard on the steps of the run. -/
theorem run_invariant_of_along {I : σ → Prop} {G : σ → ι → σ → Prop}
    (hstep : ∀ s i, I s → G s i (step s i) → I (step s i))
    {s : σ} (hs : I s) {w : List ι} (hw : Along step G s w) :
    I (run step s w) := by
  induction w generalizing s with
  | nil => exact hs
  | cons i w ih => exact ih (hstep s i hs hw.1) hw.2

/-- What every step establishes, under an invariant and a guard on the labels, holds after every
run that takes a step. -/
theorem run_established {I J : σ → Prop} {G : ι → Prop}
    (hstep : ∀ s i, I s → G i → I (step s i) ∧ J (step s i)) {s : σ} (hs : I s) {w : List ι}
    (hw : w ≠ []) (hG : ∀ i ∈ w, G i) : J (run step s w) := by
  have hkeep : ∀ w : List ι, (∀ i ∈ w, G i) → I (run step s w) := by
    intro w
    induction w using List.reverseRecOn with
    | nil => exact fun _ => hs
    | append_singleton w i ih =>
        intro h
        rw [run_concat]
        exact (hstep _ i (ih fun j hj => h j (List.mem_append_left _ hj)) (h i (by simp))).1
  induction w using List.reverseRecOn with
  | nil => exact absurd rfl hw
  | append_singleton w i _ =>
      rw [run_concat]
      exact (hstep _ i (hkeep w fun j hj => hG j (List.mem_append_left _ hj)) (hG i (by simp))).2

/-- A per-step implication, with an invariant at hand, lifts to runs. -/
theorem along_mono {I : σ → Prop} {G Q : σ → ι → σ → Prop}
    (hkeep : ∀ s i, I s → G s i (step s i) → I (step s i))
    (himp : ∀ s i, I s → G s i (step s i) → Q s i (step s i))
    {s : σ} (hs : I s) {w : List ι} (hw : Along step G s w) :
    Along step Q s w := by
  induction w generalizing s with
  | nil => trivial
  | cons i w ih =>
      exact ⟨himp s i hs hw.1, ih (hkeep s i hs hw.1) hw.2⟩

/-- Two step properties that agree on every step of a run agree along it. -/
theorem along_congr {G Q R : σ → ι → σ → Prop}
    (h : ∀ s i, G s i (step s i) → (Q s i (step s i) ↔ R s i (step s i)))
    {s : σ} {w : List ι} (hw : Along step G s w) :
    Along step Q s w ↔ Along step R s w := by
  induction w generalizing s with
  | nil => exact Iff.rfl
  | cons i w ih => exact and_congr (h s i hw.1) (ih hw.2)

/-- A property of every step holds along every run. -/
theorem along_of_forall {Q : σ → ι → σ → Prop}
    (h : ∀ s i, Q s i (step s i)) (s : σ) (w : List ι) : Along step Q s w := by
  induction w generalizing s with
  | nil => trivial
  | cons i w ih => exact ⟨h s i, ih (step s i)⟩

theorem along_append {Q : σ → ι → σ → Prop} {s : σ} {w w' : List ι} :
    Along step Q s (w ++ w') ↔ Along step Q s w ∧ Along step Q (run step s w) w' := by
  induction w generalizing s with
  | nil => simp [Along]
  | cons i w ih => simp only [List.cons_append, Along, ih, run_cons, and_assoc]

/-- A family of step properties holds along a run exactly if each of them does. -/
theorem along_forall {κ : Type*} {Q : κ → σ → ι → σ → Prop} {s : σ} {w : List ι} :
    Along step (fun before i after => ∀ a, Q a before i after) s w ↔
      ∀ a, Along step (Q a) s w := by
  induction w generalizing s with
  | nil => simp [Along]
  | cons i w ih => simp only [Along, ih, forall_and]

/-- `Along` read at a split: the step labelled `i` is taken in the state that
the labels in front of it reach. -/
theorem along_iff_split {Q : σ → ι → σ → Prop} {s : σ} {w : List ι} :
    Along step Q s w ↔
      ∀ u i v, w = u ++ i :: v →
        Q (run step s u) i (run step s (u ++ [i])) := by
  induction w generalizing s with
  | nil => simp [Along]
  | cons j w ih =>
      constructor
      · rintro ⟨hhead, htail⟩ u i v hw
        cases u with
        | nil =>
            obtain ⟨rfl, -⟩ := List.cons.inj hw
            exact hhead
        | cons k u =>
            rw [List.cons_append, List.cons.injEq] at hw
            obtain ⟨rfl, htl⟩ := hw
            exact ih.mp htail u i v htl
      · intro h
        refine ⟨h [] j w rfl, ih.mpr fun u i v hw => ?_⟩
        exact h (j :: u) i v (by rw [hw, List.cons_append])

/-- **Once `P`, always `P`.**  A run never leaves `P` after having reached it
exactly when none of its steps leads out of `P`. -/
theorem stays_iff_along {P : σ → Prop} {s : σ} {w : List ι} :
    (∀ u v, w = u ++ v → P (run step s u) →
        ∀ v₁ v₂, v = v₁ ++ v₂ → P (run step s (u ++ v₁))) ↔
      Along step (fun before _ after => P before → P after) s w := by
  constructor
  · intro h
    rw [along_iff_split]
    intro u i v hw hP
    exact h u (i :: v) hw hP [i] v rfl
  · intro h u v hw hP v₁ v₂ hv
    rw [along_iff_split] at h
    -- grow `v₁` one label at a time, from the state where `P` was reached
    induction v₁ using List.reverseRecOn generalizing v₂ with
    | nil => simpa using hP
    | append_singleton v₁ i ih =>
        have hprev := ih (i :: v₂) (by rw [hv, List.append_assoc]; rfl)
        have hsplit : w = (u ++ v₁) ++ i :: v₂ := by
          rw [hw, hv]; simp
        simpa using h (u ++ v₁) i v₂ hsplit hprev

/-- **Always `P`.**  A run stays in `P` exactly if each of its steps meets the guard `G`,
where `G` says, under an invariant `I`, which steps stay in `P`. -/
theorem always_iff_along {P I : σ → Prop} {G : σ → ι → Prop} {s : σ} {w : List ι}
    (hkeep : ∀ s, ∀ i ∈ w, I s → P s → I (step s i))
    (hstep : ∀ s, ∀ i ∈ w, I s → P s → (P (step s i) ↔ G s i)) (hI : I s) (hP : P s) :
    (∀ u v, w = u ++ v → P (run step s u)) ↔ Along step (fun before i _ => G before i) s w := by
  induction w generalizing s with
  | nil =>
      refine iff_of_true (fun u v hw => ?_) trivial
      rw [(List.append_eq_nil_iff.mp hw.symm).1]
      exact hP
  | cons i w ih =>
      have htail := fun hPi : P (step s i) =>
        ih (fun s j hj => hkeep s j (List.mem_cons_of_mem _ hj))
          (fun s j hj => hstep s j (List.mem_cons_of_mem _ hj))
          (hkeep s i List.mem_cons_self hI hP) hPi
      constructor
      · intro h
        have hPi : P (step s i) := h [i] w rfl
        refine ⟨(hstep s i List.mem_cons_self hI hP).mp hPi, (htail hPi).mp fun u v hw => ?_⟩
        exact h (i :: u) v (by rw [hw, List.cons_append])
      · rintro ⟨hG, hrest⟩ u v hw
        have hPi : P (step s i) := (hstep s i List.mem_cons_self hI hP).mpr hG
        cases u with
        | nil => exact hP
        | cons j u =>
            rw [List.cons_append, List.cons.injEq] at hw
            obtain ⟨rfl, htl⟩ := hw
            exact (htail hPi).mpr hrest u v htl

end Rules

end DcimBackend.Library
