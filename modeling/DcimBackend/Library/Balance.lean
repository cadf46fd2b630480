import DcimBackend.Library.Run
import Mathlib.Algebra.Group.Nat.Defs
import Mathlib.Data.List.Forall2

/-!
# Accounts of a run

A quantity of the state that every step changes by what it takes in and what it gives out: over a
run, what is there in the end and what was given out are together what was there in the beginning
and what was taken in.

A log of the state that every step writes entries behind: over a run, the log is what it was in the
beginning, and the entries of the steps behind that.
-/

namespace DcimBackend.Library

variable {σ ι : Type*} (step : σ → ι → σ)

/-- What the steps of a run amount to. -/
def total (amount : σ → ι → ℕ) : σ → List ι → ℕ
  | _, [] => 0
  | s, i :: w => amount s i + total amount (step s i) w

variable {step} {stock : σ → ℕ} {taken given : σ → ι → ℕ}

/-- **The balance of a run.** -/
theorem balance_run (hstep : ∀ s i, stock (step s i) + given s i = stock s + taken s i) (s : σ)
    (w : List ι) :
    stock (run step s w) + total step given s w = stock s + total step taken s w := by
  induction w generalizing s with
  | nil => rfl
  | cons i w ih =>
      have hhead := hstep s i
      have htail := ih (step s i)
      rw [run_cons, total, total]
      omega

/-! ### Logs -/

section Logs

variable {σ ι α : Type*} (step : σ → ι → σ)

/-- The entries of the steps of a run, one behind the other. -/
def collected (entries : σ → ι → List α) : σ → List ι → List α
  | _, [] => []
  | s, i :: w => entries s i ++ collected entries (step s i) w

variable {step} {log : σ → List α} {entries more : σ → ι → List α}

/-- **The log of a run.** -/
theorem log_run (hstep : ∀ s i, log (step s i) = log s ++ entries s i) (s : σ) (w : List ι) :
    log (run step s w) = log s ++ collected step entries s w := by
  induction w generalizing s with
  | nil => exact (List.append_nil _).symm
  | cons i w ih => rw [run_cons, ih, hstep, collected, List.append_assoc]

/-- Steps that write some of the entries of others write them in the same order. -/
theorem collected_sublist (hstep : ∀ s i, (entries s i).Sublist (more s i)) (s : σ) (w : List ι) :
    (collected step entries s w).Sublist (collected step more s w) := by
  induction w generalizing s with
  | nil => exact List.Sublist.slnil
  | cons i w ih => exact (hstep s i).append (ih (step s i))

/-- Steps that write an entry for each entry of others write them in the same order. -/
theorem collected_forall₂ {β : Type*} {others : σ → ι → List β} {R : α → β → Prop}
    (hstep : ∀ s i, List.Forall₂ R (entries s i) (others s i)) (s : σ) (w : List ι) :
    List.Forall₂ R (collected step entries s w) (collected step others s w) := by
  induction w generalizing s with
  | nil => exact .nil
  | cons i w ih => exact List.rel_append (hstep s i) (ih (step s i))

/-- Entries that depend on the labels only. -/
theorem collected_labels (entries : ι → List α) (s : σ) (w : List ι) :
    collected step (fun _ i => entries i) s w = w.flatMap entries := by
  induction w generalizing s with
  | nil => rfl
  | cons i w ih => rw [collected, ih, List.flatMap_cons]

end Logs

end DcimBackend.Library
