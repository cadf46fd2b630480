import Mathlib.Order.Defs.Unbundled

/-!
# Transactions

A computation over a database takes a state to a result, or to an error, and to
the state that it leaves behind.  An error alone undoes nothing: the statements
before it have been executed, and each is committed on its own.  `atomic` makes a
computation a transaction: after an error the state is the one before it.

`Respects R x` says that a computation relates the state before it to the state
after it, whether it fails or not.  For a preorder `R` the rules compose: a
computation that is built from parts respects what its parts respect.  An
invariant `I` is the case `R s s' := I s → I s'`.
-/

namespace DcimBackend.Library

universe u v w

/-- A computation that may fail, over states `σ`. -/
def Tx (ε : Type u) (σ : Type v) (α : Type w) : Type (max u v w) :=
  σ → Except ε α × σ

namespace Tx

variable {ε : Type u} {σ : Type v} {α β : Type w}

instance : Monad (Tx ε σ) where
  pure a := fun s => (.ok a, s)
  bind x f := fun s =>
    match x s with
    | (.ok a, s') => f a s'
    | (.error e, s') => (.error e, s')

/-- Look at the state. -/
def read (f : σ → α) : Tx ε σ α := fun s => (.ok (f s), s)

/-- Write the state, with a result. -/
def write (f : σ → α × σ) : Tx ε σ α := fun s => (.ok (f s).1, (f s).2)

/-- Write the state. -/
def modify (f : σ → σ) : Tx ε σ PUnit := fun s => (.ok ⟨⟩, f s)

/-- Fail. -/
def raise (e : ε) : Tx ε σ α := fun s => (.error e, s)

/-- A value, or its error. -/
def lift (x : Except ε α) : Tx ε σ α := fun s => (x, s)

/-- A computation that some states refuse. -/
def refuseIf (refuses : σ → Bool) (refused : ε) (x : Tx ε σ α) : Tx ε σ α := fun s =>
  if refuses s then (.error refused, s) else x s

/-- All or nothing: an error restores the state. -/
def atomic (x : Tx ε σ α) : Tx ε σ α := fun s =>
  match x s with
  | (.ok a, s') => (.ok a, s')
  | (.error e, _) => (.error e, s)

@[simp] theorem pure_apply (a : α) (s : σ) : (pure a : Tx ε σ α) s = (.ok a, s) := rfl

@[simp] theorem read_apply (f : σ → α) (s : σ) :
    (read f : Tx ε σ α) s = (.ok (f s), s) := rfl

@[simp] theorem write_apply (f : σ → α × σ) (s : σ) :
    (write f : Tx ε σ α) s = (.ok (f s).1, (f s).2) := rfl

@[simp] theorem modify_apply (f : σ → σ) (s : σ) :
    (modify f : Tx ε σ PUnit) s = (.ok ⟨⟩, f s) := rfl

@[simp] theorem raise_apply (e : ε) (s : σ) :
    (raise e : Tx ε σ α) s = (.error e, s) := rfl

@[simp] theorem lift_apply (x : Except ε α) (s : σ) : (lift x : Tx ε σ α) s = (x, s) := rfl

@[simp] theorem bind_apply (x : Tx ε σ α) (f : α → Tx ε σ β) (s : σ) :
    (x >>= f) s =
      match x s with
      | (.ok a, s') => f a s'
      | (.error e, s') => (.error e, s') := rfl

/-- A sequence whose first step succeeds goes on with its result. -/
theorem bind_of_ok {x : Tx ε σ α} {f : α → Tx ε σ β} {s s' : σ} {a : α}
    (h : x s = (.ok a, s')) : (x >>= f) s = f a s' := by
  rw [bind_apply, h]

/-- A sequence whose first step fails ends there. -/
theorem bind_of_error {x : Tx ε σ α} {f : α → Tx ε σ β} {s s' : σ} {e : ε}
    (h : x s = (.error e, s')) : (x >>= f) s = (.error e, s') := by
  rw [bind_apply, h]

theorem refuseIf_of_true {refuses : σ → Bool} {refused : ε} {x : Tx ε σ α} {s : σ}
    (h : refuses s = true) : refuseIf refuses refused x s = (.error refused, s) := by
  rw [refuseIf, if_pos h]

theorem refuseIf_of_false {refuses : σ → Bool} {refused : ε} {x : Tx ε σ α} {s : σ}
    (h : refuses s = false) : refuseIf refuses refused x s = x s := by
  rw [refuseIf, if_neg (by simp [h])]

/-! ### Inversion -/

theorem bind_assoc {γ : Type w} (x : Tx ε σ α) (f : α → Tx ε σ β) (g : β → Tx ε σ γ) :
    (x >>= f) >>= g = x >>= fun a => f a >>= g := by
  funext s
  simp only [bind_apply]
  rcases x s with ⟨e | a, s'⟩ <;> rfl

/-- A sequence succeeds when both steps do. -/
theorem bind_eq_ok_iff {x : Tx ε σ α} {f : α → Tx ε σ β} {s s'' : σ} {b : β} :
    (x >>= f) s = (.ok b, s'') ↔
      ∃ a s', x s = (.ok a, s') ∧ f a s' = (.ok b, s'') := by
  rw [bind_apply]
  rcases h : x s with ⟨e | a, s'⟩
  · simp
  · simp only [Prod.mk.injEq, Except.ok.injEq]
    exact ⟨fun h => ⟨a, s', ⟨rfl, rfl⟩, h⟩, by rintro ⟨_, _, ⟨rfl, rfl⟩, h⟩; exact h⟩

/-- A sequence fails in one of its steps. -/
theorem bind_eq_error_iff {x : Tx ε σ α} {f : α → Tx ε σ β} {s s'' : σ} {e : ε} :
    (x >>= f) s = (.error e, s'') ↔
      x s = (.error e, s'') ∨ ∃ a s', x s = (.ok a, s') ∧ f a s' = (.error e, s'') := by
  rw [bind_apply]
  rcases h : x s with ⟨d | a, s'⟩
  · simp
  · simp only [Prod.mk.injEq, reduceCtorEq, false_and, Except.ok.injEq, false_or]
    exact ⟨fun h => ⟨a, s', ⟨rfl, rfl⟩, h⟩, by rintro ⟨_, _, ⟨rfl, rfl⟩, h⟩; exact h⟩

/-- A sequence succeeds if its first step does, and the rest does on what that step
returns. -/
theorem bind_succeeds {x : Tx ε σ α} {f : α → Tx ε σ β} {s : σ}
    (hx : ∃ a s', x s = (.ok a, s'))
    (hf : ∀ a s', x s = (.ok a, s') → ∃ b s'', f a s' = (.ok b, s'')) :
    ∃ b s'', (x >>= f) s = (.ok b, s'') := by
  obtain ⟨a, s', h⟩ := hx
  rw [bind_of_ok h]
  exact hf a s' h

/-- A transaction succeeds when its body does. -/
theorem atomic_eq_ok_iff {x : Tx ε σ α} {s s' : σ} {a : α} :
    atomic x s = (.ok a, s') ↔ x s = (.ok a, s') := by
  unfold atomic
  rcases x s with ⟨e | b, t⟩ <;> simp

/-- A transaction fails when its body does, and then it has changed nothing. -/
theorem atomic_eq_error_iff {x : Tx ε σ α} {s s' : σ} {e : ε} :
    atomic x s = (.error e, s') ↔ (x s).1 = .error e ∧ s' = s := by
  unfold atomic
  rcases x s with ⟨d | b, t⟩
  · simp only [Prod.mk.injEq, eq_comm]
  · simp

/-- A transaction depends on what its body does in its own state. -/
theorem atomic_congr {x y : Tx ε σ α} {s : σ} (h : x s = y s) : atomic x s = atomic y s := by
  simp only [atomic, h]

/-! ### What a computation respects -/

/-- The states before and after a computation are related. -/
def Respects (R : σ → σ → Prop) (x : Tx ε σ α) : Prop := ∀ s, R s (x s).2

section Rules

variable {R : σ → σ → Prop}

/-- The rule for one execution. -/
theorem Respects.of_eq {x : Tx ε σ α} (hx : Respects R x) {s s' : σ} {r : Except ε α}
    (h : x s = (r, s')) : R s s' := by
  have hs := hx s
  rwa [h] at hs

theorem respects_modify {f : σ → σ} (h : ∀ s, R s (f s)) :
    Respects R (modify f : Tx ε σ PUnit) := h

variable [IsPreorder σ R]

theorem respects_pure (a : α) : Respects R (pure a : Tx ε σ α) := fun s => refl_of R s

theorem respects_read (f : σ → α) : Respects R (read f : Tx ε σ α) := fun s => refl_of R s

theorem respects_raise (e : ε) : Respects R (raise e : Tx ε σ α) := fun s => refl_of R s

theorem respects_refuseIf {refuses : σ → Bool} {refused : ε} {x : Tx ε σ α} (hx : Respects R x) :
    Respects R (refuseIf refuses refused x) := by
  intro s
  cases hs : refuses s with
  | true =>
      rw [refuseIf_of_true hs]
      exact refl_of R s
  | false =>
      rw [refuseIf_of_false hs]
      exact hx s

/-- The states after the first step of a sequence and after all of it. -/
theorem rel_after_bind {x : Tx ε σ α} {f : α → Tx ε σ β} {s : σ}
    (hf : ∀ a, Respects R (f a)) : R (x s).2 ((x >>= f) s).2 := by
  rw [bind_apply]
  rcases x s with ⟨e | a, s'⟩
  · exact refl_of R s'
  · exact hf a s'

/-- A sequence from one state: its first step there, the rest anywhere. -/
theorem rel_bind {x : Tx ε σ α} {f : α → Tx ε σ β} {s : σ} (hx : R s (x s).2)
    (hf : ∀ a, Respects R (f a)) : R s ((x >>= f) s).2 :=
  trans_of R hx (rel_after_bind hf)

theorem respects_bind {x : Tx ε σ α} {f : α → Tx ε σ β} (hx : Respects R x)
    (hf : ∀ a, Respects R (f a)) : Respects R (x >>= f) :=
  fun s => rel_bind (hx s) hf

/-- A transaction from one state. -/
theorem rel_atomic {x : Tx ε σ α} {s : σ} (hx : R s (x s).2) : R s (atomic x s).2 := by
  unfold atomic
  rcases h : x s with ⟨e | a, s'⟩
  · exact refl_of R s
  · simpa [h] using hx

theorem respects_atomic {x : Tx ε σ α} (hx : Respects R x) : Respects R (atomic x) :=
  fun s => rel_atomic (hx s)

/-- A transaction that fails has changed nothing, so only one that succeeds matters. -/
theorem respects_atomic_of_ok {x : Tx ε σ α}
    (hx : ∀ s a s', atomic x s = (.ok a, s') → R s s') : Respects R (atomic x) := by
  intro s
  rcases h : atomic x s with ⟨e | a, s'⟩
  · obtain ⟨-, rfl⟩ := atomic_eq_error_iff.mp h
    exact refl_of R s'
  · exact hx s a s' h

end Rules

end Tx

end DcimBackend.Library
