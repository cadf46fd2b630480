import DcimBackend.Library.Exceptions

/-!
# Processes

A process with a database connection of its own, and with variables that no rollback undoes.
Nobody else writes to what it sees, so a block that is rolled back leaves the tables as the
process has found them.

A statement that fails inside a block breaks it: the statements after it are refused until the
innermost block is left, which is then rolled back.  Outside of blocks every statement is
committed on its own.
-/

namespace DcimBackend.Library

universe u v w

/-- The tables that a process sees, and its variables. -/
structure Process (σ ρ : Type v) where
  tables : σ
  locals : ρ
  /-- A statement of the innermost block has failed. -/
  broken : Bool := false

namespace Process

variable {ε : Type u} {σ ρ : Type v} {α : Type w}

/-- Write the tables. -/
def write (f : σ → σ) : Tx ε (Process σ ρ) PUnit :=
  Tx.modify fun s => { s with tables := f s.tables }

/-- Assign to the variables. -/
def assign (f : ρ → ρ) : Tx ε (Process σ ρ) PUnit :=
  Tx.modify fun s => { s with locals := f s.locals }

/-- What breaks its block if it fails. -/
def breaking (x : Tx ε (Process σ ρ) α) : Tx ε (Process σ ρ) α := fun s =>
  match x s with
  | (.ok a, s') => (.ok a, s')
  | (.error e, s') => (.error e, { s' with broken := true })

/-- A statement inside a block. -/
def execute (refused : ε) (x : Tx ε (Process σ ρ) α) : Tx ε (Process σ ρ) α :=
  Tx.refuseIf broken refused (breaking x)

/-- A block, or a savepoint. -/
def atomic (x : Tx ε (Process σ ρ) α) : Tx ε (Process σ ρ) α := fun s =>
  match x s with
  | (.ok a, s') =>
      (.ok a, { s' with
        tables := if s'.broken then s.tables else s'.tables
        broken := s.broken })
  | (.error e, s') => (.error e, { s' with tables := s.tables, broken := s.broken })

section Rules

variable {refused : ε} {x : Tx ε (Process σ ρ) α} {s s' : Process σ ρ} {a : α} {e : ε}

@[simp] theorem write_apply (f : σ → σ) (s : Process σ ρ) :
    (write f : Tx ε (Process σ ρ) PUnit) s = (.ok ⟨⟩, { s with tables := f s.tables }) := rfl

@[simp] theorem assign_apply (f : ρ → ρ) (s : Process σ ρ) :
    (assign f : Tx ε (Process σ ρ) PUnit) s = (.ok ⟨⟩, { s with locals := f s.locals }) := rfl

theorem execute_of_ok (refused : ε) (hs : s.broken = false) (h : x s = (.ok a, s')) :
    execute refused x s = (.ok a, s') := by
  rw [execute, Tx.refuseIf_of_false hs, breaking, h]

theorem execute_of_error (refused : ε) (hs : s.broken = false) (h : x s = (.error e, s')) :
    execute refused x s = (.error e, { s' with broken := true }) := by
  rw [execute, Tx.refuseIf_of_false hs, breaking, h]

theorem execute_eq_ok_iff :
    execute refused x s = (.ok a, s') ↔ s.broken = false ∧ x s = (.ok a, s') := by
  unfold execute
  cases hs : s.broken with
  | true => simp [Tx.refuseIf_of_true hs]
  | false =>
      rw [Tx.refuseIf_of_false hs, breaking]
      rcases x s with ⟨e | b, t⟩ <;> simp

theorem atomic_of_ok (h : x s = (.ok a, s')) (hs' : s'.broken = false) :
    atomic x s = (.ok a, { s' with broken := s.broken }) := by
  rw [atomic, h]
  simp [hs']

theorem atomic_of_error (h : x s = (.error e, s')) :
    atomic x s = (.error e, { s' with tables := s.tables, broken := s.broken }) := by
  rw [atomic, h]

/-- A block that returns has kept the writes of a whole run, or none. -/
theorem atomic_eq_ok (h : atomic x s = (.ok a, s')) :
    ∃ s₁, x s = (.ok a, s₁) ∧ s' = { s₁ with
      tables := if s₁.broken then s.tables else s₁.tables
      broken := s.broken } := by
  unfold atomic at h
  rcases hx : x s with ⟨e | b, s₁⟩
  · rw [hx] at h
    cases h
  · rw [hx] at h
    cases h
    exact ⟨s₁, rfl, rfl⟩

/-- A block that is left by an error writes nothing. -/
theorem tables_atomic_of_error (h : atomic x s = (.error e, s')) : s'.tables = s.tables := by
  unfold atomic at h
  rcases hx : x s with ⟨e' | b, s₁⟩
  · rw [hx] at h
    cases h
    rfl
  · rw [hx] at h
    cases h

/-! ### What a block and its statements raise and log -/

theorem raisesOnly_execute {S : ε → Prop} (hrefused : S refused) (h : Tx.RaisesOnly S x) :
    Tx.RaisesOnly S (execute refused x) := by
  intro s e s' hs
  unfold execute at hs
  cases hbroken : s.broken with
  | true =>
      rw [Tx.refuseIf_of_true hbroken] at hs
      cases hs
      exact hrefused
  | false =>
      rw [Tx.refuseIf_of_false hbroken, breaking] at hs
      rcases hx : x s with ⟨e' | a, s₁⟩
      · rw [hx] at hs
        cases hs
        exact h s _ _ hx
      · rw [hx] at hs
        cases hs

theorem raisesOnly_atomic {S : ε → Prop} (h : Tx.RaisesOnly S x) : Tx.RaisesOnly S (atomic x) := by
  intro s e s' hs
  unfold atomic at hs
  rcases hx : x s with ⟨e' | a, s₁⟩
  · rw [hx] at hs
    cases hs
    exact h s _ _ hx
  · rw [hx] at hs
    cases hs

variable {ω : Type*} {log : ρ → List ω} {P : List ω → Option ε → Prop}

theorem logs_execute (hrefused : P [] (some refused))
    (h : Tx.Logs (fun s : Process σ ρ => log s.locals) P x) :
    Tx.Logs (fun s : Process σ ρ => log s.locals) P (execute refused x) := by
  intro s
  unfold execute
  cases hbroken : s.broken with
  | true =>
      rw [Tx.refuseIf_of_true hbroken]
      exact ⟨[], (List.append_nil _).symm, hrefused⟩
  | false =>
      rw [Tx.refuseIf_of_false hbroken, breaking]
      obtain ⟨t, ht, hP⟩ := h s
      rcases hx : x s with ⟨e | a, s₁⟩ <;> rw [hx] at ht hP <;> exact ⟨t, ht, hP⟩

theorem logs_atomic (h : Tx.Logs (fun s : Process σ ρ => log s.locals) P x) :
    Tx.Logs (fun s : Process σ ρ => log s.locals) P (atomic x) := by
  intro s
  obtain ⟨t, ht, hP⟩ := h s
  unfold atomic
  rcases hx : x s with ⟨e | a, s₁⟩ <;> rw [hx] at ht hP <;> exact ⟨t, ht, hP⟩

/-! ### What stays the same -/

/-- A part of the tables is as it was. -/
def Keeps {β : Type*} (part : σ → β) (s s' : Process σ ρ) : Prop := part s'.tables = part s.tables

instance {β : Type*} (part : σ → β) : IsPreorder (Process σ ρ) (Keeps part) where
  refl _ := rfl
  trans _ _ _ h h' := h'.trans h

variable {β : Type*} {part : σ → β}

theorem keeps_write {f : σ → σ} (h : ∀ t, part (f t) = part t) :
    Tx.Respects (Keeps part) (write f : Tx ε (Process σ ρ) PUnit) := fun s => h s.tables

theorem keeps_assign (f : ρ → ρ) :
    Tx.Respects (Keeps part) (assign f : Tx ε (Process σ ρ) PUnit) := fun _ => rfl

theorem keeps_execute (h : Tx.Respects (Keeps part) x) :
    Tx.Respects (Keeps part) (execute refused x) := by
  refine Tx.respects_refuseIf fun s => ?_
  have hs := h s
  rw [breaking]
  rcases hx : x s with ⟨e | a, s₁⟩ <;> rw [hx] at hs <;> exact hs

theorem keeps_atomic (h : Tx.Respects (Keeps part) x) : Tx.Respects (Keeps part) (atomic x) := by
  intro s
  have hs := h s
  unfold atomic
  rcases hx : x s with ⟨e | a, s₁⟩
  · rfl
  · rw [hx] at hs
    dsimp only
    cases hbroken : s₁.broken with
    | false => exact hs
    | true => rfl

/-- A part of the variables is as it was. -/
def Leaves {γ : Type*} (part : ρ → γ) (s s' : Process σ ρ) : Prop := part s'.locals = part s.locals

instance {γ : Type*} (part : ρ → γ) : IsPreorder (Process σ ρ) (Leaves part) where
  refl _ := rfl
  trans _ _ _ h h' := h'.trans h

variable {γ : Type*} {vars : ρ → γ}

theorem leaves_write (f : σ → σ) :
    Tx.Respects (Leaves vars) (write f : Tx ε (Process σ ρ) PUnit) := fun _ => rfl

theorem leaves_assign {f : ρ → ρ} (h : ∀ l, vars (f l) = vars l) :
    Tx.Respects (Leaves vars) (assign f : Tx ε (Process σ ρ) PUnit) := fun s => h s.locals

theorem leaves_atomic (h : Tx.Respects (Leaves vars) x) :
    Tx.Respects (Leaves vars) (atomic x) := by
  intro s
  have hs := h s
  unfold atomic
  rcases hx : x s with ⟨e | a, s₁⟩ <;> rw [hx] at hs <;> exact hs

end Rules

end Process

end DcimBackend.Library
