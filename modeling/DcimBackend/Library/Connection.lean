import DcimBackend.Library.Transaction

/-!
# Connections with nested transactions

`Tx.atomic` is a transaction on its own.  A connection is finer: its blocks nest, a
statement that fails inside a block breaks the block until it is left, and other
connections commit in between.

A block that is left without an error, and unbroken, keeps its writes.  Every other way
out is a rollback, to the savepoint at which the block was entered.  What others have
committed since then stays, so a commit of another connection writes the savepoints too.
-/

namespace DcimBackend.Library

universe u v w

/-- A connection, with the data that it sees. -/
structure Connection (σ : Type v) where
  now : σ
  /-- What a rollback of each open block would leave, innermost first. -/
  savepoints : List σ := []
  /-- A statement of the innermost block has failed. -/
  broken : Bool := false

namespace Connection

variable {ε : Type u} {σ : Type v} {α β : Type w}

/-- The connection after another one has committed. -/
def after (s : Connection σ) (f : σ → σ) : Connection σ :=
  { s with now := f s.now, savepoints := s.savepoints.map f }

/-- Another connection commits. -/
def outside (f : σ → σ) : Tx ε (Connection σ) PUnit := Tx.modify fun s => s.after f

/-- What breaks the block that it is in if it fails. -/
def breaking (x : Tx ε σ α) : Tx ε (Connection σ) α := fun s =>
  match x s.now with
  | (.ok a, now) => (.ok a, { s with now := now })
  | (.error e, _) => (.error e, { s with broken := !s.savepoints.isEmpty })

/-- A statement.  A broken block refuses it, and inside a block its failure breaks the
block. -/
def execute (refused : ε) (x : Tx ε σ α) : Tx ε (Connection σ) α :=
  Tx.refuseIf broken refused (breaking x)

/-- The connection inside a new block. -/
def enter (s : Connection σ) : Connection σ := { s with savepoints := s.now :: s.savepoints }

/-- The connection after its innermost block, without a rollback. -/
def release (s : Connection σ) : Connection σ := { s with savepoints := s.savepoints.tail }

/-- The connection after a rollback of its innermost block. -/
def rollback (s : Connection σ) : Connection σ where
  now := s.savepoints.headD s.now
  savepoints := s.savepoints.tail

/-- A nested transaction. -/
def atomic (x : Tx ε (Connection σ) α) : Tx ε (Connection σ) α := fun s =>
  match x s.enter with
  | (.ok a, s') => (.ok a, { (if s'.broken then s'.rollback else s'.release) with
      broken := s.broken })
  | (.error e, s') => (.error e, { s'.rollback with broken := s.broken })

section Rules

variable {refused : ε} {x : Tx ε σ α} {s s' : Connection σ} {now : σ} {a : α} {e : ε}

@[simp] theorem outside_apply (f : σ → σ) (s : Connection σ) :
    (outside f : Tx ε (Connection σ) PUnit) s = (.ok ⟨⟩, s.after f) := rfl

theorem execute_of_ok (hs : s.broken = false) (h : x s.now = (.ok a, now)) :
    execute refused x s = (.ok a, { s with now := now }) := by
  rw [execute, Tx.refuseIf_of_false hs, breaking, h]

theorem execute_of_error (hs : s.broken = false) (h : x s.now = (.error e, now)) :
    execute refused x s = (.error e, { s with broken := !s.savepoints.isEmpty }) := by
  rw [execute, Tx.refuseIf_of_false hs, breaking, h]

/-- A block that is left unbroken keeps its writes. -/
theorem atomic_of_ok {y : Tx ε (Connection σ) α} (h : y s.enter = (.ok a, s'))
    (hs' : s'.broken = false) :
    atomic y s = (.ok a, { s'.release with broken := s.broken }) := by
  rw [atomic, h]
  simp only [hs', Bool.false_eq_true, if_false]

/-- A block that is left by an error is rolled back. -/
theorem atomic_of_error {y : Tx ε (Connection σ) α} (h : y s.enter = (.error e, s')) :
    atomic y s = (.error e, { s'.rollback with broken := s.broken }) := by
  rw [atomic, h]

end Rules

end Connection

namespace Tx

variable {ε : Type u} {σ : Type v} {α : Type w}

/-- Go on after an error. -/
def handle (x : Tx ε σ α) (handler : ε → Tx ε σ α) : Tx ε σ α := fun s =>
  match x s with
  | (.ok a, s') => (.ok a, s')
  | (.error e, s') => handler e s'

theorem handle_of_ok {x : Tx ε σ α} {handler : ε → Tx ε σ α} {s s' : σ} {a : α}
    (h : x s = (.ok a, s')) : handle x handler s = (.ok a, s') := by
  rw [handle, h]

theorem handle_of_error {x : Tx ε σ α} {handler : ε → Tx ε σ α} {s s' : σ} {e : ε}
    (h : x s = (.error e, s')) : handle x handler s = handler e s' := by
  rw [handle, h]

theorem respects_handle {R : σ → σ → Prop} [IsPreorder σ R] {x : Tx ε σ α}
    {handler : ε → Tx ε σ α} (hx : Respects R x) (hhandler : ∀ e, Respects R (handler e)) :
    Respects R (handle x handler) := by
  intro s
  unfold handle
  rcases h : x s with ⟨e | a, s'⟩
  · exact trans_of R (hx.of_eq h) (hhandler e s')
  · exact hx.of_eq h

/-- A handler that only returns leaves the state of the error. -/
theorem handle_state {x : Tx ε σ α} {a : α} {s : σ} :
    (handle x (fun _ => pure a) s).2 = (x s).2 := by
  unfold handle
  rcases x s with ⟨e | b, s'⟩ <;> rfl

end Tx

end DcimBackend.Library
