import DcimBackend.Library.Connection
import Mathlib.Data.List.Basic

/-!
# Exceptions

What a computation may raise, and what it does before it raises.  `RaisesOnly S x` says that
every exception of `x` is one of `S`.  `Logs log P x` says that `x` extends a log that the state
carries, and that what it adds is as `P` says of it and of the exception, if there is one.

Both go through a sequence, a handler and a `finally` block part by part.

`Logs` compares the log before with the log after, so it can be said of a computation wherever
that ends.  What is said of the entries is said together with the exception: one that a handler
swallows can be seen in the log only.
-/

namespace DcimBackend.Library

universe u v w

/-- The exception of a result. -/
def exception? {ε : Type u} {α : Type v} : Except ε α → Option ε
  | .ok _ => none
  | .error e => some e

namespace Tx

variable {ε : Type u} {σ : Type v} {α β : Type w}

/-- A `finally` block. -/
def ensure (x : Tx ε σ α) (cleanup : Tx ε σ PUnit) : Tx ε σ α := fun s =>
  match cleanup (x s).2 with
  | (.ok _, s') => ((x s).1, s')
  | (.error e, s') => (.error e, s')

theorem ensure_of_ok {x : Tx ε σ α} {cleanup : Tx ε σ PUnit} {s s' : σ} {u : PUnit}
    (h : cleanup (x s).2 = (.ok u, s')) : ensure x cleanup s = ((x s).1, s') := by
  rw [ensure, h]

/-- Whatever is raised, the state is the one that the `finally` block leaves. -/
theorem ensure_state {x : Tx ε σ α} {cleanup : Tx ε σ PUnit} {s : σ} :
    (ensure x cleanup s).2 = (cleanup (x s).2).2 := by
  unfold ensure
  rcases cleanup (x s).2 with ⟨e | u, s'⟩ <;> rfl

section RaisesOnly

variable {S : ε → Prop}

/-- Every exception is one of `S`. -/
def RaisesOnly (S : ε → Prop) (x : Tx ε σ α) : Prop := ∀ s e s', x s = (.error e, s') → S e

theorem raisesOnly_of_ok {x : Tx ε σ α} (h : ∀ s, ∃ a s', x s = (.ok a, s')) :
    RaisesOnly S x := by
  intro s e s' hx
  obtain ⟨a, s'', ha⟩ := h s
  rw [ha] at hx
  cases hx

theorem raisesOnly_pure (a : α) : RaisesOnly S (pure a : Tx ε σ α) :=
  raisesOnly_of_ok fun s => ⟨a, s, rfl⟩

theorem raisesOnly_modify (f : σ → σ) : RaisesOnly S (modify f : Tx ε σ PUnit) :=
  raisesOnly_of_ok fun s => ⟨⟨⟩, f s, rfl⟩

theorem raisesOnly_read (f : σ → α) : RaisesOnly S (read f : Tx ε σ α) :=
  raisesOnly_of_ok fun s => ⟨f s, s, rfl⟩

theorem raisesOnly_raise {e : ε} (h : S e) : RaisesOnly S (raise e : Tx ε σ α) := by
  intro s e' s' hx
  cases hx
  exact h

theorem raisesOnly_bind {x : Tx ε σ α} {f : α → Tx ε σ β} (hx : RaisesOnly S x)
    (hf : ∀ a, RaisesOnly S (f a)) : RaisesOnly S (x >>= f) := by
  intro s e s' h
  rw [bind_apply] at h
  rcases hs : x s with ⟨e' | a, s₁⟩
  · rw [hs] at h
    cases h
    exact hx s _ _ hs
  · rw [hs] at h
    exact hf a s₁ e s' h

/-- What is raised out of a handled computation is raised by the handler. -/
theorem raisesOnly_handle {x : Tx ε σ α} {handler : ε → Tx ε σ α}
    (h : ∀ e, RaisesOnly S (handler e)) : RaisesOnly S (handle x handler) := by
  intro s e s' hs
  unfold handle at hs
  rcases hx : x s with ⟨e' | a, s₁⟩
  · rw [hx] at hs
    exact h e' s₁ e s' hs
  · rw [hx] at hs
    cases hs

end RaisesOnly

section Returns

variable {V : α → Prop} {W : β → Prop} {S : ε → Prop}

/-- Every result is one of `V`. -/
def Returns (V : α → Prop) (x : Tx ε σ α) : Prop := ∀ s a s', x s = (.ok a, s') → V a

theorem returns_pure {a : α} (h : V a) : Returns V (pure a : Tx ε σ α) := by
  intro s a' s' hs
  cases hs
  exact h

theorem returns_true (x : Tx ε σ α) : Returns (fun _ => True) x := fun _ _ _ _ => trivial

theorem returns_bind {x : Tx ε σ α} {f : α → Tx ε σ β} (hx : Returns V x)
    (hf : ∀ a, V a → Returns W (f a)) : Returns W (x >>= f) := by
  intro s b s'' h
  obtain ⟨a, s', hs, hs'⟩ := bind_eq_ok_iff.mp h
  exact hf a (hx s a s' hs) s' b s'' hs'

/-- Only the last step of a sequence returns. -/
theorem returns_last {x : Tx ε σ α} {f : α → Tx ε σ β} (hf : ∀ a, Returns W (f a)) :
    Returns W (x >>= f) :=
  returns_bind (returns_true x) fun a _ => hf a

/-- The handler returns for the exceptions that there are. -/
theorem returns_handle {x : Tx ε σ α} {handler : ε → Tx ε σ α} (hx : Returns V x)
    (hraises : RaisesOnly S x) (hhandler : ∀ e, S e → Returns V (handler e)) :
    Returns V (handle x handler) := by
  intro s a s' h
  unfold handle at h
  rcases hs : x s with ⟨e | b, s₁⟩
  · rw [hs] at h
    exact hhandler e (hraises s e s₁ hs) s₁ a s' h
  · rw [hs] at h
    cases h
    exact hx s _ _ hs

theorem returns_ensure {x : Tx ε σ α} {cleanup : Tx ε σ PUnit} (hx : Returns V x) :
    Returns V (ensure x cleanup) := by
  intro s a s' h
  unfold ensure at h
  split at h
  · exact hx s a _ (Prod.ext (Prod.mk.inj h).1 rfl)
  · cases (Prod.mk.inj h).1

end Returns

section Logs

variable {ω : Type*} {log : σ → List ω} {P Q R : List ω → Option ε → Prop}

/-- What is added to the log, and the exception, are as `P` says. -/
def Logs (log : σ → List ω) (P : List ω → Option ε → Prop) (x : Tx ε σ α) : Prop :=
  ∀ s, ∃ t, log (x s).2 = log s ++ t ∧ P t (exception? (x s).1)

theorem Logs.mono {x : Tx ε σ α} (h : Logs log P x) (himp : ∀ t e, P t e → Q t e) :
    Logs log Q x := by
  intro s
  obtain ⟨t, ht, hP⟩ := h s
  exact ⟨t, ht, himp t _ hP⟩

theorem logs_pure {a : α} (h : P [] none) : Logs log P (pure a : Tx ε σ α) := by
  intro s
  exact ⟨[], (List.append_nil _).symm, h⟩

theorem logs_read {f : σ → α} (h : P [] none) : Logs log P (read f : Tx ε σ α) := by
  intro s
  exact ⟨[], (List.append_nil _).symm, h⟩

theorem logs_raise {e : ε} (h : P [] (some e)) : Logs log P (raise e : Tx ε σ α) := by
  intro s
  exact ⟨[], (List.append_nil _).symm, h⟩

theorem logs_modify {f : σ → σ} (hf : ∀ s, log (f s) = log s) (h : P [] none) :
    Logs log P (modify f : Tx ε σ PUnit) := by
  intro s
  exact ⟨[], (hf s).trans (List.append_nil _).symm, h⟩

/-- A sequence adds what its parts add. -/
theorem logs_bind {x : Tx ε σ α} {f : α → Tx ε σ β} (hx : Logs log P x)
    (hf : ∀ a, Logs log P (f a)) (hchain : ∀ t t' e, P t none → P t' e → P (t ++ t') e) :
    Logs log P (x >>= f) := by
  intro s
  obtain ⟨t, ht, hP⟩ := hx s
  rw [bind_apply]
  rcases hs : x s with ⟨e | a, s₁⟩
  · rw [hs] at ht hP
    exact ⟨t, ht, hP⟩
  · rw [hs] at ht hP
    obtain ⟨t', ht', hP'⟩ := hf a s₁
    refine ⟨t ++ t', ?_, hchain t t' _ hP hP'⟩
    rw [ht', ht, List.append_assoc]

/-- A handler adds to what the computation has added. -/
theorem logs_handle {x : Tx ε σ α} {handler : ε → Tx ε σ α} (hx : Logs log P x)
    (hhandler : ∀ e, Logs log Q (handler e)) (hok : ∀ t, P t none → R t none)
    (hchain : ∀ t e t' e', P t (some e) → Q t' e' → R (t ++ t') e') :
    Logs log R (handle x handler) := by
  intro s
  obtain ⟨t, ht, hP⟩ := hx s
  unfold handle
  rcases hs : x s with ⟨e | a, s₁⟩
  · rw [hs] at ht hP
    obtain ⟨t', ht', hQ⟩ := hhandler e s₁
    refine ⟨t ++ t', ?_, hchain t e t' _ hP hQ⟩
    rw [ht', ht, List.append_assoc]
  · rw [hs] at ht hP
    exact ⟨t, ht, hok t hP⟩

end Logs

end Tx

end DcimBackend.Library
