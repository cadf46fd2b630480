import DcimBackend.Library.Table
import DcimBackend.Library.Transaction
import Mathlib.Data.List.Forall2

/-!
# Twins

Relational rules for two computations that run on two databases: from related states, either both
succeed with related results or both raise the same exception, and the states they leave are
related again.  The rules follow the computation; `twin_serve` is the one for a server that answers
requests, where an exception is an answer and the next request is served nevertheless.

With the relation of what an observer sees of a state, and equality of the results, this is
noninterference.
-/

namespace DcimBackend.Library

universe u v w

variable {ε : Type u}

/-- Two outcomes: related results, or the same exception. -/
inductive Alike {α β : Type w} (R : α → β → Prop) : Except ε α → Except ε β → Prop
  | ok {a : α} {b : β} (h : R a b) : Alike R (.ok a) (.ok b)
  | error (e : ε) : Alike R (.error e) (.error e)

theorem alike_refl {α : Type w} (x : Except ε α) : Alike Eq x x := by
  cases x with
  | ok a => exact .ok rfl
  | error e => exact .error e

theorem eq_of_alike {α : Type w} {x y : Except ε α} (h : Alike Eq x y) : x = y := by
  cases h with
  | ok hab => rw [hab]
  | error => rfl

namespace Tx

variable {σ τ : Type v} {α β γ δ : Type w}

/-- From related states, two computations have related outcomes and leave related states. -/
def Twin (S : σ → τ → Prop) (R : α → β → Prop) (x : Tx ε σ α) (y : Tx ε τ β) : Prop :=
  ∀ s t, S s t → Alike R (x s).1 (y t).1 ∧ S (x s).2 (y t).2

variable {S : σ → τ → Prop} {R : α → β → Prop} {Q : γ → δ → Prop}

theorem twin_pure {a : α} {b : β} (h : R a b) :
    Twin S R (pure a : Tx ε σ α) (pure b : Tx ε τ β) := fun _ _ hst => ⟨.ok h, hst⟩

theorem twin_read {f : σ → α} {g : τ → β} (h : ∀ s t, S s t → R (f s) (g t)) :
    Twin S R (read f : Tx ε σ α) (read g : Tx ε τ β) := fun s t hst => ⟨.ok (h s t hst), hst⟩

theorem twin_lift {x : Except ε α} {y : Except ε β} (h : Alike R x y) :
    Twin S R (lift x : Tx ε σ α) (lift y : Tx ε τ β) := fun _ _ hst => ⟨h, hst⟩

theorem twin_modify {f : σ → σ} {g : τ → τ} (h : ∀ s t, S s t → S (f s) (g t)) :
    Twin S Eq (modify f : Tx ε σ PUnit) (modify g : Tx ε τ PUnit) :=
  fun s t hst => ⟨.ok rfl, h s t hst⟩

/-- The rule for a sequence. -/
theorem twin_bind {x : Tx ε σ α} {y : Tx ε τ β} {f : α → Tx ε σ γ} {g : β → Tx ε τ δ}
    (hx : Twin S R x y) (hf : ∀ a b, R a b → Twin S Q (f a) (g b)) :
    Twin S Q (x >>= f) (y >>= g) := by
  intro s t hst
  obtain ⟨hresult, hstate⟩ := hx s t hst
  rw [bind_apply, bind_apply]
  rcases hxs : x s with ⟨xr, s'⟩
  rcases hyt : y t with ⟨yr, t'⟩
  rw [hxs, hyt] at hresult hstate
  cases hresult with
  | ok hab => exact hf _ _ hab s' t' hstate
  | error e => exact ⟨.error e, hstate⟩

theorem twin_map {x : Tx ε σ α} {y : Tx ε τ β} {f : α → γ} {g : β → δ} (hx : Twin S R x y)
    (hfg : ∀ a b, R a b → Q (f a) (g b)) : Twin S Q (f <$> x) (g <$> y) :=
  twin_bind hx fun a b hab => twin_pure (hfg a b hab)

end Tx

/-! ### Tables -/

section Lists

variable {ρ : Type*} {R : ρ → ρ → Prop} {p q : ρ → Bool} (hpq : ∀ a b, R a b → p a = q b)
  {xs ys : List ρ} (h : List.Forall₂ R xs ys)

include hpq h

theorem forall₂_filter : List.Forall₂ R (xs.filter p) (ys.filter q) := by
  induction h with
  | nil => exact .nil
  | @cons a b _ _ hab _ ih =>
      rw [List.filter_cons, List.filter_cons, hpq a b hab]
      split
      · exact .cons hab ih
      · exact ih

theorem rel_find? : Option.Rel R (xs.find? p) (ys.find? q) := by
  induction h with
  | nil => exact .none
  | @cons a b _ _ hab _ ih =>
      rw [List.find?_cons, List.find?_cons, hpq a b hab]
      split
      · exact .some hab
      · exact ih

end Lists

section Tables

variable {ρ : Type*} [Keyed ρ] {R : ρ → ρ → Prop}

/-- Two tables whose rows are related one by one. -/
structure TwinTables (R : ρ → ρ → Prop) (t t' : Table ρ) : Prop where
  rows : List.Forall₂ R t.rows t'.rows
  nextPk : t.nextPk = t'.nextPk

variable (hpk : ∀ a b, R a b → pk a = pk b) {t t' : Table ρ}

include hpk

theorem TwinTables.find (h : TwinTables R t t') (id : ℕ) :
    Option.Rel R (t.find id) (t'.find id) :=
  rel_find? (fun a b hab => by rw [hpk a b hab]) h.rows

/-- The keys in use are the same. -/
theorem exists_pk_iff {xs ys : List ρ} (h : List.Forall₂ R xs ys) {key : ℕ} :
    (∃ old ∈ xs, pk old = key) ↔ ∃ old ∈ ys, pk old = key := by
  induction h with
  | nil => simp
  | @cons a b _ _ hab _ ih => simp [hpk a b hab, ih]

theorem TwinTables.save (h : TwinTables R t t') {row row' : ρ} (hrow : R row row') :
    TwinTables R (t.save row) (t'.save row') := by
  refine ⟨?_, ?_⟩
  · unfold Table.save
    dsimp only
    rw [← hpk row row' hrow]
    by_cases hex : ∃ old ∈ t.rows, pk old = pk row
    · rw [if_pos hex, if_pos ((exists_pk_iff hpk h.rows).mp hex), List.forall₂_map_left_iff,
        List.forall₂_map_right_iff]
      refine h.rows.imp fun a b hab => ?_
      rw [hpk a b hab]
      split
      · exact hrow
      · exact hab
    · rw [if_neg hex, if_neg (mt (exists_pk_iff hpk h.rows).mpr hex)]
      exact List.rel_append h.rows (.cons hrow .nil)
  · show max t.nextPk (pk row + 1) = max t'.nextPk (pk row' + 1)
    rw [h.nextPk, hpk row row' hrow]

omit hpk in
theorem TwinTables.filter (h : TwinTables R t t') {p q : ρ → Bool}
    (hpq : ∀ a b, R a b → p a = q b) : TwinTables R (t.filter p) (t'.filter q) :=
  ⟨forall₂_filter hpq h.rows, h.nextPk⟩

end Tables

/-! ### A server -/

section Serve

variable {σ τ : Type v} {α ρ : Type w}

/-- The answers to a list of requests, and the state after the last one. -/
def serve (answer : ρ → Tx ε σ α) : List ρ → σ → List (Except ε α) × σ
  | [], s => ([], s)
  | request :: requests, s =>
      let (result, s') := answer request s
      let (results, s'') := serve answer requests s'
      (result :: results, s'')

/-- Related requests to related states get the same answers. -/
theorem twin_serve {S : σ → τ → Prop} {R : ρ → ρ → Prop} {answer : ρ → Tx ε σ α}
    {answer' : ρ → Tx ε τ α}
    (hanswer : ∀ r r', R r r' → Tx.Twin S Eq (answer r) (answer' r')) {rs rs' : List ρ}
    (hrs : List.Forall₂ R rs rs') {s : σ} {t : τ} (hst : S s t) :
    (serve answer rs s).1 = (serve answer' rs' t).1 ∧
      S (serve answer rs s).2 (serve answer' rs' t).2 := by
  induction hrs generalizing s t with
  | nil => exact ⟨rfl, hst⟩
  | cons hr _ ih =>
      obtain ⟨hresult, hstate⟩ := hanswer _ _ hr s t hst
      obtain ⟨hresults, hlast⟩ := ih hstate
      exact ⟨congrArg₂ List.cons (eq_of_alike hresult) hresults, hlast⟩

end Serve

end DcimBackend.Library
