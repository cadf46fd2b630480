import Mathlib.Data.List.Basic
import Mathlib.Data.Nat.Notation

/-!
# Leases

A lease is an entry that a process adds under a key if there is none, and that disappears when
its time is over.  Whoever has added it deletes the entry at the end, whether or not it is
still its own.

`Exclusive` says that each key has one holder at most and that nobody's entry stands in for
that of a holder.  Every operation keeps it, except for one: to add an entry where the time of
a holder is over (`Overrun`).

Nothing tells a process that its time is over, so what it holds and what is stored are two parts
of the state.  `Fair` is about one step of one process, and a system that takes only such steps is
exclusive in every state; how a process is scheduled is not part of the library.
-/

namespace DcimBackend.Library

variable {κ : Type*}

/-- An entry, with the process that has added it. -/
structure Lease where
  owner : ℕ
  expiry : ℕ
deriving DecidableEq

/-- The clock, the entries, and the processes that have added one and not deleted it yet, each
with the end of its time. -/
structure Leases (κ : Type*) where
  now : ℕ
  entries : κ → Option Lease
  held : ℕ → κ → Option ℕ

namespace Leases

/-- Nobody has added anything. -/
def start (now : ℕ) : Leases κ where
  now := now
  entries _ := none
  held _ _ := none

/-- The entry of a key, unless its time is over. -/
def live (s : Leases κ) (k : κ) : Option Lease :=
  (s.entries k).filter fun lease => s.now < lease.expiry

/-- The time of a holder is over. -/
def Overrun (s : Leases κ) (p : ℕ) (k : κ) : Prop := ∃ t, s.held p k = some t ∧ t ≤ s.now

/-- Time passes. -/
def advance (s : Leases κ) (d : ℕ) : Leases κ := { s with now := s.now + d }

section Keys

variable [DecidableEq κ]

/-- Leave an entry behind. -/
def forget (s : Leases κ) (p : ℕ) (k : κ) : Leases κ :=
  { s with held := Function.update s.held p (Function.update (s.held p) k none) }

/-- Put an entry in place. -/
def putEntry (s : Leases κ) (p : ℕ) (k : κ) (ttl : ℕ) : Leases κ :=
  { s with entries := Function.update s.entries k (some ⟨p, s.now + ttl⟩) }

/-- Put an entry in place, and hold it. -/
def put (s : Leases κ) (p : ℕ) (k : κ) (ttl : ℕ) : Leases κ :=
  { s.putEntry p k ttl with
    held := Function.update s.held p (Function.update (s.held p) k (some (s.now + ttl))) }

/-- Delete the entry of a key, and hold it no longer. -/
def delete (s : Leases κ) (p : ℕ) (k : κ) : Leases κ :=
  { s.forget p k with entries := Function.update s.entries k none }

end Keys

/-- A key has one holder at most, an entry that can be seen is the holder's, and a holder whose
time is not over has its entry. -/
structure Exclusive (s : Leases κ) : Prop where
  unique : ∀ p q k, (s.held p k).isSome → (s.held q k).isSome → p = q
  owner : ∀ p k lease, (s.held p k).isSome → s.live k = some lease → lease.owner = p
  lasting : ∀ p k t, s.held p k = some t → s.now < t → s.entries k = some ⟨p, t⟩

variable {s : Leases κ} {p q : ℕ} {k : κ} {lease : Lease}

theorem live_eq_some_iff :
    s.live k = some lease ↔ s.entries k = some lease ∧ s.now < lease.expiry := by
  simp [live, Option.filter_eq_some_iff]

theorem exclusive_start (now : ℕ) : (start now : Leases κ).Exclusive where
  unique := by simp [start]
  owner := by simp [start]
  lasting := by simp [start]

/-- Where no entry can be seen and nobody's time is over, nobody holds the key. -/
theorem Exclusive.held_eq_none (h : s.Exclusive) (hfree : s.live k = none)
    (hover : ∀ q, ¬s.Overrun q k) (q : ℕ) : s.held q k = none := by
  cases hheld : s.held q k with
  | none => rfl
  | some t =>
      by_cases ht : s.now < t
      · have hlive : s.live k = some ⟨q, t⟩ :=
          live_eq_some_iff.mpr ⟨h.lasting q k t hheld ht, ht⟩
        rw [hfree] at hlive
        cases hlive
      · exact absurd ⟨t, hheld, Nat.not_lt.mp ht⟩ (hover q)

theorem Exclusive.advance (h : s.Exclusive) (d : ℕ) : (s.advance d).Exclusive where
  unique := h.unique
  owner := by
    intro p k lease hheld hlive
    obtain ⟨hentry, hlt⟩ := live_eq_some_iff.mp hlive
    have hlt' : s.now + d < lease.expiry := hlt
    exact h.owner p k lease hheld (live_eq_some_iff.mpr ⟨hentry, by omega⟩)
  lasting := by
    intro p k t hheld hlt
    have hlt' : s.now + d < t := hlt
    exact h.lasting p k t hheld (by omega)

/-- A step of a process that keeps the locks exclusive, and leaves the other processes what they
hold and their entries. -/
structure Fair (p : ℕ) (s s' : Leases κ) : Prop where
  exclusive : s'.Exclusive
  held : ∀ q, q ≠ p → s'.held q = s.held q
  entries : ∀ k lease, s.live k = some lease → lease.owner ≠ p → s'.live k = some lease

theorem Exclusive.fair_self (h : s.Exclusive) (p : ℕ) : Fair p s s where
  exclusive := h
  held _ _ := rfl
  entries _ _ hlive _ := hlive

/-- Two steps of a process, one after the other. -/
theorem Fair.trans {s' s'' : Leases κ} (h : Fair p s s') (h' : Fair p s' s'') : Fair p s s'' where
  exclusive := h'.exclusive
  held q hq := (h'.held q hq).trans (h.held q hq)
  entries k lease hlive howner := h'.entries k lease (h.entries k lease hlive howner) howner

section Keys

variable [DecidableEq κ] {k' : κ}

theorem held_put {ttl : ℕ} :
    (s.put p k ttl).held q k' = if q = p ∧ k' = k then some (s.now + ttl) else s.held q k' := by
  by_cases hq : q = p
  · subst hq
    by_cases hk : k' = k
    · subst hk
      simp [put]
    · simp [put, hk]
  · simp [put, putEntry, hq]

theorem held_forget :
    (s.forget p k).held q k' = if q = p ∧ k' = k then none else s.held q k' := by
  by_cases hq : q = p
  · subst hq
    by_cases hk : k' = k
    · subst hk
      simp [forget]
    · simp [forget, hk]
  · simp [forget, hq]

theorem held_put_of_ne {ttl : ℕ} (hq : q ≠ p) : (s.put p k ttl).held q = s.held q := by
  simp [put, putEntry, hq]

theorem held_forget_of_ne (hq : q ≠ p) : (s.forget p k).held q = s.held q := by
  simp [forget, hq]

theorem held_forget_of_ne_key (hk : k' ≠ k) : (s.forget p k).held q k' = s.held q k' := by
  rw [held_forget, if_neg fun hqp => hk hqp.2]

theorem held_delete_of_ne_key (hk : k' ≠ k) : (s.delete p k).held q k' = s.held q k' :=
  held_forget_of_ne_key hk

theorem isSome_held_of_forget (hq : ((s.forget p k).held q k').isSome) :
    (s.held q k').isSome := by
  rw [held_forget] at hq
  split at hq
  · cases hq
  · exact hq

theorem entries_putEntry_of_ne {ttl : ℕ} (hk : k' ≠ k) :
    (s.putEntry p k ttl).entries k' = s.entries k' := by
  simp [putEntry, hk]

theorem entries_delete_of_ne (hk : k' ≠ k) : (s.delete p k).entries k' = s.entries k' := by
  simp [delete, hk]

/-- Leaving an entry behind, at any time. -/
theorem Exclusive.forget (h : s.Exclusive) (p : ℕ) (k : κ) : (s.forget p k).Exclusive where
  unique := by
    intro q r k' hq hr
    exact h.unique q r k' (isSome_held_of_forget hq) (isSome_held_of_forget hr)
  owner := by
    intro q k' lease hq hlive
    exact h.owner q k' lease (isSome_held_of_forget hq) hlive
  lasting := by
    intro q k' t hq hlt
    rw [held_forget] at hq
    split at hq
    · cases hq
    · exact h.lasting q k' t hq hlt

/-- An entry that nobody holds, under a free key whose holders are all in time. -/
theorem Exclusive.putEntry (h : s.Exclusive) (hfree : s.live k = none)
    (hover : ∀ q, ¬s.Overrun q k) (p ttl : ℕ) : (s.putEntry p k ttl).Exclusive where
  unique := h.unique
  owner := by
    intro q k' lease hheld hlive
    have hne : k' ≠ k := by
      rintro rfl
      have hnone := h.held_eq_none hfree hover q
      rw [show (s.putEntry p k' ttl).held q k' = s.held q k' from rfl, hnone] at hheld
      cases hheld
    obtain ⟨hentry, hlt⟩ := live_eq_some_iff.mp hlive
    rw [entries_putEntry_of_ne hne] at hentry
    exact h.owner q k' lease hheld (live_eq_some_iff.mpr ⟨hentry, hlt⟩)
  lasting := by
    intro q k' t hheld hlt
    have hne : k' ≠ k := by
      rintro rfl
      have hnone := h.held_eq_none hfree hover q
      rw [show (s.putEntry p k' ttl).held q k' = s.held q k' from rfl, hnone] at hheld
      cases hheld
    rw [entries_putEntry_of_ne hne]
    exact h.lasting q k' t hheld hlt

/-- **Adding** under a free key whose holders are all in time. -/
theorem Exclusive.put (h : s.Exclusive) (hfree : s.live k = none)
    (hover : ∀ q, ¬s.Overrun q k) (p ttl : ℕ) : (s.put p k ttl).Exclusive := by
  have hnone := h.held_eq_none hfree hover
  have hput := h.putEntry hfree hover p ttl
  refine ⟨?_, ?_, ?_⟩
  · intro q r k' hq hr
    rw [held_put] at hq hr
    split at hq <;> split at hr
    · rename_i hqp hrp
      rw [hqp.1, hrp.1]
    · rename_i hqp hrp
      rw [hqp.2, hnone r] at hr
      cases hr
    · rename_i hqp hrp
      rw [hrp.2, hnone q] at hq
      cases hq
    · exact h.unique q r k' hq hr
  · intro q k' lease hq hlive
    have hlive' : (s.putEntry p k ttl).live k' = some lease := hlive
    rw [held_put] at hq
    split at hq
    · rename_i hqp
      obtain ⟨rfl, rfl⟩ := hqp
      obtain ⟨hentry, -⟩ := live_eq_some_iff.mp hlive'
      rw [show (s.putEntry q k' ttl).entries k' = some ⟨q, s.now + ttl⟩ by
        simp [Leases.putEntry]] at hentry
      rw [← Option.some.inj hentry]
    · exact hput.owner q k' lease hq hlive'
  · intro q k' t hq hlt
    rw [held_put] at hq
    split at hq
    · rename_i hqp
      obtain ⟨rfl, rfl⟩ := hqp
      rw [← Option.some.inj hq]
      simp [Leases.put, Leases.putEntry]
    · exact hput.lasting q k' t hq hlt

/-- **Deleting**, by the holder. -/
theorem Exclusive.delete (h : s.Exclusive) (hp : (s.held p k).isSome) :
    (s.delete p k).Exclusive := by
  have hforget := h.forget p k
  -- whoever still holds a key holds another one
  have hother : ∀ q k', ((s.forget p k).held q k').isSome → k' ≠ k := by
    intro q k' hq
    rintro rfl
    have hqp : q = p := h.unique q p k' (isSome_held_of_forget hq) hp
    rw [held_forget, if_pos ⟨hqp, rfl⟩] at hq
    cases hq
  refine ⟨hforget.unique, ?_, ?_⟩
  · intro q k' lease hq hlive
    obtain ⟨hentry, hlt⟩ := live_eq_some_iff.mp hlive
    rw [entries_delete_of_ne (hother q k' hq)] at hentry
    exact hforget.owner q k' lease hq (live_eq_some_iff.mpr ⟨hentry, hlt⟩)
  · intro q k' t hq hlt
    have hq' : (s.forget p k).held q k' = some t := hq
    have hne : k' ≠ k := hother q k' (Option.isSome_iff_exists.mpr ⟨t, hq'⟩)
    rw [entries_delete_of_ne hne]
    exact hforget.lasting q k' t hq' hlt

theorem Exclusive.fair_forget (h : s.Exclusive) (p : ℕ) (k : κ) : Fair p s (s.forget p k) where
  exclusive := h.forget p k
  held _ hq := held_forget_of_ne hq
  entries _ _ hlive _ := hlive

theorem live_putEntry_of_free {ttl : ℕ} (hfree : s.live k = none)
    (hlive : s.live k' = some lease) : (s.putEntry p k ttl).live k' = some lease := by
  have hne : k' ≠ k := by
    rintro rfl
    rw [hfree] at hlive
    cases hlive
  obtain ⟨hentry, hlt⟩ := live_eq_some_iff.mp hlive
  exact live_eq_some_iff.mpr ⟨(entries_putEntry_of_ne hne).trans hentry, hlt⟩

theorem Exclusive.fair_putEntry (h : s.Exclusive) (hfree : s.live k = none)
    (hover : ∀ q, ¬s.Overrun q k) (p ttl : ℕ) : Fair p s (s.putEntry p k ttl) where
  exclusive := h.putEntry hfree hover p ttl
  held _ _ := rfl
  entries _ _ hlive _ := live_putEntry_of_free hfree hlive

theorem Exclusive.fair_put (h : s.Exclusive) (hfree : s.live k = none)
    (hover : ∀ q, ¬s.Overrun q k) (p ttl : ℕ) : Fair p s (s.put p k ttl) where
  exclusive := h.put hfree hover p ttl
  held _ hq := held_put_of_ne hq
  entries k' lease hlive _ := by
    have hkept : (s.putEntry p k ttl).live k' = some lease := live_putEntry_of_free hfree hlive
    exact hkept

theorem Exclusive.fair_delete (h : s.Exclusive) (hp : (s.held p k).isSome) :
    Fair p s (s.delete p k) where
  exclusive := h.delete hp
  held _ hq := held_forget_of_ne hq
  entries k' lease hlive howner := by
    have hne : k' ≠ k := by
      rintro rfl
      exact howner (h.owner p k' lease hp hlive)
    obtain ⟨hentry, hlt⟩ := live_eq_some_iff.mp hlive
    exact live_eq_some_iff.mpr ⟨(entries_delete_of_ne hne).trans hentry, hlt⟩

end Keys

end Leases

end DcimBackend.Library
