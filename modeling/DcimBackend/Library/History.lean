import Mathlib.Data.List.Chain

/-!
# Histories

A history is a list of entries, each of which tells where it started and where it led.  It is
faithful to a state if the first entry starts where nothing was, each later one where the one
before it has led, and the last one leads to the state.

`Leads` says the same by recursion, between any two places, and composes: what is appended
to a history leads on from where it has led.  `isHistory_iff_leads` connects the two.
-/

namespace DcimBackend.Library

universe u v

variable {ε : Type u} {σ : Type v} (source target : ε → σ)

/-- The entries lead from one place to another. -/
def Leads : σ → List ε → σ → Prop
  | a, [], b => a = b
  | a, x :: xs, b => source x = a ∧ Leads (target x) xs b

/-- The entries are a history from `a` to `b`. -/
structure IsHistory (a : σ) (xs : List ε) (b : σ) : Prop where
  first : ∃ x ∈ xs.head?, source x = a
  linked : xs.IsChain fun x y => source y = target x
  last : ∃ x ∈ xs.getLast?, target x = b

variable {source target} {a b c : σ} {x : ε} {xs ys : List ε}

@[simp] theorem leads_nil : Leads source target a [] b ↔ a = b := Iff.rfl

@[simp] theorem leads_cons :
    Leads source target a (x :: xs) b ↔ source x = a ∧ Leads source target (target x) xs b :=
  Iff.rfl

/-- Two entries in a row. -/
theorem leads_append :
    Leads source target a (xs ++ ys) c ↔
      ∃ b, Leads source target a xs b ∧ Leads source target b ys c := by
  induction xs generalizing a with
  | nil => simp
  | cons x xs ih => simp only [List.cons_append, leads_cons, ih, and_assoc, exists_and_left]

/-- Entries lead to one place only. -/
theorem Leads.unique (h : Leads source target a xs b) (h' : Leads source target a xs c) :
    b = c := by
  induction xs generalizing a with
  | nil => exact h.symm.trans h'
  | cons x xs ih => exact ih h.2 h'.2

/-- What is appended to entries that lead somewhere leads on from there. -/
theorem Leads.append_iff (h : Leads source target a xs b) :
    Leads source target a (xs ++ ys) c ↔ Leads source target b ys c := by
  rw [leads_append]
  constructor
  · rintro ⟨b', hxs, hys⟩
    rwa [h.unique hxs]
  · intro hys
    exact ⟨b, h, hys⟩

/-- **A history** is what leads from one place to another and is not empty. -/
theorem isHistory_iff_leads :
    IsHistory source target a xs b ↔ xs ≠ [] ∧ Leads source target a xs b := by
  cases xs with
  | nil =>
      refine iff_of_false (fun h => ?_) fun h => h.1 rfl
      obtain ⟨x, hx, -⟩ := h.first
      cases hx
  | cons x xs =>
      induction xs generalizing a x with
      | nil =>
          constructor
          · rintro ⟨⟨y, hy, hfirst⟩, -, ⟨z, hz, hlast⟩⟩
            obtain rfl : x = y := Option.some.inj hy
            obtain rfl : x = z := Option.some.inj hz
            exact ⟨List.cons_ne_nil _ _, hfirst, hlast⟩
          · rintro ⟨-, hfirst, hlast⟩
            exact ⟨⟨x, rfl, hfirst⟩, List.isChain_singleton x, ⟨x, rfl, hlast⟩⟩
      | cons y ys ih =>
          have htail := @ih (target x) y
          constructor
          · rintro ⟨⟨z, hz, hfirst⟩, hlinked, hlast⟩
            obtain rfl : x = z := Option.some.inj hz
            obtain ⟨hnext, hlinked⟩ := List.isChain_cons_cons.mp hlinked
            refine ⟨List.cons_ne_nil _ _, hfirst, (htail.mp ⟨⟨y, rfl, hnext⟩, hlinked, ?_⟩).2⟩
            rwa [List.getLast?_cons_cons] at hlast
          · rintro ⟨-, hfirst, hleads⟩
            obtain ⟨⟨z, hz, hnext⟩, hlinked, hlast⟩ := htail.mpr ⟨List.cons_ne_nil _ _, hleads⟩
            obtain rfl : y = z := Option.some.inj hz
            refine ⟨⟨x, rfl, hfirst⟩, List.isChain_cons_cons.mpr ⟨hnext, hlinked⟩, ?_⟩
            rwa [List.getLast?_cons_cons]

end DcimBackend.Library
