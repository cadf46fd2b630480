import Mathlib.Data.List.Basic
import Mathlib.Data.List.Dedup

/-!
# Conditions on a multi-valued relation

A row of one table may have any number of rows in another.  An object-relational mapper
tests a condition on them by an outer join: each row of the left table appears once for
each of its rows in the other, or once, without one, if it has none, and the condition is
tested on each appearance.  Two calls of `filter` are two joins: `mem_filterJoin` shows
that they may be satisfied by different rows.
-/

namespace DcimBackend.Library

universe u v

variable {α : Type u} {β : Type v}

/-- `LEFT OUTER JOIN`, where `right` gives the rows that belong to one of the left. -/
def leftJoin (right : α → List β) (left : List α) : List (α × Option β) :=
  left.flatMap fun a =>
    match right a with
    | [] => [(a, none)]
    | bs => bs.map fun b => (a, some b)

theorem mem_leftJoin {right : α → List β} {left : List α} {a : α} {o : Option β} :
    (a, o) ∈ leftJoin right left ↔
      a ∈ left ∧ (right a = [] ∧ o = none ∨ ∃ b ∈ right a, o = some b) := by
  have hone : ∀ a' : α, (a, o) ∈ (match right a' with
      | [] => [(a', none)]
      | bs => bs.map fun b => (a', some b)) ↔
        a = a' ∧ (right a' = [] ∧ o = none ∨ ∃ b ∈ right a', o = some b) := by
    intro a'
    cases right a' with
    | nil => simp
    | cons b bs => grind
  unfold leftJoin
  rw [List.mem_flatMap]
  constructor
  · rintro ⟨a', hleft, hmem⟩
    obtain ⟨rfl, hrow⟩ := (hone a').mp hmem
    exact ⟨hleft, hrow⟩
  · rintro ⟨hleft, hrow⟩
    exact ⟨a, hleft, (hone a).mpr ⟨rfl, hrow⟩⟩

/-- `filter` with a condition on the joined row: the rows of the left table, once for each
appearance that satisfies it. -/
def filterJoin (right : α → List β) (condition : α → Option β → Bool) (left : List α) : List α :=
  ((leftJoin right left).filter fun row => condition row.1 row.2).map Prod.fst

theorem mem_filterJoin {right : α → List β} {condition : α → Option β → Bool} {left : List α}
    {a : α} :
    a ∈ filterJoin right condition left ↔
      a ∈ left ∧
        (right a = [] ∧ condition a none ∨ ∃ b ∈ right a, condition a (some b)) := by
  unfold filterJoin
  rw [List.mem_map]
  constructor
  · rintro ⟨⟨a', o⟩, hmem, rfl⟩
    obtain ⟨hjoin, hcondition⟩ := List.mem_filter.mp hmem
    obtain ⟨hleft, ⟨hnil, rfl⟩ | ⟨b, hb, rfl⟩⟩ := mem_leftJoin.mp hjoin
    · exact ⟨hleft, Or.inl ⟨hnil, hcondition⟩⟩
    · exact ⟨hleft, Or.inr ⟨b, hb, hcondition⟩⟩
  · rintro ⟨hleft, ⟨hnil, hcondition⟩ | ⟨b, hb, hcondition⟩⟩
    · have hjoin := mem_leftJoin.mpr ⟨hleft, Or.inl ⟨hnil, rfl⟩⟩
      exact ⟨(a, none), List.mem_filter.mpr ⟨hjoin, hcondition⟩, rfl⟩
    · have hjoin := mem_leftJoin.mpr ⟨hleft, Or.inr ⟨b, hb, rfl⟩⟩
      exact ⟨(a, some b), List.mem_filter.mpr ⟨hjoin, hcondition⟩, rfl⟩

end DcimBackend.Library
