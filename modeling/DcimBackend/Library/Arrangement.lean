import DcimBackend.Library.Cutoff
import DcimBackend.Library.Tally
import Mathlib.Algebra.BigOperators.Group.List.Basic

/-!
# Arrangements

What a query promises that orders its rows: it returns all of them, sorted.  The order of rows that
tie is not promised, so an `Arrangement` is any function that permutes and sorts.

`counts` are the rows of a `GROUP BY` with `COUNT`, arranged by the value of the group, which a
program turns into a dictionary.

A result about a parameter of this type is one about every order that the database may choose.
`ofLe` builds an arrangement from any total order, so there is one to be put in its place.
-/

namespace DcimBackend.Library

variable {α κ : Type*}

/-- A way to order the elements of a list. -/
structure Arrangement (r : α → α → Prop) where
  arrange : List α → List α
  perm : ∀ xs, (arrange xs).Perm xs
  sorted : ∀ xs, (arrange xs).Pairwise r

namespace Arrangement

/-- The stable sort by a total order. -/
def ofLe (le : α → α → Bool) (htrans : ∀ a b c, le a b = true → le b c = true → le a c = true)
    (htotal : ∀ a b, (le a b || le b a) = true) : Arrangement fun a b => le a b = true where
  arrange xs := xs.mergeSort le
  perm xs := List.mergeSort_perm xs le
  sorted := List.pairwise_mergeSort htrans htotal

variable {r : α → α → Prop} (order : Arrangement r) {xs : List α} {n : ℕ} {a : α}

@[simp] theorem mem_arrange : a ∈ order.arrange xs ↔ a ∈ xs := (order.perm xs).mem_iff

@[simp] theorem length_arrange : (order.arrange xs).length = xs.length := (order.perm xs).length_eq

/-- An element that is cut off comes after a full list of others. -/
theorem take_of_notMem (ha : a ∈ xs) (hcut : a ∉ (order.arrange xs).take n) :
    ((order.arrange xs).take n).length = n ∧ ∀ x ∈ (order.arrange xs).take n, r x a :=
  le_of_mem_take_of_notMem (order.sorted xs) (order.mem_arrange.mpr ha) hcut

end Arrangement

/-! ### Sums that are cut off -/

section Sums

variable {numbers : List ℕ} {limit : ℕ}

theorem sum_take_add_sum_drop :
    (numbers.take limit).sum + (numbers.drop limit).sum = numbers.sum := by
  rw [← List.sum_append, List.take_append_drop]

theorem sum_take_le : (numbers.take limit).sum ≤ numbers.sum := by
  have hsplit := @sum_take_add_sum_drop numbers limit
  omega

/-- The first numbers of a list without zeros add up to the whole only if they are the whole. -/
theorem sum_take_eq_iff (hpos : ∀ n ∈ numbers, 0 < n) :
    (numbers.take limit).sum = numbers.sum ↔ numbers.length ≤ limit := by
  have hsplit := @sum_take_add_sum_drop numbers limit
  rw [← List.drop_eq_nil_iff]
  cases hdrop : numbers.drop limit with
  | nil =>
      rw [hdrop, List.sum_nil, add_zero] at hsplit
      exact iff_of_true hsplit rfl
  | cons n rest =>
      have hn : 0 < n := hpos n (List.mem_of_mem_drop (hdrop ▸ List.mem_cons_self))
      rw [hdrop, List.sum_cons] at hsplit
      refine iff_of_false (fun heq => ?_) (List.cons_ne_nil n rest)
      omega

end Sums

/-! ### Counts as a dictionary -/

section Counts

variable [DecidableEq κ] {r : κ → κ → Prop} (order : Arrangement r) (key : α → κ) (xs : List α)

/-- The groups in their order, each with the number of its elements. -/
def counts : List (κ × ℕ) :=
  (order.arrange (groups key xs)).map fun value => (value, xs.countP fun x => key x = value)

/-- `d.get(value, 0)`. -/
def countOf (d : List (κ × ℕ)) (value : κ) : ℕ := (d.lookup value).getD 0

/-- No value has two counts. -/
theorem nodup_counts : ((counts order key xs).map Prod.fst).Nodup := by
  rw [counts, List.map_map]
  show ((order.arrange (groups key xs)).map id).Nodup
  rw [List.map_id]
  exact (order.perm _).nodup_iff.mpr (nodup_groups key xs)

/-- The groups are in the order. -/
theorem sorted_counts : (counts order key xs).Pairwise fun a b => r a.1 b.1 :=
  List.pairwise_map.mpr (order.sorted _)

/-- No count is zero. -/
theorem counts_pos {entry : κ × ℕ} (h : entry ∈ counts order key xs) : 0 < entry.2 := by
  obtain ⟨value, hvalue, rfl⟩ := List.mem_map.mp h
  exact countP_pos_of_mem_groups key xs (order.mem_arrange.mp hvalue)

/-- The counts add up to the length. -/
theorem sum_counts : ((counts order key xs).map Prod.snd).sum = xs.length := by
  rw [counts, List.map_map]
  exact ((order.perm _).map _).sum_eq.trans (sum_groups key xs)

theorem lookup_map_pair {values : List κ} {f : κ → ℕ} {value : κ} :
    (values.map fun v => (v, f v)).lookup value =
      if value ∈ values then some (f value) else none := by
  induction values with
  | nil => rfl
  | cons v values ih =>
      rw [List.map_cons, List.lookup_cons, ih]
      by_cases heq : value = v
      · simp [heq]
      · have hne : (value == v) = false := by simpa using heq
        simp [hne, heq]

/-- What the dictionary says of a value is how many elements have it, even if none has. -/
@[simp] theorem countOf_counts (value : κ) :
    countOf (counts order key xs) value = xs.countP fun x => key x = value := by
  rw [countOf, counts, lookup_map_pair]
  split
  · rfl
  · rename_i hnot
    rw [order.mem_arrange, mem_groups] at hnot
    rw [Option.getD_none, eq_comm, List.countP_eq_zero]
    intro x hx heq
    exact hnot ⟨x, hx, of_decide_eq_true heq⟩

end Counts

end DcimBackend.Library
