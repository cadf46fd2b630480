import Mathlib.Data.List.Induction
import Mathlib.Data.List.Nodup

/-!
# One value a key

A loop over a list that keeps one value a key in a dictionary.  The first value of a key is kept,
and a later one takes its place only if it `replaces` what is there.

`lookup_chosen` looks at one key: what is kept for it is the last value that replaces, and the
first value where none does.
-/

namespace DcimBackend.Library

universe u v

variable {κ : Type u} {ν : Type v} [DecidableEq κ]

/-- `d[k] = v`: a key keeps its place, and a new one comes last. -/
def assign : List (κ × ν) → κ → ν → List (κ × ν)
  | [], k, v => [(k, v)]
  | (l, w) :: d, k, v => if l = k then (k, v) :: d else (l, w) :: assign d k v

section Assign

variable {d : List (κ × ν)} {k l : κ} {v : ν}

theorem lookup_cons_of_ne {w : ν} (h : l ≠ k) : List.lookup l ((k, w) :: d) = d.lookup l := by
  rw [List.lookup_cons, beq_eq_false_iff_ne.mpr h]

theorem lookup_assign : (assign d k v).lookup l = if l = k then some v else d.lookup l := by
  induction d with
  | nil =>
      by_cases hl : l = k
      · simp [assign, hl]
      · rw [assign, lookup_cons_of_ne hl, if_neg hl]
  | cons entry d ih =>
      obtain ⟨j, w⟩ := entry
      rw [assign]
      split
      · rename_i hj
        subst hj
        by_cases hl : l = j
        · simp [hl]
        · rw [lookup_cons_of_ne hl, lookup_cons_of_ne hl, if_neg hl]
      · rename_i hj
        by_cases hl : l = j
        · subst hl
          simp [hj]
        · rw [lookup_cons_of_ne hl, lookup_cons_of_ne hl, ih]

/-- No key comes twice. -/
theorem nodup_assign (h : (d.map Prod.fst).Nodup) : ((assign d k v).map Prod.fst).Nodup := by
  have hmem : ∀ d : List (κ × ν), ∀ l, l ∈ (assign d k v).map Prod.fst →
      l = k ∨ l ∈ d.map Prod.fst := by
    intro d
    induction d with
    | nil => simp [assign]
    | cons entry d ih =>
        intro l hl
        rw [assign] at hl
        split at hl
        · rename_i hj
          simpa [hj] using hl
        · rw [List.map_cons, List.mem_cons] at hl
          rcases hl with rfl | hl
          · simp
          · rcases ih l hl with rfl | hold
            · exact .inl rfl
            · exact .inr (List.mem_cons_of_mem _ hold)
  induction d with
  | nil => simp [assign]
  | cons entry d ih =>
      rw [List.map_cons, List.nodup_cons] at h
      rw [assign]
      split
      · rename_i hj
        rw [List.map_cons, List.nodup_cons, ← hj]
        exact h
      · rename_i hj
        rw [List.map_cons, List.nodup_cons]
        refine ⟨fun hin => ?_, ih h.2⟩
        rcases hmem d _ hin with heq | hold
        · exact hj heq
        · exact h.1 hold

end Assign

section Chosen

variable (key : ν → κ) (replaces : ν → Bool)

/-- One round of the loop. -/
def choose (d : List (κ × ν)) (v : ν) : List (κ × ν) :=
  if (d.lookup (key v)).isNone || replaces v then assign d (key v) v else d

/-- The loop. -/
def chosen (vs : List ν) : List (κ × ν) := vs.foldl (choose key replaces) []

variable {key replaces} {d : List (κ × ν)} {k : κ} {v : ν} {vs : List ν}

theorem lookup_choose :
    (choose key replaces d v).lookup k =
      if k = key v ∧ ((d.lookup k).isNone || replaces v) = true then some v
      else d.lookup k := by
  unfold choose
  by_cases hk : k = key v
  · subst hk
    by_cases h : ((d.lookup (key v)).isNone || replaces v) = true
    · rw [if_pos h, if_pos ⟨rfl, h⟩, lookup_assign, if_pos rfl]
    · rw [if_neg h, if_neg fun hboth => h hboth.2]
  · rw [if_neg (fun h => hk h.1 : ¬(k = key v ∧ _))]
    split
    · rw [lookup_assign, if_neg hk]
    · rfl

/-- **What is kept for a key**: the last value that replaces, and the first one where none
does. -/
theorem lookup_chosen :
    (chosen key replaces vs).lookup k =
      ((vs.filter fun v => key v = k).filter replaces).getLast?.or
        (vs.filter fun v => key v = k).head? := by
  induction vs using List.reverseRecOn with
  | nil => rfl
  | append_singleton vs v ih =>
      have hsnoc : chosen key replaces (vs ++ [v]) =
          choose key replaces (chosen key replaces vs) v := by
        simp [chosen]
      rw [hsnoc, lookup_choose, ih]
      by_cases hk : key v = k
      · subst hk
        have hsingle : [v].filter (fun w => key w = key v) = [v] := by simp
        rw [List.filter_append, hsingle, List.filter_append]
        generalize vs.filter (fun w => key w = key v) = ws
        cases hreplaces : replaces v with
        | true => simp [hreplaces]
        | false =>
            cases ws with
            | nil => simp [hreplaces]
            | cons w ws => simp [hreplaces]
      · have hnone : [v].filter (fun w => key w = k) = [] := by simp [hk]
        rw [List.filter_append, hnone, List.append_nil, if_neg]
        exact fun h => hk h.1.symm

/-- No key is kept twice. -/
theorem nodup_chosen : ((chosen key replaces vs).map Prod.fst).Nodup := by
  induction vs using List.reverseRecOn with
  | nil => exact List.nodup_nil
  | append_singleton vs v ih =>
      have hsnoc : chosen key replaces (vs ++ [v]) =
          choose key replaces (chosen key replaces vs) v := by
        simp [chosen]
      rw [hsnoc, choose]
      split
      · exact nodup_assign ih
      · exact ih

theorem lookup_eq_some_iff (h : (d.map Prod.fst).Nodup) : d.lookup k = some v ↔ (k, v) ∈ d := by
  induction d with
  | nil => simp
  | cons entry d ih =>
      obtain ⟨j, w⟩ := entry
      rw [List.map_cons, List.nodup_cons] at h
      by_cases hk : k = j
      · subst hk
        have hnot : (k, v) ∉ d := fun hmem => h.1 (List.mem_map.mpr ⟨_, hmem, rfl⟩)
        simp [hnot, eq_comm]
      · rw [lookup_cons_of_ne hk, ih h.2]
        simp [hk]

/-- A value is kept for its own key. -/
theorem key_of_mem_chosen (h : (k, v) ∈ chosen key replaces vs) : key v = k := by
  rw [← lookup_eq_some_iff nodup_chosen, lookup_chosen, Option.or_eq_some_iff] at h
  rcases h with h | ⟨-, h⟩
  · have hmem := List.mem_of_getLast? h
    simp only [List.mem_filter, decide_eq_true_eq] at hmem
    exact hmem.1.2
  · have hmem := List.mem_of_head? h
    simp only [List.mem_filter, decide_eq_true_eq] at hmem
    exact hmem.2

/-- What is kept, by its key. -/
theorem mem_chosen_iff :
    v ∈ (chosen key replaces vs).map Prod.snd ↔ (chosen key replaces vs).lookup (key v) = some v := by
  rw [lookup_eq_some_iff nodup_chosen, List.mem_map]
  constructor
  · rintro ⟨⟨k, w⟩, hmem, rfl⟩
    rw [key_of_mem_chosen hmem]
    exact hmem
  · intro hmem
    exact ⟨_, hmem, rfl⟩

theorem map_key_chosen :
    ((chosen key replaces vs).map Prod.snd).map key = (chosen key replaces vs).map Prod.fst := by
  rw [List.map_map]
  refine List.map_congr_left ?_
  rintro ⟨k, v⟩ hentry
  exact key_of_mem_chosen (v := v) hentry

end Chosen

end DcimBackend.Library
