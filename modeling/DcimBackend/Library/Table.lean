import Mathlib.Data.List.Basic
import Mathlib.Data.List.Nodup

/-!
# Tables with a primary key

A table is a list of rows, in creation order, whose primary keys are pairwise
distinct and below the next key to be handed out.  Both facts are fields, so a
table that violates the primary-key constraint cannot be built, and a row that
is created is always new.

The writes are the ones an object-relational mapper issues: `save` a row under its
key, `modify` every row by a function that keeps its key, and `filter` rows away.
Each has a membership lemma, and proofs about a table use these and never unfold
the write.
-/

namespace DcimBackend.Library

universe u

/-! ### Rows by a unique key -/

section Key

variable {ρ κ : Type*} [DecidableEq κ] {key : ρ → κ} {rows : List ρ} {row : ρ} {k : κ}

/-- Under a unique key, the row that is found is the row with the key. -/
theorem find?_key_eq_some_iff (hnodup : (rows.map key).Nodup) :
    rows.find? (fun row => key row = k) = some row ↔ row ∈ rows ∧ key row = k := by
  constructor
  · intro h
    exact ⟨List.mem_of_find?_eq_some h, by simpa using List.find?_some h⟩
  · rintro ⟨hmem, rfl⟩
    have hsome : (rows.find? fun other => key other = key row).isSome := by
      rw [List.find?_isSome]
      exact ⟨row, hmem, by simp⟩
    obtain ⟨other, hother⟩ := Option.isSome_iff_exists.mp hsome
    have hmem' : other ∈ rows := List.mem_of_find?_eq_some hother
    have hkey : key other = key row := by simpa using List.find?_some hother
    rw [hother, List.inj_on_of_nodup_map hnodup hmem' hmem hkey]

/-- A dictionary of rows by their keys, looked up. -/
theorem lookup_map_key :
    (rows.map fun row => (key row, row)).lookup k = rows.find? fun row => key row = k := by
  induction rows with
  | nil => rfl
  | cons row rows ih =>
      rw [List.map_cons, List.lookup_cons, List.find?_cons, ih]
      by_cases heq : key row = k
      · simp [heq]
      · have hne : (k == key row) = false := by simpa using Ne.symm heq
        simp [heq, hne]

end Key

/-! ### Tables -/

/-- Rows that carry a primary key. -/
class Keyed (ρ : Type u) where
  /-- The primary key of a row. -/
  pk : ρ → ℕ

export Keyed (pk)

/-- A table: rows in creation order, with distinct primary keys. -/
structure Table (ρ : Type u) [Keyed ρ] where
  /-- The rows, oldest first. -/
  rows : List ρ
  /-- The key the next created row receives. -/
  nextPk : ℕ
  /-- Keys in use are below the next key. -/
  pk_lt_nextPk : ∀ row ∈ rows, pk row < nextPk
  /-- The primary-key constraint. -/
  nodup_pk : (rows.map pk).Nodup

namespace Table

variable {ρ : Type u} [Keyed ρ]

instance : Membership ρ (Table ρ) := ⟨fun t row => row ∈ t.rows⟩

theorem mem_def {t : Table ρ} {row : ρ} : row ∈ t ↔ row ∈ t.rows := Iff.rfl

instance [DecidableEq ρ] (t : Table ρ) (row : ρ) : Decidable (row ∈ t) :=
  inferInstanceAs (Decidable (row ∈ t.rows))

instance (t : Table ρ) (p : ρ → Prop) [DecidablePred p] :
    Decidable (∃ row ∈ t, p row) :=
  inferInstanceAs (Decidable (∃ row ∈ t.rows, p row))

instance (t : Table ρ) (p : ρ → Prop) [DecidablePred p] :
    Decidable (∀ row ∈ t, p row) :=
  inferInstanceAs (Decidable (∀ row ∈ t.rows, p row))

/-- The table without rows. -/
def empty : Table ρ := ⟨[], 0, by simp, by simp⟩

/-- The row with a given primary key. -/
def find (t : Table ρ) (id : ℕ) : Option ρ :=
  t.rows.find? fun row => pk row = id

/-- Two rows with one key are one row. -/
theorem eq_of_pk_eq (t : Table ρ) {a b : ρ} (ha : a ∈ t) (hb : b ∈ t)
    (h : pk a = pk b) : a = b :=
  List.inj_on_of_nodup_map t.nodup_pk ha hb h

/-- What holds of the rows with a key holds of the row with it. -/
theorem forall_pk_iff {t : Table ρ} {row : ρ} {P : ρ → Prop} (hrow : row ∈ t) :
    (∀ other ∈ t, pk other = pk row → P other) ↔ P row := by
  constructor
  · intro h
    exact h row hrow rfl
  · intro h other hother hpk
    rwa [t.eq_of_pk_eq hother hrow hpk]

theorem find_eq_some_iff {t : Table ρ} {id : ℕ} {row : ρ} :
    t.find id = some row ↔ row ∈ t ∧ pk row = id :=
  find?_key_eq_some_iff t.nodup_pk

theorem find_pk {t : Table ρ} {row : ρ} (h : row ∈ t) : t.find (pk row) = some row :=
  find_eq_some_iff.mpr ⟨h, rfl⟩

/-- A foreign key that is found refers to a row of the table. -/
theorem exists_mem_of_isSome {t : Table ρ} {id : ℕ} (h : (t.find id).isSome) :
    ∃ row ∈ t, pk row = id ∧ t.find id = some row := by
  obtain ⟨row, hrow⟩ := Option.isSome_iff_exists.mp h
  obtain ⟨hmem, hpk⟩ := find_eq_some_iff.mp hrow
  exact ⟨row, hmem, hpk, hrow⟩

theorem isSome_find_iff {t : Table ρ} {id : ℕ} :
    (t.find id).isSome ↔ ∃ row ∈ t, pk row = id := by
  rw [Option.isSome_iff_exists]
  simp only [find_eq_some_iff]

theorem find_eq_none_iff {t : Table ρ} {id : ℕ} :
    t.find id = none ↔ ∀ row ∈ t, pk row ≠ id := by
  simp [find, mem_def]

/-- Rewrite rows by a function that keeps their keys. -/
def modify (t : Table ρ) (f : ρ → ρ) (hf : ∀ row, pk (f row) = pk row) : Table ρ where
  rows := t.rows.map f
  nextPk := t.nextPk
  pk_lt_nextPk := by
    intro row hrow
    obtain ⟨old, hold, rfl⟩ := List.mem_map.mp hrow
    rw [hf]
    exact t.pk_lt_nextPk old hold
  nodup_pk := by
    rw [List.map_map, show pk ∘ f = (pk : ρ → ℕ) from funext hf]
    exact t.nodup_pk

theorem mem_modify {t : Table ρ} {f : ρ → ρ} {hf : ∀ row, pk (f row) = pk row}
    {row : ρ} : row ∈ t.modify f hf ↔ ∃ old ∈ t, f old = row := by
  simp [mem_def, modify]

/-- Save a row under its own key: an update if the key is in use, and an
insertion otherwise. -/
def save (t : Table ρ) (row : ρ) : Table ρ where
  rows :=
    if ∃ old ∈ t.rows, pk old = pk row then
      t.rows.map fun old => if pk old = pk row then row else old
    else t.rows ++ [row]
  nextPk := max t.nextPk (pk row + 1)
  pk_lt_nextPk := by
    have hold := t.pk_lt_nextPk
    split
    · simp only [List.mem_map]
      rintro _ ⟨old, hmem, rfl⟩
      have := hold old hmem
      split <;> omega
    · simp only [List.mem_append, List.mem_singleton]
      rintro other (hmem | rfl)
      · have := hold other hmem
        omega
      · omega
  nodup_pk := by
    split
    · rw [List.map_map]
      convert t.nodup_pk using 2
      funext old
      simp only [Function.comp_apply]
      split
      · rename_i hpk
        exact hpk.symm
      · rfl
    · rename_i hfresh
      rw [List.map_append, List.nodup_append]
      refine ⟨t.nodup_pk, by simp, ?_⟩
      intro a ha b hb heq
      obtain ⟨old, hmem, rfl⟩ := List.mem_map.mp ha
      obtain rfl : b = pk row := by simpa using hb
      exact hfresh ⟨old, hmem, heq⟩

@[simp] theorem mem_save {t : Table ρ} {row other : ρ} :
    other ∈ t.save row ↔ other = row ∨ (other ∈ t ∧ pk other ≠ pk row) := by
  simp only [mem_def, save]
  split
  · rename_i hex
    obtain ⟨stored, hstored, hpk⟩ := hex
    rw [List.mem_map]
    constructor
    · rintro ⟨old, hold, rfl⟩
      split
      · exact Or.inl rfl
      · rename_i hne
        exact Or.inr ⟨hold, hne⟩
    · rintro (rfl | ⟨hother, hne⟩)
      · exact ⟨stored, hstored, by simp [hpk]⟩
      · exact ⟨other, hother, by simp [hne]⟩
  · rename_i hfresh
    push Not at hfresh
    rw [List.mem_append, List.mem_singleton, or_comm]
    exact or_congr_right ⟨fun hother => ⟨hother, hfresh other hother⟩, And.left⟩

/-- The table of some rows. -/
def ofRows (rows : List ρ) : Table ρ := rows.foldl save empty

/-- Keep the rows that satisfy `p`. -/
def filter (t : Table ρ) (p : ρ → Bool) : Table ρ where
  rows := t.rows.filter p
  nextPk := t.nextPk
  pk_lt_nextPk := fun row hrow => t.pk_lt_nextPk row (List.mem_of_mem_filter hrow)
  nodup_pk := (List.filter_sublist.map pk).nodup t.nodup_pk

@[simp] theorem mem_filter {t : Table ρ} {p : ρ → Bool} {row : ρ} :
    row ∈ t.filter p ↔ row ∈ t ∧ p row = true := by
  simp [mem_def, filter]

/-- Saving a row breaks no foreign key. -/
theorem isSome_find_save {t : Table ρ} {row : ρ} {id : ℕ} (h : (t.find id).isSome) :
    ((t.save row).find id).isSome := by
  rw [isSome_find_iff] at h ⊢
  obtain ⟨old, hold, hpk⟩ := h
  by_cases hrow : pk old = pk row
  · exact ⟨row, mem_save.mpr (Or.inl rfl), hrow.symm.trans hpk⟩
  · exact ⟨old, mem_save.mpr (Or.inr ⟨hold, hrow⟩), hpk⟩

/-- Deleting the row with one key breaks no foreign key to another. -/
theorem isSome_find_filter {t : Table ρ} {id key : ℕ} (h : (t.find key).isSome)
    (hne : key ≠ id) : ((t.filter fun row => pk row ≠ id).find key).isSome := by
  rw [isSome_find_iff] at h ⊢
  obtain ⟨row, hrow, rfl⟩ := h
  exact ⟨row, mem_filter.mpr ⟨hrow, by simpa using hne⟩, rfl⟩

/-- Rows of the table that satisfy `p`, oldest first: a query. -/
def select (t : Table ρ) (p : ρ → Bool) : List ρ := t.rows.filter p

@[simp] theorem mem_select {t : Table ρ} {p : ρ → Bool} {row : ρ} :
    row ∈ t.select p ↔ row ∈ t ∧ p row = true := by
  simp [mem_def, select]

/-- A query that neither the saved row nor the one it replaces answers does not see the
save. -/
theorem select_save_of_not {t : Table ρ} {row : ρ} {p : ρ → Bool} (hrow : p row = false)
    (hold : ∀ old ∈ t, pk old = pk row → p old = false) : (t.save row).select p = t.select p := by
  simp only [select, save]
  split
  · have hmap : ∀ rows : List ρ, (∀ old ∈ rows, pk old = pk row → p old = false) →
        (rows.map fun old => if pk old = pk row then row else old).filter p = rows.filter p := by
      intro rows hrows
      induction rows with
      | nil => rfl
      | cons old rows ih =>
          have ih := ih fun other hother => hrows other (List.mem_cons_of_mem _ hother)
          rw [List.map_cons]
          split
          · rename_i hpk
            rw [List.filter_cons_of_neg (by simp [hrow]), ih,
              List.filter_cons_of_neg (by simp [hrows old List.mem_cons_self hpk])]
          · rw [List.filter_cons, List.filter_cons, ih]
    exact hmap t.rows hold
  · rw [List.filter_append, List.filter_singleton, hrow, Bool.cond_false, List.append_nil]

end Table

/-! ### Rows with another unique key -/

section Upsert

variable {ρ κ : Type*} [DecidableEq κ] {key : ρ → κ} {rows : List ρ} {row other : ρ}

/-- Save a row in place of the one with its key, or beside the others. -/
def upsert (key : ρ → κ) (rows : List ρ) (row : ρ) : List ρ :=
  rows.filter (fun old => key old ≠ key row) ++ [row]

theorem mem_upsert : other ∈ upsert key rows row ↔
    (other ∈ rows ∧ key other ≠ key row) ∨ other = row := by
  simp [upsert]

/-- An upsert keeps the key unique. -/
theorem nodup_upsert (h : (rows.map key).Nodup) : ((upsert key rows row).map key).Nodup := by
  rw [upsert, List.map_append, List.nodup_append]
  refine ⟨(List.filter_sublist.map _).nodup h, by simp, ?_⟩
  intro a ha b hb heq
  obtain ⟨old, hold, rfl⟩ := List.mem_map.mp ha
  have hkey := (List.mem_filter.mp hold).2
  simp_all

end Upsert

/-! ### Messages at a position -/

section Replace

variable {α κ : Type*} {key : α → κ} {l : List α} {i : ℕ} {a b : α} {o : Option α}

/-- What stands at a position is replaced, or taken away. -/
def replaceAt (l : List α) (i : ℕ) : Option α → List α
  | some a => l.set i a
  | none => l.eraseIdx i

theorem exists_replaceAt_eq (h : l[i]? = some a) :
    ∃ u v, l = u ++ a :: v ∧ ∀ o, replaceAt l i o = u ++ (o.toList ++ v) := by
  obtain ⟨hi, rfl⟩ := List.getElem?_eq_some_iff.mp h
  refine ⟨l.take i, l.drop (i + 1), ?_, fun o => ?_⟩
  · rw [← List.drop_eq_getElem_cons hi, List.take_append_drop]
  · cases o with
    | none => exact List.eraseIdx_eq_take_drop_succ ..
    | some b => rw [replaceAt, List.set_eq_take_append_cons_drop, if_pos hi]; rfl

/-- Under a unique key, the others are those with another key. -/
theorem mem_replaceAt (hnodup : (l.map key).Nodup) (h : l[i]? = some a) :
    b ∈ replaceAt l i o ↔ o = some b ∨ (b ∈ l ∧ key b ≠ key a) := by
  obtain ⟨u, v, rfl, hreplace⟩ := exists_replaceAt_eq h
  rw [List.map_append, List.map_cons, List.nodup_middle, List.nodup_cons] at hnodup
  have hother : ∀ c ∈ u ++ v, key c ≠ key a := by
    intro c hc heq
    refine hnodup.1 ?_
    rw [← heq, ← List.map_append]
    exact List.mem_map_of_mem hc
  rw [hreplace]
  constructor
  · intro hb
    by_cases hrest : b ∈ u ++ v
    · refine Or.inr ⟨?_, hother b hrest⟩
      simp only [List.mem_append, List.mem_cons] at hrest ⊢
      tauto
    · refine Or.inl ?_
      simp only [List.mem_append, Option.mem_toList] at hb hrest
      tauto
  · rintro (rfl | ⟨hb, hne⟩)
    · simp
    · have hba : b ≠ a := fun hba => hne (congrArg key hba)
      simp only [List.mem_append, List.mem_cons] at hb ⊢
      tauto

/-- Replacement under the same key keeps the key unique. -/
theorem nodup_replaceAt (hnodup : (l.map key).Nodup) (h : l[i]? = some a)
    (ho : ∀ b, o = some b → key b = key a) : ((replaceAt l i o).map key).Nodup := by
  obtain ⟨u, v, rfl, hreplace⟩ := exists_replaceAt_eq h
  rw [hreplace]
  cases o with
  | none =>
      refine hnodup.sublist (List.Sublist.map key ?_)
      exact List.Sublist.append_left (List.sublist_cons_self a v) u
  | some b =>
      rw [List.map_append, List.map_cons] at hnodup
      rw [List.map_append, Option.toList_some, List.singleton_append, List.map_cons, ho b rfl]
      exact hnodup

end Replace

end DcimBackend.Library
