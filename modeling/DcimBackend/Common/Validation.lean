import DcimBackend.Access.Hierarchy

/-!
# Validation errors

The idiom of most `clean` methods of the models: messages are collected per
field (`errors.setdefault(field, []).append(message)`), and the row is accepted
when none was.  Each check is one `FieldErrors.check`, and `check_eq_nil_iff`
turns acceptance into the conjunction of the checks.

The fields keep the order in which they first failed, and the messages of a field that of the
checks, since an answer shows both.
-/

namespace DcimBackend

open Library

/-- Messages by field, in the order the fields first failed. -/
abbrev FieldErrors := List (String × List String)

namespace FieldErrors

/-- `errors.setdefault(field, []).append(message)`. -/
def append (errors : FieldErrors) (field message : String) : FieldErrors :=
  if errors.any fun e => e.1 = field then
    errors.map fun e => if e.1 = field then (e.1, e.2 ++ [message]) else e
  else errors ++ [(field, [message])]

@[simp] theorem append_ne_nil (errors : FieldErrors) (field message : String) :
    errors.append field message ≠ [] := by
  unfold append
  split
  · rename_i h
    intro hnil
    rw [List.map_eq_nil_iff] at hnil
    simp [hnil] at h
  · simp

/-- Record a message if a check fails. -/
def check (errors : FieldErrors) (fails : Prop) [Decidable fails] (field message : String) :
    FieldErrors :=
  if fails then errors.append field message else errors

@[simp] theorem check_eq_nil_iff {errors : FieldErrors} {fails : Prop} [Decidable fails]
    {field message : String} :
    errors.check fails field message = [] ↔ errors = [] ∧ ¬fails := by
  unfold check
  split
  · rename_i h
    simp [h]
  · rename_i h
    simp [h]

/-- Checks recorded one after another. -/
theorem foldl_eq_nil_iff {α : Type*} {step : FieldErrors → α → FieldErrors}
    {fails : α → Prop} (hstep : ∀ errors x, step errors x = [] ↔ errors = [] ∧ ¬fails x)
    (xs : List α) (errors : FieldErrors) :
    xs.foldl step errors = [] ↔ errors = [] ∧ ∀ x ∈ xs, ¬fails x := by
  induction xs generalizing errors with
  | nil => simp
  | cons x xs ih => rw [List.foldl_cons, ih, hstep, List.forall_mem_cons, and_assoc]

/-- `MaxLengthValidator`. -/
def maxLength (errors : FieldErrors) (limit : ℕ) (field value : String) :
    FieldErrors :=
  errors.check (limit < value.length) field
    ("Ensure this value has at most " ++ toString limit ++ " characters (it has " ++
      toString value.length ++ ").")

/-- `Field.validate` of a text with choices that may not be blank. -/
def choice (errors : FieldErrors) (choices : List String) (field value : String) : FieldErrors :=
  if value = "" then errors.append field "This field cannot be blank."
  else errors.check (value ∉ choices) field ("Value '" ++ value ++ "' is not a valid choice.")

/-- `ValidationError.update_error_dict`: the messages of `others` after those there. -/
def merge (errors others : FieldErrors) : FieldErrors :=
  others.foldl (fun errors e => e.2.foldl (fun errors m => errors.append e.1 m) errors) errors

/-! ### Merging -/

/-- Every field has a message. -/
def Proper (errors : FieldErrors) : Prop := ∀ e ∈ errors, e.2 ≠ []

section Proper

variable {errors others : FieldErrors} {field message : String}

theorem proper_nil : Proper [] := fun _ h => absurd h List.not_mem_nil

theorem Proper.append (h : errors.Proper) : (errors.append field message).Proper := by
  intro e he
  unfold FieldErrors.append at he
  split at he
  · obtain ⟨old, hold, rfl⟩ := List.mem_map.mp he
    split
    · exact List.append_ne_nil_of_right_ne_nil _ (List.cons_ne_nil _ _)
    · exact h old hold
  · rcases List.mem_append.mp he with hold | hnew
    · exact h e hold
    · obtain rfl := List.mem_singleton.mp hnew
      exact List.cons_ne_nil _ _

theorem Proper.check (h : errors.Proper) {fails : Prop} [Decidable fails] :
    (errors.check fails field message).Proper := by
  unfold FieldErrors.check
  split
  · exact h.append
  · exact h

/-- Messages that are merged stay. -/
theorem merge_eq_nil_iff (h : others.Proper) :
    errors.merge others = [] ↔ errors = [] ∧ others = [] := by
  have hmessages : ∀ (messages : List String) (field : String) (errors : FieldErrors),
      messages.foldl (fun errors m => errors.append field m) errors = [] ↔
        errors = [] ∧ messages = [] := by
    intro messages field
    induction messages with
    | nil => intro errors; simp
    | cons message messages ih =>
        intro errors
        rw [List.foldl_cons, ih]
        simp
  induction others generalizing errors with
  | nil => simp [merge]
  | cons e others ih =>
      have hrest : Proper others := fun other hother => h other (List.mem_cons_of_mem _ hother)
      have hfirst : e.2 ≠ [] := h e List.mem_cons_self
      have hmerge : errors.merge (e :: others) =
          merge (e.2.foldl (fun errors m => errors.append e.1 m) errors) others := rfl
      rw [hmerge]
      refine (ih hrest).trans ?_
      rw [hmessages]
      simp [hfirst]

end Proper

end FieldErrors

/-- `data_center_id and organization_id and data_center.organization_id !=
organization_id`. -/
def Hierarchy.dataCenterElsewhere (h : Hierarchy) (dataCenter : Option DataCenterId)
    (organization : Option OrganizationId) : Bool :=
  match dataCenter.bind h.dataCenters.find, organization with
  | some dataCenter, some organization => dataCenter.organization ≠ organization
  | _, _ => false

end DcimBackend
