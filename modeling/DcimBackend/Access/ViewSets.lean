import DcimBackend.Access.Permissions
import DcimBackend.Common.Validation

/-!
# Scoped view sets

`ScopedModelViewSet` of `apps/common/viewsets.py`, on models whose rows refer to resources:
alert rules and the models of reports.  A request passes the permission check, an update
finds its row in the filtered query set, and a serializer makes of the rest the row that is
saved.  The serializers are modelled with their models.

Whether a user sees a row is the query set's business, and `visible_iff` reads it off the
foreign keys of the row.  Where all of them lie below the row's organization, as the `clean`
methods demand, only the organization counts: scopes are closed upwards.

`Below` is what lets one theorem speak of four models: it asks of a row that its other resources
lie below its organization, which each model's `clean` sees to in its own way.
-/

namespace DcimBackend

open Library

/-! ### Rows that refer to resources -/

/-- The models behind the scoped view sets. -/
inductive ApiModel
  | resource (level : Level)
  | alertRule
  | reportTemplate
  | reportJob
  | reportSchedule
deriving DecidableEq

/-- The levels for which a model has a foreign key. -/
def ApiModel.levels : ApiModel → List Level
  | .resource level => level.relations.map Prod.snd
  | .alertRule => [.organization, .dataCenter, .device]
  | .reportTemplate => [.organization]
  | .reportJob | .reportSchedule => [.organization, .dataCenter]

/-- The level that a field is named after. -/
def Level.ofFieldName (name : String) : Option Level :=
  Level.all.find? fun level => level.fieldName = name

@[simp] theorem Level.ofFieldName_fieldName (level : Level) :
    Level.ofFieldName level.fieldName = some level := by
  cases level <;> decide

/-- The models with the fields that lookup paths name. -/
def apiSchema : Schema ApiModel where
  getField model name :=
    match Level.ofFieldName name with
    | some level => if level ∈ model.levels then some (.relation (.resource level)) else none
    | none => if name = "id" then some .column else none

/-- Rows with foreign keys to resources. -/
class Scoped (ρ : Type) where
  model : ApiModel
  key : ρ → Level → Option ℕ

variable {ρ : Type} [Keyed ρ] [Scoped ρ]

/-- Every foreign key of a row to a resource refers to a row. -/
def Scoped.keysExist (h : Hierarchy) (row : ρ) : Bool :=
  Level.all.all fun level => (Scoped.key row level).all fun id => h.exists? ⟨level, id⟩

/-- The key at the end of a lookup path. -/
def Scoped.keyAt (h : Hierarchy) : LookupPath → ρ → Option ℕ
  | [], _ => none
  | name :: rest, row =>
      match Level.ofFieldName name with
      | some level =>
          (Scoped.key row level).bind fun id =>
            if rest = [] then some id else h.keyAt rest ⟨level, id⟩
      | none => if name = "id" ∧ rest = [] then some (pk row) else none

/-- The rows of a table, as a query set. -/
def scopedQuerySet (h : Hierarchy) (t : Table ρ) : QuerySet ApiModel ρ where
  model := Scoped.model ρ
  rows := t.rows
  keyAt := Scoped.keyAt h

/-- The attributes of a scoped view set that only says which mode it filters in. -/
def scopedIn (mode : ScopeMode) : ScopeConfig := { accessScope := mode }

/-! ### Requests -/

/-- Why a request that writes is refused. -/
inductive RequestError
  /-- The permission check says no. -/
  | permissionDenied
  /-- The filtered query set does not contain the row. -/
  | notFound
  /-- The query set cannot be filtered. -/
  | fieldError (error : FieldError)
  /-- A foreign key refers to no row. -/
  | doesNotExist
  /-- A serializer or a model found these messages. -/
  | invalid (errors : FieldErrors)
  /-- A date leaves the years 1 to 9999. -/
  | overflow
deriving DecidableEq

/-- Raise a message for a field if a check fails. -/
def refuseIf (fails : Prop) [Decidable fails] (field message : String) :
    Except RequestError Unit :=
  if fails then .error (.invalid [(field, [message])]) else .ok ⟨⟩

theorem refuseIf_eq_ok_iff {fails : Prop} [Decidable fails] {field message : String} {u : Unit} :
    refuseIf fails field message = .ok u ↔ ¬fails := by
  unfold refuseIf
  split
  · rename_i h
    exact iff_of_false (fun hok => by cases hok) (fun hnot => hnot h)
  · rename_i h
    exact iff_of_true rfl h

/-- The two methods of an update.  A `PATCH` may leave out any field. -/
inductive UpdateMethod
  | put
  | patch
deriving DecidableEq

/-- What the permission check reads of an update. -/
def UpdateMethod.view : UpdateMethod → ViewRequest
  | .put => { method := "PUT", action := "update" }
  | .patch => { method := "PATCH", action := "partial_update" }

/-- What the permission check reads of a creation. -/
def postView : ViewRequest := { method := "POST", action := "create" }

/-- The messages for the required fields that a request leaves out, of fields with whether
they are given. -/
def missingFields (fields : List (String × Bool)) : FieldErrors :=
  (fields.filter fun field => !field.2).map fun field => (field.1, ["This field is required."])

/-- Whether an update may leave out what it leaves out. -/
def UpdateMethod.checkMissing (missing : FieldErrors) : UpdateMethod → Except RequestError Unit
  | .put => if missing = [] then .ok ⟨⟩ else .error (.invalid missing)
  | .patch => .ok ⟨⟩

namespace Directory

variable (db : Directory)

/-- `check_permissions`. -/
def checkPermissions (user : Option User) (permissionModule : String) (view : ViewRequest) :
    Except RequestError Unit :=
  if db.hasPermission user permissionModule view then .ok ⟨⟩ else .error .permissionDenied

/-- `get_object`.  What the query parameters narrow further is left out. -/
def getObject (t : Table ρ) (mode : ScopeMode) (user : Option User) (id : ℕ) :
    Except RequestError ρ :=
  match apiSchema.filterQuerysetForUser db (scopedQuerySet db.hierarchy t) user
      (scopedIn mode) with
  | .error e => .error (.fieldError e)
  | .ok out =>
      match out.find? fun row => pk row = id with
      | some row => .ok row
      | none => .error .notFound

/-- The row belongs to the query set of the view set, filtered for the user. -/
def Visible (t : Table ρ) (mode : ScopeMode) (user : Option User) (row : ρ) : Prop :=
  ∃ out, apiSchema.filterQuerysetForUser db (scopedQuerySet db.hierarchy t) user
    (scopedIn mode) = .ok out ∧ row ∈ out

end Directory

/-! ### What a user sees -/

section Visible

variable {db : Directory} {t : Table ρ} {mode : ScopeMode} {user : User} {row : ρ}

theorem scopedIn_field (mode : ScopeMode) (level : Level) :
    (scopedIn mode).field level = [level.fieldName] := by
  cases level <;> rfl

theorem getField_fieldName (model : ApiModel) (level : Level) :
    apiSchema.getField model level.fieldName =
      if level ∈ model.levels then some (.relation (.resource level)) else none := by
  simp [apiSchema]

theorem keyAt_fieldName (h : Hierarchy) (row : ρ) (level : Level) :
    Scoped.keyAt h [level.fieldName] row = Scoped.key row level := by
  simp [Scoped.keyAt]

/-- What a row refers to, in a view set with the default lookup paths. -/
theorem refers_iff {r : Resource} :
    apiSchema.Refers (scopedQuerySet db.hierarchy t) (scopedIn mode) row r ↔
      (r.level ∈ (Scoped.model ρ).levels ∧ (mode = .mixed ∨ mode = .level r.level)) ∧
        Scoped.key row r.level = some r.id := by
  have hlookup : apiSchema.lookupExists (Scoped.model ρ) [r.level.fieldName] ↔
      r.level ∈ (Scoped.model ρ).levels := by
    rw [Schema.lookupExists, getField_fieldName]
    split
    · rename_i hmem
      exact iff_of_true rfl hmem
    · rename_i hmem
      exact iff_of_false (by simp) hmem
  unfold Schema.Refers Schema.Consults
  simp only [scopedIn_field]
  show ((apiSchema.lookupExists (Scoped.model ρ) [r.level.fieldName] ∧ _) ∧
    Scoped.keyAt db.hierarchy [r.level.fieldName] row = some r.id) ↔ _
  rw [hlookup, keyAt_fieldName]
  rfl

/-- With the default lookup paths the query set can be filtered. -/
theorem exists_filterQuerysetForUser (db : Directory) (t : Table ρ) (mode : ScopeMode)
    (user : User) :
    ∃ out, apiSchema.filterQuerysetForUser db (scopedQuerySet db.hierarchy t) (some user)
      (scopedIn mode) = .ok out := by
  let qs := scopedQuerySet db.hierarchy t
  have hends : ∀ level : Level, apiSchema.lookupExists qs.model [level.fieldName] = true →
      apiSchema.endsInRelation qs.model [level.fieldName] = true := by
    intro level hlookup
    rw [Schema.lookupExists, getField_fieldName] at hlookup
    rw [Schema.endsInRelation, getField_fieldName]
    split at hlookup
    · rename_i hmem
      rw [if_pos hmem]
    · cases hlookup
  unfold Schema.filterQuerysetForUser Schema.scopeFilter
  dsimp only
  split
  · exact ⟨_, rfl⟩
  split
  · exact ⟨_, rfl⟩
  split
  · -- one level
    rename_i level hmode
    unfold Schema.applyScopeFilter
    rw [scopedIn_field]
    split
    · exact ⟨_, rfl⟩
    split
    · exact ⟨_, rfl⟩
    · rename_i hlookup
      have hrelation := hends level (by simpa using hlookup)
      rw [if_pos (Or.inr hrelation)]
      exact ⟨_, rfl⟩
  · -- the mixed mode
    split
    · rename_i level hfound
      have hnot := List.find?_some hfound
      have hmem := List.mem_of_find?_eq_some hfound
      simp only [Schema.mixedLevels, List.mem_filter, Bool.and_eq_true, scopedIn_field]
        at hmem hnot
      have hrelation := hends level hmem.2.1
      rw [hrelation] at hnot
      cases hnot
    · exact ⟨_, rfl⟩

/-- **What a user without global access sees**: the rows that refer to a resource of the
scope, at a level that the mode consults. -/
theorem visible_iff (hglobal : (db.getAccessScope (some user)).globalAccess = false) :
    db.Visible t mode (some user) row ↔ row ∈ t ∧ ∃ level ∈ (Scoped.model ρ).levels,
      (mode = .mixed ∨ mode = .level level) ∧ ∃ id, Scoped.key row level = some id ∧
        (db.getAccessScope (some user)).Has ⟨level, id⟩ := by
  obtain ⟨out, hout⟩ := exists_filterQuerysetForUser db t mode user
  have hvisible : db.Visible t mode (some user) row ↔ row ∈ out := by
    refine ⟨?_, fun hrow => ⟨out, hout, hrow⟩⟩
    rintro ⟨other, hother, hrow⟩
    rw [hout] at hother
    rwa [Except.ok.inj hother]
  rw [hvisible, Schema.mem_filterQuerysetForUser hout, hglobal]
  refine and_congr_right fun _ => ?_
  simp only [Bool.false_eq_true, false_or, refers_iff]
  constructor
  · rintro ⟨⟨level, id⟩, ⟨⟨hlevel, hmode⟩, hkey⟩, hhas⟩
    exact ⟨level, hlevel, hmode, id, hkey, hhas⟩
  · rintro ⟨level, hlevel, hmode, id, hkey, hhas⟩
    exact ⟨⟨level, id⟩, ⟨⟨hlevel, hmode⟩, hkey⟩, hhas⟩

/-- A row that `get_object` finds is in the table. -/
theorem mem_of_getObject {id : ℕ} {user : Option User} (h : db.getObject t mode user id = .ok row) :
    row ∈ t ∧ pk row = id := by
  unfold Directory.getObject at h
  split at h
  · cases h
  · rename_i out hout
    split at h
    · rename_i found hfound
      obtain rfl := Except.ok.inj h
      have hmem := List.mem_of_find?_eq_some hfound
      refine ⟨?_, by simpa using List.find?_some hfound⟩
      cases user with
      | none =>
          obtain rfl : [] = out := Except.ok.inj hout
          cases hmem
      | some user => exact ((Schema.mem_filterQuerysetForUser hout).mp hmem).1
    · cases h

/-! ### Rows below an organization -/

/-- Every resource that a row refers to lies below an organization, to which it refers
too. -/
structure Below (h : Hierarchy) (organization : OrganizationId) (row : ρ) : Prop where
  key : Scoped.key row .organization = some organization
  above : ∀ level id, Scoped.key row level = some id →
    h.Above ⟨level, id⟩ ⟨.organization, organization⟩

/-- Scopes are closed upwards. -/
theorem has_of_above {r above : Resource}
    (hglobal : (db.getAccessScope (some user)).globalAccess = false)
    (habove : db.hierarchy.Above r above) (hhas : (db.getAccessScope (some user)).Has r) :
    (db.getAccessScope (some user)).Has above := by
  rw [Directory.has_getAccessScope hglobal] at hhas ⊢
  obtain ⟨access, haccess, named, hnamed, held, hholds, hreached⟩ := hhas
  exact ⟨access, haccess, named, hnamed, held, hholds, hreached.trans habove⟩

/-- **A row below an organization** is seen exactly if its organization is in the scope. -/
theorem visible_iff_of_below {organization : OrganizationId}
    (hglobal : (db.getAccessScope (some user)).globalAccess = false)
    (hmodel : Level.organization ∈ (Scoped.model ρ).levels)
    (hmode : mode = .mixed ∨ mode = .level .organization)
    (hbelow : Below db.hierarchy organization row) :
    db.Visible t mode (some user) row ↔
      row ∈ t ∧ (db.getAccessScope (some user)).Has ⟨.organization, organization⟩ := by
  rw [visible_iff hglobal]
  refine and_congr_right fun _ => ⟨?_, fun hhas => ?_⟩
  · rintro ⟨level, -, -, id, hkey, hhas⟩
    exact has_of_above hglobal (hbelow.above level id hkey) hhas
  · exact ⟨.organization, hmodel, hmode, organization, hbelow.key, hhas⟩

omit [Keyed ρ] in
theorem exists_of_keysExist {h : Hierarchy} {level : Level} {id : ℕ}
    (hkeys : Scoped.keysExist h row = true) (hkey : Scoped.key row level = some id) :
    h.exists? ⟨level, id⟩ = true := by
  have hlevel := List.all_eq_true.mp hkeys level (Level.mem_all level)
  rw [hkey] at hlevel
  exact hlevel

/-- A data center that exists, and is not elsewhere, lies below the organization. -/
theorem above_of_not_dataCenterElsewhere {h : Hierarchy} {dataCenter : DataCenterId}
    {organization : OrganizationId} (hexists : h.exists? ⟨.dataCenter, dataCenter⟩ = true)
    (hhere : h.dataCenterElsewhere (some dataCenter) (some organization) = false) :
    h.Above ⟨.dataCenter, dataCenter⟩ ⟨.organization, organization⟩ := by
  obtain ⟨row, hrow, hpk, hfind⟩ := Table.exists_mem_of_isSome hexists
  have hsame : row.organization = organization := by
    simpa [Hierarchy.dataCenterElsewhere, hfind] using hhere
  subst hsame
  obtain rfl : row.id = dataCenter := hpk
  exact Relation.ReflTransGen.single (.dataCenterOrganization hrow)

end Visible

end DcimBackend
