import DcimBackend.Access.Scope

/-!
# Filtering a query set for a user

`apps/common/access.py`, `_lookup_exists` to `filter_queryset_for_user`, and the
class attributes of `ScopedModelViewSet` (`apps/common/viewsets.py`) that
configure it.

The filter is generic in the model it filters.  What it asks of a model is here
a `Schema` (what `_meta.get_field` returns) and, per row, the key at the end of
a lookup path; both are parameters, so the results hold for the query set of
every view set.  The five resource models are the instance at hand:
`Hierarchy.querySet`.

`mem_scopeFilter` reads the filter as a relation: a row is returned exactly when
it `Refers`, at a level the mode consults, to a resource of the scope.

A lookup path is checked against the schema name by name, like `_lookup_exists` does, and then
used with `_id` behind it.  The check accepts a path that ends in a plain column, for which the
filter raises: the schema tells the two kinds of fields apart for this reason.
-/

namespace DcimBackend

open Library

/-- A lookup path, split at its double underscores.  The empty list stands for
the empty string. -/
abbrev LookupPath := List String

/-- What `_meta.get_field` returns for a name. -/
inductive Field (μ : Type)
  | column
  | relation (target : μ)

/-- The fields of the models, which `μ` names. -/
structure Schema (μ : Type) where
  getField : μ → String → Option (Field μ)

/-- The rows of a model, each with the key at the end of a lookup path: null
where a foreign key on the way is. -/
structure QuerySet (μ ρ : Type) where
  model : μ
  rows : List ρ
  keyAt : LookupPath → ρ → Option ℕ

/-- The `access_scope` modes. -/
inductive ScopeMode
  | mixed
  | level (level : Level)
deriving DecidableEq

/-- The scope attributes of `ScopedModelViewSet`, with its defaults. -/
structure ScopeConfig where
  accessScope : ScopeMode := .mixed
  organizationField : LookupPath := ["organization"]
  dataCenterField : LookupPath := ["data_center"]
  roomField : LookupPath := ["room"]
  rackField : LookupPath := ["rack"]
  deviceField : LookupPath := ["device"]

/-- The lookup path configured for a level. -/
def ScopeConfig.field (config : ScopeConfig) : Level → LookupPath
  | .organization => config.organizationField
  | .dataCenter => config.dataCenterField
  | .room => config.roomField
  | .rack => config.rackField
  | .device => config.deviceField

/-- `FieldError`: a filter on `{path}_id` where no such field exists. -/
structure FieldError where
  path : LookupPath
deriving DecidableEq

variable {μ ρ : Type}

namespace Schema

variable (schema : Schema μ)

/-- `_lookup_exists`.  After a plain column there is nowhere to go on. -/
def lookupExists (model : μ) : LookupPath → Bool
  | [] => false
  | [part] => (schema.getField model part).isSome
  | part :: rest =>
      match schema.getField model part with
      | some (.relation target) => lookupExists target rest
      | _ => false

/-- The path ends in a relation, so that `{path}_id` is a column to filter on. -/
def endsInRelation (model : μ) : LookupPath → Bool
  | [] => false
  | [part] =>
      match schema.getField model part with
      | some (.relation _) => true
      | _ => false
  | part :: rest =>
      match schema.getField model part with
      | some (.relation target) => endsInRelation target rest
      | _ => false

/-- `_apply_scope_filter`. -/
def applyScopeFilter (qs : QuerySet μ ρ) (path : LookupPath) (ids : Finset ℕ) :
    Except FieldError (List ρ) :=
  if ids = ∅ then .ok []
  else if !schema.lookupExists qs.model path then .ok []
  else if path ∈ [["id"], ["pk"]] ∨ schema.endsInRelation qs.model path then
    .ok (qs.rows.filter fun row => (qs.keyAt path row).any (· ∈ ids))
  else .error ⟨path⟩

/-- The levels that contribute a condition in the mixed mode. -/
def mixedLevels (qs : QuerySet μ ρ) (scope : AccessScope) (config : ScopeConfig) :
    List Level :=
  Level.all.filter fun level =>
    schema.lookupExists qs.model (config.field level) && scope.ids level ≠ ∅

/-- `filter_queryset_for_user` after it has computed the scope. -/
def scopeFilter (qs : QuerySet μ ρ) (scope : AccessScope) (config : ScopeConfig) :
    Except FieldError (List ρ) :=
  if scope.globalAccess then .ok qs.rows
  else if Level.all.all fun level => scope.ids level = ∅ then .ok []
  else
    match config.accessScope with
    | .level level => schema.applyScopeFilter qs (config.field level) (scope.ids level)
    | .mixed =>
        let levels := schema.mixedLevels qs scope config
        match levels.find? fun level =>
          !schema.endsInRelation qs.model (config.field level) with
        | some level => .error ⟨config.field level⟩
        | none =>
            .ok (qs.rows.filter fun row => levels.any fun level =>
              (qs.keyAt (config.field level) row).any (· ∈ scope.ids level))

/-- `filter_queryset_for_user`. -/
def filterQuerysetForUser (db : Directory) (qs : QuerySet μ ρ) (user : Option User)
    (config : ScopeConfig) : Except FieldError (List ρ) :=
  match user with
  | none => .ok []
  | some _ => schema.scopeFilter qs (db.getAccessScope user) config

/-! ### What the filter returns -/

/-- The mode looks at a level: the model has the configured path, and the mode
is the mixed one or the one of this level. -/
def Consults (model : μ) (config : ScopeConfig) (level : Level) : Prop :=
  schema.lookupExists model (config.field level) ∧
    (config.accessScope = .mixed ∨ config.accessScope = .level level)

/-- A row refers to a resource at a level that the mode consults. -/
def Refers (qs : QuerySet μ ρ) (config : ScopeConfig) (row : ρ) (r : Resource) : Prop :=
  schema.Consults qs.model config r.level ∧
    qs.keyAt (config.field r.level) row = some r.id

variable {schema} {qs : QuerySet μ ρ} {scope : AccessScope} {config : ScopeConfig}
  {out : List ρ}

theorem mem_applyScopeFilter {path : LookupPath} {ids : Finset ℕ}
    (hok : schema.applyScopeFilter qs path ids = .ok out) {row : ρ} :
    row ∈ out ↔ row ∈ qs.rows ∧ schema.lookupExists qs.model path ∧
      ∃ id, qs.keyAt path row = some id ∧ id ∈ ids := by
  unfold applyScopeFilter at hok
  split at hok
  · rename_i hids
    obtain rfl : [] = out := Except.ok.inj hok
    simp [hids]
  · split at hok
    · rename_i hlookup
      obtain rfl : [] = out := Except.ok.inj hok
      simp_all
    · rename_i hlookup
      split at hok
      · obtain rfl := Except.ok.inj hok
        simp_all [Option.any_eq_true]
      · cases hok

/-- A scope that contains something gets past the early return. -/
theorem not_all_empty_of_has {r : Resource} (h : scope.Has r) :
    ¬(Level.all.all fun level => scope.ids level = ∅) := by
  intro hall
  have hempty := List.all_eq_true.mp hall r.level (Level.mem_all r.level)
  rw [decide_eq_true_eq] at hempty
  simp [AccessScope.Has, hempty] at h

/-- **What the filter returns**: everything under global access, and otherwise
the rows that refer to a resource of the scope. -/
theorem mem_scopeFilter (hok : schema.scopeFilter qs scope config = .ok out) {row : ρ} :
    row ∈ out ↔ row ∈ qs.rows ∧
      (scope.globalAccess ∨ ∃ r, schema.Refers qs config row r ∧ scope.Has r) := by
  unfold scopeFilter at hok
  split at hok
  · rename_i hglobal
    obtain rfl := Except.ok.inj hok
    simp [hglobal]
  rename_i hglobal
  simp only [hglobal, Bool.false_eq_true, false_or]
  split at hok
  · rename_i hempty
    obtain rfl : [] = out := Except.ok.inj hok
    simp only [List.not_mem_nil, false_iff]
    rintro ⟨-, r, -, hhas⟩
    exact not_all_empty_of_has hhas hempty
  split at hok
  · -- one level
    rename_i level hmode
    rw [mem_applyScopeFilter hok]
    refine and_congr_right fun _ => ⟨?_, ?_⟩
    · rintro ⟨hlookup, id, hkey, hid⟩
      exact ⟨⟨level, id⟩, ⟨⟨hlookup, Or.inr hmode⟩, hkey⟩, hid⟩
    · rintro ⟨⟨level', id⟩, ⟨⟨hlookup, hmode'⟩, hkey⟩, hid⟩
      rw [hmode] at hmode'
      obtain rfl : level = level' := by simpa using hmode'
      exact ⟨hlookup, id, hkey, hid⟩
  · -- the mixed mode
    rename_i hmode
    dsimp only at hok
    split at hok
    · cases hok
    obtain rfl := Except.ok.inj hok
    simp only [List.mem_filter, List.any_eq_true, mixedLevels, Bool.and_eq_true,
      decide_eq_true_eq, Option.any_eq_true]
    refine and_congr_right fun _ => ⟨?_, ?_⟩
    · rintro ⟨level, ⟨-, hlookup, -⟩, id, hkey, hid⟩
      exact ⟨⟨level, id⟩, ⟨⟨hlookup, Or.inl hmode⟩, hkey⟩, hid⟩
    · rintro ⟨⟨level, id⟩, ⟨⟨hlookup, -⟩, hkey⟩, hid⟩
      exact ⟨level, ⟨Level.mem_all level, hlookup, Finset.ne_empty_of_mem hid⟩,
        id, hkey, hid⟩

theorem mem_filterQuerysetForUser {db : Directory} {user : User}
    (hok : schema.filterQuerysetForUser db qs (some user) config = .ok out) {row : ρ} :
    row ∈ out ↔ row ∈ qs.rows ∧
      ((db.getAccessScope (some user)).globalAccess ∨
        ∃ r, schema.Refers qs config row r ∧ (db.getAccessScope (some user)).Has r) :=
  mem_scopeFilter hok

end Schema

/-! ### The resource models -/

/-- The relations of the resource models to one another. -/
def Level.relations : Level → List (String × Level)
  | .organization => []
  | .dataCenter => [("organization", .organization)]
  | .room => [("data_center", .dataCenter)]
  | .rack => [("data_center", .dataCenter), ("room", .room)]
  | .device =>
      [("organization", .organization), ("data_center", .dataCenter), ("room", .room),
        ("rack", .rack)]

/-- The resource models, with the fields that lookup paths name. -/
def resourceSchema : Schema Level where
  getField model name :=
    match model.relations.lookup name with
    | some target => some (.relation target)
    | none => if name = "id" then some .column else none

namespace Hierarchy

variable (h : Hierarchy)

/-- The resource that a foreign key of a resource refers to. -/
def foreignKey (r : Resource) (field : String) : Option Resource :=
  match r.level, field with
  | .dataCenter, "organization" =>
      (h.dataCenters.find r.id).map fun row => ⟨.organization, row.organization⟩
  | .room, "data_center" =>
      (h.rooms.find r.id).map fun row => ⟨.dataCenter, row.dataCenter⟩
  | .rack, "data_center" =>
      (h.racks.find r.id).map fun row => ⟨.dataCenter, row.dataCenter⟩
  | .rack, "room" =>
      (h.racks.find r.id).bind fun row => row.room.map (Resource.mk .room)
  | .device, "organization" =>
      (h.devices.find r.id).map fun row => ⟨.organization, row.organization⟩
  | .device, "data_center" =>
      (h.devices.find r.id).map fun row => ⟨.dataCenter, row.dataCenter⟩
  | .device, "room" =>
      (h.devices.find r.id).bind fun row => row.room.map (Resource.mk .room)
  | .device, "rack" =>
      (h.devices.find r.id).bind fun row => row.rack.map (Resource.mk .rack)
  | _, _ => none

/-- The key at the end of a lookup path. -/
def keyAt : LookupPath → Resource → Option ℕ
  | [], _ => none
  | ["id"], r => some r.id
  | part :: rest, r =>
      (h.foreignKey r part).bind fun target =>
        if rest = [] then some target.id else keyAt rest target

/-- The organization of a resource: by its own key, or through its data center. -/
def organizationOf (r : Resource) : Option OrganizationId :=
  match r.level with
  | .organization => some r.id
  | .dataCenter | .device => h.keyAt ["organization"] r
  | .room | .rack => h.keyAt ["data_center", "organization"] r

/-- All resources of a level, as a query set. -/
def querySet (level : Level) : QuerySet Level Resource where
  model := level
  rows :=
    (match level with
      | .organization => h.organizations.rows.map Organization.id
      | .dataCenter => h.dataCenters.rows.map DataCenter.id
      | .room => h.rooms.rows.map Room.id
      | .rack => h.racks.rows.map Rack.id
      | .device => h.devices.rows.map Device.id).map (Resource.mk level)
  keyAt := h.keyAt

end Hierarchy

/-- `OrganizationViewSet`. -/
def organizationViewSet : ScopeConfig :=
  { accessScope := .level .organization, organizationField := ["id"] }

/-- `DataCenterViewSet`. -/
def dataCenterViewSet : ScopeConfig :=
  { accessScope := .level .dataCenter, dataCenterField := ["id"] }

/-- `RoomViewSet`. -/
def roomViewSet : ScopeConfig := { accessScope := .level .room, roomField := ["id"] }

/-- `RackViewSet`. -/
def rackViewSet : ScopeConfig := { accessScope := .level .rack, rackField := ["id"] }

/-- `DeviceViewSet`. -/
def deviceViewSet : ScopeConfig := { accessScope := .level .device, deviceField := ["id"] }

/-! ### Isolation of organizations -/

/-- No row of the result belongs to an organization other than `home`. -/
def TenantIsolated (organization : ρ → Option OrganizationId) (home : OrganizationId)
    (out : List ρ) : Prop :=
  ∀ row ∈ out, ∀ other, organization row = some other → other = home

/-- A row of another organization refers, at a level the mode consults, to a
resource that `home` reaches. -/
def Schema.CrossLinked (schema : Schema μ) (h : Hierarchy) (qs : QuerySet μ ρ)
    (config : ScopeConfig) (organization : ρ → Option OrganizationId)
    (home : OrganizationId) : Prop :=
  ∃ row ∈ qs.rows, ∃ other, organization row = some other ∧ other ≠ home ∧
    ∃ r, schema.Refers qs config row r ∧ h.Reaches ⟨.organization, home⟩ r

/-- A row that `clean` accepted, of a role that is not global, for an
organization. -/
def Directory.IsRowOf (db : Directory) (home : OrganizationId)
    (row : UserResourceAccess) : Prop :=
  db.isGlobal row = false ∧ (∃ raw : UserResourceAccess, raw.clean db = .ok row) ∧
    row.organization = some home

/-- The scope of a user whose active rows all name one organization: what the
organization reaches, or nothing without a row. -/
theorem has_getAccessScope_of_home {db : Directory} {user : User} {home : OrganizationId}
    (hsuper : user.isSuperuser = false)
    (hrows : ∀ row ∈ db.getUserResourceAccessRows (some user), db.IsRowOf home row) {r : Resource} :
    (db.getAccessScope (some user)).globalAccess = false ∧
      ((db.getAccessScope (some user)).Has r ↔
        db.getUserResourceAccessRows (some user) ≠ [] ∧
          db.hierarchy.Reaches ⟨.organization, home⟩ r) := by
  have hglobal : (db.getAccessScope (some user)).globalAccess = false := by
    rw [Directory.globalAccess_getAccessScope, hsuper, Bool.false_or, List.any_eq_false]
    intro row hrow
    simp [(hrows row hrow).1]
  refine ⟨hglobal, ?_⟩
  have hgrants : ∀ row ∈ db.getUserResourceAccessRows (some user),
      (row.Grants db.hierarchy r ↔ db.hierarchy.Reaches ⟨.organization, home⟩ r) := by
    intro row hrow
    simp [UserResourceAccess.Grants,
      UserResourceAccess.named_of_organization (hrows row hrow).2.2]
  rw [Directory.has_getAccessScope hglobal]
  constructor
  · rintro ⟨row, hrow, hgrant⟩
    exact ⟨List.ne_nil_of_mem hrow, (hgrants row hrow).mp hgrant⟩
  · rintro ⟨hne, hreach⟩
    obtain ⟨row, hrow⟩ := List.exists_mem_of_ne_nil _ hne
    exact ⟨row, hrow, (hgrants row hrow).mpr hreach⟩

/-- A user of one organization sees no row of another exactly when the user has
no active row, or no row of another organization is linked to what the user's
organization reaches. -/
theorem tenantIsolated_iff {schema : Schema μ} {db : Directory} {qs : QuerySet μ ρ}
    {config : ScopeConfig} {organization : ρ → Option OrganizationId} {user : User}
    {home : OrganizationId} {out : List ρ} (hsuper : user.isSuperuser = false)
    (hrows : ∀ row ∈ db.getUserResourceAccessRows (some user), db.IsRowOf home row)
    (hok : schema.filterQuerysetForUser db qs (some user) config = .ok out) :
    TenantIsolated organization home out ↔
      db.getUserResourceAccessRows (some user) = [] ∨
        ¬schema.CrossLinked db.hierarchy qs config organization home := by
  have hscope := fun r => has_getAccessScope_of_home hsuper hrows (r := r)
  have hmem : ∀ row, row ∈ out ↔ row ∈ qs.rows ∧
      ∃ r, schema.Refers qs config row r ∧
        db.getUserResourceAccessRows (some user) ≠ [] ∧
          db.hierarchy.Reaches ⟨.organization, home⟩ r := by
    intro row
    rw [Schema.mem_filterQuerysetForUser hok, (hscope ⟨.organization, home⟩).1]
    simp only [Bool.false_eq_true, false_or, (hscope _).2]
  constructor
  · intro hisolated
    by_cases hnone : db.getUserResourceAccessRows (some user) = []
    · exact Or.inl hnone
    · refine Or.inr ?_
      rintro ⟨row, hrow, other, hother, hne, r, hrefers, hreach⟩
      have hout := (hmem row).mpr ⟨hrow, r, hrefers, hnone, hreach⟩
      exact hne (hisolated row hout other hother)
  · rintro hcond row hout other hother
    obtain ⟨hrow, r, hrefers, hnone, hreach⟩ := (hmem row).mp hout
    by_contra hne
    exact (hcond.resolve_left hnone) ⟨row, hrow, other, hother, hne, r, hrefers, hreach⟩

/-- A device of the first organization that stands in a data center of the
second: both columns are plain foreign keys. -/
def crossLinked : Hierarchy :=
  .flat (.ofRows [⟨1⟩, ⟨2⟩]) (.ofRows [⟨1, 2⟩])
    (.ofRows [{ id := 1, organization := 1, dataCenter := 1, deviceType := 1, name := "UPS 01" }])
    (.refl true)

/-- The access row of an administrator of the first organization. -/
def bankAdmin : UserResourceAccess := { id := 1, user := 1, organization := some 1, role := 1 }

/-- A user whose only row is `bankAdmin`. -/
def crossLinkedDirectory : Directory :=
  .ofTables crossLinked (.ofRows [⟨1, false⟩]) (.ofRows [⟨1, .organization⟩]) .empty .empty
    (.ofRows [bankAdmin]) (.refl true)

theorem bankAdmin_isRowOf :
    ∀ row ∈ crossLinkedDirectory.getUserResourceAccessRows (some ⟨1, false⟩),
      crossLinkedDirectory.IsRowOf 1 row := by
  have hrows : crossLinkedDirectory.getUserResourceAccessRows (some ⟨1, false⟩) =
      [bankAdmin] := by decide
  rw [hrows, List.forall_mem_singleton]
  exact ⟨by decide, ⟨bankAdmin, by decide⟩, rfl⟩

theorem tenantIsolated_iff_bankAdmin :
    TenantIsolated crossLinked.organizationOf 1 [(⟨.dataCenter, 1⟩ : Resource)] ↔
      crossLinkedDirectory.getUserResourceAccessRows (some ⟨1, false⟩) = [] ∨
        ¬resourceSchema.CrossLinked crossLinked (crossLinked.querySet .dataCenter)
          dataCenterViewSet crossLinked.organizationOf 1 := by
  have hok : resourceSchema.filterQuerysetForUser crossLinkedDirectory
      (crossLinked.querySet .dataCenter) (some ⟨1, false⟩) dataCenterViewSet =
        .ok [⟨.dataCenter, 1⟩] := by decide
  exact tenantIsolated_iff rfl bankAdmin_isRowOf hok

/-- The administrator of the first organization lists the data center of the
second. -/
theorem bankAdmin_sees_other_organization :
    (∀ row ∈ crossLinkedDirectory.getUserResourceAccessRows (some ⟨1, false⟩),
      crossLinkedDirectory.IsRowOf 1 row) ∧
      resourceSchema.filterQuerysetForUser crossLinkedDirectory
        (crossLinked.querySet .dataCenter) (some ⟨1, false⟩) dataCenterViewSet =
          .ok [⟨.dataCenter, 1⟩] ∧
      ¬TenantIsolated crossLinked.organizationOf 1 [⟨.dataCenter, 1⟩] := by
  refine ⟨bankAdmin_isRowOf, by decide, fun hisolated => ?_⟩
  have hother : (2 : OrganizationId) = 1 :=
    hisolated ⟨.dataCenter, 1⟩ List.mem_cons_self 2 (by decide)
  exact absurd hother (by decide)

end DcimBackend
