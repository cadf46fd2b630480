import DcimBackend.Access.ViewSets
import DcimBackend.Library.Tally

/-!
# What a user is told to have access to

`access_context` (`apps/access_control/views.py`) and `available_for_me` (`apps/devices/views.py`)
list the resources of a user without the filter of the view sets: `_get_accessible_queryset` goes
by the scope alone.  The orders by name are left out.

`accessContext_consistent` compares the two.  Each list is what the view set of its level shows, and
the lists are a tree: what a listed resource refers to is listed too.

The lists go by the scope, the view sets by the scope and a mode.  They agree on the models of the
hierarchy because each of these view sets filters in the mode of its own level; the proof compares
the two filters level by level.  Permissions are those of all rows of the user taken together.
-/

namespace DcimBackend

open Library

namespace Directory

variable (db : Directory)

/-! ### The lists -/

/-- `_get_accessible_queryset`. -/
def getAccessibleQueryset {ρ : Type} [Keyed ρ] (model : Table ρ) (scope : AccessScope)
    (level : Level) : List ρ :=
  if scope.globalAccess then model.rows
  else if scope.ids level = ∅ then []
  else model.rows.filter fun row => pk row ∈ scope.ids level

/-- `get_accessible_organizations_for_user`. -/
def getAccessibleOrganizationsForUser (user : Option User) : List Organization :=
  getAccessibleQueryset db.hierarchy.organizations (db.getAccessScope user) .organization

/-- `get_accessible_data_centers_for_user`. -/
def getAccessibleDataCentersForUser (user : Option User) : List DataCenter :=
  getAccessibleQueryset db.hierarchy.dataCenters (db.getAccessScope user) .dataCenter

/-- `get_accessible_rooms_for_user`. -/
def getAccessibleRoomsForUser (user : Option User) : List Room :=
  getAccessibleQueryset db.hierarchy.rooms (db.getAccessScope user) .room

/-- `get_accessible_racks_for_user`. -/
def getAccessibleRacksForUser (user : Option User) : List Rack :=
  getAccessibleQueryset db.hierarchy.racks (db.getAccessScope user) .rack

/-- `get_accessible_devices_for_user`. -/
def getAccessibleDevicesForUser (user : Option User) : List Device :=
  getAccessibleQueryset db.hierarchy.devices (db.getAccessScope user) .device

/-- The payload of `access_context`. -/
structure AccessContext where
  roles : List Role
  permissions : List Permission
  organizations : List Organization
  dataCenters : List DataCenter
  rooms : List Room
  racks : List Rack
  devices : List Device

/-- `access_context`. -/
def accessContext (user : User) : AccessContext where
  roles := db.roles.select fun role => db.accesses.rows.any fun row =>
    row.role = role.id && row.user = user.id && row.isActive
  permissions := db.permissions.select fun permission =>
    permission.code ∈ db.getEffectivePermissionCodes (some user)
  organizations := db.getAccessibleOrganizationsForUser (some user)
  dataCenters := db.getAccessibleDataCentersForUser (some user)
  rooms := db.getAccessibleRoomsForUser (some user)
  racks := db.getAccessibleRacksForUser (some user)
  devices := db.getAccessibleDevicesForUser (some user)

/-- The resources of a level in the payload. -/
def AccessContext.resources (context : AccessContext) (level : Level) : List Resource :=
  (match level with
    | .organization => context.organizations.map Organization.id
    | .dataCenter => context.dataCenters.map DataCenter.id
    | .room => context.rooms.map Room.id
    | .rack => context.racks.map Rack.id
    | .device => context.devices.map Device.id).map (Resource.mk level)

/-- `DeviceTypeViewSet.available_for_me`: the types of the devices, with how many there are. -/
def availableForMe (user : User) : List (DeviceTypeId × ℕ) :=
  let devices := db.getAccessibleDevicesForUser (some user)
  if devices = [] then []
  else (groups Device.deviceType devices).map fun deviceType =>
    (deviceType, devices.countP fun device => device.deviceType = deviceType)

/-! ### Two ways to one list -/

/-- The view set of a level. -/
def resourceViewSet : Level → ScopeConfig
  | .organization => organizationViewSet
  | .dataCenter => dataCenterViewSet
  | .room => roomViewSet
  | .rack => rackViewSet
  | .device => deviceViewSet

variable {db} {user : User}

theorem resourceViewSet_field (level : Level) :
    (resourceViewSet level).accessScope = .level level ∧
      (resourceViewSet level).field level = ["id"] := by
  cases level with
  | organization => exact ⟨rfl, rfl⟩
  | dataCenter => exact ⟨rfl, rfl⟩
  | room => exact ⟨rfl, rfl⟩
  | rack => exact ⟨rfl, rfl⟩
  | device => exact ⟨rfl, rfl⟩

/-- Every resource model has a primary key. -/
theorem lookupExists_id (level : Level) : resourceSchema.lookupExists level ["id"] = true := by
  cases level with
  | organization => rfl
  | dataCenter => rfl
  | room => rfl
  | rack => rfl
  | device => rfl

/-- The list of a level, as the view sets have it and as `_get_accessible_queryset` does. -/
theorem filterQuerysetForUser_eq {ρ : Type} [Keyed ρ] (model : Table ρ) (level : Level)
    (hrows : (db.hierarchy.querySet level).rows =
      (model.rows.map fun row => pk row).map (Resource.mk level)) :
    resourceSchema.filterQuerysetForUser db (db.hierarchy.querySet level) (some user)
        (resourceViewSet level) =
      .ok (((getAccessibleQueryset model (db.getAccessScope (some user)) level).map
        fun row => pk row).map (Resource.mk level)) := by
  obtain ⟨hmode, hfield⟩ := resourceViewSet_field level
  show resourceSchema.scopeFilter _ (db.getAccessScope (some user)) _ = _
  generalize db.getAccessScope (some user) = scope
  unfold Schema.scopeFilter getAccessibleQueryset
  rw [hmode]
  dsimp only
  rw [hfield]
  split
  · rw [hrows]
  · split
    · rename_i hall
      have hempty := List.all_eq_true.mp hall level (Level.mem_all level)
      rw [if_pos (of_decide_eq_true hempty)]
      rfl
    · unfold Schema.applyScopeFilter
      split
      · rfl
      · have hmodel : (db.hierarchy.querySet level).model = level := rfl
        rw [hmodel, lookupExists_id, if_neg (by decide), if_pos (Or.inl (by decide)), hrows,
          List.filter_map, List.filter_map]
        rfl

/-- The lists of the payload are those of the view sets. -/
theorem viewSet_eq_resources (level : Level) :
    resourceSchema.filterQuerysetForUser db (db.hierarchy.querySet level) (some user)
        (resourceViewSet level) = .ok ((db.accessContext user).resources level) := by
  cases level with
  | organization => exact filterQuerysetForUser_eq db.hierarchy.organizations .organization rfl
  | dataCenter => exact filterQuerysetForUser_eq db.hierarchy.dataCenters .dataCenter rfl
  | room => exact filterQuerysetForUser_eq db.hierarchy.rooms .room rfl
  | rack => exact filterQuerysetForUser_eq db.hierarchy.racks .rack rfl
  | device => exact filterQuerysetForUser_eq db.hierarchy.devices .device rfl

/-! ### The tree -/

theorem mem_getAccessibleQueryset {ρ : Type} [Keyed ρ] {model : Table ρ} {scope : AccessScope}
    {level : Level} {row : ρ} : row ∈ getAccessibleQueryset model scope level ↔
      row ∈ model ∧ (scope.globalAccess = true ∨ pk row ∈ scope.ids level) := by
  unfold getAccessibleQueryset
  split
  · rename_i hglobal
    simp [Table.mem_def, hglobal]
  · rename_i hglobal
    split
    · rename_i hempty
      simp [hglobal, hempty]
    · simp [Table.mem_def, hglobal]

/-- A resource is listed exactly if it exists and belongs to the scope. -/
theorem mem_resources {r : Resource} :
    r ∈ (db.accessContext user).resources r.level ↔ db.hierarchy.exists? r ∧
      ((db.getAccessScope (some user)).globalAccess ∨ (db.getAccessScope (some user)).Has r) := by
  obtain ⟨level, id⟩ := r
  have hmem : ∀ {ρ : Type} [Keyed ρ] (model : Table ρ) (scope : AccessScope),
      (⟨level, id⟩ : Resource) ∈ ((getAccessibleQueryset model scope level).map
        fun row => pk row).map (Resource.mk level) ↔
          (model.find id).isSome ∧ (scope.globalAccess ∨ id ∈ scope.ids level) := by
    intro ρ _ model scope
    rw [Table.isSome_find_iff]
    constructor
    · intro h
      obtain ⟨key, hkey, heq⟩ := List.mem_map.mp h
      obtain ⟨row, hrow, rfl⟩ := List.mem_map.mp hkey
      obtain ⟨hstored, hscope⟩ := mem_getAccessibleQueryset.mp hrow
      have hid : pk row = id := congrArg Resource.id heq
      exact ⟨⟨row, hstored, hid⟩, hid ▸ hscope⟩
    · rintro ⟨⟨row, hstored, rfl⟩, hscope⟩
      exact List.mem_map_of_mem (List.mem_map_of_mem
        (mem_getAccessibleQueryset.mpr ⟨hstored, hscope⟩))
  cases level with
  | organization => exact hmem db.hierarchy.organizations _
  | dataCenter => exact hmem db.hierarchy.dataCenters _
  | room => exact hmem db.hierarchy.rooms _
  | rack => exact hmem db.hierarchy.racks _
  | device => exact hmem db.hierarchy.devices _

/-- What a foreign key refers to exists. -/
theorem exists_of_parent {r p : Resource} (h : db.hierarchy.Parent r p) :
    db.hierarchy.exists? p := by
  cases h with
  | dataCenterOrganization hrow => exact db.hierarchy.dataCenter_organization _ hrow
  | roomDataCenter hrow => exact db.hierarchy.room_dataCenter _ hrow
  | rackRoom hrow hroom => exact db.hierarchy.rack_room _ hrow _ hroom
  | rackDataCenter hrow => exact db.hierarchy.rack_dataCenter _ hrow
  | deviceRack hrow hrack => exact db.hierarchy.device_rack _ hrow _ hrack
  | deviceRoom hrow hroom => exact db.hierarchy.device_room _ hrow _ hroom
  | deviceDataCenter hrow => exact db.hierarchy.device_dataCenter _ hrow
  | deviceOrganization hrow => exact db.hierarchy.device_organization _ hrow

/-- The lists are a tree. -/
theorem parent_mem_resources {r p : Resource}
    (hr : r ∈ (db.accessContext user).resources r.level) (h : db.hierarchy.Parent r p) :
    p ∈ (db.accessContext user).resources p.level := by
  rw [mem_resources] at hr ⊢
  refine ⟨exists_of_parent h, ?_⟩
  cases hglobal : (db.getAccessScope (some user)).globalAccess with
  | true => exact Or.inl rfl
  | false =>
      rcases hr.2 with htrue | hhas
      · rw [hglobal] at htrue
        cases htrue
      · exact Or.inr (has_of_above hglobal (Relation.ReflTransGen.single h) hhas)

/-! ### Permissions and types -/

/-- A code is effective exactly if a permission of the payload has it. -/
theorem mem_codes_accessContext {code : String} :
    (∃ permission ∈ (db.accessContext user).permissions, permission.code = code) ↔
      code ∈ db.getEffectivePermissionCodes (some user) := by
  simp only [accessContext, Table.mem_select, decide_eq_true_eq]
  constructor
  · rintro ⟨permission, ⟨-, hcode⟩, rfl⟩
    exact hcode
  · intro hcode
    have hstored : ∃ permission ∈ db.permissions, permission.code = code := by
      rw [mem_effectivePermissionCodes_iff] at hcode
      rcases hcode with ⟨-, hstored⟩ | ⟨-, row, -, link, -, -, permission, hpermission, -, hcode⟩
      · exact hstored
      · exact ⟨permission, hpermission, hcode⟩
    obtain ⟨permission, hpermission, rfl⟩ := hstored
    exact ⟨permission, ⟨hpermission, hcode⟩, rfl⟩

/-- The permissions are those of the roles. -/
theorem mem_permissions_accessContext (hsuper : user.isSuperuser = false) {permission : Permission}
    (hpermission : permission ∈ db.permissions) :
    permission ∈ (db.accessContext user).permissions ↔
      ∃ role ∈ (db.accessContext user).roles, db.RoleGrants role.id permission.code := by
  simp only [accessContext, Table.mem_select, decide_eq_true_eq]
  rw [and_iff_right hpermission, mem_getEffectivePermissionCodes hsuper]
  constructor
  · rintro ⟨row, hrow, hgrants⟩
    obtain ⟨hstored, huser, hactive⟩ := mem_getUserResourceAccessRows.mp hrow
    obtain ⟨role, hrole, hkey, -⟩ := Table.exists_mem_of_isSome (db.access_role row hstored)
    have hid : row.role = role.id := hkey.symm
    refine ⟨role, ⟨hrole, List.any_eq_true.mpr ⟨row, hstored, ?_⟩⟩, hid ▸ hgrants⟩
    simp [hid, huser, hactive]
  · rintro ⟨role, ⟨-, hassigned⟩, hgrants⟩
    obtain ⟨row, hstored, hrow⟩ := List.any_eq_true.mp hassigned
    simp only [Bool.and_eq_true, decide_eq_true_eq] at hrow
    exact ⟨row, mem_getUserResourceAccessRows.mpr ⟨hstored, hrow.1.2, hrow.2⟩,
      hrow.1.1 ▸ hgrants⟩

/-- The types that `available_for_me` lists, and how many devices it counts. -/
structure CountsDevices (devices : List Device) (available : List (DeviceTypeId × ℕ)) : Prop where
  once : (available.map Prod.fst).Nodup
  listed : ∀ device ∈ devices, device.deviceType ∈ available.map Prod.fst
  counted : ∀ entry ∈ available, 0 < entry.2 ∧
    entry.2 = devices.countP fun device => device.deviceType = entry.1
  total : (available.map Prod.snd).sum = devices.length

theorem countsDevices_availableForMe :
    CountsDevices (db.accessContext user).devices (db.availableForMe user) := by
  show CountsDevices (db.getAccessibleDevicesForUser (some user)) _
  unfold availableForMe
  generalize db.getAccessibleDevicesForUser (some user) = devices
  dsimp only
  split
  · rename_i hnone
    rw [hnone]
    exact ⟨List.nodup_nil, fun _ h => (List.not_mem_nil h).elim,
      fun _ h => (List.not_mem_nil h).elim, rfl⟩
  · have hfst : ((groups Device.deviceType devices).map fun deviceType =>
        (deviceType, devices.countP fun device => device.deviceType = deviceType)).map Prod.fst =
          groups Device.deviceType devices := by
      rw [List.map_map]
      exact List.map_id _
    constructor
    · rw [hfst]
      exact nodup_groups _ _
    · intro device hdevice
      rw [hfst]
      exact (mem_groups _ _).mpr ⟨device, hdevice, rfl⟩
    · intro entry hentry
      obtain ⟨deviceType, htype, rfl⟩ := List.mem_map.mp hentry
      exact ⟨countP_pos_of_mem_groups _ _ htype, rfl⟩
    · rw [List.map_map]
      exact sum_groups Device.deviceType devices

/-! ### The payload -/

/-- The payload fits the view sets, is a tree, and has the permissions of its roles. -/
structure AccessContext.Consistent (db : Directory) (user : User) (context : AccessContext) :
    Prop where
  sameAsViewSets : ∀ level, resourceSchema.filterQuerysetForUser db (db.hierarchy.querySet level)
    (some user) (resourceViewSet level) = .ok (context.resources level)
  tree : ∀ r p, r ∈ context.resources r.level → db.hierarchy.Parent r p →
    p ∈ context.resources p.level
  codes : ∀ code, (∃ permission ∈ context.permissions, permission.code = code) ↔
    code ∈ db.getEffectivePermissionCodes (some user)
  permissions : user.isSuperuser = false → ∀ permission ∈ db.permissions,
    permission ∈ context.permissions ↔
      ∃ role ∈ context.roles, db.RoleGrants role.id permission.code
  deviceTypes : CountsDevices context.devices (db.availableForMe user)

/-- **What a user is told** is what the user has. -/
theorem accessContext_consistent (db : Directory) (user : User) :
    (db.accessContext user).Consistent db user where
  sameAsViewSets := viewSet_eq_resources
  tree _ _ hr h := parent_mem_resources hr h
  codes _ := mem_codes_accessContext
  permissions hsuper _ hpermission := mem_permissions_accessContext hsuper hpermission
  deviceTypes := countsDevices_availableForMe

end Directory

end DcimBackend
