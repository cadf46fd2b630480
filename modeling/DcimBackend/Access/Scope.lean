import DcimBackend.Access.Models
import DcimBackend.Library.Accumulate
import Mathlib.Data.Finset.Insert
import Mathlib.Logic.Function.Basic

/-!
# The access scope of a user

`apps/common/access.py`, up to `get_effective_permission_codes`: how a user's
active access rows are expanded into five sets of ids and a global flag.

The functions walk the hierarchy the way the source does — upwards through the
foreign keys of each row they add, downwards by one query per level.
`has_expandRowScope` says what that walk computes: exactly what the named
resource `Reaches`.  Everything after it is about `Reaches`.

A `user` is `none` where the source handles a missing or anonymous one.

The hierarchy may be inconsistent: every foreign key is a column of its own, and nothing in the
database makes a rack's data center that of its room.  So `Reaches` follows each key, up and down,
and the ids of a scope are what the walk really collects, not what a tree would give.

Global access is a flag beside the ids.  The loop over the rows ends at the first global one, with
whatever ids it has collected by then.
-/

namespace DcimBackend

open Library

/-- The dictionary of `_blank_scope`: a flag and a set of ids per level. -/
structure AccessScope where
  globalAccess : Bool := false
  ids : Level → Finset ℕ := fun _ => ∅

namespace AccessScope

/-- The scope contains a resource by its id set. -/
def Has (scope : AccessScope) (r : Resource) : Prop := r.id ∈ scope.ids r.level

instance (scope : AccessScope) (r : Resource) : Decidable (scope.Has r) :=
  inferInstanceAs (Decidable (r.id ∈ scope.ids r.level))

/-- `_blank_scope`. -/
def blankScope : AccessScope := {}

@[simp] theorem not_has_blankScope (r : Resource) : ¬blankScope.Has r := by
  simp [blankScope, Has]

/-- `_add`. -/
def add (scope : AccessScope) (r : Resource) : AccessScope :=
  { scope with
    ids := Function.update scope.ids r.level (insert r.id (scope.ids r.level)) }

@[simp] theorem globalAccess_add (scope : AccessScope) (r : Resource) :
    (scope.add r).globalAccess = scope.globalAccess := rfl

theorem has_add {scope : AccessScope} {r r' : Resource} :
    (scope.add r).Has r' ↔ scope.Has r' ∨ r' = r := by
  obtain ⟨level, id⟩ := r
  obtain ⟨level', id'⟩ := r'
  by_cases hlevel : level' = level
  · subst hlevel
    simp [add, Has, or_comm]
  · simp [add, Has, hlevel]

/-! ### Upward closure -/

/-- `if row.other_id: _add_other(scope, row.other)`: add the row that a foreign
key refers to.  A key that refers to no row is ruled out by the foreign-key
constraints. -/
def follow {ρ : Type} [Keyed ρ] (table : Table ρ)
    (addRow : AccessScope → ρ → AccessScope) (key : Option ℕ)
    (scope : AccessScope) : AccessScope :=
  match key.bind table.find with
  | some row => addRow scope row
  | none => scope

theorem has_follow {ρ : Type} [Keyed ρ] {table : Table ρ}
    {addRow : AccessScope → ρ → AccessScope} {key : Option ℕ} {r : Resource}
    {P : ℕ → Prop} (hkey : ∀ id ∈ key, (table.find id).isSome)
    (hadd : ∀ row ∈ table, ∀ scope,
      (addRow scope row).Has r ↔ scope.Has r ∨ P (pk row))
    (scope : AccessScope) :
    (scope.follow table addRow key).Has r ↔ scope.Has r ∨ ∃ id ∈ key, P id := by
  cases key with
  | none => simp [follow]
  | some id =>
      obtain ⟨row, hmem, rfl, hfind⟩ := Table.exists_mem_of_isSome (hkey id rfl)
      simp [follow, hfind, hadd row hmem]

variable (h : Hierarchy)

/-- `_add_organization`. -/
def addOrganization (scope : AccessScope) (organization : Organization) : AccessScope :=
  scope.add ⟨.organization, organization.id⟩

/-- `_add_data_center`. -/
def addDataCenter (scope : AccessScope) (dataCenter : DataCenter) : AccessScope :=
  (scope.add ⟨.dataCenter, dataCenter.id⟩)
    |>.follow h.organizations addOrganization (some dataCenter.organization)

/-- `_add_room`. -/
def addRoom (scope : AccessScope) (room : Room) : AccessScope :=
  (scope.add ⟨.room, room.id⟩)
    |>.follow h.dataCenters (addDataCenter h) (some room.dataCenter)

/-- `_add_rack`.  A rack always has a data center, so the branch that would take
the room's is never reached. -/
def addRack (scope : AccessScope) (rack : Rack) : AccessScope :=
  (scope.add ⟨.rack, rack.id⟩)
    |>.follow h.rooms (addRoom h) rack.room
    |>.follow h.dataCenters (addDataCenter h) (some rack.dataCenter)

/-- `_add_device`. -/
def addDevice (scope : AccessScope) (device : Device) : AccessScope :=
  (scope.add ⟨.device, device.id⟩)
    |>.follow h.racks (addRack h) device.rack
    |>.follow h.rooms (addRoom h) device.room
    |>.follow h.dataCenters (addDataCenter h) (some device.dataCenter)
    |>.follow h.organizations addOrganization (some device.organization)

variable {h} {r : Resource}

theorem has_addOrganization {organization : Organization} {scope : AccessScope} :
    (scope.addOrganization organization).Has r ↔
      scope.Has r ∨ h.Above ⟨.organization, organization.id⟩ r := by
  rw [addOrganization, has_add, Hierarchy.above_organization]

theorem has_addDataCenter {dataCenter : DataCenter} (hmem : dataCenter ∈ h.dataCenters)
    {scope : AccessScope} :
    (scope.addDataCenter h dataCenter).Has r ↔
      scope.Has r ∨ h.Above ⟨.dataCenter, dataCenter.id⟩ r := by
  rw [addDataCenter,
    has_follow (P := fun id => h.Above ⟨.organization, id⟩ r)
      (by simpa using h.dataCenter_organization _ hmem)
      (fun organization _ scope => @has_addOrganization h r organization scope),
    has_add, Hierarchy.above_dataCenter hmem, or_assoc]
  simp

theorem has_addRoom {room : Room} (hmem : room ∈ h.rooms) {scope : AccessScope} :
    (scope.addRoom h room).Has r ↔ scope.Has r ∨ h.Above ⟨.room, room.id⟩ r := by
  rw [addRoom,
    has_follow (P := fun id => h.Above ⟨.dataCenter, id⟩ r)
      (by simpa using h.room_dataCenter _ hmem)
      (fun _ hdc _ => has_addDataCenter hdc),
    has_add, Hierarchy.above_room hmem, or_assoc]
  simp

theorem has_addRack {rack : Rack} (hmem : rack ∈ h.racks) {scope : AccessScope} :
    (scope.addRack h rack).Has r ↔ scope.Has r ∨ h.Above ⟨.rack, rack.id⟩ r := by
  rw [addRack,
    has_follow (P := fun id => h.Above ⟨.dataCenter, id⟩ r)
      (by simpa using h.rack_dataCenter _ hmem)
      (fun _ hdc _ => has_addDataCenter hdc),
    has_follow (P := fun id => h.Above ⟨.room, id⟩ r)
      (h.rack_room _ hmem) (fun _ hroom _ => has_addRoom hroom),
    has_add, Hierarchy.above_rack hmem]
  simp only [or_assoc, Option.mem_def, Option.some.injEq, exists_eq_left']

theorem has_addDevice {device : Device} (hmem : device ∈ h.devices)
    {scope : AccessScope} :
    (scope.addDevice h device).Has r ↔
      scope.Has r ∨ h.Above ⟨.device, device.id⟩ r := by
  rw [addDevice,
    has_follow (P := fun id => h.Above ⟨.organization, id⟩ r)
      (by simpa using h.device_organization _ hmem)
      (fun organization _ scope => @has_addOrganization h r organization scope),
    has_follow (P := fun id => h.Above ⟨.dataCenter, id⟩ r)
      (by simpa using h.device_dataCenter _ hmem)
      (fun _ hdc _ => has_addDataCenter hdc),
    has_follow (P := fun id => h.Above ⟨.room, id⟩ r)
      (h.device_room _ hmem) (fun _ hroom _ => has_addRoom hroom),
    has_follow (P := fun id => h.Above ⟨.rack, id⟩ r)
      (h.device_rack _ hmem) (fun _ hrack _ => has_addRack hrack),
    has_add, Hierarchy.above_device hmem]
  simp only [or_assoc, Option.mem_def, Option.some.injEq, exists_eq_left']

/-! ### Downward expansion -/

variable (h)

/-- `_expand_row_scope` at an organization: its devices, then its data centers
with the rooms and racks of each. -/
def expandOrganization (scope : AccessScope) (id : OrganizationId) : AccessScope :=
  let scope := scope.follow h.organizations addOrganization (some id)
  let scope :=
    (h.devices.select fun device => device.organization = id).foldl (addDevice h) scope
  (h.dataCenters.select fun dataCenter => dataCenter.organization = id).foldl
    (fun scope dataCenter =>
      let scope := scope.addDataCenter h dataCenter
      let scope :=
        (h.rooms.select fun room => room.dataCenter = dataCenter.id).foldl
          (addRoom h) scope
      (h.racks.select fun rack => rack.dataCenter = dataCenter.id).foldl
        (addRack h) scope)
    scope

/-- `_expand_row_scope` at a data center: its rooms, racks and devices. -/
def expandDataCenter (scope : AccessScope) (id : DataCenterId) : AccessScope :=
  let scope := scope.follow h.dataCenters (addDataCenter h) (some id)
  let scope := (h.rooms.select fun room => room.dataCenter = id).foldl (addRoom h) scope
  let scope := (h.racks.select fun rack => rack.dataCenter = id).foldl (addRack h) scope
  (h.devices.select fun device => device.dataCenter = id).foldl (addDevice h) scope

/-- `_expand_row_scope` at a room: its racks and devices. -/
def expandRoom (scope : AccessScope) (id : RoomId) : AccessScope :=
  let scope := scope.follow h.rooms (addRoom h) (some id)
  let scope := (h.racks.select fun rack => rack.room = some id).foldl (addRack h) scope
  (h.devices.select fun device => device.room = some id).foldl (addDevice h) scope

/-- `_expand_row_scope` at a rack: its devices. -/
def expandRack (scope : AccessScope) (id : RackId) : AccessScope :=
  let scope := scope.follow h.racks (addRack h) (some id)
  (h.devices.select fun device => device.rack = some id).foldl (addDevice h) scope

/-- `_expand_row_scope` at a device: the device alone. -/
def expandDevice (scope : AccessScope) (id : DeviceId) : AccessScope :=
  scope.follow h.devices (addDevice h) (some id)

variable {h}

/-- A loop over a query that adds each row's upward closure. -/
theorem has_foldl_select {ρ : Type} [Keyed ρ] {table : Table ρ} {p : ρ → Bool}
    {addRow : AccessScope → ρ → AccessScope} {P : ℕ → Prop}
    (hadd : ∀ row ∈ table, ∀ scope,
      (addRow scope row).Has r ↔ scope.Has r ∨ P (pk row))
    (scope : AccessScope) :
    ((table.select p).foldl addRow scope).Has r ↔
      scope.Has r ∨ ∃ row ∈ table, p row ∧ P (pk row) := by
  rw [foldl_iff (Q := fun scope : AccessScope => scope.Has r) (P := fun row => P (pk row))
    (fun scope row hrow => hadd row (Table.mem_select.mp hrow).1 scope)]
  simp only [Table.mem_select, and_assoc]

theorem has_expandOrganization {id : OrganizationId}
    (hid : h.exists? ⟨.organization, id⟩) {scope : AccessScope} :
    (scope.expandOrganization h id).Has r ↔
      scope.Has r ∨ h.Reaches ⟨.organization, id⟩ r := by
  -- one data center with its rooms and racks
  have hdataCenter : ∀ dataCenter ∈ h.dataCenters, ∀ scope : AccessScope,
      ((h.racks.select fun rack => rack.dataCenter = dataCenter.id).foldl (addRack h)
        ((h.rooms.select fun room => room.dataCenter = dataCenter.id).foldl (addRoom h)
          (scope.addDataCenter h dataCenter))).Has r ↔
      scope.Has r ∨ h.Above ⟨.dataCenter, dataCenter.id⟩ r ∨
        (∃ room ∈ h.rooms, room.dataCenter = dataCenter.id ∧
          h.Above ⟨.room, room.id⟩ r) ∨
        ∃ rack ∈ h.racks, rack.dataCenter = dataCenter.id ∧
          h.Above ⟨.rack, rack.id⟩ r := by
    intro dataCenter hmem scope
    rw [has_foldl_select (P := fun id => h.Above ⟨.rack, id⟩ r)
        (fun _ hrack _ => has_addRack hrack),
      has_foldl_select (P := fun id => h.Above ⟨.room, id⟩ r)
        (fun _ hroom _ => has_addRoom hroom),
      has_addDataCenter hmem]
    simp only [decide_eq_true_eq, or_assoc]
    rfl
  rw [expandOrganization,
    foldl_iff (Q := fun scope : AccessScope => scope.Has r)
      (fun scope dataCenter hmem =>
      hdataCenter dataCenter (Table.mem_select.mp hmem).1 scope),
    has_foldl_select (P := fun id => h.Above ⟨.device, id⟩ r)
      (fun _ hdevice _ => has_addDevice hdevice),
    has_follow (P := fun id => h.Above ⟨.organization, id⟩ r)
      (by simpa [Hierarchy.exists?] using hid)
      (fun organization _ scope => @has_addOrganization h r organization scope),
    Hierarchy.reaches_organization hid]
  simp only [Table.mem_select, decide_eq_true_eq, or_assoc, and_assoc, Option.mem_def,
    Option.some.injEq, exists_eq_left']
  rfl

theorem has_expandDataCenter {id : DataCenterId}
    (hid : h.exists? ⟨.dataCenter, id⟩) {scope : AccessScope} :
    (scope.expandDataCenter h id).Has r ↔
      scope.Has r ∨ h.Reaches ⟨.dataCenter, id⟩ r := by
  rw [expandDataCenter,
    has_foldl_select (P := fun id => h.Above ⟨.device, id⟩ r)
      (fun _ hdevice _ => has_addDevice hdevice),
    has_foldl_select (P := fun id => h.Above ⟨.rack, id⟩ r)
      (fun _ hrack _ => has_addRack hrack),
    has_foldl_select (P := fun id => h.Above ⟨.room, id⟩ r)
      (fun _ hroom _ => has_addRoom hroom),
    has_follow (P := fun id => h.Above ⟨.dataCenter, id⟩ r)
      (by simpa [Hierarchy.exists?] using hid) (fun _ hdc _ => has_addDataCenter hdc),
    Hierarchy.reaches_dataCenter hid]
  simp only [decide_eq_true_eq, or_assoc, Option.mem_def, Option.some.injEq,
    exists_eq_left']
  rfl

theorem has_expandRoom {id : RoomId} (hid : h.exists? ⟨.room, id⟩)
    {scope : AccessScope} :
    (scope.expandRoom h id).Has r ↔ scope.Has r ∨ h.Reaches ⟨.room, id⟩ r := by
  rw [expandRoom,
    has_foldl_select (P := fun id => h.Above ⟨.device, id⟩ r)
      (fun _ hdevice _ => has_addDevice hdevice),
    has_foldl_select (P := fun id => h.Above ⟨.rack, id⟩ r)
      (fun _ hrack _ => has_addRack hrack),
    has_follow (P := fun id => h.Above ⟨.room, id⟩ r)
      (by simpa [Hierarchy.exists?] using hid) (fun _ hroom _ => has_addRoom hroom),
    Hierarchy.reaches_room hid]
  simp only [decide_eq_true_eq, or_assoc, Option.mem_def, Option.some.injEq,
    exists_eq_left']
  rfl

theorem has_expandRack {id : RackId} (hid : h.exists? ⟨.rack, id⟩)
    {scope : AccessScope} :
    (scope.expandRack h id).Has r ↔ scope.Has r ∨ h.Reaches ⟨.rack, id⟩ r := by
  rw [expandRack,
    has_foldl_select (P := fun id => h.Above ⟨.device, id⟩ r)
      (fun _ hdevice _ => has_addDevice hdevice),
    has_follow (P := fun id => h.Above ⟨.rack, id⟩ r)
      (by simpa [Hierarchy.exists?] using hid) (fun _ hrack _ => has_addRack hrack),
    Hierarchy.reaches_rack hid]
  simp only [decide_eq_true_eq, or_assoc, Option.mem_def, Option.some.injEq,
    exists_eq_left']
  rfl

theorem has_expandDevice {id : DeviceId} (hid : h.exists? ⟨.device, id⟩)
    {scope : AccessScope} :
    (scope.expandDevice h id).Has r ↔ scope.Has r ∨ h.Reaches ⟨.device, id⟩ r := by
  rw [expandDevice,
    has_follow (P := fun id => h.Above ⟨.device, id⟩ r)
      (by simpa [Hierarchy.exists?] using hid)
      (fun _ hdevice _ => has_addDevice hdevice),
    Hierarchy.reaches_device hid]
  simp only [Option.mem_def, Option.some.injEq, exists_eq_left']

/-! ### The global flag

No expansion touches it. -/

theorem globalAccess_follow {ρ : Type} [Keyed ρ] {table : Table ρ}
    {addRow : AccessScope → ρ → AccessScope}
    (hadd : ∀ scope row, (addRow scope row).globalAccess = scope.globalAccess)
    (key : Option ℕ) (scope : AccessScope) :
    (scope.follow table addRow key).globalAccess = scope.globalAccess := by
  unfold follow
  split
  · exact hadd _ _
  · rfl

theorem globalAccess_addOrganization (scope : AccessScope) (organization : Organization) :
    (scope.addOrganization organization).globalAccess = scope.globalAccess := rfl

theorem globalAccess_addDataCenter (scope : AccessScope) (dataCenter : DataCenter) :
    (scope.addDataCenter h dataCenter).globalAccess = scope.globalAccess := by
  rw [addDataCenter, globalAccess_follow globalAccess_addOrganization, globalAccess_add]

theorem globalAccess_addRoom (scope : AccessScope) (room : Room) :
    (scope.addRoom h room).globalAccess = scope.globalAccess := by
  rw [addRoom, globalAccess_follow globalAccess_addDataCenter, globalAccess_add]

theorem globalAccess_addRack (scope : AccessScope) (rack : Rack) :
    (scope.addRack h rack).globalAccess = scope.globalAccess := by
  rw [addRack, globalAccess_follow globalAccess_addDataCenter,
    globalAccess_follow globalAccess_addRoom, globalAccess_add]

theorem globalAccess_addDevice (scope : AccessScope) (device : Device) :
    (scope.addDevice h device).globalAccess = scope.globalAccess := by
  rw [addDevice, globalAccess_follow globalAccess_addOrganization,
    globalAccess_follow globalAccess_addDataCenter,
    globalAccess_follow globalAccess_addRoom,
    globalAccess_follow globalAccess_addRack, globalAccess_add]

@[simp] theorem globalAccess_expandOrganization (scope : AccessScope)
    (id : OrganizationId) :
    (scope.expandOrganization h id).globalAccess = scope.globalAccess := by
  rw [expandOrganization, foldl_unchanged (g := globalAccess),
    foldl_unchanged (g := globalAccess) globalAccess_addDevice,
    globalAccess_follow globalAccess_addOrganization]
  intro scope dataCenter
  rw [foldl_unchanged (g := globalAccess) globalAccess_addRack,
    foldl_unchanged (g := globalAccess) globalAccess_addRoom,
    globalAccess_addDataCenter]

@[simp] theorem globalAccess_expandDataCenter (scope : AccessScope)
    (id : DataCenterId) :
    (scope.expandDataCenter h id).globalAccess = scope.globalAccess := by
  rw [expandDataCenter, foldl_unchanged (g := globalAccess) globalAccess_addDevice,
    foldl_unchanged (g := globalAccess) globalAccess_addRack,
    foldl_unchanged (g := globalAccess) globalAccess_addRoom,
    globalAccess_follow globalAccess_addDataCenter]

@[simp] theorem globalAccess_expandRoom (scope : AccessScope) (id : RoomId) :
    (scope.expandRoom h id).globalAccess = scope.globalAccess := by
  rw [expandRoom, foldl_unchanged (g := globalAccess) globalAccess_addDevice,
    foldl_unchanged (g := globalAccess) globalAccess_addRack,
    globalAccess_follow globalAccess_addRoom]

@[simp] theorem globalAccess_expandRack (scope : AccessScope) (id : RackId) :
    (scope.expandRack h id).globalAccess = scope.globalAccess := by
  rw [expandRack, foldl_unchanged (g := globalAccess) globalAccess_addDevice,
    globalAccess_follow globalAccess_addRack]

@[simp] theorem globalAccess_expandDevice (scope : AccessScope) (id : DeviceId) :
    (scope.expandDevice h id).globalAccess = scope.globalAccess := by
  rw [expandDevice, globalAccess_follow globalAccess_addDevice]

end AccessScope

/-! ### Access rows -/

/-- The resource a row is expanded at: its first non-null level, top down. -/
def UserResourceAccess.named (row : UserResourceAccess) : Option Resource :=
  Level.all.findSome? fun level => (row.key level).map (Resource.mk level)

theorem UserResourceAccess.named_eq (row : UserResourceAccess) :
    row.named =
      ((row.organization.map (Resource.mk .organization)).or <|
        (row.dataCenter.map (Resource.mk .dataCenter)).or <|
        (row.room.map (Resource.mk .room)).or <|
        (row.rack.map (Resource.mk .rack)).or <|
        row.device.map (Resource.mk .device)) := by
  simp only [named, Level.all, List.findSome?_cons, List.findSome?_nil, key]
  grind

theorem UserResourceAccess.named_of_organization {row : UserResourceAccess}
    {organization : OrganizationId} (h : row.organization = some organization) :
    row.named = some ⟨.organization, organization⟩ := by
  simp [named, Level.all, key, h]

theorem UserResourceAccess.exists_of_named {h : Hierarchy} {row : UserResourceAccess}
    (hkeys : row.keysExist h) {x : Resource} (hnamed : row.named = some x) :
    h.exists? x := by
  obtain ⟨level, -, hlevel⟩ := List.exists_of_findSome?_eq_some hnamed
  obtain ⟨id, hkey, rfl⟩ := Option.map_eq_some_iff.mp hlevel
  exact exists_of_keysExist hkeys hkey

/-- What an active row of a non-global role gives access to. -/
def UserResourceAccess.Grants (h : Hierarchy) (row : UserResourceAccess)
    (r : Resource) : Prop := ∃ x, row.named = some x ∧ h.Reaches x r

namespace Directory

variable (db : Directory)

/-- The role of an access row has the global scope. -/
def isGlobal (row : UserResourceAccess) : Bool :=
  (db.roles.find row.role).any fun role => role.scope = .global

/-- `get_user_resource_access_rows`. -/
def getUserResourceAccessRows (user : Option User) : List UserResourceAccess :=
  match user with
  | none => []
  | some user => db.accesses.select fun row => row.user = user.id && row.isActive

/-- `_expand_row_scope`. -/
def expandRowScope (scope : AccessScope) (row : UserResourceAccess) : AccessScope :=
  if db.isGlobal row then { scope with globalAccess := true }
  else
    match row.organization, row.dataCenter, row.room, row.rack, row.device with
    | some id, _, _, _, _ => scope.expandOrganization db.hierarchy id
    | none, some id, _, _, _ => scope.expandDataCenter db.hierarchy id
    | none, none, some id, _, _ => scope.expandRoom db.hierarchy id
    | none, none, none, some id, _ => scope.expandRack db.hierarchy id
    | none, none, none, none, some id => scope.expandDevice db.hierarchy id
    | none, none, none, none, none => scope

/-- The loop of `get_access_scope` over the rows, which stops at the first
global one. -/
def expandRows : AccessScope → List UserResourceAccess → AccessScope
  | scope, [] => scope
  | scope, row :: rows =>
      let scope := db.expandRowScope scope row
      if scope.globalAccess then scope else expandRows scope rows

/-- `get_access_scope`. -/
def getAccessScope (user : Option User) : AccessScope :=
  match user with
  | none => .blankScope
  | some u =>
      if u.isSuperuser then { AccessScope.blankScope with globalAccess := true }
      else db.expandRows .blankScope (db.getUserResourceAccessRows user)

/-- `get_effective_permission_codes`, as the list of codes whose set is meant. -/
def getEffectivePermissionCodes (user : Option User) : List String :=
  match user with
  | none => []
  | some u =>
      if u.isSuperuser then db.permissions.rows.map (·.code)
      else
        (db.getUserResourceAccessRows user).flatMap fun row =>
          (db.rolePermissions.select fun link => link.role = row.role).filterMap
            fun link => (db.permissions.find link.permission).map (·.code)

/-- A role grants a permission code. -/
def RoleGrants (role : RoleId) (code : String) : Prop :=
  ∃ link ∈ db.rolePermissions, link.role = role ∧
    ∃ permission ∈ db.permissions, permission.id = link.permission ∧
      permission.code = code

variable {db}

theorem mem_getUserResourceAccessRows {user : User} {row : UserResourceAccess} :
    row ∈ db.getUserResourceAccessRows (some user) ↔
      row ∈ db.accesses ∧ row.user = user.id ∧ row.isActive := by
  simp [getUserResourceAccessRows]

/-! ### What the expansion computes -/

theorem globalAccess_expandRowScope (scope : AccessScope) (row : UserResourceAccess) :
    (db.expandRowScope scope row).globalAccess =
      (scope.globalAccess || db.isGlobal row) := by
  unfold expandRowScope
  cases hglobal : db.isGlobal row with
  | true => simp
  | false =>
      rw [Bool.or_false, if_neg Bool.false_ne_true]
      split <;> simp

/-- **Expanding one row** of a non-global role adds exactly what the row grants. -/
theorem has_expandRowScope {row : UserResourceAccess}
    (hkeys : row.keysExist db.hierarchy) (hglobal : db.isGlobal row = false)
    {scope : AccessScope} {r : Resource} :
    (db.expandRowScope scope row).Has r ↔ scope.Has r ∨ row.Grants db.hierarchy r := by
  have hexists := fun x => UserResourceAccess.exists_of_named hkeys (x := x)
  unfold expandRowScope UserResourceAccess.Grants
  rw [hglobal, if_neg Bool.false_ne_true]
  rw [UserResourceAccess.named_eq] at hexists ⊢
  generalize row.organization = organization, row.dataCenter = dataCenter,
    row.room = room, row.rack = rack, row.device = device at hexists ⊢
  -- the first non-null column decides both sides
  rcases organization with _ | id
  · rcases dataCenter with _ | id
    · rcases room with _ | id
      · rcases rack with _ | id
        · rcases device with _ | id
          · simp
          · simpa using AccessScope.has_expandDevice (hexists _ rfl)
        · simpa using AccessScope.has_expandRack (hexists _ rfl)
      · simpa using AccessScope.has_expandRoom (hexists _ rfl)
    · simpa using AccessScope.has_expandDataCenter (hexists _ rfl)
  · simpa using AccessScope.has_expandOrganization (hexists _ rfl)

/-- The user has global access: through a row of a global role. -/
theorem globalAccess_expandRows (rows : List UserResourceAccess) (scope : AccessScope) :
    (db.expandRows scope rows).globalAccess =
      (scope.globalAccess || rows.any db.isGlobal) := by
  induction rows generalizing scope with
  | nil => simp [expandRows]
  | cons row rows ih =>
      rw [expandRows, List.any_cons, ← Bool.or_assoc, ← globalAccess_expandRowScope]
      split
      · rename_i hglobal
        rw [hglobal, Bool.true_or]
      · exact ih _

/-- Without a global row, the loop reaches every row and adds what it grants. -/
theorem has_expandRows {rows : List UserResourceAccess} {scope : AccessScope}
    (hkeys : ∀ row ∈ rows, row.keysExist db.hierarchy)
    (hglobal : ∀ row ∈ rows, db.isGlobal row = false)
    (hscope : scope.globalAccess = false) {r : Resource} :
    (db.expandRows scope rows).Has r ↔
      scope.Has r ∨ ∃ row ∈ rows, row.Grants db.hierarchy r := by
  induction rows generalizing scope with
  | nil => simp [expandRows]
  | cons row rows ih =>
      rw [List.forall_mem_cons] at hkeys hglobal
      have hnext : (db.expandRowScope scope row).globalAccess = false := by
        rw [globalAccess_expandRowScope, hscope, hglobal.1, Bool.or_false]
      rw [expandRows, if_neg (by simp [hnext]), ih hkeys.2 hglobal.2 hnext,
        has_expandRowScope hkeys.1 hglobal.1, List.exists_mem_cons_iff, or_assoc]

/-- A user has global access as a superuser or through an active row of a global
role. -/
theorem globalAccess_getAccessScope (user : User) :
    (db.getAccessScope (some user)).globalAccess =
      (user.isSuperuser ||
        (db.getUserResourceAccessRows (some user)).any db.isGlobal) := by
  unfold getAccessScope
  by_cases hsuper : user.isSuperuser
  · simp [hsuper]
  · simp only [hsuper, if_neg Bool.false_ne_true, Bool.false_or]
    exact globalAccess_expandRows _ _

/-- **The scope of a user** without global access: what the active rows grant. -/
theorem has_getAccessScope {user : User}
    (hglobal : (db.getAccessScope (some user)).globalAccess = false) {r : Resource} :
    (db.getAccessScope (some user)).Has r ↔
      ∃ row ∈ db.getUserResourceAccessRows (some user), row.Grants db.hierarchy r := by
  rw [globalAccess_getAccessScope, Bool.or_eq_false_iff, List.any_eq_false] at hglobal
  have hkeys : ∀ row ∈ db.getUserResourceAccessRows (some user),
      row.keysExist db.hierarchy :=
    fun row hrow => db.access_keys row (mem_getUserResourceAccessRows.mp hrow).1
  unfold getAccessScope
  dsimp only
  rw [hglobal.1, if_neg Bool.false_ne_true,
    has_expandRows hkeys (fun row hrow => by simpa using hglobal.2 row hrow) rfl]
  simp

/-- The permission codes of a user who is no superuser: what the roles of the
active rows grant. -/
theorem mem_getEffectivePermissionCodes {user : User} (hsuper : user.isSuperuser = false)
    {code : String} :
    code ∈ db.getEffectivePermissionCodes (some user) ↔
      ∃ row ∈ db.getUserResourceAccessRows (some user), db.RoleGrants row.role code := by
  unfold getEffectivePermissionCodes RoleGrants
  simp only [hsuper, if_neg Bool.false_ne_true, List.mem_flatMap, List.mem_filterMap,
    Table.mem_select, decide_eq_true_eq, Option.map_eq_some_iff, Table.find_eq_some_iff,
    and_assoc]
  rfl

/-- The permission codes of a user: every code for a superuser, and otherwise what the roles of
the active rows grant. -/
theorem mem_effectivePermissionCodes_iff {user : User} {code : String} :
    code ∈ db.getEffectivePermissionCodes (some user) ↔
      (user.isSuperuser ∧ ∃ permission ∈ db.permissions, permission.code = code) ∨
        (user.isSuperuser = false ∧
          ∃ row ∈ db.getUserResourceAccessRows (some user), db.RoleGrants row.role code) := by
  cases hsuper : user.isSuperuser with
  | true => simp [getEffectivePermissionCodes, hsuper, Table.mem_def]
  | false =>
      rw [mem_getEffectivePermissionCodes hsuper]
      simp

end Directory

/-! ### Is the scope of a row the resource its role names? -/

/-- A device lies in the subtree of the resource that a role scope names on a
row. -/
def UserResourceAccess.InSubtree (row : UserResourceAccess) (device : Device) :
    RoleScope → Prop
  | .organization => row.organization = some device.organization
  | .dataCenter => row.dataCenter = some device.dataCenter
  | .room => ∃ room, row.room = some room ∧ device.room = some room
  | .rack => ∃ rack, row.rack = some rack ∧ device.rack = some rack
  | .device => row.device = some device.id
  | .global | .unsupported _ => False

/-- The device ids of a user's scope are those of the devices in the subtree. -/
def ScopeIsSubtree (db : Directory) (user : User) (row : UserResourceAccess)
    (scope : RoleScope) : Prop :=
  ∀ id, (db.getAccessScope (some user)).Has ⟨.device, id⟩ ↔
    ∃ device ∈ db.hierarchy.devices, device.id = id ∧ row.InSubtree device scope

theorem not_isGlobal_iff {db : Directory} {row : UserResourceAccess} {role : Role}
    (hrole : db.roles.find row.role = some role) :
    db.isGlobal row = false ↔ role.scope ≠ .global := by
  simp [Directory.isGlobal, hrole]

/-- **The scope of an accepted row is its whole organization.**  `clean` leaves
an organization on every row below the global scope, and the expansion stops at
the first non-null level from the top. -/
theorem has_device_of_clean {db : Directory} {user : User} {raw row : UserResourceAccess}
    {role : Role} (hsuper : user.isSuperuser = false)
    (hrows : db.getUserResourceAccessRows (some user) = [row])
    (hclean : raw.clean db = .ok row) (hrole : db.roles.find row.role = some role)
    (hscope : role.scope ≠ .global) (id : DeviceId) :
    (db.getAccessScope (some user)).Has ⟨.device, id⟩ ↔
      ∃ device ∈ db.hierarchy.devices,
        row.organization = some device.organization ∧ device.id = id := by
  have hrole' : db.roles.find raw.role = some role := by
    rw [← (UserResourceAccess.clean_unchanged hclean).2.2.2.1, hrole]
  obtain ⟨organization, horganization⟩ :=
    UserResourceAccess.exists_organization_of_clean hclean hrole' hscope
  have hglobal : (db.getAccessScope (some user)).globalAccess = false := by
    rw [Directory.globalAccess_getAccessScope, hsuper, hrows]
    simpa using (not_isGlobal_iff hrole).mpr hscope
  rw [Directory.has_getAccessScope hglobal, hrows]
  simp only [List.mem_singleton, exists_eq_left, UserResourceAccess.Grants,
    UserResourceAccess.named_of_organization horganization, Option.some.injEq,
    exists_eq_left', Hierarchy.reaches_organization_device, horganization]
  simp only [eq_comm]

/-- A row's scope is the subtree its role names exactly for the organization
scope, or where the organization's devices are the devices of that subtree. -/
theorem scopeIsSubtree_iff {db : Directory} {user : User} {raw row : UserResourceAccess}
    {role : Role} (hsuper : user.isSuperuser = false)
    (hrows : db.getUserResourceAccessRows (some user) = [row])
    (hclean : raw.clean db = .ok row) (hrole : db.roles.find row.role = some role)
    (hscope : role.scope ∈
      [RoleScope.organization, .dataCenter, .room, .rack, .device]) :
    ScopeIsSubtree db user row role.scope ↔
      role.scope = .organization ∨
        ∀ device ∈ db.hierarchy.devices,
          (row.organization = some device.organization ↔
            row.InSubtree device role.scope) := by
  have hnotGlobal : role.scope ≠ .global := by
    rintro hglobal
    simp [hglobal] at hscope
  unfold ScopeIsSubtree
  simp only [has_device_of_clean hsuper hrows hclean hrole hnotGlobal]
  constructor
  · intro hexact
    refine Or.inr fun device hmem => ⟨fun hin => ?_, fun hin => ?_⟩
    · obtain ⟨other, hother, hid, hsub⟩ := (hexact device.id).mp ⟨device, hmem, hin, rfl⟩
      rwa [db.hierarchy.devices.eq_of_pk_eq hmem hother hid.symm]
    · obtain ⟨other, hother, hsub, hid⟩ := (hexact device.id).mpr ⟨device, hmem, rfl, hin⟩
      rwa [db.hierarchy.devices.eq_of_pk_eq hmem hother hid.symm]
  · rintro (horganization | hsame) id
    · simp only [horganization, UserResourceAccess.InSubtree, and_comm]
    · constructor
      · rintro ⟨device, hmem, hin, rfl⟩
        exact ⟨device, hmem, rfl, (hsame device hmem).mp hin⟩
      · rintro ⟨device, hmem, rfl, hin⟩
        exact ⟨device, hmem, (hsame device hmem).mpr hin, rfl⟩

/-- An organization with a device in each of its two data centers. -/
def twoSites : Hierarchy :=
  .flat (.ofRows [⟨1⟩]) (.ofRows [⟨1, 1⟩, ⟨2, 1⟩])
    (.ofRows
      [{ id := 1, organization := 1, dataCenter := 1, deviceType := 1, name := "UPS 01" },
       { id := 2, organization := 1, dataCenter := 2, deviceType := 1, name := "ATS 01" }])
    (.refl true)

/-- The access row of an administrator of the first data center. -/
def dataCenterAdmin : UserResourceAccess :=
  { id := 1, user := 1, organization := some 1, dataCenter := some 1, role := 1 }

/-- A user whose only row is `dataCenterAdmin`. -/
def twoSitesDirectory : Directory :=
  .ofTables twoSites (.ofRows [⟨1, false⟩]) (.ofRows [⟨1, .dataCenter⟩]) .empty .empty
    (.ofRows [dataCenterAdmin]) (.refl true)

theorem scopeIsSubtree_iff_dataCenterAdmin :
    ScopeIsSubtree twoSitesDirectory ⟨1, false⟩ dataCenterAdmin .dataCenter ↔
      RoleScope.dataCenter = .organization ∨
        ∀ device ∈ twoSitesDirectory.hierarchy.devices,
          (dataCenterAdmin.organization = some device.organization ↔
            dataCenterAdmin.InSubtree device .dataCenter) := by
  have hclean : dataCenterAdmin.clean twoSitesDirectory = .ok dataCenterAdmin := by decide
  have hrole : twoSitesDirectory.roles.find 1 = some ⟨1, .dataCenter⟩ := by decide
  exact scopeIsSubtree_iff rfl (by decide) hclean hrole (by decide)

/-- The administrator of the first data center reaches the device of the second. -/
theorem dataCenterAdmin_reaches_other_site :
    dataCenterAdmin.clean twoSitesDirectory = .ok dataCenterAdmin ∧
      twoSitesDirectory.getUserResourceAccessRows (some ⟨1, false⟩) = [dataCenterAdmin] ∧
      ¬ScopeIsSubtree twoSitesDirectory ⟨1, false⟩ dataCenterAdmin .dataCenter := by
  refine ⟨by decide, by decide, fun hexact => ?_⟩
  have hin := (hexact 2).mp (by decide)
  simp only [UserResourceAccess.InSubtree] at hin
  revert hin
  decide

end DcimBackend
