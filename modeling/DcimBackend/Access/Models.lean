import DcimBackend.Access.Hierarchy

/-!
# Roles, permissions and access rows

`apps/access_control/models.py`: the role scopes, roles with their permissions,
and `UserResourceAccess` with `clean`, `full_clean` and the unique constraint
that `save` runs into.

A `Directory` is the part of the database that authorization reads: the resource
hierarchy together with users, roles, permissions, role permissions and access
rows, with the foreign-key constraints as fields.

`clean` both validates and rewrites: a row that selects a device has its blank
ancestors back-filled from that device.  It is therefore a function from a row
to the row it leaves behind, or to the errors it raises.  The errors are a
dictionary: a later message for a field replaces the earlier one.
-/

namespace DcimBackend

open Library

abbrev UserId := ℕ
abbrev RoleId := ℕ
abbrev PermissionId := ℕ

/-- `RoleScope`.  The column is a string, and rows written around the serializer
can hold any other one. -/
inductive RoleScope
  | global
  | organization
  | dataCenter
  | room
  | rack
  | device
  | unsupported (value : String)
deriving DecidableEq

/-- The part of `accounts.User` that authorization reads. -/
structure User where
  id : UserId
  isSuperuser : Bool := false
deriving DecidableEq

/-- `access_control.Role`. -/
structure Role where
  id : RoleId
  scope : RoleScope := .dataCenter
deriving DecidableEq

/-- `access_control.Permission`. -/
structure Permission where
  id : PermissionId
  code : String
deriving DecidableEq

/-- `access_control.RolePermission`. -/
structure RolePermission where
  id : ℕ
  role : RoleId
  permission : PermissionId
deriving DecidableEq

/-- `access_control.UserResourceAccess`. -/
structure UserResourceAccess where
  id : ℕ
  user : UserId
  organization : Option OrganizationId := none
  dataCenter : Option DataCenterId := none
  room : Option RoomId := none
  rack : Option RackId := none
  device : Option DeviceId := none
  role : RoleId
  isActive : Bool := true
deriving DecidableEq

instance : Keyed User := ⟨User.id⟩
instance : Keyed Role := ⟨Role.id⟩
instance : Keyed Permission := ⟨Permission.id⟩
instance : Keyed RolePermission := ⟨RolePermission.id⟩
instance : Keyed UserResourceAccess := ⟨UserResourceAccess.id⟩

/-- The levels, top down. -/
def Level.all : List Level := [.organization, .dataCenter, .room, .rack, .device]

theorem Level.mem_all (level : Level) : level ∈ Level.all := by
  cases level <;> decide

namespace UserResourceAccess

/-- The foreign key of an access row at a level. -/
def key (row : UserResourceAccess) : Level → Option ℕ
  | .organization => row.organization
  | .dataCenter => row.dataCenter
  | .room => row.room
  | .rack => row.rack
  | .device => row.device

/-- Every foreign key of the row into the hierarchy refers to a row. -/
def keysExist (h : Hierarchy) (row : UserResourceAccess) : Bool :=
  Level.all.all fun level => (row.key level).all fun id => h.exists? ⟨level, id⟩

theorem keysExist_iff {h : Hierarchy} {row : UserResourceAccess} :
    row.keysExist h ↔ ∀ level id, row.key level = some id → h.exists? ⟨level, id⟩ := by
  simp [keysExist, Level.mem_all, Option.all_eq_true]

theorem exists_of_keysExist {h : Hierarchy} {row : UserResourceAccess}
    (hrow : row.keysExist h) {level : Level} {id : ℕ} (hkey : row.key level = some id) :
    h.exists? ⟨level, id⟩ :=
  keysExist_iff.mp hrow level id hkey

end UserResourceAccess

/-- What authorization reads of the database. -/
structure Directory where
  hierarchy : Hierarchy
  users : Table User
  roles : Table Role
  permissions : Table Permission
  rolePermissions : Table RolePermission
  accesses : Table UserResourceAccess
  access_user : ∀ row ∈ accesses.rows, (users.find row.user).isSome
  access_role : ∀ row ∈ accesses.rows, (roles.find row.role).isSome
  access_keys : ∀ row ∈ accesses.rows, row.keysExist hierarchy
  rolePermission_role : ∀ link ∈ rolePermissions.rows, (roles.find link.role).isSome
  rolePermission_permission :
    ∀ link ∈ rolePermissions.rows, (permissions.find link.permission).isSome

/-- The foreign keys of a directory. -/
def Directory.tableKeys (hierarchy : Hierarchy) (users : Table User) (roles : Table Role)
    (permissions : Table Permission) (rolePermissions : Table RolePermission)
    (accesses : Table UserResourceAccess) : Bool :=
  accesses.rows.all (fun row => (users.find row.user).isSome && (roles.find row.role).isSome &&
    row.keysExist hierarchy) &&
    rolePermissions.rows.all fun link =>
      (roles.find link.role).isSome && (permissions.find link.permission).isSome

/-- The directory of some tables. -/
def Directory.ofTables (hierarchy : Hierarchy) (users : Table User) (roles : Table Role)
    (permissions : Table Permission) (rolePermissions : Table RolePermission)
    (accesses : Table UserResourceAccess)
    (hkeys : tableKeys hierarchy users roles permissions rolePermissions accesses = true) :
    Directory where
  hierarchy := hierarchy
  users := users
  roles := roles
  permissions := permissions
  rolePermissions := rolePermissions
  accesses := accesses
  access_user := by simp_all [tableKeys]
  access_role := by simp_all [tableKeys]
  access_keys := by simp_all [tableKeys]
  rolePermission_role := by simp_all [tableKeys]
  rolePermission_permission := by simp_all [tableKeys]

/-! ### Error dictionaries -/

/-- A validation error: messages by field. -/
abbrev ErrorDict := List (String × String)

/-- `errors[field] = message`. -/
def ErrorDict.set (errors : ErrorDict) (field message : String) : ErrorDict :=
  if errors.any fun e => e.1 = field then
    errors.map fun e => if e.1 = field then (field, message) else e
  else errors ++ [(field, message)]

@[simp] theorem ErrorDict.set_ne_nil (errors : ErrorDict) (field message : String) :
    errors.set field message ≠ [] := by
  unfold ErrorDict.set
  split
  · rename_i h
    rintro hnil
    rw [List.map_eq_nil_iff] at hnil
    simp [hnil] at h
  · simp

/-- Why a row is not saved. -/
inductive SaveError
  /-- A foreign key refers to no row. -/
  | doesNotExist
  /-- `clean` raised these messages. -/
  | invalid (errors : ErrorDict)
  /-- A unique constraint is violated. -/
  | notUnique
deriving DecidableEq

namespace UserResourceAccess

/-! ### `clean` -/

/-- `_ensure_blank`. -/
def ensureBlank (row : UserResourceAccess) (errors : ErrorDict) (level : Level) :
    ErrorDict :=
  if (row.key level).isSome then
    errors.set level.fieldName "Must be blank for this role scope."
  else errors

/-- `_ensure_required`. -/
def ensureRequired (row : UserResourceAccess) (errors : ErrorDict) (level : Level) :
    ErrorDict :=
  if (row.key level).isNone then
    errors.set level.fieldName "This field is required for this role scope."
  else errors

/-- The checks by role scope: the levels a scope requires, then the levels that
must stay blank. -/
def scopeErrors (row : UserResourceAccess) : RoleScope → ErrorDict
  | .global =>
      if Level.all.any fun level => (row.key level).isSome then
        [("non_field_errors",
          "Global access must not include organization, data center, room, rack, or device.")]
      else []
  | .organization =>
      [Level.dataCenter, .room, .rack, .device].foldl row.ensureBlank
        ([Level.organization].foldl row.ensureRequired [])
  | .dataCenter =>
      [Level.room, .rack, .device].foldl row.ensureBlank
        ([Level.organization, .dataCenter].foldl row.ensureRequired [])
  | .room =>
      [Level.rack, .device].foldl row.ensureBlank
        ([Level.organization, .dataCenter, .room].foldl row.ensureRequired [])
  | .rack =>
      [Level.device].foldl row.ensureBlank
        ([Level.organization, .dataCenter, .room, .rack].foldl row.ensureRequired [])
  | .device => [Level.device].foldl row.ensureRequired []
  | .unsupported _ => [("role", "Role scope is not supported.")]

/-- One field against the selected device: a blank field takes the device's
value, a filled one has to agree with it. -/
def matchDevice (level : Level) (own device : Option ℕ) (errors : ErrorDict) :
    Option ℕ × ErrorDict :=
  match own, device with
  | own, none => (own, errors)
  | none, some key => (some key, errors)
  | some own, some key =>
      if own = key then (some own, errors)
      else (some own, errors.set level.fieldName "Must match the selected device.")

/-- The selected device's ancestors, back-filled or compared. -/
def backfill (h : Hierarchy) (row : UserResourceAccess) (errors : ErrorDict) :
    UserResourceAccess × ErrorDict :=
  match row.device.bind h.devices.find with
  | none => (row, errors)
  | some device =>
      let organization :=
        matchDevice .organization row.organization (some device.organization) errors
      let dataCenter :=
        matchDevice .dataCenter row.dataCenter (some device.dataCenter) organization.2
      let room := matchDevice .room row.room device.room dataCenter.2
      let rack := matchDevice .rack row.rack device.rack room.2
      ({ row with
          organization := organization.1
          dataCenter := dataCenter.1
          room := room.1
          rack := rack.1 }, rack.2)

/-- The selected rows have to lie in one another. -/
def chainErrors (h : Hierarchy) (row : UserResourceAccess) (errors : ErrorDict) :
    ErrorDict :=
  let room := row.room.bind h.rooms.find
  let rack := row.rack.bind h.racks.find
  let dataCenter := row.dataCenter.bind h.dataCenters.find
  let errors :=
    match room, row.dataCenter with
    | some room, some key =>
        if room.dataCenter ≠ key then
          errors.set "room" "Room must belong to the selected data center."
        else errors
    | _, _ => errors
  let errors :=
    match rack, row.room with
    | some rack, some key =>
        if rack.room ≠ some key then
          errors.set "rack" "Rack must belong to the selected room."
        else errors
    | _, _ => errors
  let errors :=
    match rack, row.dataCenter with
    | some rack, some key =>
        if rack.dataCenter ≠ key then
          errors.set "rack" "Rack must belong to the selected data center."
        else errors
    | _, _ => errors
  match dataCenter, row.organization with
  | some dataCenter, some key =>
      if dataCenter.organization ≠ key then
        errors.set "data_center" "Data center must belong to the selected organization."
      else errors
  | _, _ => errors

/-- The two closing checks. -/
def requiredErrors (scope : RoleScope) (row : UserResourceAccess) (errors : ErrorDict) :
    ErrorDict :=
  let errors :=
    if scope = .device ∧ row.device = none then
      errors.set "device" "This field is required for device scope."
    else errors
  if scope ∈ [RoleScope.organization, .dataCenter, .room, .rack, .device] ∧
      row.organization = none ∧ scope ≠ .device then
    errors.set "organization" "This field is required for the selected role scope."
  else errors

/-- `UserResourceAccess.clean`: the row as it is left behind, or the errors. -/
def clean (db : Directory) (row : UserResourceAccess) :
    Except SaveError UserResourceAccess :=
  match db.roles.find row.role with
  | none => .error .doesNotExist
  | some role =>
      -- reading a foreign key that refers to no row raises
      if row.keysExist db.hierarchy then
        let filled := row.backfill db.hierarchy (row.scopeErrors role.scope)
        let errors := filled.1.chainErrors db.hierarchy filled.2
        let errors := filled.1.requiredErrors role.scope errors
        if errors.isEmpty then .ok filled.1 else .error (.invalid errors)
      else .error .doesNotExist

/-- Two rows agree on the columns of `uq_user_resource_access`.  A null never
equals anything there. -/
def sameGrant (a b : UserResourceAccess) : Bool :=
  a.user = b.user && a.role = b.role &&
    Level.all.all fun level => (a.key level).isSome && a.key level = b.key level

/-- `full_clean`, which `save` calls: the foreign keys, `clean`, and the unique
constraint. -/
def fullClean (db : Directory) (row : UserResourceAccess) :
    Except SaveError UserResourceAccess :=
  match db.users.find row.user with
  | none => .error .doesNotExist
  | some _ =>
      match row.clean db with
      | .error e => .error e
      | .ok row =>
          if (db.accesses.select fun other =>
              other.id ≠ row.id && row.sameGrant other).isEmpty then
            .ok row
          else .error .notUnique

/-! ### What `clean` leaves behind

Only the four ancestor columns change, and only where they were blank. -/

section Clean

variable {db : Directory} {raw row : UserResourceAccess}

theorem backfill_unchanged (h : Hierarchy) (raw : UserResourceAccess) (errors : ErrorDict) :
    let row := (raw.backfill h errors).1
    row.id = raw.id ∧ row.user = raw.user ∧ row.device = raw.device ∧
      row.role = raw.role ∧ row.isActive = raw.isActive := by
  unfold backfill
  cases raw.device.bind h.devices.find <;> simp

/-- Acceptance, spelled out: the role and the foreign keys exist, and no check
left an error. -/
theorem clean_eq_ok_iff :
    raw.clean db = .ok row ↔
      ∃ role, db.roles.find raw.role = some role ∧ raw.keysExist db.hierarchy ∧
        let filled := raw.backfill db.hierarchy (raw.scopeErrors role.scope)
        row = filled.1 ∧
          filled.1.requiredErrors role.scope
            (filled.1.chainErrors db.hierarchy filled.2) = [] := by
  unfold clean
  cases db.roles.find raw.role with
  | none => simp
  | some role =>
      by_cases hkeys : raw.keysExist db.hierarchy
      · dsimp only
        rw [if_pos hkeys]
        split <;> rename_i herrors <;> rw [List.isEmpty_iff] at herrors
        · simp only [Except.ok.injEq, Option.some.injEq, exists_eq_left', hkeys, true_and]
          exact ⟨fun h => ⟨h.symm, herrors⟩, fun h => h.1.symm⟩
        · simp only [reduceCtorEq, Option.some.injEq, exists_eq_left', hkeys, true_and,
            false_iff]
          exact fun h => herrors h.2
      · simp [hkeys]

theorem clean_unchanged (hclean : raw.clean db = .ok row) :
    row.id = raw.id ∧ row.user = raw.user ∧ row.device = raw.device ∧
      row.role = raw.role ∧ row.isActive = raw.isActive := by
  obtain ⟨role, -, -, rfl, -⟩ := clean_eq_ok_iff.mp hclean
  exact backfill_unchanged db.hierarchy raw _

/-! No check ever removes an error an earlier one recorded. -/

theorem matchDevice_ne_nil {errors : ErrorDict} (h : errors ≠ []) (level : Level)
    (own device : Option ℕ) : (matchDevice level own device errors).2 ≠ [] := by
  unfold matchDevice
  split
  · exact h
  · exact h
  · split
    · exact h
    · simp

theorem backfill_ne_nil {errors : ErrorDict} (herrors : errors ≠ []) (h : Hierarchy)
    (row : UserResourceAccess) : (row.backfill h errors).2 ≠ [] := by
  unfold backfill
  split
  · exact herrors
  · iterate 4 apply matchDevice_ne_nil
    exact herrors

theorem chainErrors_ne_nil {errors : ErrorDict} (herrors : errors ≠ []) (h : Hierarchy)
    (row : UserResourceAccess) : row.chainErrors h errors ≠ [] := by
  unfold chainErrors
  grind [ErrorDict.set_ne_nil]

theorem requiredErrors_ne_nil {errors : ErrorDict} (herrors : errors ≠ [])
    (scope : RoleScope) (row : UserResourceAccess) :
    row.requiredErrors scope errors ≠ [] := by
  unfold requiredErrors
  grind [ErrorDict.set_ne_nil]

/-- Acceptance by `clean` starts with acceptance by the checks of the scope. -/
theorem scopeErrors_eq_nil_of_clean (hclean : raw.clean db = .ok row) {role : Role}
    (hrole : db.roles.find raw.role = some role) : raw.scopeErrors role.scope = [] := by
  obtain ⟨role', hrole', -, -, herrors⟩ := clean_eq_ok_iff.mp hclean
  obtain rfl : role = role' := Option.some.inj (hrole.symm.trans hrole')
  by_contra hscope
  exact requiredErrors_ne_nil (chainErrors_ne_nil (backfill_ne_nil hscope _ _) _ _) _ _
    herrors

theorem foldl_ensureRequired_eq_nil {row : UserResourceAccess} {levels : List Level}
    {errors : ErrorDict} :
    levels.foldl row.ensureRequired errors = [] ↔
      errors = [] ∧ ∀ level ∈ levels, (row.key level).isSome := by
  induction levels generalizing errors with
  | nil => simp
  | cons level levels ih =>
      rw [List.foldl_cons, ih, List.forall_mem_cons, ← and_assoc]
      refine and_congr_left fun _ => ?_
      unfold ensureRequired
      cases row.key level <;> simp

theorem foldl_ensureBlank_eq_nil {row : UserResourceAccess} {levels : List Level}
    {errors : ErrorDict} :
    levels.foldl row.ensureBlank errors = [] ↔
      errors = [] ∧ ∀ level ∈ levels, row.key level = none := by
  induction levels generalizing errors with
  | nil => simp
  | cons level levels ih =>
      rw [List.foldl_cons, ih, List.forall_mem_cons, ← and_assoc]
      refine and_congr_left fun _ => ?_
      unfold ensureBlank
      cases row.key level <;> simp

/-- What the checks of a scope let through: below the global scope a row names
an organization or a device. -/
theorem organization_or_device_of_scopeErrors {row : UserResourceAccess}
    {scope : RoleScope} (h : row.scopeErrors scope = []) (hscope : scope ≠ .global) :
    row.organization.isSome ∨ row.device.isSome := by
  cases scope with
  | global => exact absurd rfl hscope
  | unsupported value => simp [scopeErrors] at h
  | device =>
      exact Or.inr ((foldl_ensureRequired_eq_nil.mp h).2 .device List.mem_cons_self)
  | _ =>
      have hrequired := (foldl_ensureBlank_eq_nil.mp h).1
      exact Or.inl
        ((foldl_ensureRequired_eq_nil.mp hrequired).2 .organization List.mem_cons_self)

/-- A field after the comparison with the device: its own value, or else the
device's. -/
theorem matchDevice_fst (level : Level) (own device : Option ℕ) (errors : ErrorDict) :
    (matchDevice level own device errors).1 = own.or device := by
  unfold matchDevice
  split
  · simp
  · rfl
  · split <;> rfl

/-- The selected device, read through the foreign key. -/
theorem selected_eq_some_iff {h : Hierarchy} {raw : UserResourceAccess} {device : Device} :
    raw.device.bind h.devices.find = some device ↔
      device ∈ h.devices ∧ raw.device = some device.id := by
  rw [Option.bind_eq_some_iff]
  constructor
  · rintro ⟨id, hid, hfind⟩
    obtain ⟨hmem, rfl⟩ := Table.find_eq_some_iff.mp hfind
    exact ⟨hmem, hid⟩
  · rintro ⟨hmem, hid⟩
    exact ⟨device.id, hid, Table.find_pk hmem⟩

/-- Every column after back-filling: its own value, or else that of the selected
device. -/
theorem backfill_key {h : Hierarchy} {raw : UserResourceAccess} {device : Device}
    (hdevice : raw.device.bind h.devices.find = some device) (errors : ErrorDict)
    (level : Level) :
    (raw.backfill h errors).1.key level = (raw.key level).or (device.key level) := by
  have hown := (selected_eq_some_iff.mp hdevice).2
  unfold backfill
  rw [hdevice]
  cases level <;> simp [matchDevice_fst, key, Device.key, hown]

theorem backfill_of_none {h : Hierarchy} {raw : UserResourceAccess}
    (hdevice : raw.device.bind h.devices.find = none) (errors : ErrorDict) :
    (raw.backfill h errors).1 = raw := by
  simp only [backfill, hdevice]

/-- **Every accepted row of a non-global scope names an organization.**  The
scopes above the device level require one, and at the device level it is
back-filled. -/
theorem exists_organization_of_clean (hclean : raw.clean db = .ok row) {role : Role}
    (hrole : db.roles.find raw.role = some role) (hscope : role.scope ≠ .global) :
    ∃ organization, row.organization = some organization := by
  have hraw := organization_or_device_of_scopeErrors
    (scopeErrors_eq_nil_of_clean hclean hrole) hscope
  obtain ⟨_, _, hkeys, rfl, _⟩ := clean_eq_ok_iff.mp hclean
  rw [← Option.isSome_iff_exists]
  cases hdevice : raw.device.bind db.hierarchy.devices.find with
  | some device =>
      have hkey := fun errors => backfill_key hdevice errors .organization
      simp only [key, Device.key] at hkey
      simp [hkey]
  | none =>
      rw [backfill_of_none hdevice]
      refine hraw.resolve_right fun hsome => ?_
      obtain ⟨id, hid⟩ := Option.isSome_iff_exists.mp hsome
      have hfind : (db.hierarchy.devices.find id).isSome :=
        exists_of_keysExist hkeys (show raw.key .device = some id from hid)
      rw [hid, Option.bind_some] at hdevice
      simp [hdevice] at hfind

/-- The foreign keys of an accepted row exist: they are the row's own or those
of its device. -/
theorem keysExist_of_clean (hclean : raw.clean db = .ok row) :
    row.keysExist db.hierarchy := by
  obtain ⟨_, _, hkeys, rfl, _⟩ := clean_eq_ok_iff.mp hclean
  cases hdevice : raw.device.bind db.hierarchy.devices.find with
  | none => rwa [backfill_of_none hdevice]
  | some device =>
      -- the selected device is a row, so its own foreign keys exist
      have hmem := (selected_eq_some_iff.mp hdevice).1
      rw [keysExist_iff] at hkeys ⊢
      intro level id hkey
      rw [backfill_key hdevice, Option.or_eq_some_iff] at hkey
      rcases hkey with hown | ⟨-, hother⟩
      · exact hkeys level id hown
      · exact Hierarchy.exists_of_device_key _ hmem hother

end Clean

end UserResourceAccess

end DcimBackend
