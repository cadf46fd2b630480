import DcimBackend.Access.Permissions
import DcimBackend.Library.Fallible
import DcimBackend.Library.Run

/-!
# Administering access over the API

`apps/access_control/views.py` and `serializers.py`: the requests on roles,
permissions, role permissions and access rows, as a step function on the
`Directory`.  Requests on users enter with what they change here, and requests
on resources with the hierarchy they leave behind; the database cascades the
access rows that lose a foreign key.

The view sets are not scoped: `access.manage` lets a user act on every row.
What a run of requests can do to anybody's access is read off two lemmas, one
for the requests that store no access row and give no role the global scope
(`Quiet`), and one for storing a row.

A row is stored through `clean`, which the serializer runs twice, on a scratch instance and on the
one that it saves; `createdAccess` and `updatedAccess` do both.  DRF derives from the unique
constraint of the table that its columns are required, so a `POST` that leaves one of them out is
refused, and the absence of a resource has to be said by a null.

A request that is refused, by its permission, by a check or by the database, leaves the directory
as it is, so a step is a total function.  Tokens, passwords and the audit log are not part of the
directory: no access follows from them here.
-/

namespace DcimBackend

open Library

/-- The attributes a request sets on an access row; `none` leaves a column as it
is. -/
structure AccessAttrs where
  user : Option UserId := none
  organization : Option (Option OrganizationId) := none
  dataCenter : Option (Option DataCenterId) := none
  room : Option (Option RoomId) := none
  rack : Option (Option RackId) := none
  device : Option (Option DeviceId) := none
  role : Option RoleId := none
  isActive : Option Bool := none

/-- `for key, value in attrs.items(): setattr(instance, key, value)`. -/
def AccessAttrs.apply (attrs : AccessAttrs) (row : UserResourceAccess) :
    UserResourceAccess where
  id := row.id
  user := attrs.user.getD row.user
  organization := attrs.organization.getD row.organization
  dataCenter := attrs.dataCenter.getD row.dataCenter
  room := attrs.room.getD row.room
  rack := attrs.rack.getD row.rack
  device := attrs.device.getD row.device
  role := attrs.role.getD row.role
  isActive := attrs.isActive.getD row.isActive

/-- The fields that a `POST` has to have and has not.  The serializer requires the columns of
`uq_user_resource_access`, so that the absence of a column has to be said by a null. -/
def AccessAttrs.missing (attrs : AccessAttrs) : List String :=
  ([("user", attrs.user.isNone), ("organization", attrs.organization.isNone),
    ("data_center", attrs.dataCenter.isNone), ("room", attrs.room.isNone),
    ("rack", attrs.rack.isNone), ("device", attrs.device.isNone),
    ("role", attrs.role.isNone)].filter fun field => field.2).map Prod.fst

/-- An API request that can change what authorization reads. -/
inductive Request
  | createRole (scope : RoleScope)
  | updateRole (id : RoleId) (scope : Option RoleScope)
  | deleteRole (id : RoleId)
  | createPermission (code : String)
  | updatePermission (id : PermissionId) (code : Option String)
  | deletePermission (id : PermissionId)
  | createRolePermission (role : RoleId) (permission : PermissionId)
  | updateRolePermission (id : ℕ) (role : Option RoleId) (permission : Option PermissionId)
  | deleteRolePermission (id : ℕ)
  | createAccess (attrs : AccessAttrs)
  | updateAccess (id : ℕ) (attrs : AccessAttrs)
  | deleteAccess (id : ℕ)
  /-- `UserSerializer` leaves `is_superuser` at its default. -/
  | createUser
  | deleteUser (id : UserId)
  /-- Any request on organizations, data centers, rooms, racks or devices. -/
  | resources (hierarchy : Hierarchy)

/-- The permission module of the view set, and what the check reads of the
request.  Requests on resources are let through unchecked. -/
def Request.view : Request → String × ViewRequest
  | .createRole _ | .createPermission _ | .createRolePermission _ _ | .createAccess _ =>
      ("access", { method := "POST", action := "create" })
  | .updateRole _ _ | .updatePermission _ _ | .updateRolePermission _ _ _
  | .updateAccess _ _ =>
      ("access", { method := "PATCH", action := "partial_update" })
  | .deleteRole _ | .deletePermission _ | .deleteRolePermission _ | .deleteAccess _ =>
      ("access", { method := "DELETE", action := "destroy" })
  | .createUser => ("user", { method := "POST", action := "create" })
  | .deleteUser _ => ("user", { method := "DELETE", action := "destroy" })
  | .resources _ => ("", { method := "POST" })

namespace Directory

variable (db : Directory)

/-! ### Writes -/

/-- Save a role. -/
def saveRole (role : Role) : Directory :=
  { db with
    roles := db.roles.save role
    access_role := fun row hrow => Table.isSome_find_save (db.access_role row hrow)
    rolePermission_role := fun link hlink =>
      Table.isSome_find_save (db.rolePermission_role link hlink) }

/-- Delete a role: `PROTECT`ed by access rows, cascading to role permissions. -/
def deleteRole (id : RoleId) : Directory :=
  if h : ∀ row ∈ db.accesses.rows, row.role ≠ id then
    { db with
      roles := db.roles.filter fun role => role.id ≠ id
      rolePermissions := db.rolePermissions.filter fun link => link.role ≠ id
      access_role := fun row hrow =>
        Table.isSome_find_filter (db.access_role row hrow) (h row hrow)
      rolePermission_role := fun link hlink => by
        obtain ⟨hlink, hrole⟩ := Table.mem_filter.mp hlink
        exact Table.isSome_find_filter (db.rolePermission_role link hlink)
          (by simpa using hrole)
      rolePermission_permission := fun link hlink =>
        db.rolePermission_permission link (Table.mem_filter.mp hlink).1 }
  else db

/-- Save a permission, whose code is unique. -/
def savePermission (permission : Permission) : Directory :=
  if ∃ other ∈ db.permissions, other.code = permission.code ∧ other.id ≠ permission.id then
    db
  else
    { db with
      permissions := db.permissions.save permission
      rolePermission_permission := fun link hlink =>
        Table.isSome_find_save (db.rolePermission_permission link hlink) }

/-- Delete a permission, cascading to role permissions. -/
def deletePermission (id : PermissionId) : Directory :=
  { db with
    permissions := db.permissions.filter fun permission => permission.id ≠ id
    rolePermissions := db.rolePermissions.filter fun link => link.permission ≠ id
    rolePermission_role := fun link hlink =>
      db.rolePermission_role link (Table.mem_filter.mp hlink).1
    rolePermission_permission := fun link hlink => by
      obtain ⟨hlink, hpermission⟩ := Table.mem_filter.mp hlink
      exact Table.isSome_find_filter (db.rolePermission_permission link hlink)
        (by simpa using hpermission) }

/-- Save a role permission: its keys exist, and the pair is unique. -/
def saveRolePermission (link : RolePermission) : Directory :=
  if h : (db.roles.find link.role).isSome ∧ (db.permissions.find link.permission).isSome then
    if ∃ other ∈ db.rolePermissions, other.role = link.role ∧
        other.permission = link.permission ∧ other.id ≠ link.id then db
    else
      { db with
        rolePermissions := db.rolePermissions.save link
        rolePermission_role := fun other hother => by
          rcases Table.mem_save.mp hother with rfl | ⟨hold, -⟩
          · exact h.1
          · exact db.rolePermission_role other hold
        rolePermission_permission := fun other hother => by
          rcases Table.mem_save.mp hother with rfl | ⟨hold, -⟩
          · exact h.2
          · exact db.rolePermission_permission other hold }
  else db

/-- Delete role permissions. -/
def deleteRolePermission (id : ℕ) : Directory :=
  { db with
    rolePermissions := db.rolePermissions.filter fun link => link.id ≠ id
    rolePermission_role := fun link hlink =>
      db.rolePermission_role link (Table.mem_filter.mp hlink).1
    rolePermission_permission := fun link hlink =>
      db.rolePermission_permission link (Table.mem_filter.mp hlink).1 }

/-- The foreign keys of an access row exist. -/
def Storable (row : UserResourceAccess) : Prop :=
  (db.users.find row.user).isSome ∧ (db.roles.find row.role).isSome ∧
    row.keysExist db.hierarchy

instance (row : UserResourceAccess) : Decidable (db.Storable row) :=
  inferInstanceAs (Decidable (_ ∧ _ ∧ _))

/-- Save an access row.  The database refuses a row with a dangling key; no
cleaned row has one. -/
def saveAccess (row : UserResourceAccess) : Directory :=
  if h : db.Storable row then
    { db with
      accesses := db.accesses.save row
      access_user := fun other hother => by
        rcases Table.mem_save.mp hother with rfl | ⟨hold, -⟩
        · exact h.1
        · exact db.access_user other hold
      access_role := fun other hother => by
        rcases Table.mem_save.mp hother with rfl | ⟨hold, -⟩
        · exact h.2.1
        · exact db.access_role other hold
      access_keys := fun other hother => by
        rcases Table.mem_save.mp hother with rfl | ⟨hold, -⟩
        · exact h.2.2
        · exact db.access_keys other hold }
  else db

/-- Keep only some access rows. -/
def filterAccesses (p : UserResourceAccess → Bool) : Directory :=
  { db with
    accesses := db.accesses.filter p
    access_user := fun row hrow => db.access_user row (Table.mem_filter.mp hrow).1
    access_role := fun row hrow => db.access_role row (Table.mem_filter.mp hrow).1
    access_keys := fun row hrow => db.access_keys row (Table.mem_filter.mp hrow).1 }

/-- Delete an access row. -/
def deleteAccess (id : ℕ) : Directory := db.filterAccesses fun row => row.id ≠ id

/-- Create a user, who is no superuser. -/
def createUser : Directory :=
  { db with
    users := db.users.save { id := db.users.nextPk }
    access_user := fun row hrow => Table.isSome_find_save (db.access_user row hrow) }

/-- Delete a user, cascading to access rows. -/
def deleteUser (id : UserId) : Directory :=
  { db with
    users := db.users.filter fun user => user.id ≠ id
    accesses := db.accesses.filter fun row => row.user ≠ id
    access_user := fun row hrow => by
      obtain ⟨hrow, huser⟩ := Table.mem_filter.mp hrow
      exact Table.isSome_find_filter (db.access_user row hrow) (by simpa using huser)
    access_role := fun row hrow => db.access_role row (Table.mem_filter.mp hrow).1
    access_keys := fun row hrow => db.access_keys row (Table.mem_filter.mp hrow).1 }

/-- The resources change; access rows that lose a foreign key go with it. -/
def setHierarchy (hierarchy : Hierarchy) : Directory :=
  { db with
    hierarchy := hierarchy
    accesses := db.accesses.filter fun row => row.keysExist hierarchy
    access_user := fun row hrow => db.access_user row (Table.mem_filter.mp hrow).1
    access_role := fun row hrow => db.access_role row (Table.mem_filter.mp hrow).1
    access_keys := fun _ hrow => (Table.mem_filter.mp hrow).2 }

/-! ### Requests -/

/-- The row a `POST` of an access row stores.  `UserResourceAccessSerializer.validate`
cleans one scratch instance and `save` another. -/
def createdAccess (attrs : AccessAttrs) : Except SaveError UserResourceAccess :=
  match attrs.user, attrs.role, attrs.missing with
  | some user, some role, [] => do
      let row := attrs.apply { id := db.accesses.nextPk, user := user, role := role }
      let _ ← row.fullClean db
      row.fullClean db
  | _, _, missing => .error (.invalid (missing.map fun field => (field, required)))
where
  /-- The message of a serializer field that has to be present. -/
  required := "This field is required."

/-- The row a `PATCH` of an access row stores.  `validate` applies and cleans the
loaded instance, and `save` does both again on what that left behind. -/
def updatedAccess (id : ℕ) (attrs : AccessAttrs) : Except SaveError UserResourceAccess :=
  match db.accesses.find id with
  | none => .error .doesNotExist
  | some row => do
      let row ← (attrs.apply row).fullClean db
      (attrs.apply row).fullClean db

/-- The access row that a request stores if it gets through. -/
def accessWritten : Request → Option UserResourceAccess
  | .createAccess attrs => (db.createdAccess attrs).toOption
  | .updateAccess id attrs => (db.updatedAccess id attrs).toOption
  | _ => none

/-- `RoleSerializer` accepts the declared choices. -/
def validScope : RoleScope → Bool
  | .unsupported _ => false
  | _ => true

/-- What a permitted request does. -/
def perform : Request → Directory
  | .createRole scope =>
      if validScope scope then db.saveRole { id := db.roles.nextPk, scope := scope } else db
  | .updateRole id scope =>
      match db.roles.find id with
      | none => db
      | some role =>
          if scope.all validScope then
            db.saveRole { role with scope := scope.getD role.scope }
          else db
  | .deleteRole id => db.deleteRole id
  | .createPermission code => db.savePermission { id := db.permissions.nextPk, code := code }
  | .updatePermission id code =>
      match db.permissions.find id with
      | none => db
      | some permission =>
          db.savePermission { permission with code := code.getD permission.code }
  | .deletePermission id => db.deletePermission id
  | .createRolePermission role permission =>
      db.saveRolePermission
        { id := db.rolePermissions.nextPk, role := role, permission := permission }
  | .updateRolePermission id role permission =>
      match db.rolePermissions.find id with
      | none => db
      | some link =>
          db.saveRolePermission
            { link with
              role := role.getD link.role
              permission := permission.getD link.permission }
  | .deleteRolePermission id => db.deleteRolePermission id
  | .createAccess attrs =>
      match db.createdAccess attrs with
      | .ok row => db.saveAccess row
      | .error _ => db
  | .updateAccess id attrs =>
      match db.updatedAccess id attrs with
      | .ok row => db.saveAccess row
      | .error _ => db
  | .deleteAccess id => db.deleteAccess id
  | .createUser => db.createUser
  | .deleteUser id => db.deleteUser id
  | .resources hierarchy => db.setHierarchy hierarchy

/-- Whether a request gets past `DCIMRBACPermission`. -/
def permits (requester : User) (request : Request) : Bool :=
  db.hasPermission (some requester) request.view.1 request.view.2

/-- One request by a user; a request by nobody or without permission does
nothing. -/
def step (db : Directory) (i : UserId × Request) : Directory :=
  match db.users.find i.1 with
  | none => db
  | some requester => if db.permits requester i.2 then db.perform i.2 else db

/-! ### Global access and what rows give, in terms of rows -/

variable {db}

/-- The user is a superuser or holds an active row of a global role. -/
def HasGlobal (db : Directory) (user : User) : Prop :=
  user.isSuperuser ∨
    ∃ row ∈ db.accesses, row.user = user.id ∧ row.isActive ∧ db.isGlobal row

theorem globalAccess_iff {user : User} :
    (db.getAccessScope (some user)).globalAccess ↔ db.HasGlobal user := by
  rw [globalAccess_getAccessScope, Bool.or_eq_true, List.any_eq_true, HasGlobal]
  simp only [mem_getUserResourceAccessRows, and_assoc]

/-- The scope of a user contains a device: globally or by its id. -/
def ScopeContains (db : Directory) (user : User) (device : DeviceId) : Prop :=
  (db.getAccessScope (some user)).globalAccess ∨
    (db.getAccessScope (some user)).Has ⟨.device, device⟩

/-- One row gives its holder a device. -/
def RowReaches (db : Directory) (row : UserResourceAccess) (device : DeviceId) : Prop :=
  db.isGlobal row ∨ row.Grants db.hierarchy ⟨.device, device⟩

theorem scopeContains_iff {user : User} {device : DeviceId} :
    db.ScopeContains user device ↔
      user.isSuperuser ∨
        ∃ row ∈ db.accesses, row.user = user.id ∧ row.isActive ∧
          db.RowReaches row device := by
  unfold ScopeContains RowReaches
  by_cases hglobal : (db.getAccessScope (some user)).globalAccess
  · simp only [hglobal, true_or, true_iff]
    rcases globalAccess_iff.mp hglobal with hsuper | ⟨row, hrow, huser, hactive, hg⟩
    · exact Or.inl hsuper
    · exact Or.inr ⟨row, hrow, huser, hactive, Or.inl hg⟩
  · have hnot := mt globalAccess_iff.mpr hglobal
    rw [Bool.not_eq_true] at hglobal
    rw [has_getAccessScope hglobal]
    simp only [hglobal, Bool.false_eq_true, false_or, mem_getUserResourceAccessRows,
      and_assoc]
    constructor
    · rintro ⟨row, hrow, huser, hactive, hgrants⟩
      exact Or.inr ⟨row, hrow, huser, hactive, Or.inr hgrants⟩
    · rintro (hsuper | ⟨row, hrow, huser, hactive, hg | hgrants⟩)
      · exact absurd (Or.inl hsuper) hnot
      · exact absurd (Or.inr ⟨row, hrow, huser, hactive, hg⟩) hnot
      · exact ⟨row, hrow, huser, hactive, hgrants⟩

/-- The codes of a user, in terms of rows. -/
theorem mem_codes_iff {user : User} {code : String} :
    code ∈ db.getEffectivePermissionCodes (some user) ↔
      (user.isSuperuser ∧ ∃ permission ∈ db.permissions, permission.code = code) ∨
        user.isSuperuser = false ∧
          ∃ row ∈ db.accesses, row.user = user.id ∧ row.isActive ∧
            db.RoleGrants row.role code := by
  rw [mem_effectivePermissionCodes_iff]
  simp only [mem_getUserResourceAccessRows, and_assoc]

theorem isGlobal_iff {row : UserResourceAccess} :
    db.isGlobal row ↔ ∃ role ∈ db.roles, role.id = row.role ∧ role.scope = .global := by
  simp only [isGlobal, Option.any_eq_true, Table.find_eq_some_iff, decide_eq_true_eq,
    and_assoc]
  rfl

/-! ### No escalation -/

/-- A step escalates nothing: whoever has global access after it had it before,
and a row it created or changed gives the holder no device and no code that the
requesting user does not have. -/
def NoEscalation (db : Directory) (i : UserId × Request) (db' : Directory) : Prop :=
  (∀ user ∈ db'.users, (db'.getAccessScope (some user)).globalAccess →
    user ∈ db.users ∧ (db.getAccessScope (some user)).globalAccess) ∧
  ∀ requester ∈ db.users, requester.id = i.1 →
    ∀ row ∈ db'.accesses, row ∉ db.accesses → ∀ holder ∈ db'.users, holder.id = row.user →
      (∀ device ∈ db'.hierarchy.devices, db'.ScopeContains holder device.id →
        db.ScopeContains requester device.id) ∧
      ∀ code ∈ db'.getEffectivePermissionCodes (some holder),
        code ∈ db.getEffectivePermissionCodes (some requester)

/-- The requesting user is no superuser and holds no active row of a global
role. -/
def Ordinary (db : Directory) (i : UserId × Request) : Prop :=
  ∀ requester ∈ db.users, requester.id = i.1 → ¬db.HasGlobal requester

/-- The rows a user holds once `row` is stored: it, and the user's others. -/
def HeldWith (db : Directory) (row other : UserResourceAccess) : Prop :=
  other.user = row.user ∧ other.isActive ∧
    (other = row ∨ (other ∈ db.accesses ∧ other.id ≠ row.id))

/-- Storing `row` is within what the requesting user has: an active global row
goes only to a user with global access, and together with the rows the holder
has it reaches only devices, and its roles grant only codes, that an active row
of the requesting user reaches and grants. -/
structure WithinOwn (db : Directory) (requester : User) (row : UserResourceAccess) :
    Prop where
  global : row.isActive → db.isGlobal row →
    ∀ holder ∈ db.users, holder.id = row.user → db.HasGlobal holder
  devices : ∀ holder ∈ db.users, holder.id = row.user →
    ∀ device ∈ db.hierarchy.devices,
      (holder.isSuperuser ∨ ∃ other, db.HeldWith row other ∧ db.RowReaches other device.id) →
      ∃ own ∈ db.accesses, own.user = requester.id ∧ own.isActive ∧
        db.RowReaches own device.id
  codes : ∀ holder ∈ db.users, holder.id = row.user → ∀ code,
    ((holder.isSuperuser ∧ ∃ permission ∈ db.permissions, permission.code = code) ∨
      holder.isSuperuser = false ∧
        ∃ other, db.HeldWith row other ∧ db.RoleGrants other.role code) →
      ∃ own ∈ db.accesses, own.user = requester.id ∧ own.isActive ∧
        db.RoleGrants own.role code

/-- A request that escalates nothing: a row it stores is within what the
requesting user has, and it gives no role the global scope that a user without
global access holds. -/
def Guarded (db : Directory) (i : UserId × Request) : Prop :=
  ∀ requester ∈ db.users, requester.id = i.1 → db.permits requester i.2 →
    (∀ row, db.accessWritten i.2 = some row → row ∉ db.accesses →
      db.WithinOwn requester row) ∧
    ∀ id, i.2 = .updateRole id (some .global) →
      ∀ row ∈ db.accesses, row.role = id → row.isActive →
        ∀ holder ∈ db.users, holder.id = row.user → db.HasGlobal holder

/-! ### Requests that store no access row -/

/-- Nothing is added that could give access: every access row was there before,
none has become global, and a new user is no superuser and holds no row. -/
structure Quiet (db db' : Directory) : Prop where
  accesses : ∀ row ∈ db'.accesses, row ∈ db.accesses
  global : ∀ row ∈ db'.accesses, db'.isGlobal row → db.isGlobal row
  users : ∀ user ∈ db'.users, user ∈ db.users ∨
    (user.isSuperuser = false ∧ ∀ row ∈ db.accesses, row.user ≠ user.id)

theorem noEscalation_of_quiet {db' : Directory} (h : Quiet db db')
    (i : UserId × Request) : NoEscalation db i db' := by
  refine ⟨fun user huser hglobal => ?_, fun _ _ _ row hrow hnew => ?_⟩
  · rw [globalAccess_iff] at hglobal ⊢
    rcases h.users user huser with hold | ⟨hsuper, hnone⟩
    · refine ⟨hold, hglobal.imp_right ?_⟩
      rintro ⟨row, hrow, hholder, hactive, hg⟩
      exact ⟨row, h.accesses row hrow, hholder, hactive, h.global row hrow hg⟩
    · rcases hglobal with hs | ⟨row, hrow, hholder, -⟩
      · simp [hsuper] at hs
      · exact absurd hholder (hnone row (h.accesses row hrow))
  · exact absurd (h.accesses row hrow) hnew

/-- Tables that only lose rows are quiet. -/
theorem quiet_of_subset {db' : Directory}
    (haccesses : ∀ row ∈ db'.accesses, row ∈ db.accesses)
    (hroles : ∀ role ∈ db'.roles, role ∈ db.roles)
    (husers : ∀ user ∈ db'.users, user ∈ db.users) : Quiet db db' where
  accesses := haccesses
  global := by
    intro row _ hglobal
    obtain ⟨role, hrole, hid, hscope⟩ := isGlobal_iff.mp hglobal
    exact isGlobal_iff.mpr ⟨role, hroles role hrole, hid, hscope⟩
  users := fun user huser => Or.inl (husers user huser)

theorem quiet_refl : Quiet db db :=
  quiet_of_subset (fun _ h => h) (fun _ h => h) (fun _ h => h)

theorem isGlobal_saveRole {role : Role} {row : UserResourceAccess} :
    (db.saveRole role).isGlobal row ↔
      (role.id = row.role ∧ role.scope = .global) ∨
        (row.role ≠ role.id ∧ db.isGlobal row) := by
  rw [isGlobal_iff, isGlobal_iff]
  constructor
  · rintro ⟨other, hother, hid, hscope⟩
    rcases Table.mem_save.mp hother with rfl | ⟨hold, hne⟩
    · exact Or.inl ⟨hid, hscope⟩
    · exact Or.inr ⟨fun h => hne (hid.trans h), other, hold, hid, hscope⟩
  · rintro (⟨hid, hscope⟩ | ⟨hne, other, hother, hid, hscope⟩)
    · exact ⟨role, Table.mem_save.mpr (Or.inl rfl), hid, hscope⟩
    · exact ⟨other, Table.mem_save.mpr (Or.inr ⟨hother, fun h => hne (hid.symm.trans h)⟩),
        hid, hscope⟩

theorem quiet_saveRole {role : Role}
    (h : ∀ row ∈ db.accesses, row.role = role.id → role.scope = .global →
      db.isGlobal row) : Quiet db (db.saveRole role) where
  accesses := fun _ hrow => hrow
  global := by
    intro row hrow hglobal
    rcases isGlobal_saveRole.mp hglobal with ⟨hid, hscope⟩ | ⟨-, hold⟩
    · exact h row hrow hid.symm hscope
    · exact hold
  users := fun _ huser => Or.inl huser

theorem quiet_deleteRole (id : RoleId) : Quiet db (db.deleteRole id) := by
  unfold deleteRole
  split
  · exact quiet_of_subset (fun _ h => h) (fun _ h => (Table.mem_filter.mp h).1)
      (fun _ h => h)
  · exact quiet_refl

theorem quiet_savePermission (permission : Permission) :
    Quiet db (db.savePermission permission) := by
  unfold savePermission
  split
  · exact quiet_refl
  · exact quiet_of_subset (fun _ h => h) (fun _ h => h) (fun _ h => h)

theorem quiet_saveRolePermission (link : RolePermission) :
    Quiet db (db.saveRolePermission link) := by
  unfold saveRolePermission
  split
  · split
    · exact quiet_refl
    · exact quiet_of_subset (fun _ h => h) (fun _ h => h) (fun _ h => h)
  · exact quiet_refl

theorem quiet_createUser : Quiet db db.createUser where
  accesses := fun _ hrow => hrow
  global := fun _ _ hglobal => hglobal
  users := by
    intro user huser
    rcases Table.mem_save.mp huser with rfl | ⟨hold, -⟩
    · -- the fresh key is above every key an access row refers to
      refine Or.inr ⟨rfl, fun row hrow heq => ?_⟩
      obtain ⟨other, hother, hid⟩ := Table.isSome_find_iff.mp (db.access_user row hrow)
      have := db.users.pk_lt_nextPk other hother
      rw [hid, heq] at this
      exact Nat.lt_irrefl _ this
    · exact Or.inl hold

/-! ### Storing an access row -/

theorem mem_saveAccess {row : UserResourceAccess} (hrow : db.Storable row)
    {other : UserResourceAccess} :
    other ∈ (db.saveAccess row).accesses ↔
      other = row ∨ (other ∈ db.accesses ∧ other.id ≠ row.id) := by
  unfold saveAccess
  rw [dif_pos hrow]
  exact Table.mem_save

theorem saveAccess_unchanged (row : UserResourceAccess) :
    (db.saveAccess row).hierarchy = db.hierarchy ∧ (db.saveAccess row).users = db.users ∧
      (db.saveAccess row).roles = db.roles ∧
      (db.saveAccess row).permissions = db.permissions ∧
      (db.saveAccess row).rolePermissions = db.rolePermissions := by
  unfold saveAccess
  split <;> simp

theorem heldWith_iff {row other : UserResourceAccess} (hrow : db.Storable row) :
    db.HeldWith row other ↔
      other ∈ (db.saveAccess row).accesses ∧ other.user = row.user ∧ other.isActive := by
  rw [HeldWith, mem_saveAccess hrow, ← and_assoc, and_comm]

theorem isGlobal_saveAccess (row other : UserResourceAccess) :
    (db.saveAccess row).isGlobal other = db.isGlobal other := by
  simp only [isGlobal, saveAccess_unchanged]

theorem rowReaches_saveAccess (row other : UserResourceAccess) (device : DeviceId) :
    (db.saveAccess row).RowReaches other device ↔ db.RowReaches other device := by
  simp only [RowReaches, isGlobal_saveAccess, saveAccess_unchanged]

theorem roleGrants_saveAccess (row : UserResourceAccess) (role : RoleId) (code : String) :
    (db.saveAccess row).RoleGrants role code ↔ db.RoleGrants role code := by
  simp only [RoleGrants, saveAccess_unchanged]

/-- An ordinary user's scope, in terms of rows. -/
theorem scopeContains_of_ordinary {user : User} (hordinary : ¬db.HasGlobal user)
    {device : DeviceId} :
    db.ScopeContains user device ↔
      ∃ own ∈ db.accesses, own.user = user.id ∧ own.isActive ∧ db.RowReaches own device := by
  rw [scopeContains_iff]
  exact or_iff_right fun hsuper => hordinary (Or.inl hsuper)

theorem mem_codes_of_ordinary {user : User} (hordinary : ¬db.HasGlobal user)
    {code : String} :
    code ∈ db.getEffectivePermissionCodes (some user) ↔
      ∃ own ∈ db.accesses, own.user = user.id ∧ own.isActive ∧
        db.RoleGrants own.role code := by
  have hsuper : user.isSuperuser = false := by
    rw [← Bool.not_eq_true]
    exact fun hsuper => hordinary (Or.inl hsuper)
  simp [mem_codes_iff, hsuper]

/-- The holder's scope once `row` is stored. -/
theorem scopeContains_saveAccess {row : UserResourceAccess} (hrow : db.Storable row)
    {holder : User} (hholder : holder.id = row.user) {device : DeviceId} :
    (db.saveAccess row).ScopeContains holder device ↔
      holder.isSuperuser ∨
        ∃ other, db.HeldWith row other ∧ db.RowReaches other device := by
  simp only [scopeContains_iff, heldWith_iff hrow, rowReaches_saveAccess, hholder,
    and_assoc]

/-- The holder's codes once `row` is stored. -/
theorem mem_codes_saveAccess {row : UserResourceAccess} (hrow : db.Storable row)
    {holder : User} (hholder : holder.id = row.user) {code : String} :
    code ∈ (db.saveAccess row).getEffectivePermissionCodes (some holder) ↔
      (holder.isSuperuser ∧ ∃ permission ∈ db.permissions, permission.code = code) ∨
        holder.isSuperuser = false ∧
          ∃ other, db.HeldWith row other ∧ db.RoleGrants other.role code := by
  simp only [mem_codes_iff, heldWith_iff hrow, roleGrants_saveAccess, hholder,
    saveAccess_unchanged, and_assoc]

/-- **Storing a row** escalates nothing exactly when the row is no change or is
within what the requesting user has. -/
theorem noEscalation_saveAccess_iff {requester : User} (hrequester : requester ∈ db.users)
    (hordinary : ¬db.HasGlobal requester) {request : Request} {row : UserResourceAccess}
    (hrow : db.Storable row) :
    NoEscalation db (requester.id, request) (db.saveAccess row) ↔
      (row ∉ db.accesses → db.WithinOwn requester row) := by
  obtain ⟨hhierarchy, husers, -⟩ := @saveAccess_unchanged db row
  have hstored : row ∈ (db.saveAccess row).accesses := (mem_saveAccess hrow).mpr (Or.inl rfl)
  constructor
  · rintro ⟨hacquire, hwithin⟩ hnew
    rw [husers] at hacquire hwithin
    have hown := hwithin requester hrequester rfl row hstored hnew
    refine ⟨fun hactive hglobal holder hholder hid => ?_,
      fun holder hholder hid device hdevice hreach => ?_,
      fun holder hholder hid code hcode => ?_⟩
    · rw [← globalAccess_iff]
      refine (hacquire holder hholder (globalAccess_iff.mpr (Or.inr ?_))).2
      exact ⟨row, hstored, hid.symm, hactive, by rwa [isGlobal_saveAccess]⟩
    · rw [← scopeContains_of_ordinary hordinary]
      exact (hown holder hholder hid).1 device (hhierarchy ▸ hdevice)
        ((scopeContains_saveAccess hrow hid).mpr hreach)
    · rw [← mem_codes_of_ordinary hordinary]
      exact (hown holder hholder hid).2 code ((mem_codes_saveAccess hrow hid).mpr hcode)
  · intro hwithin
    by_cases hnew : row ∈ db.accesses
    · -- the stored row is the one that is there already
      refine noEscalation_of_quiet ⟨fun other hother => ?_, fun other _ hglobal => ?_,
        fun user huser => Or.inl (husers ▸ huser)⟩ _
      · rcases (mem_saveAccess hrow).mp hother with rfl | ⟨hold, -⟩
        · exact hnew
        · exact hold
      · rwa [isGlobal_saveAccess] at hglobal
    have hown := hwithin hnew
    refine ⟨fun user huser hglobal => ?_, ?_⟩
    · rw [husers] at huser
      refine ⟨huser, globalAccess_iff.mpr ?_⟩
      rcases globalAccess_iff.mp hglobal with hsuper | ⟨other, hother, hid, hactive, hg⟩
      · exact Or.inl hsuper
      rw [isGlobal_saveAccess] at hg
      rcases (mem_saveAccess hrow).mp hother with rfl | ⟨hold, -⟩
      · exact hown.global hactive hg user huser hid.symm
      · exact Or.inr ⟨other, hold, hid, hactive, hg⟩
    · intro requester' hrequester' hid' other hother hotherNew holder hholder hid
      obtain rfl := db.users.eq_of_pk_eq hrequester' hrequester hid'
      obtain rfl : other = row := by
        rcases (mem_saveAccess hrow).mp hother with h | ⟨hold, -⟩
        · exact h
        · exact absurd hold hotherNew
      rw [husers] at hholder
      refine ⟨fun device hdevice hcontains => ?_, fun code hcode => ?_⟩
      · rw [scopeContains_of_ordinary hordinary]
        exact hown.devices holder hholder hid device (hhierarchy ▸ hdevice)
          ((scopeContains_saveAccess hrow hid).mp hcontains)
      · rw [mem_codes_of_ordinary hordinary]
        exact hown.codes holder hholder hid code ((mem_codes_saveAccess hrow hid).mp hcode)

/-! ### Giving a role the global scope -/

theorem noEscalation_saveRole_global_iff {i : UserId × Request} {role : Role}
    (hrole : role.scope = .global) :
    NoEscalation db i (db.saveRole role) ↔
      ∀ row ∈ db.accesses, row.role = role.id → row.isActive →
        ∀ holder ∈ db.users, holder.id = row.user → db.HasGlobal holder := by
  constructor
  · rintro ⟨hacquire, -⟩ row hrow hid hactive holder hholder hholderId
    rw [← globalAccess_iff]
    refine (hacquire holder hholder (globalAccess_iff.mpr (Or.inr ?_))).2
    exact ⟨row, hrow, hholderId.symm, hactive,
      isGlobal_saveRole.mpr (Or.inl ⟨hid.symm, hrole⟩)⟩
  · intro hheld
    refine ⟨fun user huser hglobal => ⟨huser, globalAccess_iff.mpr ?_⟩,
      fun _ _ _ row hrow hnew => absurd hrow hnew⟩
    rcases globalAccess_iff.mp hglobal with hsuper | ⟨row, hrow, hid, hactive, hg⟩
    · exact Or.inl hsuper
    rcases isGlobal_saveRole.mp hg with ⟨hrowRole, -⟩ | ⟨-, hold⟩
    · exact hheld row hrow hrowRole.symm hactive user huser hid.symm
    · exact Or.inr ⟨row, hrow, hid, hactive, hold⟩

/-! ### One request -/

theorem storable_of_fullClean {raw row : UserResourceAccess}
    (h : raw.fullClean db = .ok row) : db.Storable row := by
  unfold UserResourceAccess.fullClean at h
  split at h
  · cases h
  rename_i user huser
  split at h
  · cases h
  rename_i cleaned hclean
  split at h
  · obtain rfl := Except.ok.inj h
    obtain ⟨-, hholder, -, hrole, -⟩ := UserResourceAccess.clean_unchanged hclean
    obtain ⟨role, hfind, -⟩ := UserResourceAccess.clean_eq_ok_iff.mp hclean
    exact ⟨by rw [hholder, huser]; rfl, by rw [hrole, hfind]; rfl,
      UserResourceAccess.keysExist_of_clean hclean⟩
  · cases h

theorem storable_of_createdAccess {attrs : AccessAttrs} {row : UserResourceAccess}
    (h : db.createdAccess attrs = .ok row) : db.Storable row := by
  unfold createdAccess at h
  split at h
  · obtain ⟨_, -, h⟩ := bind_eq_ok_iff.mp h
    exact storable_of_fullClean h
  all_goals cases h

theorem storable_of_updatedAccess {id : ℕ} {attrs : AccessAttrs}
    {row : UserResourceAccess} (h : db.updatedAccess id attrs = .ok row) :
    db.Storable row := by
  unfold updatedAccess at h
  split at h
  · cases h
  · obtain ⟨_, -, h⟩ := bind_eq_ok_iff.mp h
    exact storable_of_fullClean h

/-- A request that stores no access row and does not give a role the global
scope is guarded. -/
theorem guarded_of_plain {i : UserId × Request} (hwritten : db.accessWritten i.2 = none)
    (hrole : ∀ id, i.2 ≠ .updateRole id (some .global)) : Guarded db i :=
  fun _ _ _ _ => ⟨fun row hrow => by simp [hwritten] at hrow,
    fun id hid => absurd hid (hrole id)⟩

/-- No access row refers to the key the next role receives. -/
theorem role_ne_nextPk {row : UserResourceAccess} (hrow : row ∈ db.accesses) :
    row.role ≠ db.roles.nextPk := by
  intro heq
  obtain ⟨role, hrole, hid⟩ := Table.isSome_find_iff.mp (db.access_role row hrow)
  have := db.roles.pk_lt_nextPk role hrole
  rw [hid, heq] at this
  exact Nat.lt_irrefl _ this

/-- Patching a role keeps quiet unless it sets the global scope. -/
theorem quiet_patchRole {id : RoleId} {role : Role} (hfind : db.roles.find id = some role)
    {scope : Option RoleScope} (hscope : scope ≠ some .global) :
    Quiet db (db.saveRole { role with scope := scope.getD role.scope }) := by
  apply quiet_saveRole
  intro row _ hid hglobal
  cases scope with
  | none =>
      exact isGlobal_iff.mpr ⟨role, (Table.find_eq_some_iff.mp hfind).1, hid.symm, hglobal⟩
  | some scope => exact absurd (congrArg some hglobal) hscope

/-- A request that stores a row does nothing else. -/
theorem perform_of_accessWritten {request : Request} {row : UserResourceAccess}
    (hwritten : db.accessWritten request = some row) :
    db.perform request = db.saveAccess row ∧ db.Storable row := by
  cases request with
  | createAccess attrs =>
      have hrow := toOption_eq_some_iff.mp hwritten
      simp only [perform, hrow, true_and]
      exact storable_of_createdAccess hrow
  | updateAccess id attrs =>
      have hrow := toOption_eq_some_iff.mp hwritten
      simp only [perform, hrow, true_and]
      exact storable_of_updatedAccess hrow
  | _ => cases hwritten

/-- All other requests are quiet, but for a role that is given the global scope. -/
theorem quiet_perform {request : Request} (hwritten : db.accessWritten request = none)
    (hrole : ∀ id, request ≠ .updateRole id (some .global)) :
    Quiet db (db.perform request) := by
  cases request with
  | createRole scope =>
      dsimp only [perform]
      split
      · exact quiet_saveRole fun row hrow hid _ => absurd hid (role_ne_nextPk hrow)
      · exact quiet_refl
  | updateRole id scope =>
      dsimp only [perform]
      split
      · exact quiet_refl
      · rename_i role hfind
        split
        · refine quiet_patchRole hfind ?_
          rintro rfl
          exact hrole id rfl
        · exact quiet_refl
  | deleteRole id => exact quiet_deleteRole id
  | createPermission code => exact quiet_savePermission _
  | updatePermission id code =>
      dsimp only [perform]
      split
      · exact quiet_refl
      · exact quiet_savePermission _
  | deletePermission id => exact quiet_of_subset (fun _ h => h) (fun _ h => h) (fun _ h => h)
  | createRolePermission role permission => exact quiet_saveRolePermission _
  | updateRolePermission id role permission =>
      dsimp only [perform]
      split
      · exact quiet_refl
      · exact quiet_saveRolePermission _
  | deleteRolePermission id =>
      exact quiet_of_subset (fun _ h => h) (fun _ h => h) (fun _ h => h)
  | createAccess attrs =>
      dsimp only [perform]
      split
      · rename_i row hrow
        simp [accessWritten, hrow, Except.toOption] at hwritten
      · exact quiet_refl
  | updateAccess id attrs =>
      dsimp only [perform]
      split
      · rename_i row hrow
        simp [accessWritten, hrow, Except.toOption] at hwritten
      · exact quiet_refl
  | deleteAccess id =>
      exact quiet_of_subset (fun _ h => (Table.mem_filter.mp h).1) (fun _ h => h)
        (fun _ h => h)
  | createUser => exact quiet_createUser
  | deleteUser id =>
      exact quiet_of_subset (fun _ h => (Table.mem_filter.mp h).1) (fun _ h => h)
        (fun _ h => (Table.mem_filter.mp h).1)
  | resources hierarchy =>
      exact quiet_of_subset (fun _ h => (Table.mem_filter.mp h).1) (fun _ h => h)
        (fun _ h => h)

/-- A role is given the global scope: guarded exactly when only users with global
access hold it. -/
theorem noEscalation_updateRole_global_iff {requester : User}
    (hrequester : requester ∈ db.users) {id : RoleId}
    (hpermits : db.permits requester (.updateRole id (some .global))) :
    NoEscalation db (requester.id, .updateRole id (some .global))
        (db.perform (.updateRole id (some .global))) ↔
      Guarded db (requester.id, .updateRole id (some .global)) := by
  have hguarded : Guarded db (requester.id, .updateRole id (some .global)) ↔
      ∀ row ∈ db.accesses, row.role = id → row.isActive →
        ∀ holder ∈ db.users, holder.id = row.user → db.HasGlobal holder := by
    constructor
    · intro h
      exact (h requester hrequester rfl hpermits).2 id rfl
    · intro h _ _ _ _
      refine ⟨fun row hrow => by simp [accessWritten] at hrow, fun id' hid' => ?_⟩
      obtain rfl : id = id' := by simpa using hid'
      exact h
  rw [hguarded]
  cases hfind : db.roles.find id with
  | none =>
      -- nobody holds a role that does not exist
      simp only [perform, hfind]
      refine iff_of_true (noEscalation_of_quiet quiet_refl _) fun row hrow hid => ?_
      have hrole := db.access_role row hrow
      rw [hid, hfind] at hrole
      cases hrole
  | some role =>
      obtain ⟨-, hid⟩ := Table.find_eq_some_iff.mp hfind
      simp only [perform, hfind, validScope, Option.all_some, if_true, Option.getD_some]
      rw [noEscalation_saveRole_global_iff rfl]
      exact hid ▸ Iff.rfl

/-- **One request** escalates nothing exactly when it is guarded. -/
theorem noEscalation_step_iff {i : UserId × Request} (hordinary : Ordinary db i) :
    NoEscalation db i (step db i) ↔ Guarded db i := by
  obtain ⟨id, request⟩ := i
  cases hfind : db.users.find id with
  | none =>
      have hnobody : ∀ user ∈ db.users, user.id ≠ id := Table.find_eq_none_iff.mp hfind
      simp only [step, hfind]
      exact iff_of_true (noEscalation_of_quiet quiet_refl _)
        fun requester hrequester hid => absurd hid (hnobody requester hrequester)
  | some requester =>
      obtain ⟨hrequester, hid⟩ := Table.find_eq_some_iff.mp hfind
      obtain rfl : requester.id = id := hid
      have hunique : ∀ other ∈ db.users, other.id = requester.id → other = requester :=
        fun other hother hid => db.users.eq_of_pk_eq hother hrequester hid
      simp only [step, hfind]
      by_cases hpermits : db.permits requester request
      swap
      · rw [if_neg hpermits]
        refine iff_of_true (noEscalation_of_quiet quiet_refl _)
          fun other hother hid hpermits' => ?_
        exact absurd (hunique other hother hid ▸ hpermits') hpermits
      rw [if_pos hpermits]
      cases hwritten : db.accessWritten request with
      | some row =>
          obtain ⟨hperform, hrow⟩ := perform_of_accessWritten hwritten
          have hplain : ∀ id, request ≠ .updateRole id (some .global) := by
            rintro id rfl
            cases hwritten
          rw [hperform, noEscalation_saveAccess_iff hrequester
            (hordinary requester hrequester rfl) hrow]
          constructor
          · intro h other hother hid _
            obtain rfl := hunique other hother hid
            refine ⟨fun stored hstored hnew => ?_, fun id hid => absurd hid (hplain id)⟩
            obtain rfl : row = stored := Option.some.inj (hwritten.symm.trans hstored)
            exact h hnew
          · intro h
            exact (h requester hrequester rfl hpermits).1 row hwritten
      | none =>
          by_cases hrole : ∃ id, request = .updateRole id (some .global)
          · obtain ⟨id, rfl⟩ := hrole
            exact noEscalation_updateRole_global_iff hrequester hpermits
          · push Not at hrole
            exact iff_of_true (noEscalation_of_quiet (quiet_perform hwritten hrole) _)
              (guarded_of_plain hwritten hrole)

/-- **A run of requests** by ordinary users escalates nothing, at any step,
exactly when every request is guarded. -/
theorem along_noEscalation_iff {w : List (UserId × Request)}
    (hordinary : Along step (fun db i _ => Ordinary db i) db w) :
    Along step NoEscalation db w ↔ Along step (fun db i _ => Guarded db i) db w :=
  along_congr (R := fun db i _ => Guarded db i)
    (fun _ _ hi => noEscalation_step_iff hi) hordinary

end Directory

/-- A bank administrator, whose role may manage access, next to an unused role
of the global scope. -/
def bankAdministration : Directory :=
  .ofTables twoBanks (.ofRows [⟨1, false⟩]) (.ofRows [⟨1, .organization⟩, ⟨2, .global⟩])
    (.ofRows [⟨1, "access.manage"⟩]) (.ofRows [⟨1, 1, 1⟩])
    (.ofRows [{ id := 1, user := 1, organization := some 1, role := 1 }]) (.refl true)

/-- The administrator creates a row of the global role for themself. -/
def selfGrant : UserId × Request :=
  (1, .createAccess
    { user := some 1
      organization := some none
      dataCenter := some none
      room := some none
      rack := some none
      device := some none
      role := some 2 })

theorem selfGrant_ordinary :
    Along Directory.step (fun db i _ => Directory.Ordinary db i) bankAdministration
      [selfGrant] := by
  refine ⟨fun requester hrequester _ => ?_, trivial⟩
  obtain rfl : requester = ⟨1, false⟩ := List.mem_singleton.mp hrequester
  rw [← Directory.globalAccess_iff]
  decide

theorem along_noEscalation_iff_selfGrant :
    Along Directory.step Directory.NoEscalation bankAdministration [selfGrant] ↔
      Along Directory.step (fun db i _ => Directory.Guarded db i) bankAdministration
        [selfGrant] :=
  Directory.along_noEscalation_iff selfGrant_ordinary

/-- A user who is neither a superuser nor holds a global row acquires global
access by one request. -/
theorem selfGrant_escalates :
    Along Directory.step (fun db i _ => Directory.Ordinary db i) bankAdministration
        [selfGrant] ∧
      ¬Along Directory.step Directory.NoEscalation bankAdministration [selfGrant] := by
  refine ⟨selfGrant_ordinary, ?_⟩
  rintro ⟨⟨hacquire, -⟩, -⟩
  have hbefore := (hacquire ⟨1, false⟩ (by decide) (by decide)).2
  revert hbefore
  decide

end DcimBackend
