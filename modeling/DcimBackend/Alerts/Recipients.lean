import DcimBackend.Access.Permissions
import DcimBackend.Alerts.Models
import DcimBackend.Library.Join
import Mathlib.Data.List.Sort

/-!
# Who is told about an alert

`_recipient_queryset` and `get_alert_recipients` of
`apps/alerts/services/notifications.py`.  The query joins the access rows of a user twice:
one row has to name the alert, by a plain comparison of columns, and one has to be active
and to grant a permission.  Neither knows of the other, and neither asks the access scope.

`recipientsExact_iff` compares the result with the users who are entitled by a single row.

The two joins are two existential quantifiers over the rows of one user, where the entitlement has
one: `RowsAgree` is the difference.  `distinct` and the order by name are part of the query, by a
collation that is a parameter.

An account is a user of the directory with the columns of the query.  An alert is named by its own
columns and by the room and the rack of its device, which need not agree with each other.
-/

namespace DcimBackend

open Library

/-- `accounts.User`, with the columns of the query. -/
structure Account extends User where
  username : String
  isActive : Bool := true
  isStaff : Bool := false
deriving DecidableEq

instance : Keyed Account := ⟨fun account => account.id⟩

/-- `_ALERT_PERMISSION_CODES`. -/
def alertPermissionCodes : List String := ["alert.view", "alert.acknowledge"]

/-- The key of an alert at a level: its own columns, and those of its device. -/
def AlertEvent.key (h : Hierarchy) (alert : AlertEvent) : Level → Option ℕ
  | .organization => some alert.organization
  | .dataCenter => some alert.dataCenter
  | .room => (h.devices.find alert.device).bind Device.room
  | .rack => (h.devices.find alert.device).bind Device.rack
  | .device => some alert.device

/-- A row names an alert: they have a key in common. -/
def UserResourceAccess.Names (h : Hierarchy) (row : UserResourceAccess) (alert : AlertEvent) :
    Bool :=
  Level.all.any fun level => (alert.key h level).any fun id => row.key level = some id

namespace Directory

variable (db : Directory)

/-- `_alert_scope_condition`, on a user and a joined row. -/
def alertScopeCondition (alert : AlertEvent) (user : Account)
    (row : Option UserResourceAccess) : Bool :=
  user.isSuperuser || row.any fun row => row.Names db.hierarchy alert

/-- `permission_q`, on a joined row. -/
def grantsAlerts (row : UserResourceAccess) : Bool :=
  (db.rolePermissions.select fun link => link.role = row.role).any fun link =>
    (db.permissions.find link.permission).any fun permission =>
      permission.code ∈ alertPermissionCodes

/-- The last condition of `_recipient_queryset`, on a user and a joined row. -/
def recipientCondition (user : Account) (row : Option UserResourceAccess) : Bool :=
  user.isSuperuser ||
    (user.isStaff && row.any fun row => row.isActive) ||
    row.any fun row => db.grantsAlerts row && row.isActive

/-- The related rows `data_center_roles` of a user. -/
def dataCenterRoles (user : Account) : List UserResourceAccess :=
  db.accesses.select fun row => row.user = user.id

/-- `_recipient_queryset`. -/
def recipientQueryset (accounts : Table Account) (alert : AlertEvent) : List Account :=
  let users := accounts.select fun user => user.isActive
  let users := filterJoin db.dataCenterRoles (db.alertScopeCondition alert) users
  let users := filterJoin db.dataCenterRoles db.recipientCondition users
  users.dedup

/-- `get_alert_recipients`.  `collate` is the database's order of texts. -/
def getAlertRecipients (collate : String → String → Bool) (accounts : Table Account)
    (alert : AlertEvent) : List Account :=
  (db.recipientQueryset accounts alert).insertionSort fun a b =>
    if a.username = b.username then a.id ≤ b.id else collate a.username b.username

/-! ### Who is entitled -/

/-- A row covers an alert: its role is global, or its scope contains the device. -/
def CoversAlert (row : UserResourceAccess) (alert : AlertEvent) : Prop :=
  let scope := db.expandRowScope .blankScope row
  scope.globalAccess ∨ scope.Has ⟨.device, alert.device⟩

/-- An active row grants: the user is staff, or the role has a permission of alerts. -/
def GrantsTo (user : Account) (row : UserResourceAccess) : Prop :=
  row.isActive ∧ (user.isStaff ∨ ∃ code ∈ alertPermissionCodes, db.RoleGrants row.role code)

/-- The user is active, and a superuser or entitled by a single row. -/
def Entitled (user : Account) (alert : AlertEvent) : Prop :=
  user.isActive ∧
    (user.isSuperuser ∨
      ∃ row ∈ db.dataCenterRoles user, db.GrantsTo user row ∧ db.CoversAlert row alert)

/-- The recipients are the entitled users, each once. -/
def RecipientsExact (collate : String → String → Bool) (accounts : Table Account)
    (alert : AlertEvent) : Prop :=
  (db.getAlertRecipients collate accounts alert).Nodup ∧
    ∀ user, user ∈ db.getAlertRecipients collate accounts alert ↔
      user ∈ accounts ∧ db.Entitled user alert

/-- What the query asks of the rows of a user, and what it should, agree: a row that names
the alert next to one that grants comes with one that grants and covers, and a row that
grants and covers comes with one that names. -/
structure RowsAgree (user : Account) (alert : AlertEvent) : Prop where
  sound : ∀ row ∈ db.dataCenterRoles user, row.Names db.hierarchy alert →
    (∃ other ∈ db.dataCenterRoles user, db.GrantsTo user other) →
      ∃ other ∈ db.dataCenterRoles user, db.GrantsTo user other ∧ db.CoversAlert other alert
  complete : ∀ row ∈ db.dataCenterRoles user, db.GrantsTo user row → db.CoversAlert row alert →
    ∃ other ∈ db.dataCenterRoles user, other.Names db.hierarchy alert

variable {db}

theorem grantsAlerts_iff {row : UserResourceAccess} :
    db.grantsAlerts row ↔ ∃ code ∈ alertPermissionCodes, db.RoleGrants row.role code := by
  unfold grantsAlerts RoleGrants
  simp only [List.any_eq_true, Table.mem_select, decide_eq_true_eq, Option.any_eq_true,
    Table.find_eq_some_iff]
  constructor
  · rintro ⟨link, ⟨hlink, hrole⟩, permission, ⟨hpermission, hpk⟩, hcode⟩
    exact ⟨permission.code, hcode, link, hlink, hrole, permission, hpermission, hpk, rfl⟩
  · rintro ⟨code, hcode, link, hlink, hrole, permission, hpermission, hpk, rfl⟩
    exact ⟨link, ⟨hlink, hrole⟩, permission, ⟨hpermission, hpk⟩, hcode⟩

/-! ### What the query finds -/

/-- A joined row satisfies the scope condition: the user is a superuser, or a row names the
alert. -/
theorem mem_filterJoin_alertScope {users : List Account} {user : Account} {alert : AlertEvent} :
    user ∈ filterJoin db.dataCenterRoles (db.alertScopeCondition alert) users ↔
      user ∈ users ∧ (user.isSuperuser ∨
        ∃ row ∈ db.dataCenterRoles user, row.Names db.hierarchy alert) := by
  rw [mem_filterJoin]
  refine and_congr_right fun _ => ?_
  by_cases hsuper : user.isSuperuser
  · -- a superuser has an appearance, with or without a row
    simp only [alertScopeCondition, hsuper, Bool.true_or, and_true, true_or, iff_true]
    cases db.dataCenterRoles user with
    | nil => exact Or.inl rfl
    | cons row rows => exact Or.inr ⟨row, List.mem_cons_self⟩
  · simp [alertScopeCondition, hsuper]

/-- A joined row satisfies the last condition: the user is a superuser, or an active row
grants. -/
theorem mem_filterJoin_recipient {users : List Account} {user : Account} :
    user ∈ filterJoin db.dataCenterRoles db.recipientCondition users ↔
      user ∈ users ∧ (user.isSuperuser ∨ ∃ row ∈ db.dataCenterRoles user, db.GrantsTo user row) := by
  rw [mem_filterJoin]
  refine and_congr_right fun _ => ?_
  by_cases hsuper : user.isSuperuser
  · simp only [recipientCondition, hsuper, Bool.true_or, and_true, true_or, iff_true]
    cases db.dataCenterRoles user with
    | nil => exact Or.inl rfl
    | cons row rows => exact Or.inr ⟨row, List.mem_cons_self⟩
  · simp only [recipientCondition, hsuper, GrantsTo, ← grantsAlerts_iff]
    simp
    grind

/-- **The recipients** are the active users who are superusers, or have a row that names the
alert and an active row that grants. -/
theorem mem_getAlertRecipients {collate : String → String → Bool} {accounts : Table Account}
    {user : Account} {alert : AlertEvent} :
    user ∈ db.getAlertRecipients collate accounts alert ↔
      user ∈ accounts ∧ user.isActive ∧
        (user.isSuperuser ∨ (∃ row ∈ db.dataCenterRoles user, row.Names db.hierarchy alert) ∧
          ∃ row ∈ db.dataCenterRoles user, db.GrantsTo user row) := by
  unfold getAlertRecipients recipientQueryset
  rw [List.mem_insertionSort, List.mem_dedup, mem_filterJoin_recipient,
    mem_filterJoin_alertScope, Table.mem_select]
  tauto

theorem nodup_getAlertRecipients (db : Directory) (collate : String → String → Bool)
    (accounts : Table Account) (alert : AlertEvent) :
    (db.getAlertRecipients collate accounts alert).Nodup :=
  (List.perm_insertionSort _ _).nodup_iff.mpr (List.nodup_dedup _)

/-- A row below the global scope that covers an alert names it, as long as the alert is
recorded where its device is. -/
theorem names_of_coversAlert {row : UserResourceAccess} {alert : AlertEvent} {device : Device}
    (hrow : row ∈ db.accesses) (hglobal : db.isGlobal row = false)
    (hdevice : device ∈ db.hierarchy.devices) (hid : alert.device = device.id)
    (horganization : alert.organization = device.organization)
    (hdataCenter : alert.dataCenter = device.dataCenter) (hcovers : db.CoversAlert row alert) :
    row.Names db.hierarchy alert := by
  have hkeys := db.access_keys row hrow
  have hgrants : row.Grants db.hierarchy ⟨.device, alert.device⟩ := by
    rcases hcovers with hscope | hhas
    · rw [globalAccess_expandRowScope, hglobal] at hscope
      cases hscope
    · exact ((has_expandRowScope hkeys hglobal).mp hhas).resolve_left
        (AccessScope.not_has_blankScope _)
  obtain ⟨x, hnamed, hreaches⟩ := hgrants
  obtain ⟨other, hother, hotherId, hkey⟩ := Hierarchy.key_of_reaches_device hreaches
  obtain rfl := db.hierarchy.devices.eq_of_pk_eq hother hdevice (hotherId.trans hid)
  -- the alert has the keys of its device
  have halert : ∀ level, alert.key db.hierarchy level = other.key level := by
    have hfind : db.hierarchy.devices.find alert.device = some other :=
      Table.find_eq_some_iff.mpr ⟨hother, hotherId⟩
    intro level
    cases level with
    | organization => exact congrArg some horganization
    | dataCenter => exact congrArg some hdataCenter
    | room => rw [AlertEvent.key, hfind]; rfl
    | rack => rw [AlertEvent.key, hfind]; rfl
    | device => exact congrArg some hid
  obtain ⟨level, -, hlevel⟩ := List.exists_of_findSome?_eq_some hnamed
  obtain ⟨id, hrowKey, rfl⟩ := Option.map_eq_some_iff.mp hlevel
  refine List.any_eq_true.mpr ⟨level, Level.mem_all level, ?_⟩
  rw [halert level, hkey]
  simpa using hrowKey

instance (row : UserResourceAccess) (alert : AlertEvent) : Decidable (db.CoversAlert row alert) :=
  inferInstanceAs (Decidable (_ ∨ _))

instance (user : Account) (row : UserResourceAccess) : Decidable (db.GrantsTo user row) :=
  inferInstanceAs (Decidable (_ ∧ _))

instance (user : Account) (alert : AlertEvent) : Decidable (db.Entitled user alert) :=
  inferInstanceAs (Decidable (_ ∧ _))

end Directory

/-! ### Two users and an alert -/

/-- A device of the first of two organizations. -/
def firstBankDevice : Hierarchy :=
  .flat (.ofRows [⟨1⟩, ⟨2⟩]) (.ofRows [⟨1, 1⟩])
    (.ofRows [{ id := 1, organization := 1, dataCenter := 1, deviceType := 1, name := "UPS 01" }])
    (.refl true)

/-- The first user has a row of the first organization whose role grants nothing, and one of
the second whose role may view alerts; the second user may view alerts everywhere. -/
def mixedRows : Directory :=
  .ofTables firstBankDevice (.ofRows [⟨1, false⟩, ⟨2, false⟩])
    (.ofRows [⟨1, .organization⟩, ⟨2, .organization⟩, ⟨3, .global⟩])
    (.ofRows [⟨1, "alert.view"⟩])
    (.ofRows [⟨1, 2, 1⟩, ⟨2, 3, 1⟩])
    (.ofRows
      [{ id := 1, user := 1, organization := some 1, role := 1 },
       { id := 2, user := 1, organization := some 2, role := 2 },
       { id := 3, user := 2, role := 3 }])
    (.refl true)

/-- The users of `mixedRows`. -/
def mixedAccounts : Table Account :=
  .ofRows [{ id := 1, username := "first" }, { id := 2, username := "second" }]

/-- An alert of the first organization. -/
def firstBankAlert : AlertEvent where
  id := 1
  organization := 1
  dataCenter := 1
  device := 1
  metric := none
  alertRule := none
  severity := .critical
  message := "On battery"
  triggeredAt := 0
  createdAt := 0

end DcimBackend
