import DcimBackend.Access.Filter

/-!
# Permission checks

`apps/common/permissions.py`: from a view set's permission module and the action
at hand to a permission code, and from the code to a decision.

A request on an object passes two gates that know nothing of one another:
`hasPermission` asks whether any active row of the user grants the code, and the
query set of the view is filtered by the union of what all active rows cover.
`allowed_iff` puts both in terms of rows.

`allowed_iff` is stated for any view and any object, by the resources that the object refers to,
so it is about all scoped view sets at once.  `GrantedWhereUsed` is what the two gates together do
not say.
-/

namespace DcimBackend

open Library

/-- `ACTION_PERMISSION_MAP`. -/
def actionPermissionMap : List (String × String) :=
  [("list", "view"),
   ("retrieve", "view"),
   ("create", "create"),
   ("update", "update"),
   ("partial_update", "update"),
   ("destroy", "delete"),
   ("generate", "generate"),
   ("retry", "generate"),
   ("download", "download"),
   ("cancel", "update"),
   ("acknowledge", "acknowledge"),
   ("resolve", "resolve"),
   ("mark_read", "view"),
   ("mark_all_read", "view"),
   ("ingest", "create"),
   ("latest_summary", "view"),
   ("history", "view"),
   ("summary", "view")]

/-- `SAFE_METHODS` of the REST framework. -/
def safeMethods : List String := ["GET", "HEAD", "OPTIONS"]

/-- What `has_permission` reads of a request and its view.  The action is empty
where the view has none. -/
structure ViewRequest where
  method : String
  action : String := ""
deriving DecidableEq

/-- The verb for a method that no action decides. -/
def ViewRequest.fallback (request : ViewRequest) : String :=
  if request.method ∈ safeMethods then "view" else "update"

/-- The permission code that a request needs in a permission module. -/
def permissionCode (permissionModule : String) (request : ViewRequest) : String :=
  let action := if request.action = "" then request.fallback else request.action
  let verb :=
    if permissionModule = "access" then
      if action ∈ ["list", "retrieve"] then "view" else "manage"
    else (actionPermissionMap.lookup action).getD request.fallback
  permissionModule ++ "." ++ verb

namespace Directory

variable (db : Directory)

/-- `user_has_permission`. -/
def userHasPermission (user : Option User) (code : String) : Bool :=
  match user with
  | none => false
  | some u => u.isSuperuser || code ∈ db.getEffectivePermissionCodes user

/-- `DCIMRBACPermission.has_permission`.  The permission module is empty where
the view has none. -/
def hasPermission (user : Option User) (permissionModule : String)
    (request : ViewRequest) : Bool :=
  match user with
  | none => false
  | some u =>
      if u.isSuperuser then true
      else if permissionModule = "" then true
      else db.userHasPermission user (permissionCode permissionModule request)

/-- The request goes through and finds the object: `has_permission` says yes and
the filtered query set contains it. -/
def Allowed {μ ρ : Type} (schema : Schema μ) (qs : QuerySet μ ρ) (config : ScopeConfig)
    (permissionModule : String) (request : ViewRequest) (user : User) (o : ρ) : Prop :=
  db.hasPermission (some user) permissionModule request ∧
    ∃ out, schema.filterQuerysetForUser db qs (some user) config = .ok out ∧ o ∈ out

/-- One access row covers an object: expanded on its own, the row is global or
contains a resource that the object refers to. -/
def Covers {μ ρ : Type} (schema : Schema μ) (qs : QuerySet μ ρ) (config : ScopeConfig)
    (row : UserResourceAccess) (o : ρ) : Prop :=
  let scope := db.expandRowScope .blankScope row
  o ∈ qs.rows ∧ (scope.globalAccess ∨ ∃ r, schema.Refers qs config o r ∧ scope.Has r)

variable {db}

instance (role : RoleId) (code : String) : Decidable (db.RoleGrants role code) :=
  inferInstanceAs (Decidable (∃ link ∈ db.rolePermissions, link.role = role ∧
    ∃ permission ∈ db.permissions, permission.id = link.permission ∧
      permission.code = code))

theorem hasPermission_iff {user : User} (hsuper : user.isSuperuser = false)
    {permissionModule : String} (hmodule : permissionModule ≠ "")
    {request : ViewRequest} :
    db.hasPermission (some user) permissionModule request ↔
      ∃ row ∈ db.getUserResourceAccessRows (some user),
        db.RoleGrants row.role (permissionCode permissionModule request) := by
  rw [← mem_getEffectivePermissionCodes hsuper]
  simp [hasPermission, userHasPermission, hsuper, hmodule]

section Covers

variable {μ ρ : Type} {schema : Schema μ} {qs : QuerySet μ ρ} {config : ScopeConfig}

theorem covers_iff {row : UserResourceAccess} (hkeys : row.keysExist db.hierarchy)
    {o : ρ} :
    db.Covers schema qs config row o ↔
      o ∈ qs.rows ∧ (db.isGlobal row ∨
        ∃ r, schema.Refers qs config o r ∧ row.Grants db.hierarchy r) := by
  unfold Covers
  dsimp only
  rw [globalAccess_expandRowScope]
  refine and_congr_right fun _ => ?_
  cases hglobal : db.isGlobal row with
  | true => simp
  | false =>
      simp only [has_expandRowScope hkeys hglobal, AccessScope.not_has_blankScope,
        false_or, Bool.or_false]
      rfl

/-- A row covers what the filter returns for the row's own scope. -/
theorem covers_iff_mem_scopeFilter {row : UserResourceAccess} {out : List ρ}
    (hok : schema.scopeFilter qs (db.expandRowScope .blankScope row) config = .ok out)
    {o : ρ} : db.Covers schema qs config row o ↔ o ∈ out :=
  (Schema.mem_scopeFilter hok).symm

/-- The filtered query set of a user holds the objects that some active row
covers. -/
theorem mem_filter_iff_covers {user : User} (hsuper : user.isSuperuser = false)
    {out : List ρ}
    (hok : schema.filterQuerysetForUser db qs (some user) config = .ok out) {o : ρ} :
    o ∈ out ↔
      ∃ row ∈ db.getUserResourceAccessRows (some user),
        db.Covers schema qs config row o := by
  have hkeys : ∀ row ∈ db.getUserResourceAccessRows (some user),
      row.keysExist db.hierarchy :=
    fun row hrow => db.access_keys row (mem_getUserResourceAccessRows.mp hrow).1
  have hany : (db.getAccessScope (some user)).globalAccess =
      (db.getUserResourceAccessRows (some user)).any db.isGlobal := by
    rw [globalAccess_getAccessScope, hsuper, Bool.false_or]
  rw [Schema.mem_filterQuerysetForUser hok]
  cases hglobal : (db.getAccessScope (some user)).globalAccess with
  | true =>
      rw [hany, List.any_eq_true] at hglobal
      obtain ⟨row, hrow, hrowGlobal⟩ := hglobal
      constructor
      · rintro ⟨ho, -⟩
        exact ⟨row, hrow, (covers_iff (hkeys row hrow)).mpr ⟨ho, Or.inl hrowGlobal⟩⟩
      · rintro ⟨row, hrow, hcovers⟩
        exact ⟨((covers_iff (hkeys row hrow)).mp hcovers).1, Or.inl rfl⟩
  | false =>
      have hrows : ∀ row ∈ db.getUserResourceAccessRows (some user),
          ¬db.isGlobal row := by
        rw [hany, List.any_eq_false] at hglobal
        exact hglobal
      constructor
      · rintro ⟨ho, hfalse | ⟨r, hrefers, hhas⟩⟩
        · cases hfalse
        obtain ⟨row, hrow, hgrants⟩ := (has_getAccessScope hglobal).mp hhas
        exact ⟨row, hrow, (covers_iff (hkeys row hrow)).mpr
          ⟨ho, Or.inr ⟨r, hrefers, hgrants⟩⟩⟩
      · rintro ⟨row, hrow, hcovers⟩
        obtain ⟨ho, hfalse | ⟨r, hrefers, hgrants⟩⟩ :=
          (covers_iff (hkeys row hrow)).mp hcovers
        · exact absurd hfalse (hrows row hrow)
        · exact ⟨ho, Or.inr ⟨r, hrefers,
            (has_getAccessScope hglobal).mpr ⟨row, hrow, hgrants⟩⟩⟩

/-- **The two gates, in terms of rows**: some active row grants the code, and
some active row — the same or another — covers the object. -/
theorem allowed_iff {user : User} (hsuper : user.isSuperuser = false)
    {permissionModule : String} (hmodule : permissionModule ≠ "") {request : ViewRequest}
    {out : List ρ}
    (hok : schema.filterQuerysetForUser db qs (some user) config = .ok out) {o : ρ} :
    db.Allowed schema qs config permissionModule request user o ↔
      (∃ row ∈ db.getUserResourceAccessRows (some user),
        db.RoleGrants row.role (permissionCode permissionModule request)) ∧
      ∃ row ∈ db.getUserResourceAccessRows (some user),
        db.Covers schema qs config row o := by
  unfold Allowed
  rw [hasPermission_iff hsuper hmodule, ← mem_filter_iff_covers hsuper hok, hok]
  refine and_congr_right fun _ => ⟨?_, fun ho => ⟨out, rfl, ho⟩⟩
  rintro ⟨out', hout', ho⟩
  rwa [Except.ok.inj hout']

/-- A single active row both grants the code and covers the object. -/
def GrantedWhereUsed (db : Directory) (schema : Schema μ) (qs : QuerySet μ ρ)
    (config : ScopeConfig) (permissionModule : String) (request : ViewRequest)
    (user : User) (o : ρ) : Prop :=
  ∃ row ∈ db.getUserResourceAccessRows (some user),
    db.RoleGrants row.role (permissionCode permissionModule request) ∧
      db.Covers schema qs config row o

/-- A request only ever uses a grant where it was given exactly when no active
row grants the code, or every object that an active row without the grant covers
is also covered by one with it. -/
theorem grantedWhereUsed_iff {user : User} (hsuper : user.isSuperuser = false)
    {permissionModule : String} (hmodule : permissionModule ≠ "") {request : ViewRequest}
    {out : List ρ}
    (hok : schema.filterQuerysetForUser db qs (some user) config = .ok out) :
    (∀ o, db.Allowed schema qs config permissionModule request user o →
        db.GrantedWhereUsed schema qs config permissionModule request user o) ↔
      (∀ row ∈ db.getUserResourceAccessRows (some user),
        ¬db.RoleGrants row.role (permissionCode permissionModule request)) ∨
      ∀ row ∈ db.getUserResourceAccessRows (some user),
        ¬db.RoleGrants row.role (permissionCode permissionModule request) →
          ∀ o, db.Covers schema qs config row o →
            ∃ other ∈ db.getUserResourceAccessRows (some user),
              db.RoleGrants other.role (permissionCode permissionModule request) ∧
                db.Covers schema qs config other o := by
  simp only [allowed_iff hsuper hmodule hok, GrantedWhereUsed]
  constructor
  · intro h
    by_cases hgrant : ∃ row ∈ db.getUserResourceAccessRows (some user),
        db.RoleGrants row.role (permissionCode permissionModule request)
    · exact Or.inr fun row hrow _ o hcovers => h o ⟨hgrant, row, hrow, hcovers⟩
    · push Not at hgrant
      exact Or.inl hgrant
  · rintro hcond o ⟨⟨granting, hgranting, hgrant⟩, row, hrow, hcovers⟩
    rcases hcond with hnone | hcond
    · exact absurd hgrant (hnone granting hgranting)
    by_cases hown : db.RoleGrants row.role (permissionCode permissionModule request)
    · exact ⟨row, hrow, hown, hcovers⟩
    · exact hcond row hrow hown o hcovers

end Covers

end Directory

/-- Two organizations with a data center each. -/
def twoBanks : Hierarchy :=
  .flat (.ofRows [⟨1⟩, ⟨2⟩]) (.ofRows [⟨1, 1⟩, ⟨2, 2⟩]) .empty (.refl true)

/-- A user who administers the first organization and views the second: role 1
may update data centers, role 2 only view them. -/
def adminAndViewer : Directory :=
  .ofTables twoBanks (.ofRows [⟨1, false⟩])
    (.ofRows [⟨1, .organization⟩, ⟨2, .organization⟩])
    (.ofRows [⟨1, "datacenter.view"⟩, ⟨2, "datacenter.update"⟩])
    (.ofRows [⟨1, 1, 1⟩, ⟨2, 1, 2⟩, ⟨3, 2, 1⟩])
    (.ofRows
      [{ id := 1, user := 1, organization := some 1, role := 1 },
       { id := 2, user := 1, organization := some 2, role := 2 }])
    (.refl true)

/-- An update of a data center: `PATCH` on `DataCenterViewSet`. -/
def patchDataCenter : ViewRequest := { method := "PATCH", action := "partial_update" }

theorem grantedWhereUsed_iff_adminAndViewer :
    (∀ o, adminAndViewer.Allowed resourceSchema (twoBanks.querySet .dataCenter)
        dataCenterViewSet "datacenter" patchDataCenter ⟨1, false⟩ o →
      adminAndViewer.GrantedWhereUsed resourceSchema (twoBanks.querySet .dataCenter)
        dataCenterViewSet "datacenter" patchDataCenter ⟨1, false⟩ o) ↔
    (∀ row ∈ adminAndViewer.getUserResourceAccessRows (some ⟨1, false⟩),
      ¬adminAndViewer.RoleGrants row.role
        (permissionCode "datacenter" patchDataCenter)) ∨
    ∀ row ∈ adminAndViewer.getUserResourceAccessRows (some ⟨1, false⟩),
      ¬adminAndViewer.RoleGrants row.role (permissionCode "datacenter" patchDataCenter) →
        ∀ o, adminAndViewer.Covers resourceSchema (twoBanks.querySet .dataCenter)
            dataCenterViewSet row o →
          ∃ other ∈ adminAndViewer.getUserResourceAccessRows (some ⟨1, false⟩),
            adminAndViewer.RoleGrants other.role
                (permissionCode "datacenter" patchDataCenter) ∧
              adminAndViewer.Covers resourceSchema (twoBanks.querySet .dataCenter)
                dataCenterViewSet other o := by
  have hok : resourceSchema.filterQuerysetForUser adminAndViewer
      (twoBanks.querySet .dataCenter) (some ⟨1, false⟩) dataCenterViewSet =
        .ok [⟨.dataCenter, 1⟩, ⟨.dataCenter, 2⟩] := by decide
  exact Directory.grantedWhereUsed_iff rfl (by decide) hok

/-- The user may update the data center of the organization that they only
view. -/
theorem adminAndViewer_updates_viewed :
    adminAndViewer.Allowed resourceSchema (twoBanks.querySet .dataCenter)
        dataCenterViewSet "datacenter" patchDataCenter ⟨1, false⟩ ⟨.dataCenter, 2⟩ ∧
      ¬adminAndViewer.GrantedWhereUsed resourceSchema (twoBanks.querySet .dataCenter)
        dataCenterViewSet "datacenter" patchDataCenter ⟨1, false⟩ ⟨.dataCenter, 2⟩ := by
  constructor
  · exact ⟨by decide, [⟨.dataCenter, 1⟩, ⟨.dataCenter, 2⟩], by decide, by decide⟩
  · have hrows : adminAndViewer.getUserResourceAccessRows (some ⟨1, false⟩) =
        [{ id := 1, user := 1, organization := some 1, role := 1 },
         { id := 2, user := 1, organization := some 2, role := 2 }] := by decide
    -- the first row does not cover the object, the second does not grant the code
    have hfirst : resourceSchema.scopeFilter (twoBanks.querySet .dataCenter)
        (adminAndViewer.expandRowScope .blankScope
          { id := 1, user := 1, organization := some 1, role := 1 })
        dataCenterViewSet = .ok [⟨.dataCenter, 1⟩] := by decide
    rintro ⟨row, hrow, hgrants, hcovers⟩
    rw [hrows, List.mem_pair] at hrow
    rcases hrow with rfl | rfl
    · exact absurd ((Directory.covers_iff_mem_scopeFilter hfirst).mp hcovers) (by decide)
    · exact absurd hgrants (by decide)

end DcimBackend
