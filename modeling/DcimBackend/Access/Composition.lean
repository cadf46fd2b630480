import DcimBackend.Access.ViewSets

/-!
# How access rows compose

What the active access rows of a user give together, against what each of them would give
alone.  The loop of `get_access_scope` leaves a partly filled scope behind when it meets a
global row, and the filter switches branches off for empty id sets; `mem_filter_iff_grants`
and `exists_filter_iff` show that neither is seen in the result.  A superuser is served before any
row is read, so the rows add to what the user has without them.

The union is said of what a user sees, not of the scope: the scope is a dictionary of ids, in
which a partly filled entry and an empty one mean different things to the filter.
`Directory.only` is the same database with one access row left, and `SameButAccesses` compares
databases whose other tables are the same, so that "more rows" is a statement about two
directories.

The filter raises for a lookup path that names no foreign key, and only where the scope holds an
id of that level (`Misnamed`).  So more rows may turn an answer into an exception, and
monotonicity is said of the answers.
-/

namespace DcimBackend

open Library

variable {μ ρ : Type}

/-! ### When the filter raises -/

namespace Schema

/-- The mode consults a level whose path names a column that is no foreign key. -/
def Misnamed (schema : Schema μ) (model : μ) (config : ScopeConfig) (level : Level) : Prop :=
  schema.Consults model config level ∧
    ¬schema.endsInRelation model (config.field level) ∧
    (config.accessScope = .mixed ∨ config.field level ∉ [["id"], ["pk"]])

variable {schema : Schema μ} {qs : QuerySet μ ρ} {scope : AccessScope} {config : ScopeConfig}
  {e : FieldError}

theorem exists_has_iff {level : Level} :
    scope.ids level ≠ ∅ ↔ ∃ r : Resource, r.level = level ∧ scope.Has r := by
  rw [← Finset.nonempty_iff_ne_empty]
  constructor
  · rintro ⟨id, hid⟩
    exact ⟨⟨level, id⟩, rfl, hid⟩
  · rintro ⟨r, rfl, hhas⟩
    exact ⟨r.id, hhas⟩

theorem applyScopeFilter_eq_error_iff {path : LookupPath} {ids : Finset ℕ} :
    schema.applyScopeFilter qs path ids = .error e ↔
      e = ⟨path⟩ ∧ ids ≠ ∅ ∧ schema.lookupExists qs.model path ∧
        ¬schema.endsInRelation qs.model path ∧ path ∉ [["id"], ["pk"]] := by
  unfold applyScopeFilter
  split
  · rename_i hids
    exact iff_of_false (by simp) fun h => h.2.1 hids
  split
  · rename_i hlookup
    exact iff_of_false (by simp) fun h => by simp [h.2.2.1] at hlookup
  split
  · rename_i hids hlookup hpath
    exact iff_of_false (by simp) fun h => hpath.elim h.2.2.2.2 h.2.2.2.1
  · rename_i hids hlookup hpath
    rw [not_or] at hpath
    rw [Except.error.injEq]
    exact ⟨fun h => ⟨h.symm, hids, by simpa using hlookup, hpath.2, hpath.1⟩,
      fun h => h.1.symm⟩

/-- **An error of the filter** names a path that the mode should not have been given, at a
level where the scope holds something. -/
theorem misnamed_of_scopeFilter (herror : schema.scopeFilter qs scope config = .error e) :
    scope.globalAccess = false ∧ ∃ r, schema.Misnamed qs.model config r.level ∧ scope.Has r ∧
      e = ⟨config.field r.level⟩ := by
  unfold scopeFilter at herror
  split at herror
  · cases herror
  rename_i hglobal
  refine ⟨by simpa using hglobal, ?_⟩
  split at herror
  · cases herror
  split at herror
  · -- one level
    rename_i level hmode
    obtain ⟨rfl, hids, hlookup, hends, hpath⟩ := applyScopeFilter_eq_error_iff.mp herror
    obtain ⟨r, rfl, hhas⟩ := exists_has_iff.mp hids
    exact ⟨r, ⟨⟨hlookup, Or.inr hmode⟩, hends, Or.inr hpath⟩, hhas, rfl⟩
  · -- the mixed mode
    rename_i hmode
    dsimp only at herror
    split at herror
    · rename_i level hfound
      cases herror
      have hends := List.find?_some hfound
      have hmem := List.mem_of_find?_eq_some hfound
      simp only [mixedLevels, List.mem_filter, Bool.and_eq_true, decide_eq_true_eq] at hmem
      obtain ⟨-, hlookup, hids⟩ := hmem
      obtain ⟨r, rfl, hhas⟩ := exists_has_iff.mp hids
      exact ⟨r, ⟨⟨hlookup, Or.inl hmode⟩, by simpa using hends, Or.inl hmode⟩, hhas, rfl⟩
    · cases herror

/-- The filter does not return where the scope holds a resource of a misnamed level. -/
theorem scopeFilter_ne_ok (hglobal : scope.globalAccess = false) {r : Resource}
    (hmisnamed : schema.Misnamed qs.model config r.level) (hhas : scope.Has r)
    (out : List ρ) : schema.scopeFilter qs scope config ≠ .ok out := by
  obtain ⟨⟨hlookup, hmode⟩, hends, hpath⟩ := hmisnamed
  have hids : scope.ids r.level ≠ ∅ := exists_has_iff.mpr ⟨r, rfl, hhas⟩
  unfold scopeFilter
  rw [hglobal, if_neg Bool.false_ne_true, if_neg (not_all_empty_of_has hhas)]
  rcases hmode with hmode | hmode
  · rw [hmode]
    dsimp only
    split
    · simp
    · rename_i hnone
      have hmem : r.level ∈ schema.mixedLevels qs scope config := by
        simp [mixedLevels, Level.mem_all, hlookup, hids]
      have hrelation := List.find?_eq_none.mp hnone r.level hmem
      simp [hends] at hrelation
  · have hpath : config.field r.level ∉ [["id"], ["pk"]] := by
      refine hpath.resolve_left fun hmixed => ?_
      rw [hmode] at hmixed
      cases hmixed
    rw [hmode]
    dsimp only
    rw [applyScopeFilter_eq_error_iff.mpr ⟨rfl, hids, hlookup, hends, hpath⟩]
    simp

/-- **The filter returns** exactly for a global scope, and for one without a resource of a
misnamed level. -/
theorem exists_scopeFilter_iff :
    (∃ out, schema.scopeFilter qs scope config = .ok out) ↔
      scope.globalAccess ∨
        ∀ r, scope.Has r → ¬schema.Misnamed qs.model config r.level := by
  constructor
  · rintro ⟨out, hok⟩
    by_contra hcond
    push Not at hcond
    obtain ⟨hglobal, r, hhas, hmisnamed⟩ := hcond
    exact scopeFilter_ne_ok (by simpa using hglobal) hmisnamed hhas out hok
  · intro hcond
    cases hresult : schema.scopeFilter qs scope config with
    | ok out => exact ⟨out, rfl⟩
    | error e =>
        obtain ⟨hglobal, r, hmisnamed, hhas, -⟩ := misnamed_of_scopeFilter hresult
        rw [hglobal] at hcond
        exact absurd hmisnamed (hcond.resolve_left Bool.false_ne_true r hhas)

end Schema

/-! ### Directories that differ in their access rows -/

namespace Directory

theorem access_user_filter (db : Directory) (p : UserResourceAccess → Bool) :
    ∀ row ∈ (db.accesses.filter p).rows, (db.users.find row.user).isSome := fun row hrow =>
  db.access_user row (List.mem_of_mem_filter hrow)

theorem access_role_filter (db : Directory) (p : UserResourceAccess → Bool) :
    ∀ row ∈ (db.accesses.filter p).rows, (db.roles.find row.role).isSome := fun row hrow =>
  db.access_role row (List.mem_of_mem_filter hrow)

theorem access_keys_filter (db : Directory) (p : UserResourceAccess → Bool) :
    ∀ row ∈ (db.accesses.filter p).rows, row.keysExist db.hierarchy := fun row hrow =>
  db.access_keys row (List.mem_of_mem_filter hrow)

/-- The directory with those of its access rows that satisfy `p`. -/
def keeping (db : Directory) (p : UserResourceAccess → Bool) : Directory :=
  { db with
    accesses := db.accesses.filter p
    access_user := db.access_user_filter p
    access_role := db.access_role_filter p
    access_keys := db.access_keys_filter p }

/-- The directory without access rows. -/
def withoutRows (db : Directory) : Directory := db.keeping fun _ => false

/-- The directory with one of its access rows alone. -/
def only (db : Directory) (row : UserResourceAccess) : Directory :=
  db.keeping fun other => other = row

/-- Another directory has the same tables, except perhaps for the access rows. -/
structure SameButAccesses (db db' : Directory) : Prop where
  hierarchy : db'.hierarchy = db.hierarchy
  roles : db'.roles = db.roles
  permissions : db'.permissions = db.permissions
  rolePermissions : db'.rolePermissions = db.rolePermissions

theorem sameButAccesses_keeping (db : Directory) (p : UserResourceAccess → Bool) :
    db.SameButAccesses (db.keeping p) := ⟨rfl, rfl, rfl, rfl⟩

theorem SameButAccesses.isGlobal {db db' : Directory} (h : db.SameButAccesses db') :
    db'.isGlobal = db.isGlobal := by
  funext row
  rw [Directory.isGlobal, Directory.isGlobal, h.roles]

theorem SameButAccesses.roleGrants {db db' : Directory} (h : db.SameButAccesses db') :
    db'.RoleGrants = db.RoleGrants := by
  funext role code
  rw [RoleGrants, RoleGrants, h.rolePermissions, h.permissions]

variable {db db' : Directory}

theorem mem_rows_keeping {p : UserResourceAccess → Bool} {user : Option User}
    {row : UserResourceAccess} :
    row ∈ (db.keeping p).getUserResourceAccessRows user ↔
      row ∈ db.getUserResourceAccessRows user ∧ p row := by
  cases user with
  | none => simp [getUserResourceAccessRows]
  | some user =>
      simp only [mem_getUserResourceAccessRows, keeping, Table.mem_filter]
      tauto

theorem rows_withoutRows (db : Directory) (user : Option User) :
    db.withoutRows.getUserResourceAccessRows user = [] := by
  rw [List.eq_nil_iff_forall_not_mem]
  intro row hrow
  exact absurd (mem_rows_keeping.mp hrow).2 (by simp)

theorem mem_rows_only {user : Option User} {row other : UserResourceAccess}
    (hrow : row ∈ db.getUserResourceAccessRows user) :
    other ∈ (db.only row).getUserResourceAccessRows user ↔ other = row := by
  rw [only, mem_rows_keeping, decide_eq_true_eq]
  exact ⟨fun h => h.2, fun h => ⟨h ▸ hrow, h⟩⟩

/-! ### The scope of a user, from the set of rows -/

/-- The user has global access in a directory: a superuser, or by a global row. -/
def Unrestricted (db : Directory) (user : User) : Prop :=
  user.isSuperuser ∨ ∃ row ∈ db.getUserResourceAccessRows (some user), db.isGlobal row

theorem globalAccess_iff_unrestricted {user : User} :
    (db.getAccessScope (some user)).globalAccess ↔ db.Unrestricted user := by
  rw [globalAccess_getAccessScope, Bool.or_eq_true, List.any_eq_true]
  rfl

theorem globalAccess_eq_false {user : User} (h : ¬db.Unrestricted user) :
    (db.getAccessScope (some user)).globalAccess = false := by
  rw [← globalAccess_iff_unrestricted] at h
  simpa using h

/-- **What a user sees**, from the set of active rows: everything if unrestricted, and
otherwise what refers to a resource that some row grants. -/
theorem mem_filter_iff_grants {schema : Schema μ} {qs : QuerySet μ ρ} {config : ScopeConfig}
    {user : User} {out : List ρ}
    (hok : schema.filterQuerysetForUser db qs (some user) config = .ok out)
    {o : ρ} :
    o ∈ out ↔ o ∈ qs.rows ∧ (db.Unrestricted user ∨
      ∃ row ∈ db.getUserResourceAccessRows (some user),
        ∃ r, schema.Refers qs config o r ∧ row.Grants db.hierarchy r) := by
  rw [Schema.mem_filterQuerysetForUser hok, globalAccess_iff_unrestricted]
  refine and_congr_right fun _ => ?_
  by_cases hfree : db.Unrestricted user
  · simp only [hfree, true_or]
  · simp only [hfree, false_or, has_getAccessScope (globalAccess_eq_false hfree)]
    constructor
    · rintro ⟨r, hrefers, row, hrow, hgrants⟩
      exact ⟨row, hrow, r, hrefers, hgrants⟩
    · rintro ⟨row, hrow, r, hrefers, hgrants⟩
      exact ⟨r, hrefers, row, hrow, hgrants⟩

/-- **When the user gets an answer**: the filter returns for an unrestricted user, and for one
whose rows grant no resource of a misnamed level. -/
theorem exists_filter_iff {schema : Schema μ} {qs : QuerySet μ ρ} {config : ScopeConfig}
    {user : User} :
    (∃ out, schema.filterQuerysetForUser db qs (some user) config = .ok out) ↔
      db.Unrestricted user ∨
        ∀ row ∈ db.getUserResourceAccessRows (some user),
          ∀ r, row.Grants db.hierarchy r → ¬schema.Misnamed qs.model config r.level := by
  unfold Schema.filterQuerysetForUser
  rw [Schema.exists_scopeFilter_iff, globalAccess_iff_unrestricted]
  by_cases hfree : db.Unrestricted user
  · simp only [hfree, true_or]
  · simp only [hfree, false_or, has_getAccessScope (globalAccess_eq_false hfree)]
    exact ⟨fun h row hrow r hgrants => h r ⟨row, hrow, hgrants⟩,
      fun h r ⟨row, hrow, hgrants⟩ => h row hrow r hgrants⟩

/-- The filter of an unrestricted user returns the query set as it is. -/
theorem filter_of_unrestricted {schema : Schema μ} {qs : QuerySet μ ρ} {config : ScopeConfig}
    {user : User} (hfree : db.Unrestricted user) :
    schema.filterQuerysetForUser db qs (some user) config = .ok qs.rows := by
  unfold Schema.filterQuerysetForUser Schema.scopeFilter
  simp only [globalAccess_iff_unrestricted.mpr hfree, if_true]

/-- The scope depends on the set of active rows only, unless it is global and left partly
filled. -/
theorem getAccessScope_congr (hsame : db.SameButAccesses db') {user : User}
    (hrows : ∀ row, row ∈ db'.getUserResourceAccessRows (some user) ↔
      row ∈ db.getUserResourceAccessRows (some user))
    (hfree : ¬db.Unrestricted user) :
    db'.getAccessScope (some user) = db.getAccessScope (some user) := by
  have hfree' : ¬db'.Unrestricted user := by
    simpa only [Unrestricted, hrows, hsame.isGlobal] using hfree
  have hglobal := globalAccess_eq_false hfree
  have hglobal' := globalAccess_eq_false hfree'
  have hids : ∀ level, (db'.getAccessScope (some user)).ids level =
      (db.getAccessScope (some user)).ids level := by
    intro level
    ext id
    show (db'.getAccessScope (some user)).Has ⟨level, id⟩ ↔
      (db.getAccessScope (some user)).Has ⟨level, id⟩
    simp only [has_getAccessScope hglobal, has_getAccessScope hglobal', hrows, hsame.hierarchy]
  calc db'.getAccessScope (some user)
      = ⟨(db'.getAccessScope (some user)).globalAccess,
          (db'.getAccessScope (some user)).ids⟩ := rfl
    _ = ⟨(db.getAccessScope (some user)).globalAccess,
          (db.getAccessScope (some user)).ids⟩ := by rw [hglobal, hglobal', funext hids]
    _ = db.getAccessScope (some user) := rfl

/-- **The order of the rows does not matter**, although the loop stops at a global one. -/
theorem filter_congr (schema : Schema μ) (qs : QuerySet μ ρ) (config : ScopeConfig)
    (hsame : db.SameButAccesses db') {user : Option User}
    (hrows : ∀ row, row ∈ db'.getUserResourceAccessRows user ↔
      row ∈ db.getUserResourceAccessRows user) :
    schema.filterQuerysetForUser db' qs user config =
      schema.filterQuerysetForUser db qs user config := by
  cases user with
  | none => rfl
  | some user =>
      by_cases hfree : db.Unrestricted user
      · have hfree' : db'.Unrestricted user := by
          simpa only [Unrestricted, hrows, hsame.isGlobal] using hfree
        rw [filter_of_unrestricted hfree, filter_of_unrestricted hfree']
      · unfold Schema.filterQuerysetForUser
        rw [getAccessScope_congr hsame hrows hfree]

end Directory

/-! ### One row after another -/

namespace Directory

/-- The filter returns an object to the user. -/
def Sees (db : Directory) (schema : Schema μ) (qs : QuerySet μ ρ) (config : ScopeConfig)
    (user : Option User) (o : ρ) : Prop :=
  ∃ out, schema.filterQuerysetForUser db qs user config = .ok out ∧ o ∈ out

variable {db db' : Directory} {schema : Schema μ} {qs : QuerySet μ ρ} {config : ScopeConfig}
  {user : User} {row : UserResourceAccess} {o : ρ}

theorem not_sees_none : ¬db.Sees schema qs config none o := by
  rintro ⟨out, hok, ho⟩
  obtain rfl : [] = out := Except.ok.inj hok
  simp at ho

theorem sees_of_unrestricted (hfree : db.Unrestricted user) :
    db.Sees schema qs config (some user) o ↔ o ∈ qs.rows := by
  rw [Sees, filter_of_unrestricted hfree]
  simp

/-- An object that a user sees is seen through one of the rows, or without any. -/
theorem sees_iff_of_restricted (hfree : ¬db.Unrestricted user) :
    db.Sees schema qs config (some user) o ↔
      (∀ row ∈ db.getUserResourceAccessRows (some user),
        ∀ r, row.Grants db.hierarchy r → ¬schema.Misnamed qs.model config r.level) ∧
      o ∈ qs.rows ∧ ∃ row ∈ db.getUserResourceAccessRows (some user),
        ∃ r, schema.Refers qs config o r ∧ row.Grants db.hierarchy r := by
  constructor
  · rintro ⟨out, hok, ho⟩
    have hgrants := (mem_filter_iff_grants hok).mp ho
    exact ⟨(exists_filter_iff.mp ⟨out, hok⟩).resolve_left hfree, hgrants.1,
      hgrants.2.resolve_left hfree⟩
  · rintro ⟨hnamed, ho, hgrants⟩
    obtain ⟨out, hok⟩ := exists_filter_iff.mpr (Or.inr hnamed)
    exact ⟨out, hok, (mem_filter_iff_grants hok).mpr ⟨ho, Or.inr hgrants⟩⟩

theorem unrestricted_withoutRows : db.withoutRows.Unrestricted user ↔ user.isSuperuser := by
  simp [Unrestricted, rows_withoutRows]

theorem unrestricted_only (hrow : row ∈ db.getUserResourceAccessRows (some user)) :
    (db.only row).Unrestricted user ↔ user.isSuperuser ∨ db.isGlobal row := by
  have hglobal := (db.sameButAccesses_keeping fun other => other = row).isGlobal
  simp only [Unrestricted, mem_rows_only hrow, exists_eq_left]
  rw [only, hglobal]

/-- Without rows a superuser sees everything, and nobody else anything. -/
theorem sees_withoutRows :
    db.withoutRows.Sees schema qs config (some user) o ↔ user.isSuperuser ∧ o ∈ qs.rows := by
  by_cases hsuper : user.isSuperuser = true
  · rw [sees_of_unrestricted (unrestricted_withoutRows.mpr hsuper)]
    simp [hsuper]
  · rw [sees_iff_of_restricted fun hfree => hsuper (unrestricted_withoutRows.mp hfree), rows_withoutRows]
    simp [hsuper]

/-- **Where the filter returns, its result is a union**: what the user sees without rows, and
what each row alone would let them see. -/
theorem mem_filter_iff_sees {out : List ρ}
    (hok : schema.filterQuerysetForUser db qs (some user) config = .ok out) :
    o ∈ out ↔ db.withoutRows.Sees schema qs config (some user) o ∨
      ∃ row ∈ db.getUserResourceAccessRows (some user),
        (db.only row).Sees schema qs config (some user) o := by
  have hout : o ∈ out ↔ db.Sees schema qs config (some user) o := by
    rw [Sees, hok]
    simp
  rw [hout, sees_withoutRows]
  by_cases hsuper : user.isSuperuser = true
  · -- the rows are not even read
    rw [sees_of_unrestricted (Or.inl hsuper)]
    constructor
    · intro ho
      exact Or.inl ⟨hsuper, ho⟩
    · rintro (⟨-, ho⟩ | ⟨row, hrow, hsees⟩)
      · exact ho
      · exact (sees_of_unrestricted ((unrestricted_only hrow).mpr (Or.inl hsuper))).mp hsees
  simp only [hsuper, Bool.false_eq_true, false_and, false_or]
  by_cases hglobal : ∃ row ∈ db.getUserResourceAccessRows (some user), db.isGlobal row
  · -- the loop stops at a global row, which alone gives everything
    rw [sees_of_unrestricted (Or.inr hglobal)]
    obtain ⟨row, hrow, hrowGlobal⟩ := hglobal
    constructor
    · intro ho
      exact ⟨row, hrow,
        (sees_of_unrestricted ((unrestricted_only hrow).mpr (Or.inr hrowGlobal))).mpr ho⟩
    · rintro ⟨row, hrow, out', hok', ho⟩
      exact ((mem_filter_iff_grants hok').mp ho).1
  · -- no row is global, and each of them grants its own resources
    have hfree : ¬db.Unrestricted user := not_or.mpr ⟨hsuper, hglobal⟩
    have honly : ∀ row ∈ db.getUserResourceAccessRows (some user),
        ¬(db.only row).Unrestricted user := by
      intro row hrow hunrestricted
      rw [unrestricted_only hrow] at hunrestricted
      exact hglobal ⟨row, hrow, hunrestricted.resolve_left hsuper⟩
    have hnamed := (exists_filter_iff.mp ⟨out, hok⟩).resolve_left hfree
    rw [sees_iff_of_restricted hfree]
    constructor
    · rintro ⟨-, ho, row, hrow, hgrants⟩
      refine ⟨row, hrow, (sees_iff_of_restricted (honly row hrow)).mpr ⟨?_, ho, row, ?_, hgrants⟩⟩
      · intro other hother
        rw [(mem_rows_only hrow).mp hother]
        exact hnamed row hrow
      · exact (mem_rows_only hrow).mpr rfl
    · rintro ⟨row, hrow, hsees⟩
      obtain ⟨-, ho, other, hother, hgrants⟩ := (sees_iff_of_restricted (honly row hrow)).mp hsees
      rw [(mem_rows_only hrow).mp hother] at hgrants
      exact ⟨hnamed, ho, row, hrow, hgrants⟩

/-- The codes of a user are a union in the same way. -/
theorem mem_codes_iff_only {code : String} :
    code ∈ db.getEffectivePermissionCodes (some user) ↔
      code ∈ db.withoutRows.getEffectivePermissionCodes (some user) ∨
        ∃ row ∈ db.getUserResourceAccessRows (some user),
          code ∈ (db.only row).getEffectivePermissionCodes (some user) := by
  have honly : ∀ row ∈ db.getUserResourceAccessRows (some user),
      (code ∈ (db.only row).getEffectivePermissionCodes (some user) ↔
        (user.isSuperuser ∧ ∃ permission ∈ db.permissions, permission.code = code) ∨
          (user.isSuperuser = false ∧ db.RoleGrants row.role code)) := by
    intro row hrow
    have hgrants := (db.sameButAccesses_keeping fun other => other = row).roleGrants
    rw [mem_effectivePermissionCodes_iff]
    simp only [mem_rows_only hrow, exists_eq_left]
    rw [only, hgrants]
    rfl
  have hwithout : code ∈ db.withoutRows.getEffectivePermissionCodes (some user) ↔
      user.isSuperuser ∧ ∃ permission ∈ db.permissions, permission.code = code := by
    rw [mem_effectivePermissionCodes_iff, rows_withoutRows]
    simp only [List.not_mem_nil, false_and, exists_false, and_false, or_false]
    rfl
  rw [mem_effectivePermissionCodes_iff, hwithout]
  constructor
  · rintro (hall | ⟨hsuper, row, hrow, hgrants⟩)
    · exact Or.inl hall
    · exact Or.inr ⟨row, hrow, (honly row hrow).mpr (Or.inr ⟨hsuper, hgrants⟩)⟩
  · rintro (hall | ⟨row, hrow, hcode⟩)
    · exact Or.inl hall
    · exact ((honly row hrow).mp hcode).imp_right fun h => ⟨h.1, row, hrow, h.2⟩

/-- **More rows never hide an object**, as long as the filter still returns. -/
theorem filter_mono (hsame : db.SameButAccesses db')
    (hrows : ∀ row ∈ db.getUserResourceAccessRows (some user),
      row ∈ db'.getUserResourceAccessRows (some user)) {out out' : List ρ}
    (hok : schema.filterQuerysetForUser db qs (some user) config = .ok out)
    (hok' : schema.filterQuerysetForUser db' qs (some user) config = .ok out')
    (ho : o ∈ out) : o ∈ out' := by
  obtain ⟨ho, hfree | ⟨row, hrow, r, hrefers, hgrants⟩⟩ := (mem_filter_iff_grants hok).mp ho
  · refine (mem_filter_iff_grants hok').mpr ⟨ho, Or.inl ?_⟩
    rcases hfree with hsuper | ⟨row, hrow, hglobal⟩
    · exact Or.inl hsuper
    · rw [← hsame.isGlobal] at hglobal
      exact Or.inr ⟨row, hrows row hrow, hglobal⟩
  · refine (mem_filter_iff_grants hok').mpr ⟨ho, Or.inr ⟨row, hrows row hrow, r, hrefers, ?_⟩⟩
    rwa [hsame.hierarchy]

/-- More rows never remove a code. -/
theorem codes_mono (hsame : db.SameButAccesses db')
    (hrows : ∀ row ∈ db.getUserResourceAccessRows (some user),
      row ∈ db'.getUserResourceAccessRows (some user)) {code : String}
    (hcode : code ∈ db.getEffectivePermissionCodes (some user)) :
    code ∈ db'.getEffectivePermissionCodes (some user) := by
  rw [mem_effectivePermissionCodes_iff] at hcode ⊢
  rw [hsame.permissions, hsame.roleGrants]
  exact hcode.imp_right fun ⟨hsuper, row, hrow, hgrants⟩ =>
    ⟨hsuper, row, hrows row hrow, hgrants⟩

end Directory

/-- **How access rows compose**, for a user, a query set with a mode, and a database whose
access rows are at hand. -/
structure RowsCompose (schema : Schema μ) (qs : QuerySet μ ρ) (config : ScopeConfig)
    (user : Option User) (db : Directory) : Prop where
  /-- The order in which the rows are read changes neither result. -/
  order : ∀ db', db.SameButAccesses db' →
    (db'.getUserResourceAccessRows user).Perm (db.getUserResourceAccessRows user) →
    schema.filterQuerysetForUser db' qs user config =
        schema.filterQuerysetForUser db qs user config ∧
      ∀ code, code ∈ db'.getEffectivePermissionCodes user ↔
        code ∈ db.getEffectivePermissionCodes user
  /-- What is visible is the union over the rows, beside what the user has without any. -/
  visible : ∀ out, schema.filterQuerysetForUser db qs user config = .ok out →
    ∀ o, o ∈ out ↔ db.withoutRows.Sees schema qs config user o ∨
      ∃ row ∈ db.getUserResourceAccessRows user, (db.only row).Sees schema qs config user o
  /-- So are the codes. -/
  codes : ∀ code, code ∈ db.getEffectivePermissionCodes user ↔
    code ∈ db.withoutRows.getEffectivePermissionCodes user ∨
      ∃ row ∈ db.getUserResourceAccessRows user,
        code ∈ (db.only row).getEffectivePermissionCodes user
  /-- A global row gives everything. -/
  global : (∃ row ∈ db.getUserResourceAccessRows user, db.isGlobal row) →
    schema.filterQuerysetForUser db qs user config = .ok qs.rows
  /-- Without rows, a superuser has everything, and anybody else nothing. -/
  withoutRows :
    (∀ o, db.withoutRows.Sees schema qs config user o ↔
      (user.any fun u => u.isSuperuser) ∧ o ∈ qs.rows) ∧
    ∀ code, code ∈ db.withoutRows.getEffectivePermissionCodes user ↔
      (user.any fun u => u.isSuperuser) ∧ ∃ permission ∈ db.permissions, permission.code = code
  /-- One more row hides no object and removes no code. -/
  adding : ∀ db' row, db.SameButAccesses db' →
    (db'.getUserResourceAccessRows user).Perm (row :: db.getUserResourceAccessRows user) →
    (∀ out out', schema.filterQuerysetForUser db qs user config = .ok out →
      schema.filterQuerysetForUser db' qs user config = .ok out' → ∀ o ∈ out, o ∈ out') ∧
      ∀ code ∈ db.getEffectivePermissionCodes user, code ∈ db'.getEffectivePermissionCodes user
  /-- The filter raises over a misnamed path only. -/
  raises : ∀ e, schema.filterQuerysetForUser db qs user config = .error e →
    ∃ level, schema.Misnamed qs.model config level ∧ e = ⟨config.field level⟩

/-- Access rows compose, for every user, every query set and mode, and every set of active
rows. -/
theorem access_rows_compose (schema : Schema μ) (qs : QuerySet μ ρ) (config : ScopeConfig)
    (user : Option User) (db : Directory) : RowsCompose schema qs config user db := by
  cases user with
  | none =>
      exact
        { order := fun db' _ _ => ⟨rfl, fun code => Iff.rfl⟩
          visible := by
            intro out hok o
            obtain rfl : [] = out := Except.ok.inj hok
            simp [Directory.not_sees_none, Directory.getUserResourceAccessRows]
          codes := by simp [Directory.getEffectivePermissionCodes]
          global := by simp [Directory.getUserResourceAccessRows]
          withoutRows := by
            simp [Directory.not_sees_none, Directory.getEffectivePermissionCodes]
          adding := by
            intro db' row _ hrows
            simp [Directory.getUserResourceAccessRows] at hrows
          raises := by
            intro e herror
            cases herror }
  | some user =>
      exact
        { order := by
            intro db' hsame hperm
            have hrows := fun row => hperm.mem_iff (a := row)
            refine ⟨Directory.filter_congr schema qs config hsame hrows, fun code => ?_⟩
            simp only [Directory.mem_effectivePermissionCodes_iff, hrows, hsame.permissions,
              hsame.roleGrants]
          visible := fun out hok o => Directory.mem_filter_iff_sees hok
          codes := fun code => Directory.mem_codes_iff_only
          global := fun hglobal => Directory.filter_of_unrestricted (Or.inr hglobal)
          withoutRows := by
            refine ⟨fun o => Directory.sees_withoutRows, fun code => ?_⟩
            rw [Directory.mem_effectivePermissionCodes_iff, Directory.rows_withoutRows]
            simp [Directory.withoutRows, Directory.keeping]
          adding := by
            intro db' row hsame hperm
            have hrows : ∀ other ∈ db.getUserResourceAccessRows (some user),
                other ∈ db'.getUserResourceAccessRows (some user) := fun other hother =>
              hperm.mem_iff.mpr (List.mem_cons_of_mem row hother)
            exact ⟨fun out out' hok hok' o ho => Directory.filter_mono hsame hrows hok hok' ho,
              fun code hcode => Directory.codes_mono hsame hrows hcode⟩
          raises := by
            intro e herror
            obtain ⟨-, r, hmisnamed, -, he⟩ := Schema.misnamed_of_scopeFilter herror
            exact ⟨r.level, hmisnamed, he⟩ }

/-- A directory with a superuser and no access row. -/
def superuserAlone : Directory :=
  .ofTables twoBanks (.ofRows [⟨1, true⟩]) .empty (.ofRows [⟨1, "datacenter.view"⟩]) .empty
    .empty (.refl true)

/-- A superuser without access rows sees the whole query set and has every code, which is not
the union over the rows. -/
theorem superuserAlone_sees :
    superuserAlone.getUserResourceAccessRows (some ⟨1, true⟩) = [] ∧
      resourceSchema.filterQuerysetForUser superuserAlone (twoBanks.querySet .dataCenter)
        (some ⟨1, true⟩) dataCenterViewSet = .ok [⟨.dataCenter, 1⟩, ⟨.dataCenter, 2⟩] ∧
      superuserAlone.getEffectivePermissionCodes (some ⟨1, true⟩) = ["datacenter.view"] ∧
      ¬(∀ o : Resource,
        superuserAlone.Sees resourceSchema (twoBanks.querySet .dataCenter) dataCenterViewSet
          (some ⟨1, true⟩) o ↔
        ∃ row ∈ superuserAlone.getUserResourceAccessRows (some ⟨1, true⟩),
          (superuserAlone.only row).Sees resourceSchema (twoBanks.querySet .dataCenter)
            dataCenterViewSet (some ⟨1, true⟩) o) := by
  have hrows : superuserAlone.getUserResourceAccessRows (some ⟨1, true⟩) = [] := by decide
  have hfilter : resourceSchema.filterQuerysetForUser superuserAlone
      (twoBanks.querySet .dataCenter) (some ⟨1, true⟩) dataCenterViewSet =
        .ok [⟨.dataCenter, 1⟩, ⟨.dataCenter, 2⟩] := by decide
  refine ⟨hrows, hfilter, by decide, fun hunion => ?_⟩
  obtain ⟨row, hrow, -⟩ := (hunion ⟨.dataCenter, 1⟩).mp ⟨_, hfilter, by decide⟩
  rw [hrows] at hrow
  cases hrow

end DcimBackend
