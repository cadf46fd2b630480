import DcimBackend.Api.Secrets

/-!
# The API of the accounts

`UserSerializer`, `MeSerializer` (`apps/accounts/serializers.py`) and `UserViewSet`
(`apps/accounts/views.py`).  A password is hashed when it is written, and neither an answer nor an
audit row tells the hash; `is_staff` is read-only and `is_superuser` no field at all.

A posted password may be refused, for one by `validate_password`, and the messages are part of the
answer.  What the configured validators say to a password is a parameter: the settings name none.
The messages of the other fields are one too, and know whether the username is another account's.

`accounts_guarded` says both of any requests: with other passwords of the same verdicts they get the
same answers and leave the same audit log, and nobody comes to be staff or a superuser by them.

The salt of a hash is part of a request, so that two requests may differ in it as in the password.
The parts of a request are compared by the rules of `Api.Secrets`, with the column of the hash as
the only secret; what is added here is who may become staff, which is an invariant of one run.
-/

namespace DcimBackend

open Library Library.Tx

/-- `accounts.User`, with all its columns. -/
structure UserRow where
  id : UserId
  password : String
  lastLogin : Option Instant := none
  isSuperuser : Bool := false
  username : String
  firstName : String := ""
  lastName : String := ""
  email : String := ""
  isStaff : Bool := false
  isActive : Bool := true
  dateJoined : Instant
  fullName : String := ""
  phone : Option String := none
  isMfaEnabled : Bool := false
  passwordChangedAt : Option Instant := none
  failedLoginAttempts : ℕ := 0
  lockedUntil : Option Instant := none
  lastLoginIp : Option String := none

instance : Keyed UserRow := ⟨UserRow.id⟩

/-- What a request gives for the fields beside the password, as their checks leave it. -/
structure UserAttrs where
  username : Option String := none
  email : Option String := none
  fullName : Option String := none
  phone : Option (Option String) := none
  isActive : Option Bool := none
  isMfaEnabled : Option Bool := none

/-- A request to `UserViewSet`, past the check of its permission.  The password is as it is
posted. -/
inductive AccountCall
  | list
  | retrieve (id : UserId)
  | create (attrs : UserAttrs) (password : Option Json)
  | update (id : UserId) (attrs : UserAttrs) (password : Option Json)
  | destroy (id : UserId)
  /-- `me`, of the user who makes the request. -/
  | me (user : UserId)
  | patchMe (user : UserId) (attrs : UserAttrs) (password : Option Json)

/-- The request, with the clock and the random text that a hash is salted with. -/
structure AccountRequest where
  now : Instant
  salt : String
  request : Option RequestMeta
  /-- The messages of the fields beside the password, where the username is another account's or
  not. -/
  checks : Bool → UserAttrs → FieldErrors
  call : AccountCall

/-- What Python and Django make of values, and the database. -/
structure AccountEnv where
  lower : String → String
  /-- `make_password`, of a password and a salt. -/
  makePassword : String → String → String
  keyText : ℕ → String
  timeText : Instant → String
  isoformat : Instant → String
  /-- `str` of a posted number or text. -/
  str : PyValue → String
  /-- The messages of `validate_password`. -/
  validatePassword : String → List String
  accepts : AuditLog → Except ApiError PUnit

namespace AccountEnv

variable (env : AccountEnv)

/-! ### The serializers -/

/-- The assignments of `UserSerializer`. -/
def assign (row : UserRow) (attrs : UserAttrs) : UserRow :=
  { row with
    username := attrs.username.getD row.username
    email := attrs.email.getD row.email
    fullName := attrs.fullName.getD row.fullName
    phone := attrs.phone.getD row.phone
    isActive := attrs.isActive.getD row.isActive
    isMfaEnabled := attrs.isMfaEnabled.getD row.isMfaEnabled }

/-- `set_password`, if a password is given that is not empty. -/
def withPassword (salt : String) (password : Option String) (row : UserRow) : UserRow :=
  (password.filter (· ≠ "")).elim row fun password =>
    { row with password := env.makePassword password salt }

/-- What the field `password` says to what is posted for it. -/
def passwordResult (posted : Option Json) : Option (Except (List String) (Option String)) :=
  posted.map
    (CharField.runValidation { validators := env.validatePassword } env.str)

/-- `UniqueValidator` of the username: another account than the instance has it. -/
def taken (instanceId : Option UserId) (attrs : UserAttrs) (rows : Table UserRow) : Bool :=
  attrs.username.any fun username =>
    rows.rows.any fun other => other.username = username && instanceId.all (other.id ≠ ·)

/-- `is_valid`: the messages of the password are behind those of the others. -/
def validate (checks : Bool → UserAttrs → FieldErrors) (instanceId : Option UserId)
    (attrs : UserAttrs) (posted : Option Json) (rows : Table UserRow) :
    Except ApiError (Option String) :=
  isValid (checks (taken instanceId attrs rows) attrs ++
      fieldErrors "password" (env.passwordResult posted))
    ((env.passwordResult posted).bind Except.toOption).join

/-- `row.save()`: the username is unique. -/
def saveRow (row : UserRow) : Tx ApiError (Table UserRow) UserRow := fun rows =>
  if rows.rows.any fun other => other.username = row.username && other.id ≠ row.id then
    (.error (.raised "IntegrityError"), rows)
  else (.ok row, rows.save row)

/-- `UserSerializer.create`, which begins with `set_unusable_password`. -/
def create (now : Instant) (salt : String) (attrs : UserAttrs) (password : Option String) :
    Tx ApiError (Table UserRow) UserRow := fun rows =>
  let unusable : UserRow :=
    { id := rows.nextPk, password := "!" ++ salt, username := "", dateJoined := now }
  saveRow (env.withPassword salt password (assign unusable attrs)) rows

/-- `get_object`. -/
def getObject (id : UserId) (rows : Table UserRow) : Except ApiError UserRow :=
  (rows.find id).elim (.error (.raised "Not found.")) .ok

/-- `UserSerializer.update`, of the row with a key. -/
def update (id : UserId) (salt : String) (attrs : UserAttrs) (password : Option String) :
    Tx ApiError (Table UserRow) UserRow := do
  let found ← Tx.read (getObject id)
  let row ← Tx.lift found
  saveRow (env.withPassword salt password (assign row attrs))

/-- A time, or `None`. -/
def timeOrNone (value : Option Instant) : Json :=
  .scalar (value.elim .none fun time => .text (env.isoformat time))

/-- `UserSerializer(row).data`: the password is write-only. -/
def data (row : UserRow) : Dict :=
  [("id", .scalar (.text (env.keyText row.id))),
    ("username", .scalar (.text row.username)),
    ("email", .scalar (.text row.email)),
    ("full_name", .scalar (.text row.fullName)),
    ("phone", CredentialEnv.textOrNone row.phone),
    ("is_active", .scalar (.bool row.isActive)),
    ("is_staff", .scalar (.bool row.isStaff)),
    ("is_mfa_enabled", .scalar (.bool row.isMfaEnabled)),
    ("last_login", env.timeOrNone row.lastLogin),
    ("date_joined", .scalar (.text (env.isoformat row.dateJoined)))]

/-- `str` of a truth value. -/
def boolText (value : Bool) : Json := .scalar (.text (if value then "True" else "False"))

/-- `str` of a nullable time. -/
def strTime (value : Option Instant) : Json := CredentialEnv.strText (value.map env.timeText)

/-- The columns with their texts, in the order of `_meta.fields`. -/
def fields (row : UserRow) : Dict :=
  [("password", .scalar (.text row.password)),
    ("last_login", env.strTime row.lastLogin),
    ("is_superuser", boolText row.isSuperuser),
    ("username", .scalar (.text row.username)),
    ("first_name", .scalar (.text row.firstName)),
    ("last_name", .scalar (.text row.lastName)),
    ("email", .scalar (.text row.email)),
    ("is_staff", boolText row.isStaff),
    ("is_active", boolText row.isActive),
    ("date_joined", .scalar (.text (env.timeText row.dateJoined))),
    ("id", .scalar (.text (env.keyText row.id))),
    ("full_name", .scalar (.text row.fullName)),
    ("phone", CredentialEnv.strText row.phone),
    ("is_mfa_enabled", boolText row.isMfaEnabled),
    ("password_changed_at", env.strTime row.passwordChangedAt),
    ("failed_login_attempts", .scalar (.text (toString row.failedLoginAttempts))),
    ("locked_until", env.strTime row.lockedUntil),
    ("last_login_ip", CredentialEnv.strText row.lastLoginIp)]

/-! ### The view set -/

/-- `UserViewSet`, for a request on a row or without one. -/
def view (id : UserId) (save : Tx ApiError (Table UserRow) UserRow) :
    AuditModelViewSet ApiError (Table UserRow) UserRow where
  resourceType := "User"
  pk row := some (env.keyText row.id)
  organization _ := .ok none
  getObject := getObject id
  fields row := .ok (env.fields row)
  save := save
  data row := .ok (env.data row)
  delete row rows := (.ok ⟨⟩, rows.filter fun other => other.id ≠ row.id)
  deletedOrganizations _ _ := false
  deletedUsers row user := row.id = user

/-- `write_audit` of a request. -/
def setup (request : Option RequestMeta) : AuditSetup ApiError where
  lower := env.lower
  request := request
  accepts := env.accepts

/-- `request.user`: the authentication finds it, if it is active. -/
def requestUser (user : UserId) (rows : Table UserRow) : Except ApiError UserRow :=
  (rows.find user).elim (.error (.raised "User not found")) fun row =>
    if row.isActive then .ok row else .error (.raised "User is inactive")

/-- `me` with `PATCH`: `is_active` is read-only too, and no audit row is written. -/
def patchMe (checks : Bool → UserAttrs → FieldErrors) (user : UserId) (salt : String)
    (attrs : UserAttrs) (posted : Option Json) : Tx ApiError (Table UserRow) UserRow := do
  let attrs := { attrs with isActive := none }
  let found ← Tx.read (requestUser user)
  let row ← Tx.lift found
  let validated ← Tx.read (env.validate checks (some row.id) attrs posted)
  let password ← Tx.lift validated
  saveRow (env.withPassword salt password (assign row attrs))

/-- A computation on the accounts, beside the audit log. -/
def onAccounts {α : Type} (x : Tx ApiError (Table UserRow) α) :
    Tx ApiError (AuditedDb (Table UserRow)) α := fun db =>
  ((x db.resources).1, { db with resources := (x db.resources).2 })

/-- A request on a row has no result to save. -/
def nothingSaved : Tx ApiError (Table UserRow) UserRow := Tx.raise (.raised "")

/-- The answer to a request: the objects that it shows. -/
def answer (r : AccountRequest) : Tx ApiError (AuditedDb (Table UserRow)) (List Dict) :=
  match r.call with
  | .list => Tx.read fun db => db.resources.rows.map env.data
  | .retrieve id => List.singleton <$> (env.view id nothingSaved).retrieve
  | .create attrs posted => do
      let validated ← Tx.read fun db => env.validate r.checks none attrs posted db.resources
      let password ← Tx.lift validated
      let view := env.view 0 (env.create r.now r.salt attrs password)
      List.singleton <$> view.saved (view.performCreate (env.setup r.request))
  | .update id attrs posted => do
      let found ← Tx.read fun db => getObject id db.resources
      let _ ← Tx.lift found
      let validated ← Tx.read fun db => env.validate r.checks (some id) attrs posted db.resources
      let password ← Tx.lift validated
      let view := env.view id (env.update id r.salt attrs password)
      List.singleton <$> view.saved (view.performUpdate (env.setup r.request))
  | .destroy id => List.singleton <$> (env.view id nothingSaved).destroy (env.setup r.request)
  | .me user => do
      let found ← Tx.read fun db => requestUser user db.resources
      let row ← Tx.lift found
      return [env.data row]
  | .patchMe user attrs posted =>
      (fun row => [env.data row]) <$> onAccounts (env.patchMe r.checks user r.salt attrs posted)

end AccountEnv

/-! ### Accounts and requests that differ in passwords -/

/-- The same row, apart from the hash of the password. -/
def UserRow.SameApart (a b : UserRow) : Prop :=
  { a with password := "" } = { b with password := "" }

/-- Two posted passwords that are refused with the same messages, or both accepted. -/
def AccountEnv.SameVerdict (env : AccountEnv) (posted posted' : Option Json) : Prop :=
  Option.Rel (Alike fun _ _ => True) (env.passwordResult posted) (env.passwordResult posted')

/-- The same call, apart from the password that it sets. -/
inductive AccountCall.SameApart (env : AccountEnv) : AccountCall → AccountCall → Prop
  | refl (call : AccountCall) : SameApart env call call
  | create (attrs : UserAttrs) {posted posted' : Option Json}
      (h : env.SameVerdict posted posted') :
      SameApart env (.create attrs posted) (.create attrs posted')
  | update (id : UserId) (attrs : UserAttrs) {posted posted' : Option Json}
      (h : env.SameVerdict posted posted') :
      SameApart env (.update id attrs posted) (.update id attrs posted')
  | patchMe (user : UserId) (attrs : UserAttrs) {posted posted' : Option Json}
      (h : env.SameVerdict posted posted') :
      SameApart env (.patchMe user attrs posted) (.patchMe user attrs posted')

/-- The same request, apart from the password and the salt. -/
def AccountRequest.SameApart (env : AccountEnv) (r r' : AccountRequest) : Prop :=
  r' = { r with salt := r'.salt, call := r'.call } ∧ r.call.SameApart env r'.call

/-- Who is staff or a superuser was so before. -/
def UserRow.Allowed (start : Table UserRow) (row : UserRow) : Prop :=
  row.isStaff = true ∨ row.isSuperuser = true →
    ∃ old ∈ start, old.id = row.id ∧ old.isStaff = row.isStaff ∧ old.isSuperuser = row.isSuperuser

/-- A row that is allowed, and one that differs from it in the password. -/
def UserRow.Guarded (start : Table UserRow) (a b : UserRow) : Prop :=
  a.Allowed start ∧ a.SameApart b

namespace AccountEnv

variable {env : AccountEnv} {start : Table UserRow} {a b : UserRow} {id : UserId}
  {salt salt' : String} {request : Option RequestMeta} {posted posted' : Option Json}

theorem sameVerdict_refl (posted : Option Json) : env.SameVerdict posted posted := by
  unfold SameVerdict
  cases env.passwordResult posted with
  | none => exact .none
  | some result =>
      cases result with
      | ok value => exact .some (.ok trivial)
      | error messages => exact .some (.error messages)

theorem id_eq (h : a.Guarded start b) : a.id = b.id := congrArg (fun row => row.id) h.2

/-- The assignments change neither the privileges nor, apart from the password, anything else
than what they assign. -/
theorem guarded_assign (h : a.Guarded start b) (attrs : UserAttrs)
    (password password' : Option String) :
    (env.withPassword salt password (assign a attrs)).Guarded start
      (env.withPassword salt' password' (assign b attrs)) := by
  have hpassword : ∀ (salt : String) (password : Option String) (row : UserRow),
      (env.withPassword salt password row).SameApart row ∧
        ((env.withPassword salt password row).Allowed start ↔ row.Allowed start) := by
    intro salt password row
    unfold withPassword
    cases password.filter (· ≠ "") with
    | none => exact ⟨rfl, Iff.rfl⟩
    | some password => exact ⟨rfl, Iff.rfl⟩
  refine ⟨(hpassword salt password _).2.mpr h.1, ?_⟩
  have hassign : (assign a attrs).SameApart (assign b attrs) := by
    have hrows : ∀ row : UserRow, { assign row attrs with password := "" } =
        assign { row with password := "" } attrs := fun _ => rfl
    unfold UserRow.SameApart
    rw [hrows, hrows, h.2]
  exact ((hpassword salt password _).1.trans hassign).trans (hpassword salt' password' _).1.symm

theorem alike_getObject {rows rows' : Table UserRow}
    (h : TwinTables (UserRow.Guarded start) rows rows') :
    Alike (UserRow.Guarded start) (getObject id rows) (getObject id rows') := by
  unfold getObject
  have hfound := h.find (fun _ _ => id_eq) id
  generalize rows.find id = x at hfound
  generalize rows'.find id = y at hfound
  cases hfound with
  | none => exact .error _
  | some hab => exact .ok hab

theorem alike_requestUser {rows rows' : Table UserRow}
    (h : TwinTables (UserRow.Guarded start) rows rows') :
    Alike (UserRow.Guarded start) (requestUser id rows) (requestUser id rows') := by
  unfold requestUser
  have hfound := h.find (fun _ _ => id_eq) id
  generalize rows.find id = x at hfound
  generalize rows'.find id = y at hfound
  cases hfound with
  | none => exact .error _
  | @some a b hab =>
      have hactive : a.isActive = b.isActive := congrArg (fun row => row.isActive) hab.2
      rw [Option.elim_some, Option.elim_some, hactive]
      split
      · exact .ok hab
      · exact .error _

theorem username_eq (h : a.Guarded start b) : a.username = b.username :=
  congrArg (fun row => row.username) h.2

/-- The accounts whose key and name have a property are alike. -/
theorem any_eq {rows rows' : Table UserRow} (h : TwinTables (UserRow.Guarded start) rows rows')
    (p : String → UserId → Bool) :
    (rows.rows.any fun other => p other.username other.id) =
      rows'.rows.any fun other => p other.username other.id := by
  have hall := h.rows
  generalize rows.rows = xs at hall
  generalize rows'.rows = ys at hall
  induction hall with
  | nil => rfl
  | cons hab _ ih => rw [List.any_cons, List.any_cons, username_eq hab, id_eq hab, ih]

/-- The serializer says the same to passwords of the same verdict. -/
theorem alike_validate {checks : Bool → UserAttrs → FieldErrors} {instanceId : Option UserId}
    {attrs : UserAttrs} {rows rows' : Table UserRow}
    (h : TwinTables (UserRow.Guarded start) rows rows') (hposted : env.SameVerdict posted posted') :
    Alike (fun _ _ => True) (env.validate checks instanceId attrs posted rows)
      (env.validate checks instanceId attrs posted' rows') := by
  have htaken : taken instanceId attrs rows = taken instanceId attrs rows' := by
    unfold taken
    congr 1
    funext username
    exact any_eq h fun name key => name = username && instanceId.all (key ≠ ·)
  unfold validate
  rw [htaken, fieldErrors_eq hposted]
  exact alike_isValid trivial

theorem twin_saveRow (h : a.Guarded start b) :
    Twin (TwinTables (UserRow.Guarded start)) (UserRow.Guarded start) (saveRow a) (saveRow b) := by
  intro rows rows' hrows
  unfold saveRow
  rw [username_eq h, id_eq h, any_eq hrows fun name key => name = b.username && key ≠ b.id]
  split
  · exact ⟨.error _, hrows⟩
  · exact ⟨.ok h, hrows.save (fun _ _ => id_eq) h⟩

theorem twin_create {now : Instant} (attrs : UserAttrs) (password password' : Option String) :
    Twin (TwinTables (UserRow.Guarded start)) (UserRow.Guarded start)
      (env.create now salt attrs password) (env.create now salt' attrs password') := by
  intro rows rows' h
  unfold create
  dsimp only
  rw [← h.nextPk]
  have hnew : UserRow.Guarded start
      { id := rows.nextPk, password := "!" ++ salt, username := "", dateJoined := now }
      { id := rows.nextPk, password := "!" ++ salt', username := "", dateJoined := now } := by
    refine ⟨fun hprivileged => ?_, rfl⟩
    rcases hprivileged with hstaff | hsuper
    · cases hstaff
    · cases hsuper
  exact twin_saveRow (guarded_assign hnew attrs password password') rows rows' h

theorem twin_update (attrs : UserAttrs) (password password' : Option String) :
    Twin (TwinTables (UserRow.Guarded start)) (UserRow.Guarded start)
      (env.update id salt attrs password) (env.update id salt' attrs password') :=
  twin_bind (twin_read fun _ _ => alike_getObject) fun _ _ hfound =>
    twin_bind (twin_lift hfound) fun _ _ hab =>
      twin_saveRow (guarded_assign hab attrs password password')

theorem twin_patchMe {checks : Bool → UserAttrs → FieldErrors} {attrs : UserAttrs}
    (hposted : env.SameVerdict posted posted') :
    Twin (TwinTables (UserRow.Guarded start)) (UserRow.Guarded start)
      (env.patchMe checks id salt attrs posted) (env.patchMe checks id salt' attrs posted') := by
  refine twin_bind (twin_read fun _ _ => alike_requestUser) fun _ _ hfound =>
    twin_bind (twin_lift hfound) fun a b hab => ?_
  rw [id_eq hab]
  refine twin_bind (twin_read fun _ _ hrows => alike_validate hrows hposted) fun _ _ hvalid =>
    twin_bind (twin_lift hvalid) fun password password' _ => ?_
  exact twin_saveRow (guarded_assign hab _ password password')

theorem data_eq (h : a.SameApart b) : env.data a = env.data b := by
  have hdata : ∀ row : UserRow, env.data row = env.data { row with password := "" } := fun _ => rfl
  rw [hdata a, hdata b, h]

/-- An audit row says nothing of a password. -/
theorem redact_fields (hlower : env.lower "password" = "password") (h : a.SameApart b) :
    Json.redactFields env.lower (env.fields a) = Json.redactFields env.lower (env.fields b) := by
  have hsensitive : isSensitive env.lower "password" = true := by
    unfold isSensitive
    rw [hlower]
    decide
  have hredact : ∀ row : UserRow, Json.redactFields env.lower (env.fields row) =
      Json.redactFields env.lower (env.fields { row with password := "" }) := by
    intro row
    simp only [fields, Json.redactFields, hsensitive, if_true]
  rw [hredact a, hredact b, h]

theorem hides_view (hlower : env.lower "password" = "password")
    {save save' : Tx ApiError (Table UserRow) UserRow}
    (hsave : Twin (TwinTables (UserRow.Guarded start)) (UserRow.Guarded start) save save') :
    (env.view id save).Hides (env.setup request).lower (TwinTables (UserRow.Guarded start))
      (UserRow.Guarded start) (env.view id save') where
  resourceType := rfl
  pk _ _ hab := congrArg (fun key => some (env.keyText key)) (id_eq hab)
  organization _ _ _ := rfl
  getObject _ _ h := alike_getObject h
  fields _ _ hab := .ok (redact_fields hlower hab.2)
  save := hsave
  data _ _ hab := congrArg Except.ok (data_eq hab.2)
  delete _ _ hab _ _ h := by
    refine ⟨.ok rfl, h.filter fun x y hxy => ?_⟩
    rw [id_eq hab, id_eq hxy]
  deletedOrganizations _ _ _ := rfl
  deletedUsers _ _ hab := by
    funext user
    show decide (_ = user) = decide (_ = user)
    rw [id_eq hab]

/-! ### Requests -/

/-- A computation on the accounts leaves the audit log. -/
theorem twin_onAccounts {α : Type} {R : α → α → Prop} {x y : Tx ApiError (Table UserRow) α}
    (h : Twin (TwinTables (UserRow.Guarded start)) R x y) :
    Twin (AuditModelViewSet.SameLog (TwinTables (UserRow.Guarded start))) R (onAccounts x)
      (onAccounts y) := by
  intro db db' hdb
  obtain ⟨hresult, hrows⟩ := h db.resources db'.resources hdb.1
  exact ⟨hresult, hrows, hdb.2⟩

section Answers

variable {now : Instant} {checks : Bool → UserAttrs → FieldErrors} {attrs : UserAttrs}
  (hlower : env.lower "password" = "password") (hposted : env.SameVerdict posted posted')

include hlower hposted

theorem twin_answer_create :
    Twin (AuditModelViewSet.SameLog (TwinTables (UserRow.Guarded start))) Eq
      (env.answer ⟨now, salt, request, checks, .create attrs posted⟩)
      (env.answer ⟨now, salt', request, checks, .create attrs posted'⟩) := by
  refine twin_bind (twin_read fun _ _ hdb => alike_validate hdb.1 hposted) fun _ _ hvalid =>
    twin_bind (twin_lift hvalid) fun password password' _ => ?_
  have hhides := @hides_view env start 0 request hlower _ _
    (@twin_create env start salt salt' now attrs password password')
  exact twin_map (hhides.twin_saved hhides.twin_performCreate) fun _ _ => congrArg _

theorem twin_answer_update :
    Twin (AuditModelViewSet.SameLog (TwinTables (UserRow.Guarded start))) Eq
      (env.answer ⟨now, salt, request, checks, .update id attrs posted⟩)
      (env.answer ⟨now, salt', request, checks, .update id attrs posted'⟩) := by
  refine twin_bind (twin_read fun _ _ hdb => alike_getObject hdb.1) fun _ _ hfound =>
    twin_bind (twin_lift hfound) fun _ _ _ => ?_
  refine twin_bind (twin_read fun _ _ hdb => alike_validate hdb.1 hposted) fun _ _ hvalid =>
    twin_bind (twin_lift hvalid) fun password password' _ => ?_
  have hhides := @hides_view env start id request hlower _ _
    (@twin_update env start id salt salt' attrs password password')
  exact twin_map (hhides.twin_saved hhides.twin_performUpdate) fun _ _ => congrArg _

omit hlower in
theorem twin_answer_patchMe :
    Twin (AuditModelViewSet.SameLog (TwinTables (UserRow.Guarded start))) Eq
      (env.answer ⟨now, salt, request, checks, .patchMe id attrs posted⟩)
      (env.answer ⟨now, salt', request, checks, .patchMe id attrs posted'⟩) := by
  refine twin_map (twin_onAccounts (twin_patchMe hposted)) fun _ _ hab => ?_
  rw [data_eq hab.2]

end Answers

/-- **One request, with another password.** -/
theorem twin_answer (hlower : env.lower "password" = "password") {r r' : AccountRequest}
    (hr : r.SameApart env r') :
    Twin (AuditModelViewSet.SameLog (TwinTables (UserRow.Guarded start))) Eq (env.answer r)
      (env.answer r') := by
  obtain ⟨hr, hcall⟩ := hr
  rcases r' with ⟨now, salt', request, checks, call'⟩
  rcases r with ⟨_, salt, _, _, call⟩
  obtain ⟨rfl, -, rfl, rfl, -⟩ := AccountRequest.mk.inj hr
  have hnothing : Twin (TwinTables (UserRow.Guarded start)) (UserRow.Guarded start)
      nothingSaved nothingSaved := fun _ _ h => ⟨.error _, h⟩
  have hhides (id : UserId) := @hides_view env start id request hlower _ _ hnothing
  cases hcall with
  | create attrs hposted => exact twin_answer_create hlower hposted
  | update id attrs hposted => exact twin_answer_update hlower hposted
  | patchMe user attrs hposted => exact twin_answer_patchMe hposted
  | refl =>
      cases call' with
      | create attrs posted => exact twin_answer_create hlower (sameVerdict_refl posted)
      | update id attrs posted => exact twin_answer_update hlower (sameVerdict_refl posted)
      | patchMe user attrs posted => exact twin_answer_patchMe (sameVerdict_refl posted)
      | retrieve id => exact twin_map (hhides id).twin_retrieve fun _ _ => congrArg _
      | destroy id => exact twin_map (hhides id).twin_destroy fun _ _ => congrArg _
      | me user =>
          refine twin_bind (twin_read fun _ _ hdb => alike_requestUser hdb.1) fun _ _ hfound =>
            twin_bind (twin_lift hfound) fun _ _ hab => twin_pure ?_
          rw [data_eq hab.2]
      | list =>
          refine twin_read fun db db' hdb => ?_
          rw [← List.forall₂_eq_eq_eq, List.forall₂_map_left_iff, List.forall₂_map_right_iff]
          exact hdb.1.rows.imp fun a b hab => data_eq hab.2

/-- **The accounts are guarded**: requests that differ only in the passwords that are posted, of the
same verdicts, to accounts that differ only in the hashes, get the same answers and leave the same
audit log; and whoever is staff or a superuser afterwards was so before. -/
theorem accounts_guarded (hlower : env.lower "password" = "password")
    {requests requests' : List AccountRequest}
    (hrequests : List.Forall₂ (AccountRequest.SameApart env) requests requests')
    {db db' : AuditedDb (Table UserRow)}
    (hrows : TwinTables UserRow.SameApart db.resources db'.resources)
    (hlogs : db.auditLogs = db'.auditLogs) :
    (serve env.answer requests db).1 = (serve env.answer requests' db').1 ∧
      (serve env.answer requests db).2.auditLogs = (serve env.answer requests' db').2.auditLogs ∧
      ∀ row ∈ (serve env.answer requests db).2.resources, row.Allowed db.resources := by
  have hstart : TwinTables (UserRow.Guarded db.resources) db.resources db'.resources := by
    refine ⟨(List.forall₂_and_left _ _).mpr ⟨fun row hrow _ => ?_, hrows.rows⟩, hrows.nextPk⟩
    exact ⟨row, hrow, rfl, rfl, rfl⟩
  obtain ⟨hanswers, hafter, hlog⟩ :=
    twin_serve (fun _ _ hr => twin_answer hlower hr) hrequests ⟨hstart, hlogs⟩
  exact ⟨hanswers, hlog, ((List.forall₂_and_left _ _).mp hafter.rows).1⟩

/-- Python on ASCII texts, a validator that wants two characters, a hash that shows the password,
and a database that takes every audit row. -/
def asciiAccounts : AccountEnv where
  lower := asciiLower
  makePassword password salt := salt ++ "$" ++ password
  keyText := toString
  timeText := toString
  isoformat := toString
  str := asciiText.str
  validatePassword password := if password.length < 2 then ["This password is too short."] else []
  accepts _ := .ok ⟨⟩

/-- An account is created with a password; its user is refused a short one, and changes it. -/
def accountCalls (letter : String) : List AccountRequest :=
  [.create { username := some "asha" } (some (.scalar (.text (letter ++ "1")))), .me 0,
    .patchMe 0 {} (some (.scalar (.text letter))),
    .patchMe 0 {} (some (.scalar (.text (letter ++ "2")))), .list].map fun call =>
      { now := 0, salt := letter, request := none, checks := fun _ _ => [], call := call }

theorem accounts_guarded_accountCalls :
    (serve asciiAccounts.answer (accountCalls "a") ⟨.empty, .empty⟩).1 =
        (serve asciiAccounts.answer (accountCalls "b") ⟨.empty, .empty⟩).1 ∧
      (serve asciiAccounts.answer (accountCalls "a") ⟨.empty, .empty⟩).2.auditLogs =
        (serve asciiAccounts.answer (accountCalls "b") ⟨.empty, .empty⟩).2.auditLogs ∧
      ∀ row ∈ (serve asciiAccounts.answer (accountCalls "a") ⟨.empty, .empty⟩).2.resources,
        row.Allowed .empty := by
  refine accounts_guarded (by decide) ?_ ⟨.nil, rfl⟩ rfl
  exact .cons ⟨rfl, .create _ (.some (.ok trivial))⟩ (.cons ⟨rfl, .refl _⟩
    (.cons ⟨rfl, .patchMe 0 _ (.some (.error _))⟩
      (.cons ⟨rfl, .patchMe 0 _ (.some (.ok trivial))⟩ (.cons ⟨rfl, .refl _⟩ .nil))))

end AccountEnv

end DcimBackend
