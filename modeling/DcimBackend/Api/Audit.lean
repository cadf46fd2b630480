import DcimBackend.Access.Administration
import DcimBackend.Common.Value
import DcimBackend.Library.Transaction

/-!
# The audit row of a request

`write_audit` (`apps/common/audit.py`) and the `perform_*` methods of `AuditModelViewSet`
(`apps/common/viewsets.py`).  A request writes twice, the resource and its audit row, and each
write is committed on its own: a creation or an update stores the resource first, a deletion
the audit row.  `together_iff` says for which requests both or neither are stored.

The view set is generic in its model and serializer, and so are the results: what they read
and write are fields of `AuditModelViewSet`, and any of them may raise.  The permission check,
`is_valid` and the first `get_object` of a request come before `perform_*` and write nothing.

`write_audit` evaluates its arguments in the caller, before it inserts anything: the redaction
goes through `str` of keys, and the address is what stands in front of the first comma of a
header.  The column of the address is `inet`, so a header with anything else makes the insertion
fail, whatever the request was about.

The user, the organization and the data center of a row are nullable references, and a deletion
sets them to null (`AuditLog.setNull`); a row is never deleted or rewritten otherwise.
-/

namespace DcimBackend

open Library

/-- `audit.AuditLog`. -/
structure AuditLog where
  id : ℕ
  organization : Option OrganizationId
  actor : Option UserId
  action : String
  resourceType : Option String
  resourceId : Option String
  oldValue : Json
  newValue : Json
  ipAddress : Option String
  userAgent : Option String
  message : Option String

instance : Keyed AuditLog := ⟨AuditLog.id⟩

/-! ### `write_audit` -/

/-- `SENSITIVE_KEYS`. -/
def sensitiveKeys : List String :=
  ["password", "token", "secret", "credential", "community", "auth_key", "priv_key", "api_key",
    "access", "refresh"]

/-- `any(s in str(k).lower() for s in SENSITIVE_KEYS)`. -/
def isSensitive (lower : String → String) (key : String) : Bool :=
  sensitiveKeys.any fun s => decide (s.toList <:+: (lower key).toList)

namespace Json

mutual

/-- `redact`. -/
def redact (lower : String → String) : Json → Json
  | .scalar value => .scalar value
  | .array items => .array (redactItems lower items)
  | .object fields => .object (redactFields lower fields)

/-- `[redact(v) for v in value]`. -/
def redactItems (lower : String → String) : List Json → List Json
  | [] => []
  | item :: items => item.redact lower :: redactItems lower items

/-- The fields of a redacted `dict`.  Under a sensitive key, a `dict` or a list is redacted in
its turn, and anything else is replaced. -/
def redactFields (lower : String → String) : List (String × Json) → List (String × Json)
  | [] => []
  | (key, .scalar value) :: fields =>
      (key, .scalar (if isSensitive lower key then .text "***REDACTED***" else value)) ::
        redactFields lower fields
  | (key, .array items) :: fields =>
      (key, .array (redactItems lower items)) :: redactFields lower fields
  | (key, .object inner) :: fields =>
      (key, .object (redactFields lower inner)) :: redactFields lower fields

end

end Json

/-- What `write_audit` reads of the current request. -/
structure RequestMeta where
  /-- `request.user`, unless anonymous. -/
  user : Option UserId := none
  httpXForwardedFor : Option String := none
  remoteAddr : Option String := none
  httpUserAgent : Option String := none

/-- `request.META.get('HTTP_X_FORWARDED_FOR', …).split(',')[0]`, and `None` if it is empty. -/
def RequestMeta.ip (request : RequestMeta) : Option String :=
  let value := request.httpXForwardedFor.getD (request.remoteAddr.getD "")
  let first := String.ofList (value.toList.takeWhile fun c => c ≠ ',')
  if first = "" then none else some first

/-- The arguments of `write_audit`. -/
structure AuditEntry where
  action : String
  resourceType : Option String := none
  resourceId : Option String := none
  oldValue : Dict := []
  newValue : Dict := []
  message : Option String := none
  organization : Option OrganizationId := none
  actor : Option UserId := none

/-- Where `write_audit` runs: `str.lower`, `get_current_request()`, and the database's answer to
the insertion of a row. -/
structure AuditSetup (ε : Type) where
  lower : String → String
  request : Option RequestMeta
  accepts : AuditLog → Except ε PUnit

variable {ε σ ι : Type}

/-- The row that `write_audit` inserts. -/
def AuditSetup.auditLog (setup : AuditSetup ε) (entry : AuditEntry) (id : ℕ) : AuditLog where
  id := id
  organization := entry.organization
  actor := entry.actor.or (setup.request.bind RequestMeta.user)
  action := entry.action
  resourceType := entry.resourceType
  resourceId := entry.resourceId
  oldValue := (Json.object entry.oldValue).redact setup.lower
  newValue := (Json.object entry.newValue).redact setup.lower
  ipAddress := setup.request.bind RequestMeta.ip
  userAgent := setup.request.map fun request => request.httpUserAgent.getD ""
  message := entry.message

/-- The tables of the resources, and the audit log. -/
structure AuditedDb (σ : Type) where
  resources : σ
  auditLogs : Table AuditLog

/-- `write_audit`. -/
def AuditSetup.writeAudit (setup : AuditSetup ε) (entry : AuditEntry) :
    Tx ε (AuditedDb σ) PUnit := do
  let row ← Tx.read fun db => setup.auditLog entry db.auditLogs.nextPk
  Tx.lift (setup.accepts row)
  Tx.modify fun db => { db with auditLogs := db.auditLogs.save row }

/-- A call of `write_audit`, with its arguments: evaluating them may raise. -/
def AuditSetup.writeAuditWith (setup : AuditSetup ε) (entry : Except ε AuditEntry) :
    Tx ε (AuditedDb σ) PUnit := do
  let entry ← Tx.lift entry
  setup.writeAudit entry

/-- The arguments can be evaluated, and the database takes the row. -/
def AuditSetup.Insertable (setup : AuditSetup ε) (entry : Except ε AuditEntry)
    (db : AuditedDb σ) : Prop :=
  ∃ e u, entry = .ok e ∧ setup.accepts (setup.auditLog e db.auditLogs.nextPk) = .ok u

/-- The tables with the audit row of an entry. -/
def AuditSetup.logged (setup : AuditSetup ε) (entry : AuditEntry) (db : AuditedDb σ) :
    AuditedDb σ :=
  { db with auditLogs := db.auditLogs.save (setup.auditLog entry db.auditLogs.nextPk) }

/-- **`write_audit`** inserts the row, or raises and inserts nothing. -/
theorem AuditSetup.writeAuditWith_spec (setup : AuditSetup ε) (entry : Except ε AuditEntry)
    (db : AuditedDb σ) :
    (∃ e, entry = .ok e ∧ setup.Insertable entry db ∧
      setup.writeAuditWith entry db = (.ok ⟨⟩, setup.logged e db)) ∨
    (¬setup.Insertable entry db ∧ ∃ e, setup.writeAuditWith entry db = (.error e, db)) := by
  cases entry with
  | error e =>
      refine Or.inr ⟨?_, e, rfl⟩
      rintro ⟨_, _, h, -⟩
      cases h
  | ok entry =>
      cases haccepts : setup.accepts (setup.auditLog entry db.auditLogs.nextPk) with
      | ok u =>
          refine Or.inl ⟨entry, rfl, ⟨entry, u, rfl, haccepts⟩, ?_⟩
          simp [writeAuditWith, writeAudit, logged, haccepts]
      | error e =>
          refine Or.inr ⟨?_, e, by simp [writeAuditWith, writeAudit, haccepts]⟩
          rintro ⟨_, _, hentry, hok⟩
          cases hentry
          rw [haccepts] at hok
          cases hok

/-! ### `AuditModelViewSet` -/

/-- What `AuditModelViewSet` asks of its model and serializer, and of the request at hand. -/
structure AuditModelViewSet (ε σ ι : Type) where
  /-- `self.audit_resource_type or instance.__class__.__name__`. -/
  resourceType : String
  /-- `str(instance.pk)`. -/
  pk : ι → Option String
  /-- `getattr(instance, "organization", None)`. -/
  organization : ι → Except ε (Option OrganizationId)
  /-- `self.get_object()`. -/
  getObject : σ → Except ε ι
  /-- The fields of an instance with their texts. -/
  fields : ι → Except ε Dict
  /-- `serializer.save()`. -/
  save : Tx ε σ ι
  /-- `serializer.data`. -/
  data : ι → Except ε Dict
  /-- `instance.delete()`. -/
  delete : ι → Tx ε σ PUnit
  /-- The organizations and the users that the deletion takes along. -/
  deletedOrganizations : ι → OrganizationId → Bool
  deletedUsers : ι → UserId → Bool

/-- `on_delete=SET_NULL` of the two foreign keys of the audit log. -/
def AuditLog.setNull (organizations : OrganizationId → Bool) (users : UserId → Bool)
    (row : AuditLog) : AuditLog :=
  { row with
    organization := row.organization.filter fun id => !organizations id
    actor := row.actor.filter fun id => !users id }

theorem AuditLog.pk_setNull (organizations : OrganizationId → Bool) (users : UserId → Bool)
    (row : AuditLog) : pk (row.setNull organizations users) = pk row := rfl

/-- A request to a view set, past its checks. -/
inductive AuditedRequest (ι : Type)
  | create
  | update
  | destroy (obj : ι)

/-- The action that the audit row of a request names. -/
def AuditedRequest.action : AuditedRequest ι → String
  | .create => "CREATE"
  | .update => "UPDATE"
  | .destroy _ => "DELETE"

namespace AuditModelViewSet

variable (view : AuditModelViewSet ε σ ι) (setup : AuditSetup ε)

/-- `serializer.save()`, on the tables of the resources. -/
def saveResource : Tx ε (AuditedDb σ) ι := fun db =>
  let (result, resources) := view.save db.resources
  (result, { db with resources := resources })

/-- The audit log after the deletion of an instance. -/
def withoutReferences (obj : ι) (auditLogs : Table AuditLog) : Table AuditLog :=
  auditLogs.modify (AuditLog.setNull (view.deletedOrganizations obj) (view.deletedUsers obj))
    (AuditLog.pk_setNull _ _)

/-- `instance.delete()`.  The audit rows that refer to what is deleted lose the reference. -/
def deleteResource (obj : ι) : Tx ε (AuditedDb σ) PUnit := fun db =>
  match view.delete obj db.resources with
  | (.error e, resources) => (.error e, { db with resources := resources })
  | (.ok _, resources) =>
      (.ok ⟨⟩,
        { resources := resources, auditLogs := view.withoutReferences obj db.auditLogs })

/-- The arguments of `write_audit` for a saved instance. -/
def savedEntry (action : String) (oldValue : Dict) (obj : ι) : Except ε AuditEntry := do
  let newValue ← view.data obj
  let organization ← view.organization obj
  return {
    action := action
    resourceType := some view.resourceType
    resourceId := view.pk obj
    oldValue := oldValue
    newValue := newValue
    organization := organization }

/-- The arguments of `write_audit` for an instance that is about to be deleted. -/
def deletedEntry (obj : ι) : Except ε AuditEntry := do
  let organization ← view.organization obj
  return {
    action := "DELETE"
    resourceType := some view.resourceType
    resourceId := view.pk obj
    organization := organization }

/-- `serializer.save()` and the audit row of what it saved: the end of both `perform_create`
and `perform_update`. -/
def saveAndAudit (action : String) (oldValue : Dict) : Tx ε (AuditedDb σ) PUnit := do
  let obj ← view.saveResource
  setup.writeAuditWith (view.savedEntry action oldValue obj)

/-- `perform_create`. -/
def performCreate : Tx ε (AuditedDb σ) PUnit := view.saveAndAudit setup "CREATE" []

/-- `perform_update`. -/
def performUpdate : Tx ε (AuditedDb σ) PUnit := do
  let stored ← Tx.read fun db => view.getObject db.resources
  let old ← Tx.lift stored
  let oldValue ← Tx.lift (view.fields old)
  view.saveAndAudit setup "UPDATE" oldValue

/-- `perform_destroy`. -/
def performDestroy (obj : ι) : Tx ε (AuditedDb σ) PUnit := do
  setup.writeAuditWith (view.deletedEntry obj)
  view.deleteResource obj

/-- A request. -/
def perform : AuditedRequest ι → Tx ε (AuditedDb σ) PUnit
  | .create => view.performCreate setup
  | .update => view.performUpdate setup
  | .destroy obj => view.performDestroy setup obj

/-! ### Both or neither -/

/-- The tables after the change that a request asks for, where it goes through. -/
def Changed : AuditedRequest ι → σ → σ → Prop
  | .create, r, r' | .update, r, r' => ∃ obj, view.save r = (.ok obj, r')
  | .destroy obj, r, r' => view.delete obj r = (.ok ⟨⟩, r')

/-- The audit row of a request is stored. -/
def Audited (request : AuditedRequest ι) (db db' : AuditedDb σ) : Prop :=
  ∃ row ∈ db'.auditLogs, row.id = db.auditLogs.nextPk ∧ row.action = request.action ∧
    row.resourceType = some view.resourceType

/-- After a request, either both the change and its audit row are stored, or neither is. -/
def Together (request : AuditedRequest ι) (db db' : AuditedDb σ) : Prop :=
  (view.Changed request db.resources db'.resources ∧ view.Audited request db db') ∨
    (db'.resources = db.resources ∧ ¬view.Audited request db db')

/-- A save leaves the tables as they are, or it goes through and its audit row can be
inserted. -/
def SavedWithAudit (action : String) (oldValue : Dict) (db : AuditedDb σ) : Prop :=
  (view.save db.resources).2 = db.resources ∨
    ∃ obj, (view.save db.resources).1 = .ok obj ∧
      setup.Insertable (view.savedEntry action oldValue obj) db

/-- The steps of a request that have to succeed or fail together do. -/
def StepsAgree (db : AuditedDb σ) : AuditedRequest ι → Prop
  | .create => view.SavedWithAudit setup "CREATE" [] db
  | .update => ∀ old oldValue, view.getObject db.resources = .ok old →
      view.fields old = .ok oldValue → view.SavedWithAudit setup "UPDATE" oldValue db
  | .destroy obj => setup.Insertable (view.deletedEntry obj) db →
      ∃ r', view.delete obj db.resources = (.ok ⟨⟩, r')

variable {view setup} {db : AuditedDb σ} {request : AuditedRequest ι}

theorem savedEntry_ok {action : String} {oldValue : Dict} {obj : ι} {entry : AuditEntry}
    (h : view.savedEntry action oldValue obj = .ok entry) :
    entry.action = action ∧ entry.resourceType = some view.resourceType := by
  obtain ⟨newValue, -, h⟩ := bind_eq_ok_iff.mp h
  obtain ⟨organization, -, h⟩ := bind_eq_ok_iff.mp h
  obtain rfl := Except.ok.inj h
  exact ⟨rfl, rfl⟩

theorem deletedEntry_ok {obj : ι} {entry : AuditEntry} (h : view.deletedEntry obj = .ok entry) :
    entry.action = "DELETE" ∧ entry.resourceType = some view.resourceType := by
  obtain ⟨organization, -, h⟩ := bind_eq_ok_iff.mp h
  obtain rfl := Except.ok.inj h
  exact ⟨rfl, rfl⟩

/-- The audit log has no row yet under its next key. -/
theorem not_audited_of_auditLogs_eq {db' : AuditedDb σ} (h : db'.auditLogs = db.auditLogs) :
    ¬view.Audited request db db' := by
  rintro ⟨row, hrow, hid, -⟩
  rw [h] at hrow
  have hlt : row.id < db.auditLogs.nextPk := db.auditLogs.pk_lt_nextPk row hrow
  omega

/-- The deletion of an instance leaves the audit rows, if not what they refer to. -/
theorem exists_mem_withoutReferences (obj : ι) {auditLogs : Table AuditLog} {row : AuditLog}
    (h : row ∈ auditLogs) :
    ∃ other ∈ view.withoutReferences obj auditLogs, other.id = row.id ∧
      other.action = row.action ∧ other.resourceType = row.resourceType := by
  refine ⟨row.setNull (view.deletedOrganizations obj) (view.deletedUsers obj), ?_, rfl, rfl, rfl⟩
  exact Table.mem_modify.mpr ⟨row, h, rfl⟩

/-- Without an audit row, nothing may have changed. -/
theorem together_of_not_audited {db' : AuditedDb σ} (h : ¬view.Audited request db db') :
    view.Together request db db' ↔ db'.resources = db.resources := by
  unfold Together
  simp [h]

theorem audited_of_logged {r : σ} {entry : AuditEntry} (haction : entry.action = request.action)
    (htype : entry.resourceType = some view.resourceType) :
    view.Audited request db (setup.logged entry { db with resources := r }) :=
  ⟨setup.auditLog entry db.auditLogs.nextPk, Table.mem_save.mpr (Or.inl rfl), rfl, haction, htype⟩

/-- A creation or an update, from the save on. -/
theorem together_saveAndAudit {action : String} {oldValue : Dict}
    (haction : action = request.action)
    (hchanged : ∀ r r', view.Changed request r r' ↔ ∃ obj, view.save r = (.ok obj, r')) :
    view.Together request db (view.saveAndAudit setup action oldValue db).2 ↔
      view.SavedWithAudit setup action oldValue db := by
  have hsilent : ∀ r', view.Together request db { db with resources := r' } ↔
      r' = db.resources := fun r' => together_of_not_audited (not_audited_of_auditLogs_eq rfl)
  unfold saveAndAudit SavedWithAudit
  rcases hsave : view.save db.resources with ⟨e | obj, r'⟩
  · -- the save raises, and may have stored something
    have hstep : view.saveResource db = (.error e, { db with resources := r' }) := by
      simp [saveResource, hsave]
    rw [Tx.bind_of_error hstep]
    refine (hsilent r').trans ?_
    simp
  · have hstep : view.saveResource db = (.ok obj, { db with resources := r' }) := by
      simp [saveResource, hsave]
    rw [Tx.bind_of_ok hstep]
    rcases setup.writeAuditWith_spec (view.savedEntry action oldValue obj)
        { db with resources := r' } with ⟨entry, hentry, hinsertable, hlogged⟩ | ⟨hnot, e, herror⟩
    · -- both are stored
      rw [hlogged]
      have htogether : view.Together request db
          (setup.logged entry { db with resources := r' }) := by
        refine Or.inl ⟨(hchanged _ _).mpr ⟨obj, hsave⟩, audited_of_logged ?_ ?_⟩
        · rw [← haction]
          exact (savedEntry_ok hentry).1
        · exact (savedEntry_ok hentry).2
      exact iff_of_true htogether (Or.inr ⟨obj, rfl, hinsertable⟩)
    · -- the row is stored without its audit row
      rw [herror]
      refine (hsilent r').trans ?_
      constructor
      · intro hsame
        exact Or.inl hsame
      · rintro (hsame | ⟨_, hobj, hinsertable⟩)
        · exact hsame
        · obtain rfl := Except.ok.inj hobj
          exact absurd hinsertable hnot

/-- A deletion. -/
theorem together_destroy {obj : ι} :
    view.Together (.destroy obj) db (view.performDestroy setup obj db).2 ↔
      view.StepsAgree setup db (.destroy obj) := by
  unfold performDestroy
  rcases setup.writeAuditWith_spec (view.deletedEntry obj) db with
    ⟨entry, hentry, hinsertable, hlogged⟩ | ⟨hnot, e, herror⟩
  · rw [Tx.bind_of_ok hlogged]
    have haudited : ∀ db' : AuditedDb σ,
        (∃ row ∈ db'.auditLogs, row.id = db.auditLogs.nextPk ∧ row.action = entry.action ∧
          row.resourceType = entry.resourceType) → view.Audited (.destroy obj) db db' := by
      rintro db' ⟨row, hrow, hid, haction, htype⟩
      obtain ⟨haction', htype'⟩ := deletedEntry_ok hentry
      exact ⟨row, hrow, hid, haction.trans haction', htype.trans htype'⟩
    have hrow : setup.auditLog entry db.auditLogs.nextPk ∈ (setup.logged entry db).auditLogs :=
      Table.mem_save.mpr (Or.inl rfl)
    show view.Together (.destroy obj) db (view.deleteResource obj (setup.logged entry db)).2 ↔
      (setup.Insertable (view.deletedEntry obj) db →
        ∃ r', view.delete obj db.resources = (.ok ⟨⟩, r'))
    rcases hdelete : view.delete obj db.resources with ⟨e | u, r'⟩
    · -- the audit row is there, and the deletion did not happen
      have hstep : view.deleteResource obj (setup.logged entry db) =
          (.error e, { setup.logged entry db with resources := r' }) := by
        simp [deleteResource, AuditSetup.logged, hdelete]
      rw [hstep]
      refine iff_of_false ?_ fun h => by simpa using h hinsertable
      rintro (⟨hchanged, -⟩ | ⟨-, hnot⟩)
      · have hok : view.delete obj db.resources = (.ok ⟨⟩, r') := hchanged
        rw [hdelete] at hok
        simp at hok
      · exact hnot (haudited _ ⟨_, hrow, rfl, rfl, rfl⟩)
    · have hstep : (view.deleteResource obj (setup.logged entry db)).2 =
          { resources := r'
            auditLogs := view.withoutReferences obj (setup.logged entry db).auditLogs } := by
        simp [deleteResource, AuditSetup.logged, hdelete]
      rw [hstep]
      refine iff_of_true (Or.inl ⟨hdelete, haudited _ ?_⟩) fun _ => ⟨r', rfl⟩
      obtain ⟨row, hmem, hid, haction, htype⟩ := exists_mem_withoutReferences obj hrow
      exact ⟨row, hmem, hid, haction, htype⟩
  · -- nothing is deleted without an audit row
    rw [Tx.bind_of_error herror]
    have hsilent : view.Together (.destroy obj) db db ↔ db.resources = db.resources :=
      together_of_not_audited (not_audited_of_auditLogs_eq rfl)
    exact iff_of_true (hsilent.mpr rfl) fun hinsertable => absurd hinsertable hnot

/-- An update, from the object that it finds. -/
theorem together_update :
    view.Together .update db (view.performUpdate setup db).2 ↔ view.StepsAgree setup db .update := by
  have hsilent : view.Together .update db db :=
    (together_of_not_audited (not_audited_of_auditLogs_eq rfl)).mpr rfl
  unfold performUpdate StepsAgree
  cases hobj : view.getObject db.resources with
  | error e =>
      refine iff_of_true ?_ fun old _ hold => by cases hold
      simpa [hobj] using hsilent
  | ok old =>
      cases hfields : view.fields old with
      | error e =>
          refine iff_of_true ?_ fun other oldValue hother hfields' => ?_
          · simpa [hobj, hfields] using hsilent
          · obtain rfl := Except.ok.inj hother
            rw [hfields] at hfields'
            cases hfields'
      | ok oldValue =>
          have hsaved : view.Together .update db
                (view.saveAndAudit setup "UPDATE" oldValue db).2 ↔
              view.SavedWithAudit setup "UPDATE" oldValue db :=
            together_saveAndAudit rfl fun r r' => Iff.rfl
          simp only [Tx.bind_apply, Tx.read_apply, Tx.lift_apply, hobj, hfields]
          rw [hsaved]
          constructor
          · rintro hsaved other oldValue' hother hfields'
            obtain rfl := Except.ok.inj hother
            obtain rfl := Except.ok.inj (hfields.symm.trans hfields')
            exact hsaved
          · intro h
            exact h old oldValue rfl hfields

end AuditModelViewSet

/-- **When the change and its audit row go together**: exactly where a save stores nothing or
its audit row can be inserted, and a deletion goes through if its audit row was inserted. -/
theorem together_iff (view : AuditModelViewSet ε σ ι) (setup : AuditSetup ε)
    (request : AuditedRequest ι) (db : AuditedDb σ) :
    view.Together request db (view.perform setup request db).2 ↔
      view.StepsAgree setup db request := by
  cases request with
  | create => exact AuditModelViewSet.together_saveAndAudit rfl fun r r' => Iff.rfl
  | update => exact AuditModelViewSet.together_update
  | destroy obj => exact AuditModelViewSet.together_destroy

/-! ### Roles -/

/-- The columns of the audit log take a row.  `inet` says which texts are addresses. -/
def AuditLog.fits (inet : String → Bool) (row : AuditLog) : Bool :=
  row.action.length ≤ 100 && row.resourceType.all (fun text => text.length ≤ 100) &&
    row.resourceId.all (fun text => text.length ≤ 100) && row.ipAddress.all inet &&
    row.oldValue.storable && row.newValue.storable

/-- An IPv4 address in dotted notation. -/
def isIpv4 (text : String) : Bool :=
  let parts := text.toList.splitOn '.'
  parts.length = 4 && parts.all fun part =>
    !part.isEmpty && part.all Char.isDigit &&
      decide (part.foldl (fun n c => 10 * n + (c.toNat - '0'.toNat)) 0 ≤ 255)

/-- Why a request on roles raises. -/
inductive RoleRequestError
  /-- `Http404`. -/
  | notFound
  /-- `ProtectedError`. -/
  | isProtected
  /-- `DataError`, over the audit row. -/
  | dataError

/-- The value of a role scope in its column. -/
def RoleScope.value : RoleScope → String
  | .global => "GLOBAL"
  | .organization => "ORGANIZATION"
  | .dataCenter => "DATA_CENTER"
  | .room => "ROOM"
  | .rack => "RACK"
  | .device => "DEVICE"
  | .unsupported value => value

/-- `RoleViewSet`, with what a request asks for: the role that it names, if any, and the scope
to save. -/
def roleViewSet (id : Option RoleId) (scope : RoleScope) :
    AuditModelViewSet RoleRequestError Directory Role where
  resourceType := "Role"
  pk role := some (toString role.id)
  organization _ := .ok none
  getObject db := (id.bind db.roles.find).elim (.error .notFound) .ok
  fields role := .ok [("scope", .scalar (.text role.scope.value))]
  save db :=
    let role := (id.bind db.roles.find).elim { id := db.roles.nextPk, scope := scope }
      fun role => { role with scope := scope }
    (.ok role, db.saveRole role)
  data role := .ok [("scope", .scalar (.text role.scope.value))]
  delete role db :=
    if ∃ row ∈ db.accesses, row.role = role.id then (.error .isProtected, db)
    else (.ok ⟨⟩, db.deleteRole role.id)
  deletedOrganizations _ _ := false
  deletedUsers _ _ := false

theorem delete_of_protected {id : Option RoleId} {scope : RoleScope} {role : Role}
    {db : Directory} (h : ∃ row ∈ db.accesses, row.role = role.id) :
    (roleViewSet id scope).delete role db = (.error .isProtected, db) := by
  simp only [roleViewSet, h, if_true]

/-- A request by the first user that names a client address. -/
def requestFrom (address : String) : AuditSetup RoleRequestError where
  lower := id
  request := some { user := some 1, httpXForwardedFor := some address }
  accepts row := if row.fits isIpv4 then .ok ⟨⟩ else .error .dataError

theorem requestFrom_accepts (address : String) (row : AuditLog) :
    (requestFrom address).accepts row =
      if row.fits isIpv4 then .ok ⟨⟩ else .error .dataError := rfl

/-- The directory of `adminAndViewer`, with an empty audit log. -/
def auditedDirectory : AuditedDb Directory := ⟨adminAndViewer, .empty⟩

/-- The arguments of `write_audit` for a role that is created there. -/
def postedRoleEntry : AuditEntry :=
  { action := "CREATE", resourceType := some "Role", resourceId := some "3"
    newValue := [("scope", .scalar (.text "ROOM"))] }

/-- The arguments for the first role, about to be deleted. -/
def deletedRoleEntry : AuditEntry :=
  { action := "DELETE", resourceType := some "Role", resourceId := some "1" }

/-- A role is created without an audit row when the client names no address, and the audit row
of a deletion is stored although access rows protect the role. -/
theorem roleRequests_apart :
    ¬(roleViewSet none .room).Together .create auditedDirectory
        ((roleViewSet none .room).perform (requestFrom "unknown") .create auditedDirectory).2 ∧
      ¬(roleViewSet none .room).Together (.destroy ⟨1, .organization⟩) auditedDirectory
        ((roleViewSet none .room).perform (requestFrom "10.0.0.7") (.destroy ⟨1, .organization⟩)
          auditedDirectory).2 := by
  constructor
  · refine mt (AuditModelViewSet.together_saveAndAudit rfl fun r r' => Iff.rfl).mp ?_
    rintro (hsame | ⟨role, hrole, entry, u, hentry, haccepts⟩)
    · have hroles := congrArg (fun db : Directory => db.roles.rows.length) hsame
      revert hroles
      decide
    · obtain rfl := Except.ok.inj hrole
      obtain rfl := Except.ok.inj hentry
      have hrefused : ((requestFrom "unknown").auditLog postedRoleEntry 0).fits isIpv4 = false := by
        decide
      have herror : (requestFrom "unknown").accepts
          ((requestFrom "unknown").auditLog postedRoleEntry 0) = .error .dataError := by
        rw [requestFrom_accepts, hrefused]
        rfl
      have hresult := herror.symm.trans haccepts
      cases hresult
  · refine mt AuditModelViewSet.together_destroy.mp fun hagree => ?_
    have hfits : ((requestFrom "10.0.0.7").auditLog deletedRoleEntry 0).fits isIpv4 = true := by
      decide
    have haccepts : (requestFrom "10.0.0.7").accepts
        ((requestFrom "10.0.0.7").auditLog deletedRoleEntry 0) = .ok ⟨⟩ := by
      rw [requestFrom_accepts, hfits]
      rfl
    obtain ⟨r', hdelete⟩ := hagree ⟨deletedRoleEntry, ⟨⟩, rfl, haccepts⟩
    have hprotected : ∃ row ∈ adminAndViewer.accesses, row.role = 1 := by decide
    have herror : (roleViewSet none .room).delete ⟨1, .organization⟩ adminAndViewer =
        (.error .isProtected, adminAndViewer) := delete_of_protected hprotected
    have hresult := congrArg Prod.fst (herror.symm.trans hdelete)
    cases hresult

end DcimBackend
