import DcimBackend.Api.Audit
import DcimBackend.Collectors.Mappings
import DcimBackend.Common.Text
import DcimBackend.Library.Twins

/-!
# What the API tells about secrets

`DeviceCredentialSerializer` (`apps/devices/serializers.py`) and `UserSerializer`
(`apps/accounts/serializers.py`), behind their view sets.  A secret column is written and never
read: an answer says at most whether the column is set, or why a posted value is refused.  The
audit row of an update is given every column as text, and redacts these.

The field of a secret is a `CharField`, which strips a text and refuses some.  Its messages are part
of an answer with status 400, so secrets of different verdicts are told apart; those of one verdict
are not.  The other fields come as their checks leave them, with the messages of these.

Two runs are compared, on rows and requests that differ only in the secrets.  `Hides` is what a view
set has to do about each part of a request, and the rules behind it say what follows for the whole
of it, the audit row included.

That a secret stays hidden is a statement about two runs, and not about the texts of answers:
nothing is assumed of what a secret looks like, and an answer that depended on one in any way
would tell two runs apart.  They may differ in several secret columns at once.
-/

namespace DcimBackend

open Library Library.Tx

/-! ### View sets that hide -/

namespace AuditModelViewSet

variable {ε σ ι : Type}

/-- Two view sets, for two requests that differ in secrets: rows `O` and tables `S` that differ in
secrets are not told apart. -/
structure Hides (lower : String → String) (S : σ → σ → Prop) (O : ι → ι → Prop)
    (view view' : AuditModelViewSet ε σ ι) : Prop where
  resourceType : view.resourceType = view'.resourceType
  pk : ∀ a b, O a b → view.pk a = view'.pk b
  organization : ∀ a b, O a b → view.organization a = view'.organization b
  getObject : ∀ r r', S r r' → Alike O (view.getObject r) (view'.getObject r')
  fields : ∀ a b, O a b → Alike
    (fun d d' => Json.redactFields lower d = Json.redactFields lower d') (view.fields a)
    (view'.fields b)
  save : Twin S O view.save view'.save
  data : ∀ a b, O a b → view.data a = view'.data b
  delete : ∀ a b, O a b → Twin S Eq (view.delete a) (view'.delete b)
  deletedOrganizations : ∀ a b, O a b → view.deletedOrganizations a = view'.deletedOrganizations b
  deletedUsers : ∀ a b, O a b → view.deletedUsers a = view'.deletedUsers b

/-- The same audit log, over tables that differ in secrets. -/
def SameLog (S : σ → σ → Prop) (db db' : AuditedDb σ) : Prop :=
  S db.resources db'.resources ∧ db.auditLogs = db'.auditLogs

/-- Two audit entries that redact to the same. -/
def SameEntry (lower : String → String) (entry entry' : AuditEntry) : Prop :=
  ∃ oldValue, Json.redactFields lower oldValue = Json.redactFields lower entry.oldValue ∧
    entry' = { entry with oldValue := oldValue }

variable {setup : AuditSetup ε} {S : σ → σ → Prop} {O : ι → ι → Prop}
  {view view' : AuditModelViewSet ε σ ι}

/-- The audit rows of two such entries are the same row. -/
theorem twin_writeAudit {entry entry' : AuditEntry} (h : SameEntry setup.lower entry entry') :
    Twin (SameLog S) Eq (setup.writeAudit entry) (setup.writeAudit entry') := by
  obtain ⟨oldValue, hold, rfl⟩ := h
  have hrow : ∀ id, setup.auditLog { entry with oldValue := oldValue } id =
      setup.auditLog entry id := by
    intro id
    simp only [AuditSetup.auditLog, Json.redact, hold]
  unfold AuditSetup.writeAudit
  refine twin_bind (R := Eq) (twin_read fun db db' hdb => ?_) ?_
  · rw [hrow, hdb.2]
  rintro row _ rfl
  refine twin_bind (R := Eq) (twin_lift (alike_refl _)) fun _ _ _ =>
    twin_modify fun db db' hdb => ?_
  refine ⟨hdb.1, ?_⟩
  dsimp only
  rw [hdb.2]

theorem twin_writeAuditWith {entry entry' : Except ε AuditEntry}
    (h : Alike (SameEntry setup.lower) entry entry') :
    Twin (SameLog S) Eq (setup.writeAuditWith entry) (setup.writeAuditWith entry') :=
  twin_bind (twin_lift h) fun _ _ => twin_writeAudit

namespace Hides

variable (h : Hides setup.lower S O view view')

include h

theorem alike_savedEntry {action : String} {oldValue oldValue' : Dict} {a b : ι} (hab : O a b)
    (hold : Json.redactFields setup.lower oldValue' = Json.redactFields setup.lower oldValue) :
    Alike (SameEntry setup.lower) (view.savedEntry action oldValue a)
      (view'.savedEntry action oldValue' b) := by
  unfold savedEntry
  rw [← h.data a b hab, ← h.organization a b hab, ← h.pk a b hab, ← h.resourceType]
  cases view.data a with
  | error e => exact .error e
  | ok newValue =>
      cases view.organization a with
      | error e => exact .error e
      | ok organization => exact .ok ⟨oldValue', hold, rfl⟩

theorem alike_deletedEntry {a b : ι} (hab : O a b) :
    Alike (SameEntry setup.lower) (view.deletedEntry a) (view'.deletedEntry b) := by
  unfold deletedEntry
  rw [← h.organization a b hab, ← h.pk a b hab, ← h.resourceType]
  cases view.organization a with
  | error e => exact .error e
  | ok organization => exact .ok ⟨[], rfl, rfl⟩

theorem twin_saveResource : Twin (SameLog S) O view.saveResource view'.saveResource := by
  intro db db' hdb
  obtain ⟨hresult, hresources⟩ := h.save db.resources db'.resources hdb.1
  exact ⟨hresult, hresources, hdb.2⟩

theorem twin_saveAndAudit {action : String} {oldValue oldValue' : Dict}
    (hold : Json.redactFields setup.lower oldValue' = Json.redactFields setup.lower oldValue) :
    Twin (SameLog S) Eq (view.saveAndAudit setup action oldValue)
      (view'.saveAndAudit setup action oldValue') :=
  twin_bind h.twin_saveResource fun _ _ hab => twin_writeAuditWith (h.alike_savedEntry hab hold)

theorem twin_deleteResource {a b : ι} (hab : O a b) :
    Twin (SameLog S) Eq (view.deleteResource a) (view'.deleteResource b) := by
  intro db db' hdb
  obtain ⟨hresult, hresources⟩ := h.delete a b hab db.resources db'.resources hdb.1
  unfold deleteResource withoutReferences
  rw [h.deletedOrganizations a b hab, h.deletedUsers a b hab, hdb.2]
  rcases hleft : view.delete a db.resources with ⟨x, r⟩
  rcases hright : view'.delete b db'.resources with ⟨y, r'⟩
  rw [hleft, hright] at hresult hresources
  cases hresult with
  | ok => exact ⟨.ok rfl, hresources, rfl⟩
  | error e => exact ⟨.error e, hresources, rfl⟩

theorem twin_performCreate :
    Twin (SameLog S) Eq (view.performCreate setup) (view'.performCreate setup) :=
  h.twin_saveAndAudit rfl

theorem twin_performUpdate :
    Twin (SameLog S) Eq (view.performUpdate setup) (view'.performUpdate setup) := by
  unfold performUpdate
  refine twin_bind (twin_read fun db db' hdb => h.getObject _ _ hdb.1) fun stored stored' hst => ?_
  refine twin_bind (twin_lift hst) fun old old' hold => ?_
  refine twin_bind (twin_lift (h.fields _ _ hold)) fun oldValue oldValue' hvalue => ?_
  exact h.twin_saveAndAudit hvalue.symm

theorem twin_performDestroy {a b : ι} (hab : O a b) :
    Twin (SameLog S) Eq (view.performDestroy setup a) (view'.performDestroy setup b) :=
  twin_bind (twin_writeAuditWith (h.alike_deletedEntry hab)) fun _ _ _ => h.twin_deleteResource hab

end Hides

/-! ### The answers -/

variable (view setup)

/-- `retrieve`. -/
def retrieve : Tx ε (AuditedDb σ) Dict := do
  let found ← Tx.read fun db => view.getObject db.resources
  let obj ← Tx.lift found
  Tx.lift (view.data obj)

/-- `create`, or `update`, past its checks: what is saved is also what the answer shows. -/
def saved (perform : Tx ε (AuditedDb σ) PUnit) : Tx ε (AuditedDb σ) Dict := do
  let result ← Tx.read fun db => (view.save db.resources).1
  perform
  let obj ← Tx.lift result
  Tx.lift (view.data obj)

/-- `destroy`. -/
def destroy : Tx ε (AuditedDb σ) Dict := do
  let found ← Tx.read fun db => view.getObject db.resources
  let obj ← Tx.lift found
  view.performDestroy setup obj
  return []

variable {view setup}

namespace Hides

variable (h : Hides setup.lower S O view view')

include h

theorem twin_data {a b : ι} (hab : O a b) : Twin (SameLog S) Eq
    (Tx.lift (view.data a) : Tx ε (AuditedDb σ) Dict) (Tx.lift (view'.data b)) :=
  twin_lift (by rw [h.data a b hab]; exact alike_refl _)

theorem twin_retrieve : Twin (SameLog S) Eq view.retrieve view'.retrieve :=
  twin_bind (twin_read fun _ _ hdb => h.getObject _ _ hdb.1) fun _ _ hfound =>
    twin_bind (twin_lift hfound) fun _ _ hab => h.twin_data hab

theorem twin_saved {perform perform' : Tx ε (AuditedDb σ) PUnit}
    (hperform : Twin (SameLog S) Eq perform perform') :
    Twin (SameLog S) Eq (view.saved perform) (view'.saved perform') :=
  twin_bind (twin_read fun _ _ hdb => (h.save _ _ hdb.1).1) fun _ _ hsaved =>
    twin_bind hperform fun _ _ _ => twin_bind (twin_lift hsaved) fun _ _ hab => h.twin_data hab

theorem twin_destroy : Twin (SameLog S) Eq (view.destroy setup) (view'.destroy setup) :=
  twin_bind (twin_read fun _ _ hdb => h.getObject _ _ hdb.1) fun _ _ hfound =>
    twin_bind (twin_lift hfound) fun _ _ hab =>
      twin_bind (h.twin_performDestroy hab) fun _ _ _ => twin_pure rfl

end Hides

end AuditModelViewSet

/-! ### Fields of a serializer -/

/-- What a request ends in, where it gets no answer. -/
inductive ApiError
  | raised (text : String)
  /-- The messages of the fields. -/
  | invalid (errors : FieldErrors)
deriving DecidableEq

/-- A `CharField`: what it allows beside a text, and the validators that it is given. -/
structure CharField where
  allowBlank : Bool := false
  allowNull : Bool := false
  validators : String → List String := fun _ => []

namespace CharField

/-- `run_validators`.  `ProhibitNullCharactersValidator` comes last: half of a surrogate pair is no
character of a text here. -/
def runValidators (field : CharField) (value : String) : List String :=
  field.validators value ++
    if '\x00' ∈ value.toList then ["Null characters are not allowed."] else []

/-- `run_validation` of a posted value, with `str` for its numbers.  A blank text is not
validated. -/
def runValidation (field : CharField) (str : PyValue → String) :
    Json → Except (List String) (Option String)
  | .scalar .none =>
      if field.allowNull then .ok none else .error ["This field may not be null."]
  | .scalar (.bool _) | .array _ | .object _ => .error ["Not a valid string."]
  | .scalar value =>
      let text := pyStrip (str value)
      if text = "" then
        if field.allowBlank then .ok (some "") else .error ["This field may not be blank."]
      else
        match field.runValidators text with
        | [] => .ok (some text)
        | messages => .error messages

end CharField

/-- The entry of a field in the errors, if it has been refused. -/
def fieldErrors {α : Type} (field : String) : Option (Except (List String) α) → FieldErrors
  | some (.error messages) => [(field, messages)]
  | _ => []

/-- `is_valid(raise_exception=True)`. -/
def isValid {α : Type} (errors : FieldErrors) (validatedData : α) : Except ApiError α :=
  match errors with
  | [] => .ok validatedData
  | errors => .error (.invalid errors)

section Fields

variable {α β : Type} {R : α → β → Prop} {field : String}

/-- A field that is refused alike has the same entry. -/
theorem fieldErrors_eq {x : Option (Except (List String) α)}
    {y : Option (Except (List String) β)} (h : Option.Rel (Alike R) x y) :
    fieldErrors field x = fieldErrors field y := by
  cases h with
  | none => rfl
  | some hxy =>
      cases hxy with
      | ok => rfl
      | error messages => rfl

/-- What is left of a field that is accepted alike. -/
theorem rel_validated {x : Option (Except (List String) α)}
    {y : Option (Except (List String) β)} (h : Option.Rel (Alike R) x y) :
    Option.Rel R (x.bind Except.toOption) (y.bind Except.toOption) := by
  cases h with
  | none => exact .none
  | some hxy =>
      cases hxy with
      | ok hab => exact .some hab
      | error messages => exact .none

theorem alike_isValid {errors : FieldErrors} {x : α} {y : β} (h : R x y) :
    Alike R (isValid errors x) (isValid errors y) := by
  unfold isValid
  split
  · exact .ok h
  · exact .error _

end Fields

/-! ### Device credentials -/

/-- The columns of a credential that are written and never read. -/
inductive SecretColumn
  | password
  | snmpCommunity
  | snmpV3AuthKey
  | snmpV3PrivKey
deriving DecidableEq

namespace SecretColumn

/-- The name of the column. -/
def name : SecretColumn → String
  | .password => "password_encrypted"
  | .snmpCommunity => "snmp_community_encrypted"
  | .snmpV3AuthKey => "snmp_v3_auth_key_encrypted"
  | .snmpV3PrivKey => "snmp_v3_priv_key_encrypted"

/-- Its key in `secret_summary`. -/
def summaryKey : SecretColumn → String
  | .password => "has_password"
  | .snmpCommunity => "has_snmp_community"
  | .snmpV3AuthKey => "has_snmp_v3_auth_key"
  | .snmpV3PrivKey => "has_snmp_v3_priv_key"

/-- The columns in the order of `get_secret_summary`. -/
def all : List SecretColumn := [.password, .snmpCommunity, .snmpV3AuthKey, .snmpV3PrivKey]

end SecretColumn

/-- `devices.DeviceCredential`, with all its columns. -/
structure CredentialRow extends DeviceCredential where
  id : ℕ
  createdAt : Instant
  username : Option String := none
  snmpVersion : Option String := none
  snmpV3AuthProtocol : Option String := none
  snmpV3PrivProtocol : Option String := none
  secret : SecretColumn → Option String := fun _ => none

instance : Keyed CredentialRow := ⟨CredentialRow.id⟩

/-- What a request gives for the columns that hold no secret, as their fields leave it. -/
structure CredentialAttrs where
  device : Option DeviceId := none
  protocol : Option String := none
  username : Option (Option String) := none
  snmpVersion : Option (Option String) := none
  snmpV3AuthProtocol : Option (Option String) := none
  snmpV3PrivProtocol : Option (Option String) := none
  isActive : Option Bool := none

/-- The truth value of a nullable text. -/
def isSet (value : Option String) : Bool := value.any fun text => text ≠ ""

/-- The secrets of `validated_data`. -/
abbrev SecretAttrs := SecretColumn → Option (Option String)

/-- `setattr(instance, k, v)`, for the items of `validated_data`. -/
def CredentialRow.assign (row : CredentialRow) (attrs : CredentialAttrs) (secrets : SecretAttrs) :
    CredentialRow :=
  { row with
    device := attrs.device.getD row.device
    protocol := attrs.protocol.getD row.protocol
    username := attrs.username.getD row.username
    snmpVersion := attrs.snmpVersion.getD row.snmpVersion
    snmpV3AuthProtocol := attrs.snmpV3AuthProtocol.getD row.snmpV3AuthProtocol
    snmpV3PrivProtocol := attrs.snmpV3PrivProtocol.getD row.snmpV3PrivProtocol
    isActive := attrs.isActive.getD row.isActive
    secret := fun column => (secrets column).getD (row.secret column) }

/-- Texts that Python and Django make of values, and the database. -/
structure CredentialEnv where
  lower : String → String
  /-- `str` of a primary key. -/
  keyText : ℕ → String
  /-- `str(device)`. -/
  deviceText : DeviceId → String
  /-- `str` of a time. -/
  timeText : Instant → String
  isoformat : Instant → String
  /-- `str` of a posted number or text. -/
  str : PyValue → String
  accepts : AuditLog → Except ApiError PUnit

/-- A request to `DeviceCredentialViewSet`, past the check of its permission.  The secrets are as
they are posted. -/
inductive CredentialCall
  | list (device : Option DeviceId) (protocol : Option String) (isActive : Option Bool)
  | retrieve (id : ℕ)
  | create (attrs : CredentialAttrs) (secrets : SecretColumn → Option Json)
  | update (id : ℕ) (attrs : CredentialAttrs) (secrets : SecretColumn → Option Json)
  | destroy (id : ℕ)

/-- The request with its user: whose devices they may see, and what the audit row says of them. -/
structure CredentialRequest where
  sees : DeviceId → Bool
  now : Instant
  request : Option RequestMeta
  /-- The messages of the fields that hold no secret.  Some of them are required. -/
  checks : CredentialAttrs → FieldErrors
  call : CredentialCall

namespace CredentialEnv

variable (env : CredentialEnv)

/-- A text, or `None`. -/
def textOrNone (value : Option String) : Json := .scalar (value.elim .none .text)

/-- `get_secret_summary`. -/
def getSecretSummary (row : CredentialRow) : Json :=
  .object (SecretColumn.all.map fun column =>
    (column.summaryKey, .scalar (.bool (isSet (row.secret column)))))

/-- `DeviceCredentialSerializer(row).data`: the write-only fields are left out. -/
def data (row : CredentialRow) : Dict :=
  [("id", .scalar (.text (env.keyText row.id))),
    ("device", .scalar (.text (env.keyText row.device))),
    ("protocol", .scalar (.text row.protocol)),
    ("username", textOrNone row.username),
    ("snmp_version", textOrNone row.snmpVersion),
    ("snmp_v3_auth_protocol", textOrNone row.snmpV3AuthProtocol),
    ("snmp_v3_priv_protocol", textOrNone row.snmpV3PrivProtocol),
    ("is_active", .scalar (.bool row.isActive)),
    ("created_at", .scalar (.text (env.isoformat row.createdAt))),
    ("updated_at", .scalar (.text (env.isoformat row.updatedAt))),
    ("secret_summary", getSecretSummary row)]

/-- `str` of a nullable text. -/
def strText (value : Option String) : Json := .scalar (.text (value.getD "None"))

/-- The columns with their texts, in the order of `_meta.fields`. -/
def fields (row : CredentialRow) : Dict :=
  [("id", .scalar (.text (env.keyText row.id))),
    ("created_at", .scalar (.text (env.timeText row.createdAt))),
    ("updated_at", .scalar (.text (env.timeText row.updatedAt))),
    ("device", .scalar (.text (env.deviceText row.device))),
    ("protocol", .scalar (.text row.protocol)),
    ("username", strText row.username),
    (SecretColumn.password.name, strText (row.secret .password)),
    ("snmp_version", strText row.snmpVersion),
    (SecretColumn.snmpCommunity.name, strText (row.secret .snmpCommunity)),
    ("snmp_v3_auth_protocol", strText row.snmpV3AuthProtocol),
    (SecretColumn.snmpV3AuthKey.name, strText (row.secret .snmpV3AuthKey)),
    ("snmp_v3_priv_protocol", strText row.snmpV3PrivProtocol),
    (SecretColumn.snmpV3PrivKey.name, strText (row.secret .snmpV3PrivKey)),
    ("is_active", .scalar (.text (if row.isActive then "True" else "False")))]

/-- `get_object`: the row with a key, among those that the user sees. -/
def getObject (sees : DeviceId → Bool) (id : ℕ) (rows : Table CredentialRow) :
    Except ApiError CredentialRow :=
  match (rows.find id).filter fun row => sees row.device with
  | some row => .ok row
  | none => .error (.raised "Not found.")

/-- The field of a secret column. -/
def secretField : CharField where
  allowBlank := true
  allowNull := true

/-- What the field of a secret column says to what is posted for it. -/
def secretResult (posted : Option Json) : Option (Except (List String) (Option String)) :=
  posted.map (secretField.runValidation env.str)

/-- `is_valid`: the messages of the secret columns are behind those of the others. -/
def validate (checks : CredentialAttrs → FieldErrors) (attrs : CredentialAttrs)
    (posted : SecretColumn → Option Json) : Except ApiError SecretAttrs :=
  isValid
    (checks attrs ++ SecretColumn.all.flatMap fun column =>
      fieldErrors column.name (env.secretResult (posted column)))
    fun column => (env.secretResult (posted column)).bind Except.toOption

/-- The defaults of the model.  The device and the protocol are required. -/
def newRow (now : Instant) : CredentialRow :=
  { device := 0, protocol := "", updatedAt := now, id := 0, createdAt := now }

/-- `serializer.save()` of a creation. -/
def create (now : Instant) (attrs : CredentialAttrs) (secrets : SecretAttrs) :
    Tx ApiError (Table CredentialRow) CredentialRow := fun rows =>
  let row := { (newRow now).assign attrs secrets with id := rows.nextPk, updatedAt := now }
  (.ok row, rows.save row)

/-- `serializer.save()` of an update. -/
def update (sees : DeviceId → Bool) (now : Instant) (id : ℕ) (attrs : CredentialAttrs)
    (secrets : SecretAttrs) : Tx ApiError (Table CredentialRow) CredentialRow := fun rows =>
  match getObject sees id rows with
  | .ok stored =>
      let row := { stored.assign attrs secrets with id := stored.id, updatedAt := now }
      (.ok row, rows.save row)
  | .error e => (.error e, rows)

/-- `DeviceCredentialViewSet`, for a request on a row or without one. -/
def view (sees : DeviceId → Bool) (id : ℕ)
    (save : Tx ApiError (Table CredentialRow) CredentialRow) :
    AuditModelViewSet ApiError (Table CredentialRow) CredentialRow where
  resourceType := "DeviceCredential"
  pk row := some (env.keyText row.id)
  organization _ := .ok none
  getObject := getObject sees id
  fields row := .ok (env.fields row)
  save := save
  data row := .ok (env.data row)
  delete row rows := (.ok ⟨⟩, rows.filter fun other => other.id ≠ row.id)
  deletedOrganizations _ _ := false
  deletedUsers _ _ := false

/-- `write_audit` of a request. -/
def setup (request : Option RequestMeta) : AuditSetup ApiError where
  lower := env.lower
  request := request
  accepts := env.accepts

/-- The rows of a `list`, filtered by `filterset_fields`. -/
def listed (sees : DeviceId → Bool) (device : Option DeviceId) (protocol : Option String)
    (isActive : Option Bool) (row : CredentialRow) : Bool :=
  sees row.device && device.all (row.device = ·) && protocol.all (row.protocol = ·) &&
    isActive.all (row.isActive = ·)

/-- A request on a row has no result to save. -/
def nothingSaved : Tx ApiError (Table CredentialRow) CredentialRow := Tx.raise (.raised "")

/-- The answer to a request: the objects that it shows. -/
def answer (r : CredentialRequest) : Tx ApiError (AuditedDb (Table CredentialRow)) (List Dict) :=
  match r.call with
  | .list device protocol isActive => Tx.read fun db =>
      (db.resources.rows.filter (listed r.sees device protocol isActive)).map env.data
  | .retrieve id => List.singleton <$> (env.view r.sees id nothingSaved).retrieve
  | .create attrs posted => do
      let secrets ← Tx.lift (env.validate r.checks attrs posted)
      let view := env.view r.sees 0 (create r.now attrs secrets)
      List.singleton <$> view.saved (view.performCreate (env.setup r.request))
  | .update id attrs posted => do
      let found ← Tx.read fun db => getObject r.sees id db.resources
      let _ ← Tx.lift found
      let secrets ← Tx.lift (env.validate r.checks attrs posted)
      let view := env.view r.sees id (update r.sees r.now id attrs secrets)
      List.singleton <$> view.saved (view.performUpdate (env.setup r.request))
  | .destroy id =>
      List.singleton <$> (env.view r.sees id nothingSaved).destroy (env.setup r.request)

end CredentialEnv

/-! ### Rows and requests that differ in secrets -/

/-- Both set, or neither. -/
def SameSet (value value' : Option String) : Prop := isSet value = isSet value'

/-- The same row, apart from what its secret columns are set to. -/
structure CredentialRow.SameApart (a b : CredentialRow) : Prop where
  columns : { a with secret := fun _ => none } = { b with secret := fun _ => none }
  isSet : ∀ column, SameSet (a.secret column) (b.secret column)

/-- Posted secrets that are refused with the same messages, or accepted as both set or both not. -/
def CredentialEnv.SameVerdicts (env : CredentialEnv) (posted posted' : SecretColumn → Option Json) :
    Prop :=
  ∀ column, Option.Rel (Alike SameSet) (env.secretResult (posted column))
    (env.secretResult (posted' column))

/-- The same call, apart from the secrets that are posted. -/
inductive CredentialCall.SameApart (env : CredentialEnv) : CredentialCall → CredentialCall → Prop
  | refl (call : CredentialCall) : SameApart env call call
  | create (attrs : CredentialAttrs) {posted posted' : SecretColumn → Option Json}
      (h : env.SameVerdicts posted posted') :
      SameApart env (.create attrs posted) (.create attrs posted')
  | update (id : ℕ) (attrs : CredentialAttrs) {posted posted' : SecretColumn → Option Json}
      (h : env.SameVerdicts posted posted') :
      SameApart env (.update id attrs posted) (.update id attrs posted')

/-- The same request, apart from the secrets that are posted. -/
def CredentialRequest.SameApart (env : CredentialEnv) (r r' : CredentialRequest) : Prop :=
  r' = { r with call := r'.call } ∧ r.call.SameApart env r'.call

theorem CredentialEnv.sameVerdicts_refl (env : CredentialEnv)
    (posted : SecretColumn → Option Json) : env.SameVerdicts posted posted := by
  intro column
  cases env.secretResult (posted column) with
  | none => exact .none
  | some result =>
      cases result with
      | ok value => exact .some (.ok rfl)
      | error messages => exact .some (.error messages)

namespace CredentialRow.SameApart

variable {a b : CredentialRow} (h : a.SameApart b)

include h

theorem id_eq : a.id = b.id := congrArg (fun row => row.id) h.columns

theorem device_eq : a.device = b.device := congrArg (fun row => row.device) h.columns

/-- The assignments keep rows the same, apart from the secrets. -/
theorem assign (attrs : CredentialAttrs) {secrets secrets' : SecretAttrs}
    (hsecrets : ∀ column, Option.Rel SameSet (secrets column) (secrets' column)) :
    (a.assign attrs secrets).SameApart (b.assign attrs secrets') := by
  constructor
  · have hassign : ∀ (row : CredentialRow) (secrets : SecretAttrs),
        { row.assign attrs secrets with secret := fun _ => none } =
          ({ row with secret := fun _ => none } : CredentialRow).assign attrs fun _ => none :=
      fun _ _ => rfl
    rw [hassign, hassign, h.columns]
  · intro column
    have hcolumn := hsecrets column
    have hset := h.isSet column
    show SameSet ((secrets column).getD (a.secret column))
      ((secrets' column).getD (b.secret column))
    generalize secrets column = x at hcolumn ⊢
    generalize secrets' column = y at hcolumn ⊢
    cases hcolumn with
    | none => exact hset
    | some hxy => exact hxy

/-- The row that an update writes. -/
theorem stamp (now : Instant) (key : ℕ) :
    SameApart { a with id := key, updatedAt := now } { b with id := key, updatedAt := now } :=
  ⟨congrArg (fun row : CredentialRow => { row with id := key, updatedAt := now }) h.columns,
    h.isSet⟩

/-- An answer says no more than whether a secret is set. -/
theorem data_eq (env : CredentialEnv) : env.data a = env.data b := by
  have hsummary : CredentialEnv.getSecretSummary a = CredentialEnv.getSecretSummary b := by
    have hset : ∀ column, DcimBackend.isSet (a.secret column) =
        DcimBackend.isSet (b.secret column) := h.isSet
    simp only [CredentialEnv.getSecretSummary, hset]
  have hdata : ∀ row : CredentialRow, env.data row =
      (env.data { row with secret := fun _ => none }).dropLast ++
        [("secret_summary", CredentialEnv.getSecretSummary row)] := fun _ => rfl
  rw [hdata a, hdata b, h.columns, hsummary]

/-- An audit row says nothing of a secret. -/
theorem redact_fields (env : CredentialEnv)
    (hlower : ∀ column : SecretColumn, env.lower column.name = column.name) :
    Json.redactFields env.lower (env.fields a) = Json.redactFields env.lower (env.fields b) := by
  have hsensitive : ∀ column : SecretColumn, isSensitive env.lower column.name = true := by
    intro column
    unfold isSensitive
    rw [hlower]
    cases column <;> decide
  have hredact : ∀ row : CredentialRow, Json.redactFields env.lower (env.fields row) =
      Json.redactFields env.lower (env.fields { row with secret := fun _ => none }) := by
    intro row
    simp only [CredentialEnv.fields, CredentialEnv.strText, Json.redactFields, hsensitive, if_true]
  rw [hredact a, hredact b, h.columns]

end CredentialRow.SameApart

namespace CredentialEnv

variable {env : CredentialEnv} {sees : DeviceId → Bool} {now : Instant} {id : ℕ}
  {request : Option RequestMeta} {attrs : CredentialAttrs} {secrets secrets' : SecretAttrs}
  {posted posted' : SecretColumn → Option Json}

theorem alike_getObject {rows rows' : Table CredentialRow}
    (h : TwinTables CredentialRow.SameApart rows rows') :
    Alike CredentialRow.SameApart (getObject sees id rows) (getObject sees id rows') := by
  unfold getObject
  have hfound := h.find (fun _ _ hab => hab.id_eq) id
  generalize rows.find id = x at hfound
  generalize rows'.find id = y at hfound
  cases hfound with
  | none => exact .error _
  | @some a b hab =>
      rw [Option.filter_some, Option.filter_some, hab.device_eq]
      cases sees b.device with
      | true => exact .ok hab
      | false => exact .error _

/-- The serializer says the same to secrets of the same verdicts. -/
theorem alike_validate {checks : CredentialAttrs → FieldErrors}
    (h : env.SameVerdicts posted posted') :
    Alike (fun secrets secrets' : SecretAttrs => ∀ column,
        Option.Rel SameSet (secrets column) (secrets' column))
      (env.validate checks attrs posted) (env.validate checks attrs posted') := by
  have hfields : ∀ column : SecretColumn,
      fieldErrors column.name (env.secretResult (posted column)) =
        fieldErrors column.name (env.secretResult (posted' column)) :=
    fun column => fieldErrors_eq (h column)
  unfold validate
  simp only [hfields]
  exact alike_isValid fun column => rel_validated (h column)

section Saves

variable (h : ∀ column, Option.Rel SameSet (secrets column) (secrets' column))

include h

theorem twin_create :
    Twin (TwinTables CredentialRow.SameApart) CredentialRow.SameApart (create now attrs secrets)
      (create now attrs secrets') := by
  intro rows rows' hrows
  unfold create
  dsimp only
  rw [← hrows.nextPk]
  have hnew : (newRow now).SameApart (newRow now) := ⟨rfl, fun _ => rfl⟩
  have hrow := (hnew.assign attrs h).stamp now rows.nextPk
  exact ⟨.ok hrow, hrows.save (fun _ _ hab => hab.id_eq) hrow⟩

theorem twin_update :
    Twin (TwinTables CredentialRow.SameApart) CredentialRow.SameApart
      (update sees now id attrs secrets) (update sees now id attrs secrets') := by
  intro rows rows' hrows
  have hfound := @alike_getObject sees id rows rows' hrows
  unfold update
  generalize getObject sees id rows = x at hfound
  generalize getObject sees id rows' = y at hfound
  cases hfound with
  | error e => exact ⟨.error e, hrows⟩
  | @ok a b hab =>
      dsimp only
      rw [← hab.id_eq]
      have hrow := (hab.assign attrs h).stamp now a.id
      exact ⟨.ok hrow, hrows.save (fun _ _ hab => hab.id_eq) hrow⟩

end Saves

theorem hides_view (hlower : ∀ column : SecretColumn, env.lower column.name = column.name)
    {save save' : Tx ApiError (Table CredentialRow) CredentialRow}
    (hsave : Twin (TwinTables CredentialRow.SameApart) CredentialRow.SameApart save save') :
    (env.view sees id save).Hides (env.setup request).lower (TwinTables CredentialRow.SameApart)
      CredentialRow.SameApart (env.view sees id save') where
  resourceType := rfl
  pk a b hab := congrArg (fun key => some (env.keyText key)) hab.id_eq
  organization _ _ _ := rfl
  getObject _ _ h := alike_getObject h
  fields a b hab := .ok (hab.redact_fields env hlower)
  save := hsave
  data a b hab := congrArg Except.ok (hab.data_eq env)
  delete a b hab rows rows' h := by
    refine ⟨.ok rfl, h.filter fun x y hxy => ?_⟩
    rw [hab.id_eq, hxy.id_eq]
  deletedOrganizations _ _ _ := rfl
  deletedUsers _ _ _ := rfl

section Answers

variable {checks : CredentialAttrs → FieldErrors}
  (hlower : ∀ column : SecretColumn, env.lower column.name = column.name)
  (hposted : env.SameVerdicts posted posted')

include hlower hposted

theorem twin_answer_create :
    Twin (AuditModelViewSet.SameLog (TwinTables CredentialRow.SameApart)) Eq
      (env.answer ⟨sees, now, request, checks, .create attrs posted⟩)
      (env.answer ⟨sees, now, request, checks, .create attrs posted'⟩) := by
  refine twin_bind (twin_lift (alike_validate hposted)) fun secrets secrets' hsecrets => ?_
  have hhides := @hides_view env sees 0 request hlower _ _ (@twin_create now attrs _ _ hsecrets)
  exact twin_map (hhides.twin_saved hhides.twin_performCreate) fun _ _ => congrArg _

theorem twin_answer_update :
    Twin (AuditModelViewSet.SameLog (TwinTables CredentialRow.SameApart)) Eq
      (env.answer ⟨sees, now, request, checks, .update id attrs posted⟩)
      (env.answer ⟨sees, now, request, checks, .update id attrs posted'⟩) := by
  refine twin_bind (twin_read fun _ _ hdb => alike_getObject hdb.1) fun _ _ hfound =>
    twin_bind (twin_lift hfound) fun _ _ _ => ?_
  refine twin_bind (twin_lift (alike_validate hposted)) fun secrets secrets' hsecrets => ?_
  have hhides := @hides_view env sees id request hlower _ _
    (@twin_update sees now id attrs _ _ hsecrets)
  exact twin_map (hhides.twin_saved hhides.twin_performUpdate) fun _ _ => congrArg _

end Answers

/-- **One request, with other secrets.** -/
theorem twin_answer (hlower : ∀ column : SecretColumn, env.lower column.name = column.name)
    {r r' : CredentialRequest} (hr : r.SameApart env r') :
    Twin (AuditModelViewSet.SameLog (TwinTables CredentialRow.SameApart)) Eq (env.answer r)
      (env.answer r') := by
  obtain ⟨hr, hcall⟩ := hr
  rcases r' with ⟨sees, now, request, checks, call⟩
  rcases r with ⟨_, _, _, _, _⟩
  obtain ⟨rfl, rfl, rfl, rfl, -⟩ := CredentialRequest.mk.inj hr
  have hnothing : Twin (TwinTables CredentialRow.SameApart) CredentialRow.SameApart
      nothingSaved nothingSaved := fun _ _ h => ⟨.error _, h⟩
  have hhides (id : ℕ) := @hides_view env sees id request hlower _ _ hnothing
  cases hcall with
  | create attrs hposted => exact twin_answer_create hlower hposted
  | update id attrs hposted => exact twin_answer_update hlower hposted
  | refl =>
      cases call with
      | create attrs posted => exact twin_answer_create hlower (env.sameVerdicts_refl posted)
      | update id attrs posted => exact twin_answer_update hlower (env.sameVerdicts_refl posted)
      | retrieve id => exact twin_map (hhides id).twin_retrieve fun _ _ => congrArg _
      | destroy id => exact twin_map (hhides id).twin_destroy fun _ _ => congrArg _
      | list device protocol isActive =>
          refine twin_read fun db db' hdb => ?_
          have hlisted : ∀ a b : CredentialRow, a.SameApart b →
              listed sees device protocol isActive a = listed sees device protocol isActive b := by
            intro a b hab
            have hcolumns := congrArg (listed sees device protocol isActive) hab.columns
            exact hcolumns
          have hrows := forall₂_filter hlisted hdb.1.rows
          rw [← List.forall₂_eq_eq_eq, List.forall₂_map_left_iff, List.forall₂_map_right_iff]
          exact hrows.imp fun a b hab => hab.data_eq env

/-- **Secrets stay in the database**: requests that differ only in the secrets that are posted, to
tables that differ only in the secrets that they hold, get the same answers and leave the same
audit log, where the fields say the same to the secrets. -/
theorem secrets_hidden (hlower : ∀ column : SecretColumn, env.lower column.name = column.name)
    {requests requests' : List CredentialRequest}
    (hrequests : List.Forall₂ (CredentialRequest.SameApart env) requests requests')
    {db db' : AuditedDb (Table CredentialRow)}
    (hrows : TwinTables CredentialRow.SameApart db.resources db'.resources)
    (hlogs : db.auditLogs = db'.auditLogs) :
    (serve env.answer requests db).1 = (serve env.answer requests' db').1 ∧
      (serve env.answer requests db).2.auditLogs =
        (serve env.answer requests' db').2.auditLogs := by
  obtain ⟨hanswers, -, hafter⟩ :=
    twin_serve (fun _ _ hr => twin_answer hlower hr) hrequests ⟨hrows, hlogs⟩
  exact ⟨hanswers, hafter⟩

/-- Python on ASCII texts, and a database that takes every audit row. -/
def asciiCredentials : CredentialEnv where
  lower := asciiLower
  keyText := toString
  deviceText := toString
  timeText := toString
  isoformat := toString
  str := asciiText.str
  accepts _ := .ok ⟨⟩

/-- What is posted as a password alone. -/
def passwordOnly (password : String) (column : SecretColumn) : Option Json :=
  if column = .password then some (.scalar (.text password)) else none

/-- A user who sees every device creates a credential with a password, is refused another one with a
null character in it, changes the password, and lists the credentials. -/
def passwordCalls (password : String) : List CredentialRequest :=
  [.create { device := some 1, protocol := some "SNMP" } (passwordOnly password),
    .create { device := some 1, protocol := some "SNMP" } (passwordOnly (password ++ "\x00")),
    .update 0 {} (passwordOnly (password ++ "!")), .list none none none].map fun call =>
      { sees := fun _ => true, now := 0, request := none, checks := fun _ => [], call := call }

theorem sameVerdicts_passwordOnly {password password' : String}
    (h : Alike SameSet (secretField.runValidation asciiText.str (.scalar (.text password)))
      (secretField.runValidation asciiText.str (.scalar (.text password')))) :
    asciiCredentials.SameVerdicts (passwordOnly password) (passwordOnly password') := by
  intro column
  cases column with
  | password => exact .some h
  | snmpCommunity => exact .none
  | snmpV3AuthKey => exact .none
  | snmpV3PrivKey => exact .none

/-- The verdicts of the texts that are posted. -/
theorem runValidation_passwordCalls :
    (∀ text ∈ ["a", "b", "a!", "b!"],
      secretField.runValidation asciiText.str (.scalar (.text text)) = .ok (some text)) ∧
      ∀ text ∈ ["a", "b"], secretField.runValidation asciiText.str
        (.scalar (.text (text ++ "\x00"))) = .error ["Null characters are not allowed."] := by
  decide +kernel

theorem secrets_hidden_passwordCalls :
    (serve asciiCredentials.answer (passwordCalls "a") ⟨.empty, .empty⟩).1 =
        (serve asciiCredentials.answer (passwordCalls "b") ⟨.empty, .empty⟩).1 ∧
      (serve asciiCredentials.answer (passwordCalls "a") ⟨.empty, .empty⟩).2.auditLogs =
        (serve asciiCredentials.answer (passwordCalls "b") ⟨.empty, .empty⟩).2.auditLogs := by
  obtain ⟨haccepted, hrefused⟩ := runValidation_passwordCalls
  have hplain : asciiCredentials.SameVerdicts (passwordOnly "a") (passwordOnly "b") := by
    refine sameVerdicts_passwordOnly ?_
    rw [haccepted "a" (by decide), haccepted "b" (by decide)]
    exact .ok rfl
  have hnull : asciiCredentials.SameVerdicts (passwordOnly ("a" ++ "\x00"))
      (passwordOnly ("b" ++ "\x00")) := by
    refine sameVerdicts_passwordOnly ?_
    rw [hrefused "a" (by decide), hrefused "b" (by decide)]
    exact .error _
  have hchanged : asciiCredentials.SameVerdicts (passwordOnly "a!") (passwordOnly "b!") := by
    refine sameVerdicts_passwordOnly ?_
    rw [haccepted "a!" (by decide), haccepted "b!" (by decide)]
    exact .ok rfl
  refine secrets_hidden (by intro column; cases column <;> decide) ?_ ⟨.nil, rfl⟩ rfl
  exact .cons ⟨rfl, .create _ hplain⟩ (.cons ⟨rfl, .create _ hnull⟩
    (.cons ⟨rfl, .update 0 _ hchanged⟩ (.cons ⟨rfl, .refl _⟩ .nil)))

end CredentialEnv

end DcimBackend
