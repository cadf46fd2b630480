import DcimBackend.Reports.Models
import DcimBackend.Reports.Schedule

/-!
# The serializers of reports

`apps/reports/serializers.py`: what a request on a template, a job or a schedule makes of
the row.  Each serializer checks the access to the organization by itself.  Those of
templates and schedules check the organization that the row will have, on a creation as on
an update; of jobs only the serializer of a creation does, and an update goes through
`ReportJobDetailSerializer`, which validates nothing.

`datetime.strptime` is a parameter, with the text and the format as arguments.

A request gives some columns and leaves others as they are, so its attributes are options of
values, and `apply` is the `setattr` loop.  A refused request raises before anything is saved:
what is returned is the whole row that is to be stored, and `Reports.Models` has what the columns
take.

`ScopeKept` is what all creations and updates of a schedule have in common.  That updates of jobs
lack the check of the organization is not a gap of the model: the view uses another serializer.
-/

namespace DcimBackend

open Library

/-! ### Access -/

namespace Directory

variable (db : Directory) (user : Option User)

/-- Whether a user has access to a resource. -/
def userCanAccess (r : Resource) : Bool :=
  match user with
  | none => false
  | some u =>
      u.isSuperuser || (db.getAccessScope user).globalAccess || decide ((db.getAccessScope user).Has r)

/-- `_user_can_access_organization`. -/
def userCanAccessOrganization (id : OrganizationId) : Bool := db.userCanAccess user ⟨.organization, id⟩

/-- `_user_can_access_data_center`. -/
def userCanAccessDataCenter (id : DataCenterId) : Bool := db.userCanAccess user ⟨.dataCenter, id⟩

/-- Raise unless the user has access to the organization, if there is one. -/
def checkOrganization (id : Option OrganizationId) : Except RequestError Unit :=
  refuseIf (id.any fun id => !db.userCanAccessOrganization user id) "organization"
    "You do not have access to this organization."

/-- Raise unless the user has access to the data center, if there is one. -/
def checkDataCenter (id : Option DataCenterId) : Except RequestError Unit :=
  refuseIf (id.any fun id => !db.userCanAccessDataCenter user id) "data_center"
    "You do not have access to this data center."

variable {db user}

theorem has_of_userCanAccess {r : Resource}
    (hglobal : (db.getAccessScope user).globalAccess = false)
    (haccess : db.userCanAccess user r = true) : (db.getAccessScope user).Has r := by
  unfold userCanAccess at haccess
  cases user with
  | none => cases haccess
  | some u =>
      have hsuper : u.isSuperuser = false := by
        rw [globalAccess_getAccessScope, Bool.or_eq_false_iff] at hglobal
        exact hglobal.1
      simpa [hsuper, hglobal] using haccess

/-- What the check of the organization lets through. -/
theorem has_of_checkOrganization {id : OrganizationId} {u : Unit}
    (hglobal : (db.getAccessScope user).globalAccess = false)
    (hcheck : db.checkOrganization user (some id) = .ok u) :
    (db.getAccessScope user).Has ⟨.organization, id⟩ := by
  have hallowed := refuseIf_eq_ok_iff.mp hcheck
  have haccess : db.userCanAccessOrganization user id = true := by simpa using hallowed
  exact has_of_userCanAccess hglobal haccess

end Directory

/-! ### Templates -/

/-- The attributes a request sets on a template. -/
structure ReportTemplateAttrs where
  organization : Option OrganizationId := none
  name : Option String := none
  code : Option String := none
  description : Option (Option String) := none
  config : Option Json := none
  isActive : Option Bool := none

namespace ReportTemplateAttrs

variable (attrs : ReportTemplateAttrs)

/-- The attributes, set on a template. -/
def apply (template : ReportTemplate) : ReportTemplate where
  id := template.id
  organization := attrs.organization.getD template.organization
  name := attrs.name.getD template.name
  code := attrs.code.getD template.code
  description := attrs.description.getD template.description
  config := attrs.config.getD template.config
  isActive := attrs.isActive.getD template.isActive

/-- The required fields that are not given. -/
def missing : FieldErrors :=
  missingFields
    [("organization", attrs.organization.isSome), ("name", attrs.name.isSome),
      ("code", attrs.code.isSome)]

/-- `ReportTemplateSerializer.validate`, of the organization and the configuration that the
template will have. -/
def validate (db : Directory) (user : Option User) (organization : OrganizationId)
    (config : Option Json) : Except RequestError Unit := do
  db.checkOrganization user (some organization)
  refuseIf (!config.any Json.isDict) "config" "Config must be a dictionary/object."
  refuseIf (!config.any fun config => (config.get "report_type").truthy) "config"
    "Config must include report_type."

/-- The template that a `POST` creates. -/
def created (db : Directory) (templates : Table ReportTemplate) (user : Option User) :
    Except RequestError ReportTemplate :=
  match attrs.organization, attrs.name, attrs.code with
  | some organization, some name, some code => do
      validate db user organization attrs.config
      let template : ReportTemplate :=
        { id := templates.nextPk, organization := organization, name := name, code := code }
      (attrs.apply template).fullClean templates db.hierarchy
  | _, _, _ => .error (.invalid attrs.missing)

/-- What an update makes of a template. -/
def updated (db : Directory) (templates : Table ReportTemplate) (user : Option User)
    (method : UpdateMethod) (template : ReportTemplate) : Except RequestError ReportTemplate := do
  method.checkMissing attrs.missing
  validate db user (attrs.organization.getD template.organization)
    (some (attrs.config.getD template.config))
  (attrs.apply template).fullClean templates db.hierarchy

end ReportTemplateAttrs

/-! ### Jobs -/

/-- The attributes a request sets on a job.  The user of a creation is set over whatever the
request says. -/
structure ReportJobAttrs where
  organization : Option OrganizationId := none
  dataCenter : Option (Option DataCenterId) := none
  template : Option (Option TemplateId) := none
  parameters : Option Json := none

namespace ReportJobAttrs

variable (attrs : ReportJobAttrs)

/-- The attributes, set on a job. -/
def apply (job : ReportJob) : ReportJob :=
  { job with
    organization := attrs.organization.getD job.organization
    dataCenter := attrs.dataCenter.getD job.dataCenter
    template := attrs.template.getD job.template
    parameters := attrs.parameters.getD job.parameters }

/-- The required fields that are not given. -/
def missing : FieldErrors := missingFields [("organization", attrs.organization.isSome)]

/-- `ReportJobCreateSerializer.validate`. -/
def validate (db : Directory) (templates : Table ReportTemplate) (user : Option User)
    (organization : OrganizationId) : Except RequestError Unit := do
  let parameters :=
    match attrs.parameters with
    | some parameters => if parameters.truthy then parameters else .object []
    | none => .object []
  refuseIf (!parameters.isDict) "parameters" "Parameters must be a dictionary/object."
  db.checkOrganization user (some organization)
  db.checkDataCenter user (attrs.dataCenter.getD none)
  let template := (attrs.template.getD none).bind templates.find
  refuseIf (template.any fun template => template.organization ≠ organization) "template"
    "Template must belong to the selected organization."
  let ofTemplate := template.elim (.scalar .none) ReportTemplate.reportType
  let given := parameters.get "report_type"
  refuseIf (ofTemplate.truthy && given.truthy && !given.eq ofTemplate) "parameters"
    "Parameters report_type must match the selected template."
  refuseIf (!(ofTemplate.truthy || given.truthy)) "template"
    "A report_type must be provided through the template config or parameters."

/-- The job that a `POST` creates. -/
def created (db : Directory) (templates : Table ReportTemplate) (jobs : Table ReportJob)
    (user : Option User) : Except RequestError ReportJob :=
  match attrs.organization with
  | some organization => do
      attrs.validate db templates user organization
      let job : ReportJob :=
        { id := jobs.nextPk, organization := organization, requestedBy := user.map User.id }
      (attrs.apply job).fullClean db.hierarchy templates db.users true
  | none => .error (.invalid attrs.missing)

/-- The request changes the parameters of a job. -/
def changesParameters (job : ReportJob) : Bool :=
  attrs.parameters.any fun parameters => !parameters.eq job.parameters

/-- The job before the attributes are set: changed parameters take back its file and what
it has come to. -/
def reset (job : ReportJob) : ReportJob :=
  if attrs.changesParameters job then
    match job.status with
    | .completed | .failed | .cancelled =>
        { job with
          file := none
          status := .pending
          startedAt := none
          completedAt := none
          errorMessage := some "" }
    | .pending | .processing => { job with file := none }
  else job

/-- What an update makes of a job: `_ReportJobBaseSerializer.update`. -/
def updated (db : Directory) (templates : Table ReportTemplate) (method : UpdateMethod)
    (job : ReportJob) : Except RequestError ReportJob := do
  method.checkMissing attrs.missing
  refuseIf (attrs.changesParameters job ∧ job.status = .processing) "parameters"
    "Processing report jobs cannot be edited."
  (attrs.apply (attrs.reset job)).fullClean db.hierarchy templates db.users false

end ReportJobAttrs

/-! ### Schedules -/

/-- A schedule with the columns that only requests read and write. -/
structure ScheduleRecord extends ReportSchedule where
  parameters : Json := .object []
  attachRawData : Bool := true
  createdBy : Option UserId := none

instance : Keyed ScheduleRecord := ⟨fun s => s.id⟩

instance : Scoped ScheduleRecord where
  model := .reportSchedule
  key s level :=
    match level with
    | .organization => s.organization
    | .dataCenter => s.dataCenter
    | .room | .rack | .device => none

/-- The attributes a request sets on a schedule, as the fields of the serializer leave
them. -/
structure ScheduleAttrs where
  organization : Option OrganizationId := none
  dataCenter : Option (Option DataCenterId) := none
  name : Option String := none
  reportType : Option String := none
  frequency : Option String := none
  deliveryTime : Option String := none
  outputFormat : Option String := none
  parameters : Option Json := none
  recipients : Option Recipients := none
  sendSms : Option Bool := none
  smsRecipients : Option Recipients := none
  attachRawData : Option Bool := none
  isActive : Option Bool := none

/-- `_normalize_delivery_time` of a text. -/
def normalizeDeliveryTime (strptime : String → String → Option TimeOfDay) (value : String) :
    Option TimeOfDay :=
  let candidate := pyStrip value
  if candidate = "" then none
  else
    ["%H:%M:%S", "%H:%M", "%I:%M:%S %p", "%I:%M %p"].findSome? fun format =>
      strptime candidate format

/-- The value, or the message for a field. -/
def orInvalid {α : Type} (value : Option α) (field message : String) :
    Except RequestError α :=
  match value with
  | some value => .ok value
  | none => .error (.invalid [(field, [message])])

/-- The entries of a list, or the message for a field that is none. -/
def Recipients.listOr (field message : String) : Recipients → Except RequestError (List String)
  | .list entries => .ok entries
  | .other _ => .error (.invalid [(field, [message])])

/-- What `save` raises, in a request. -/
def ScheduleError.inRequest : ScheduleError → RequestError
  | .overflow => .overflow
  | .invalid errors => .invalid errors

namespace ScheduleAttrs

variable (attrs : ScheduleAttrs)

/-- The required fields that are not given. -/
def missing : FieldErrors :=
  missingFields
    [("organization", attrs.organization.isSome), ("name", attrs.name.isSome),
      ("report_type", attrs.reportType.isSome), ("frequency", attrs.frequency.isSome),
      ("delivery_time", attrs.deliveryTime.isSome),
      ("output_format", attrs.outputFormat.isSome)]

/-- The SMS recipients, without blanks and each once. -/
def checkSmsRecipients (sendSms : Bool) (value : Recipients) :
    Except RequestError (List String) := do
  let entries ← value.listOr "sms_recipients" "SMS recipients must be a list."
  let smsRecipients := ((entries.map pyStrip).filter (· ≠ "")).eraseDups
  refuseIf (sendSms ∧ smsRecipients = []) "sms_recipients"
    "At least one SMS recipient is required when SMS is enabled."
  return smsRecipients

/-- The recipients of an email, in lower case, without blanks and each once. -/
def checkRecipients (lower : String → String) (otherwise : Bool) (value : Recipients) :
    Except RequestError (List String) := do
  let entries ← value.listOr "recipients" "Recipients must be a list of email addresses."
  let candidates := (entries.map fun entry => lower (pyStrip entry)).filter (· ≠ "")
  let invalid := candidates.find? fun candidate => !ReportSchedule.validRecipient candidate
  refuseIf invalid.isSome "recipients" ("Invalid recipient email: " ++ invalid.getD "")
  refuseIf (candidates = [] ∧ ¬otherwise) "recipients"
    "At least one recipient email is required."
  return candidates.eraseDups

section Validate

variable (lower : String → String) (strptime : String → String → Option TimeOfDay)
  (db : Directory) (user : Option User)

/-- `ReportScheduleSerializer.validate`, with the attributes set on a schedule afterwards:
on the stored one, or on a new one with the defaults of the columns.  The schedule has no
delivery time of its own if it is new. -/
def validated (adding : Bool) (s : ScheduleRecord) : Except RequestError ScheduleRecord := do
  let organization := attrs.organization.or s.organization
  let dataCenter := attrs.dataCenter.getD s.dataCenter
  db.checkOrganization user organization
  db.checkDataCenter user dataCenter
  let reportType ← orInvalid
    (normalizeReportType lower (attrs.reportType.getD (if adding then "" else s.reportType)))
    "report_type" "Unsupported report type."
  let frequency ← orInvalid
    (normalizeReportFrequency lower (attrs.frequency.getD (if adding then "" else s.frequency)))
    "frequency" "Unsupported frequency."
  let outputFormat ← orInvalid
    (normalizeReportFormat lower (attrs.outputFormat.getD (if adding then "" else s.outputFormat)))
    "output_format" "Unsupported report format."
  let deliveryTime ← orInvalid
    (match attrs.deliveryTime with
      | some text => normalizeDeliveryTime strptime text
      | none => if adding then none else some s.deliveryTime)
    "delivery_time" ("Unsupported delivery time. Use HH:MM, HH:MM:SS, or a 12-hour time " ++
      "like 06:00 AM.")
  let parameters := attrs.parameters.getD s.parameters
  refuseIf (!parameters.isDict) "parameters" "Parameters must be a JSON object."
  let sendSms := attrs.sendSms.getD s.sendSms
  let smsRecipients ← checkSmsRecipients sendSms (attrs.smsRecipients.getD s.smsRecipients)
  let recipients ← checkRecipients lower (sendSms && smsRecipients ≠ [])
    (attrs.recipients.getD s.recipients)
  return { s with
    organization := organization
    dataCenter := dataCenter
    name := attrs.name.getD s.name
    reportType := reportType
    frequency := frequency
    deliveryTime := deliveryTime
    outputFormat := outputFormat
    parameters := parameters
    recipients := .list recipients
    sendSms := sendSms
    smsRecipients := .list smsRecipients
    attachRawData := attrs.attachRawData.getD s.attachRawData
    isActive := attrs.isActive.getD s.isActive
    createdBy := s.createdBy.or (user.map User.id) }

/-- The row of a schedule that is saved, where `save` has made of it what it makes. -/
def saved (s : ScheduleRecord) (row : Except ScheduleError ReportSchedule) :
    Except RequestError ScheduleRecord :=
  match row with
  | .error e => .error e.inRequest
  | .ok row =>
      let s : ScheduleRecord := { s with toReportSchedule := row }
      if Scoped.keysExist db.hierarchy s then .ok s else .error .doesNotExist

variable (now : DateTime)

/-- `ReportSchedule.save` of a new row at the time `now`. -/
def insert (h : Hierarchy) (s : ReportSchedule) : Except ScheduleError ReportSchedule := do
  let s ←
    if s.nextRunAt = none then do
      let next ← s.calculateNextRunAt (.aware now)
      pure { s with nextRunAt := some next }
    else pure s
  s.fullClean h lower now

/-- The schedule that a `POST` creates. -/
def created (schedules : Table ScheduleRecord) : Except RequestError ScheduleRecord :=
  if attrs.missing = [] then do
    let s ← attrs.validated lower strptime db user true
      { id := schedules.nextPk, organization := none, name := "", reportType := "" }
    saved db s (insert lower now db.hierarchy s.toReportSchedule)
  else .error (.invalid attrs.missing)

/-- What an update makes of a schedule. -/
def updated (method : UpdateMethod) (stored : ScheduleRecord) :
    Except RequestError ScheduleRecord := do
  method.checkMissing attrs.missing
  let s ← attrs.validated lower strptime db user false stored
  saved db s
    (ReportSchedule.save db.hierarchy lower now stored.toReportSchedule s.toReportSchedule)

end Validate

end ScheduleAttrs

/-! ### What a request stores -/

section Stored

variable {db : Directory} {user : Option User} {templates : Table ReportTemplate}

/-- A created template lies in the scope of its user. -/
theorem ReportTemplateAttrs.created_ok {attrs : ReportTemplateAttrs} {row : ReportTemplate}
    (hglobal : (db.getAccessScope user).globalAccess = false)
    (h : attrs.created db templates user = .ok row) :
    (db.getAccessScope user).Has ⟨.organization, row.organization⟩ := by
  unfold created at h
  split at h
  · rename_i organization name code horganization _ _
    obtain ⟨_, hvalidate, hclean⟩ := bind_eq_ok_iff.mp h
    obtain ⟨_, haccess, -⟩ := bind_eq_ok_iff.mp hvalidate
    obtain rfl := ReportTemplate.fullClean_ok hclean
    have horg : (attrs.apply { id := templates.nextPk, organization := organization
                               name := name, code := code }).organization = organization := by
      simp [apply, horganization]
    rw [horg]
    exact Directory.has_of_checkOrganization hglobal haccess
  · cases h

/-- So does an updated one. -/
theorem ReportTemplateAttrs.updated_ok {attrs : ReportTemplateAttrs} {method : UpdateMethod}
    {template row : ReportTemplate} (hglobal : (db.getAccessScope user).globalAccess = false)
    (h : attrs.updated db templates user method template = .ok row) :
    row.id = template.id ∧
      (db.getAccessScope user).Has ⟨.organization, row.organization⟩ := by
  obtain ⟨_, -, h⟩ := bind_eq_ok_iff.mp h
  obtain ⟨_, hvalidate, hclean⟩ := bind_eq_ok_iff.mp h
  obtain ⟨_, haccess, -⟩ := bind_eq_ok_iff.mp hvalidate
  obtain rfl := ReportTemplate.fullClean_ok hclean
  exact ⟨rfl, Directory.has_of_checkOrganization hglobal haccess⟩

/-- A created job lies in the scope of its user. -/
theorem ReportJobAttrs.created_ok {attrs : ReportJobAttrs} {jobs : Table ReportJob}
    {row : ReportJob} (hglobal : (db.getAccessScope user).globalAccess = false)
    (h : attrs.created db templates jobs user = .ok row) :
    Below db.hierarchy row.organization row ∧
      (db.getAccessScope user).Has ⟨.organization, row.organization⟩ := by
  unfold created at h
  split at h
  · rename_i organization horganization
    obtain ⟨_, hvalidate, hclean⟩ := bind_eq_ok_iff.mp h
    obtain ⟨_, -, hvalidate⟩ := bind_eq_ok_iff.mp hvalidate
    obtain ⟨_, haccess, -⟩ := bind_eq_ok_iff.mp hvalidate
    obtain ⟨rfl, hbelow⟩ := ReportJob.fullClean_ok hclean
    refine ⟨hbelow, ?_⟩
    have horg : (attrs.apply { id := jobs.nextPk, organization := organization
                               requestedBy := user.map User.id }).organization = organization := by
      simp [apply, horganization]
    rw [horg]
    exact Directory.has_of_checkOrganization hglobal haccess
  · cases h

/-- A created job is new, pending, and without a file. -/
theorem ReportJobAttrs.created_row {attrs : ReportJobAttrs} {jobs : Table ReportJob}
    {row : ReportJob} (h : attrs.created db templates jobs user = .ok row) :
    row.id = jobs.nextPk ∧ row.file = none ∧ row.status = .pending := by
  unfold created at h
  split at h
  · obtain ⟨_, -, hclean⟩ := bind_eq_ok_iff.mp h
    obtain ⟨rfl, -⟩ := ReportJob.fullClean_ok hclean
    exact ⟨rfl, rfl, rfl⟩
  · cases h

theorem ReportJobAttrs.reset_unchanged (attrs : ReportJobAttrs) (job : ReportJob) :
    (attrs.reset job).id = job.id ∧ (attrs.reset job).organization = job.organization := by
  unfold reset
  split
  · split <;> exact ⟨rfl, rfl⟩
  · exact ⟨rfl, rfl⟩

/-- An updated job has the organization that the request names, or else its own. -/
theorem ReportJobAttrs.updated_ok {attrs : ReportJobAttrs} {method : UpdateMethod}
    {job row : ReportJob} (h : attrs.updated db templates method job = .ok row) :
    row.id = job.id ∧ row.organization = attrs.organization.getD job.organization ∧
      Below db.hierarchy row.organization row := by
  obtain ⟨_, -, h⟩ := bind_eq_ok_iff.mp h
  obtain ⟨_, -, hclean⟩ := bind_eq_ok_iff.mp h
  obtain ⟨rfl, hbelow⟩ := ReportJob.fullClean_ok hclean
  obtain ⟨hid, horganization⟩ := attrs.reset_unchanged job
  refine ⟨hid, ?_, hbelow⟩
  simp only [apply, horganization]

/-! ### What a request stores of a schedule -/

namespace ReportSchedule

variable {h : Hierarchy} {lower : String → String} {now : DateTime} {s row : ReportSchedule}

/-- What a saved schedule has of the one that was to be saved: it keeps the organization and
the data center, one is given, and the other is not elsewhere. -/
structure ScopeKept (h : Hierarchy) (s row : ReportSchedule) : Prop where
  id : row.id = s.id
  organization : row.organization = s.organization
  dataCenter : row.dataCenter = s.dataCenter
  required : s.organization ≠ none
  here : h.dataCenterElsewhere s.dataCenter s.organization = false

/-- The next run does not matter. -/
theorem ScopeKept.of_nextRunAt {next : Option DateTime}
    (hkept : ScopeKept h { s with nextRunAt := next } row) : s.ScopeKept h row :=
  ⟨hkept.id, hkept.organization, hkept.dataCenter, hkept.required, hkept.here⟩

theorem scopeKept_of_clean (hclean : s.clean h lower now = .ok row) : s.ScopeKept h row := by
  have hkept : ((s.cleanFields h lower).1.id = s.id ∧
      (s.cleanFields h lower).1.organization = s.organization ∧
      (s.cleanFields h lower).1.dataCenter = s.dataCenter) := by
    unfold cleanFields
    cases s.recipients <;> exact ⟨rfl, rfl, rfl⟩
  have hscope : (s.cleanFields h lower).2 = [] →
      s.organization ≠ none ∧ h.dataCenterElsewhere s.dataCenter s.organization = false := by
    intro herrors
    unfold cleanFields at herrors
    have hchecks : ∀ errors : FieldErrors, s.recipientErrors lower errors = [] → errors = [] := by
      intro errors herrors
      unfold recipientErrors at herrors
      dsimp only at herrors
      have hstep : ∀ (errors : FieldErrors) (recipient : String),
          errors.check (validRecipient recipient = false) "recipients"
              ("Invalid recipient email: " ++ recipient) = [] ↔
            errors = [] ∧ ¬validRecipient recipient = false :=
        fun _ _ => FieldErrors.check_eq_nil_iff
      have hfold := (FieldErrors.foldl_eq_nil_iff hstep _ _).mp herrors
      exact (FieldErrors.check_eq_nil_iff.mp hfold.1).1
    cases hrecipients : s.recipients with
    | other truthy => simp [hrecipients] at herrors
    | list entries =>
        simp only [hrecipients, FieldErrors.check_eq_nil_iff] at herrors
        have hfields := hchecks _ herrors.1
        simp only [FieldErrors.check_eq_nil_iff] at hfields
        obtain ⟨⟨⟨⟨⟨⟨-, horganization⟩, -⟩, -⟩, -⟩, -⟩, hhere⟩ := hfields
        exact ⟨horganization, by simpa using hhere⟩
  obtain ⟨hid, horganization, hdataCenter⟩ := hkept
  simp only [clean] at hclean
  split at hclean
  · obtain ⟨next, -, hchecked⟩ := bind_eq_ok_iff.mp hclean
    rw [pure_bind] at hchecked
    obtain ⟨herrors, -, rfl⟩ := checked_ok hchecked
    obtain ⟨hrequired, hhere⟩ := hscope herrors
    exact ⟨hid, horganization, hdataCenter, hrequired, hhere⟩
  · obtain ⟨herrors, -, rfl⟩ := checked_ok hclean
    obtain ⟨hrequired, hhere⟩ := hscope herrors
    exact ⟨hid, horganization, hdataCenter, hrequired, hhere⟩

theorem scopeKept_of_fullClean (hclean : s.fullClean h lower now = .ok row) :
    s.ScopeKept h row :=
  scopeKept_of_clean (fullClean_ok hclean).1

theorem scopeKept_of_save {previous : ReportSchedule}
    (hsave : save h lower now previous s = .ok row) : s.ScopeKept h row := by
  simp only [save] at hsave
  split at hsave
  · obtain ⟨next, -, hclean⟩ := bind_eq_ok_iff.mp hsave
    rw [pure_bind] at hclean
    exact (scopeKept_of_fullClean hclean).of_nextRunAt
  · exact scopeKept_of_fullClean hsave

end ReportSchedule

namespace ScheduleAttrs

variable {attrs : ScheduleAttrs} {lower : String → String}
  {strptime : String → String → Option TimeOfDay} {now : DateTime} {s row : ScheduleRecord}

theorem scopeKept_of_insert {h : Hierarchy} {s row : ReportSchedule}
    (hinsert : insert lower now h s = .ok row) : s.ScopeKept h row := by
  simp only [insert] at hinsert
  split at hinsert
  · obtain ⟨next, -, hclean⟩ := bind_eq_ok_iff.mp hinsert
    rw [pure_bind] at hclean
    exact (ReportSchedule.scopeKept_of_fullClean hclean).of_nextRunAt
  · exact ReportSchedule.scopeKept_of_fullClean hinsert

/-- A saved schedule lies below its organization. -/
theorem saved_ok {cleaned : Except ScheduleError ReportSchedule}
    (hkept : ∀ r, cleaned = .ok r → s.ScopeKept db.hierarchy r)
    (h : saved db s cleaned = .ok row) : row.id = s.id ∧ ∃ organization,
      s.organization = some organization ∧ Below db.hierarchy organization row := by
  unfold saved at h
  split at h
  · cases h
  · rename_i cleaned
    obtain ⟨hid, horganization, hdataCenter, hrequired, hhere⟩ := hkept cleaned rfl
    dsimp only at h
    split at h
    · rename_i hkeys
      obtain rfl := Except.ok.inj h
      obtain ⟨organization, hsome⟩ := Option.ne_none_iff_exists'.mp hrequired
      refine ⟨hid, organization, hsome, horganization.trans hsome, fun level id hkey => ?_⟩
      cases level with
      | organization =>
          have hkey : cleaned.organization = some id := hkey
          rw [horganization, hsome] at hkey
          obtain rfl := Option.some.inj hkey
          exact Relation.ReflTransGen.refl
      | dataCenter =>
          have hexists := exists_of_keysExist hkeys hkey
          have hkey : cleaned.dataCenter = some id := hkey
          rw [hdataCenter] at hkey
          rw [hkey, hsome] at hhere
          exact above_of_not_dataCenterElsewhere hexists hhere
      | room => cases hkey
      | rack => cases hkey
      | device => cases hkey
    · cases h

/-- What the validation lets through has an organization that the user has access to. -/
theorem validated_ok {adding : Bool}
    (h : attrs.validated lower strptime db user adding s = .ok row) :
    row.id = s.id ∧ ∃ u, db.checkOrganization user row.organization = .ok u := by
  obtain ⟨u, haccess, h⟩ := bind_eq_ok_iff.mp h
  obtain ⟨_, -, h⟩ := bind_eq_ok_iff.mp h
  obtain ⟨_, -, h⟩ := bind_eq_ok_iff.mp h
  obtain ⟨_, -, h⟩ := bind_eq_ok_iff.mp h
  obtain ⟨_, -, h⟩ := bind_eq_ok_iff.mp h
  obtain ⟨_, -, h⟩ := bind_eq_ok_iff.mp h
  obtain ⟨_, -, h⟩ := bind_eq_ok_iff.mp h
  obtain ⟨_, -, h⟩ := bind_eq_ok_iff.mp h
  obtain ⟨_, -, h⟩ := bind_eq_ok_iff.mp h
  obtain rfl := Except.ok.inj h
  exact ⟨rfl, u, haccess⟩

/-- A stored schedule lies in the scope of its user. -/
theorem has_of_validated {adding : Bool} {cleaned : Except ScheduleError ReportSchedule}
    {validated : ScheduleRecord} (hglobal : (db.getAccessScope user).globalAccess = false)
    (hvalidated : attrs.validated lower strptime db user adding s = .ok validated)
    (hkept : ∀ r, cleaned = .ok r → validated.ScopeKept db.hierarchy r)
    (h : saved db validated cleaned = .ok row) : row.id = s.id ∧ ∃ organization,
      Below db.hierarchy organization row ∧
        (db.getAccessScope user).Has ⟨.organization, organization⟩ := by
  obtain ⟨hid, organization, hsome, hbelow⟩ := saved_ok hkept h
  obtain ⟨hsame, u, haccess⟩ := validated_ok hvalidated
  rw [hsome] at haccess
  exact ⟨hid.trans hsame, organization, hbelow,
    Directory.has_of_checkOrganization hglobal haccess⟩

theorem created_ok {schedules : Table ScheduleRecord}
    (hglobal : (db.getAccessScope user).globalAccess = false)
    (h : attrs.created lower strptime db user now schedules = .ok row) : ∃ organization,
      Below db.hierarchy organization row ∧
        (db.getAccessScope user).Has ⟨.organization, organization⟩ := by
  unfold created at h
  split at h
  · obtain ⟨validated, hvalidated, hsaved⟩ := bind_eq_ok_iff.mp h
    exact (has_of_validated hglobal hvalidated (fun _ => scopeKept_of_insert) hsaved).2
  · cases h

theorem updated_ok {method : UpdateMethod} {stored : ScheduleRecord}
    (hglobal : (db.getAccessScope user).globalAccess = false)
    (h : attrs.updated lower strptime db user now method stored = .ok row) :
    row.id = stored.id ∧ ∃ organization, Below db.hierarchy organization row ∧
      (db.getAccessScope user).Has ⟨.organization, organization⟩ := by
  obtain ⟨_, -, h⟩ := bind_eq_ok_iff.mp h
  obtain ⟨validated, hvalidated, hsaved⟩ := bind_eq_ok_iff.mp h
  exact has_of_validated hglobal hvalidated (fun _ => ReportSchedule.scopeKept_of_save) hsaved

end ScheduleAttrs

end Stored

end DcimBackend
