import DcimBackend.Alerts.Lifecycle
import DcimBackend.Alerts.Rules
import DcimBackend.Reports.Serializers

/-!
# Writes over the scoped view sets

The creations and the updates of alert rules, report templates, report jobs and report
schedules, as the view sets handle them: the permission check, for an update `get_object`,
then the serializer.  The audit row that follows a write changes none of these tables.

A user may write a row that the user then does not see.  `sees_iff` is the exact condition:
of the rows that the serializers check, every one is seen; of the others, a rule or an
updated job, exactly those whose organization is in the user's scope.  The rest of the row
does not matter, since `clean` ties its data center and its device to the organization.

The four kinds of rows are one type (`StoredRow`) and are seen by one rule,
`visible_iff_of_below`.  What differs between them is whether the serializer has looked at the
organization, and `KeepsToScope` asks for it where none has.
-/

namespace DcimBackend

open Library

/-- The tables that these requests read and write. -/
structure ApiDb where
  directory : Directory
  alerts : AlertsDb
  templates : Table ReportTemplate
  jobs : Table ReportJob
  schedules : Table ScheduleRecord
  hierarchy_eq : alerts.hierarchy = directory.hierarchy

/-- A request that creates a row or updates one. -/
inductive WriteRequest
  | createRule (attrs : AlertRuleAttrs) (now : Instant)
  | updateRule (method : UpdateMethod) (id : RuleId) (attrs : AlertRuleAttrs)
  | createTemplate (attrs : ReportTemplateAttrs)
  | updateTemplate (method : UpdateMethod) (id : TemplateId) (attrs : ReportTemplateAttrs)
  | createJob (attrs : ReportJobAttrs)
  | updateJob (method : UpdateMethod) (id : ℕ) (attrs : ReportJobAttrs)
  | createSchedule (attrs : ScheduleAttrs) (now : DateTime)
  | updateSchedule (method : UpdateMethod) (id : ℕ) (attrs : ScheduleAttrs) (now : DateTime)

/-- The permission module of the view set, and what the permission check reads of the
request. -/
def WriteRequest.view : WriteRequest → String × ViewRequest
  | .createRule _ _ => ("alert", postView)
  | .updateRule method _ _ => ("alert", method.view)
  | .createTemplate _ | .createJob _ | .createSchedule _ _ => ("report", postView)
  | .updateTemplate method _ _ | .updateJob method _ _ | .updateSchedule method _ _ _ =>
      ("report", method.view)

/-- The row that a request stores. -/
inductive StoredRow
  | rule (row : AlertRule)
  | template (row : ReportTemplate)
  | job (row : ReportJob)
  | schedule (row : ScheduleRecord)

namespace ApiDb

variable (lower : String → String) (strptime : String → String → Option TimeOfDay)
  (db : ApiDb) (user : Option User)

/-- What a permitted request stores. -/
def written : WriteRequest → Except RequestError StoredRow
  | .createRule attrs now => do
      let row ← db.alerts.createdRule attrs now
      return .rule row
  | .updateRule method id attrs => do
      let rule ← db.directory.getObject db.alerts.rules .mixed user id
      let row ← db.alerts.updatedRule method rule attrs
      return .rule row
  | .createTemplate attrs => do
      let row ← attrs.created db.directory db.templates user
      return .template row
  | .updateTemplate method id attrs => do
      let template ← db.directory.getObject db.templates (.level .organization) user id
      let row ← attrs.updated db.directory db.templates user method template
      return .template row
  | .createJob attrs => do
      let row ← attrs.created db.directory db.templates db.jobs user
      return .job row
  | .updateJob method id attrs => do
      let job ← db.directory.getObject db.jobs .mixed user id
      let row ← attrs.updated db.directory db.templates method job
      return .job row
  | .createSchedule attrs now => do
      let row ← attrs.created lower strptime db.directory user now db.schedules
      return .schedule row
  | .updateSchedule method id attrs now => do
      let stored ← db.directory.getObject db.schedules .mixed user id
      let row ← attrs.updated lower strptime db.directory user now method stored
      return .schedule row

/-- What a request stores. -/
def write (request : WriteRequest) : Except RequestError StoredRow := do
  db.directory.checkPermissions user request.view.1 request.view.2
  db.written lower strptime user request

/-- The tables after the row is stored. -/
def store : StoredRow → ApiDb
  | .rule row => { db with alerts := db.alerts.putRule row }
  | .template row => { db with templates := db.templates.save row }
  | .job row => { db with jobs := db.jobs.save row }
  | .schedule row => { db with schedules := db.schedules.save row }

/-- The tables after a request.  A refused one leaves them as they are. -/
def handle (request : WriteRequest) : ApiDb :=
  match db.write lower strptime user request with
  | .ok row => db.store row
  | .error _ => db

/-- The row belongs to the query set of its view set, filtered for the user. -/
def Sees : StoredRow → Prop
  | .rule row => db.directory.Visible db.alerts.rules .mixed user row
  | .template row => db.directory.Visible db.templates (.level .organization) user row
  | .job row => db.directory.Visible db.jobs .mixed user row
  | .schedule row => db.directory.Visible db.schedules .mixed user row

/-- An organization is in the scope of the user. -/
def InScope (organization : OrganizationId) : Prop :=
  (db.directory.getAccessScope user).Has ⟨.organization, organization⟩

/-- Where the serializer does not check it, the organization that the request names, or else
that of the row it updates, is in the scope of the user. -/
def KeepsToScope : WriteRequest → Prop
  | .createRule attrs _ => ∀ organization ∈ attrs.organization, db.InScope user organization
  | .updateRule _ id attrs => ∀ rule ∈ db.alerts.rules, rule.id = id →
      db.InScope user (attrs.organization.getD rule.organization)
  | .updateJob _ id attrs => ∀ job ∈ db.jobs, job.id = id →
      db.InScope user (attrs.organization.getD job.organization)
  | .createTemplate _ | .updateTemplate _ _ _ | .createJob _ | .createSchedule _ _
  | .updateSchedule _ _ _ _ => True

variable {lower strptime db user}

theorem handle_of_ok {request : WriteRequest} {row : StoredRow}
    (h : db.write lower strptime user request = .ok row) :
    db.handle lower strptime user request = db.store row := by
  unfold handle
  rw [h]

/-- A stored row is seen exactly if its organization is in the scope. -/
theorem visible_save_iff {ρ : Type} [Keyed ρ] [Scoped ρ] {t : Table ρ} {row : ρ}
    {mode : ScopeMode} {organization : OrganizationId} {u : User}
    (hglobal : (db.directory.getAccessScope (some u)).globalAccess = false)
    (hmodel : Level.organization ∈ (Scoped.model ρ).levels)
    (hmode : mode = .mixed ∨ mode = .level .organization)
    (hbelow : Below db.directory.hierarchy organization row) :
    db.directory.Visible (t.save row) mode (some u) row ↔ db.InScope (some u) organization := by
  rw [visible_iff_of_below hglobal hmodel hmode hbelow]
  exact and_iff_right (Table.mem_save.mpr (Or.inl rfl))

/-- An updated row is seen exactly if the organization that it gets is in the scope. -/
theorem visible_save_updated_iff {ρ : Type} [Keyed ρ] [Scoped ρ] {t : Table ρ} {old row : ρ}
    {id : ℕ} {organization : OrganizationId} {u : User} (organizationOf : ρ → OrganizationId)
    (hglobal : (db.directory.getAccessScope (some u)).globalAccess = false)
    (hmodel : Level.organization ∈ (Scoped.model ρ).levels)
    (hbelow : Below db.directory.hierarchy organization row)
    (hold : db.directory.getObject t .mixed (some u) id = .ok old)
    (horganization : organization = organizationOf old) :
    db.directory.Visible (t.save row) .mixed (some u) row ↔
      ∀ other ∈ t, pk other = id → db.InScope (some u) (organizationOf other) := by
  obtain ⟨hmem, rfl⟩ := mem_of_getObject hold
  rw [visible_save_iff hglobal hmodel (Or.inl rfl) hbelow, Table.forall_pk_iff hmem,
    horganization]

/-- **Which writes stay in scope**: a user without global access sees the row that a request
has stored exactly if the request keeps to the scope. -/
theorem sees_iff {request : WriteRequest} {row : StoredRow}
    (hglobal : (db.directory.getAccessScope user).globalAccess = false)
    (h : db.write lower strptime user request = .ok row) :
    (db.handle lower strptime user request).Sees user row ↔ db.KeepsToScope user request := by
  rw [handle_of_ok h]
  obtain ⟨_, hpermitted, hwritten⟩ := bind_eq_ok_iff.mp h
  cases user with
  | none => cases hpermitted
  | some u =>
  cases request with
  | createRule attrs now =>
      obtain ⟨rule, hrule, hpure⟩ := bind_eq_ok_iff.mp hwritten
      obtain rfl := Except.ok.inj hpure
      obtain ⟨horganization, hbelow⟩ := AlertsDb.createdRule_ok hrule
      rw [db.hierarchy_eq] at hbelow
      refine (visible_save_iff hglobal (by decide) (Or.inl rfl) hbelow).trans ?_
      simp [KeepsToScope, horganization]
  | updateRule method id attrs =>
      obtain ⟨old, hold, hwritten⟩ := bind_eq_ok_iff.mp hwritten
      obtain ⟨rule, hrule, hpure⟩ := bind_eq_ok_iff.mp hwritten
      obtain rfl := Except.ok.inj hpure
      obtain ⟨-, horganization, hbelow⟩ := AlertsDb.updatedRule_ok hrule
      rw [db.hierarchy_eq] at hbelow
      exact visible_save_updated_iff (fun rule => attrs.organization.getD rule.organization)
        hglobal (by decide) hbelow hold horganization
  | createTemplate attrs =>
      -- the serializer itself refuses an organization outside of the scope
      obtain ⟨template, htemplate, hpure⟩ := bind_eq_ok_iff.mp hwritten
      obtain rfl := Except.ok.inj hpure
      have hscope := ReportTemplateAttrs.created_ok hglobal htemplate
      exact iff_of_true ((visible_save_iff hglobal (by decide) (Or.inr rfl)
        (template.below _)).mpr hscope) trivial
  | updateTemplate method id attrs =>
      obtain ⟨old, -, hwritten⟩ := bind_eq_ok_iff.mp hwritten
      obtain ⟨template, htemplate, hpure⟩ := bind_eq_ok_iff.mp hwritten
      obtain rfl := Except.ok.inj hpure
      obtain ⟨-, hscope⟩ := ReportTemplateAttrs.updated_ok hglobal htemplate
      exact iff_of_true ((visible_save_iff hglobal (by decide) (Or.inr rfl)
        (template.below _)).mpr hscope) trivial
  | createJob attrs =>
      obtain ⟨job, hjob, hpure⟩ := bind_eq_ok_iff.mp hwritten
      obtain rfl := Except.ok.inj hpure
      obtain ⟨hbelow, hscope⟩ := ReportJobAttrs.created_ok hglobal hjob
      exact iff_of_true ((visible_save_iff hglobal (by decide) (Or.inl rfl) hbelow).mpr hscope)
        trivial
  | updateJob method id attrs =>
      -- a creation is checked against the scope, an update is not
      obtain ⟨old, hold, hwritten⟩ := bind_eq_ok_iff.mp hwritten
      obtain ⟨job, hjob, hpure⟩ := bind_eq_ok_iff.mp hwritten
      obtain rfl := Except.ok.inj hpure
      obtain ⟨-, horganization, hbelow⟩ := ReportJobAttrs.updated_ok hjob
      exact visible_save_updated_iff (fun job => attrs.organization.getD job.organization)
        hglobal (by decide) hbelow hold horganization
  | createSchedule attrs now =>
      obtain ⟨schedule, hschedule, hpure⟩ := bind_eq_ok_iff.mp hwritten
      obtain rfl := Except.ok.inj hpure
      obtain ⟨organization, hbelow, hscope⟩ := ScheduleAttrs.created_ok hglobal hschedule
      exact iff_of_true ((visible_save_iff hglobal (by decide) (Or.inl rfl) hbelow).mpr hscope)
        trivial
  | updateSchedule method id attrs now =>
      obtain ⟨old, -, hwritten⟩ := bind_eq_ok_iff.mp hwritten
      obtain ⟨schedule, hschedule, hpure⟩ := bind_eq_ok_iff.mp hwritten
      obtain rfl := Except.ok.inj hpure
      obtain ⟨-, organization, hbelow, hscope⟩ := ScheduleAttrs.updated_ok hglobal hschedule
      exact iff_of_true ((visible_save_iff hglobal (by decide) (Or.inl rfl) hbelow).mpr hscope)
        trivial

/-! ### Two banks -/

/-- A clerk of the first of two banks. -/
def clerk : User := { id := 1 }

/-- The clerk may write the rules of the first bank, and its reports. -/
def bankClerks : Directory :=
  .ofTables twoBanks (.ofRows [clerk]) (.ofRows [⟨1, .organization⟩])
    (.ofRows [⟨1, "alert.create"⟩, ⟨2, "report.update"⟩])
    (.ofRows [⟨1, 1, 1⟩, ⟨2, 1, 2⟩])
    (.ofRows [{ id := 1, user := 1, organization := some 1, role := 1 }])
    (.refl true)

/-- The tables of the two banks, with one metric and a job of the first bank. -/
def bankApi : ApiDb where
  directory := bankClerks
  alerts := .quiet twoBanks .empty (.ofRows [AlertsDb.temperature]) .empty .empty
  templates := .empty
  jobs := .ofRows [{ id := 1, organization := 1, requestedBy := some 1 }]
  schedules := .empty
  hierarchy_eq := rfl

/-- A rule for a bank. -/
def postRule (organization : OrganizationId) : WriteRequest :=
  .createRule
    { organization := some organization
      metric := some 1
      name := some "Too hot"
      operator := some .gt
      thresholdFloat := some (some (.finite 30)) } 0

/-- The rule that the request stores. -/
def postedRule (organization : OrganizationId) : AlertRule :=
  { id := 0
    organization := organization
    metric := 1
    name := "Too hot"
    operator := .gt
    thresholdFloat := some (.finite 30) }

/-- The clerk sees the rule that they create for the own bank. -/
theorem sees_postedRule :
    (bankApi.handle id (fun _ _ => none) (some clerk) (postRule 1)).Sees (some clerk)
      (.rule (postedRule 1)) := by
  have hown : bankApi.KeepsToScope (some clerk) (postRule 1) := by
    rintro organization horganization
    obtain rfl : 1 = organization := Option.some.inj horganization
    show (bankClerks.getAccessScope (some clerk)).Has ⟨.organization, 1⟩
    decide
  exact (sees_iff (by decide) rfl).mpr hown

/-- The clerk creates a rule for the other bank, and does not see it. -/
theorem foreignRule_unseen :
    ¬∀ (user : Option User) (request : WriteRequest) (row : StoredRow),
      (bankApi.directory.getAccessScope user).globalAccess = false →
        bankApi.write id (fun _ _ => none) user request = .ok row →
          (bankApi.handle id (fun _ _ => none) user request).Sees user row := by
  intro hclaim
  obtain ⟨out, hout, hrow⟩ :=
    hclaim (some clerk) (postRule 2) (.rule (postedRule 2)) (by decide) rfl
  have hfiltered : apiSchema.filterQuerysetForUser bankClerks
      (scopedQuerySet twoBanks (Table.ofRows [postedRule 2])) (some clerk) (scopedIn .mixed) =
        .ok [] := by decide
  obtain rfl : [] = out := Except.ok.inj (hfiltered.symm.trans hout)
  cases hrow

/-- Nor is a job that they hand over, which they could not have created there. -/
example : ∃ job, bankApi.write id (fun _ _ => none) (some clerk)
      (.updateJob .patch 1 { organization := some 2 }) = .ok (.job job) ∧ job.organization = 2 :=
  ⟨_, rfl, rfl⟩

end ApiDb

end DcimBackend
