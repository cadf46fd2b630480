import DcimBackend.Access.ViewSets
import DcimBackend.Common.Value

/-!
# Report templates and report jobs

`apps/reports/models.py`, `ReportTemplate` and `ReportJob`, with the `full_clean` that
their `save` calls.  Times are instants, in microseconds.

What a save refuses is decided by `fullClean` alone: the columns, then `clean`, and of a template
the constraint, each with messages by field.  So a stored row has been accepted by it, and
`fullClean_ok` is what the scope of the API rests on.
-/

namespace DcimBackend

open Library

abbrev TemplateId := ℕ

/-! ### Templates -/

/-- `ReportTemplate`. -/
structure ReportTemplate where
  id : TemplateId
  organization : OrganizationId
  name : String
  code : String
  description : Option String := none
  config : Json := .object []
  isActive : Bool := true

instance : Keyed ReportTemplate := ⟨ReportTemplate.id⟩

instance : Scoped ReportTemplate where
  model := .reportTemplate
  key template level :=
    match level with
    | .organization => some template.organization
    | .dataCenter | .room | .rack | .device => none

namespace ReportTemplate

/-- `report_type`. -/
def reportType (template : ReportTemplate) : Json := template.config.get "report_type"

variable (templates : Table ReportTemplate) (template : ReportTemplate)

/-- `clean_fields`: what the columns of the model accept. -/
def fieldErrors : FieldErrors :=
  let errors := FieldErrors.check [] (template.name = "") "name" "This field cannot be blank."
  let errors := errors.maxLength 255 "name" template.name
  let errors := errors.check (template.code = "") "code" "This field cannot be blank."
  errors.maxLength 100 "code" template.code

/-- The errors that `ReportTemplate.clean` raises. -/
def cleanErrors : FieldErrors :=
  let errors := FieldErrors.check [] (template.name = "") "name" "Name is required."
  let errors := errors.check (template.code = "") "code" "Code is required."
  let errors :=
    if template.config.isDict then
      errors.check (template.reportType.truthy = false) "config" "Config must include report_type."
    else errors.append "config" "Config must be a dictionary/object."
  errors.check
    (template.isActive ∧ template.code ≠ "" ∧ templates.rows.any fun other =>
      other.organization = template.organization && other.code = template.code &&
        other.isActive && other.id ≠ template.id)
    "__all__" "An active report template with the same organization and code already exists."

/-- `uq_org_report_template_code`, unless one of its fields has failed already. -/
def constraintErrors (errors : FieldErrors) : FieldErrors :=
  if errors.any fun e => e.1 ∈ ["organization", "code"] then errors
  else
    errors.check
      (templates.rows.any fun other => other.organization = template.organization &&
        other.code = template.code && other.id ≠ template.id)
      "__all__" "Report template with this Organization and Code already exists."

/-- `full_clean`, which `save` calls. -/
def fullClean (h : Hierarchy) : Except RequestError ReportTemplate :=
  if Scoped.keysExist h template then
    let errors := template.fieldErrors.merge (template.cleanErrors templates)
    let errors := template.constraintErrors templates errors
    if errors = [] then .ok template else .error (.invalid errors)
  else .error .doesNotExist

end ReportTemplate

/-! ### Jobs -/

/-- `ReportJobStatus`. -/
inductive ReportJobStatus
  | pending
  | processing
  | completed
  | failed
  | cancelled
deriving DecidableEq

/-- `ReportJob`. -/
structure ReportJob where
  id : ℕ
  organization : OrganizationId
  dataCenter : Option DataCenterId := none
  template : Option TemplateId := none
  requestedBy : Option UserId := none
  status : ReportJobStatus := .pending
  parameters : Json := .object []
  file : Option String := none
  startedAt : Option ℤ := none
  completedAt : Option ℤ := none
  errorMessage : Option String := none

instance : Keyed ReportJob := ⟨ReportJob.id⟩

instance : Scoped ReportJob where
  model := .reportJob
  key job level :=
    match level with
    | .organization => some job.organization
    | .dataCenter => job.dataCenter
    | .room | .rack | .device => none

namespace ReportJob

variable (h : Hierarchy) (templates : Table ReportTemplate) (job : ReportJob)

/-- The template of a job belongs to another organization. -/
def templateElsewhere : Bool :=
  (job.template.bind templates.find).any fun template => template.organization ≠ job.organization

/-- The job has finished before it started. -/
def runsBackwards : Bool :=
  match job.startedAt, job.completedAt with
  | some started, some completed => completed < started
  | _, _ => false

/-- The checks of the two times against the status. -/
def statusErrors (errors : FieldErrors) : FieldErrors :=
  match job.status with
  | .pending =>
      let errors := errors.check job.startedAt.isSome "started_at"
        "Pending jobs cannot have a started time."
      errors.check job.completedAt.isSome "completed_at"
        "Pending jobs cannot have a completed time."
  | .processing =>
      let errors := errors.check job.startedAt.isNone "started_at"
        "Processing jobs must have a started time."
      errors.check job.completedAt.isSome "completed_at"
        "Processing jobs cannot have a completed time."
  | .completed | .failed | .cancelled =>
      let errors := errors.check job.startedAt.isNone "started_at"
        "Completed jobs must have a started time."
      errors.check job.completedAt.isNone "completed_at"
        "Terminal jobs must have a completed time."

/-- The errors that `ReportJob.clean` raises, for a row that is added or not. -/
def cleanErrors (adding : Bool) : FieldErrors :=
  let errors := FieldErrors.check [] (job.parameters.isDict = false) "parameters"
    "Parameters must be a dictionary/object."
  let errors := errors.check (h.dataCenterElsewhere job.dataCenter (some job.organization))
    "data_center" "Data center must belong to the selected organization."
  let errors := errors.check (job.templateElsewhere templates) "template"
    "Template must belong to the selected organization."
  let errors := errors.check (adding ∧ job.requestedBy = none) "requested_by"
    "Requested by is required for user-created jobs."
  let errors := errors.check job.runsBackwards "started_at"
    "Started time cannot be after completed time."
  let errors := errors.check job.runsBackwards "completed_at"
    "Completed time cannot be before started time."
  job.statusErrors errors

/-- Every foreign key of the job refers to a row. -/
def keysExist (users : Table User) : Bool :=
  Scoped.keysExist h job && job.template.all (fun id => (templates.find id).isSome) &&
    job.requestedBy.all fun id => (users.find id).isSome

/-- `full_clean`, which `save` calls. -/
def fullClean (users : Table User) (adding : Bool) : Except RequestError ReportJob :=
  if job.keysExist h templates users then
    let errors := job.cleanErrors h templates adding
    if errors = [] then .ok job else .error (.invalid errors)
  else .error .doesNotExist

end ReportJob

/-! ### What `full_clean` accepts -/

/-- A template lies below its organization. -/
theorem ReportTemplate.below (h : Hierarchy) (template : ReportTemplate) :
    Below h template.organization template := by
  refine ⟨rfl, fun level id hkey => ?_⟩
  cases level with
  | organization =>
      obtain rfl : template.organization = id := Option.some.inj hkey
      exact Relation.ReflTransGen.refl
  | _ => cases hkey

theorem ReportTemplate.fullClean_ok {h : Hierarchy} {templates : Table ReportTemplate}
    {template row : ReportTemplate} (hclean : template.fullClean templates h = .ok row) :
    row = template := by
  unfold fullClean at hclean
  split at hclean
  · dsimp only at hclean
    split at hclean
    · exact (Except.ok.inj hclean).symm
    · cases hclean
  · cases hclean

namespace ReportJob

variable {h : Hierarchy} {templates : Table ReportTemplate} {job row : ReportJob}

theorem statusErrors_eq_nil {errors : FieldErrors} (herrors : job.statusErrors errors = []) :
    errors = [] := by
  unfold statusErrors at herrors
  cases hstatus : job.status <;> simp_all

/-- **A job that `full_clean` accepts** lies below its organization. -/
theorem fullClean_ok {users : Table User} {adding : Bool}
    (hclean : job.fullClean h templates users adding = .ok row) :
    row = job ∧ Below h row.organization row := by
  unfold fullClean at hclean
  split at hclean
  · rename_i hkeys
    dsimp only at hclean
    split at hclean
    · rename_i herrors
      obtain rfl := Except.ok.inj hclean
      have hchecks := statusErrors_eq_nil herrors
      simp only [FieldErrors.check_eq_nil_iff] at hchecks
      obtain ⟨⟨⟨⟨⟨-, hhere⟩, -⟩, -⟩, -⟩, -⟩ := hchecks
      simp only [keysExist, Bool.and_eq_true] at hkeys
      refine ⟨rfl, rfl, fun level id hkey => ?_⟩
      cases level with
      | organization =>
          obtain rfl : job.organization = id := Option.some.inj hkey
          exact Relation.ReflTransGen.refl
      | dataCenter =>
          have hexists := exists_of_keysExist hkeys.1.1 hkey
          have hkey : job.dataCenter = some id := hkey
          rw [hkey] at hhere
          exact above_of_not_dataCenterElsewhere hexists (by simpa using hhere)
      | room => cases hkey
      | rack => cases hkey
      | device => cases hkey
    · cases hclean
  · cases hclean

end ReportJob

end DcimBackend
