import DcimBackend.Reports.Serializers

/-!
# Generating a report

`generate_report_job` of `apps/reports/services/generator.py`, and the actions of
`ReportJobViewSet` on a job, as what they make of its row.  A generator claims the job under
the lock of the row, builds the report without, and writes the outcome under the lock again;
an action works on the copy that its request has loaded.  Each save validates the whole row
that it has in memory, and then writes some columns of it.

`_build_report` is not modelled: its outcome depends on the telemetry of the moment.

The functions here are the atomic steps: each is what happens under one lock, or between the load
and the save of a request.  How they follow one another is said in `Reports.Cancellation`,
`Reports.JobFiles` and `Reports.Endings`, each for what may come in between.
-/

namespace DcimBackend

open Library

/-- The tables that a save validates against. -/
structure ReportTables where
  directory : Directory
  templates : Table ReportTemplate

/-- `_format_validation_message` of what a validation raises, or the text of another
exception. -/
def RequestError.reportMessage (e : RequestError) (text : String) : String :=
  match e with
  | .invalid errors =>
      let messages := (errors.flatMap fun e => e.2).filter fun message => message ≠ ""
      if messages = [] then text else "; ".intercalate messages
  | _ => text

namespace ReportJob

variable (job : ReportJob) (tables : ReportTables)

/-- `full_clean`, in the save of a row that is stored. -/
def validated : Except RequestError ReportJob :=
  job.fullClean tables.directory.hierarchy tables.templates tables.directory.users false

/-! ### A generator -/

/-- The assignments of a claim. -/
def asProcessing (now : ℤ) : ReportJob :=
  { job with
    status := .processing
    startedAt := job.startedAt.or (some now)
    errorMessage := some "" }

/-- The first lock of `generate_report_job`: the row as it is left, which is the copy that
the report is built from.  A refused save raises. -/
def claimForGeneration (now : ℤ) : Option ReportJob :=
  if job.status = .pending ∨ job.status = .failed then
    ((job.asProcessing now).validated tables).toOption
  else none

/-- The assignments of a completion, with the name that the storage has given. -/
def asCompleted (name : String) (now : ℤ) : ReportJob :=
  { job with
    file := some name
    status := .completed
    completedAt := some now
    errorMessage := some "" }

/-- The second lock: the row as it is left, nothing for a job that has been cancelled, or the
message of what is raised.  The storage may raise, and so may the validation, with `text` as
the text of an exception that has no messages. -/
def complete (saved : Except String String) (now : ℤ) (text : String) :
    Except String (Option ReportJob) :=
  if job.status = .cancelled then .ok none
  else
    match saved with
    | .error message => .error message
    | .ok name =>
        match (job.asCompleted name now).validated tables with
        | .ok row => .ok (some row)
        | .error e => .error (e.reportMessage text)

/-- The assignments of a failure. -/
def asFailed (message : String) (now : ℤ) : ReportJob :=
  { job with status := .failed, completedAt := some now, errorMessage := some message }

/-- The lock behind an exception.  A refused save raises. -/
def fail (message : String) (now : ℤ) : Option ReportJob :=
  ((job.asFailed message now).validated tables).toOption

/-! ### The actions -/

/-- The assignments of `cancel`, which reads the clock twice. -/
def asCancelled (started completed : ℤ) : ReportJob :=
  { job with
    file := none
    status := .cancelled
    startedAt := job.startedAt.or (some started)
    completedAt := some completed
    errorMessage := some "Cancelled by user" }

/-- The stored row after the copy's `save(update_fields=...)` in `cancel`. -/
def writeCancelled (copy stored : ReportJob) : ReportJob :=
  { stored with
    status := copy.status
    startedAt := copy.startedAt
    completedAt := copy.completedAt
    errorMessage := copy.errorMessage
    file := copy.file }

/-- The save of `cancel`, of a copy over what is stored by then. -/
def cancelOver (copy stored : ReportJob) (started completed : ℤ) : Option ReportJob :=
  ((copy.asCancelled started completed).validated tables).toOption.map fun row =>
    row.writeCancelled stored

/-- The assignments of `_enqueue_generation`. -/
def asEnqueued (user : Option User) : ReportJob :=
  let job := { job with requestedBy := job.requestedBy.or (user.map User.id), file := none }
  if job.status = .failed then
    { job with
      status := .pending
      errorMessage := some ""
      startedAt := none
      completedAt := none }
  else job

end ReportJob

/-- Where a run of `generate_report_job` stands. -/
inductive GeneratorPhase
  | idle
  /-- It has claimed the job, and builds the report from this copy. -/
  | building (copy : ReportJob)
  | built (copy : ReportJob)
  /-- It has caught an exception with this message. -/
  | failing (job : ℕ) (message : String)

namespace GeneratorPhase

/-- The job that a run has claimed. -/
def job : GeneratorPhase → Option ℕ
  | .idle => none
  | .building copy | .built copy => some copy.id
  | .failing job _ => some job

/-- `_build_report` returns, or raises. -/
def build (result : Except String Unit) : GeneratorPhase → GeneratorPhase
  | .building copy =>
      match result with
      | .ok _ => .built copy
      | .error message => .failing copy.id message
  | phase => phase

@[simp] theorem job_build (result : Except String Unit) (phase : GeneratorPhase) :
    (phase.build result).job = phase.job := by
  cases phase with
  | building copy =>
      cases result with
      | ok => rfl
      | error => rfl
  | idle => rfl
  | built => rfl
  | failing => rfl

end GeneratorPhase

namespace ReportJob

variable {job row : ReportJob} {tables : ReportTables}

/-! ### What a save leaves -/

/-- The times of a job fit its status. -/
def TimesFit (job : ReportJob) : Prop := job.statusErrors [] = []

instance (job : ReportJob) : Decidable job.TimesFit := inferInstanceAs (Decidable (_ = []))

theorem timesFit_iff : job.TimesFit ↔
    match job.status with
    | .pending => job.startedAt = none ∧ job.completedAt = none
    | .processing => job.startedAt ≠ none ∧ job.completedAt = none
    | .completed | .failed | .cancelled => job.startedAt ≠ none ∧ job.completedAt ≠ none := by
  unfold TimesFit statusErrors
  cases job.status <;> simp [FieldErrors.check_eq_nil_iff]

theorem validated_ok (h : job.validated tables = .ok row) : row = job ∧ job.TimesFit := by
  refine ⟨(fullClean_ok h).1, ?_⟩
  unfold validated fullClean at h
  split at h
  · dsimp only at h
    split at h
    · rename_i herrors
      have hchecks := statusErrors_eq_nil herrors
      unfold cleanErrors at herrors
      dsimp only at herrors
      rw [hchecks] at herrors
      exact herrors
    · cases h
  · cases h

theorem claimForGeneration_some {now : ℤ} (h : job.claimForGeneration tables now = some row) :
    (job.status = .pending ∨ job.status = .failed) ∧ row = job.asProcessing now ∧
      row.TimesFit := by
  unfold claimForGeneration at h
  split at h
  · rename_i hstatus
    obtain ⟨rfl, hfit⟩ := validated_ok (toOption_eq_some_iff.mp h)
    exact ⟨hstatus, rfl, hfit⟩
  · cases h

/-- A claim succeeds on a pending job only: a failed one has a completion time, which the
validation refuses of a job that is processed. -/
theorem pending_of_claimForGeneration {now : ℤ} (hjob : job.TimesFit)
    (h : job.claimForGeneration tables now = some row) : job.status = .pending := by
  obtain ⟨hstatus, rfl, hfit⟩ := claimForGeneration_some h
  refine hstatus.resolve_right fun hfailed => ?_
  have hcompleted := (timesFit_iff.mp hfit).2
  have hjob := timesFit_iff.mp hjob
  rw [hfailed] at hjob
  exact hjob.2 hcompleted

theorem complete_ok {saved : Except String String} {now : ℤ} {text : String}
    {result : Option ReportJob} (h : job.complete tables saved now text = .ok result) :
    (job.status = .cancelled ∧ result = none) ∨ (job.status ≠ .cancelled ∧
      ∃ name, saved = .ok name ∧ result = some (job.asCompleted name now) ∧
        (job.asCompleted name now).validated tables = .ok (job.asCompleted name now)) := by
  unfold complete at h
  split at h
  · rename_i hcancelled
    exact Or.inl ⟨hcancelled, (Except.ok.inj h).symm⟩
  · rename_i hstatus
    refine Or.inr ⟨hstatus, ?_⟩
    split at h
    · cases h
    · rename_i name
      split at h
      · rename_i row hvalidated
        obtain ⟨rfl, -⟩ := validated_ok hvalidated
        exact ⟨name, rfl, (Except.ok.inj h).symm, hvalidated⟩
      · cases h

/-- What is raised is raised by the storage or by the validation. -/
theorem complete_error {saved : Except String String} {now : ℤ} {text message : String}
    (h : job.complete tables saved now text = .error message) (name : String)
    (hname : saved = .ok name) : ((job.asCompleted name now).validated tables).isOk = false := by
  subst hname
  unfold complete at h
  split at h
  · cases h
  · dsimp only at h
    split at h
    · cases h
    · rename_i e hrefused
      rw [hrefused]
      rfl

theorem asEnqueued_kept {user : Option User} :
    (job.asEnqueued user).id = job.id ∧ (job.asEnqueued user).file = none := by
  unfold asEnqueued
  dsimp only
  split
  · exact ⟨rfl, rfl⟩
  · exact ⟨rfl, rfl⟩

theorem fail_some {message : String} {now : ℤ} (h : job.fail tables message now = some row) :
    row = job.asFailed message now ∧ row.TimesFit := by
  obtain ⟨rfl, hfit⟩ := validated_ok (toOption_eq_some_iff.mp h)
  exact ⟨rfl, hfit⟩

theorem cancelOver_some {copy stored : ReportJob} {started completed : ℤ}
    (h : copy.cancelOver tables stored started completed = some row) :
    row = (copy.asCancelled started completed).writeCancelled stored ∧ row.TimesFit := by
  obtain ⟨cancelled, hcancelled, rfl⟩ := Option.map_eq_some_iff.mp h
  obtain ⟨rfl, hfit⟩ := validated_ok (toOption_eq_some_iff.mp hcancelled)
  exact ⟨rfl, timesFit_iff.mpr (timesFit_iff.mp hfit)⟩

end ReportJob

/-! ### Two banks -/

/-- Two banks, one administrator, and no templates. -/
def bankReports : ReportTables where
  directory :=
    .ofTables twoBanks (.ofRows [⟨1, true⟩]) .empty .empty .empty .empty (.refl true)
  templates := .empty

/-- A job of the first bank. -/
def firstBankJob : ReportJob :=
  { id := 0
    organization := 1
    requestedBy := some 1
    parameters := .object [("report_type", .scalar (.text "alert_summary"))] }

end DcimBackend
