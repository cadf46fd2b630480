import DcimBackend.Reports.Generation

/-!
# How a generation ends

`generate_report_job` as one call, with what it raises (`apps/reports/services/generator.py`).
The call takes the lock of the row three times at most, and between two locks others may change
the row and the tables, or delete the job.

The first save is outside of the `try` block.  It refuses a job that has a completion time, which
every failed job has: `endsTerminal_iff` is the exact line.

What others do between two locks is a function on the tables, arbitrary and part of the call.  The
build, the file and the two saves may each raise, with a text; an exception of the `try` block
ends in the `except` block, which takes a lock of its own and may itself find the job changed or
gone.
-/

namespace DcimBackend

open Library

/-- The tables, and the clock, under a lock. -/
structure GenerationLock where
  tables : ReportTables
  now : ℤ

/-- What a call of `generate_report_job` meets. -/
structure GenerationCall where
  claim : GenerationLock
  /-- `_build_report` and `_report_filename`. -/
  build : Except String Unit
  /-- What others make of the claimed job before the next lock. -/
  meanwhile : ReportJob → Option ReportJob := some
  completion : GenerationLock
  /-- `job.file.save`. -/
  saved : Except String String
  /-- The text of an exception without messages. -/
  text : String
  /-- What others make of the job before the lock behind an exception. -/
  afterwards : ReportJob → Option ReportJob := some
  failure : GenerationLock
  /-- PostgreSQL accepts a text. -/
  storable : String → Bool

/-- What a call raises. -/
inductive GenerationError
  | request (error : RequestError)
  | database

namespace GenerationCall

variable (call : GenerationCall)

/-- The `try` block, of a job as it is stored by then: the row that it saves, or the message of
what is raised in it. -/
def finish (stored : Option ReportJob) : Except String (Option ReportJob) :=
  match call.build with
  | .error message => .error message
  | .ok _ =>
      match stored with
      | none => .error call.text
      | some row => row.complete call.completion.tables call.saved call.completion.now call.text

/-- The `except` block. -/
def recover (message : String) (stored : Option ReportJob) :
    Except GenerationError Unit × Option ReportJob :=
  match stored with
  | none => (.ok (), none)
  | some row =>
      match (row.asFailed message call.failure.now).validated call.failure.tables with
      | .error e => (.error (.request e), some row)
      | .ok failed =>
          if call.storable message then (.ok (), some failed) else (.error .database, some row)

/-- `generate_report_job`: what it raises, and the job that it leaves. -/
def generate (job : ReportJob) : Except GenerationError Unit × Option ReportJob :=
  if job.status = .pending ∨ job.status = .failed then
    match (job.asProcessing call.claim.now).validated call.claim.tables with
    | .error e => (.error (.request e), some job)
    | .ok copy =>
        match call.finish (call.meanwhile copy) with
        | .ok row => (.ok (), row.or (call.meanwhile copy))
        | .error message => call.recover message ((call.meanwhile copy).bind call.afterwards)
  else (.ok (), some job)

end GenerationCall

/-- The call does not raise, and leaves the job with a terminal status. -/
def EndsTerminal (result : Except GenerationError Unit × Option ReportJob) : Prop :=
  result.1.isOk = true ∧ ∀ row ∈ result.2, row.status ∈
    [ReportJobStatus.completed, ReportJobStatus.failed, ReportJobStatus.cancelled]

namespace ReportJob

variable {job row : ReportJob} {tables : ReportTables}

/-! ### What the validation accepts -/

/-- What the job refers to is there, and belongs to its organization. -/
structure RefsFit (job : ReportJob) (tables : ReportTables) : Prop where
  exist : job.keysExist tables.directory.hierarchy tables.templates tables.directory.users = true
  parameters : job.parameters.isDict = true
  dataCenter : tables.directory.hierarchy.dataCenterElsewhere job.dataCenter
    (some job.organization) = false
  template : job.templateElsewhere tables.templates = false

/-- A terminal status can be saved under the lock. -/
def CanEnd (job : ReportJob) (lock : GenerationLock) : Prop :=
  job.RefsFit lock.tables ∧ ∃ started ∈ job.startedAt, started ≤ lock.now

theorem statusErrors_eq_nil_iff {errors : FieldErrors} :
    job.statusErrors errors = [] ↔ errors = [] ∧ job.TimesFit := by
  constructor
  · intro h
    have herrors := statusErrors_eq_nil h
    rw [herrors] at h
    exact ⟨herrors, h⟩
  · rintro ⟨rfl, hfit⟩
    exact hfit

theorem isOk_validated_iff : (job.validated tables).isOk = true ↔
    job.RefsFit tables ∧ job.TimesFit ∧ job.runsBackwards = false := by
  have herrors : job.cleanErrors tables.directory.hierarchy tables.templates false = [] ↔
      job.parameters.isDict = true ∧ tables.directory.hierarchy.dataCenterElsewhere
        job.dataCenter (some job.organization) = false ∧
        job.templateElsewhere tables.templates = false ∧
        job.TimesFit ∧ job.runsBackwards = false := by
    unfold cleanErrors
    simp only [statusErrors_eq_nil_iff, FieldErrors.check_eq_nil_iff]
    simp
    tauto
  unfold validated fullClean
  split
  · rename_i hkeys
    dsimp only
    split
    · rename_i hnone
      obtain ⟨hparameters, hcenter, htemplate, htimes⟩ := herrors.mp hnone
      exact iff_of_true rfl ⟨⟨hkeys, hparameters, hcenter, htemplate⟩, htimes⟩
    · rename_i hsome
      refine iff_of_false (fun h => by cases h) fun ⟨hrefs, htimes⟩ => hsome (herrors.mpr ?_)
      exact ⟨hrefs.parameters, hrefs.dataCenter, hrefs.template, htimes⟩
  · rename_i hkeys
    exact iff_of_false (fun h => by cases h) fun h => hkeys h.1.exist

/-- A job can be claimed as long as it has no completion time. -/
theorem isOk_validated_asProcessing_iff {now : ℤ} :
    ((job.asProcessing now).validated tables).isOk = true ↔
      job.completedAt = none ∧ job.RefsFit tables := by
  rw [isOk_validated_iff, timesFit_iff]
  have hrefs : (job.asProcessing now).RefsFit tables ↔ job.RefsFit tables :=
    ⟨fun h => ⟨h.exist, h.parameters, h.dataCenter, h.template⟩,
      fun h => ⟨h.exist, h.parameters, h.dataCenter, h.template⟩⟩
  rw [hrefs]
  have hstarted : (job.asProcessing now).startedAt ≠ none := by
    simp [asProcessing]
  constructor
  · rintro ⟨hrefs, ⟨-, hcompleted⟩, -⟩
    exact ⟨hcompleted, hrefs⟩
  · rintro ⟨hcompleted, hrefs⟩
    refine ⟨hrefs, ⟨hstarted, hcompleted⟩, ?_⟩
    unfold runsBackwards
    rw [show (job.asProcessing now).completedAt = none from hcompleted]
    split <;> simp_all

/-- The times of a job that ends. -/
theorem times_of_ended {now : ℤ} (hcompleted : job.completedAt = some now)
    (hstatus : job.status = .completed ∨ job.status = .failed) :
    job.TimesFit ∧ job.runsBackwards = false ↔ ∃ started ∈ job.startedAt, started ≤ now := by
  have hfit : job.TimesFit ↔ job.startedAt ≠ none := by
    rw [timesFit_iff, hcompleted]
    rcases hstatus with h | h <;> rw [h] <;> simp
  rw [hfit, runsBackwards, hcompleted]
  cases job.startedAt with
  | none => simp
  | some started => simp

theorem isOk_validated_asCompleted_iff {name : String} {lock : GenerationLock} :
    ((job.asCompleted name lock.now).validated lock.tables).isOk = true ↔ job.CanEnd lock := by
  rw [isOk_validated_iff, times_of_ended rfl (.inl rfl)]
  exact and_congr_left fun _ => ⟨fun h => ⟨h.exist, h.parameters, h.dataCenter, h.template⟩,
    fun h => ⟨h.exist, h.parameters, h.dataCenter, h.template⟩⟩

theorem isOk_validated_asFailed_iff {message : String} {lock : GenerationLock} :
    ((job.asFailed message lock.now).validated lock.tables).isOk = true ↔ job.CanEnd lock := by
  rw [isOk_validated_iff, times_of_ended rfl (.inr rfl)]
  exact and_congr_left fun _ => ⟨fun h => ⟨h.exist, h.parameters, h.dataCenter, h.template⟩,
    fun h => ⟨h.exist, h.parameters, h.dataCenter, h.template⟩⟩

end ReportJob

namespace GenerationCall

variable (call : GenerationCall) (stored : Option ReportJob)

/-- The report is built, and the job is cancelled by then, or the file and a terminal status are
saved. -/
def Completes : Prop :=
  call.build.isOk = true ∧ ∃ row ∈ stored,
    row.status = .cancelled ∨ call.saved.isOk = true ∧ row.CanEnd call.completion

/-- Behind an exception of the `try` block, the job is deleted, or the status and the message are
saved. -/
def Recovers : Prop :=
  ∀ row ∈ stored.bind call.afterwards, row.CanEnd call.failure ∧
    ∀ message, call.finish stored = .error message → call.storable message = true

variable {call stored} {job : ReportJob}

/-- What the `try` block does with the row that it finds. -/
theorem complete_cases {row : ReportJob} (hbuild : call.build = .ok ()) :
    (∃ result, call.finish (some row) = .ok result ∧ call.Completes (some row) ∧
        ∀ left ∈ result.or (some row), left.status = .completed ∨ left.status = .cancelled) ∨
      (∃ message, call.finish (some row) = .error message ∧ ¬call.Completes (some row)) := by
  have hfinish : call.finish (some row) =
      row.complete call.completion.tables call.saved call.completion.now call.text := by
    rw [finish, hbuild]
  have hcompletes : call.Completes (some row) ↔
      row.status = .cancelled ∨ call.saved.isOk = true ∧ row.CanEnd call.completion := by
    simp [Completes, hbuild, Except.isOk, Except.toBool]
  rw [hfinish, hcompletes]
  by_cases hcancelled : row.status = .cancelled
  · refine .inl ⟨none, by simp only [ReportJob.complete, if_pos hcancelled], .inl hcancelled, ?_⟩
    rintro left hleft
    obtain rfl := Option.some.inj hleft
    exact .inr hcancelled
  simp only [ReportJob.complete, if_neg hcancelled]
  cases hsaved : call.saved with
  | error message =>
      refine .inr ⟨message, rfl, ?_⟩
      rintro (h | ⟨h, -⟩)
      · exact hcancelled h
      · cases h
  | ok name =>
      have hend := @ReportJob.isOk_validated_asCompleted_iff row name call.completion
      dsimp only
      cases hvalidated : (row.asCompleted name call.completion.now).validated
          call.completion.tables with
      | ok saved =>
          rw [hvalidated] at hend
          obtain ⟨rfl, -⟩ := ReportJob.validated_ok hvalidated
          refine .inl ⟨_, rfl, .inr ⟨rfl, hend.mp rfl⟩, ?_⟩
          rintro left hleft
          obtain rfl := Option.some.inj hleft
          exact .inl rfl
      | error e =>
          rw [hvalidated] at hend
          refine .inr ⟨_, rfl, ?_⟩
          rintro (h | ⟨-, h⟩)
          · exact hcancelled h
          · cases hend.mpr h

/-- What the `try` block does. -/
theorem finish_cases :
    (∃ result, call.finish stored = .ok result ∧ call.Completes stored ∧
        ∀ left ∈ result.or stored, left.status = .completed ∨ left.status = .cancelled) ∨
      (∃ message, call.finish stored = .error message ∧ ¬call.Completes stored) := by
  cases hbuild : call.build with
  | error message =>
      refine .inr ⟨message, by simp only [finish, hbuild], fun h => ?_⟩
      rw [Completes, hbuild] at h
      cases h.1
  | ok built =>
      cases stored with
      | none =>
          refine .inr ⟨call.text, by simp only [finish, hbuild], ?_⟩
          rintro ⟨-, row, hrow, -⟩
          cases hrow
      | some row => exact complete_cases hbuild

/-- What the `except` block does. -/
theorem endsTerminal_recover_iff {message : String} {row : Option ReportJob} :
    EndsTerminal (call.recover message row) ↔
      ∀ left ∈ row, left.CanEnd call.failure ∧ call.storable message = true := by
  cases row with
  | none => exact iff_of_true ⟨rfl, fun _ h => by cases h⟩ fun _ h => by cases h
  | some row =>
      have hend := @ReportJob.isOk_validated_asFailed_iff row message call.failure
      simp only [recover, Option.mem_some_iff, forall_eq']
      cases hvalidated : (row.asFailed message call.failure.now).validated
          call.failure.tables with
      | error e =>
          rw [hvalidated] at hend
          refine iff_of_false (fun h => by cases h.1) fun h => ?_
          cases hend.mpr h.1
      | ok failed =>
          rw [hvalidated] at hend
          obtain ⟨rfl, -⟩ := ReportJob.validated_ok hvalidated
          rw [and_iff_right (hend.mp rfl)]
          dsimp only
          split
          · rename_i hstorable
            refine iff_of_true ⟨rfl, fun left hleft => ?_⟩ hstorable
            obtain rfl := Option.some.inj hleft
            simp [ReportJob.asFailed]
          · rename_i hrefused
            exact iff_of_false (fun h => by cases h.1) hrefused

end GenerationCall

/-! ### Two queued generations -/

/-- A call that nobody disturbs, and whose report is built. -/
def quietCall : GenerationCall where
  claim := ⟨bankReports, 1⟩
  build := .ok ()
  completion := ⟨bankReports, 2⟩
  saved := .ok "reports/alert_summary.csv"
  text := ""
  failure := ⟨bankReports, 3⟩
  storable text := Char.ofNat 0 ∉ text.toList

/-- A call whose report cannot be built. -/
def failingCall : GenerationCall :=
  { quietCall with build := .error "No alerts." }

/-- The job after it. -/
def failedJob : ReportJob := (firstBankJob.asProcessing 1).asFailed "No alerts." 3

end DcimBackend
