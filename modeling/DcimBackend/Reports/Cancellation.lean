import DcimBackend.Library.Run
import DcimBackend.Reports.Generation

/-!
# Cancelling a job while it is generated

The `cancel` action and `generate_report_job`, on one job.  Any number of requests and of
generators work on it, and between two steps of one any other may run.  A generator looks at
the row under its lock.  A request does not: it loads the row, sees that it is pending, and
saves its copy over whatever is stored by then.

`respects_run_iff` is the exact line.  A run respects cancellation if and only if no request
saves its copy after a generator has claimed the job.  The failure of a generator overwrites
a cancelled job as well, but only one that such a save has cancelled.

The request works on a copy: between its load and its save the generator may claim, complete or
fail the job.  A generator holds the lock for each of its phases and looks at the status again in
each, so its phases are atomic steps, and it gives up on a job that has been cancelled.
-/

namespace DcimBackend

open Library

/-- A request that has found the job pending. -/
structure CancelRequest where
  copy : ReportJob
  /-- A generator has claimed the job since.  No step looks at this. -/
  overtaken : Bool := false

/-- A step of a request or of a generator. -/
inductive CancelStep
  /-- A request loads the job, and goes on if it is pending. -/
  | load (request : ℕ)
  | saveCancel (request : ℕ) (tables : ReportTables) (started completed : ℤ)
  | claim (generator : ℕ) (tables : ReportTables) (now : ℤ)
  | build (generator : ℕ) (result : Except String Unit)
  | complete (generator : ℕ) (tables : ReportTables) (saved : Except String String) (now : ℤ)
      (text : String)
  | fail (generator : ℕ) (tables : ReportTables) (now : ℤ)

/-- The job, with its requests and its generators. -/
structure Cancellation where
  row : ReportJob
  requests : ℕ → Option CancelRequest := fun _ => none
  generators : ℕ → GeneratorPhase := fun _ => .idle

namespace Cancellation

/-- A generator moves on. -/
def move (s : Cancellation) (generator : ℕ) (phase : GeneratorPhase) : Cancellation :=
  { s with generators := Function.update s.generators generator phase }

/-- A step.  A request or a generator that stands elsewhere does nothing. -/
def step (s : Cancellation) : CancelStep → Cancellation
  | .load request =>
      if s.requests request = none ∧ s.row.status = .pending then
        { s with requests := Function.update s.requests request (some { copy := s.row }) }
      else s
  | .saveCancel request tables started completed =>
      match s.requests request with
      | some r =>
          { s with
            row := (r.copy.cancelOver tables s.row started completed).getD s.row
            requests := Function.update s.requests request none }
      | none => s
  | .claim generator tables now =>
      match s.generators generator, s.row.claimForGeneration tables now with
      | .idle, some row =>
          { (s.move generator (.building row)) with
            row := row
            requests := fun request => (s.requests request).map fun r =>
              { r with overtaken := true } }
      | _, _ => s
  | .build generator result => s.move generator ((s.generators generator).build result)
  | .complete generator tables saved now text =>
      match s.generators generator with
      | .built _ =>
          match s.row.complete tables saved now text with
          | .ok row => { (s.move generator .idle) with row := row.getD s.row }
          | .error message => s.move generator (.failing s.row.id message)
      | _ => s
  | .fail generator tables now =>
      match s.generators generator with
      | .failing _ message =>
          { (s.move generator .idle) with row := (s.row.fail tables message now).getD s.row }
      | _ => s

/-! ### Respect -/

/-- A cancel request changes nothing but pending to cancelled, and a generator leaves a
cancelled job cancelled. -/
def Respects (before : Cancellation) (i : CancelStep) (after : Cancellation) : Prop :=
  match i with
  | .load _ | .saveCancel .. =>
      after.row.status ≠ before.row.status →
        before.row.status = .pending ∧ after.row.status = .cancelled
  | .claim .. | .build .. | .complete .. | .fail .. =>
      before.row.status = .cancelled → after.row.status = .cancelled

instance (before : Cancellation) : (i : CancelStep) → (after : Cancellation) →
    Decidable (Respects before i after)
  | .load _, after | .saveCancel .., after =>
      inferInstanceAs (Decidable (after.row.status ≠ before.row.status →
        before.row.status = .pending ∧ after.row.status = .cancelled))
  | .claim .., after | .build .., after | .complete .., after | .fail .., after =>
      inferInstanceAs (Decidable (before.row.status = .cancelled →
        after.row.status = .cancelled))

/-- The step saves the copy of a request, after a generator has claimed the job. -/
def SavesOvertaken (s : Cancellation) : CancelStep → Prop
  | .saveCancel request tables started completed =>
      ∃ r ∈ s.requests request, r.overtaken = true ∧
        ((r.copy.asCancelled started completed).validated tables).isOk = true
  | _ => False

instance (s : Cancellation) : (i : CancelStep) → Decidable (s.SavesOvertaken i)
  | .saveCancel request tables started completed =>
      inferInstanceAs (Decidable (∃ r ∈ s.requests request, r.overtaken = true ∧
        ((r.copy.asCancelled started completed).validated tables).isOk = true))
  | .load _ | .claim .. | .build .. | .complete .. | .fail .. =>
      inferInstanceAs (Decidable False)

/-- Nobody works on the job, and it is as a save has left it. -/
structure Fresh (s : Cancellation) : Prop where
  timesFit : s.row.TimesFit
  requests : ∀ request, s.requests request = none
  generators : ∀ generator, s.generators generator = .idle

/-- The job is processed while a generator works on it, of which there is one at most; and it
is past its claim exactly if the requests that have found it pending are overtaken. -/
structure Consistent (s : Cancellation) : Prop where
  timesFit : s.row.TimesFit
  processing : ∀ generator, s.generators generator ≠ .idle → s.row.status = .processing
  alone : ∀ a b, s.generators a ≠ .idle → s.generators b ≠ .idle → a = b
  overtaken : ∀ request, ∀ r ∈ s.requests request,
    r.overtaken = false ↔ s.row.status = .pending ∨ s.row.status = .cancelled

variable {s : Cancellation}

theorem Fresh.consistent (h : s.Fresh) : s.Consistent where
  timesFit := h.timesFit
  processing generator hbusy := absurd (h.generators generator) hbusy
  alone a _ hbusy := absurd (h.generators a) hbusy
  overtaken request r hr := by
    rw [h.requests request] at hr
    cases hr

/-! ### Steps -/

theorem isOk_validated_iff {job : ReportJob} {tables : ReportTables} :
    (job.validated tables).isOk = true ↔ ∃ row, (job.validated tables).toOption = some row := by
  cases job.validated tables with
  | ok row => exact iff_of_true rfl ⟨row, rfl⟩
  | error e => exact iff_of_false (fun h => by cases h) (fun ⟨_, h⟩ => by cases h)

/-- A step that leaves the requests and the status alone. -/
theorem Consistent.of_eq {s' : Cancellation} (h : s.Consistent) (hrow : s'.row = s.row)
    (hrequests : s'.requests = s.requests)
    (hgenerators : ∀ generator, s'.generators generator ≠ .idle → s.generators generator ≠ .idle) :
    s'.Consistent where
  timesFit := hrow ▸ h.timesFit
  processing generator hbusy := hrow ▸ h.processing generator (hgenerators generator hbusy)
  alone a b ha hb := h.alone a b (hgenerators a ha) (hgenerators b hb)
  overtaken := by
    rw [hrow, hrequests]
    exact h.overtaken

theorem step_load (h : s.Consistent) (request : ℕ) :
    (s.step (.load request)).Consistent ∧ (s.step (.load request)).row = s.row := by
  simp only [step]
  split
  · rename_i hload
    refine ⟨⟨h.timesFit, h.processing, h.alone, fun other r hr => ?_⟩, rfl⟩
    dsimp only at hr
    by_cases hother : other = request
    · rw [hother, Function.update_self] at hr
      obtain rfl := Option.some.inj hr
      exact iff_of_true rfl (Or.inl hload.2)
    · rw [Function.update_of_ne hother] at hr
      exact h.overtaken other r hr
  · exact ⟨h, rfl⟩

/-- A copy is saved exactly if it passes the validation. -/
theorem isOk_validated_iff_cancelOver {copy stored : ReportJob} {tables : ReportTables}
    {started completed : ℤ} :
    ((copy.asCancelled started completed).validated tables).isOk = true ↔
      ∃ row, copy.cancelOver tables stored started completed = some row := by
  rw [isOk_validated_iff, ← Option.isSome_iff_exists, ← Option.isSome_iff_exists,
    ReportJob.cancelOver, Option.isSome_map]

/-- The requests that are left when one has ended. -/
theorem mem_requests_of_forget {request other : ℕ} {r : CancelRequest}
    (hr : r ∈ Function.update s.requests request none other) : r ∈ s.requests other := by
  by_cases hother : other = request
  · rw [hother, Function.update_self] at hr
    cases hr
  · rwa [Function.update_of_ne hother] at hr

/-- Nobody generates a job that is not processed. -/
theorem Consistent.idle_of_ne (h : s.Consistent) (hstatus : s.row.status ≠ .processing)
    (generator : ℕ) : s.generators generator = .idle := by
  by_contra hbusy
  exact hstatus (h.processing generator hbusy)

/-- A request that saves its copy in time finds the job pending, or cancelled by another. -/
theorem step_saveCancel (h : s.Consistent) (request : ℕ) (tables : ReportTables)
    (started completed : ℤ) :
    (Respects s (.saveCancel request tables started completed)
        (s.step (.saveCancel request tables started completed)) ↔
      ¬s.SavesOvertaken (.saveCancel request tables started completed)) ∧
    (¬s.SavesOvertaken (.saveCancel request tables started completed) →
      (s.step (.saveCancel request tables started completed)).Consistent) := by
  simp only [step, Respects, SavesOvertaken]
  cases hrequest : s.requests request with
  | none =>
      exact ⟨iff_of_true (fun hne => absurd rfl hne) (by simp), fun _ => h⟩
  | some r =>
      dsimp only
      cases hsave : r.copy.cancelOver tables s.row started completed with
      | none =>
          -- the save is refused, and the request has ended
          refine ⟨iff_of_true (fun hne => absurd rfl hne) ?_, fun _ => ?_⟩
          · rintro ⟨r', hr', -, hok⟩
            obtain rfl := Option.some.inj hr'
            obtain ⟨row, hrow⟩ := isOk_validated_iff_cancelOver.mp hok
            rw [hsave] at hrow
            cases hrow
          · exact ⟨h.timesFit, h.processing, h.alone,
              fun other r' hr' => h.overtaken other r' (mem_requests_of_forget hr')⟩
      | some row =>
          obtain ⟨rfl, hfit⟩ := ReportJob.cancelOver_some hsave
          have hovertaken : (∃ r' ∈ some r, r'.overtaken = true ∧
              ((r'.copy.asCancelled started completed).validated tables).isOk = true) ↔
              ¬(s.row.status = .pending ∨ s.row.status = .cancelled) := by
            rw [← h.overtaken request r hrequest, Bool.not_eq_false]
            constructor
            · rintro ⟨r', hr', hovertaken, -⟩
              obtain rfl := Option.some.inj hr'
              exact hovertaken
            · intro hovertaken
              exact ⟨r, rfl, hovertaken, isOk_validated_iff_cancelOver.mpr ⟨_, hsave⟩⟩
          rw [hovertaken, not_not]
          have hstatus : ((r.copy.asCancelled started completed).writeCancelled s.row).status =
            .cancelled := rfl
          refine ⟨⟨fun hrespects => ?_, fun hfound hne => ?_⟩, fun hfound => ?_⟩
          · -- a save that changes the status has to find the job pending
            by_cases hcancelled : s.row.status = .cancelled
            · exact Or.inr hcancelled
            · exact Or.inl (hrespects fun heq => hcancelled (heq.symm.trans hstatus)).1
          · refine ⟨hfound.resolve_right fun hcancelled => hne ?_, hstatus⟩
            exact hstatus.trans hcancelled.symm
          · -- nobody generates a job that is pending or cancelled
            have hidle := h.idle_of_ne (by rcases hfound with heq | heq <;> simp [heq])
            refine ⟨hfit, fun generator hbusy => absurd (hidle generator) hbusy,
              fun a _ hbusy => absurd (hidle a) hbusy, fun other r' hr' => ?_⟩
            exact iff_of_true ((h.overtaken other r' (mem_requests_of_forget hr')).mpr hfound)
              (Or.inr hstatus)

theorem step_claim (h : s.Consistent) (generator : ℕ) (tables : ReportTables) (now : ℤ) :
    Respects s (.claim generator tables now) (s.step (.claim generator tables now)) ∧
      (s.step (.claim generator tables now)).Consistent := by
  simp only [step, Respects]
  split
  · rename_i row hidle hclaim
    have hpending := ReportJob.pending_of_claimForGeneration h.timesFit hclaim
    obtain ⟨-, rfl, hfit⟩ := ReportJob.claimForGeneration_some hclaim
    have hothers := h.idle_of_ne (by simp [hpending])
    have halone : ∀ other, Function.update s.generators generator
        (.building (s.row.asProcessing now)) other ≠ .idle → other = generator := by
      intro other hbusy
      by_contra hother
      rw [Function.update_of_ne hother] at hbusy
      exact hbusy (hothers other)
    refine ⟨fun hcancelled => ?_, hfit, fun _ _ => rfl,
      fun a b ha hb => (halone a ha).trans (halone b hb).symm, fun request r hr => ?_⟩
    · rw [hpending] at hcancelled
      cases hcancelled
    · obtain ⟨old, -, rfl⟩ := Option.map_eq_some_iff.mp hr
      refine iff_of_false (by simp) ?_
      rintro (hstatus | hstatus)
      · cases hstatus
      · cases hstatus
  · exact ⟨id, h⟩

/-- A generator that works on the job writes how it has ended. -/
theorem Consistent.end (h : s.Consistent) {generator : ℕ} {row : ReportJob}
    (hbusy : s.generators generator ≠ .idle) (hfit : row.TimesFit)
    (hstatus : row.status ≠ .pending ∧ row.status ≠ .cancelled) :
    Consistent { (s.move generator .idle) with row := row } := by
  have hprocessing := h.processing generator hbusy
  have hidle : ∀ other, Function.update s.generators generator .idle other = .idle := by
    intro other
    by_cases hother : other = generator
    · rw [hother, Function.update_self]
    · rw [Function.update_of_ne hother]
      by_contra hbusy'
      exact hother (h.alone other generator hbusy' hbusy)
  refine ⟨hfit, fun other hbusy' => absurd (hidle other) hbusy',
    fun a _ ha => absurd (hidle a) ha, fun request r hr => ?_⟩
  rw [h.overtaken request r hr, hprocessing]
  refine iff_of_false ?_ fun hnot => hnot.elim hstatus.1 hstatus.2
  rintro (hpending | hcancelled)
  · cases hpending
  · cases hcancelled

/-- A generator moves on from where it works, and writes nothing. -/
theorem Consistent.move (h : s.Consistent) {generator : ℕ} {phase : GeneratorPhase}
    (hphase : phase ≠ .idle → s.generators generator ≠ .idle) :
    (s.move generator phase).Consistent := by
  refine h.of_eq rfl rfl fun other hbusy => ?_
  have hbusy : Function.update s.generators generator phase other ≠ .idle := hbusy
  by_cases hother : other = generator
  · rw [hother, Function.update_self] at hbusy
    rw [hother]
    exact hphase hbusy
  · rwa [Function.update_of_ne hother] at hbusy

theorem step_build (h : s.Consistent) (generator : ℕ) (result : Except String Unit) :
    Respects s (.build generator result) (s.step (.build generator result)) ∧
      (s.step (.build generator result)).Consistent := by
  refine ⟨id, h.move fun hbusy hidle => hbusy ?_⟩
  rw [hidle]
  rfl

theorem step_complete (h : s.Consistent) (generator : ℕ) (tables : ReportTables)
    (saved : Except String String) (now : ℤ) (text : String) :
    Respects s (.complete generator tables saved now text)
        (s.step (.complete generator tables saved now text)) ∧
      (s.step (.complete generator tables saved now text)).Consistent := by
  simp only [step, Respects]
  split
  · rename_i copy hbuilt
    have hbusy : s.generators generator ≠ .idle := by simp [hbuilt]
    have hprocessing := h.processing generator hbusy
    have hlive : s.row.status ≠ .cancelled := by simp [hprocessing]
    split
    · rename_i result hcomplete
      rcases ReportJob.complete_ok hcomplete with ⟨hcancelled, -⟩ | ⟨-, name, -, rfl, haccepted⟩
      · exact absurd hcancelled hlive
      · have hfit := (ReportJob.validated_ok haccepted).2
        refine ⟨fun hcancelled => absurd hcancelled hlive, h.end hbusy hfit ⟨?_, ?_⟩⟩
        · simp [ReportJob.asCompleted]
        · simp [ReportJob.asCompleted]
    · exact ⟨id, h.move fun _ => hbusy⟩
  · exact ⟨id, h⟩

theorem step_fail (h : s.Consistent) (generator : ℕ) (tables : ReportTables) (now : ℤ) :
    Respects s (.fail generator tables now) (s.step (.fail generator tables now)) ∧
      (s.step (.fail generator tables now)).Consistent := by
  simp only [step, Respects]
  split
  · rename_i job message hfailing
    have hbusy : s.generators generator ≠ .idle := by simp [hfailing]
    have hlive : s.row.status ≠ .cancelled := by simp [h.processing generator hbusy]
    refine ⟨fun hcancelled => absurd hcancelled hlive, ?_⟩
    cases hfail : s.row.fail tables message now with
    | none => exact h.move fun hne => absurd rfl hne
    | some row =>
        obtain ⟨rfl, hfit⟩ := ReportJob.fail_some hfail
        refine h.end hbusy hfit ⟨?_, ?_⟩
        · simp [ReportJob.asFailed]
        · simp [ReportJob.asFailed]
  · exact ⟨id, h⟩

/-- **The step lemma.** -/
theorem step_spec (h : s.Consistent) (i : CancelStep) :
    (Respects s i (s.step i) ↔ ¬s.SavesOvertaken i) ∧
      (¬s.SavesOvertaken i → (s.step i).Consistent) := by
  have hgenerator : Respects s i (s.step i) ∧ (s.step i).Consistent →
      (Respects s i (s.step i) ↔ ¬False) ∧ (¬False → (s.step i).Consistent) :=
    fun hstep => ⟨iff_of_true hstep.1 not_false, fun _ => hstep.2⟩
  cases i with
  | load request =>
      obtain ⟨hconsistent, hrow⟩ := step_load h request
      exact hgenerator ⟨fun hne => absurd (congrArg ReportJob.status hrow) hne, hconsistent⟩
  | saveCancel request tables started completed =>
      exact step_saveCancel h request tables started completed
  | claim generator tables now => exact hgenerator (step_claim h generator tables now)
  | build generator result => exact hgenerator (step_build h generator result)
  | complete generator tables saved now text =>
      exact hgenerator (step_complete h generator tables saved now text)
  | fail generator tables now => exact hgenerator (step_fail h generator tables now)

/-- **Cancellation and generation respect each other** in a run exactly if no request saves
its copy after a generator has claimed the job. -/
theorem respects_run_iff (h : s.Fresh) (w : List CancelStep) :
    Along step Respects s w ↔ Along step (fun before i _ => ¬before.SavesOvertaken i) s w := by
  have hiff : ∀ (s : Cancellation) i, s.Consistent →
      (Respects s i (s.step i) ↔ ¬s.SavesOvertaken i) := fun s i hs => (step_spec hs i).1
  have hkeep : ∀ (s : Cancellation) i, s.Consistent → ¬s.SavesOvertaken i →
      (s.step i).Consistent := fun s i hs => (step_spec hs i).2
  constructor
  · exact along_mono (fun s i hs hrespects => hkeep s i hs ((hiff s i hs).mp hrespects))
      (fun s i hs => (hiff s i hs).mp) h.consistent
  · exact along_mono hkeep (fun s i hs => (hiff s i hs).mpr) h.consistent

/-! ### A late cancellation -/

/-- A job that waits for its generator. -/
def waitingJob : Cancellation where
  row := firstBankJob

theorem waitingJob_fresh : waitingJob.Fresh where
  timesFit := by decide
  requests _ := rfl
  generators _ := rfl

/-- A request cancels the job, and a second one saves its copy again, before the generator
looks at the job. -/
def promptCancel : List CancelStep :=
  [.load 0, .load 1, .saveCancel 0 bankReports 1 2, .saveCancel 1 bankReports 3 4,
    .claim 0 bankReports 5]

/-- A request loads the job, a generator claims it, the request saves its copy, and the
report cannot be built. -/
def lateCancel : List CancelStep :=
  [.load 0, .claim 0 bankReports 1, .saveCancel 0 bankReports 2 3,
    .build 0 (.error "No alerts."), .fail 0 bankReports 4]

theorem promptCancel_respects : Along step Respects waitingJob promptCancel :=
  (respects_run_iff waitingJob_fresh promptCancel).mpr (by decide)

/-- The request overwrites a job that is processed, and the generator one that is cancelled. -/
theorem lateCancel_overwrites :
    ¬Along step Respects waitingJob lateCancel ∧
      (run step waitingJob lateCancel).row.status = .failed := by
  decide

end Cancellation

end DcimBackend
