import DcimBackend.Library.Run
import DcimBackend.Reports.Generation

/-!
# The file of a job

The requests on report jobs and the phases of `generate_report_job`, each an atomic step, on
the table of jobs and the storage of files.  A generator builds its report from the copy that
its claim has left, and what matters of a file is what its content has been built from.

A completed job should have a file that has been built from what the job is about.  Two kinds
of steps break this: an update of a completed job that changes what it is about and keeps the
file, or discards the file and is refused; and a completion, when an update has changed the
job since the claim.  `filesMatch_run_iff` is the exact line.

A request that its permissions refuse is no step.  The storage gives a name that is free.

What a file holds is the `ReportInputs` it was built from, since the builders are functions of the
job and the database; whether two builds of one job differ because the database has changed is not
asked here.  A generator keeps the copy of its claim, and its completion takes a second lock,
under which it looks at the status again but not at what the job is about: this is the gap that
`Mislabels` names.

`Consistent` is the invariant behind the exact line: only completed jobs have files, no two jobs
have the same, and a generator at work has a job of its own, which is being processed.
-/

namespace DcimBackend

open Library

/-- What a report is built from. -/
structure ReportInputs where
  organization : OrganizationId
  dataCenter : Option DataCenterId
  template : Option TemplateId
  parameters : Json

/-- What `_build_report` reads of a job. -/
def ReportJob.inputs (job : ReportJob) : ReportInputs where
  organization := job.organization
  dataCenter := job.dataCenter
  template := job.template
  parameters := job.parameters

/-- The update reaches the row: no field is missing, and the parameters of a job that is
processed stay. -/
def ReportJobAttrs.Passes (attrs : ReportJobAttrs) (method : UpdateMethod) (job : ReportJob) :
    Prop :=
  (method.checkMissing attrs.missing).isOk = true ∧
    ¬(attrs.changesParameters job = true ∧ job.status = .processing)

instance (attrs : ReportJobAttrs) (method : UpdateMethod) (job : ReportJob) :
    Decidable (attrs.Passes method job) :=
  inferInstanceAs (Decidable (_ ∧ _))

/-- A step of a request or of a generator. -/
inductive JobStep
  | create (attrs : ReportJobAttrs) (user : Option User)
  | update (method : UpdateMethod) (id : ℕ) (attrs : ReportJobAttrs)
  | generate (id : ℕ) (user : Option User)
  | retry (id : ℕ) (user : Option User)
  | cancel (id : ℕ) (started completed : ℤ)
  | claim (generator : ℕ) (id : ℕ) (now : ℤ)
  | build (generator : ℕ) (result : Except String Unit)
  | complete (generator : ℕ) (saved : Except String String) (now : ℤ) (text : String)
  | fail (generator : ℕ) (now : ℤ)

/-- The jobs, the files by their names, and the generators. -/
structure ReportStore where
  jobs : Table ReportJob
  files : String → Option ReportInputs := fun _ => none
  generators : ℕ → GeneratorPhase := fun _ => .idle

namespace ReportStore

variable (s : ReportStore)

/-- A generator moves on. -/
def move (generator : ℕ) (phase : GeneratorPhase) : ReportStore :=
  { s with generators := Function.update s.generators generator phase }

/-- A row is saved, and the storage left so. -/
def put (row : ReportJob) (files : String → Option ReportInputs) : ReportStore :=
  { s with jobs := s.jobs.save row, files := files }

/-- The storage without a file. -/
def without (file : Option String) : String → Option ReportInputs :=
  match file with
  | some name => Function.update s.files name none
  | none => s.files

/-- `_ReportJobBaseSerializer.update`.  The file goes first. -/
def updateJob (tables : ReportTables) (method : UpdateMethod) (attrs : ReportJobAttrs)
    (job : ReportJob) : ReportStore :=
  let files :=
    if attrs.Passes method job ∧ attrs.changesParameters job then s.without job.file
    else s.files
  match attrs.updated tables.directory tables.templates method job with
  | .ok row => s.put row files
  | .error _ => { s with files := files }

/-- `_enqueue_generation`. -/
def enqueueGeneration (tables : ReportTables) (user : Option User) (job : ReportJob) :
    ReportStore :=
  match (job.asEnqueued user).validated tables with
  | .ok row => s.put row (s.without job.file)
  | .error _ => { s with files := s.without job.file }

/-- `cancel`, of a pending job. -/
def cancelJob (tables : ReportTables) (started completed : ℤ) (job : ReportJob) : ReportStore :=
  match job.cancelOver tables job started completed with
  | some row => s.put row (s.without job.file)
  | none => { s with files := s.without job.file }

/-- The second lock of `generate_report_job`, of a report that has been built from a copy. -/
def completeJob (tables : ReportTables) (generator : ℕ) (copy job : ReportJob)
    (saved : Except String String) (now : ℤ) (text : String) : ReportStore :=
  let files :=
    match saved with
    | .ok name => Function.update (s.without job.file) name (some copy.inputs)
    | .error _ => s.without job.file
  match job.complete tables saved now text with
  | .ok (some row) => (s.move generator .idle).put row files
  | .ok none => s.move generator .idle
  | .error message => { (s.move generator (.failing copy.id message)) with files := files }

/-- The name that a job's file is saved under is free, once its old file is deleted. -/
def NameFree (job : ReportJob) (saved : Except String String) : Prop :=
  ∀ name, saved = .ok name → (s.without job.file name).isNone = true

instance (job : ReportJob) : (saved : Except String String) → Decidable (s.NameFree job saved)
  | .ok name => decidable_of_iff ((s.without job.file name).isNone = true)
      ⟨fun h _ heq => Except.ok.inj heq ▸ h, fun h => h name rfl⟩
  | .error _ => .isTrue fun _ heq => by cases heq

variable {s}

/-- A step, with the tables of the moment.  A job or a generator that stands elsewhere is left
alone. -/
def step (s : ReportStore) : ReportTables × JobStep → ReportStore
  | (tables, .create attrs user) =>
      match attrs.created tables.directory tables.templates s.jobs user with
      | .ok row => s.put row s.files
      | .error _ => s
  | (tables, .update method id attrs) =>
      match s.jobs.find id with
      | some job => s.updateJob tables method attrs job
      | none => s
  | (tables, .generate id user) =>
      match s.jobs.find id with
      | some job =>
          if job.status = .pending ∨ job.status = .failed then s.enqueueGeneration tables user job
          else s
      | none => s
  | (tables, .retry id user) =>
      match s.jobs.find id with
      | some job => if job.status = .failed then s.enqueueGeneration tables user job else s
      | none => s
  | (tables, .cancel id started completed) =>
      match s.jobs.find id with
      | some job => if job.status = .pending then s.cancelJob tables started completed job else s
      | none => s
  | (tables, .claim generator id now) =>
      match s.generators generator, (s.jobs.find id).bind fun job =>
          job.claimForGeneration tables now with
      | .idle, some row => (s.put row s.files).move generator (.building row)
      | _, _ => s
  | (_, .build generator result) => s.move generator ((s.generators generator).build result)
  | (tables, .complete generator saved now text) =>
      match s.generators generator with
      | .built copy =>
          match s.jobs.find copy.id with
          | some job =>
              if s.NameFree job saved then s.completeJob tables generator copy job saved now text
              else s
          | none => s.move generator (.failing copy.id text)
      | _ => s
  | (tables, .fail generator now) =>
      match s.generators generator with
      | .failing id message =>
          match (s.jobs.find id).bind fun job => job.fail tables message now with
          | some row => (s.move generator .idle).put row s.files
          | none => s.move generator .idle
      | _ => s

/-! ### Files that match -/

/-- A completed job with a file has one that has been built from what the job is about. -/
def FilesMatch (s : ReportStore) : Prop :=
  ∀ job ∈ s.jobs, job.status = .completed → ∀ name ∈ job.file, s.files name = some job.inputs

/-- The step leaves a completed job with a file that does not match. -/
def Mislabels (s : ReportStore) : ReportTables × JobStep → Prop
  | (tables, .update method id attrs) =>
      ∃ job ∈ s.jobs, job.id = id ∧ job.file ≠ none ∧ attrs.Passes method job ∧
        if attrs.changesParameters job = true then
          ((attrs.apply (attrs.reset job)).validated tables).isOk = false
        else (attrs.apply job).inputs ≠ job.inputs ∧
          ((attrs.apply job).validated tables).isOk = true
  | (tables, .complete generator saved now _) =>
      ∃ copy, s.generators generator = .built copy ∧ ∃ job ∈ s.jobs, job.id = copy.id ∧
        copy.inputs ≠ job.inputs ∧ ∃ name, saved = .ok name ∧ s.files name = none ∧
          ((job.asCompleted name now).validated tables).isOk = true
  | _ => False

/-- Only completed jobs have files, no two have the same, and each generator has a job of its
own, which is processed. -/
structure Consistent (s : ReportStore) : Prop where
  finished : ∀ job ∈ s.jobs, job.file ≠ none → job.status = .completed
  distinct : ∀ a ∈ s.jobs, ∀ b ∈ s.jobs, ∀ name, a.file = some name → b.file = some name → a = b
  processing : ∀ generator, ∀ id ∈ (s.generators generator).job,
    ∃ job ∈ s.jobs, job.id = id ∧ job.status = .processing
  alone : ∀ a b, ∀ id ∈ (s.generators a).job, id ∈ (s.generators b).job → a = b

/-! ### Writes -/

section Writes

variable {job row : ReportJob} {files : String → Option ReportInputs} {generator : ℕ}
  {phase : GeneratorPhase}

/-- What is saved touches no file of another job. -/
structure Leaves (s : ReportStore) (row : ReportJob) (files : String → Option ReportInputs) :
    Prop where
  finished : row.file ≠ none → row.status = .completed
  fresh : ∀ name ∈ row.file, ∀ other ∈ s.jobs, other.id ≠ row.id → other.file ≠ some name
  kept : ∀ other ∈ s.jobs, other.id ≠ row.id → ∀ name ∈ other.file, files name = s.files name

theorem Consistent.put (h : s.Consistent) (hleaves : s.Leaves row files)
    (hbusy : ∀ generator, row.id ∈ (s.generators generator).job → row.status = .processing) :
    (s.put row files).Consistent where
  finished := by
    intro job hjob hfile
    rcases Table.mem_save.mp hjob with rfl | ⟨hold, -⟩
    · exact hleaves.finished hfile
    · exact h.finished job hold hfile
  distinct := by
    intro a ha b hb name hafile hbfile
    rcases Table.mem_save.mp ha with rfl | ⟨haOld, haNe⟩
    · rcases Table.mem_save.mp hb with rfl | ⟨hbOld, hbNe⟩
      · rfl
      · exact absurd hbfile (hleaves.fresh name hafile b hbOld hbNe)
    · rcases Table.mem_save.mp hb with rfl | ⟨hbOld, hbNe⟩
      · exact absurd hafile (hleaves.fresh name hbfile a haOld haNe)
      · exact h.distinct a haOld b hbOld name hafile hbfile
  processing := by
    intro generator id hid
    by_cases hrow : id = row.id
    · rw [hrow] at hid ⊢
      exact ⟨row, Table.mem_save.mpr (Or.inl rfl), rfl, hbusy generator hid⟩
    · obtain ⟨job, hjob, rfl, hstatus⟩ := h.processing generator id hid
      exact ⟨job, Table.mem_save.mpr (Or.inr ⟨hjob, hrow⟩), rfl, hstatus⟩
  alone := h.alone

theorem filesMatch_put (hmatch : s.FilesMatch) (hleaves : s.Leaves row files) :
    (s.put row files).FilesMatch ↔ ∀ name ∈ row.file, files name = some row.inputs := by
  constructor
  · intro hafter name hname
    have hstatus := hleaves.finished fun hnone => by rw [hnone] at hname; cases hname
    exact hafter row (Table.mem_save.mpr (Or.inl rfl)) hstatus name hname
  · intro hrow job hjob hstatus name hname
    rcases Table.mem_save.mp hjob with rfl | ⟨hold, hne⟩
    · exact hrow name hname
    · exact (hleaves.kept job hold hne name hname).trans (hmatch job hold hstatus name hname)

/-- A file that goes is that of one job. -/
theorem Consistent.without_eq (h : s.Consistent) (hjob : job ∈ s.jobs) {other : ReportJob}
    (hother : other ∈ s.jobs) (hne : other.id ≠ job.id) {name : String}
    (hname : name ∈ other.file) : s.without job.file name = s.files name := by
  cases hfile : job.file with
  | none => rfl
  | some file =>
      refine Function.update_of_ne (fun heq => hne ?_) _ _
      rw [heq] at hname
      rw [h.distinct other hother job hjob file hname hfile]

/-- A generator moves on within its job, or ends. -/
theorem Consistent.move (h : s.Consistent)
    (hphase : ∀ id ∈ phase.job, id ∈ (s.generators generator).job) :
    (s.move generator phase).Consistent := by
  have hold : ∀ other, ∀ id ∈ (Function.update s.generators generator phase other).job,
      id ∈ (s.generators other).job := by
    intro other id hid
    by_cases hother : other = generator
    · rw [hother, Function.update_self] at hid
      rw [hother]
      exact hphase id hid
    · rwa [Function.update_of_ne hother] at hid
  exact ⟨h.finished, h.distinct, fun other id hid => h.processing other id (hold other id hid),
    fun a b id ha hb => h.alone a b id (hold a id ha) (hold b id hb)⟩

/-- A row that takes the place of a job, keeps what the job is about or has no file, and
nothing is discarded but the file of the job. -/
theorem Consistent.leaves_without (h : s.Consistent) (hjob : job ∈ s.jobs) (hid : row.id = job.id)
    (hfile : row.file = none) : s.Leaves row (s.without job.file) where
  finished hne := absurd hfile hne
  fresh name hname := by
    rw [hfile] at hname
    cases hname
  kept other hother hne name hname :=
    h.without_eq hjob hother (fun heq => hne (heq.trans hid.symm)) hname

/-- So does one that keeps the file. -/
theorem Consistent.leaves_files (h : s.Consistent) (hjob : job ∈ s.jobs) (hid : row.id = job.id)
    (hfile : row.file = job.file) (hstatus : row.status = job.status) :
    s.Leaves row s.files where
  finished hne := hstatus.trans (h.finished job hjob (hfile ▸ hne))
  fresh name hname other hother hne hother_file := by
    rw [hfile] at hname
    refine hne ((congrArg ReportJob.id ?_).trans hid.symm)
    exact h.distinct other hother job hjob name hother_file hname
  kept _ _ _ _ _ := rfl

/-- A file that is discarded while its job keeps the name. -/
theorem filesMatch_without (h : s.Consistent) (hmatch : s.FilesMatch) (hjob : job ∈ s.jobs) :
    FilesMatch { s with files := s.without job.file } ↔ job.file = none := by
  constructor
  · intro hafter
    by_contra hne
    obtain ⟨name, hname⟩ := Option.ne_none_iff_exists'.mp hne
    have hfile := hafter job hjob (h.finished job hjob hne) name hname
    dsimp only at hfile
    rw [hname, without, Function.update_self] at hfile
    cases hfile
  · intro hnone
    rw [hnone]
    exact hmatch

/-- A generator claims a job that no other has. -/
theorem Consistent.claim (h : s.Consistent) (hjob : job ∈ s.jobs)
    (hstatus : job.status = .processing) (hfree : ∀ other, job.id ∉ (s.generators other).job) :
    (s.move generator (.building job)).Consistent := by
  have hcases : ∀ other, ∀ id ∈ (Function.update s.generators generator (.building job) other).job,
      (other = generator ∧ id = job.id) ∨ (other ≠ generator ∧ id ∈ (s.generators other).job) := by
    intro other id hid
    by_cases hother : other = generator
    · rw [hother, Function.update_self] at hid
      exact Or.inl ⟨hother, (Option.some.inj hid).symm⟩
    · rw [Function.update_of_ne hother] at hid
      exact Or.inr ⟨hother, hid⟩
  refine ⟨h.finished, h.distinct, fun other id hid => ?_, fun a b id ha hb => ?_⟩
  · rcases hcases other id hid with ⟨-, rfl⟩ | ⟨-, hold⟩
    · exact ⟨job, hjob, rfl, hstatus⟩
    · exact h.processing other id hold
  · rcases hcases a id ha with ⟨rfl, rfl⟩ | ⟨-, haOld⟩
    · rcases hcases b job.id hb with ⟨rfl, -⟩ | ⟨-, hbOld⟩
      · rfl
      · exact absurd hbOld (hfree b)
    · rcases hcases b id hb with ⟨rfl, rfl⟩ | ⟨-, hbOld⟩
      · exact absurd haOld (hfree a)
      · exact h.alone a b id haOld hbOld

end Writes

/-! ### Steps of the requests -/

section Requests

variable {tables : ReportTables}

/-- What a row in the table is for one with its id. -/
theorem Consistent.status_of_busy (h : s.Consistent) {job : ReportJob} (hjob : job ∈ s.jobs)
    {generator : ℕ} (hbusy : job.id ∈ (s.generators generator).job) :
    job.status = .processing := by
  obtain ⟨other, hother, hid, hstatus⟩ := h.processing generator job.id hbusy
  rwa [s.jobs.eq_of_pk_eq hother hjob hid] at hstatus

theorem step_create (h : s.Consistent) (hmatch : s.FilesMatch) (attrs : ReportJobAttrs)
    (user : Option User) : (s.step (tables, .create attrs user)).Consistent ∧
      (s.step (tables, .create attrs user)).FilesMatch := by
  simp only [step]
  split
  · rename_i row hcreated
    obtain ⟨hid, hfile, -⟩ := ReportJobAttrs.created_row hcreated
    have hleaves : s.Leaves row s.files :=
      ⟨fun hne => absurd hfile hne, by simp [hfile], fun _ _ _ _ _ => rfl⟩
    refine ⟨h.put hleaves fun generator hbusy => ?_,
      (filesMatch_put hmatch hleaves).mpr (by simp [hfile])⟩
    obtain ⟨other, hother, hother_id, -⟩ := h.processing generator row.id hbusy
    have hlt := s.jobs.pk_lt_nextPk other hother
    rw [hid] at hother_id
    exact absurd hother_id hlt.ne
  · exact ⟨h, hmatch⟩

theorem updated_ok_iff {attrs : ReportJobAttrs} {method : UpdateMethod} {job row : ReportJob} :
    attrs.updated tables.directory tables.templates method job = .ok row ↔
      attrs.Passes method job ∧ (attrs.apply (attrs.reset job)).validated tables = .ok row := by
  constructor
  · intro h
    obtain ⟨_, hmissing, h⟩ := bind_eq_ok_iff.mp h
    obtain ⟨_, hstays, hclean⟩ := bind_eq_ok_iff.mp h
    exact ⟨⟨by rw [hmissing]; rfl, refuseIf_eq_ok_iff.mp hstays⟩, hclean⟩
  · rintro ⟨⟨hmissing, hstays⟩, hclean⟩
    cases hcheck : method.checkMissing attrs.missing with
    | error e =>
        rw [hcheck] at hmissing
        cases hmissing
    | ok u =>
        refine bind_eq_ok_iff.mpr ⟨u, hcheck, bind_eq_ok_iff.mpr ⟨⟨⟩, ?_, hclean⟩⟩
        exact refuseIf_eq_ok_iff.mpr hstays

/-- Changed parameters take back the file. -/
theorem reset_of_changes {attrs : ReportJobAttrs} {job : ReportJob}
    (hchanges : attrs.changesParameters job = true) :
    (attrs.reset job).file = none ∧ (attrs.reset job).id = job.id := by
  unfold ReportJobAttrs.reset
  rw [if_pos hchanges]
  split
  · exact ⟨rfl, rfl⟩
  · exact ⟨rfl, rfl⟩
  · exact ⟨rfl, rfl⟩
  · exact ⟨rfl, rfl⟩
  · exact ⟨rfl, rfl⟩

theorem reset_of_not_changes {attrs : ReportJobAttrs} {job : ReportJob}
    (hchanges : ¬attrs.changesParameters job = true) : attrs.reset job = job :=
  if_neg hchanges

/-- An update that changes the parameters breaks what is to hold exactly if it is refused and
there was a file. -/
theorem updateJob_of_changes (h : s.Consistent) (hmatch : s.FilesMatch) {job : ReportJob}
    (hjob : job ∈ s.jobs) {attrs : ReportJobAttrs} {method : UpdateMethod}
    (hpasses : attrs.Passes method job) (hchanges : attrs.changesParameters job = true) :
    (s.updateJob tables method attrs job).Consistent ∧
      ((s.updateJob tables method attrs job).FilesMatch ↔ ¬(job.file ≠ none ∧
        ((attrs.apply (attrs.reset job)).validated tables).isOk = false)) := by
  rw [updateJob, if_pos ⟨hpasses, hchanges⟩]
  obtain ⟨hfile, hid⟩ := reset_of_changes hchanges
  cases hvalidated : (attrs.apply (attrs.reset job)).validated tables with
  | ok row =>
      rw [updated_ok_iff.mpr ⟨hpasses, hvalidated⟩]
      obtain ⟨rfl, -⟩ := ReportJob.validated_ok hvalidated
      have hleaves : s.Leaves (attrs.apply (attrs.reset job)) (s.without job.file) :=
        h.leaves_without hjob hid hfile
      refine ⟨h.put hleaves fun generator hbusy => ?_,
        iff_of_true ((filesMatch_put hmatch hleaves).mpr fun name hname => ?_) ?_⟩
      · have hprocessing := h.status_of_busy hjob (hid ▸ hbusy)
        exact absurd ⟨hchanges, hprocessing⟩ hpasses.2
      · rw [show (attrs.apply (attrs.reset job)).file = none from hfile] at hname
        cases hname
      · rintro ⟨-, hrefused⟩
        cases hrefused
  | error e =>
      have hrefused : ∀ row,
          attrs.updated tables.directory tables.templates method job ≠ .ok row := by
        intro row hrow
        rw [(updated_ok_iff.mp hrow).2] at hvalidated
        cases hvalidated
      split
      · rename_i row hrow
        exact absurd hrow (hrefused row)
      · refine ⟨⟨h.finished, h.distinct, h.processing, h.alone⟩,
          (filesMatch_without h hmatch hjob).trans ?_⟩
        constructor
        · rintro hnone ⟨hne, -⟩
          exact hne hnone
        · intro hnot
          by_contra hne
          exact hnot ⟨hne, rfl⟩

/-- One that does not, exactly if it changes what a job with a file is about. -/
theorem updateJob_of_not_changes (h : s.Consistent) (hmatch : s.FilesMatch) {job : ReportJob}
    (hjob : job ∈ s.jobs) {attrs : ReportJobAttrs} {method : UpdateMethod}
    (hpasses : attrs.Passes method job) (hchanges : ¬attrs.changesParameters job = true) :
    (s.updateJob tables method attrs job).Consistent ∧
      ((s.updateJob tables method attrs job).FilesMatch ↔ ¬(job.file ≠ none ∧
        (attrs.apply job).inputs ≠ job.inputs ∧
          ((attrs.apply job).validated tables).isOk = true)) := by
  rw [updateJob, if_neg fun hboth => hchanges hboth.2]
  have hreset := reset_of_not_changes hchanges
  cases hvalidated : (attrs.apply job).validated tables with
  | ok row =>
      rw [updated_ok_iff.mpr ⟨hpasses, hreset.symm ▸ hvalidated⟩]
      obtain ⟨rfl, -⟩ := ReportJob.validated_ok hvalidated
      have hleaves : s.Leaves (attrs.apply job) s.files := h.leaves_files hjob rfl rfl rfl
      have hbusy : ∀ generator, job.id ∈ (s.generators generator).job →
          job.status = .processing := fun generator => h.status_of_busy hjob
      refine ⟨h.put hleaves hbusy, (filesMatch_put hmatch hleaves).trans ⟨?_, ?_⟩⟩
      · rintro hafter ⟨hne, hinputs, -⟩
        obtain ⟨name, hname⟩ := Option.ne_none_iff_exists'.mp hne
        have hbefore := hmatch job hjob (h.finished job hjob hne) name hname
        exact hinputs (Option.some.inj ((hafter name hname).symm.trans hbefore))
      · intro hnot name hname
        have hne : job.file ≠ none := fun hnone => by
          rw [show (attrs.apply job).file = none from hnone] at hname
          cases hname
        have hinputs : (attrs.apply job).inputs = job.inputs := by
          by_contra hinputs
          exact hnot ⟨hne, hinputs, rfl⟩
        rw [hinputs]
        exact hmatch job hjob (h.finished job hjob hne) name hname
  | error e =>
      split
      · rename_i row hrow
        obtain ⟨-, hclean⟩ := updated_ok_iff.mp hrow
        rw [hreset, hvalidated] at hclean
        cases hclean
      · refine ⟨h, iff_of_true hmatch ?_⟩
        rintro ⟨-, -, haccepted⟩
        cases haccepted

theorem step_update (h : s.Consistent) (hmatch : s.FilesMatch) (method : UpdateMethod) (id : ℕ)
    (attrs : ReportJobAttrs) : (s.step (tables, .update method id attrs)).Consistent ∧
      ((s.step (tables, .update method id attrs)).FilesMatch ↔
        ¬s.Mislabels (tables, .update method id attrs)) := by
  simp only [step, Mislabels]
  split
  · rename_i job hfind
    obtain ⟨hjob, hid⟩ := Table.find_eq_some_iff.mp hfind
    -- the job of the step is this one
    have hthis : ∀ P : ReportJob → Prop, (∃ other ∈ s.jobs, other.id = id ∧ P other) ↔ P job := by
      intro P
      constructor
      · rintro ⟨other, hother, hother_id, hP⟩
        rwa [s.jobs.eq_of_pk_eq hother hjob (hother_id.trans hid.symm)] at hP
      · intro hP
        exact ⟨job, hjob, hid, hP⟩
    rw [hthis]
    by_cases hpasses : attrs.Passes method job
    · by_cases hchanges : attrs.changesParameters job = true
      · simp only [hpasses, hchanges, if_true, true_and]
        exact updateJob_of_changes h hmatch hjob hpasses hchanges
      · simp only [hpasses, hchanges, true_and]
        exact updateJob_of_not_changes h hmatch hjob hpasses hchanges
    · have hrefused : s.updateJob tables method attrs job = s := by
        rw [updateJob, if_neg fun hboth => hpasses hboth.1]
        split
        · rename_i row hrow
          exact absurd (updated_ok_iff.mp hrow).1 hpasses
        · rfl
      rw [hrefused]
      exact ⟨h, iff_of_true hmatch fun hmislabels => hpasses hmislabels.2.1⟩
  · rename_i hnone
    refine ⟨h, iff_of_true hmatch ?_⟩
    rintro ⟨job, hjob, hid, -⟩
    exact Table.find_eq_none_iff.mp hnone job hjob hid

/-- A row without a file takes the place of a job that no generator works on. -/
theorem put_of_idle (h : s.Consistent) (hmatch : s.FilesMatch) {job row : ReportJob}
    (hjob : job ∈ s.jobs) (hstatus : job.status ≠ .processing) (hid : row.id = job.id)
    (hfile : row.file = none) : (s.put row (s.without job.file)).Consistent ∧
      (s.put row (s.without job.file)).FilesMatch := by
  have hleaves := h.leaves_without hjob hid hfile
  refine ⟨h.put hleaves fun generator hbusy => ?_,
    (filesMatch_put hmatch hleaves).mpr (by simp [hfile])⟩
  exact absurd (h.status_of_busy hjob (hid ▸ hbusy)) hstatus

/-- A job that is not completed has no file that could go. -/
theorem discard_of_unfinished (h : s.Consistent) (hmatch : s.FilesMatch) {job : ReportJob}
    (hjob : job ∈ s.jobs) (hstatus : job.status ≠ .completed) :
    Consistent { s with files := s.without job.file } ∧
      FilesMatch { s with files := s.without job.file } := by
  refine ⟨⟨h.finished, h.distinct, h.processing, h.alone⟩,
    (filesMatch_without h hmatch hjob).mpr ?_⟩
  by_contra hne
  exact hstatus (h.finished job hjob hne)

theorem enqueueGeneration_spec (h : s.Consistent) (hmatch : s.FilesMatch) {job : ReportJob}
    (hjob : job ∈ s.jobs) (hstatus : job.status = .pending ∨ job.status = .failed)
    (user : Option User) : (s.enqueueGeneration tables user job).Consistent ∧
      (s.enqueueGeneration tables user job).FilesMatch := by
  unfold enqueueGeneration
  split
  · rename_i row hvalidated
    obtain ⟨rfl, -⟩ := ReportJob.validated_ok hvalidated
    obtain ⟨hid, hfile⟩ := @ReportJob.asEnqueued_kept job user
    exact put_of_idle h hmatch hjob (by rcases hstatus with hs | hs <;> simp [hs]) hid hfile
  · exact discard_of_unfinished h hmatch hjob (by rcases hstatus with hs | hs <;> simp [hs])

theorem step_generate (h : s.Consistent) (hmatch : s.FilesMatch) (id : ℕ) (user : Option User) :
    (s.step (tables, .generate id user)).Consistent ∧
      (s.step (tables, .generate id user)).FilesMatch := by
  simp only [step]
  split
  · rename_i job hfind
    split
    · rename_i hstatus
      exact enqueueGeneration_spec h hmatch (Table.find_eq_some_iff.mp hfind).1 hstatus user
    · exact ⟨h, hmatch⟩
  · exact ⟨h, hmatch⟩

theorem step_retry (h : s.Consistent) (hmatch : s.FilesMatch) (id : ℕ) (user : Option User) :
    (s.step (tables, .retry id user)).Consistent ∧
      (s.step (tables, .retry id user)).FilesMatch := by
  simp only [step]
  split
  · rename_i job hfind
    split
    · rename_i hfailed
      exact enqueueGeneration_spec h hmatch (Table.find_eq_some_iff.mp hfind).1 (Or.inr hfailed)
        user
    · exact ⟨h, hmatch⟩
  · exact ⟨h, hmatch⟩

theorem step_cancel (h : s.Consistent) (hmatch : s.FilesMatch) (id : ℕ)
    (started completed : ℤ) : (s.step (tables, .cancel id started completed)).Consistent ∧
      (s.step (tables, .cancel id started completed)).FilesMatch := by
  simp only [step]
  split
  · rename_i job hfind
    obtain ⟨hjob, -⟩ := Table.find_eq_some_iff.mp hfind
    split
    · rename_i hpending
      unfold cancelJob
      split
      · rename_i row hrow
        obtain ⟨rfl, -⟩ := ReportJob.cancelOver_some hrow
        exact put_of_idle h hmatch hjob (by simp [hpending]) rfl rfl
      · exact discard_of_unfinished h hmatch hjob (by simp [hpending])
    · exact ⟨h, hmatch⟩
  · exact ⟨h, hmatch⟩

end Requests

/-! ### Steps of the generators -/

section Generators

variable {tables : ReportTables}

theorem step_claim (h : s.Consistent) (hmatch : s.FilesMatch) (generator id : ℕ) (now : ℤ) :
    (s.step (tables, .claim generator id now)).Consistent ∧
      (s.step (tables, .claim generator id now)).FilesMatch := by
  simp only [step]
  split
  · rename_i row hidle hclaim
    obtain ⟨job, hfind, hclaim⟩ := Option.bind_eq_some_iff.mp hclaim
    obtain ⟨hjob, -⟩ := Table.find_eq_some_iff.mp hfind
    obtain ⟨hstatus, rfl, -⟩ := ReportJob.claimForGeneration_some hclaim
    have hunfinished : job.file = none := by
      by_contra hne
      have hcompleted := h.finished job hjob hne
      rcases hstatus with hs | hs <;> rw [hs] at hcompleted <;> cases hcompleted
    have hunclaimed : ∀ other, job.id ∉ (s.generators other).job := by
      intro other hbusy
      have hprocessing := h.status_of_busy hjob hbusy
      rcases hstatus with hs | hs <;> rw [hs] at hprocessing <;> cases hprocessing
    have hput : (s.put (job.asProcessing now) (s.without job.file)).Consistent ∧
        (s.put (job.asProcessing now) (s.without job.file)).FilesMatch :=
      put_of_idle h hmatch hjob (by rcases hstatus with hs | hs <;> simp [hs]) rfl hunfinished
    rw [hunfinished] at hput
    obtain ⟨hconsistent, hfiles⟩ := hput
    exact ⟨hconsistent.claim (Table.mem_save.mpr (Or.inl rfl)) rfl hunclaimed, hfiles⟩
  · exact ⟨h, hmatch⟩

theorem step_build (h : s.Consistent) (hmatch : s.FilesMatch) (generator : ℕ)
    (result : Except String Unit) : (s.step (tables, .build generator result)).Consistent ∧
      (s.step (tables, .build generator result)).FilesMatch :=
  ⟨h.move fun id hid => by rwa [GeneratorPhase.job_build] at hid, hmatch⟩

/-- A generator that has ended leaves its job to nobody. -/
theorem Consistent.notMem_move_idle (h : s.Consistent) {generator id : ℕ}
    (hbusy : id ∈ (s.generators generator).job) (other : ℕ) :
    id ∉ ((s.move generator .idle).generators other).job := by
  intro hother
  have hother : id ∈ (Function.update s.generators generator .idle other).job := hother
  by_cases hsame : other = generator
  · rw [hsame, Function.update_self] at hother
    cases hother
  · rw [Function.update_of_ne hsame] at hother
    exact hsame (h.alone other generator id hother hbusy)

/-- A name that is free is the file of no job. -/
theorem FilesMatch.ne_of_free (hmatch : s.FilesMatch) (h : s.Consistent) {name : String}
    (hname : s.files name = none) : ∀ job ∈ s.jobs, job.file ≠ some name := by
  intro job hjob hfile
  have hcompleted := h.finished job hjob (by rw [hfile]; exact Option.some_ne_none name)
  rw [hmatch job hjob hcompleted name hfile] at hname
  cases hname

/-- What is saved under a free name is seen by no job. -/
theorem filesMatch_save (hmatch : s.FilesMatch) (h : s.Consistent) {name : String}
    (hname : s.files name = none) (inputs : ReportInputs) :
    FilesMatch { s with files := Function.update s.files name (some inputs) } := by
  intro job hjob hstatus file hfile
  refine (Function.update_of_ne (fun heq => ?_) _ _).trans (hmatch job hjob hstatus file hfile)
  exact hmatch.ne_of_free h hname job hjob (heq ▸ hfile)

/-- The row of a completion, under a free name. -/
theorem put_completed (h : s.Consistent) (hmatch : s.FilesMatch) {job : ReportJob}
    (hidle : ∀ generator, job.id ∉ (s.generators generator).job) {name : String}
    (hname : s.files name = none) (inputs : ReportInputs) (now : ℤ) :
    (s.put (job.asCompleted name now)
        (Function.update s.files name (some inputs))).Consistent ∧
      ((s.put (job.asCompleted name now)
        (Function.update s.files name (some inputs))).FilesMatch ↔ inputs = job.inputs) := by
  have hleaves : s.Leaves (job.asCompleted name now)
      (Function.update s.files name (some inputs)) := by
    refine ⟨fun _ => rfl, fun file hfile other hother _ => ?_, fun other hother _ file hfile => ?_⟩
    · obtain rfl := Option.some.inj hfile
      exact hmatch.ne_of_free h hname other hother
    · refine Function.update_of_ne (fun heq => ?_) _ _
      rw [heq] at hfile
      exact hmatch.ne_of_free h hname other hother hfile
  refine ⟨h.put hleaves fun generator hbusy => absurd hbusy (hidle generator),
    (filesMatch_put hmatch hleaves).trans ⟨fun hafter => ?_, fun heq file hfile => ?_⟩⟩
  · have hfile := hafter name rfl
    rw [Function.update_self] at hfile
    exact Option.some.inj hfile
  · obtain rfl := Option.some.inj hfile
    rw [Function.update_self, heq]
    rfl

/-- The job of a generator has no file. -/
theorem Consistent.file_of_busy (h : s.Consistent) {job : ReportJob} (hjob : job ∈ s.jobs)
    {generator : ℕ} (hbusy : job.id ∈ (s.generators generator).job) : job.file = none := by
  have hstatus := h.status_of_busy hjob hbusy
  by_contra hne
  rw [h.finished job hjob hne] at hstatus
  cases hstatus

/-- A completion.  Its job has no file, so nothing is discarded. -/
theorem completeJob_spec (h : s.Consistent) (hmatch : s.FilesMatch) {generator : ℕ}
    {copy job : ReportJob} (hcopy : s.generators generator = .built copy) (hjob : job ∈ s.jobs)
    (hid : job.id = copy.id) {saved : Except String String}
    (hfree : ∀ name, saved = .ok name → s.files name = none) (now : ℤ) (text : String) :
    (s.completeJob tables generator copy job saved now text).Consistent ∧
      ((s.completeJob tables generator copy job saved now text).FilesMatch ↔
        ¬(copy.inputs ≠ job.inputs ∧ ∃ name, saved = .ok name ∧ s.files name = none ∧
          ((job.asCompleted name now).validated tables).isOk = true)) := by
  have hbusy : job.id ∈ (s.generators generator).job := by
    rw [hcopy, hid]
    rfl
  have hstatus := h.status_of_busy hjob hbusy
  have hwithout : s.without job.file = s.files := by
    rw [h.file_of_busy hjob hbusy]
    rfl
  have hidle : (s.move generator .idle).Consistent := h.move fun id hid => by cases hid
  unfold completeJob
  rw [hwithout]
  cases hcomplete : job.complete tables saved now text with
  | ok result =>
      obtain ⟨hcancelled, -⟩ | ⟨-, name, rfl, rfl, haccepted⟩ := ReportJob.complete_ok hcomplete
      · rw [hcancelled] at hstatus
        cases hstatus
      obtain ⟨hconsistent, hiff⟩ := put_completed hidle hmatch (h.notMem_move_idle hbusy)
        (hfree name rfl) copy.inputs now
      refine ⟨hconsistent, hiff.trans ⟨fun heq hnot => hnot.1 heq, fun hnot => ?_⟩⟩
      by_contra hne
      exact hnot ⟨hne, name, rfl, hfree name rfl, by rw [haccepted]; rfl⟩
  | error message =>
      have hrefused : ¬(copy.inputs ≠ job.inputs ∧ ∃ name, saved = .ok name ∧
          s.files name = none ∧ ((job.asCompleted name now).validated tables).isOk = true) := by
        rintro ⟨-, name, hname, -, haccepted⟩
        rw [ReportJob.complete_error hcomplete name hname] at haccepted
        cases haccepted
      have hfailing : (s.move generator (.failing copy.id message)).Consistent := by
        refine h.move fun id hid => ?_
        rw [hcopy]
        exact hid
      refine ⟨⟨hfailing.finished, hfailing.distinct, hfailing.processing, hfailing.alone⟩,
        iff_of_true ?_ hrefused⟩
      cases saved with
      | ok name => exact filesMatch_save hmatch h (hfree name rfl) copy.inputs
      | error => exact hmatch

theorem step_complete (h : s.Consistent) (hmatch : s.FilesMatch) (generator : ℕ)
    (saved : Except String String) (now : ℤ) (text : String) :
    (s.step (tables, .complete generator saved now text)).Consistent ∧
      ((s.step (tables, .complete generator saved now text)).FilesMatch ↔
        ¬s.Mislabels (tables, .complete generator saved now text)) := by
  simp only [step, Mislabels]
  split
  · rename_i copy hcopy
    obtain ⟨job, hjob, hid, -⟩ := h.processing generator copy.id (by rw [hcopy]; rfl)
    have hfind : s.jobs.find copy.id = some job := Table.find_eq_some_iff.mpr ⟨hjob, hid⟩
    rw [hfind]
    have hthis : (∃ built, s.generators generator = .built built ∧
        ∃ other ∈ s.jobs, other.id = built.id ∧ built.inputs ≠ other.inputs ∧
          ∃ name, saved = .ok name ∧ s.files name = none ∧
            ((other.asCompleted name now).validated tables).isOk = true) ↔
        (copy.inputs ≠ job.inputs ∧ ∃ name, saved = .ok name ∧ s.files name = none ∧
          ((job.asCompleted name now).validated tables).isOk = true) := by
      constructor
      · rintro ⟨built, hbuilt, other, hother, hother_id, hmislabels⟩
        obtain rfl : copy = built := GeneratorPhase.built.inj (hcopy.symm.trans hbuilt)
        obtain rfl := s.jobs.eq_of_pk_eq hother hjob (hother_id.trans hid.symm)
        exact hmislabels
      · intro hmislabels
        exact ⟨copy, hcopy, job, hjob, hid, hmislabels⟩
    rw [hthis]
    have hnameFree : s.NameFree job saved ↔ ∀ name, saved = .ok name → s.files name = none := by
      unfold NameFree
      rw [h.file_of_busy hjob (by rw [hcopy, hid]; rfl)]
      simp only [without, Option.isNone_iff_eq_none]
    dsimp only
    split
    · rename_i hfree
      exact completeJob_spec h hmatch hcopy hjob hid (hnameFree.mp hfree) now text
    · rename_i hused
      refine ⟨h, iff_of_true hmatch ?_⟩
      rintro ⟨-, name, rfl, hname, -⟩
      refine hused (hnameFree.mpr fun other hother => ?_)
      obtain rfl := Except.ok.inj hother
      exact hname
  · rename_i hother
    refine ⟨h, iff_of_true hmatch ?_⟩
    rintro ⟨copy, hcopy, -⟩
    exact hother copy hcopy

theorem step_fail (h : s.Consistent) (hmatch : s.FilesMatch) (generator : ℕ) (now : ℤ) :
    (s.step (tables, .fail generator now)).Consistent ∧
      (s.step (tables, .fail generator now)).FilesMatch := by
  simp only [step]
  split
  · rename_i id message hfailing
    have hidle : (s.move generator .idle).Consistent := h.move fun id hid => by cases hid
    split
    · rename_i row hrow
      obtain ⟨job, hfind, hfail⟩ := Option.bind_eq_some_iff.mp hrow
      obtain ⟨hjob, hid⟩ := Table.find_eq_some_iff.mp hfind
      obtain ⟨rfl, -⟩ := ReportJob.fail_some hfail
      have hbusy : job.id ∈ (s.generators generator).job := by
        rw [hfailing, show job.id = id from hid]
        rfl
      have hnone := h.file_of_busy hjob hbusy
      have hleaves : (s.move generator .idle).Leaves (job.asFailed message now) s.files := by
        have hwithout : (s.move generator .idle).Leaves (job.asFailed message now)
            ((s.move generator .idle).without job.file) := hidle.leaves_without hjob rfl hnone
        rw [hnone] at hwithout
        exact hwithout
      refine ⟨hidle.put hleaves fun other hother =>
        absurd hother (h.notMem_move_idle hbusy other), ?_⟩
      refine (@filesMatch_put (s.move generator .idle) _ _ hmatch hleaves).mpr fun name hname => ?_
      rw [show (job.asFailed message now).file = none from hnone] at hname
      cases hname
    · exact ⟨hidle, hmatch⟩
  · exact ⟨h, hmatch⟩

end Generators

/-! ### Runs -/

/-- **The step lemma.** -/
theorem step_spec (h : s.Consistent) (hmatch : s.FilesMatch) (i : ReportTables × JobStep) :
    (s.step i).Consistent ∧ ((s.step i).FilesMatch ↔ ¬s.Mislabels i) := by
  have hkeeps : ∀ {s' : ReportStore}, s'.Consistent ∧ s'.FilesMatch →
      s'.Consistent ∧ (s'.FilesMatch ↔ ¬False) :=
    fun hs' => ⟨hs'.1, iff_of_true hs'.2 not_false⟩
  obtain ⟨tables, i⟩ := i
  cases i with
  | create attrs user => exact hkeeps (step_create h hmatch attrs user)
  | update method id attrs => exact step_update h hmatch method id attrs
  | generate id user => exact hkeeps (step_generate h hmatch id user)
  | retry id user => exact hkeeps (step_retry h hmatch id user)
  | cancel id started completed => exact hkeeps (step_cancel h hmatch id started completed)
  | claim generator id now => exact hkeeps (step_claim h hmatch generator id now)
  | build generator result =>
      have hbuild : (s.step (tables, .build generator result)).Consistent ∧
          (s.step (tables, .build generator result)).FilesMatch :=
        step_build h hmatch generator result
      exact hkeeps hbuild
  | complete generator saved now text => exact step_complete h hmatch generator saved now text
  | fail generator now => exact hkeeps (step_fail h hmatch generator now)

/-- Before the first request. -/
def start : ReportStore where
  jobs := .empty

theorem start_consistent : start.Consistent where
  finished _ hjob := by cases hjob
  distinct _ ha := by cases ha
  processing _ _ hid := by cases hid
  alone _ _ _ ha := by cases ha

/-- **Files match** along a run exactly if none of its steps mislabels one. -/
theorem filesMatch_run_iff (w : List (ReportTables × JobStep)) :
    (∀ u v, w = u ++ v → (run step start u).FilesMatch) ↔
      Along step (fun before i _ => ¬before.Mislabels i) start w :=
  always_iff_along (fun _ i _ hI hP => (step_spec hI hP i).1)
    (fun _ i _ hI hP => (step_spec hI hP i).2) start_consistent fun _ hjob => by cases hjob

/-- A report of the first bank is generated, and its job handed over to the second. -/
def handedOver : List (ReportTables × JobStep) :=
  [(bankReports, .create
      { organization := some 1
        parameters := some (.object [("report_type", .scalar (.text "alert_summary"))]) }
      (some ⟨1, true⟩)),
    (bankReports, .claim 0 0 1), (bankReports, .build 0 (.ok ⟨⟩)),
    (bankReports, .complete 0 (.ok "reports/first/alert_summary.csv") 2 ""),
    (bankReports, .update .patch 0 { organization := some 2 })]

/-- The file is still that of the first bank. -/
theorem handedOver_mislabels :
    ¬∀ u v, handedOver = u ++ v → (run step start u).FilesMatch := by
  intro h
  have hmatch := h handedOver [] (List.append_nil _).symm
  have horganization : ∀ job ∈ (run step start handedOver).jobs, job.status = .completed →
      ∀ name ∈ job.file, ((run step start handedOver).files name).map
        (fun inputs => inputs.organization) = some job.organization := by
    intro job hjob hstatus name hname
    rw [hmatch job hjob hstatus name hname]
    rfl
  exact absurd horganization (by decide)

end ReportStore

end DcimBackend
