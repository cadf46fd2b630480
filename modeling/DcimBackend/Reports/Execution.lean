import DcimBackend.Library.Run
import DcimBackend.Reports.Schedule

/-!
# Claims and executions of one schedule

`claim_due_report_schedules`, `execute_report_schedule` and the `run_now` action, on one
schedule.  A claim is one transaction.  An execution works on a copy of the row that it
reads when it starts, and saves the copy when the report has been generated and delivered,
or has failed to be, however long that takes; between the two anything may happen.

A claim that does not reach the schedule (another row raises, the limit is exhausted, the
row is locked), and an execution that ends without a save (there is no user to request the
job, the generation raises), change nothing of the row, and are no steps.  Texts that
`isoformat` writes are what `parse_datetime` reads, so a window is a pair of times.

The readings of `timezone.now()` are in UTC, and a window keeps the offset of the reading that it
was made from; the results compare instants only.  An execution keeps a copy of the row from its
start to its end, and its save writes four columns of it over whatever is stored by then.
`SavesLate` is the case in which the stored clocks have gone past those of the copy.
-/

namespace DcimBackend

open Library

/-- `[date_from, date_to]`. -/
abbrev Window := DateTime × DateTime

/-- How a generated report ends. -/
inductive ExecutionOutcome
  | generationFailed (errorMessage : Option String)
  | deliveryFailed (errorMessage : String)
  | delivered
deriving DecidableEq

/-- The assignments before the last save. -/
def ExecutionOutcome.record (outcome : ExecutionOutcome) (copy : ReportSchedule) :
    ReportSchedule :=
  match outcome with
  | .generationFailed errorMessage =>
      let message := errorMessage.getD ""
      { copy with
        lastDeliveryStatus := some "FAILED"
        lastErrorMessage :=
          some (if message = "" then "Scheduled report generation failed." else message) }
  | .deliveryFailed errorMessage =>
      { copy with lastDeliveryStatus := some "FAILED", lastErrorMessage := some errorMessage }
  | .delivered =>
      { copy with lastDeliveryStatus := some "SENT", lastErrorMessage := some "" }

/-- An execution under way: its copy of the row, with the clocks assigned, and the window
of its report. -/
structure Execution where
  copy : ReportSchedule
  window : Window

namespace ReportSchedule

/-- The window of an execution: the one that was claimed, or one up to now. -/
def executionWindow (s : ReportSchedule) (now : DateTime) :
    Option Window → Except ScheduleError Window
  | some window => .ok window
  | none => s.calculateExecutionWindow (.aware now)

/-- The window and the copy of an execution. -/
def execution (s : ReportSchedule) (now : DateTime) (window : Option Window) :
    Except ScheduleError Execution := do
  let window ← s.executionWindow now window
  let next ← s.calculateNextRunAt (.aware window.2)
  return ⟨{ s with lastRunAt := some window.2, nextRunAt := some next }, window⟩

/-- `execute_report_schedule` up to the creation of the job: what the row is left as, and
the execution, if it goes on.  `run_now` gives no window. -/
def startExecution (lower : String → String) (now : DateTime) (s : ReportSchedule)
    (window : Option Window) : ReportSchedule × Option Execution :=
  if s.isActive = false then (s, none)
  else if s.normalizeRecipients lower = [] ∧ ¬(s.sendSms ∧ s.smsRecipients.entries ≠ []) then
    ({ s with
        lastDeliveryStatus := some "FAILED"
        lastErrorMessage := some "Report schedule has no email or SMS recipients configured." },
      none)
  else (s, (s.execution now window).toOption)

/-- The last save of an execution: the row as it is stored then. -/
def saveExecution (h : Hierarchy) (lower : String → String) (now : DateTime)
    (stored : ReportSchedule) (e : Execution) (outcome : ExecutionOutcome) :
    Except ScheduleError ReportSchedule := do
  let copy ← save h lower now stored (outcome.record e.copy)
  return copy.writeRun stored

end ReportSchedule

/-! ### Runs -/

/-- A step of one of the three. -/
inductive ScheduleStep
  | claim (now : DateTime)
  /-- A worker takes up a window that has been claimed. -/
  | execute (worker : ℕ) (window : Window)
  | runNow (worker : ℕ) (now : DateTime)
  | finish (worker : ℕ) (outcome : ExecutionOutcome) (now : DateTime)

/-- The row, the windows that have been claimed and those that have been sent, newest
first, and the executions under way. -/
structure ScheduleRuns where
  row : ReportSchedule
  claims : List Window := []
  sent : List Window := []
  workers : ℕ → Option Execution := fun _ => none

namespace ScheduleRuns

variable (h : Hierarchy) (lower : String → String) (s : ScheduleRuns)

/-- `claim_due_report_schedules`, on this row. -/
def claim (now : DateTime) : ScheduleRuns :=
  if s.row.isDue now then
    match s.row.claim h lower now with
    | .ok (row, window) => { s with row := row, claims := window :: s.claims }
    | .error _ => s
  else s

/-- A worker starts an execution. -/
def start (worker : ℕ) (now : DateTime) (window : Option Window) : ScheduleRuns :=
  if s.workers worker = none then
    let started := s.row.startExecution lower now window
    { s with row := started.1, workers := Function.update s.workers worker started.2 }
  else s

/-- A worker ends its execution. -/
def finish (worker : ℕ) (outcome : ExecutionOutcome) (now : DateTime) : ScheduleRuns :=
  match s.workers worker with
  | none => s
  | some e =>
      let s := { s with workers := Function.update s.workers worker none }
      match s.row.saveExecution h lower now e outcome with
      | .ok row =>
          { s with
            row := row
            sent := if outcome = .delivered then e.window :: s.sent else s.sent }
      | .error _ => s

/-- A step. -/
def step (s : ScheduleRuns) : ScheduleStep → ScheduleRuns
  | .claim now => s.claim h lower now
  | .execute worker window =>
      if window ∈ s.claims then s.start lower worker window.2 (some window) else s
  | .runNow worker now => s.start lower worker now none
  | .finish worker outcome now => s.finish h lower worker outcome now

variable {h lower s}

/-! ### What a step can do -/

/-- An execution that goes with the row: it has its settings, and its clocks are set to the
end of its window and the next run after that. -/
structure Goes (row : ReportSchedule) (e : Execution) : Prop where
  settings : e.copy.settings = row.settings
  lastRunAt : e.copy.lastRunAt = some e.window.2
  nextRunAt : ∃ next, row.calculateNextRunAt (.aware e.window.2) = .ok next ∧
    e.copy.nextRunAt = some next

/-- The next run depends on the settings only. -/
theorem calculateNextRunAt_congr {a b : ReportSchedule} (hsettings : a.settings = b.settings)
    (reference : PyDateTime) : a.calculateNextRunAt reference = b.calculateNextRunAt reference := by
  show a.settings.calculateNextRunAt reference = b.settings.calculateNextRunAt reference
  rw [hsettings]

theorem Goes.congr {row row' : ReportSchedule} {e : Execution} (he : Goes row e)
    (hsettings : row'.settings = row.settings) : Goes row' e where
  settings := he.settings.trans hsettings.symm
  lastRunAt := he.lastRunAt
  nextRunAt := by
    obtain ⟨next, hnext, hcopy⟩ := he.nextRunAt
    exact ⟨next, (calculateNextRunAt_congr hsettings _).trans hnext, hcopy⟩

/-- A claim does nothing, or it writes its time and the next run, of a row that is due. -/
theorem claim_cases (s : ScheduleRuns) (now : DateTime) :
    s.claim h lower now = s ∨
      ∃ next window, s.claim h lower now =
          { s with row := s.row.claimed now next, claims := window :: s.claims } ∧
        s.row.isDue now ∧ now.instant ≤ next.instant ∧
        s.row.calculateExecutionWindow (.aware now) = .ok window := by
  unfold claim
  split
  swap
  · exact Or.inl rfl
  rename_i hdue
  split
  · rename_i row window hclaim
    obtain ⟨next, -, rfl, hle, hwindow⟩ := ReportSchedule.claim_ok hclaim
    exact Or.inr ⟨next, window, rfl, hdue, hle, hwindow⟩
  · exact Or.inl rfl

/-- An execution that starts leaves the clocks and the settings of the row alone. -/
theorem startExecution_spec (row : ReportSchedule) (now : DateTime) (window : Option Window) :
    (row.startExecution lower now window).1.lastRunAt = row.lastRunAt ∧
      (row.startExecution lower now window).1.nextRunAt = row.nextRunAt ∧
      (row.startExecution lower now window).1.settings = row.settings ∧
      ∀ e ∈ (row.startExecution lower now window).2,
        Goes row e ∧ row.executionWindow now window = .ok e.window := by
  unfold ReportSchedule.startExecution
  split
  · exact ⟨rfl, rfl, rfl, by simp⟩
  split
  · exact ⟨rfl, rfl, rfl, by simp⟩
  refine ⟨rfl, rfl, rfl, fun e he => ?_⟩
  have hexecution : row.execution now window = .ok e := toOption_eq_some_iff.mp he
  obtain ⟨window', hwindow, hrest⟩ := bind_eq_ok_iff.mp hexecution
  obtain ⟨next, hnext, hrest⟩ := bind_eq_ok_iff.mp hrest
  obtain rfl := Except.ok.inj hrest
  exact ⟨⟨rfl, rfl, next, hnext, rfl⟩, hwindow⟩

/-- A save that succeeds leaves the execution's clocks on the row, in order. -/
theorem saveExecution_ok {stored row : ReportSchedule} {e : Execution} (he : Goes stored e)
    {outcome : ExecutionOutcome} {now : DateTime}
    (hsave : stored.saveExecution h lower now e outcome = .ok row) :
    row.lastRunAt = e.copy.lastRunAt ∧ row.nextRunAt = e.copy.nextRunAt ∧
      row.settings = stored.settings ∧ row.runsBackwards = false := by
  obtain ⟨copy, hcopy, hrow⟩ := bind_eq_ok_iff.mp hsave
  obtain rfl := Except.ok.inj hrow
  have hsettings : (outcome.record e.copy).settings = stored.settings := by
    rw [← he.settings]
    cases outcome <;> rfl
  have hnext : (outcome.record e.copy).nextRunAt = e.copy.nextRunAt := by cases outcome <;> rfl
  have hlast : (outcome.record e.copy).lastRunAt = e.copy.lastRunAt := by cases outcome <;> rfl
  have hsome : (outcome.record e.copy).nextRunAt ≠ none := by
    obtain ⟨next, -, hcopy⟩ := he.nextRunAt
    rw [hnext, hcopy]
    exact Option.some_ne_none next
  obtain ⟨hbackwards, hwrite⟩ := ReportSchedule.save_ok hcopy hsettings hsome
  rw [hwrite]
  exact ⟨hlast, hnext, rfl, hbackwards⟩

/-- An execution ends without a trace on the row, or its row is stored. -/
theorem finish_cases (s : ScheduleRuns) (worker : ℕ) (outcome : ExecutionOutcome)
    (now : DateTime) :
    (∃ workers, (∀ other, workers other = none ∨ workers other = s.workers other) ∧
        (∀ e ∈ s.workers worker, ∀ row, s.row.saveExecution h lower now e outcome ≠ .ok row) ∧
        s.finish h lower worker outcome now = { s with workers := workers }) ∨
      ∃ e row, s.workers worker = some e ∧
        s.row.saveExecution h lower now e outcome = .ok row ∧
        s.finish h lower worker outcome now =
          { s with
            row := row
            sent := if outcome = .delivered then e.window :: s.sent else s.sent
            workers := Function.update s.workers worker none } := by
  have hidle : ∀ other, Function.update s.workers worker none other = none ∨
      Function.update s.workers worker none other = s.workers other := by
    intro other
    by_cases hother : other = worker
    · subst hother
      exact Or.inl (Function.update_self _ _ _)
    · exact Or.inr (Function.update_of_ne hother _ _)
  unfold finish
  split
  · rename_i hnone
    exact Or.inl ⟨s.workers, fun other => Or.inr rfl, by simp [hnone], rfl⟩
  rename_i e hworker
  dsimp only
  split
  · rename_i row hsave
    exact Or.inr ⟨e, row, hworker, hsave, rfl⟩
  · rename_i error hsave
    refine Or.inl ⟨_, hidle, fun e' he' row hrow => ?_, rfl⟩
    obtain rfl := Option.some.inj (hworker.symm.trans he')
    rw [hsave] at hrow
    cases hrow

/-! ### The invariant -/

/-- The row's clocks are in order, as its validation has it, and the executions under way go
with the row. -/
structure Inv (s : ScheduleRuns) : Prop where
  forward : s.row.runsBackwards = false
  goes : ∀ worker, ∀ e ∈ s.workers worker, Goes s.row e

theorem runsBackwards_congr {a b : ReportSchedule} (hlast : a.lastRunAt = b.lastRunAt)
    (hnext : a.nextRunAt = b.nextRunAt) : a.runsBackwards = b.runsBackwards := by
  unfold ReportSchedule.runsBackwards
  rw [hlast, hnext]

theorem inv_claim (hs : Inv s) (now : DateTime) : Inv (s.claim h lower now) := by
  rcases s.claim_cases now with hsame | ⟨next, window, hclaim, -, hle, -⟩
  · rw [hsame]
    exact hs
  · rw [hclaim]
    refine ⟨?_, fun worker e he => (hs.goes worker e he).congr rfl⟩
    simpa [ReportSchedule.runsBackwards, ReportSchedule.claimed] using hle

theorem inv_start (hs : Inv s) (worker : ℕ) (now : DateTime) (window : Option Window) :
    Inv (s.start lower worker now window) := by
  unfold start
  split
  swap
  · exact hs
  obtain ⟨hlast, hnext, hsettings, hgoes⟩ := startExecution_spec s.row now window
  refine ⟨(runsBackwards_congr hlast hnext).trans hs.forward, fun other e he => ?_⟩
  refine Goes.congr ?_ hsettings
  dsimp only at he
  by_cases hother : other = worker
  · subst hother
    rw [Function.update_self] at he
    exact (hgoes e he).1
  · rw [Function.update_of_ne hother] at he
    exact hs.goes other e he

theorem inv_finish (hs : Inv s) (worker : ℕ) (outcome : ExecutionOutcome) (now : DateTime) :
    Inv (s.finish h lower worker outcome now) := by
  rcases s.finish_cases worker outcome now with ⟨workers, hidle, -, hfinish⟩ |
    ⟨e, row, hworker, hsave, hfinish⟩
  · rw [hfinish]
    refine ⟨hs.forward, fun other e he => ?_⟩
    rcases hidle other with hnone | hsame
    · simp [hnone] at he
    · exact hs.goes other e (hsame ▸ he)
  · rw [hfinish]
    obtain ⟨-, -, hsettings, hforward⟩ := saveExecution_ok (hs.goes worker e hworker) hsave
    refine ⟨hforward, fun other e' he' => ?_⟩
    by_cases hother : other = worker
    · subst hother
      simp at he'
    · simp only [Function.update_of_ne hother] at he'
      exact (hs.goes other e' he').congr hsettings

theorem inv_step (hs : Inv s) (i : ScheduleStep) : Inv (step h lower s i) := by
  cases i with
  | claim now => exact inv_claim hs now
  | execute worker window =>
      simp only [step]
      split
      · exact inv_start hs worker window.2 (some window)
      · exact hs
  | runNow worker now => exact inv_start hs worker now none
  | finish worker outcome now => exact inv_finish hs worker outcome now

/-- A row as it has been saved, before the first claim. -/
theorem inv_ofRow {row : ReportSchedule} (hrow : row.runsBackwards = false) :
    Inv { row := row } :=
  ⟨hrow, by simp⟩

/-! ### The clocks -/

/-- A clock does not go back. -/
def Advances (before after : Option DateTime) : Prop :=
  ∀ a ∈ before, ∃ b ∈ after, a.instant ≤ b.instant

instance (before after : Option DateTime) : Decidable (Advances before after) :=
  inferInstanceAs (Decidable (∀ a ∈ before, ∃ b ∈ after, a.instant ≤ b.instant))

theorem advances_refl (clock : Option DateTime) : Advances clock clock :=
  fun a ha => ⟨a, ha, le_refl _⟩

theorem advances_some {before : Option DateTime} {after : DateTime} :
    Advances before (some after) ↔ ∀ a ∈ before, a.instant ≤ after.instant := by
  simp [Advances]

/-- The stored `last_run_at` and `next_run_at` do not go back. -/
def ClocksAdvance (before after : ScheduleRuns) : Prop :=
  Advances before.row.lastRunAt after.row.lastRunAt ∧
    Advances before.row.nextRunAt after.row.nextRunAt

instance (before after : ScheduleRuns) : Decidable (ClocksAdvance before after) :=
  inferInstanceAs (Decidable (_ ∧ _))

theorem clocksAdvance_of_eq {before after : ScheduleRuns}
    (hlast : after.row.lastRunAt = before.row.lastRunAt)
    (hnext : after.row.nextRunAt = before.row.nextRunAt) : ClocksAdvance before after := by
  unfold ClocksAdvance
  rw [hlast, hnext]
  exact ⟨advances_refl _, advances_refl _⟩

variable (h lower) in
/-- The step saves an execution after the row has gone past it: the last run is after the
end of its window, or the next run after the one that follows this end. -/
def SavesLate (s : ScheduleRuns) : ScheduleStep → Prop
  | .finish worker outcome now =>
      ∃ e row, s.workers worker = some e ∧
        s.row.saveExecution h lower now e outcome = .ok row ∧
        ¬(Advances s.row.lastRunAt (some e.window.2) ∧
          ∀ next, s.row.calculateNextRunAt (.aware e.window.2) = .ok next →
            Advances s.row.nextRunAt (some next))
  | _ => False

/-- A claim moves both clocks on: the row was due, so its last run is not after now. -/
theorem clocksAdvance_claim (hs : Inv s) (now : DateTime) :
    ClocksAdvance s (s.claim h lower now) := by
  rcases s.claim_cases now with hsame | ⟨next, window, hclaim, hdue, hle, -⟩
  · rw [hsame]
    exact clocksAdvance_of_eq rfl rfl
  · rw [hclaim]
    obtain ⟨-, due, hsome, hdue⟩ := s.row.isDue_iff.mp hdue
    constructor
    · refine advances_some.mpr fun last hlast => ?_
      have hforward := hs.forward
      rw [Option.mem_def] at hlast
      simp only [ReportSchedule.runsBackwards, hlast, hsome, decide_eq_false_iff_not,
        not_lt] at hforward
      exact hforward.trans hdue
    · refine advances_some.mpr fun old hold => ?_
      obtain rfl := Option.some.inj (hsome.symm.trans hold)
      exact hdue.trans hle

theorem clocksAdvance_start (s : ScheduleRuns) (worker : ℕ) (now : DateTime)
    (window : Option Window) : ClocksAdvance s (s.start lower worker now window) := by
  unfold start
  split
  · obtain ⟨hlast, hnext, -, -⟩ := startExecution_spec s.row now window
    exact clocksAdvance_of_eq hlast hnext
  · exact clocksAdvance_of_eq rfl rfl

/-- The end of an execution moves the clocks on exactly if it is not saved late. -/
theorem clocksAdvance_finish_iff (hs : Inv s) (worker : ℕ) (outcome : ExecutionOutcome)
    (now : DateTime) :
    ClocksAdvance s (s.finish h lower worker outcome now) ↔
      ¬s.SavesLate h lower (.finish worker outcome now) := by
  rcases s.finish_cases worker outcome now with ⟨workers, -, hrefused, hfinish⟩ |
    ⟨e, row, hworker, hsave, hfinish⟩
  · rw [hfinish]
    refine iff_of_true (clocksAdvance_of_eq rfl rfl) ?_
    rintro ⟨e, row, hworker, hsave, -⟩
    exact hrefused e hworker row hsave
  · have he := hs.goes worker e hworker
    obtain ⟨next, hcalculated, hcopy⟩ := he.nextRunAt
    obtain ⟨hlast, hnext, -, -⟩ := saveExecution_ok he hsave
    have hafter : ClocksAdvance s (s.finish h lower worker outcome now) ↔
        Advances s.row.lastRunAt (some e.window.2) ∧ Advances s.row.nextRunAt (some next) := by
      rw [hfinish]
      unfold ClocksAdvance
      rw [hlast, hnext, he.lastRunAt, hcopy]
    rw [hafter]
    constructor
    · rintro ⟨hlast, hnext⟩ ⟨e', row', hworker', -, hlate⟩
      obtain rfl := Option.some.inj (hworker.symm.trans hworker')
      refine hlate ⟨hlast, fun next' hnext' => ?_⟩
      obtain rfl := Except.ok.inj (hcalculated.symm.trans hnext')
      exact hnext
    · intro hnot
      by_contra hlate
      refine hnot ⟨e, row, hworker, hsave, fun hboth => hlate ⟨hboth.1, ?_⟩⟩
      exact hboth.2 next hcalculated

/-- **The step lemma of the clocks.** -/
theorem clocksAdvance_step_iff (hs : Inv s) (i : ScheduleStep) :
    ClocksAdvance s (step h lower s i) ↔ ¬s.SavesLate h lower i := by
  cases i with
  | claim now => exact iff_of_true (clocksAdvance_claim hs now) not_false
  | execute worker window =>
      refine iff_of_true ?_ not_false
      simp only [step]
      split
      · exact clocksAdvance_start s worker window.2 (some window)
      · exact clocksAdvance_of_eq rfl rfl
  | runNow worker now => exact iff_of_true (clocksAdvance_start s worker now none) not_false
  | finish worker outcome now => exact clocksAdvance_finish_iff hs worker outcome now

/-! ### The claimed windows -/

/-- Two windows have at most an endpoint in common. -/
def Apart (v w : Window) : Prop :=
  v.2.instant ≤ w.1.instant ∨ w.2.instant ≤ v.1.instant

instance (v w : Window) : Decidable (Apart v w) := inferInstanceAs (Decidable (_ ∨ _))

/-- Any two claimed windows are apart, and the last run is not before the end of one. -/
structure ClaimsInOrder (s : ScheduleRuns) : Prop where
  apart : s.claims.Pairwise Apart
  ended : ∀ window ∈ s.claims, ∃ last ∈ s.row.lastRunAt, window.2.instant ≤ last.instant

/-- Without a new claim, it is enough that the clocks move on. -/
theorem ClaimsInOrder.keep {before after : ScheduleRuns} (hbefore : ClaimsInOrder before)
    (hclaims : after.claims = before.claims) (hclocks : ClocksAdvance before after) :
    ClaimsInOrder after where
  apart := hclaims ▸ hbefore.apart
  ended := by
    intro window hwindow
    rw [hclaims] at hwindow
    obtain ⟨last, hlast, hle⟩ := hbefore.ended window hwindow
    obtain ⟨last', hlast', hle'⟩ := hclocks.1 last hlast
    exact ⟨last', hlast', hle.trans hle'⟩

/-- A claimed window ends now, and starts at the last run, if there is one. -/
theorem calculateExecutionWindow_ok {row : ReportSchedule} {now : DateTime} {window : Window}
    (hwindow : row.calculateExecutionWindow (.aware now) = .ok window) :
    window.2 = now ∧ ∀ last ∈ row.lastRunAt, window.1 = last := by
  unfold ReportSchedule.calculateExecutionWindow at hwindow
  split at hwindow
  · rename_i last hlast
    obtain rfl := Except.ok.inj hwindow
    refine ⟨rfl, fun last' hlast' => ?_⟩
    exact Option.some.inj (hlast.symm.trans hlast')
  · rename_i hnone
    obtain ⟨first, -, hwindow⟩ := bind_eq_ok_iff.mp hwindow
    obtain rfl := Except.ok.inj hwindow
    exact ⟨rfl, by simp [hnone]⟩

/-- A new claim starts where the last run has ended, which is not before the end of a
window that has been claimed. -/
theorem claimsInOrder_claim (hs : ClaimsInOrder s) {now : DateTime}
    (hclocks : ClocksAdvance s (s.claim h lower now)) :
    ClaimsInOrder (s.claim h lower now) := by
  rcases s.claim_cases now with hsame | ⟨next, window, hclaim, -, -, hwindow⟩
  · rw [hsame]
    exact hs
  rw [hclaim] at hclocks ⊢
  obtain ⟨hend, hstart⟩ := calculateExecutionWindow_ok hwindow
  refine ⟨List.pairwise_cons.mpr ⟨fun earlier hearlier => ?_, hs.apart⟩, ?_⟩
  · obtain ⟨last, hlast, hle⟩ := hs.ended earlier hearlier
    rw [← hstart last hlast] at hle
    exact Or.inr hle
  · intro claimed hclaimed
    refine ⟨now, rfl, ?_⟩
    rcases List.mem_cons.mp hclaimed with rfl | hearlier
    · rw [hend]
    · obtain ⟨last, hlast, hle⟩ := hs.ended claimed hearlier
      exact hle.trans (advances_some.mp hclocks.1 last hlast)

theorem claims_start (s : ScheduleRuns) (worker : ℕ) (now : DateTime) (window : Option Window) :
    (s.start lower worker now window).claims = s.claims := by
  unfold start
  split
  · rfl
  · rfl

theorem claims_finish (s : ScheduleRuns) (worker : ℕ) (outcome : ExecutionOutcome)
    (now : DateTime) : (s.finish h lower worker outcome now).claims = s.claims := by
  rcases s.finish_cases worker outcome now with ⟨workers, -, -, hfinish⟩ | ⟨e, row, -, -, hfinish⟩
  · rw [hfinish]
  · rw [hfinish]

/-- As long as the clocks move on, the claimed windows stay apart. -/
theorem claimsInOrder_step (hs : ClaimsInOrder s) {i : ScheduleStep}
    (hclocks : ClocksAdvance s (step h lower s i)) : ClaimsInOrder (step h lower s i) := by
  cases i with
  | claim now => exact claimsInOrder_claim hs hclocks
  | execute worker window =>
      refine hs.keep ?_ hclocks
      simp only [step]
      split
      · exact s.claims_start worker window.2 (some window)
      · rfl
  | runNow worker now => exact hs.keep (s.claims_start worker now none) hclocks
  | finish worker outcome now => exact hs.keep (s.claims_finish worker outcome now) hclocks

variable (h lower) in
/-- The clocks of the row never go back along the run, and any two claimed windows have at
most an endpoint in common. -/
def ClocksMonotone (row : ReportSchedule) (w : List ScheduleStep) : Prop :=
  Along (step h lower) (fun before _ after => ClocksAdvance before after) { row := row } w ∧
    (run (step h lower) { row := row } w).claims.Pairwise Apart

instance (row : ReportSchedule) (w : List ScheduleStep) :
    Decidable (ClocksMonotone h lower row w) :=
  inferInstanceAs (Decidable (_ ∧ _))

/-- **Monotone clocks.**  From a validated row, the clocks never go back and the claimed
windows are apart exactly if no execution is saved late. -/
theorem clocksMonotone_iff (h : Hierarchy) (lower : String → String) {row : ReportSchedule}
    (hrow : row.runsBackwards = false) (w : List ScheduleStep) :
    ClocksMonotone h lower row w ↔
      Along (step h lower) (fun before i _ => ¬before.SavesLate h lower i) { row := row } w := by
  have hinv : ∀ s i, Inv s → Inv (step h lower s i) := fun s i hs => inv_step hs i
  have hiff : ∀ s i, Inv s →
      (ClocksAdvance s (step h lower s i) ↔ ¬s.SavesLate h lower i) :=
    fun s i hs => clocksAdvance_step_iff hs i
  constructor
  · rintro ⟨hclocks, -⟩
    exact along_mono (fun s i hs _ => hinv s i hs) (fun s i hs => (hiff s i hs).mp)
      (inv_ofRow hrow) hclocks
  · intro hnone
    have hclocks : Along (step h lower) (fun before _ after => ClocksAdvance before after)
        { row := row } w :=
      along_mono (fun s i hs _ => hinv s i hs) (fun s i hs => (hiff s i hs).mpr)
        (inv_ofRow hrow) hnone
    have horder : ∀ s i, ClaimsInOrder s → ClocksAdvance s (step h lower s i) →
        ClaimsInOrder (step h lower s i) := fun s i hs => claimsInOrder_step hs
    have hstart : ClaimsInOrder { row := row } := ⟨.nil, by simp⟩
    exact ⟨hclocks, (run_invariant_of_along horder hstart hclocks).apart⟩

/-- A daily report at noon, Dhaka time. -/
def noonReport : ReportSchedule :=
  { dawnReport with name := "Noon report", deliveryTime := ⟨12 * hourMicros, by decide⟩ }

/-- Noon in Dhaka on 2 January 2024, as `timezone.now()` reads it: in UTC. -/
def noonDelivery : DateTime where
  date := dawnDelivery.date
  time := ⟨(12 - 6) * hourMicros, by decide⟩
  offset := utc

/-- Noon, some days later. -/
def noon (days : ℤ) : DateTime :=
  match noonDelivery.date.addDays days with
  | some date => { noonDelivery with date := date }
  | none => noonDelivery

/-- The noon report, due on 2 January. -/
def noonRow : ReportSchedule := { noonReport with nextRunAt := some (noon 0) }

/-- The execution of the first claim takes more than a day; then come the second claim, the
end of that execution, and the third claim. -/
def slowExecution : List ScheduleStep :=
  [.claim (noon 0), .execute 0 (noon (-1), noon 0), .claim (noon 1),
    .finish 0 .delivered (noon 1), .claim (noon 2)]

theorem clocksMonotone_iff_slowExecution :
    ClocksMonotone twoSites asciiLower noonRow slowExecution ↔
      Along (step twoSites asciiLower)
        (fun before i _ => ¬before.SavesLate twoSites asciiLower i)
        { row := noonRow } slowExecution :=
  clocksMonotone_iff twoSites asciiLower (by decide) slowExecution

/-- The slow execution sets the clocks back, and the third claim overlaps the second. -/
theorem slowExecution_turns_back :
    ¬ClocksMonotone twoSites asciiLower noonRow slowExecution ∧
      ¬(run (step twoSites asciiLower) { row := noonRow } slowExecution).claims.Pairwise
        Apart := by
  decide

end ScheduleRuns

end DcimBackend
