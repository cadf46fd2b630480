import DcimBackend.Reports.Execution

/-!
# What the sent reports cover

A claim takes `last_run_at` for the start of its window and moves it to the end at once,
and an execution that fails moves it there too.  What has been lost is in no later window:
`noGap_run` says that the windows that have been sent leave no gap if each of them joins
those sent before it, and `sendsInOrder_of_startsAtSent` that this is so if no window is
computed from the end of one that has not been sent.

The cover is a statement about instants: every one from the start of the first claimed window to
the end of a window that has been sent lies in a window that has been sent.  Manual runs count
like claims once they have been sent, and `Joins` looks at both ends of a window, since one that
is late may close a gap from behind.

The claims and the windows that have been sent are lists in the state of `Reports.Execution`,
which no step shortens, so what has been covered stays covered.
-/

namespace DcimBackend

open Library

namespace ScheduleRuns

variable {h : Hierarchy} {lower : String → String} {s : ScheduleRuns}

/-! ### The windows that have been sent -/

/-- The windows that have been sent cover every instant from the start of the first claimed
window to the end of each of them. -/
def NoGap (s : ScheduleRuns) : Prop :=
  ∀ first ∈ s.claims.getLast?, ∀ w ∈ s.sent, ∀ x : ℤ,
    first.1.instant ≤ x → x ≤ w.2.instant →
      ∃ v ∈ s.sent, v.1.instant ≤ x ∧ x ≤ v.2.instant

/-- A window joins those that have been sent: it begins, or ends, no later than the first
one begins or one that has been sent ends. -/
def Joins (first w : Window) (sent : List Window) : Prop :=
  w.1.instant ≤ first.1.instant ∨ w.2.instant < first.1.instant ∨
    ∃ v ∈ sent, w.1.instant ≤ v.2.instant ∨ w.2.instant ≤ v.2.instant

variable (h lower) in
/-- What is sent joins what has been sent: no window in between has been lost.  Before the
first claim there are manual runs only, and none that has been sent starts after the last
run. -/
def SendsInOrder (s : ScheduleRuns) : ScheduleStep → Prop
  | .claim now =>
      s.claims = [] → s.row.isDue now →
        ∀ w ∈ s.sent, ∃ last ∈ s.row.lastRunAt, w.1.instant ≤ last.instant
  | .finish worker .delivered now =>
      ∀ e row, s.workers worker = some e →
        s.row.saveExecution h lower now e .delivered = .ok row →
        ∀ first ∈ s.claims.getLast?, Joins first e.window s.sent
  | _ => True

/-- A window that joins keeps the cover without a gap. -/
theorem noGap_cons {first w : Window} {sent : List Window}
    (hsent : ∀ v ∈ sent, ∀ x : ℤ, first.1.instant ≤ x → x ≤ v.2.instant →
      ∃ v ∈ sent, v.1.instant ≤ x ∧ x ≤ v.2.instant)
    (hjoins : Joins first w sent) {v : Window} (hv : v ∈ w :: sent) {x : ℤ}
    (hfirst : first.1.instant ≤ x) (hlast : x ≤ v.2.instant) :
    ∃ v ∈ w :: sent, v.1.instant ≤ x ∧ x ≤ v.2.instant := by
  -- what was covered still is
  have hold : ∀ v ∈ sent, x ≤ v.2.instant →
      ∃ v ∈ w :: sent, v.1.instant ≤ x ∧ x ≤ v.2.instant := by
    intro v hv hle
    obtain ⟨v', hv', hcovers⟩ := hsent v hv x hfirst hle
    exact ⟨v', List.mem_cons_of_mem _ hv', hcovers⟩
  rcases List.mem_cons.mp hv with rfl | hv
  swap
  · exact hold v hv hlast
  by_cases hinside : v.1.instant ≤ x
  · exact ⟨v, List.mem_cons_self, hinside, hlast⟩
  -- an instant before the new window lies before the end of one that it joins
  rcases hjoins with hstart | hend | ⟨earlier, hearlier, hstart | hend⟩
  · omega
  · omega
  · exact hold earlier hearlier (by omega)
  · exact hold earlier hearlier (by omega)

theorem sent_start (s : ScheduleRuns) (worker : ℕ) (now : DateTime) (window : Option Window) :
    (s.start lower worker now window).sent = s.sent := by
  unfold start
  split
  · rfl
  · rfl

theorem NoGap.congr {before after : ScheduleRuns} (hbefore : NoGap before)
    (hclaims : after.claims = before.claims) (hsent : after.sent = before.sent) :
    NoGap after := by
  unfold NoGap
  rw [hclaims, hsent]
  exact hbefore

/-- The first claim starts at the last run, and another one does not change the first. -/
theorem noGap_claim (hs : NoGap s) {now : DateTime}
    (horder : s.SendsInOrder h lower (.claim now)) : NoGap (s.claim h lower now) := by
  rcases s.claim_cases now with hsame | ⟨next, window, hclaim, hdue, -, hwindow⟩
  · rw [hsame]
    exact hs
  rw [hclaim]
  intro first hfirst w hw x hstart hend
  by_cases hclaims : s.claims = []
  · obtain rfl : window = first := by simpa [hclaims] using hfirst
    obtain ⟨last, hlast, hle⟩ := horder hclaims hdue w hw
    rw [← (calculateExecutionWindow_ok hwindow).2 last hlast] at hle
    exact ⟨w, hw, hle.trans hstart, hend⟩
  · have hfirst' : first ∈ s.claims.getLast? := by
      simpa [List.getLast?_cons, List.getLast?_eq_some_getLast hclaims] using hfirst
    exact hs first hfirst' w hw x hstart hend

theorem noGap_finish (hs : NoGap s) {worker : ℕ} {outcome : ExecutionOutcome} {now : DateTime}
    (horder : s.SendsInOrder h lower (.finish worker outcome now)) :
    NoGap (s.finish h lower worker outcome now) := by
  rcases s.finish_cases worker outcome now with ⟨workers, -, -, hfinish⟩ |
    ⟨e, row, hworker, hsave, hfinish⟩
  · rw [hfinish]
    exact hs
  rw [hfinish]
  by_cases hdelivered : outcome = .delivered
  · subst hdelivered
    intro first hfirst w hw x hstart hend
    rw [if_pos rfl] at hw ⊢
    exact noGap_cons (hs first hfirst) (horder e row hworker hsave first hfirst) hw hstart hend
  · rw [if_neg hdelivered]
    exact hs

theorem noGap_step (hs : NoGap s) {i : ScheduleStep} (horder : s.SendsInOrder h lower i) :
    NoGap (step h lower s i) := by
  cases i with
  | claim now => exact noGap_claim hs horder
  | execute worker window =>
      simp only [step]
      split
      · exact hs.congr (s.claims_start _ _ _) (s.sent_start _ _ _)
      · exact hs
  | runNow worker now => exact hs.congr (s.claims_start _ _ _) (s.sent_start _ _ _)
  | finish worker outcome now => exact noGap_finish hs horder

/-- **No gap.**  If everything that is sent joins what has been sent, then the windows that
have been sent cover all from the start of the first claimed window to their latest end. -/
theorem noGap_run (h : Hierarchy) (lower : String → String) (row : ReportSchedule)
    {w : List ScheduleStep}
    (horder : Along (step h lower) (fun before i _ => before.SendsInOrder h lower i)
      { row := row } w) :
    NoGap (run (step h lower) { row := row } w) := by
  have hstep : ∀ s i, NoGap s → s.SendsInOrder h lower i → NoGap (step h lower s i) :=
    fun s i hs => noGap_step hs
  refine run_invariant_of_along hstep ?_ horder
  intro first hfirst
  cases hfirst

/-! ### When nothing is lost -/

/-- After the first claim, windows are computed only when the last run is the end of a
window that has been sent. -/
def StartsAtSent (s : ScheduleRuns) : ScheduleStep → Prop
  | .claim _ => s.claims = [] ∨ ∃ v ∈ s.sent, s.row.lastRunAt = some v.2
  | .runNow _ _ => s.claims ≠ [] ∧ ∃ v ∈ s.sent, s.row.lastRunAt = some v.2
  | _ => True

instance : (i : ScheduleStep) → Decidable (s.StartsAtSent i)
  | .claim _ => inferInstanceAs (Decidable (_ ∨ _))
  | .runNow _ _ => inferInstanceAs (Decidable (_ ∧ _))
  | .execute _ _ => .isTrue trivial
  | .finish _ _ _ => .isTrue trivial

/-- A window starts like the first one, or at the end of one that has been sent. -/
def Linked (s : ScheduleRuns) (first w : Window) : Prop :=
  w.1 = first.1 ∨ ∃ v ∈ s.sent, w.1 = v.2

/-- All windows of claims and of executions under way are linked, and nothing runs before
the first claim. -/
structure AllLinked (s : ScheduleRuns) : Prop where
  fresh : s.claims = [] → s.sent = [] ∧ ∀ worker, s.workers worker = none
  claims : ∀ first ∈ s.claims.getLast?, ∀ w ∈ s.claims, s.Linked first w
  workers : ∀ first ∈ s.claims.getLast?, ∀ worker, ∀ e ∈ s.workers worker,
    s.Linked first e.window

theorem allLinked_claim (hs : AllLinked s) {now : DateTime} (hsent : s.StartsAtSent (.claim now)) :
    AllLinked (s.claim h lower now) := by
  rcases s.claim_cases now with hsame | ⟨next, window, hclaim, -, -, hwindow⟩
  · rw [hsame]
    exact hs
  rw [hclaim]
  by_cases hclaims : s.claims = []
  · obtain ⟨-, hidle⟩ := hs.fresh hclaims
    refine ⟨by simp, fun first hfirst w hw => ?_, fun first _ worker e he => ?_⟩
    · obtain rfl : window = first := by simpa [hclaims] using hfirst
      obtain rfl : w = window := by simpa [hclaims] using hw
      exact Or.inl rfl
    · simp [hidle worker] at he
  · obtain ⟨v, hv, hlast⟩ := hsent.resolve_left hclaims
    have hfirst' : ∀ first ∈ (window :: s.claims).getLast?, first ∈ s.claims.getLast? := by
      intro first hfirst
      simpa [List.getLast?_cons, List.getLast?_eq_some_getLast hclaims] using hfirst
    refine ⟨by simp, fun first hfirst w hw => ?_, fun first hfirst => ?_⟩
    · rcases List.mem_cons.mp hw with rfl | hw
      · exact Or.inr ⟨v, hv, (calculateExecutionWindow_ok hwindow).2 v.2 hlast⟩
      · exact hs.claims first (hfirst' first hfirst) w hw
    · exact hs.workers first (hfirst' first hfirst)

/-- An execution may start, after the first claim, on a window that is linked. -/
theorem allLinked_start (hs : AllLinked s) (hclaims : s.claims ≠ []) {worker : ℕ}
    {now : DateTime} {window : Option Window}
    (hlinked : ∀ w, s.row.executionWindow now window = .ok w →
      ∀ first ∈ s.claims.getLast?, s.Linked first w) :
    AllLinked (s.start lower worker now window) := by
  unfold start
  split
  swap
  · exact hs
  obtain ⟨-, -, -, hstarted⟩ := startExecution_spec s.row now window
  refine ⟨fun hnil => absurd hnil hclaims, hs.claims, fun first hfirst other e he => ?_⟩
  dsimp only at he
  by_cases hother : other = worker
  · subst hother
    rw [Function.update_self] at he
    exact hlinked e.window (hstarted e he).2 first hfirst
  · rw [Function.update_of_ne hother] at he
    exact hs.workers first hfirst other e he

theorem allLinked_finish (hs : AllLinked s) (worker : ℕ) (outcome : ExecutionOutcome)
    (now : DateTime) : AllLinked (s.finish h lower worker outcome now) := by
  rcases s.finish_cases worker outcome now with ⟨workers, hidle, -, hfinish⟩ |
    ⟨e, row, hworker, -, hfinish⟩
  · rw [hfinish]
    refine ⟨fun hnil => ⟨(hs.fresh hnil).1, fun other => ?_⟩, hs.claims,
      fun first hfirst other e he => ?_⟩
    · rcases hidle other with hnone | hsame
      · exact hnone
      · exact hsame.trans ((hs.fresh hnil).2 other)
    · rcases hidle other with hnone | hsame
      · simp [hnone] at he
      · exact hs.workers first hfirst other e (hsame ▸ he)
  · rw [hfinish]
    -- the windows that have been sent become more
    have hgrow : ∀ first w, s.Linked first w → Linked { s with
        row := row
        sent := if outcome = .delivered then e.window :: s.sent else s.sent
        workers := Function.update s.workers worker none } first w := by
      rintro first w (hstart | ⟨v, hv, hstart⟩)
      · exact Or.inl hstart
      · refine Or.inr ⟨v, ?_, hstart⟩
        dsimp only
        split
        · exact List.mem_cons_of_mem _ hv
        · exact hv
    refine ⟨fun hnil => ?_, fun first hfirst w hw => hgrow first w (hs.claims first hfirst w hw),
      fun first hfirst other e' he' => ?_⟩
    · have hnone := (hs.fresh hnil).2 worker
      rw [hworker] at hnone
      cases hnone
    · dsimp only at he'
      by_cases hother : other = worker
      · subst hother
        simp at he'
      · rw [Function.update_of_ne hother] at he'
        exact hgrow first _ (hs.workers first hfirst other e' he')

theorem allLinked_step (hs : AllLinked s) {i : ScheduleStep} (hsent : s.StartsAtSent i) :
    AllLinked (step h lower s i) := by
  cases i with
  | claim now => exact allLinked_claim hs hsent
  | execute worker window =>
      simp only [step]
      split
      swap
      · exact hs
      rename_i hclaimed
      refine allLinked_start hs (List.ne_nil_of_mem hclaimed) fun w hw first hfirst => ?_
      obtain rfl := Except.ok.inj hw
      exact hs.claims first hfirst window hclaimed
  | runNow worker now =>
      obtain ⟨hclaims, v, hv, hlast⟩ := hsent
      refine allLinked_start hs hclaims fun w hw first _ => ?_
      exact Or.inr ⟨v, hv, (calculateExecutionWindow_ok hw).2 v.2 hlast⟩
  | finish worker outcome now => exact allLinked_finish hs worker outcome now

/-- A linked window joins what has been sent. -/
theorem sendsInOrder_of_allLinked (hs : AllLinked s) (i : ScheduleStep) :
    s.SendsInOrder h lower i := by
  cases i with
  | claim now =>
      intro hclaims _ w hw
      rw [(hs.fresh hclaims).1] at hw
      cases hw
  | execute worker window => trivial
  | runNow worker now => trivial
  | finish worker outcome now =>
      cases outcome with
      | generationFailed message => trivial
      | deliveryFailed message => trivial
      | delivered =>
          intro e row hworker _ first hfirst
          rcases hs.workers first hfirst worker e hworker with hstart | ⟨v, hv, hstart⟩
          · exact Or.inl (by rw [hstart])
          · exact Or.inr (Or.inr ⟨v, hv, Or.inl (by rw [hstart])⟩)

/-- If no window is computed while the one before it has not been sent, everything that is
sent joins what has been sent. -/
theorem sendsInOrder_of_startsAtSent (h : Hierarchy) (lower : String → String)
    (row : ReportSchedule) {w : List ScheduleStep}
    (hsent : Along (step h lower) (fun before i _ => before.StartsAtSent i) { row := row } w) :
    Along (step h lower) (fun before i _ => before.SendsInOrder h lower i) { row := row } w := by
  have hstep : ∀ s i, AllLinked s → s.StartsAtSent i → AllLinked (step h lower s i) :=
    fun s i hs => allLinked_step hs
  have hstart : AllLinked { row := row } :=
    ⟨fun _ => ⟨rfl, fun _ => rfl⟩, by simp, by simp⟩
  have horder : ∀ s i, AllLinked s → s.StartsAtSent i → s.SendsInOrder h lower i :=
    fun s i hs _ => sendsInOrder_of_allLinked hs i
  exact along_mono (G := fun before i _ => before.StartsAtSent i) hstep horder hstart hsent

/-- Two claims, each executed before the next, with the outcome of the first. -/
def twoReports (outcome : ExecutionOutcome) : List ScheduleStep :=
  [.claim (noon 0), .execute 0 (noon (-1), noon 0), .finish 0 outcome (noon 0),
    .claim (noon 1), .execute 0 (noon 0, noon 1), .finish 0 .delivered (noon 1)]

theorem noGap_run_twoReports :
    NoGap (run (step twoSites asciiLower) { row := noonRow } (twoReports .delivered)) :=
  noGap_run twoSites asciiLower noonRow
    (sendsInOrder_of_startsAtSent twoSites asciiLower noonRow (by decide))

/-- The day of the report that could not be generated is in no report that is sent. -/
theorem failedReport_leaves_gap :
    ¬NoGap (run (step twoSites asciiLower) { row := noonRow }
      (twoReports (.generationFailed none))) := by
  intro hcover
  have hday := hcover (noon (-1), noon 0) (by decide) (noon 0, noon 1) (by decide)
    (noon (-1)).instant (by decide) (by decide)
  exact absurd hday (by decide)

end ScheduleRuns

end DcimBackend
