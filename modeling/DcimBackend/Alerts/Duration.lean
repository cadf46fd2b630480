import DcimBackend.Alerts.Lifecycle

/-!
# Durations

A rule with a duration opens its alert when the condition has been true for that long.
The timer is a row of its own, the condition state, which a true condition creates and a
false one deletes.  `_resolve_if_needed` deletes it only where there is no alert: a false
condition that resolves an active alert leaves the timer running.

The run is watched through the evaluations of one key, newest first.  `Lasted` says that
the condition has been true at every evaluation since one that lies far enough back, and
`opensAfterDuration_of_cleared` that alerts open after their duration only, in every run
in which no evaluation relies on a timer that the last false condition has left behind.

The clock of a run is not assumed to go on: `Lasted` compares times, and says nothing of a run in
which they go back but what the timer says.  A rule is not edited in between, so that its key, its
condition and its duration stand for it; windows, resolutions, traps and the evaluations of other
rules may come at any time.

`TimerFresh` is the invariant: the stored timer runs since one of the evaluations of the current
stretch of true conditions, or a false condition has left it behind.  The second case is the
defect, and `TimerCleared` excludes that an evaluation relies on it.
-/

namespace DcimBackend

open Library

namespace AlertsDb

/-! ### Condition states -/

/-- The condition states are the same. -/
def SameStates (db db' : AlertsDb) : Prop := db'.conditionStates = db.conditionStates

instance : IsPreorder AlertsDb SameStates where
  refl _ := rfl
  trans _ _ _ h h' := h'.trans h

/-- The condition state of a key is the same. -/
theorem SameStates.findConditionState_eq {db db' : AlertsDb} (h : SameStates db db')
    (key : ConditionKey) : db'.findConditionState key = db.findConditionState key := by
  unfold findConditionState
  rw [h]

/-- A deleted condition state is gone, and the others stay. -/
theorem findConditionState_removeConditionState {db : AlertsDb} {key key' : ConditionKey} :
    (db.removeConditionState key).findConditionState key' =
      if key' = key then none else db.findConditionState key' := by
  simp only [findConditionState, removeConditionState, List.find?_filter]
  split
  · rename_i heq
    rw [List.find?_eq_none]
    intro state _
    simp [heq]
  · rename_i hne
    congr 1
    funext state
    by_cases hkey : state.key = key'
    · simp [hkey, hne]
    · simp [hkey]

/-- A saved condition state is found under its key, and the others stay. -/
theorem findConditionState_putConditionState {db : AlertsDb} {state : AlertConditionState}
    {hrule : (db.rules.find state.alertRule).isSome} {key : ConditionKey} :
    (db.putConditionState state hrule).findConditionState key =
      if key = state.key then some state else db.findConditionState key := by
  have hremoved := @findConditionState_removeConditionState db state.key key
  simp only [findConditionState, removeConditionState] at hremoved
  simp only [findConditionState, putConditionState, List.find?_append, hremoved]
  split
  · rename_i heq
    simp [heq]
  · rename_i hne
    have hother : ¬state.key = key := fun heq => hne heq.symm
    simp [hother]

end AlertsDb

section SameStates

open AlertsDb

variable {py : PyText} {latest : LatestTelemetry} {rule : AlertRule} {alert : AlertEvent}
  {value threshold : PyValue} {user : Option UserId} {comment : Option String} {now : Instant}

theorem sameStates_saveAlertRow {row : AlertEvent} :
    Tx.Respects SameStates (saveAlertRow row) := by
  intro db
  unfold saveAlertRow
  split
  · split <;> rfl
  · rfl

theorem sameStates_saveAlert {copy : AlertEvent} {columns : List AlertColumn} :
    Tx.Respects SameStates (saveAlert copy columns) := by
  intro db
  unfold saveAlert
  split
  · exact sameStates_saveAlertRow db
  · rfl

theorem sameStates_createAlert {row : AlertEvent} : Tx.Respects SameStates (createAlert row) :=
  fun db => Tx.rel_bind (sameStates_saveAlertRow db) fun _ => Tx.respects_pure _

theorem sameStates_createAlertLog {log : AlertEventLog} :
    Tx.Respects SameStates (createAlertLog log) := by
  intro db
  unfold createAlertLog
  split <;> rfl

theorem sameStates_openAlert {createdAt : Instant} :
    Tx.Respects SameStates (openAlert py rule latest value threshold now createdAt) :=
  Tx.respects_bind sameStates_createAlert fun _ =>
    Tx.respects_bind sameStates_createAlertLog fun _ => Tx.respects_pure _

theorem sameStates_updateActiveAlert :
    Tx.Respects SameStates (updateActiveAlert py alert latest value threshold now) := by
  refine Tx.respects_bind (Tx.respects_read _) fun found => ?_
  cases found with
  | none => exact Tx.respects_raise _
  | some rule =>
      exact Tx.respects_bind sameStates_saveAlert fun _ =>
        Tx.respects_bind sameStates_createAlertLog fun _ => Tx.respects_pure _

theorem sameStates_resolveAlert {latest : Option LatestTelemetry} {resolutionType : String} :
    Tx.Respects SameStates (resolveAlert py alert latest resolutionType user comment now) :=
  Tx.respects_bind sameStates_saveAlert fun _ =>
    Tx.respects_bind (Tx.respects_read _) fun _ =>
      Tx.respects_bind sameStates_createAlertLog fun _ => Tx.respects_pure _

theorem sameStates_commentOn {status : AlertStatus} :
    Tx.Respects SameStates (commentOn alert status user comment) := by
  unfold commentOn
  split
  · exact Tx.respects_pure _
  · exact Tx.respects_bind (fun _ => rfl) fun _ => sameStates_createAlertLog

theorem sameStates_acknowledgeAlert :
    Tx.Respects SameStates (acknowledgeAlert alert user comment now) := by
  unfold acknowledgeAlert
  split
  · exact Tx.respects_pure _
  · exact Tx.respects_bind sameStates_saveAlert fun _ =>
      Tx.respects_bind sameStates_commentOn fun _ =>
        Tx.respects_bind sameStates_createAlertLog fun _ => Tx.respects_pure _

theorem sameStates_manuallyResolveAlert :
    Tx.Respects SameStates (manuallyResolveAlert py alert user comment now) :=
  Tx.respects_bind sameStates_resolveAlert fun _ =>
    Tx.respects_bind sameStates_commentOn fun _ => Tx.respects_pure _

theorem sameStates_suppressAlert :
    Tx.Respects SameStates (suppressAlert alert user comment now) :=
  Tx.respects_bind sameStates_saveAlert fun _ =>
    Tx.respects_bind sameStates_createAlertLog fun _ => Tx.respects_pure _

theorem sameStates_createSuppressedAlert {createdAt : Instant} :
    Tx.Respects SameStates
      (createSuppressedAlert py latest rule value threshold now createdAt) :=
  Tx.respects_bind sameStates_createAlert fun _ =>
    Tx.respects_bind sameStates_createAlertLog fun _ => Tx.respects_pure _

theorem sameStates_resolveUpsTrapAlertIfNeeded {clock : ℕ → Instant} :
    Tx.Respects SameStates (resolveUpsTrapAlertIfNeeded py latest clock) := by
  unfold resolveUpsTrapAlertIfNeeded
  split
  · exact Tx.respects_raise _
  · exact Tx.respects_pure _
  · refine Tx.respects_bind (Tx.respects_read _) fun found => ?_
    cases found with
    | none => exact Tx.respects_pure _
    | some alert => exact respects_map sameStates_resolveAlert

/-- With an alert at hand, no turn touches the timer. -/
theorem sameStates_ensureAlert_some {clock : ℕ → Instant} :
    Tx.Respects SameStates
      (ensureAlert py latest rule value threshold (some alert) clock) := by
  refine Tx.respects_bind (Tx.respects_read _) fun suppressed => ?_
  dsimp only
  split
  · split
    · exact respects_map sameStates_suppressAlert
    · exact Tx.respects_pure _
  · split
    · exact respects_map sameStates_updateActiveAlert
    · exact Tx.respects_pure _

end SameStates

/-! ### What a turn does to the timer -/

namespace AlertsDb

/-- The condition state of a key is the same. -/
def KeepsTimer (key : ConditionKey) (db db' : AlertsDb) : Prop :=
  db'.findConditionState key = db.findConditionState key

instance {key : ConditionKey} : IsPreorder AlertsDb (KeepsTimer key) where
  refl _ := rfl
  trans _ _ _ h h' := h'.trans h

/-- What `first_seen_at` is after a true condition at `now`. -/
def timerStart (db : AlertsDb) (key : ConditionKey) (now : Instant) : Instant :=
  (db.findConditionState key).elim now fun state => state.firstSeenAt

/-- The timer is the same, or runs since it had started, or since `now`. -/
def Ticks (key : ConditionKey) (now : Instant) (db db' : AlertsDb) : Prop :=
  KeepsTimer key db db' ∨ ∃ state, db'.findConditionState key = some state ∧
    state.firstSeenAt = db.timerStart key now

instance {key : ConditionKey} {now : Instant} : IsPreorder AlertsDb (Ticks key now) where
  refl _ := Or.inl rfl
  trans db db' db'' h h' := by
    rcases h' with hkept | ⟨state, hstate, hstart⟩
    · rcases h with h | ⟨state, hstate, hstart⟩
      · exact Or.inl (trans_of (KeepsTimer key) h hkept)
      · exact Or.inr ⟨state, Eq.trans hkept hstate, hstart⟩
    · refine Or.inr ⟨state, hstate, hstart.trans ?_⟩
      rcases h with hkept | ⟨old, hold, hstart⟩
      · unfold timerStart
        rw [show db'.findConditionState key = _ from hkept]
      · simp only [timerStart, hold, Option.elim_some]
        exact hstart

/-- Once a timer runs, its start is one that was there, or now. -/
theorem Ticks.firstSeenAt {key : ConditionKey} {now : Instant} {db db' : AlertsDb}
    (h : Ticks key now db db') {state : AlertConditionState}
    (hstate : db'.findConditionState key = some state) :
    state.firstSeenAt = db.timerStart key now := by
  rcases h with hkept | ⟨other, hother, hstart⟩
  · have hsame : db.findConditionState key = some state := Eq.trans (Eq.symm hkept) hstate
    simp only [timerStart, hsame, Option.elim_some]
  · obtain rfl : other = state := Option.some.inj (hother.symm.trans hstate)
    exact hstart

/-- An alert of the key becomes active. -/
def Opens (key : ConditionKey) (db db' : AlertsDb) : Prop :=
  ∃ alert ∈ db'.alerts, alert.ActiveFor key ∧
    ∀ old ∈ db.alerts, old.id = alert.id → ¬old.ActiveFor key

instance {key : ConditionKey} {db db' : AlertsDb} : Decidable (Opens key db db') :=
  inferInstanceAs (Decidable (∃ alert ∈ db'.alerts, alert.ActiveFor key ∧
    ∀ old ∈ db.alerts, old.id = alert.id → ¬old.ActiveFor key))

/-- Where the active alerts were active before, none is opened. -/
theorem not_opens_of_subset {key : ConditionKey} {db db' : AlertsDb}
    (h : db'.activeIds key ⊆ db.activeIds key) : ¬Opens key db db' := by
  rintro ⟨alert, halert, hactive, hnew⟩
  obtain ⟨old, hold, hid, holdActive⟩ := h ⟨alert, halert, rfl, hactive⟩
  exact hnew old hold hid holdActive

theorem OpensOnly.not_opens {K : Set ConditionKey} {key : ConditionKey} {db db' : AlertsDb}
    (h : OpensOnly K db db') (hkey : key ∉ K) : ¬Opens key db db' :=
  not_opens_of_subset (h.activeIds_subset hkey)

end AlertsDb

section Turn

open AlertsDb

variable {py : PyText} {latest : LatestTelemetry} {rule : AlertRule} {clock : ℕ → Instant}
  {db : AlertsDb} {key : ConditionKey}

/-- `_maybe_create_duration_alert` starts or keeps the timer, and compares its start with
now, or raises and does nothing. -/
theorem maybeCreateDurationAlert_apply {now : Instant} :
    (∃ e, maybeCreateDurationAlert latest rule now db = (.error e, db)) ∨
      ∃ state hrule, state.key = conditionKey latest rule ∧
        state.firstSeenAt = db.timerStart (conditionKey latest rule) now ∧
        maybeCreateDurationAlert latest rule now db =
          (.ok (rule.durationSeconds = 0 ∨ rule.durationSeconds * 1000000 ≤
            now - db.timerStart (conditionKey latest rule) now),
            db.putConditionState state hrule) := by
  simp only [maybeCreateDurationAlert, upsertConditionState, saveConditionState, Tx.bind_apply,
    Tx.read_apply]
  by_cases hrule : (db.rules.find rule.id).isSome
  · exact Or.inr ⟨_, hrule, rfl, rfl, by rw [dif_pos hrule]; rfl⟩
  · exact Or.inl ⟨.integrityError, by rw [dif_neg hrule]⟩

theorem keepsTimer_clearConditionState (hne : key ≠ conditionKey latest rule) :
    Tx.Respects (KeepsTimer key) (clearConditionState latest rule) := by
  intro db
  show (db.removeConditionState (conditionKey latest rule)).findConditionState key = _
  rw [findConditionState_removeConditionState, if_neg hne]

theorem keepsTimer_maybeCreateDurationAlert {now : Instant}
    (hne : key ≠ conditionKey latest rule) :
    Tx.Respects (KeepsTimer key) (maybeCreateDurationAlert latest rule now) := by
  intro db
  rcases @maybeCreateDurationAlert_apply latest rule db now with
    ⟨e, h⟩ | ⟨state, hrule, hkey, -, h⟩
  · rw [h]
    exact refl_of (KeepsTimer key) db
  · rw [h]
    show (db.putConditionState state hrule).findConditionState key = _
    rw [findConditionState_putConditionState, hkey, if_neg hne]

theorem ticks_maybeCreateDurationAlert {now : Instant} :
    Tx.Respects (Ticks (conditionKey latest rule) now)
      (maybeCreateDurationAlert latest rule now) := by
  intro db
  rcases @maybeCreateDurationAlert_apply latest rule db now with
    ⟨e, h⟩ | ⟨state, hrule, hkey, hstart, h⟩
  · rw [h]
    exact refl_of (Ticks (conditionKey latest rule) now) db
  · rw [h]
    refine Or.inr ⟨state, ?_, hstart⟩
    show (db.putConditionState state hrule).findConditionState _ = _
    rw [findConditionState_putConditionState, hkey, if_pos rfl]

/-- What statements on alerts respect, and the duration check, a true condition does. -/
theorem respects_ensureAlert_of_sameStates {R : AlertsDb → AlertsDb → Prop}
    [IsPreorder AlertsDb R] (hsame : ∀ db db', SameStates db db' → R db db')
    (hduration : Tx.Respects R (maybeCreateDurationAlert latest rule (clock 2)))
    {found : Option AlertEvent} {value threshold : PyValue} :
    Tx.Respects R (ensureAlert py latest rule value threshold found clock) := by
  cases found with
  | some alert => exact fun db => hsame _ _ (sameStates_ensureAlert_some db)
  | none =>
      refine Tx.respects_bind (Tx.respects_read _) fun suppressed => ?_
      dsimp only
      split
      · exact respects_map fun db => hsame _ _ (sameStates_createSuppressedAlert db)
      · refine Tx.respects_bind hduration fun lasted => ?_
        split
        · exact respects_map fun db => hsame _ _ (sameStates_openAlert db)
        · exact Tx.respects_pure _

/-- The turns of other rules, and on other rows, leave the timer alone. -/
theorem keepsTimer_ruleTurn (hne : key ≠ conditionKey latest rule) :
    Tx.Respects (KeepsTimer key) (ruleTurn py latest rule clock) := by
  refine Tx.respects_atomic ?_
  split
  · exact Tx.respects_bind (Tx.respects_read _) fun found =>
      respects_ensureAlert_of_sameStates (fun _ _ h => h.findConditionState_eq key)
        (keepsTimer_maybeCreateDurationAlert hne)
  · refine Tx.respects_bind (Tx.respects_read _) fun found => ?_
    cases found with
    | none => exact Tx.respects_bind (keepsTimer_clearConditionState hne) fun _ =>
        Tx.respects_pure _
    | some alert =>
        unfold resolveFound
        dsimp only
        split
        · exact Tx.respects_bind (keepsTimer_clearConditionState hne) fun _ =>
            Tx.respects_pure _
        · split
          · exact respects_map fun db => (sameStates_resolveAlert db).findConditionState_eq key
          · exact Tx.respects_pure _

/-- After a true condition the timer runs since it had started, or since now. -/
theorem ticks_ruleTurn (htrue : (evaluateRuleCondition rule latest).1 = true) :
    Tx.Respects (Ticks (conditionKey latest rule) (clock 2)) (ruleTurn py latest rule clock) := by
  have hsame : ∀ db db', SameStates db db' → Ticks (conditionKey latest rule) (clock 2) db db' :=
    fun _ _ h => Or.inl (h.findConditionState_eq _)
  refine Tx.respects_atomic ?_
  rw [if_pos htrue]
  exact Tx.respects_bind (Tx.respects_read _) fun found =>
    respects_ensureAlert_of_sameStates hsame ticks_maybeCreateDurationAlert

/-- A false condition deletes the timer, unless there is an active alert. -/
theorem timer_of_false (hfalse : (evaluateRuleCondition rule latest).1 = false)
    {state : AlertConditionState}
    (hstate : (ruleTurn py latest rule clock db).2.findConditionState
      (conditionKey latest rule) = some state) :
    (activeAlertForRule latest rule db).isSome ∧
      db.findConditionState (conditionKey latest rule) = some state := by
  cases hfound : activeAlertForRule latest rule db with
  | none =>
      rw [ruleTurn_of_false hfalse hfound] at hstate
      have hgone : (db.removeConditionState (conditionKey latest rule)).findConditionState
          (conditionKey latest rule) = none := by
        rw [findConditionState_removeConditionState, if_pos rfl]
      cases hgone.symm.trans hstate
  | some alert =>
      rw [ruleTurn_of_false hfalse hfound,
        resolveFound_of_active (activeAlertForRule_some hfound).2.1] at hstate
      refine ⟨rfl, Eq.trans (Eq.symm ?_) hstate⟩
      exact (Tx.respects_atomic (respects_map sameStates_resolveAlert) db).findConditionState_eq _

/-- An alert opens where there is none, outside suppression, once the timer has run for
the duration. -/
theorem lasted_of_opens (h : Opens key db (ruleTurn py latest rule clock db).2) :
    key = conditionKey latest rule ∧ (evaluateRuleCondition rule latest).1 = true ∧
      activeAlertForRule latest rule db = none ∧ hasSuppression latest (clock 1) db = false ∧
      (rule.durationSeconds = 0 ∨
        rule.durationSeconds * 1000000 ≤ clock 2 - db.timerStart key (clock 2)) := by
  have hkey : key = conditionKey latest rule := by
    by_contra hne
    exact (respects_ruleTurn db).not_opens hne h
  have hquiet : ∀ x : Engine (Option AlertEvent), OpensOnly ∅ db (x db).2 →
      ruleTurn py latest rule clock db ≠ Tx.atomic x db := by
    intro x hx heq
    rw [heq] at h
    exact (Tx.rel_atomic hx).not_opens (Set.notMem_empty key) h
  cases htrue : (evaluateRuleCondition rule latest).1 with
  | false => exact absurd (ruleTurn_of_false htrue rfl) (hquiet _ (respects_resolveFound db))
  | true =>
      cases hfound : activeAlertForRule latest rule db with
      | some alert =>
          exact absurd (ruleTurn_of_true htrue hfound) (hquiet _ (respects_ensureAlert_some db))
      | none =>
          have hnot : ¬OpensOnly ∅ db (ensureAlert py latest rule
              (evaluateRuleCondition rule latest).2.1 (evaluateRuleCondition rule latest).2.2
              none clock db).2 := fun hx => hquiet _ hx (ruleTurn_of_true htrue hfound)
          cases hsuppressed : hasSuppression latest (clock 1) db with
          | true =>
              rw [ensureAlert_none_of_suppressed hsuppressed] at hnot
              exact absurd (respects_map respects_createSuppressedAlert db) hnot
          | false =>
              refine ⟨hkey, rfl, rfl, rfl, ?_⟩
              subst hkey
              rw [ensureAlert_none_of_clear hsuppressed] at hnot
              rcases @maybeCreateDurationAlert_apply latest rule db (clock 2) with
                ⟨e, hduration⟩ | ⟨state, hrule, -, -, hduration⟩
              · rw [Tx.bind_of_error hduration] at hnot
                exact absurd (refl_of (OpensOnly ∅) db) hnot
              · rw [Tx.bind_of_ok hduration] at hnot
                by_contra hshort
                rw [if_neg (by simpa using hshort)] at hnot
                exact hnot (opensOnly_of_alerts_eq ⟨rfl, rfl, rfl, rfl, rfl⟩ rfl)

end Turn

/-! ### Watched runs -/

/-- A step on the alert tables.  A rule is not edited, so its key stands for it. -/
inductive TimerOperation
  /-- The turn of a rule in `evaluate_latest`. -/
  | evaluateRule (latest : LatestTelemetry) (rule : RuleId) (clock : ℕ → Instant)
  /-- The trap step of `evaluate_latest`. -/
  | resolveUpsTrapAlert (latest : LatestTelemetry) (clock : ℕ → Instant)
  | acknowledgeAlert (alert : AlertId) (user : Option UserId) (comment : Option String)
      (now : Instant)
  | manuallyResolveAlert (alert : AlertId) (user : Option UserId) (comment : Option String)
      (now : Instant)
  | suppressAlert (alert : AlertId) (user : Option UserId) (reason : Option String)
      (now : Instant)
  /-- Any change of the suppression windows. -/
  | setWindows (windows : Table AlertSuppressionWindow)

/-- An evaluation of a key, as it is watched. -/
structure WatchedEvaluation where
  /-- The time that the duration check reads. -/
  time : Instant
  /-- The condition is true. -/
  holds : Bool
  /-- There are an active alert and a condition state.  A false condition resolves the
  alert, and leaves the condition state. -/
  leavesTimer : Bool
deriving DecidableEq

/-- The condition has been true for `duration` seconds at `t`: at every evaluation since
one that lies that far back. -/
def Lasted (duration : ℕ) (t : Instant) (evaluations : List WatchedEvaluation) : Prop :=
  ∃ e ∈ evaluations.takeWhile fun e => e.holds, duration * 1000000 ≤ t - e.time

/-- The last evaluation with a false condition. -/
def lastFalse (evaluations : List WatchedEvaluation) : Option WatchedEvaluation :=
  (evaluations.dropWhile fun e => e.holds).head?

instance {duration : ℕ} {t : Instant} {evaluations : List WatchedEvaluation} :
    Decidable (Lasted duration t evaluations) :=
  inferInstanceAs (Decidable (∃ e ∈ _, _))

section LastFalse

variable {e : WatchedEvaluation} {evaluations : List WatchedEvaluation}

theorem lastFalse_cons_of_true (h : e.holds = true) :
    lastFalse (e :: evaluations) = lastFalse evaluations := by
  rw [lastFalse, List.dropWhile_cons_of_pos h, lastFalse]

theorem lastFalse_cons_of_false (h : e.holds = false) :
    lastFalse (e :: evaluations) = some e := by
  rw [lastFalse, List.dropWhile_cons_of_neg (by simp [h]), List.head?_cons]

end LastFalse

/-- The database, and the evaluations of a key so far, newest first. -/
structure Watched where
  db : AlertsDb
  evaluations : List WatchedEvaluation

namespace Watched

open AlertsDb

variable (py : PyText) (key : ConditionKey)

/-- What a step does to the database. -/
def operate (db : AlertsDb) : TimerOperation → AlertsDb
  | .evaluateRule latest rule clock =>
      match db.rules.find rule with
      | some rule => (ruleTurn py latest rule clock db).2
      | none => db
  | .resolveUpsTrapAlert latest clock =>
      (Tx.atomic (resolveUpsTrapAlertIfNeeded py latest clock) db).2
  | .acknowledgeAlert alert user comment now =>
      db.onAlert alert fun alert => acknowledgeAlert alert user comment now
  | .manuallyResolveAlert alert user comment now =>
      db.onAlert alert fun alert => manuallyResolveAlert py alert user comment now
  | .suppressAlert alert user reason now =>
      db.onAlert alert fun alert => suppressAlert alert user reason now
  | .setWindows windows => { db with windows := windows }

/-- The evaluation of the key that a step is. -/
def evaluated (db : AlertsDb) : TimerOperation → Option WatchedEvaluation
  | .evaluateRule latest rule clock =>
      (db.rules.find rule).bind fun rule =>
        if conditionKey latest rule = key then
          some
            { time := clock 2
              holds := (evaluateRuleCondition rule latest).1
              leavesTimer :=
                (activeAlertForRule latest rule db).isSome && (db.findConditionState key).isSome }
        else none
  | _ => none

/-- A step, watched. -/
def step (s : Watched) (i : TimerOperation) : Watched where
  db := operate py s.db i
  evaluations := (evaluated key s.db i).toList ++ s.evaluations

/-- The step opens an alert of the key only if it is an evaluation of the key, and the
condition has lasted for the duration of the rule. -/
def OpensAfterDuration (rule : AlertRule) (before : Watched) (i : TimerOperation)
    (after : Watched) : Prop :=
  Opens key before.db after.db →
    ∃ e ∈ evaluated key before.db i, Lasted rule.durationSeconds e.time after.evaluations

/-- The step is a true evaluation of the key that finds no active alert and no window. -/
def mayOpen (db : AlertsDb) : TimerOperation → Bool
  | .evaluateRule latest rule clock =>
      (db.rules.find rule).any fun rule =>
        conditionKey latest rule = key && (evaluateRuleCondition rule latest).1 &&
          (activeAlertForRule latest rule db).isNone && !hasSuppression latest (clock 1) db
  | _ => false

instance {rule : AlertRule} {before : Watched} {i : TimerOperation} {after : Watched} :
    Decidable (OpensAfterDuration key rule before i after) :=
  inferInstanceAs (Decidable (_ → _))

/-- An evaluation that may open an alert does not rely on a timer that the last false
condition has left running. -/
def TimerCleared (before : Watched) (i : TimerOperation) (_ : Watched) : Prop :=
  mayOpen key before.db i → ∀ e ∈ lastFalse before.evaluations, e.leavesTimer = false

instance {before : Watched} {i : TimerOperation} {after : Watched} :
    Decidable (TimerCleared key before i after) :=
  inferInstanceAs (Decidable (_ → _))

/-- The timer runs since one of the evaluations for which the condition has been true, or
a false condition has left it running. -/
def TimerFresh (s : Watched) : Prop :=
  ∀ state, s.db.findConditionState key = some state →
    (∃ e ∈ lastFalse s.evaluations, e.leavesTimer) ∨
      ∃ e ∈ s.evaluations.takeWhile (fun e => e.holds), e.time = state.firstSeenAt

variable {py key} {s : Watched} {i : TimerOperation}

/-- An operation on a row that is loaded for it, or on none. -/
theorem rel_onAlert {R : AlertsDb → AlertsDb → Prop} [IsPreorder AlertsDb R] {db : AlertsDb}
    {id : AlertId} {f : AlertEvent → Engine AlertEvent}
    (h : ∀ alert ∈ db.alerts, R db (f alert db).2) : R db (db.onAlert id f) := by
  unfold onAlert
  split
  · rename_i alert hfind
    exact h alert (Table.find_eq_some_iff.mp hfind).1
  · exact refl_of R db

/-- Without an evaluation of the key, the timer stays and nothing opens. -/
theorem operate_of_not_evaluated (h : evaluated key s.db i = none) :
    KeepsTimer key s.db (operate py s.db i) ∧ ¬Opens key s.db (operate py s.db i) := by
  have hquiet : SameStates s.db (operate py s.db i) → OpensOnly ∅ s.db (operate py s.db i) →
      KeepsTimer key s.db (operate py s.db i) ∧ ¬Opens key s.db (operate py s.db i) :=
    fun hsame honly => ⟨hsame.findConditionState_eq key, honly.not_opens (Set.notMem_empty key)⟩
  cases i with
  | evaluateRule latest rule clock =>
      simp only [operate, evaluated] at h ⊢
      cases hrule : s.db.rules.find rule with
      | none =>
          simp only
          exact ⟨refl_of (KeepsTimer key) _, not_opens_of_subset (Set.Subset.refl _)⟩
      | some rule =>
          -- it is the turn of another rule, or on another row
          have hne : key ≠ conditionKey latest rule := by
            rintro rfl
            simp [hrule] at h
          exact ⟨keepsTimer_ruleTurn hne s.db, (respects_ruleTurn s.db).not_opens hne⟩
  | resolveUpsTrapAlert latest clock =>
      exact hquiet (Tx.respects_atomic sameStates_resolveUpsTrapAlertIfNeeded s.db)
        (Tx.respects_atomic respects_resolveUpsTrapAlertIfNeeded s.db)
  | acknowledgeAlert alert user comment now =>
      exact hquiet (rel_onAlert fun alert _ => sameStates_acknowledgeAlert s.db)
        (rel_onAlert fun alert halert => opensOnly_acknowledgeAlert halert)
  | manuallyResolveAlert alert user comment now =>
      exact hquiet (rel_onAlert fun alert _ => sameStates_manuallyResolveAlert s.db)
        (rel_onAlert fun alert _ => respects_manuallyResolveAlert s.db)
  | suppressAlert alert user reason now =>
      exact hquiet (rel_onAlert fun alert _ => sameStates_suppressAlert s.db)
        (rel_onAlert fun alert _ => respects_suppressAlert s.db)
  | setWindows windows =>
      exact ⟨refl_of (KeepsTimer key) s.db, not_opens_of_subset (Set.Subset.refl _)⟩

/-- The evaluation of a key is the turn of a stored rule on a row of the key. -/
theorem evaluated_eq_some {e : WatchedEvaluation} (h : evaluated key s.db i = some e) :
    ∃ latest rule clock, i = .evaluateRule latest rule.id clock ∧
      s.db.rules.find rule.id = some rule ∧ conditionKey latest rule = key ∧
      operate py s.db i = (ruleTurn py latest rule clock s.db).2 ∧
      e = { time := clock 2
            holds := (evaluateRuleCondition rule latest).1
            leavesTimer :=
              (activeAlertForRule latest rule s.db).isSome &&
                (s.db.findConditionState key).isSome } := by
  cases i with
  | evaluateRule latest id clock =>
      obtain ⟨rule, hrule, hrecord⟩ := Option.bind_eq_some_iff.mp h
      obtain rfl : rule.id = id := (Table.find_eq_some_iff.mp hrule).2
      split at hrecord
      · rename_i hkey
        refine ⟨latest, rule, clock, rfl, hrule, hkey, ?_, (Option.some.inj hrecord).symm⟩
        simp only [operate, hrule]
      · cases hrecord
  | _ => cases h

/-- **The step lemma** for timers. -/
theorem timerFresh_step (h : TimerFresh key s) : TimerFresh key (step py key s i) := by
  intro state hstate
  cases hevaluated : evaluated key s.db i with
  | none =>
      have hkept : KeepsTimer key s.db (operate py s.db i) :=
        (operate_of_not_evaluated hevaluated).1
      simp only [step, hevaluated] at hstate ⊢
      exact h state (Eq.trans (Eq.symm hkept) hstate)
  | some e =>
      obtain ⟨latest, rule, clock, rfl, hrule, rfl, hturn, rfl⟩ :=
        @evaluated_eq_some py _ _ _ _ hevaluated
      simp only [step, hevaluated, hturn, Option.toList_some, List.singleton_append] at hstate ⊢
      cases hholds : (evaluateRuleCondition rule latest).1 with
      | false =>
          -- no timer is left, or one that this evaluation has left running
          obtain ⟨hactive, hsome⟩ := timer_of_false hholds hstate
          exact Or.inl ⟨_, lastFalse_cons_of_false rfl, by simp [hactive, hsome]⟩
      | true =>
          rw [lastFalse_cons_of_true rfl, List.takeWhile_cons_of_pos rfl]
          have hstart := (ticks_ruleTurn hholds s.db).firstSeenAt hstate
          cases hbefore : s.db.findConditionState (conditionKey latest rule) with
          | none =>
              refine Or.inr ⟨_, List.mem_cons_self, ?_⟩
              simp only [hstart, timerStart, hbefore, Option.elim_none]
          | some old =>
              have hsame : state.firstSeenAt = old.firstSeenAt := by
                simp only [hstart, timerStart, hbefore, Option.elim_some]
              refine (h old hbefore).imp_right ?_
              rintro ⟨e, he, htime⟩
              exact ⟨e, List.mem_cons_of_mem _ he, htime.trans hsame.symm⟩

/-- An alert that opens on a timer that is not left behind opens after its duration. -/
theorem opensAfterDuration_step {rule : AlertRule} (h : TimerFresh key s)
    (hrule : s.db.rules.find key.alertRule = some rule)
    (hcleared : TimerCleared key s i (step py key s i)) :
    OpensAfterDuration key rule s i (step py key s i) := by
  intro hopens
  cases hevaluated : evaluated key s.db i with
  | none => exact absurd hopens (operate_of_not_evaluated hevaluated).2
  | some e =>
      refine ⟨e, rfl, ?_⟩
      obtain ⟨latest, other, clock, rfl, hother, rfl, hturn, rfl⟩ :=
        @evaluated_eq_some py _ _ _ _ hevaluated
      obtain rfl : other = rule := Option.some.inj (hother.symm.trans hrule)
      simp only [step, hturn] at hopens
      obtain ⟨-, hholds, hnone, hclear, hlasted⟩ := lasted_of_opens hopens
      have hmay : mayOpen (conditionKey latest other) s.db
          (.evaluateRule latest other.id clock) := by
        simp [mayOpen, hother, hholds, hnone, hclear]
      simp only [step, hevaluated, Option.toList_some, List.singleton_append, Lasted]
      rw [List.takeWhile_cons_of_pos (by exact hholds)]
      -- the timer has run since now, or since an evaluation of the streak
      rcases hlasted with hzero | hlong
      · exact ⟨_, List.mem_cons_self, by simp [hzero]⟩
      · cases hbefore : s.db.findConditionState (conditionKey latest other) with
        | none =>
            simp only [timerStart, hbefore, Option.elim_none] at hlong
            exact ⟨_, List.mem_cons_self, hlong⟩
        | some state =>
            simp only [timerStart, hbefore, Option.elim_some] at hlong
            rcases h state hbefore with ⟨e, he, hleaves⟩ | ⟨e, he, htime⟩
            · rw [hcleared hmay e he] at hleaves
              cases hleaves
            · exact ⟨e, List.mem_cons_of_mem _ he, htime ▸ hlong⟩

/-- No step edits a rule. -/
theorem rules_step : (step py key s i).db.rules = s.db.rules := by
  have hopens : OpensOnly ∅ s.db (operate py s.db i) →
      (operate py s.db i).rules = s.db.rules := fun honly => honly.setup.rules
  cases i with
  | evaluateRule latest id clock =>
      cases hfind : s.db.rules.find id with
      | none => simp only [step, operate, hfind]
      | some rule =>
          simp only [step, operate, hfind]
          exact (respects_ruleTurn s.db).setup.rules
  | resolveUpsTrapAlert latest clock =>
      exact hopens (Tx.respects_atomic respects_resolveUpsTrapAlertIfNeeded s.db)
  | acknowledgeAlert alert user comment now =>
      exact hopens (rel_onAlert fun alert halert => opensOnly_acknowledgeAlert halert)
  | manuallyResolveAlert alert user comment now =>
      exact hopens (rel_onAlert fun alert _ => respects_manuallyResolveAlert s.db)
  | suppressAlert alert user reason now =>
      exact hopens (rel_onAlert fun alert _ => respects_suppressAlert s.db)
  | setWindows windows => rfl

/-- The turns of stored rules are steps of a run, each on the row of the evaluation. -/
theorem ruleTurns_eq_run {latest : LatestTelemetry} {rules : List AlertRule} {db : AlertsDb}
    (hstored : ∀ rule ∈ rules, db.rules.find rule.id = some rule) (clock : ℕ → ℕ → Instant) :
    ∃ w, (ruleTurns py latest rules clock db).2 = run (operate py) db w ∧
      ∀ i ∈ w, ∃ rule ∈ rules, ∃ clock, i = .evaluateRule latest rule.id clock := by
  induction rules generalizing db clock with
  | nil => exact ⟨[], rfl, by simp⟩
  | cons rule rules ih =>
      have hturn : operate py db (.evaluateRule latest rule.id (clock 0)) =
          (ruleTurn py latest rule (clock 0) db).2 := by
        simp only [operate, hstored rule List.mem_cons_self]
      rcases h : ruleTurn py latest rule (clock 0) db with ⟨e | result, db'⟩
      · refine ⟨[.evaluateRule latest rule.id (clock 0)], ?_, ?_⟩
        · rw [run_cons, run_nil, hturn, h, ruleTurns, Tx.bind_of_error h]
        · rintro i hi
          exact ⟨rule, List.mem_cons_self, clock 0, List.mem_singleton.mp hi⟩
      · have hrules : db'.rules = db.rules := (respects_ruleTurn.of_eq h).setup.rules
        obtain ⟨w, hrun, hw⟩ := @ih db' (fun other hother => hrules ▸
          hstored other (List.mem_cons_of_mem _ hother)) fun i => clock (i + 1)
        refine ⟨.evaluateRule latest rule.id (clock 0) :: w, ?_, ?_⟩
        · rw [run_cons, hturn, h, ← hrun, ruleTurns, Tx.bind_of_ok h]
          exact (Tx.rel_after_bind (R := Eq) fun _ => Tx.respects_pure _).symm
        · rintro i hi
          rcases List.mem_cons.mp hi with rfl | hi
          · exact ⟨rule, List.mem_cons_self, clock 0, rfl⟩
          · obtain ⟨other, hother, clock', rfl⟩ := hw i hi
            exact ⟨other, List.mem_cons_of_mem _ hother, clock', rfl⟩

/-- **An evaluation is a run**: the turns of the matching rules, and the trap step unless
a turn raises. -/
theorem evaluateLatest_eq_run {latest : LatestTelemetry} {cached : Option (List RuleId)}
    {db : AlertsDb} (clock : ℕ → ℕ → Instant) :
    ∃ turns tail, (evaluateLatest py latest cached clock db).2 =
        run (operate py) db (turns ++ tail) ∧
      (∀ i ∈ turns, ∃ rule ∈ getMatchingRules db latest cached, ∃ clock,
        i = .evaluateRule latest rule.id clock) ∧
      ∀ i ∈ tail, ∃ clock, i = .resolveUpsTrapAlert latest clock := by
  have hstored : ∀ rule ∈ getMatchingRules db latest cached, db.rules.find rule.id = some rule :=
    fun rule hrule => Table.find_pk (mem_rules_of_mem_getMatchingRules hrule)
  obtain ⟨turns, hrun, hturns⟩ := @ruleTurns_eq_run py latest _ db hstored clock
  rcases h : ruleTurns py latest (getMatchingRules db latest cached) clock db with
    ⟨e | alerts, db'⟩
  · refine ⟨turns, [], ?_, hturns, by simp⟩
    rw [List.append_nil, ← hrun, h]
    exact congrArg Prod.snd ((Tx.bind_of_ok rfl).trans (Tx.bind_of_error h))
  · refine ⟨turns, [.resolveUpsTrapAlert latest
      (clock (getMatchingRules db latest cached).length)], ?_, hturns, by simp⟩
    rw [run_concat, ← hrun, h]
    exact (congrArg Prod.snd ((Tx.bind_of_ok rfl).trans (Tx.bind_of_ok h))).trans
      (Tx.rel_after_bind (R := Eq) fun _ => Tx.respects_pure _).symm

/-- **Duration means continuous duration**, in every run from a state without a timer, in
which no evaluation that may open an alert relies on a timer that the last false condition
has left running. -/
theorem opensAfterDuration_of_cleared (py : PyText) {key : ConditionKey} {rule : AlertRule}
    {db : AlertsDb} (hrule : db.rules.find key.alertRule = some rule)
    (hquiet : db.findConditionState key = none) {w : List TimerOperation}
    (hcleared : Along (step py key) (TimerCleared key) ⟨db, []⟩ w) :
    Along (step py key) (OpensAfterDuration key rule) ⟨db, []⟩ w := by
  refine along_mono (I := fun s => TimerFresh key s ∧ s.db.rules.find key.alertRule = some rule)
    (fun s i hs _ => ⟨timerFresh_step hs.1, by rw [rules_step]; exact hs.2⟩)
    (fun s i hs hi => opensAfterDuration_step hs.1 hs.2 hi) ⟨?_, hrule⟩ hcleared
  intro state hstate
  cases hquiet.symm.trans hstate

/-! ### A rule of one minute -/

/-- An alert after a minute above 30 degrees. -/
def minuteRule : AlertRule := { tooHot with durationSeconds := 60 }

/-- A data center with one sensor, a rule of one minute and no alerts. -/
def minuteRoom : AlertsDb :=
  .quiet serverRoom.hierarchy serverRoom.deviceTypes serverRoom.metrics (.ofRows [minuteRule])
    .empty

/-- A reading of 20 degrees. -/
def mildRow : LatestTelemetry := sensorRow { valueFloat := some (.finite 20) } .good

/-- The rule is evaluated on a row, so many seconds after the start. -/
def evaluateAt (latest : LatestTelemetry) (seconds : ℤ) : TimerOperation :=
  .evaluateRule latest 1 fun _ => seconds * 1000000

/-- Two hot readings open the alert, and a cool one resolves it.  The next cool one
deletes the timer, so that the alert opens a minute after the next hot one. -/
theorem opensAfterDuration_of_cleared_minuteRoom :
    Along (step plainText (conditionKey hotRow minuteRule))
      (OpensAfterDuration (conditionKey hotRow minuteRule) minuteRule) ⟨minuteRoom, []⟩
      [evaluateAt hotRow 0, evaluateAt hotRow 60, evaluateAt mildRow 90, evaluateAt mildRow 120,
        evaluateAt hotRow 150, evaluateAt hotRow 210] :=
  opensAfterDuration_of_cleared plainText (by decide) (by decide) (by decide)

/-- Without the second cool reading, the alert opens with the next hot one. -/
theorem minuteRoom_opens_at_once :
    ¬Along (step plainText (conditionKey hotRow minuteRule))
      (OpensAfterDuration (conditionKey hotRow minuteRule) minuteRule) ⟨minuteRoom, []⟩
      [evaluateAt hotRow 0, evaluateAt hotRow 60, evaluateAt mildRow 90,
        evaluateAt hotRow 91] := by
  decide

end Watched

end DcimBackend
