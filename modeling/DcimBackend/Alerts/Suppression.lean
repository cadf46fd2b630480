import DcimBackend.Alerts.Lifecycle
import Mathlib.Data.Finset.Card

/-!
# Suppressed alerts

Under a suppression window a true condition closes the active alert of its rule, and
where there is none it creates a suppressed one.  The lookup in front of both only sees
active alerts, so the suppressed one of the last evaluation is not found, and the next
evaluation creates another.

`exists_suppressed_run` counts them: a run of evaluations under suppression makes exactly
one alert of the key suppressed with each evaluation.

The readings of an episode may differ, and so may the clock; it is only asked to be under
suppression at each of its evaluations (`RowEvaluation.UnderSuppression`).
-/

namespace DcimBackend

open Library

/-- A suppressed alert of a key. -/
def AlertEvent.SuppressedFor (alert : AlertEvent) (key : ConditionKey) : Prop :=
  alert.status = .suppressed ∧ alert.HasKey key

instance (alert : AlertEvent) (key : ConditionKey) : Decidable (alert.SuppressedFor key) :=
  inferInstanceAs (Decidable (_ ∧ _))

/-- An evaluation of a row, with the readings of the clock that the rule's turn makes. -/
structure RowEvaluation where
  latest : LatestTelemetry
  clock : ℕ → Instant

/-- The evaluation is one of the key, finds the condition of the rule true, and a window
that covers the row. -/
structure RowEvaluation.UnderSuppression (e : RowEvaluation) (rule : AlertRule)
    (key : ConditionKey) (db : AlertsDb) : Prop where
  key : conditionKey e.latest rule = key
  holds : (evaluateRuleCondition rule e.latest).1 = true
  suppressed : hasSuppression e.latest (e.clock 1) db = true

namespace AlertsDb

/-- The keys of the suppressed alerts of a key. -/
def suppressedIds (db : AlertsDb) (key : ConditionKey) : Set AlertId :=
  {id | ∃ alert ∈ db.alerts, alert.id = id ∧ alert.SuppressedFor key}

/-- An alert of the key has been created as suppressed, or suppressed, in between. -/
def NewlySuppressed (key : ConditionKey) (db : AlertsDb) (alert : AlertEvent) : Prop :=
  alert.SuppressedFor key ∧ ∀ old ∈ db.alerts, old.id = alert.id → ¬old.SuppressedFor key

instance {key : ConditionKey} {db : AlertsDb} {alert : AlertEvent} :
    Decidable (NewlySuppressed key db alert) :=
  inferInstanceAs (Decidable (_ ∧ ∀ old ∈ db.alerts, _))

/-- At most one alert of the key has been created as suppressed, or suppressed. -/
def AtMostOneSuppressed (key : ConditionKey) (db db' : AlertsDb) : Prop :=
  ∀ a ∈ db'.alerts, ∀ b ∈ db'.alerts,
    NewlySuppressed key db a → NewlySuppressed key db b → a.id = b.id

instance {key : ConditionKey} {db db' : AlertsDb} :
    Decidable (AtMostOneSuppressed key db db') :=
  inferInstanceAs (Decidable (∀ a ∈ db'.alerts, ∀ b ∈ db'.alerts, _))

variable {db db' : AlertsDb} {key : ConditionKey}

/-- On the sets of keys. -/
theorem atMostOneSuppressed_iff :
    AtMostOneSuppressed key db db' ↔
      (db'.suppressedIds key \ db.suppressedIds key).Subsingleton := by
  have hnew : ∀ alert ∈ db'.alerts, (NewlySuppressed key db alert ↔
      alert.id ∈ db'.suppressedIds key \ db.suppressedIds key) := by
    intro alert halert
    constructor
    · rintro ⟨hsuppressed, hold⟩
      refine ⟨⟨alert, halert, rfl, hsuppressed⟩, ?_⟩
      rintro ⟨old, hmem, hid, holdSuppressed⟩
      exact hold old hmem hid holdSuppressed
    · rintro ⟨⟨other, hother, hid, hsuppressed⟩, hnot⟩
      obtain rfl : other = alert := db'.alerts.eq_of_pk_eq hother halert hid
      exact ⟨hsuppressed, fun old hold hid h => hnot ⟨old, hold, hid, h⟩⟩
  constructor
  · rintro h x hx y hy
    obtain ⟨a, ha, rfl, -⟩ := hx.1
    obtain ⟨b, hb, rfl, -⟩ := hy.1
    exact h a ha b hb ((hnew a ha).mpr hx) ((hnew b hb).mpr hy)
  · intro h a ha b hb hna hnb
    exact h ((hnew a ha).mp hna) ((hnew b hb).mp hnb)

/-! ### One evaluation -/

/-- A saved suppression adds the alert to its key. -/
theorem Saved.suppressedIds_eq {copy alert : AlertEvent} {columns : List AlertColumn}
    (h : db.Saved db' copy columns) (halert : alert ∈ db.alerts) (hid : copy.id = alert.id)
    (hcolumn : .status ∈ columns) (hstatus : copy.status = .suppressed)
    (hkey : alert.HasKey key) :
    db'.suppressedIds key = insert alert.id (db.suppressedIds key) := by
  obtain ⟨stored, hfind, halerts⟩ := h
  rw [hid, ← pk_alertEvent, Table.find_pk halert] at hfind
  obtain rfl := Option.some.inj hfind
  have hsuppressed : (AlertEvent.write columns copy alert).SuppressedFor key :=
    ⟨by rw [AlertEvent.write_status, if_pos hcolumn, hstatus], hkey⟩
  ext id
  simp only [suppressedIds, halerts, Table.mem_save, Set.mem_ofPred_eq, Set.mem_insert_iff,
    pk_alertEvent, AlertEvent.write_id]
  constructor
  · rintro ⟨row, rfl | ⟨hrow, -⟩, rfl, hrowSuppressed⟩
    · exact Or.inl rfl
    · exact Or.inr ⟨row, hrow, rfl, hrowSuppressed⟩
  · rintro (rfl | ⟨row, hrow, rfl, hrowSuppressed⟩)
    · exact ⟨_, Or.inl rfl, rfl, hsuppressed⟩
    · by_cases hsame : row.id = alert.id
      · exact ⟨_, Or.inl rfl, hsame.symm, hsuppressed⟩
      · exact ⟨row, Or.inr ⟨hrow, hsame⟩, rfl, hrowSuppressed⟩

/-- A created suppressed alert is one more of its key. -/
theorem Created.suppressedIds_eq {alert : AlertEvent} (h : db.Created db' alert)
    (hsuppressed : alert.SuppressedFor key) :
    db'.suppressedIds key = insert alert.id (db.suppressedIds key) := by
  ext id
  simp only [suppressedIds, Set.mem_ofPred_eq, h.mem_alerts_iff, Set.mem_insert_iff]
  constructor
  · rintro ⟨row, rfl | hrow, rfl, hrowSuppressed⟩
    · exact Or.inl rfl
    · exact Or.inr ⟨row, hrow, rfl, hrowSuppressed⟩
  · rintro (rfl | ⟨row, hrow, rfl, hrowSuppressed⟩)
    · exact ⟨alert, Or.inl rfl, rfl, hsuppressed⟩
    · exact ⟨row, Or.inr hrow, rfl, hrowSuppressed⟩

section Evaluation

variable {py : PyText} {latest : LatestTelemetry} {rule : AlertRule} {clock : ℕ → Instant}

/-- Suppressing a stored alert succeeds. -/
theorem suppressAlert_succeeds {alert : AlertEvent} (user : Option UserId)
    (reason : Option String) (now : Instant) (halert : alert ∈ db.alerts) :
    ∃ result db', suppressAlert alert user reason now db = (.ok result, db') := by
  have hfind : db.alerts.find alert.id = some alert := Table.find_pk halert
  obtain ⟨db₁, hsave, -⟩ : ∃ db₁, saveAlert (alert.asSuppressed user reason now)
      [.status, .resolvedAt, .resolvedBy, .resolutionType, .resolveComment] db = (.ok ⟨⟩, db₁) ∧
      db.SameSetup db₁ ∧ _ := saveAlert_of_find hfind (by simp) (by simp)
  exact ⟨_, _, Tx.bind_eq_ok_iff.mpr ⟨_, db₁, hsave, Tx.bind_eq_ok_iff.mpr
    ⟨(), _, createAlertLog_eq_ok_iff.mpr ⟨⟨rfl, rfl⟩, rfl⟩, rfl⟩⟩⟩

/-- Creating a suppressed alert for a stored rule succeeds, for the key of the rule and
the row. -/
theorem createSuppressedAlert_succeeds {value threshold : PyValue} (now createdAt : Instant)
    (hrule : rule ∈ db.rules) :
    ∃ result db', createSuppressedAlert py latest rule value threshold now createdAt db =
        (.ok result, db') ∧ result.HasKey (conditionKey latest rule) := by
  have hstored : ∀ id ∈ some rule.id, (db.rules.find id).isSome := by
    rintro id ⟨rfl⟩
    exact Table.isSome_find_iff.mpr ⟨rule, hrule, rfl⟩
  obtain ⟨db₁, hcreate⟩ := @createAlert_of_storable db
    { toReading := latest.toReading
      organization := latest.organization
      dataCenter := latest.dataCenter
      device := latest.device.id
      metric := some latest.metric.id
      alertRule := some rule.id
      severity := rule.severity
      status := .suppressed
      message := alertPayload py latest rule value threshold
      triggeredAt := now
      lastSeenAt := some now
      resolutionType := some "SUPPRESSED"
      resolveComment := some "Suppression window active"
      createdAt := createdAt } rfl hstored
  exact ⟨_, _, Tx.bind_eq_ok_iff.mpr ⟨_, db₁, hcreate, Tx.bind_eq_ok_iff.mpr
    ⟨(), _, createAlertLog_eq_ok_iff.mpr ⟨⟨rfl, rfl⟩, rfl⟩, rfl⟩⟩, rfl, rfl, rfl, rfl, rfl⟩

/-- **The step lemma**: an evaluation under suppression makes one alert more suppressed. -/
theorem exists_suppressed_ruleTurn (hrule : rule ∈ db.rules)
    (htrue : (evaluateRuleCondition rule latest).1 = true)
    (hsuppressed : hasSuppression latest (clock 1) db = true) :
    ∃ id ∉ db.suppressedIds (conditionKey latest rule),
      (ruleTurn py latest rule clock db).2.suppressedIds (conditionKey latest rule) =
        insert id (db.suppressedIds (conditionKey latest rule)) := by
  cases hfound : activeAlertForRule latest rule db with
  | some alert =>
      obtain ⟨halert, hactive, hkey⟩ := activeAlertForRule_some hfound
      have hstatus : alert.status ≠ .suppressed := by
        intro hclosed
        rw [hclosed] at hactive
        cases hactive
      obtain ⟨result, db', hsuppress⟩ := suppressAlert_succeeds none
        (some "Suppression window active") (clock 2) halert
      obtain ⟨hid, hresult, hsaved⟩ := suppressAlert_ok hsuppress
      have hturn : ruleTurn py latest rule clock db = (.ok (some result), db') := by
        rw [ruleTurn_of_true htrue hfound]
        refine Tx.atomic_eq_ok_iff.mpr (Tx.bind_eq_ok_iff.mpr ⟨_, db, rfl, ?_⟩)
        simp only [hsuppressed, if_pos, if_pos hstatus]
        exact map_eq_ok_iff.mpr ⟨result, hsuppress, rfl⟩
      refine ⟨alert.id, ?_, ?_⟩
      · rintro ⟨other, hother, hsame, hclosed, -⟩
        obtain rfl : other = alert := db.alerts.eq_of_pk_eq hother halert hsame
        exact hstatus hclosed
      · rw [hturn]
        exact hsaved.suppressedIds_eq halert hid (by simp) hresult hkey
  | none =>
      obtain ⟨result, db', hcreate, hkey⟩ := @createSuppressedAlert_succeeds db py latest rule
        (evaluateRuleCondition rule latest).2.1 (evaluateRuleCondition rule latest).2.2 (clock 0)
        (clock 2) hrule
      obtain ⟨hresult, hcreated⟩ := createSuppressedAlert_ok hcreate
      have hturn : ruleTurn py latest rule clock db = (.ok (some result), db') := by
        rw [ruleTurn_of_true htrue hfound]
        refine Tx.atomic_eq_ok_iff.mpr ((ensureAlert_none_of_suppressed hsuppressed).trans ?_)
        exact map_eq_ok_iff.mpr ⟨result, hcreate, rfl⟩
      refine ⟨result.id, ?_, ?_⟩
      · -- a new key is in no set
        rintro ⟨other, hother, hsame, -⟩
        have hlt := db.alerts.pk_lt_nextPk other hother
        rw [pk_alertEvent, hsame, hcreated.1] at hlt
        exact lt_irrefl _ hlt
      · rw [hturn]
        exact hcreated.suppressedIds_eq ⟨hresult, hkey⟩

/-! ### Runs -/

/-- An evaluation as a step: the turn of the rule. -/
def evaluateRow (py : PyText) (rule : AlertRule) (db : AlertsDb) (e : RowEvaluation) : AlertsDb :=
  (ruleTurn py e.latest rule e.clock db).2

/-- An evaluation changes neither the rules nor the windows. -/
theorem setup_evaluateRow (e : RowEvaluation) : db.SameSetup (evaluateRow py rule db e) :=
  (respects_ruleTurn db).setup

/-- **The run lemma**: a run under suppression makes as many alerts of the key suppressed
as it has evaluations. -/
theorem exists_suppressed_run {w : List RowEvaluation} (hrule : rule ∈ db.rules)
    (hw : ∀ e ∈ w, e.UnderSuppression rule key db) :
    ∃ ids : Finset AlertId, ids.card = w.length ∧ (∀ id ∈ ids, id ∉ db.suppressedIds key) ∧
      (run (evaluateRow py rule) db w).suppressedIds key = db.suppressedIds key ∪ ids := by
  induction w generalizing db with
  | nil => exact ⟨∅, rfl, by simp, by simp⟩
  | cons e w ih =>
      obtain ⟨rfl, hholds, hsuppressed⟩ := hw e List.mem_cons_self
      have hsetup : db.SameSetup (evaluateRow py rule db e) := setup_evaluateRow e
      obtain ⟨id, hid, hstep⟩ := @exists_suppressed_ruleTurn db py e.latest rule e.clock hrule
        hholds hsuppressed
      have hstep : (evaluateRow py rule db e).suppressedIds (conditionKey e.latest rule) =
          insert id (db.suppressedIds (conditionKey e.latest rule)) := hstep
      -- the windows are the same, so the rest of the run is under suppression too
      have hrest : ∀ e' ∈ w,
          e'.UnderSuppression rule (conditionKey e.latest rule) (evaluateRow py rule db e) := by
        intro e' he'
        obtain ⟨hkey, hholds, hsuppressed⟩ := hw e' (List.mem_cons_of_mem _ he')
        refine ⟨hkey, hholds, ?_⟩
        rw [← hsuppressed]
        unfold hasSuppression
        rw [hsetup.windows]
      obtain ⟨ids, hcard, hnew, hrun⟩ := ih (hsetup.rules ▸ hrule) hrest
      have hfresh : id ∉ ids := by
        intro hmem
        have hnot := hnew id hmem
        rw [hstep] at hnot
        exact hnot (Set.mem_insert id _)
      refine ⟨insert id ids, ?_, ?_, ?_⟩
      · rw [Finset.card_insert_of_notMem hfresh, hcard, List.length_cons]
      · intro other hother hold
        rcases Finset.mem_insert.mp hother with rfl | hmem
        · exact hid hold
        · have hnot := hnew other hmem
          rw [hstep] at hnot
          exact hnot (Set.mem_insert_of_mem id hold)
      · rw [run_cons, hrun, hstep, Finset.coe_insert, Set.insert_union, Set.union_insert]

/-- **One suppressed alert per episode** exactly if the episode is at most one evaluation
long. -/
theorem atMostOneSuppressed_run_iff {w : List RowEvaluation} (hrule : rule ∈ db.rules)
    (hw : ∀ e ∈ w, e.UnderSuppression rule key db) :
    AtMostOneSuppressed key db (run (evaluateRow py rule) db w) ↔ w.length ≤ 1 := by
  obtain ⟨ids, hcard, hnew, hrun⟩ := @exists_suppressed_run db key py rule w hrule hw
  have hdiff : (db.suppressedIds key ∪ ids) \ db.suppressedIds key = (ids : Set AlertId) := by
    rw [Set.union_sdiff_left, sdiff_eq_left, Set.disjoint_left]
    exact fun id hid => hnew id hid
  rw [atMostOneSuppressed_iff, hrun, hdiff, ← hcard, Finset.card_le_one_iff_subsingleton]

end Evaluation

/-! ### A room in maintenance -/

/-- A window on everything of the organization. -/
def maintenance : AlertSuppressionWindow :=
  { id := 1, organization := some 1, startsAt := some 0, endsAt := some 3600000000 }

/-- The server room during the maintenance. -/
def maintainedRoom : AlertsDb :=
  .quiet serverRoom.hierarchy serverRoom.deviceTypes serverRoom.metrics serverRoom.rules
    (.ofRows [maintenance])

/-- Three hot readings, a minute after another. -/
def threeReadings : List RowEvaluation :=
  [⟨hotRow, fun _ => 0⟩, ⟨hotRow, fun _ => 60000000⟩, ⟨hotRow, fun _ => 120000000⟩]

theorem atMostOneSuppressed_run_iff_threeReadings :
    AtMostOneSuppressed (conditionKey hotRow tooHot) maintainedRoom
      (run (evaluateRow plainText tooHot) maintainedRoom threeReadings) ↔
        threeReadings.length ≤ 1 := by
  refine atMostOneSuppressed_run_iff (by decide) fun e he => ?_
  simp only [threeReadings, List.mem_cons, List.not_mem_nil, or_false] at he
  rcases he with rfl | rfl | rfl
  · exact ⟨rfl, by decide, by decide⟩
  · exact ⟨rfl, by decide, by decide⟩
  · exact ⟨rfl, by decide, by decide⟩

/-- Each of the readings leaves a suppressed alert. -/
theorem threeReadings_suppressed :
    ¬AtMostOneSuppressed (conditionKey hotRow tooHot) maintainedRoom
      (run (evaluateRow plainText tooHot) maintainedRoom threeReadings) := by
  decide

end AlertsDb

end DcimBackend
