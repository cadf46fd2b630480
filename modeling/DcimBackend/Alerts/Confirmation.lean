import DcimBackend.Alerts.Duration

/-!
# Confirming the alarms of a PAC

`process_pac_trap_alarm_confirmation` of
`collectors/snmp_trap_receiver/pac_alarm_handler.py` polls each alarm of a PAC, stores the
polled state as telemetry, and lets the rules of the metric speak first.  Where they return
no alert, the exact alert of the metric takes their place.

So each confirmation acts on one alert at most, its `confirmationTarget`, which is a
function of the state before it.  A confirmed 0 closes the target, a confirmed 1 keeps it,
or opens one where there is none, and no other alert of the metric is looked at.
`along_agreesWithDevice_iff` says what this comes to: the alerts agree with the device
exactly if the metric had no active alert but the target.

The polled value reaches the evaluation as a row of the latest telemetry, so a rule sees it in the
way of every other reading.  A value that `_coerce_alarm_state` does not recognize raises before
anything is written, and a step with such a value changes nothing.

`Processed` says for which confirmations the claim is about the code: one rule at most matches, it
is true exactly on state 1, and no window suppresses it.  Other operations may come between the
confirmations, and are the reason why an alert of the metric may exist that no confirmation looks
at.
-/

namespace DcimBackend

open Library

/-! ### The states of an alarm -/

/-- An alarm state is 0 or 1. -/
def alarmStateOfInt (value : ℤ) : Option Bool :=
  if value = 1 then some true else if value = 0 then some false else none

/-- `_coerce_alarm_state`.  What `int()` raises is caught. -/
def coerceAlarmState (py : PyText) (value : PyValue) : Option Bool :=
  match value with
  | .bool value => some value
  | .none => none
  | .int value => alarmStateOfInt value
  | .text text =>
      let normalized := py.lower (pyStrip text)
      if normalized ∈ ["1", "true", "yes", "on", "active", "alarm"] then some true
      else if normalized ∈ ["0", "false", "no", "off", "normal", "restored"] then some false
      else (py.int normalized).bind alarmStateOfInt
  | .float (.finite value) => alarmStateOfInt (if 0 ≤ value then value.floor else value.ceil)
  | .float _ => none

/-- `PAC_ALARM_METRIC_CODES`. -/
def pacAlarmMetricCodes : List String :=
  ["GENERAL_ALARM", "ROOM_HIGH_TEMPERATURE_ALARM", "ROOM_LOW_TEMPERATURE_ALARM",
    "ROOM_HIGH_HUMIDITY_ALARM", "ROOM_LOW_HUMIDITY_ALARM", "FILTER_ALARM", "WATER_LEAK_ALARM",
    "AIRFLOW_ALARM", "PHASE_SEQUENCE_ALARM", "SMOKE_FIRE_ALARM", "LAN_ALARM",
    "EMERGENCY_POWER_ALARM"]

/-- `text.removeprefix(start)`. -/
def removePrefix (text start : String) : String :=
  if start.toList.isPrefixOf text.toList then
    String.ofList (text.toList.drop start.toList.length)
  else text

/-- `_normalize_code`, with Python's `str.upper`. -/
def normalizeCode (upper : String → String) (code : String) : String :=
  removePrefix (upper (pyStrip code)) "PAC_"

/-- `is_pac_alarm_metric`. -/
def isPacAlarmMetric (upper : String → String) (code : String) : Bool :=
  normalizeCode upper code ∈ pacAlarmMetricCodes

/-- `str.upper`, on an ASCII text. -/
def asciiUpper (text : String) : String := String.ofList (text.toList.map Char.toUpper)

/-- What Python documents of `str.upper` on an ASCII text. -/
def UppersAscii (upper : String → String) : Prop :=
  ∀ text : String, (∀ c ∈ text.toList, c.toNat < 128) → upper text = asciiUpper text

/-! ### One mapping -/

/-- The row that `write_device_telemetry_bulk` leaves for a confirmed state. -/
def confirmedRow (device : Device) (metric : MetricDefinition) (state : Bool)
    (confirmationAt : Instant) : LatestTelemetry where
  toReading := telemetryPayload metric state
  organization := device.organization
  dataCenter := device.dataCenter
  device := device
  metric := metric
  quality := .good
  lastSeenAt := confirmationAt
  source := some "TRAP_CONFIRMED_POLL"

/-- The body of the loop, from the evaluation on. -/
def confirmMapping (py : PyText) (device : Device) (metric : MetricDefinition) (state : Bool)
    (cached : Option (List RuleId)) (clock : ℕ → ℕ → Instant)
    (confirmationAt createdAt : Instant) : Engine Unit := do
  let evaluatedAlerts ←
    evaluateLatest py (confirmedRow device metric state confirmationAt) cached clock
  if evaluatedAlerts.isEmpty then
    confirmExactAlert device metric state confirmationAt createdAt

/-- The alert is one of a device's metric, with a rule or without. -/
def AlertEvent.OnMetric (device : Device) (metric : MetricDefinition) (alert : AlertEvent) :
    Prop :=
  alert.device = device.id ∧ alert.metric = some metric.id

instance (device : Device) (metric : MetricDefinition) (alert : AlertEvent) :
    Decidable (alert.OnMetric device metric) :=
  inferInstanceAs (Decidable (_ ∧ _))

namespace AlertsDb

variable (db : AlertsDb)

/-- The condition of a rule has lasted for its duration at `now`, with the condition state
that `_upsert_condition_state` starts or keeps. -/
def lasted (latest : LatestTelemetry) (rule : AlertRule) (now : Instant) : Bool :=
  rule.durationSeconds = 0 ∨
    rule.durationSeconds * 1000000 ≤ now - db.timerStart (conditionKey latest rule) now

/-- The exact alert that a confirmation finds. -/
def exactAlert (device : Device) (metric : MetricDefinition) : Option AlertEvent :=
  latestAlert (db.alerts.select (isExactAlert device metric))

/-- The alert that a confirmation finds and acts on: that of the rule, and else the exact
one, unless the rule opens an alert of its own. -/
def confirmationTarget (latest : LatestTelemetry) (rules : List AlertRule) (state : Bool)
    (now : Instant) : Option AlertEvent :=
  match rules.head? with
  | none => db.exactAlert latest.device latest.metric
  | some rule =>
      match activeAlertForRule latest rule db with
      | some alert => some alert
      | none =>
          if state && db.lasted latest rule now then none
          else db.exactAlert latest.device latest.metric

/-! ### What a confirmation does to the active alerts -/

/-- The active alerts after a confirmation that acts on a target: a confirmed 0 takes the
target out, a confirmed 1 keeps it, or adds a new alert. -/
def Confirms (P : AlertEvent → Prop) (state : Bool) (target : Option AlertEvent)
    (db db' : AlertsDb) : Prop :=
  db'.activeWhere P =
    match state, target with
    | true, some _ => db.activeWhere P
    | true, none => insert db.alerts.nextPk (db.activeWhere P)
    | false, some alert => db.activeWhere P \ {alert.id}
    | false, none => db.activeWhere P

section Turn

variable {db} {db' : AlertsDb} {py : PyText} {latest : LatestTelemetry} {rule : AlertRule}
  {clock : ℕ → Instant} {device : Device} {metric : MetricDefinition} {alert : AlertEvent}
  {result : Option AlertEvent} {state : Bool}

/-- No save moves an alert to another device or metric. -/
theorem onMetric_write {columns : List AlertColumn} {copy stored : AlertEvent} :
    (AlertEvent.write columns copy stored).OnMetric device metric ↔
      stored.OnMetric device metric := Iff.rfl

/-- A save of an inactive status acts on the alert. -/
theorem Saved.confirms_false {copy : AlertEvent} {columns : List AlertColumn}
    (h : db.Saved db' copy columns) (hid : copy.id = alert.id) (hcolumn : .status ∈ columns)
    (hstatus : copy.status.isActive = false) :
    Confirms (AlertEvent.OnMetric device metric) false (some alert) db db' :=
  (h.activeWhere_closed hcolumn hstatus).trans (by rw [hid])

/-- A save of other columns keeps the alert. -/
theorem Saved.confirms_true {copy : AlertEvent} {columns : List AlertColumn}
    (h : db.Saved db' copy columns) (hcolumn : .status ∉ columns) :
    Confirms (AlertEvent.OnMetric device metric) true (some alert) db db' :=
  h.activeWhere_kept hcolumn fun _ _ => onMetric_write

/-- An active alert of the metric is new. -/
theorem Created.confirms_true (h : db.Created db' alert) (hactive : alert.status.isActive)
    (hmetric : alert.OnMetric device metric) :
    Confirms (AlertEvent.OnMetric device metric) true none db db' := by
  refine Set.ext fun id => h.mem_activeWhere_iff.trans ?_
  rw [Set.mem_insert_iff, h.1]
  exact or_congr_left (and_iff_left ⟨hactive, hmetric⟩)

/-- A turn that finds the alert of its rule acts on it. -/
theorem confirms_ruleTurn_of_found (hstate : (evaluateRuleCondition rule latest).1 = state)
    (hclear : hasSuppression latest (clock 1) db = false)
    (hfound : activeAlertForRule latest rule db = some alert)
    (h : ruleTurn py latest rule clock db = (.ok result, db')) :
    result.isSome ∧ Confirms (AlertEvent.OnMetric device metric) state (some alert) db db' := by
  obtain ⟨-, hactive⟩ := activeAlertForRule_some hfound
  cases state with
  | false =>
      rw [ruleTurn_of_false hstate hfound, resolveFound_of_active hactive.1] at h
      obtain ⟨copy, hresolve, rfl⟩ := map_eq_ok_iff.mp (Tx.atomic_eq_ok_iff.mp h)
      obtain ⟨hid, hstatus, hsaved⟩ := resolveAlert_ok hresolve
      exact ⟨rfl, hsaved.confirms_false hid (by simp) (by rw [hstatus]; rfl)⟩
  | true =>
      rw [ruleTurn_of_true hstate hfound] at h
      have h := Tx.atomic_eq_ok_iff.mp h
      rw [ensureAlert, Tx.bind_apply, Tx.read_apply, hclear] at h
      simp only [Bool.false_eq_true, if_false, if_pos hactive.1] at h
      obtain ⟨copy, hupdate, rfl⟩ := map_eq_ok_iff.mp h
      obtain ⟨-, -, hsaved⟩ := updateActiveAlert_ok hupdate
      exact ⟨rfl, hsaved.confirms_true (by simp)⟩

/-- What the duration check of a turn answers. -/
theorem maybeCreateDurationAlert_eq {now : Instant} {answer : Bool}
    (h : maybeCreateDurationAlert latest rule now db = (.ok answer, db')) :
    answer = db.lasted latest rule now := by
  rcases @maybeCreateDurationAlert_apply latest rule db now with
    ⟨e, herror⟩ | ⟨timer, hrule, -, -, hok⟩
  · rw [herror] at h
    cases (Prod.mk.inj h).1
  · rw [hok] at h
    exact (Except.ok.inj (Prod.mk.inj h).1).symm

/-- A true condition without an alert, from what the duration check answers. -/
theorem ruleTurn_of_lacking (htrue : (evaluateRuleCondition rule latest).1 = true)
    (hclear : hasSuppression latest (clock 1) db = false)
    (hfound : activeAlertForRule latest rule db = none)
    (h : ruleTurn py latest rule clock db = (.ok result, db')) :
    ∃ db₁, db₁.alerts = db.alerts ∧
      (if db.lasted latest rule (clock 2) then
        some <$> openAlert py rule latest (evaluateRuleCondition rule latest).2.1
          (evaluateRuleCondition rule latest).2.2 (clock 3) (clock 4)
      else pure none) db₁ = (.ok result, db') := by
  rw [ruleTurn_of_true htrue hfound] at h
  have h := Tx.atomic_eq_ok_iff.mp h
  rw [ensureAlert_none_of_clear hclear] at h
  obtain ⟨answer, db₁, hduration, h⟩ := Tx.bind_eq_ok_iff.mp h
  obtain rfl := maybeCreateDurationAlert_eq hduration
  exact ⟨db₁, (maybeCreateDurationAlert_ok hduration).1, h⟩

/-- A turn whose condition has lasted opens the alert that is lacking. -/
theorem confirms_ruleTurn_of_lasted (htrue : (evaluateRuleCondition rule latest).1 = true)
    (hclear : hasSuppression latest (clock 1) db = false)
    (hfound : activeAlertForRule latest rule db = none)
    (hlasted : db.lasted latest rule (clock 2) = true)
    (h : ruleTurn py latest rule clock db = (.ok result, db')) :
    result.isSome ∧
      Confirms (AlertEvent.OnMetric latest.device latest.metric) true none db db' := by
  obtain ⟨db₁, halerts, h⟩ := ruleTurn_of_lacking htrue hclear hfound h
  rw [if_pos hlasted] at h
  obtain ⟨alert, hopen, rfl⟩ := map_eq_ok_iff.mp h
  obtain ⟨⟨hactive, -, -, hdevice, hmetric, -⟩, hid, hsaved⟩ := openAlert_ok hopen
  have hcreated : db.Created db' alert := ⟨by rw [hid, halerts], by rw [hsaved, halerts]⟩
  exact ⟨rfl, hcreated.confirms_true hactive ⟨hdevice, hmetric⟩⟩

/-- Any other turn leaves the alerts alone, and returns none. -/
theorem ruleTurn_of_idle (hstate : (evaluateRuleCondition rule latest).1 = state)
    (hclear : hasSuppression latest (clock 1) db = false)
    (hfound : activeAlertForRule latest rule db = none)
    (hidle : (state && db.lasted latest rule (clock 2)) = false)
    (h : ruleTurn py latest rule clock db = (.ok result, db')) :
    result = none ∧ db'.alerts = db.alerts := by
  cases state with
  | false =>
      rw [ruleTurn_of_false hstate hfound] at h
      have h := Tx.atomic_eq_ok_iff.mp h
      obtain ⟨hnone, rfl⟩ := Prod.mk.inj h
      exact ⟨(Except.ok.inj hnone).symm, rfl⟩
  | true =>
      obtain ⟨db₁, halerts, h⟩ := ruleTurn_of_lacking hstate hclear hfound h
      rw [Bool.true_and] at hidle
      rw [if_neg (by simp [hidle])] at h
      obtain ⟨hnone, rfl⟩ := Prod.mk.inj h
      exact ⟨(Except.ok.inj hnone).symm, halerts⟩

/-! ### The exact alert -/

/-- The exact alert that is found is an open one of the metric. -/
theorem exactAlert_some (h : db.exactAlert device metric = some alert) :
    alert ∈ db.alerts ∧ alert.status.isActive ∧ alert.OnMetric device metric := by
  obtain ⟨halert, hexact⟩ := Table.mem_select.mp (List.argmax_mem h)
  simp only [isExactAlert, Bool.and_eq_true, decide_eq_true_eq] at hexact
  obtain ⟨⟨⟨⟨⟨-, -⟩, hdevice⟩, hmetric⟩, -⟩, hopen⟩ := hexact
  exact ⟨halert, by rw [hopen]; rfl, hdevice, hmetric⟩

/-- `_open_or_update_exact_alert` acts on the exact alert, and opens it where it is
lacking. -/
theorem confirms_openOrUpdateExactAlert {confirmationAt createdAt : Instant}
    {found : AlertEvent × Bool}
    (h : openOrUpdateExactAlert device metric confirmationAt createdAt db = (.ok found, db')) :
    Confirms (AlertEvent.OnMetric device metric) true (db.exactAlert device metric) db db' := by
  obtain ⟨exact, db₁, hread, h⟩ := Tx.bind_eq_ok_iff.mp h
  obtain ⟨hexact, rfl⟩ := Prod.mk.inj hread
  rw [show db.exactAlert device metric = exact from Except.ok.inj hexact]
  cases exact with
  | some alert =>
      obtain ⟨_, db₂, hsave, h⟩ := Tx.bind_eq_ok_iff.mp h
      obtain ⟨-, rfl⟩ := Prod.mk.inj h
      exact (saveAlert_ok hsave).confirms_true (by simp)
  | none =>
      obtain ⟨alert, db₂, hcreate, h⟩ := Tx.bind_eq_ok_iff.mp h
      obtain ⟨-, rfl⟩ := Prod.mk.inj h
      obtain ⟨rfl, hcreated⟩ := createAlert_ok hcreate
      exact hcreated.confirms_true rfl ⟨rfl, rfl⟩

/-- `_resolve_exact_alert` acts on the exact alert. -/
theorem confirms_resolveExactAlert {confirmationAt : Instant}
    {found : Option AlertEvent × Bool}
    (h : resolveExactAlert device metric confirmationAt db = (.ok found, db')) :
    Confirms (AlertEvent.OnMetric device metric) false (db.exactAlert device metric) db db' := by
  obtain ⟨exact, db₁, hread, h⟩ := Tx.bind_eq_ok_iff.mp h
  obtain ⟨hexact, rfl⟩ := Prod.mk.inj hread
  rw [show db.exactAlert device metric = exact from Except.ok.inj hexact]
  cases exact with
  | none =>
      obtain ⟨-, rfl⟩ := Prod.mk.inj h
      rfl
  | some alert =>
      obtain ⟨_, db₂, hsave, h⟩ := Tx.bind_eq_ok_iff.mp h
      obtain ⟨-, rfl⟩ := Prod.mk.inj h
      exact (saveAlert_ok hsave).confirms_false rfl (by simp) rfl

theorem confirms_confirmExactAlert {confirmationAt createdAt : Instant} {u : Unit}
    (h : confirmExactAlert device metric state confirmationAt createdAt db = (.ok u, db')) :
    Confirms (AlertEvent.OnMetric device metric) state (db.exactAlert device metric) db db' := by
  have h := Tx.atomic_eq_ok_iff.mp h
  cases state with
  | true =>
      obtain ⟨found, db₁, hopen, h⟩ := Tx.bind_eq_ok_iff.mp h
      obtain ⟨-, rfl⟩ := Prod.mk.inj h
      exact confirms_openOrUpdateExactAlert hopen
  | false =>
      obtain ⟨found, db₁, hresolve, h⟩ := Tx.bind_eq_ok_iff.mp h
      obtain ⟨-, rfl⟩ := Prod.mk.inj h
      exact confirms_resolveExactAlert hresolve

/-- A confirmation depends on the alerts before it only. -/
theorem Confirms.of_alerts_eq {P : AlertEvent → Prop} {db₁ : AlertsDb}
    {target : Option AlertEvent} (halerts : db₁.alerts = db.alerts)
    (h : Confirms P state target db₁ db') : Confirms P state target db db' := by
  unfold Confirms at h ⊢
  rw [h, activeWhere_eq_of_alerts_eq halerts, halerts]

end Turn

/-! ### A whole confirmation -/

section Mapping

variable {db} {db' : AlertsDb} {py : PyText} {upper : String → String}
  {latest : LatestTelemetry} {device : Device} {metric : MetricDefinition} {state : Bool}
  {cached : Option (List RuleId)} {clock : ℕ → ℕ → Instant}
  {confirmationAt createdAt : Instant}

/-- The trap step of an evaluation has nothing to do for an alarm of a PAC. -/
theorem not_cleared_of_pacAlarm (hupper : UppersAscii upper)
    (hmetric : isPacAlarmMetric upper latest.metric.code) :
    isUpsAbnormalConditionCleared py latest = .ok false := by
  have hother : ∀ code ∈ ["ups_abnormal_conditions", "ups_output_status"],
      isPacAlarmMetric upper code = false := by
    intro code hcode
    have hstrip : ∀ code ∈ ["ups_abnormal_conditions", "ups_output_status"],
        (pyStrip code).toList.all (fun c => c.toNat < 128) = true ∧
          removePrefix (asciiUpper (pyStrip code)) "PAC_" ∉ pacAlarmMetricCodes := by decide
    obtain ⟨hascii, hnot⟩ := hstrip code hcode
    have hchars : ∀ c ∈ (pyStrip code).toList, c.toNat < 128 := fun c hc =>
      of_decide_eq_true (List.all_eq_true.mp hascii c hc)
    rw [isPacAlarmMetric, normalizeCode, hupper _ hchars]
    exact decide_eq_false hnot
  have hne : ∀ code ∈ ["ups_abnormal_conditions", "ups_output_status"],
      latest.metric.code ≠ code := by
    rintro code hcode rfl
    rw [hother _ hcode] at hmetric
    cases hmetric
  rw [isUpsAbnormalConditionCleared, if_neg (hne _ (by simp)), if_neg (hne _ (by simp))]

/-- Such an evaluation is the turns of the rules. -/
theorem ruleTurns_of_not_cleared {alerts : List AlertEvent}
    (hcleared : isUpsAbnormalConditionCleared py latest = .ok false)
    (h : evaluateLatest py latest cached clock db = (.ok alerts, db')) :
    ruleTurns py latest (getMatchingRules db latest cached) clock db = (.ok alerts, db') := by
  obtain ⟨turnAlerts, trapAlert, db₁, hturns, htrap, rfl⟩ := evaluateLatest_ok h
  -- without a cleared UPS condition the trap step does nothing
  rw [resolveUpsTrapAlertIfNeeded, hcleared] at htrap
  obtain ⟨⟨rfl⟩, rfl⟩ := Prod.mk.inj htrap
  rw [hturns]
  simp

/-- Where the rules return nothing, the exact alert is confirmed. -/
theorem confirmExactAlert_of_nil {db₁ : AlertsDb} {alerts : List AlertEvent} {u : Unit}
    (hnil : alerts = [])
    (h : (if alerts.isEmpty then
        confirmExactAlert device metric state confirmationAt createdAt else pure ⟨⟩) db₁ =
      (.ok u, db')) :
    confirmExactAlert device metric state confirmationAt createdAt db₁ = (.ok u, db') := by
  subst hnil
  exact h

/-- Where they return an alert, nothing else is done. -/
theorem eq_of_isSome {db₁ : AlertsDb} {alert : Option AlertEvent} {u : Unit}
    (hsome : alert.isSome)
    (h : (if (alert.toList ++ []).isEmpty then
        confirmExactAlert device metric state confirmationAt createdAt else pure ⟨⟩) db₁ =
      (.ok u, db')) : db' = db₁ := by
  obtain ⟨alert, rfl⟩ := Option.isSome_iff_exists.mp hsome
  exact (Prod.mk.inj h).2.symm

/-- **A confirmation** that returns acts on its target. -/
theorem confirms_confirmMapping {u : Unit} (hupper : UppersAscii upper)
    (hmetric : isPacAlarmMetric upper metric.code)
    (hlatest : latest = confirmedRow device metric state confirmationAt)
    (hrules : (getMatchingRules db latest cached).length ≤ 1)
    (hstate : ∀ rule ∈ getMatchingRules db latest cached,
      (evaluateRuleCondition rule latest).1 = state)
    (hclear : ∀ rule ∈ getMatchingRules db latest cached,
      hasSuppression latest (clock 0 1) db = false)
    (h : confirmMapping py device metric state cached clock confirmationAt createdAt db =
      (.ok u, db')) :
    Confirms (AlertEvent.OnMetric device metric) state
      (db.confirmationTarget latest (getMatchingRules db latest cached) state (clock 0 2))
      db db' := by
  obtain ⟨alerts, db₁, hevaluate, h⟩ := Tx.bind_eq_ok_iff.mp h
  rw [← hlatest] at hevaluate
  have hdevice : latest.device = device := by rw [hlatest]; rfl
  have hsame : latest.metric = metric := by rw [hlatest]; rfl
  have hcleared : isUpsAbnormalConditionCleared py latest = .ok false :=
    not_cleared_of_pacAlarm hupper (by rw [hsame]; exact hmetric)
  have hturns := ruleTurns_of_not_cleared hcleared hevaluate
  generalize getMatchingRules db latest cached = rules at hrules hstate hclear hturns ⊢
  rcases rules with _ | ⟨rule, _ | ⟨other, rules⟩⟩
  · -- no rule
    obtain ⟨hnil, rfl⟩ := Prod.mk.inj hturns
    have hexact := confirms_confirmExactAlert
      (confirmExactAlert_of_nil (Except.ok.inj hnil).symm h)
    simpa only [confirmationTarget, List.head?_nil, hdevice, hsame] using hexact
  · have hstate : (evaluateRuleCondition rule latest).1 = state :=
      hstate rule List.mem_cons_self
    have hclear : hasSuppression latest (clock 0 1) db = false := hclear rule List.mem_cons_self
    obtain ⟨result, db₂, hturn, hturns⟩ := Tx.bind_eq_ok_iff.mp hturns
    obtain ⟨hresult, rfl⟩ := Prod.mk.inj hturns
    obtain rfl := Except.ok.inj hresult
    simp only [confirmationTarget, List.head?_cons]
    cases hfound : activeAlertForRule latest rule db with
    | some alert =>
        obtain ⟨hsome, hconfirms⟩ := confirms_ruleTurn_of_found hstate hclear hfound hturn
        obtain rfl := eq_of_isSome hsome h
        exact hconfirms
    | none =>
        cases hopens : state && db.lasted latest rule (clock 0 2) with
        | true =>
            obtain ⟨rfl, hlasted⟩ := Bool.and_eq_true_iff.mp hopens
            obtain ⟨hsome, hconfirms⟩ :=
              confirms_ruleTurn_of_lasted hstate hclear hfound hlasted hturn
            obtain rfl := eq_of_isSome hsome h
            simpa only [hdevice, hsame, if_true] using hconfirms
        | false =>
            obtain ⟨rfl, halerts⟩ := ruleTurn_of_idle hstate hclear hfound hopens hturn
            have hexact := confirms_confirmExactAlert (confirmExactAlert_of_nil rfl h)
            have hkept : db₂.exactAlert device metric = db.exactAlert device metric := by
              rw [exactAlert, exactAlert, halerts]
            rw [hkept] at hexact
            simpa only [hdevice, hsame, Bool.false_eq_true, if_false] using
              hexact.of_alerts_eq halerts
  · simp at hrules

end Mapping

/-! ### Agreement with the device -/

section Agreement

/-- The alerts of a metric agree with a confirmed state: a 0 leaves no active alert, a 1
leaves at most one, and one where no rule or one without duration is responsible. -/
def Agrees (device : Device) (metric : MetricDefinition) (rules : List AlertRule)
    (state : Bool) (db : AlertsDb) : Prop :=
  if state then
    (∀ a ∈ db.alerts, ∀ b ∈ db.alerts, a.status.isActive ∧ a.OnMetric device metric →
      b.status.isActive ∧ b.OnMetric device metric → a.id = b.id) ∧
    ((∀ rule ∈ rules, rule.durationSeconds = 0) →
      ∃ alert ∈ db.alerts, alert.status.isActive ∧ alert.OnMetric device metric)
  else ∀ alert ∈ db.alerts, ¬(alert.status.isActive ∧ alert.OnMetric device metric)

/-- Every active alert of the metric is the one that a confirmation acts on. -/
def OnlyTarget (device : Device) (metric : MetricDefinition) (target : Option AlertEvent)
    (db : AlertsDb) : Prop :=
  ∀ alert ∈ db.alerts, alert.status.isActive ∧ alert.OnMetric device metric →
    target.map AlertEvent.id = some alert.id

variable {db} {db' : AlertsDb} {device : Device} {metric : MetricDefinition}
  {rules : List AlertRule} {state : Bool} {target : Option AlertEvent}

instance : Decidable (Agrees device metric rules state db) :=
  inferInstanceAs (Decidable (if state then (∀ a ∈ db.alerts, ∀ b ∈ db.alerts, _) ∧
    (_ → ∃ alert ∈ db.alerts, _) else ∀ alert ∈ db.alerts, _))

instance : Decidable (OnlyTarget device metric target db) :=
  inferInstanceAs (Decidable (∀ alert ∈ db.alerts, _))

/-- The target is an active alert of the metric. -/
theorem confirmationTarget_some {latest : LatestTelemetry} {now : Instant} {alert : AlertEvent}
    (h : db.confirmationTarget latest rules state now = some alert) :
    alert.id ∈ db.activeWhere (AlertEvent.OnMetric latest.device latest.metric) := by
  have hexact : db.exactAlert latest.device latest.metric = some alert →
      alert.id ∈ db.activeWhere (AlertEvent.OnMetric latest.device latest.metric) := by
    intro hexact
    obtain ⟨halert, hactive⟩ := exactAlert_some hexact
    exact ⟨alert, halert, rfl, hactive⟩
  unfold confirmationTarget at h
  split at h
  · exact hexact h
  · split at h
    · rename_i found hfound
      obtain rfl := Option.some.inj h
      obtain ⟨halert, hactive, -, -, hdevice, hmetric, -⟩ := activeAlertForRule_some hfound
      exact ⟨found, halert, rfl, hactive, hdevice, hmetric⟩
    · split at h
      · cases h
      · exact hexact h

/-- The statement about alerts, on the set of their keys. -/
theorem onlyTarget_iff :
    OnlyTarget device metric target db ↔
      ∀ id ∈ db.activeWhere (AlertEvent.OnMetric device metric),
        target.map AlertEvent.id = some id := by
  constructor
  · rintro h id ⟨alert, halert, rfl, hactive⟩
    exact h alert halert hactive
  · intro h alert halert hactive
    exact h alert.id ⟨alert, halert, rfl, hactive⟩

theorem agrees_false_iff :
    Agrees device metric rules false db ↔
      db.activeWhere (AlertEvent.OnMetric device metric) = ∅ := by
  rw [Agrees, if_neg (by simp), Set.eq_empty_iff_forall_notMem]
  constructor
  · rintro h id ⟨alert, halert, -, hactive⟩
    exact h alert halert hactive
  · intro h alert halert hactive
    exact h alert.id ⟨alert, halert, rfl, hactive⟩

theorem agrees_true_iff (hnonempty : (db.activeWhere (AlertEvent.OnMetric device metric)).Nonempty) :
    Agrees device metric rules true db ↔
      (db.activeWhere (AlertEvent.OnMetric device metric)).Subsingleton := by
  obtain ⟨id, alert, halert, -, hactive⟩ := hnonempty
  rw [Agrees, if_pos rfl, and_iff_left fun _ => ⟨alert, halert, hactive⟩]
  constructor
  · rintro h - ⟨a, ha, rfl, haActive⟩ - ⟨b, hb, rfl, hbActive⟩
    exact h a ha b hb haActive hbActive
  · intro h a ha b hb haActive hbActive
    exact h ⟨a, ha, rfl, haActive⟩ ⟨b, hb, rfl, hbActive⟩

/-- A new key is none of the active ones. -/
theorem nextPk_notMem_activeWhere {P : AlertEvent → Prop} :
    db.alerts.nextPk ∉ db.activeWhere P := by
  rintro ⟨alert, halert, hid, -⟩
  have hlt := db.alerts.pk_lt_nextPk alert halert
  rw [pk_alertEvent, hid] at hlt
  exact lt_irrefl _ hlt

/-- **What a confirmation comes to**: the alerts agree with the device exactly if its
target was the only active alert of the metric. -/
theorem Confirms.agrees_iff
    (h : Confirms (AlertEvent.OnMetric device metric) state target db db')
    (htarget : ∀ alert ∈ target, alert.id ∈ db.activeWhere (AlertEvent.OnMetric device metric)) :
    Agrees device metric rules state db' ↔ OnlyTarget device metric target db := by
  have hfresh : db.alerts.nextPk ∉ db.activeWhere (AlertEvent.OnMetric device metric) :=
    nextPk_notMem_activeWhere
  rw [onlyTarget_iff]
  unfold Confirms at h
  cases state with
  | false =>
      rw [agrees_false_iff, h]
      cases target with
      | none => simp [Set.eq_empty_iff_forall_notMem]
      | some alert =>
          simp only [Option.map_some, Option.some.injEq, Set.sdiff_eq_empty]
          exact ⟨fun hsub id hid => (hsub hid).symm, fun heq id hid => (heq id hid).symm⟩
  | true =>
      cases target with
      | none =>
          rw [agrees_true_iff (by rw [h]; exact Set.insert_nonempty _ _), h]
          constructor
          · intro hone id hid
            have hsame := hone (Set.mem_insert_of_mem _ hid) (Set.mem_insert _ _)
            exact absurd (hsame ▸ hid) hfresh
          · intro hnone
            have hempty : db.activeWhere (AlertEvent.OnMetric device metric) = ∅ :=
              Set.eq_empty_iff_forall_notMem.mpr fun id hid => by cases hnone id hid
            rw [hempty, insert_empty_eq]
            exact Set.subsingleton_singleton
      | some alert =>
          have hmem := htarget alert rfl
          rw [agrees_true_iff (by rw [h]; exact ⟨_, hmem⟩), h]
          constructor
          · exact fun hone id hid => congrArg some (hone hmem hid)
          · intro honly a ha b hb
            exact (Option.some.inj (honly a ha)).symm.trans (Option.some.inj (honly b hb))

end Agreement

end AlertsDb

/-! ### Runs -/

/-- The poll of one mapping, with everything the environment chooses. -/
structure Confirmation where
  device : Device
  metric : MetricDefinition
  /-- The scaled value that the device has answered. -/
  value : PyValue
  cached : Option (List RuleId)
  clock : ℕ → ℕ → Instant
  confirmationAt : Instant
  createdAt : Instant

/-- A confirmation, or an operation between confirmations. -/
inductive PacOperation
  | processMapping (confirmation : Confirmation)
  | operate (operation : AlertOperation)

namespace Confirmation

open AlertsDb

variable (py : PyText) (upper : String → String) (c : Confirmation) (state : Bool)
  (db : AlertsDb)

/-- The row of the confirmed state. -/
def row : LatestTelemetry := confirmedRow c.device c.metric state c.confirmationAt

/-- The rules that the evaluation visits. -/
def rules : List AlertRule := getMatchingRules db (c.row state) c.cached

/-- The alert that the confirmation acts on. -/
def target : Option AlertEvent :=
  db.confirmationTarget (c.row state) (c.rules state db) state (c.clock 0 2)

/-- The loop body on a confirmed state. -/
def process : Engine Unit :=
  confirmMapping py c.device c.metric state c.cached c.clock c.confirmationAt c.createdAt

/-- The mapping of an alarm metric is processed without an exception, with one matching
rule at most, which is true exactly on state 1 and which no window suppresses. -/
structure Processed : Prop where
  metric : isPacAlarmMetric upper c.metric.code
  rules : (c.rules state db).length ≤ 1
  condition : ∀ rule ∈ c.rules state db, (evaluateRuleCondition rule (c.row state)).1 = state
  clear : ∀ rule ∈ c.rules state db, hasSuppression (c.row state) (c.clock 0 1) db = false
  returns : (c.process py state db).1.isOk = true

theorem processed_iff :
    c.Processed py upper state db ↔
      isPacAlarmMetric upper c.metric.code = true ∧ (c.rules state db).length ≤ 1 ∧
        (∀ rule ∈ c.rules state db, (evaluateRuleCondition rule (c.row state)).1 = state) ∧
        (∀ rule ∈ c.rules state db, hasSuppression (c.row state) (c.clock 0 1) db = false) ∧
        (c.process py state db).1.isOk = true :=
  ⟨fun h => ⟨h.metric, h.rules, h.condition, h.clear, h.returns⟩,
    fun ⟨hmetric, hrules, hcondition, hclear, hreturns⟩ =>
      ⟨hmetric, hrules, hcondition, hclear, hreturns⟩⟩

instance : Decidable (c.Processed py upper state db) :=
  decidable_of_iff' _ (processed_iff py upper c state db)

/-- What a step does to the database.  An unrecognized value raises before anything is
written. -/
def step (py : PyText) (db : AlertsDb) : PacOperation → AlertsDb
  | .processMapping c =>
      match coerceAlarmState py c.value with
      | some state => (c.process py state db).2
      | none => db
  | .operate operation => db.operate py operation

/-- After a confirmation the alerts of its metric agree with the device. -/
def AgreesWithDevice (before : AlertsDb) (i : PacOperation) (after : AlertsDb) : Prop :=
  match i with
  | .processMapping c =>
      ∀ state ∈ coerceAlarmState py c.value, c.Processed py upper state before →
        Agrees c.device c.metric (c.rules state before) state after
  | .operate _ => True

/-- Before a confirmation its metric has no active alert but the target. -/
def ActsOnAll (before : AlertsDb) (i : PacOperation) (_ : AlertsDb) : Prop :=
  match i with
  | .processMapping c =>
      ∀ state ∈ coerceAlarmState py c.value, c.Processed py upper state before →
        OnlyTarget c.device c.metric (c.target state before) before
  | .operate _ => True

instance {before after : AlertsDb} {i : PacOperation} :
    Decidable (AgreesWithDevice py upper before i after) :=
  match i with
  | .processMapping c => inferInstanceAs (Decidable (∀ state ∈ coerceAlarmState py c.value, _ → _))
  | .operate _ => .isTrue trivial

instance {before after : AlertsDb} {i : PacOperation} :
    Decidable (ActsOnAll py upper before i after) :=
  match i with
  | .processMapping c => inferInstanceAs (Decidable (∀ state ∈ coerceAlarmState py c.value, _ → _))
  | .operate _ => .isTrue trivial

variable {py upper c state db}

/-- One confirmation. -/
theorem agrees_process_iff (hupper : UppersAscii upper) (h : c.Processed py upper state db) :
    Agrees c.device c.metric (c.rules state db) state (c.process py state db).2 ↔
      OnlyTarget c.device c.metric (c.target state db) db := by
  rcases hprocess : c.process py state db with ⟨e | u, db'⟩
  · have hreturns := h.returns
    rw [hprocess] at hreturns
    cases hreturns
  · exact (confirms_confirmMapping hupper h.metric rfl h.rules h.condition h.clear
      hprocess).agrees_iff fun alert halert => confirmationTarget_some halert

/-- **PAC confirmation agrees with the device**, in every run, exactly if each confirmation
of the run finds no active alert of its metric but the one that it acts on. -/
theorem along_agreesWithDevice_iff (hupper : UppersAscii upper) {w : List PacOperation} :
    Along (step py) (AgreesWithDevice py upper) db w ↔
      Along (step py) (ActsOnAll py upper) db w := by
  have hstep : ∀ (s : AlertsDb) (i : PacOperation), True →
      (AgreesWithDevice py upper s i (step py s i) ↔ ActsOnAll py upper s i (step py s i)) := by
    intro s i _
    cases i with
    | operate operation => exact Iff.rfl
    | processMapping c =>
        refine forall₃_congr fun state hstate hprocessed => ?_
        have hafter : step py s (.processMapping c) = (c.process py state s).2 := by
          simp only [step, show coerceAlarmState py c.value = some state from hstate]
        rw [hafter]
        exact agrees_process_iff hupper hprocessed
  exact along_congr (G := fun _ _ _ => True) hstep (along_of_forall (fun _ _ => trivial) db w)

/-! ### A filter alarm -/

/-- A PAC. -/
def roomPac : Device :=
  { id := 1, organization := 1, dataCenter := 1, deviceType := 1, name := "PAC 01" }

/-- The filter alarm of a PAC. -/
def filterAlarm : MetricDefinition := { id := 1, code := "PAC_FILTER_ALARM", dataType := .boolean }

/-- The rule for the filter alarm. -/
def filterRule : AlertRule :=
  { id := 1, organization := 1, metric := 1, name := "Filter alarm", operator := .eq
    thresholdBoolean := some true }

/-- A data center with one PAC, no rules and no alerts. -/
def pacRoom : AlertsDb :=
  .quiet
    (.flat (.ofRows [⟨1⟩]) (.ofRows [⟨1, 1⟩]) (.ofRows [roomPac]) (.refl true))
    (.ofRows [⟨1, "PAC", "Precision air conditioner"⟩]) (.ofRows [filterAlarm]) .empty .empty

/-- The PAC answers a poll of its filter alarm. -/
def pollFilter (value : ℤ) : PacOperation :=
  .processMapping
    { device := roomPac
      metric := filterAlarm
      value := .int value
      cached := none
      clock := fun _ _ => 0
      confirmationAt := 0
      createdAt := 0 }

/-- An alarm that is confirmed twice and then restored. -/
theorem along_agreesWithDevice_pacRoom :
    Along (step plainText) (AgreesWithDevice plainText asciiUpper) pacRoom
      [pollFilter 1, pollFilter 1, pollFilter 0] :=
  (along_agreesWithDevice_iff fun _ _ => rfl).mpr (by decide)

/-- Once the alert is acknowledged, the restored alarm does not close it. -/
theorem acknowledgedAlarm_stays :
    ¬Along (step plainText) (AgreesWithDevice plainText asciiUpper) pacRoom
      [pollFilter 1, .operate (.acknowledgeAlert 0 (some 1) none 0), pollFilter 0] := by
  decide

/-- Once the rule is seeded, the confirmed alarm opens a second alert. -/
example : ¬Along (step plainText) (AgreesWithDevice plainText asciiUpper) pacRoom
    [pollFilter 1, .operate (.saveRule filterRule), pollFilter 1] := by
  decide

end Confirmation

end DcimBackend
