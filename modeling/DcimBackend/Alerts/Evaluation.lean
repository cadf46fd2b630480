import DcimBackend.Alerts.Engine
import Mathlib.Data.List.Infix

/-!
# Evaluating a row of telemetry

`apps/alerts/services/engine.py`, `_maybe_create_duration_alert` to
`evaluate_latest`.  A rule's turn is one transaction: `ruleTurn`.  The turns of
`evaluateLatest` follow one another, and an error in one of them ends the evaluation
without undoing the turns before it.

The functions that look for the active alert are divided behind the lookup (`ensureAlert`,
`resolveFound`), so what is done with an alert has lemmas of its own, which hold for the alert of
any snapshot.  Errors go through `Tx.atomic`, which undoes a turn and nothing in front of it.
-/

namespace DcimBackend

open Library

/-- `_maybe_create_duration_alert`: whether the condition has lasted long enough. -/
def maybeCreateDurationAlert (latest : LatestTelemetry) (rule : AlertRule) (now : Instant) :
    Engine Bool := do
  let state ← upsertConditionState latest rule now
  return rule.durationSeconds = 0 ∨ rule.durationSeconds * 1000000 ≤ now - state.firstSeenAt

section Turns

variable (py : PyText) (latest : LatestTelemetry)

/-- The alert that `_ensure_alert_for_true_condition` creates under suppression. -/
def createSuppressedAlert (rule : AlertRule) (value threshold : PyValue)
    (now createdAt : Instant) : Engine AlertEvent := do
  let alert ← createAlert
    { toReading := latest.toReading
      organization := latest.organization
      dataCenter := latest.dataCenter
      device := latest.device.id
      metric := some latest.metric.id
      alertRule := some rule.id
      severity := rule.severity
      status := .suppressed
      message := alertPayload py latest rule value threshold
      triggeredAt := now
      lastSeenAt := some now
      resolutionType := some "SUPPRESSED"
      resolveComment := some "Suppression window active"
      createdAt := createdAt }
  createAlertLog
    { alertEvent := alert.id
      action := .suppressed
      newStatus := some .suppressed
      message := some "Suppressed by maintenance window" }
  return alert

/-- `_ensure_alert_for_true_condition`, after it has looked for the active alert. -/
def ensureAlert (rule : AlertRule) (value threshold : PyValue) (alert : Option AlertEvent)
    (clock : ℕ → Instant) : Engine (Option AlertEvent) := do
  let suppressed ← Tx.read (hasSuppression latest (clock 1))
  match alert with
  | some alert =>
      if suppressed then
        if alert.status ≠ .suppressed then
          some <$> suppressAlert alert none (some "Suppression window active") (clock 2)
        else return some alert
      else if alert.status.isActive then
        some <$> updateActiveAlert py alert latest value threshold (clock 2)
      else return some alert
  | none =>
      if suppressed then
        some <$> createSuppressedAlert py latest rule value threshold (clock 0) (clock 2)
      else if ← maybeCreateDurationAlert latest rule (clock 2) then
        some <$> openAlert py rule latest value threshold (clock 3) (clock 4)
      else return none

/-- `_ensure_alert_for_true_condition`. -/
def ensureAlertForTrueCondition (rule : AlertRule) (value threshold : PyValue)
    (clock : ℕ → Instant) : Engine (Option AlertEvent) := do
  let alert ← Tx.read (activeAlertForRule latest rule)
  ensureAlert py latest rule value threshold alert clock

/-- `_resolve_if_needed`, after it has looked for the active alert. -/
def resolveFound (rule : AlertRule) (alert : Option AlertEvent) (clock : ℕ → Instant) :
    Engine (Option AlertEvent) := do
  match alert with
  | none =>
      clearConditionState latest rule
      return none
  | some alert =>
      if alert.status = .suppressed then
        clearConditionState latest rule
        return some alert
      else if alert.status.isActive then
        some <$> resolveAlert py alert (some latest) "AUTO" none none (clock 0)
      else return some alert

/-- `_resolve_if_needed`. -/
def resolveIfNeeded (rule : AlertRule) (clock : ℕ → Instant) : Engine (Option AlertEvent) := do
  let alert ← Tx.read (activeAlertForRule latest rule)
  resolveFound py latest rule alert clock

/-- The turn of one rule in `evaluate_latest`. -/
def ruleTurn (rule : AlertRule) (clock : ℕ → Instant) : Engine (Option AlertEvent) :=
  let condition := evaluateRuleCondition rule latest
  Tx.atomic
    (if condition.1 then
      ensureAlertForTrueCondition py latest rule condition.2.1 condition.2.2 clock
    else resolveIfNeeded py latest rule clock)

variable {py latest} {rule : AlertRule} {clock : ℕ → Instant} {db : AlertsDb}
  {found : Option AlertEvent}

/-- A turn under a true condition, from what its lookup finds. -/
theorem ruleTurn_of_true (htrue : (evaluateRuleCondition rule latest).1 = true)
    (hfound : activeAlertForRule latest rule db = found) :
    ruleTurn py latest rule clock db =
      Tx.atomic (ensureAlert py latest rule (evaluateRuleCondition rule latest).2.1
        (evaluateRuleCondition rule latest).2.2 found clock) db := by
  rw [ruleTurn, if_pos htrue]
  exact Tx.atomic_congr (by rw [ensureAlertForTrueCondition, Tx.bind_apply, Tx.read_apply, hfound])

/-- A turn under a false condition, from what its lookup finds. -/
theorem ruleTurn_of_false (hfalse : (evaluateRuleCondition rule latest).1 = false)
    (hfound : activeAlertForRule latest rule db = found) :
    ruleTurn py latest rule clock db =
      Tx.atomic (resolveFound py latest rule found clock) db := by
  rw [ruleTurn, if_neg (by simp [hfalse])]
  exact Tx.atomic_congr (by rw [resolveIfNeeded, Tx.bind_apply, Tx.read_apply, hfound])

/-- Without an alert, under suppression, a suppressed one is created. -/
theorem ensureAlert_none_of_suppressed {value threshold : PyValue}
    (hsuppressed : hasSuppression latest (clock 1) db = true) :
    ensureAlert py latest rule value threshold none clock db =
      (some <$> createSuppressedAlert py latest rule value threshold (clock 0) (clock 2)) db := by
  rw [ensureAlert, Tx.bind_apply, Tx.read_apply, hsuppressed]
  rfl

/-- Without an alert and without suppression, the duration decides. -/
theorem ensureAlert_none_of_clear {value threshold : PyValue}
    (hclear : hasSuppression latest (clock 1) db = false) :
    ensureAlert py latest rule value threshold none clock db =
      (maybeCreateDurationAlert latest rule (clock 2) >>= fun lasted =>
        if lasted then some <$> openAlert py rule latest value threshold (clock 3) (clock 4)
        else pure none) db := by
  rw [ensureAlert, Tx.bind_apply, Tx.read_apply, hclear]
  rfl

variable (py latest)

/-! ### The trap alert of a UPS -/

/-- `UPS_OUTPUT_STATUS_NORMAL_CODES`. -/
def upsOutputStatusNormalCodes : List ℤ := [2, 4, 12, 13, 18, 19, 20, 23, 25, 26, 27]

/-- `int(value) in UPS_OUTPUT_STATUS_NORMAL_CODES`, where `TypeError` and `ValueError`
count as false, and the `OverflowError` of an infinity is raised. -/
def isUpsOutputStatusNormal (value : PyValue) : Except EngineError Bool :=
  match value with
  | .none => .ok false
  | .bool value => .ok ((if value then 1 else 0) ∈ upsOutputStatusNormalCodes)
  | .int value => .ok (value ∈ upsOutputStatusNormalCodes)
  | .float (.finite value) =>
      .ok ((if 0 ≤ value then value.floor else value.ceil) ∈ upsOutputStatusNormalCodes)
  | .float .nan => .ok false
  | .float _ => .error .overflowError
  | .text text => .ok ((py.int text).any (· ∈ upsOutputStatusNormalCodes))

/-- `_is_ups_abnormal_condition_cleared`. -/
def isUpsAbnormalConditionCleared : Except EngineError Bool :=
  let value := valueFromLatest latest.toReading
  if latest.metric.code = "ups_abnormal_conditions" then
    if value = .none then .ok false
    else
      let normalized := py.lower (pyStrip (py.str value))
      .ok (normalized ∈ ["0", "false", "normal", "restored", "clear", "cleared"] ||
        (normalized ≠ "" && normalized.toList.all (· = '0')))
  else if latest.metric.code = "ups_output_status" then isUpsOutputStatusNormal py value
  else .ok false

/-- The alert is one of the UPS traps that a normal reading clears. -/
def isUpsTrapAlert (alert : AlertEvent) : Bool :=
  alert.organization = latest.organization && alert.dataCenter = latest.dataCenter &&
    alert.device = latest.device.id && alert.metric = none && alert.alertRule = none &&
    alert.status.isActive &&
    (Dict.hasText alert.metadata "trap_event_code" "ups_abnormal_condition" ||
      Dict.hasText alert.metadata "trap_oid" "1.3.6.1.4.1.318.0.77" ||
      (py.upper "UPS abnormal condition").toList <:+: (py.upper alert.message).toList)

/-- `_resolve_ups_trap_alert_if_needed`. -/
def resolveUpsTrapAlertIfNeeded (clock : ℕ → Instant) : Engine (Option AlertEvent) := do
  match isUpsAbnormalConditionCleared py latest with
  | .error e => Tx.raise e
  | .ok false => return none
  | .ok true =>
      match ← Tx.read fun db => latestAlert (db.alerts.select (isUpsTrapAlert py latest)) with
      | none => return none
      | some alert =>
          some <$> resolveAlert py alert (some latest) "AUTO" none none (clock 0)

/-! ### The evaluation -/

/-- The turns of a list of rules, one after another. -/
def ruleTurns : List AlertRule → (ℕ → ℕ → Instant) → Engine (List AlertEvent)
  | [], _ => return []
  | rule :: rules, clock => do
      let alert ← ruleTurn py latest rule (clock 0)
      let alerts ← ruleTurns rules fun i => clock (i + 1)
      return alert.toList ++ alerts

/-- `evaluate_latest`. -/
def evaluateLatest (cached : Option (List RuleId)) (clock : ℕ → ℕ → Instant) :
    Engine (List AlertEvent) := do
  let rules ← Tx.read fun db => getMatchingRules db latest cached
  let alerts ← ruleTurns py latest rules clock
  let trapAlert ← Tx.atomic (resolveUpsTrapAlertIfNeeded py latest (clock rules.length))
  return alerts ++ trapAlert.toList

end Turns

end DcimBackend
