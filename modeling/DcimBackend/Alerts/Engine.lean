import DcimBackend.Alerts.Matching
import DcimBackend.Alerts.Statements
import Mathlib.Data.List.MinMax

/-!
# The alert engine

`apps/alerts/services/engine.py`, the part that writes, and the exact alerts of
`collectors/snmp_trap_receiver/pac_alarm_handler.py`.

Every function takes the readings of `timezone.now()` it makes, so nothing is
assumed of the clock.  The functions that take several receive them as a sequence
`clock`, in the order in which they are read.  In `evaluateLatest`, `clock i` are the
readings of the `i`-th turn.

Notifications are left out: they write other tables only, each in a savepoint of its
own, and `open_alert` and `resolve_alert` swallow what they raise.

A function takes an alert as it is in memory, which need not be what is stored: `asResolved` and
its kind are the assignments to the copy, and `saveAlert` writes the listed columns of it.
Whether the copy is fresh is up to the caller.  The statements are in the order of the source, so
what has been written in front of an error stays, unless a caller has a transaction around it.
-/

namespace DcimBackend

open Library

/-- `comment or default`: an empty text counts as missing. -/
def pyOr (comment default : Option String) : Option String :=
  match comment with
  | some text => if text = "" then default else some text
  | none => default

/-! ### Snapshots and messages -/

/-- A scalar field of a dictionary. -/
def scalarField (name : String) (value : PyValue) : String × Json := (name, .scalar value)

/-- The columns of a row in `_value_snapshot`. -/
def LatestTelemetry.snapshotFields (py : PyText) (latest : LatestTelemetry) : Dict :=
  [scalarField "organization_id" (.text (toString latest.organization)),
    scalarField "data_center_id" (.text (toString latest.dataCenter)),
    scalarField "device_id" (.text (toString latest.device.id)),
    scalarField "metric_id" (.text (toString latest.metric.id)),
    scalarField "metric_code" (.text latest.metric.code),
    scalarField "value_float" (latest.valueFloat.elim .none .float),
    scalarField "value_integer" (latest.valueInteger.elim .none .int),
    scalarField "value_boolean" (latest.valueBoolean.elim .none .bool),
    scalarField "value_text" (latest.valueText.elim .none .text),
    scalarField "last_seen_at" (.text (py.isoformat latest.lastSeenAt)),
    scalarField "source" (latest.source.elim .none .text)]

/-- `_value_snapshot`. -/
def valueSnapshot (py : PyText) (latest : Option LatestTelemetry) (value threshold : PyValue) :
    Dict :=
  (latest.elim [] fun latest => latest.snapshotFields py) ++
    (if value = .none then [] else [scalarField "value" value]) ++
    (if threshold = .none then [] else [scalarField "threshold" threshold])

/-- `_alert_payload`. -/
def alertPayload (py : PyText) (latest : LatestTelemetry) (rule : AlertRule)
    (value threshold : PyValue) : String :=
  let base := (pyOr rule.messageTemplate none).getD
    (latest.device.name ++ " " ++ latest.metric.code ++ " alert")
  if threshold = .none then base
  else base ++ " (" ++ py.str value ++ " " ++ rule.operator.value ++ " " ++
    py.str threshold ++ ")"

/-! ### Lookups -/

/-- `_condition_state_key`. -/
def conditionKey (latest : LatestTelemetry) (rule : AlertRule) : ConditionKey where
  organization := latest.organization
  dataCenter := latest.dataCenter
  device := latest.device.id
  metric := some latest.metric.id
  alertRule := rule.id

/-- The order of the times of an alert: by the first, then by the second. -/
abbrev alertTimesOrder : LinearOrder (Instant ×ₗ Instant) :=
  @Prod.Lex.instLinearOrder Instant Instant Int.instLinearOrder Int.instLinearOrder

/-- `.order_by("-triggered_at", "-created_at").first()`. -/
def latestAlert (alerts : List AlertEvent) : Option AlertEvent :=
  -- the order is named, since on integers instance search may find one without code
  @List.argmax _ _ alertTimesOrder.toPartialOrder.toPreorder alertTimesOrder.toDecidableLT
    (fun alert => toLex (alert.triggeredAt, alert.createdAt)) alerts

/-- `_active_alert_for_rule`. -/
def activeAlertForRule (latest : LatestTelemetry) (rule : AlertRule) (db : AlertsDb) :
    Option AlertEvent :=
  latestAlert (db.alerts.select fun alert =>
    alert.status.isActive && alert.HasKey (conditionKey latest rule))

/-- The window is active, its time includes `now`, and its scope the row. -/
def AlertSuppressionWindow.covers (window : AlertSuppressionWindow) (latest : LatestTelemetry)
    (now : Instant) : Bool :=
  window.organization = some latest.organization && window.isActive &&
    window.startsAt.any (· ≤ now) && window.endsAt.any (now ≤ ·) &&
    window.dataCenter.all (· = latest.dataCenter) &&
    window.device.all (· = latest.device.id) && window.metric.all (· = latest.metric.id)

/-- `_has_suppression`. -/
def hasSuppression (latest : LatestTelemetry) (now : Instant) (db : AlertsDb) : Bool :=
  db.windows.rows.any fun window => window.covers latest now

/-! ### Condition states -/

/-- `_upsert_condition_state`: `get_or_create`, then the columns of the last value. -/
def upsertConditionState (latest : LatestTelemetry) (rule : AlertRule) (now : Instant) :
    Engine AlertConditionState := do
  let existing ← Tx.read fun db => db.findConditionState (conditionKey latest rule)
  let state : AlertConditionState :=
    { toReading := latest.toReading
      organization := latest.organization
      dataCenter := latest.dataCenter
      device := latest.device.id
      metric := latest.metric.id
      alertRule := rule.id
      firstSeenAt := existing.elim now fun state => state.firstSeenAt
      lastSeenAt := now }
  saveConditionState state
  return state

/-- `_clear_condition_state`. -/
def clearConditionState (latest : LatestTelemetry) (rule : AlertRule) : Engine Unit :=
  Tx.modify fun db => db.removeConditionState (conditionKey latest rule)

/-! ### The assignments to an alert -/

namespace AlertEvent

variable (alert : AlertEvent)

/-- The alert in memory after the assignments of `resolve_alert`. -/
def asResolved (resolutionType : String) (actor : Option UserId) (comment : Option String)
    (now : Instant) : AlertEvent :=
  { alert with
    status := .resolved
    resolvedAt := some now
    resolvedBy := actor
    resolutionType := some resolutionType
    resolveComment := pyOr comment alert.resolveComment
    lastSeenAt := some now }

/-- The alert in memory after the assignments of `acknowledge_alert`. -/
def asAcknowledged (user : Option UserId) (comment : Option String) (now : Instant) :
    AlertEvent :=
  { alert with
    status := .acknowledged
    acknowledgedBy := user
    acknowledgedAt := some now
    acknowledgeComment := pyOr comment alert.acknowledgeComment }

/-- The alert in memory after the assignments of `suppress_alert`. -/
def asSuppressed (user : Option UserId) (reason : Option String) (now : Instant) :
    AlertEvent :=
  { alert with
    status := .suppressed
    resolvedAt := some now
    resolvedBy := user
    resolutionType := some "SUPPRESSED"
    resolveComment := pyOr reason alert.resolveComment }

/-- The alert in memory after the assignments of `update_active_alert`. -/
def asUpdated (py : PyText) (latest : LatestTelemetry) (rule : AlertRule)
    (value threshold : PyValue) (now : Instant) : AlertEvent :=
  { alert with
    toReading := latest.toReading
    lastSeenAt := some now
    message := alertPayload py latest rule value threshold
    occurrenceCount := (if alert.occurrenceCount = 0 then 1 else alert.occurrenceCount) + 1
    metadata := Dict.merge alert.metadata
      [("last_snapshot", .object (valueSnapshot py (some latest) value threshold))] }

end AlertEvent

/-! ### The life of an alert -/

section Lifecycle

variable (py : PyText)

/-- `open_alert`. -/
def openAlert (rule : AlertRule) (latest : LatestTelemetry) (value threshold : PyValue)
    (now createdAt : Instant) : Engine AlertEvent := do
  let payload := valueSnapshot py (some latest) value threshold
  let alert ← createAlert
    { toReading := latest.toReading
      organization := latest.organization
      dataCenter := latest.dataCenter
      device := latest.device.id
      metric := some latest.metric.id
      alertRule := some rule.id
      severity := rule.severity
      status := .open
      message := alertPayload py latest rule value threshold
      triggeredAt := now
      lastSeenAt := some now
      metadata := [("first_value", .object payload), scalarField "engine" (.text "central")]
      createdAt := createdAt }
  createAlertLog
    { alertEvent := alert.id
      action := .opened
      newStatus := some .open
      message := some alert.message
      valueSnapshot := payload
      metadata := [scalarField "rule_id" (.text (toString rule.id))] }
  return alert

/-- `update_active_alert`. -/
def updateActiveAlert (alert : AlertEvent) (latest : LatestTelemetry)
    (value threshold : PyValue) (now : Instant) : Engine AlertEvent := do
  match ← Tx.read fun db => alert.alertRule.bind db.rules.find with
  | none => Tx.raise .attributeError
  | some rule =>
      let copy := alert.asUpdated py latest rule value threshold now
      saveAlert copy
        [.lastSeenAt, .message, .valueFloat, .valueInteger, .valueBoolean, .valueText,
          .occurrenceCount, .metadata]
      createAlertLog
        { alertEvent := copy.id
          action := .updated
          oldStatus := some alert.status
          newStatus := some copy.status
          message := some copy.message
          valueSnapshot := valueSnapshot py (some latest) value threshold }
      return copy

/-- `resolve_alert`. -/
def resolveAlert (alert : AlertEvent) (latest : Option LatestTelemetry)
    (resolutionType : String) (actor : Option UserId) (comment : Option String)
    (now : Instant) : Engine AlertEvent := do
  let copy := alert.asResolved resolutionType actor comment now
  saveAlert copy
    [.status, .resolvedAt, .resolvedBy, .resolutionType, .resolveComment, .lastSeenAt]
  let rule ← Tx.read fun db => alert.alertRule.bind db.rules.find
  createAlertLog
    { alertEvent := copy.id
      action := .resolved
      oldStatus := some alert.status
      newStatus := some .resolved
      actor := actor
      message := pyOr comment (some "Alert resolved")
      valueSnapshot := valueSnapshot py latest
        (latest.elim .none fun latest => valueFromLatest latest.toReading)
        (rule.elim .none thresholdFromRule)
      metadata := [scalarField "resolution_type" (.text resolutionType)] }
  return copy

/-- The comment of an acknowledgement or a resolution, and its log row. -/
def commentOn (alert : AlertEvent) (status : AlertStatus) (user : Option UserId)
    (comment : Option String) : Engine Unit :=
  match pyOr comment none with
  | none => return
  | some comment => do
      createComment { alertEvent := alert.id, user := user, comment := comment }
      createAlertLog
        { alertEvent := alert.id
          action := .commented
          oldStatus := some status
          newStatus := some status
          actor := user
          message := some comment }

/-- `acknowledge_alert`: the status that it checks is the one of the copy. -/
def acknowledgeAlert (alert : AlertEvent) (user : Option UserId) (comment : Option String)
    (now : Instant) : Engine AlertEvent :=
  if alert.status ≠ .open then return alert
  else do
    let copy := alert.asAcknowledged user comment now
    saveAlert copy [.status, .acknowledgedBy, .acknowledgedAt, .acknowledgeComment]
    commentOn copy .acknowledged user comment
    createAlertLog
      { alertEvent := copy.id
        action := .acknowledged
        oldStatus := some .open
        newStatus := some .acknowledged
        actor := user
        message := pyOr comment (some "Alert acknowledged") }
    return copy

/-- `manually_resolve_alert`. -/
def manuallyResolveAlert (alert : AlertEvent) (user : Option UserId) (comment : Option String)
    (now : Instant) : Engine AlertEvent := do
  let alert ← resolveAlert py alert none "MANUAL" user comment now
  commentOn alert .resolved user comment
  return alert

/-- `suppress_alert`. -/
def suppressAlert (alert : AlertEvent) (user : Option UserId) (reason : Option String)
    (now : Instant) : Engine AlertEvent := do
  let copy := alert.asSuppressed user reason now
  saveAlert copy [.status, .resolvedAt, .resolvedBy, .resolutionType, .resolveComment]
  createAlertLog
    { alertEvent := copy.id
      action := .suppressed
      oldStatus := some alert.status
      newStatus := some .suppressed
      actor := user
      message := pyOr reason (some "Alert suppressed") }
  return copy

end Lifecycle

end DcimBackend
