import DcimBackend.Alerts.Engine

/-!
# Trap alerts and exact alerts

The alerts without a rule: `create_or_update_trap_alert` of
`apps/alerts/services/engine.py`, and the exact alerts by which
`collectors/snmp_trap_receiver/pac_alarm_handler.py` confirms an alarm of a PAC whose
metric no rule covers.

A trap is compared with alerts by the columns of its device and by the OID in their metadata,
which is a JSON object of any form.  Neither kind of alert has a rule, so no turn of a rule looks
at them; the UPS traps have a step of their own in `Alerts.Evaluation`.
-/

namespace DcimBackend

open Library

/-- What a trap says. -/
structure Trap where
  device : Device
  eventCode : Option String
  eventName : Option String
  severity : AlertSeverity
  message : String
  triggeredAt : Instant
  trapOid : String
  rawPayload : Dict := []

/-- The metadata of a trap's alert. -/
def Trap.metadata (trap : Trap) : Dict :=
  [scalarField "trap_oid" (.text trap.trapOid),
    scalarField "trap_event_code" (trap.eventCode.elim .none .text),
    scalarField "trap_event_name" (trap.eventName.elim .none .text),
    scalarField "source" (.text "SNMP_TRAP"),
    ("raw_payload", .object trap.rawPayload)]

/-- The alerts among which `create_or_update_trap_alert` looks for an existing one. -/
def Trap.matchesAlert (trap : Trap) (alert : AlertEvent) : Bool :=
  alert.organization = trap.device.organization &&
    alert.dataCenter = trap.device.dataCenter && alert.device = trap.device.id &&
    alert.metric = none && alert.alertRule = none && alert.status.isActive &&
    Dict.hasText alert.metadata "trap_oid" trap.trapOid

/-- An existing alert after another trap. -/
def updateTrapAlert (trap : Trap) (alert : AlertEvent) : Engine AlertEvent := do
  let copy :=
    { alert with
      lastSeenAt := some trap.triggeredAt
      message := trap.message
      severity := trap.severity
      occurrenceCount := (if alert.occurrenceCount = 0 then 1 else alert.occurrenceCount) + 1
      metadata := Dict.merge alert.metadata trap.metadata }
  saveAlert copy [.lastSeenAt, .message, .severity, .occurrenceCount, .metadata]
  createAlertLog
    { alertEvent := copy.id
      action := .updated
      oldStatus := some copy.status
      newStatus := some copy.status
      message := some trap.message
      metadata := trap.metadata }
  return copy

/-- A new trap alert. -/
def openTrapAlert (trap : Trap) (createdAt : Instant) : Engine AlertEvent := do
  let alert ← createAlert
    { organization := trap.device.organization
      dataCenter := trap.device.dataCenter
      device := trap.device.id
      metric := none
      alertRule := none
      severity := trap.severity
      status := .open
      message := trap.message
      triggeredAt := trap.triggeredAt
      lastSeenAt := some trap.triggeredAt
      metadata := trap.metadata
      createdAt := createdAt }
  createAlertLog
    { alertEvent := alert.id
      action := .opened
      newStatus := some .open
      message := some trap.message
      metadata := trap.metadata }
  return alert

/-- `create_or_update_trap_alert`. -/
def createOrUpdateTrapAlert (trap : Trap) (createdAt : Instant) : Engine AlertEvent :=
  Tx.atomic do
    match ← Tx.read fun db => latestAlert (db.alerts.select trap.matchesAlert) with
    | some existing =>
        if trap.eventCode.all (Dict.hasText existing.metadata "trap_event_code") then
          updateTrapAlert trap existing
        else openTrapAlert trap createdAt
    | none => openTrapAlert trap createdAt

/-! ### Exact alerts -/

/-- `_telemetry_payload`, for the states 0 and 1. -/
def telemetryPayload (metric : MetricDefinition) (state : Bool) : Reading :=
  match metric.dataType with
  | .float => { valueFloat := some (.finite (if state then 1 else 0)) }
  | .integer => { valueInteger := some (if state then 1 else 0) }
  | .boolean => { valueBoolean := some state }
  | .text => { valueText := some (if state then "1" else "0") }

/-- `_alert_message`. -/
def exactAlertMessage (state : Bool) : String :=
  if state then "PAC alarm confirmed by SNMP poll"
  else "PAC alarm restored and confirmed by SNMP poll"

/-- The open alert without a rule on a device's metric. -/
def isExactAlert (device : Device) (metric : MetricDefinition) (alert : AlertEvent) : Bool :=
  alert.organization = device.organization && alert.dataCenter = device.dataCenter &&
    alert.device = device.id && alert.metric = some metric.id && alert.alertRule = none &&
    alert.status = .open

/-- `_open_or_update_exact_alert`. -/
def openOrUpdateExactAlert (device : Device) (metric : MetricDefinition)
    (confirmationAt createdAt : Instant) : Engine (AlertEvent × Bool) := do
  let payload := telemetryPayload metric true
  match ← Tx.read fun db => latestAlert (db.alerts.select (isExactAlert device metric)) with
  | some alert =>
      let copy :=
        { alert with
          toReading := payload
          severity := .critical
          message := exactAlertMessage true }
      saveAlert copy
        [.severity, .message, .valueFloat, .valueInteger, .valueBoolean, .valueText]
      return (copy, false)
  | none =>
      let alert ← createAlert
        { toReading := payload
          organization := device.organization
          dataCenter := device.dataCenter
          device := device.id
          metric := some metric.id
          alertRule := none
          severity := .critical
          status := .open
          message := exactAlertMessage true
          triggeredAt := confirmationAt
          createdAt := createdAt }
      return (alert, true)

/-- `_resolve_exact_alert`. -/
def resolveExactAlert (device : Device) (metric : MetricDefinition)
    (confirmationAt : Instant) : Engine (Option AlertEvent × Bool) := do
  match ← Tx.read fun db => latestAlert (db.alerts.select (isExactAlert device metric)) with
  | none => return (none, false)
  | some alert =>
      let copy :=
        { alert with
          toReading := telemetryPayload metric false
          status := .resolved
          resolvedAt := some confirmationAt
          message := exactAlertMessage false }
      saveAlert copy
        [.status, .resolvedAt, .message, .valueFloat, .valueInteger, .valueBoolean,
          .valueText]
      return (some copy, true)

/-- The exact alert of a confirmed state, where the rules had nothing to say. -/
def confirmExactAlert (device : Device) (metric : MetricDefinition) (state : Bool)
    (confirmationAt createdAt : Instant) : Engine Unit :=
  Tx.atomic do
    if state then
      let _ ← openOrUpdateExactAlert device metric confirmationAt createdAt
    else
      let _ ← resolveExactAlert device metric confirmationAt

end DcimBackend
