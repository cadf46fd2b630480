import DcimBackend.Access.Models
import DcimBackend.Common.Validation
import DcimBackend.Common.Value
import DcimBackend.Library.Transaction

/-!
# Alert rules, alerts and their records

`apps/alerts/models.py`, with what the alert engine reads of
`apps/telemetry/models.py`: metric definitions and the latest telemetry of a
device.  Related objects that the engine reads through (`latest.device`,
`latest.metric`) are held as objects, all other foreign keys as keys.

`AlertEvent.write` is what `save(update_fields=[...])` makes of the stored row: the
listed columns come from the in-memory copy, the others stay as they are stored,
whatever the copy says.  The column `updated_at` is left out, since nothing reads it.

`AlertsDb` is the part of the database that the engine works on.  Its fields
include what PostgreSQL enforces: the foreign keys to alert rules, the unique key of
condition states, and that a stored alert is one its columns can hold.

Times are instants, in microseconds.

A column whose choices the database does not check has a case for every other text
(`AlertSeverity`, `AlertOperator`), since rows come from scripts and from traps as well.  A value
that a column cannot hold is refused by the statement that would write it, and not excluded by the
types.
-/

namespace DcimBackend

open Library

abbrev MetricId := ℕ
abbrev RuleId := ℕ
abbrev AlertId := ℕ

/-- A point in time, in microseconds. -/
abbrev Instant := ℤ

/-! ### Telemetry -/

/-- `MetricDataType`. -/
inductive MetricDataType
  | float
  | integer
  | boolean
  | text
deriving DecidableEq

/-- `telemetry.MetricDefinition`. -/
structure MetricDefinition where
  id : MetricId
  code : String
  dataType : MetricDataType := .float
deriving DecidableEq

/-- `TelemetryQuality`. -/
inductive TelemetryQuality
  | good
  | bad
  | stale
  | unknown
deriving DecidableEq

/-- The four nullable columns of a value. -/
structure Reading where
  valueFloat : Option PyFloat := none
  valueInteger : Option ℤ := none
  valueBoolean : Option Bool := none
  valueText : Option String := none
deriving DecidableEq

/-- `telemetry.LatestTelemetry`. -/
structure LatestTelemetry extends Reading where
  organization : OrganizationId
  dataCenter : DataCenterId
  device : Device
  metric : MetricDefinition
  quality : TelemetryQuality := .good
  lastSeenAt : Instant := 0
  source : Option String := none
deriving DecidableEq

/-- `devices.DeviceType`. -/
structure DeviceType where
  id : DeviceTypeId
  code : String
  name : String
deriving DecidableEq

instance : Keyed MetricDefinition := ⟨MetricDefinition.id⟩
instance : Keyed DeviceType := ⟨DeviceType.id⟩

/-! ### Rows -/

/-- `AlertSeverity`.  Only `full_clean` and the serializers check the choices of the column, and a
trap brings the text of its mapping, so there may be any other text in it. -/
inductive AlertSeverity
  | info
  | warning
  | critical
  | emergency
  | unsupported (text : String) (htext : text ∉ ["INFO", "WARNING", "CRITICAL", "EMERGENCY"])
deriving DecidableEq

namespace AlertSeverity

/-- The value of a severity in its column. -/
def value : AlertSeverity → String
  | .info => "INFO"
  | .warning => "WARNING"
  | .critical => "CRITICAL"
  | .emergency => "EMERGENCY"
  | .unsupported text _ => text

/-- The severity of a text. -/
def ofValue (text : String) : AlertSeverity :=
  if hinfo : text = "INFO" then .info
  else if hwarning : text = "WARNING" then .warning
  else if hcritical : text = "CRITICAL" then .critical
  else if hemergency : text = "EMERGENCY" then .emergency
  else .unsupported text (by simp [hinfo, hwarning, hcritical, hemergency])

theorem ofValue_value (severity : AlertSeverity) : ofValue severity.value = severity := by
  cases severity with
  | info => rfl
  | warning => rfl
  | critical => rfl
  | emergency => rfl
  | unsupported text htext =>
      simp only [List.mem_cons, List.not_mem_nil, or_false, not_or] at htext
      simp [ofValue, value, htext]

/-- The columns of two severities have different texts. -/
theorem value_injective : Function.Injective value :=
  Function.LeftInverse.injective ofValue_value

/-- `(severity or "").upper()`.  The declared values are in capitals. -/
def capitals (upper : String → String) : AlertSeverity → AlertSeverity
  | .unsupported text _ => .ofValue (upper text)
  | severity => severity

/-- `(severity or "UNKNOWN").upper()`. -/
def label (upper : String → String) (severity : AlertSeverity) : String :=
  if severity.value = "" then "UNKNOWN" else (severity.capitals upper).value

end AlertSeverity

/-- `AlertOperator`.  Only `full_clean` checks the choices of the column. -/
inductive AlertOperator
  | gt
  | gte
  | lt
  | lte
  | eq
  | neq
  | unsupported (value : String)
deriving DecidableEq

/-- The value of an operator in its column. -/
def AlertOperator.value : AlertOperator → String
  | .gt => "GT"
  | .gte => "GTE"
  | .lt => "LT"
  | .lte => "LTE"
  | .eq => "EQ"
  | .neq => "NEQ"
  | .unsupported value => value

/-- `AlertRule`. -/
structure AlertRule where
  id : RuleId
  organization : OrganizationId
  dataCenter : Option DataCenterId := none
  deviceType : Option DeviceTypeId := none
  device : Option DeviceId := none
  metric : MetricId
  name : String
  operator : AlertOperator
  thresholdFloat : Option PyFloat := none
  thresholdInteger : Option ℤ := none
  thresholdBoolean : Option Bool := none
  thresholdText : Option String := none
  severity : AlertSeverity := .warning
  durationSeconds : ℕ := 0
  isActive : Bool := true
  messageTemplate : Option String := none
  createdAt : Instant := 0
deriving DecidableEq

/-- `AlertStatus`. -/
inductive AlertStatus
  | open
  | acknowledged
  | resolved
  | suppressed
deriving DecidableEq

/-- The value of a status in its column. -/
def AlertStatus.value : AlertStatus → String
  | .open => "OPEN"
  | .acknowledged => "ACKNOWLEDGED"
  | .resolved => "RESOLVED"
  | .suppressed => "SUPPRESSED"

/-- The columns of two statuses have different texts. -/
theorem AlertStatus.value_injective : Function.Injective AlertStatus.value := by
  intro a b h
  cases a <;> cases b <;> first | rfl | exact absurd h (by decide)

/-- `ACTIVE_ALERT_STATUSES`. -/
def AlertStatus.isActive : AlertStatus → Bool
  | .open | .acknowledged => true
  | .resolved | .suppressed => false

/-- `AlertEvent`.  The key of a new row is assigned when it is created. -/
structure AlertEvent extends Reading where
  id : AlertId := 0
  organization : OrganizationId
  dataCenter : DataCenterId
  device : DeviceId
  metric : Option MetricId
  alertRule : Option RuleId
  severity : AlertSeverity
  status : AlertStatus := .open
  message : String
  triggeredAt : Instant
  lastSeenAt : Option Instant := none
  acknowledgedBy : Option UserId := none
  acknowledgedAt : Option Instant := none
  resolvedBy : Option UserId := none
  resolvedAt : Option Instant := none
  resolutionType : Option String := none
  acknowledgeComment : Option String := none
  resolveComment : Option String := none
  occurrenceCount : ℕ := 1
  metadata : Dict := []
  createdAt : Instant

/-- `AlertConditionState`. -/
structure AlertConditionState extends Reading where
  organization : OrganizationId
  dataCenter : DataCenterId
  device : DeviceId
  metric : MetricId
  alertRule : RuleId
  firstSeenAt : Instant
  lastSeenAt : Instant
  conditionIsActive : Bool := true
deriving DecidableEq

/-- `AlertEventLogAction`, as far as the engine writes it. -/
inductive AlertEventLogAction
  | opened
  | updated
  | acknowledged
  | resolved
  | suppressed
  | escalated
  | commented
deriving DecidableEq

/-- `AlertEventLog`. -/
structure AlertEventLog where
  alertEvent : AlertId
  action : AlertEventLogAction
  oldStatus : Option AlertStatus := none
  newStatus : Option AlertStatus := none
  actor : Option UserId := none
  message : Option String := none
  valueSnapshot : Dict := []
  metadata : Dict := []

/-- `AlertComment`. -/
structure AlertComment where
  alertEvent : AlertId
  user : Option UserId
  comment : String
deriving DecidableEq

/-- `AlertSuppressionWindow`. -/
structure AlertSuppressionWindow where
  id : ℕ
  organization : Option OrganizationId
  dataCenter : Option DataCenterId := none
  device : Option DeviceId := none
  metric : Option MetricId := none
  startsAt : Option Instant
  endsAt : Option Instant
  isActive : Bool := true
deriving DecidableEq

instance : Keyed AlertRule := ⟨AlertRule.id⟩
instance : Keyed AlertEvent := ⟨AlertEvent.id⟩
instance : Keyed AlertSuppressionWindow := ⟨AlertSuppressionWindow.id⟩

@[simp] theorem pk_alertEvent (alert : AlertEvent) : pk alert = alert.id := rfl

@[simp] theorem pk_alertRule (rule : AlertRule) : pk rule = rule.id := rfl

/-- The columns of `uq_alert_condition_state`, which also name the alerts of a rule
on a device's metric.  The metric of an alert is nullable. -/
structure ConditionKey where
  organization : OrganizationId
  dataCenter : DataCenterId
  device : DeviceId
  metric : Option MetricId
  alertRule : RuleId
deriving DecidableEq

/-- The key of a condition state. -/
def AlertConditionState.key (state : AlertConditionState) : ConditionKey where
  organization := state.organization
  dataCenter := state.dataCenter
  device := state.device
  metric := some state.metric
  alertRule := state.alertRule

/-- The alert belongs to a key.  An alert without a rule belongs to none. -/
def AlertEvent.HasKey (alert : AlertEvent) (key : ConditionKey) : Prop :=
  alert.organization = key.organization ∧ alert.dataCenter = key.dataCenter ∧
    alert.device = key.device ∧ alert.metric = key.metric ∧
    alert.alertRule = some key.alertRule

instance (alert : AlertEvent) (key : ConditionKey) : Decidable (alert.HasKey key) :=
  inferInstanceAs (Decidable (_ ∧ _))

/-! ### Saving some columns -/

/-- The columns that appear in some `update_fields`. -/
inductive AlertColumn
  | severity
  | status
  | message
  | lastSeenAt
  | valueFloat
  | valueInteger
  | valueBoolean
  | valueText
  | acknowledgedBy
  | acknowledgedAt
  | resolvedBy
  | resolvedAt
  | resolutionType
  | acknowledgeComment
  | resolveComment
  | occurrenceCount
  | metadata
deriving DecidableEq

/-- The stored row after `copy.save(update_fields=columns)`. -/
def AlertEvent.write (columns : List AlertColumn) (copy stored : AlertEvent) : AlertEvent :=
  { stored with
    severity := if .severity ∈ columns then copy.severity else stored.severity
    status := if .status ∈ columns then copy.status else stored.status
    message := if .message ∈ columns then copy.message else stored.message
    lastSeenAt := if .lastSeenAt ∈ columns then copy.lastSeenAt else stored.lastSeenAt
    valueFloat := if .valueFloat ∈ columns then copy.valueFloat else stored.valueFloat
    valueInteger :=
      if .valueInteger ∈ columns then copy.valueInteger else stored.valueInteger
    valueBoolean :=
      if .valueBoolean ∈ columns then copy.valueBoolean else stored.valueBoolean
    valueText := if .valueText ∈ columns then copy.valueText else stored.valueText
    acknowledgedBy :=
      if .acknowledgedBy ∈ columns then copy.acknowledgedBy else stored.acknowledgedBy
    acknowledgedAt :=
      if .acknowledgedAt ∈ columns then copy.acknowledgedAt else stored.acknowledgedAt
    resolvedBy := if .resolvedBy ∈ columns then copy.resolvedBy else stored.resolvedBy
    resolvedAt := if .resolvedAt ∈ columns then copy.resolvedAt else stored.resolvedAt
    resolutionType :=
      if .resolutionType ∈ columns then copy.resolutionType else stored.resolutionType
    acknowledgeComment :=
      if .acknowledgeComment ∈ columns then copy.acknowledgeComment
      else stored.acknowledgeComment
    resolveComment :=
      if .resolveComment ∈ columns then copy.resolveComment else stored.resolveComment
    occurrenceCount :=
      if .occurrenceCount ∈ columns then copy.occurrenceCount else stored.occurrenceCount
    metadata := if .metadata ∈ columns then copy.metadata else stored.metadata }

section Write

variable (columns : List AlertColumn) (copy stored : AlertEvent)

@[simp] theorem AlertEvent.write_id : (AlertEvent.write columns copy stored).id = stored.id :=
  rfl

theorem AlertEvent.write_status :
    (AlertEvent.write columns copy stored).status =
      if .status ∈ columns then copy.status else stored.status := rfl

/-- No save of columns moves an alert to another key. -/
@[simp] theorem AlertEvent.write_hasKey {key : ConditionKey} :
    (AlertEvent.write columns copy stored).HasKey key ↔ stored.HasKey key := Iff.rfl

end Write

/-- PostgreSQL accepts the row: its metadata has a JSON form, and its count fits a
positive integer column. -/
def AlertEvent.storable (alert : AlertEvent) : Bool :=
  alert.metadata.storable && alert.occurrenceCount ≤ 2147483647

/-! ### The database -/

/-- What the alert engine works on. -/
structure AlertsDb where
  hierarchy : Hierarchy
  deviceTypes : Table DeviceType
  metrics : Table MetricDefinition
  rules : Table AlertRule
  alerts : Table AlertEvent
  conditionStates : List AlertConditionState
  logs : List AlertEventLog
  comments : List AlertComment
  windows : Table AlertSuppressionWindow
  alert_rule :
    ∀ alert ∈ alerts.rows, ∀ rule ∈ alert.alertRule, (rules.find rule).isSome
  conditionState_rule :
    ∀ state ∈ conditionStates, (rules.find state.alertRule).isSome
  alert_storable : ∀ alert ∈ alerts.rows, alert.storable
  /-- `uq_alert_condition_state`. -/
  conditionState_unique : (conditionStates.map AlertConditionState.key).Nodup

/-- A database without alerts. -/
def AlertsDb.quiet (hierarchy : Hierarchy) (deviceTypes : Table DeviceType)
    (metrics : Table MetricDefinition) (rules : Table AlertRule)
    (windows : Table AlertSuppressionWindow) : AlertsDb where
  hierarchy := hierarchy
  deviceTypes := deviceTypes
  metrics := metrics
  rules := rules
  alerts := .empty
  conditionStates := []
  logs := []
  comments := []
  windows := windows
  alert_rule := by simp [Table.empty]
  conditionState_rule := by simp
  alert_storable := by simp [Table.empty]
  conditionState_unique := by simp

/-! ### Validation -/

/-- Why `save` refuses a row that it validates first. -/
inductive ValidationError
  /-- A foreign key refers to no row. -/
  | doesNotExist
  /-- `full_clean` raised these messages. -/
  | invalid (errors : FieldErrors)
deriving DecidableEq

/-- The range validators of an integer column. -/
def FieldErrors.inRange (errors : FieldErrors) (low high : ℤ) (field : String) (value : ℤ) :
    FieldErrors :=
  (errors.check (value < low) field
    ("Ensure this value is greater than or equal to " ++ toString low ++ ".")).check
      (high < value) field
      ("Ensure this value is less than or equal to " ++ toString high ++ ".")

namespace AlertRule

variable (db : AlertsDb) (rule : AlertRule)

/-- The threshold fields of a rule, in order, with whether they are set. -/
def thresholdFields : List (String × Bool) :=
  [("threshold_float", rule.thresholdFloat.isSome),
    ("threshold_integer", rule.thresholdInteger.isSome),
    ("threshold_boolean", rule.thresholdBoolean.isSome),
    ("threshold_text", rule.thresholdText.isSome)]

/-- Every foreign key of the rule refers to a row. -/
def keysExist : Bool :=
  (db.hierarchy.organizations.find rule.organization).isSome &&
    rule.dataCenter.all (fun id => (db.hierarchy.dataCenters.find id).isSome) &&
    rule.deviceType.all (fun id => (db.deviceTypes.find id).isSome) &&
    rule.device.all (fun id => (db.hierarchy.devices.find id).isSome) &&
    (db.metrics.find rule.metric).isSome

/-- `clean_fields`: what the columns of the model accept. -/
def fieldErrors : FieldErrors :=
  let errors := FieldErrors.check [] (rule.name = "") "name" "This field cannot be blank."
  let errors := errors.maxLength 255 "name" rule.name
  let errors :=
    match rule.operator with
    | .unsupported value =>
        errors.append "operator" ("Value '" ++ value ++ "' is not a valid choice.")
    | _ => errors
  let errors :=
    match rule.thresholdInteger with
    | some value =>
        errors.inRange (-9223372036854775808) 9223372036854775807 "threshold_integer" value
    | none => errors
  let errors := errors.maxLength 255 "threshold_text" (rule.thresholdText.getD "")
  let errors :=
    match rule.severity with
    | .unsupported text _ =>
        errors.append "severity"
          (if text = "" then "This field cannot be blank."
          else "Value '" ++ text ++ "' is not a valid choice.")
    | _ => errors
  errors.inRange 0 2147483647 "duration_seconds" rule.durationSeconds

/-- Another active rule of the same scope, metric, operator and threshold.  In
PostgreSQL a NaN equals itself. -/
def duplicateOf (other : AlertRule) : Bool :=
  other.isActive && other.organization = rule.organization &&
    other.dataCenter = rule.dataCenter && other.deviceType = rule.deviceType &&
    other.device = rule.device && other.metric = rule.metric &&
    other.operator = rule.operator && other.thresholdFloat = rule.thresholdFloat &&
    other.thresholdInteger = rule.thresholdInteger &&
    other.thresholdBoolean = rule.thresholdBoolean &&
    other.thresholdText = rule.thresholdText && other.id ≠ rule.id

/-- The errors that `AlertRule.clean` raises. -/
def cleanErrors : FieldErrors :=
  let errors : FieldErrors :=
    if (rule.thresholdFields.filter fun field => field.2).length ≠ 1 then
      rule.thresholdFields.foldl
        (fun errors field => errors.append field.1 "Exactly one threshold field must be set.")
        []
    else []
  let errors :=
    match rule.device.bind db.hierarchy.devices.find with
    | none => errors
    | some device =>
        let errors := errors.check (device.organization ≠ rule.organization)
          "organization" "Must match the selected device organization."
        let errors := errors.check (rule.dataCenter.any (device.dataCenter ≠ ·))
          "data_center" "Must match the selected device data center."
        errors.check (rule.deviceType.any (device.deviceType ≠ ·))
          "device_type" "Must match the selected device type."
  let errors := errors.check
    (db.hierarchy.dataCenterElsewhere rule.dataCenter (some rule.organization))
    "data_center" "Data center must belong to the selected organization."
  errors.check (errors = [] ∧ rule.isActive ∧ db.rules.rows.any rule.duplicateOf)
    "__all__"
    "An active alert rule with the same scope, operator, metric, and threshold already exists."

/-- `full_clean`, which `save` calls. -/
def fullClean : Except ValidationError Unit :=
  if rule.keysExist db then
    let errors := rule.fieldErrors.merge (rule.cleanErrors db)
    if errors = [] then .ok ⟨⟩ else .error (.invalid errors)
  else .error .doesNotExist

end AlertRule

namespace AlertSuppressionWindow

variable (db : AlertsDb) (window : AlertSuppressionWindow)

/-- Every foreign key of the window refers to a row. -/
def keysExist : Bool :=
  window.organization.all (fun id => (db.hierarchy.organizations.find id).isSome) &&
    window.dataCenter.all (fun id => (db.hierarchy.dataCenters.find id).isSome) &&
    window.device.all (fun id => (db.hierarchy.devices.find id).isSome) &&
    window.metric.all (fun id => (db.metrics.find id).isSome)

/-- `clean_fields`: the columns that are not null. -/
def fieldErrors : FieldErrors :=
  let errors := FieldErrors.check [] (window.organization = none) "organization"
    "This field cannot be null."
  let errors := errors.check (window.startsAt = none) "starts_at" "This field cannot be null."
  errors.check (window.endsAt = none) "ends_at" "This field cannot be null."

/-- Another active window of the same scope whose times overlap. -/
def overlaps (starts ends : Instant) (other : AlertSuppressionWindow) : Bool :=
  other.isActive && other.organization = window.organization &&
    other.dataCenter = window.dataCenter && other.device = window.device &&
    other.metric = window.metric && other.startsAt.any (· < ends) &&
    other.endsAt.any (starts < ·) && other.id ≠ window.id

/-- The errors that `AlertSuppressionWindow.clean` raises. -/
def cleanErrors : FieldErrors :=
  let errors := FieldErrors.check [] (window.organization = none) "organization"
    "Organization is required."
  let errors := errors.check (window.startsAt = none) "starts_at" "Start time is required."
  let errors := errors.check (window.endsAt = none) "ends_at" "End time is required."
  let backwards : Bool :=
    match window.startsAt, window.endsAt with
    | some starts, some ends => ends ≤ starts
    | _, _ => false
  let errors := errors.check backwards "starts_at" "Start time must be earlier than end time."
  let errors := errors.check backwards "ends_at" "End time must be later than start time."
  let errors := errors.check
    (window.organization = none ∧ window.dataCenter = none ∧ window.device = none ∧
      window.metric = none)
    "__all__" "At least one scope field must be selected for a suppression window."
  let errors := errors.check
    (db.hierarchy.dataCenterElsewhere window.dataCenter window.organization)
    "data_center" "Data center must belong to the selected organization."
  let errors :=
    match window.device.bind db.hierarchy.devices.find with
    | none => errors
    | some device =>
        let errors := errors.check (window.organization.any (device.organization ≠ ·))
          "organization" "Must match the selected device organization."
        errors.check (window.dataCenter.any (device.dataCenter ≠ ·))
          "data_center" "Must match the selected device data center."
  match window.startsAt, window.endsAt with
  | some starts, some ends =>
      errors.check
        (window.isActive ∧ window.organization.isSome ∧
          db.windows.rows.any (window.overlaps starts ends))
        "__all__"
        "An active suppression window with the same scope overlaps the selected time range."
  | _, _ => errors

/-- `full_clean`, which `save` calls. -/
def fullClean : Except ValidationError Unit :=
  if window.keysExist db then
    let errors := window.fieldErrors.merge (window.cleanErrors db)
    if errors = [] then .ok ⟨⟩ else .error (.invalid errors)
  else .error .doesNotExist

end AlertSuppressionWindow

end DcimBackend
