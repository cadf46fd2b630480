import DcimBackend.Library.Csv
import DcimBackend.Reports.Database
import Mathlib.Data.List.Sort

/-!
# The contents of reports

The builders of `apps/reports/services/generator.py`, one for each type of report, and
`_build_report`, which renders what they return as CSV.  A builder checks the parameters of the
job one after another and narrows a query down with each; what it returns are the names of the
columns and the rows, a value under each name.

`order_by` of a query is a stable sort of the rows as they are stored: where the columns of the
ordering tie, PostgreSQL may return the rows in any order.

A row is a list of texts and numbers in the order of its headers, and a report the list of its
rows.  Of the formats only CSV is written out, character by character, with the dialect of `csv`;
that another reader gets the same rows back is the subject of `Reports.Rendering`.  The queries of
a builder are filters on lists, in the order of the source, so that a filter which raises does so
where the source does.

What the code takes from elsewhere is a field of `ReportEnv`: `str` of a key, the parser of dates,
and the collation by which PostgreSQL orders texts, among others.
-/

namespace DcimBackend

open Library

/-- A row of a report: a value under each name. -/
abbrev ReportRow := List (String × PyValue)

/-- `row.get(name)`. -/
def ReportRow.value (row : ReportRow) (name : String) : PyValue := (row.lookup name).getD .none

/-- A text, or `None`. -/
def PyValue.ofText? (value : Option String) : PyValue := value.elim .none .text

/-! ### Orderings -/

/-- An ordering by a column, with the next one where it ties. -/
def orderBy {ρ κ : Type} [DecidableEq κ] (le : κ → κ → Bool) (column : ρ → κ)
    (next : ρ → ρ → Bool) (a b : ρ) : Bool :=
  if column a = column b then next a b else le (column a) (column b)

theorem orderBy_congr {ρ κ : Type} [DecidableEq κ] {le : κ → κ → Bool} {column column' : ρ → κ}
    {next next' : ρ → ρ → Bool} {a b : ρ} (ha : column a = column' a) (hb : column b = column' b)
    (hnext : next a b = next' a b) :
    orderBy le column next a b = orderBy le column' next' a b := by
  unfold orderBy
  rw [ha, hb, hnext]

section OrderBy

variable {ρ κ : Type} [DecidableEq κ] {le : κ → κ → Bool} {column : ρ → κ} {next : ρ → ρ → Bool}

theorem orderBy_total (hle : ∀ x y, (le x y || le y x) = true)
    (hnext : ∀ a b, (next a b || next b a) = true) (a b : ρ) :
    (orderBy le column next a b || orderBy le column next b a) = true := by
  unfold orderBy
  by_cases heq : column a = column b
  · rw [if_pos heq, if_pos heq.symm]
    exact hnext a b
  · rw [if_neg heq, if_neg (Ne.symm heq)]
    exact hle _ _

theorem orderBy_trans (hle : ∀ x y z, le x y = true → le y z = true → le x z = true)
    (hanti : ∀ x y, le x y = true → le y x = true → x = y)
    (hnext : ∀ a b c, next a b = true → next b c = true → next a c = true) (a b c : ρ)
    (hab : orderBy le column next a b = true) (hbc : orderBy le column next b c = true) :
    orderBy le column next a c = true := by
  unfold orderBy at hab hbc ⊢
  by_cases heq : column a = column b
  · rw [if_pos heq] at hab
    rw [heq]
    by_cases heq' : column b = column c
    · rw [if_pos heq'] at hbc ⊢
      exact hnext a b c hab hbc
    · rw [if_neg heq'] at hbc ⊢
      exact hbc
  · rw [if_neg heq] at hab
    by_cases heq' : column b = column c
    · rw [← heq', if_neg heq]
      exact hab
    · rw [if_neg heq'] at hbc
      split
      · rename_i hac
        rw [← hac] at hbc
        exact absurd (hanti _ _ hab hbc) heq
      · exact hle _ _ _ hab hbc

end OrderBy

/-- The end of an ordering: any order. -/
def orderEnd {ρ : Type} (_ _ : ρ) : Bool := true

/-- The order of the times. -/
def timeLe (a b : Instant) : Bool := decide (a ≤ b)

/-- The order of a nullable column: no value comes last. -/
def nullsLast {κ : Type} (le : κ → κ → Bool) : Option κ → Option κ → Bool
  | some a, some b => le a b
  | _, none => true
  | none, some _ => false

/-! ### Choices -/

/-- `AlertSeverity.values`. -/
def AlertSeverity.values : List AlertSeverity := [.info, .warning, .critical, .emergency]

/-- `AlertStatus.values`. -/
def AlertStatus.values : List AlertStatus := [.open, .acknowledged, .resolved, .suppressed]

/-- `NotificationStatus.values`. -/
def NotificationStatus.values : List NotificationStatus := [.pending, .delivering, .sent, .failed]

/-- `NotificationChannel.values`. -/
def NotificationChannel.values : List NotificationChannel := [.email, .sms, .web, .webhook]

/-- `DeviceStatus.values`. -/
def DeviceStatus.values : List DeviceStatus :=
  [.online, .offline, .degraded, .maintenance, .unknown]

/-- The value of a status in its column. -/
def NotificationStatus.value : NotificationStatus → String
  | .pending => "PENDING"
  | .delivering => "DELIVERING"
  | .sent => "SENT"
  | .failed => "FAILED"

/-- The value of a quality in its column. -/
def TelemetryQuality.value : TelemetryQuality → String
  | .good => "GOOD"
  | .bad => "BAD"
  | .stale => "STALE"
  | .unknown => "UNKNOWN"

/-- `AuditAction.values`. -/
def auditActions : List String :=
  ["LOGIN_SUCCESS", "LOGIN_FAILED", "LOGOUT", "CREATE", "UPDATE", "DELETE", "ROLE_ASSIGNED",
    "ROLE_REMOVED", "ALERT_ACKNOWLEDGED", "ALERT_RESOLVED", "ALERT_SUPPRESSED",
    "ALERT_ESCALATED", "REPORT_GENERATION_REQUESTED", "REPORT_RETRY_REQUESTED",
    "REPORT_CANCELLED", "REPORT_GENERATION_STARTED", "REPORT_GENERATED",
    "REPORT_GENERATION_FAILED", "REPORT_DOWNLOADED", "CREDENTIAL_UPDATED"]

/-! ### Counts -/

/-- A row of counts. -/
def countRow (part label : String) (count : ℕ) : ReportRow :=
  [("section", .text part), ("label", .text label), ("value", .int count)]

/-- The columns of a report of counts. -/
def countHeaders : List String := ["section", "label", "value"]

/-- `queryset.filter(...).count()` for each of some values. -/
def countRows {ρ κ : Type} (part : String) (values : List κ) (label : κ → String)
    (has : κ → ρ → Bool) (rows : List ρ) : List ReportRow :=
  values.map fun value => countRow part (label value) (rows.countP (has value))

/-- The rows of `_alert_summary_rows`, of the selected alerts. -/
def alertCounts (qs : List AlertEvent) : List ReportRow :=
  let activeQs := qs.filter fun alert => alert.status = .open || alert.status = .acknowledged
  [countRow "summary" "total_alerts" qs.length,
    countRow "summary" "open_total" activeQs.length,
    countRow "summary" "critical_open" (activeQs.countP fun alert => alert.severity = .critical),
    countRow "summary" "warning_open" (activeQs.countP fun alert => alert.severity = .warning),
    countRow "summary" "acknowledged_total" (qs.countP fun alert => alert.status = .acknowledged),
    countRow "summary" "resolved_total" (qs.countP fun alert => alert.status = .resolved),
    countRow "summary" "unacknowledged_critical"
      (qs.countP fun alert => alert.status = .open && alert.severity = .critical)] ++
    countRows "severity" AlertSeverity.values AlertSeverity.value
      (fun severity alert => alert.severity = severity) qs ++
    countRows "status" AlertStatus.values AlertStatus.value
      (fun status alert => alert.status = status) qs

/-- The rows of `_notification_delivery_rows`, of the selected notifications. -/
def notificationCounts (qs : List ReportNotification) : List ReportRow :=
  [countRow "summary" "total" qs.length,
    countRow "summary" "pending" (qs.countP fun row => row.status = .pending),
    countRow "summary" "delivering" (qs.countP fun row => row.status = .delivering),
    countRow "summary" "sent" (qs.countP fun row => row.status = .sent),
    countRow "summary" "failed" (qs.countP fun row => row.status = .failed),
    countRow "summary" "read_count" (qs.countP fun row => row.readAt.isSome)] ++
    countRows "status" NotificationStatus.values NotificationStatus.value
      (fun status row => row.status = status) qs ++
    countRows "channel" NotificationChannel.values NotificationChannel.value
      (fun channel row => row.channel = channel) qs

/-! ### Selections -/

/-- The rows of a range of dates. -/
def inRange {ρ : Type} (range : Option DateTime × Option DateTime) (time : ρ → Instant)
    (rows : List ρ) : List ρ :=
  (rows.filter fun row => range.1.all fun start => start.instant ≤ time row).filter fun row =>
    range.2.all fun stop => time row ≤ stop.instant

/-- `filter(column__in=values)`, if there are any. -/
def amongValues {ρ : Type} (values : List String) (column : ρ → Option String) (rows : List ρ) :
    List ρ :=
  if values = [] then rows else rows.filter fun row => (column row).any fun value => value ∈ values

theorem amongValues_eq {ρ : Type} {values : List String} {column : ρ → Option String}
    {rows : List ρ} : amongValues values column rows =
      rows.filter fun row => values = [] || (column row).any fun value => value ∈ values := by
  unfold amongValues
  split
  · rename_i hnil
    simp [hnil]
  · rename_i hne
    simp [hne]

/-- `metadata__key=text`. -/
def metadataIs (metadata : Json) (key text : String) : Bool := metadata.orEmpty.hasText key text

namespace ReportDb

variable (env : ReportEnv) (db : ReportDb) (job : ReportJob)

/-- The code of a metric. -/
def metricCode (metric : Option MetricId) : Option String :=
  (metric.bind db.metrics.table.find).map MetricDefinition.code

/-- The rows in the selected data center. -/
def inDataCenter {ρ : Type} (dataCenter : Option DataCenter) (key : ρ → DataCenterId)
    (rows : List ρ) : List ρ :=
  rows.filter fun row => dataCenter.all fun selected => key row = selected.id

/-- `_user_label`. -/
def userLabel (id : Option UserId) : String :=
  match id.bind db.users.find with
  | none => ""
  | some user =>
      if user.fullName ≠ "" then user.fullName
      else if user.username ≠ "" then user.username
      else if user.email ≠ "" then user.email
      else env.keyText user.id

/-- The name of a resource that a nullable key names. -/
def resourceName (level : Level) (id : Option ℕ) : PyValue :=
  .ofText? (id.map fun id => db.name ⟨level, id⟩)

/-- The name of the model of a device. -/
def deviceModelName (id : DeviceId) : PyValue :=
  .ofText? (((db.deviceColumns id).deviceModel.bind db.deviceModels.find).map DeviceModel.name)

/-! ### Alerts -/

/-- The alerts that `_alert_summary_rows` counts. -/
def summarizedAlerts : Except String (List AlertEvent) := do
  let parameters := job.parameters.orEmpty
  let templateConfig ← db.getReportConfig job
  let range ← env.parser.parseReportDateRange parameters
  env.validateMaxDateRange range templateConfig
  let qs := db.alerts.select fun alert => alert.organization = job.organization
  let dataCenter ← db.resolveDataCenterScope env job parameters
  let qs := inDataCenter dataCenter AlertEvent.dataCenter qs
  let qs := inRange range AlertEvent.triggeredAt qs
  let metricCodes ← env.resolveMetricCodes parameters
  let qs := amongValues metricCodes (fun alert => db.metricCode alert.metric) qs
  let severities ← env.normalizeChoiceValues (parameters.get "severity")
    (AlertSeverity.values.map AlertSeverity.value) "severity"
  let qs := amongValues severities (fun alert => some alert.severity.value) qs
  let statuses ← env.normalizeChoiceValues (parameters.get "status")
    (AlertStatus.values.map AlertStatus.value) "status"
  let qs := amongValues statuses (fun alert => some alert.status.value) qs
  let condition ← db.deviceConditions env job parameters dataCenter
  return qs.filter fun alert => db.onDevice condition alert.device

/-- `_alert_summary_rows`. -/
def alertSummaryRows : Except String (List String × List ReportRow) := do
  let qs ← db.summarizedAlerts env job
  return (countHeaders, alertCounts qs)

/-- The columns of `_alert_export_rows`. -/
def alertExportHeaders : List String :=
  ["triggered_at", "resolved_at", "organization", "data_center", "room", "rack", "device",
    "device_model", "metric", "severity", "status", "message", "occurrence_count",
    "acknowledged_by", "resolved_by"]

/-- The row of an alert in `_alert_export_rows`. -/
def alertRow (alert : AlertEvent) : ReportRow :=
  let device := db.hierarchy.devices.find alert.device
  [("triggered_at", .text (env.py.isoformat alert.triggeredAt)),
    ("resolved_at", .ofText? (alert.resolvedAt.map env.py.isoformat)),
    ("organization", .text (db.name ⟨.organization, alert.organization⟩)),
    ("data_center", .text (db.name ⟨.dataCenter, alert.dataCenter⟩)),
    ("room", db.resourceName .room (device.bind Device.room)),
    ("rack", db.resourceName .rack (device.bind Device.rack)),
    ("device", .ofText? (device.map Device.name)),
    ("device_model", db.deviceModelName alert.device),
    ("metric", .ofText? (db.metricCode alert.metric)),
    ("severity", .text alert.severity.value),
    ("status", .text alert.status.value),
    ("message", .text alert.message),
    ("occurrence_count", .int alert.occurrenceCount),
    ("acknowledged_by", .text (db.userLabel env alert.acknowledgedBy)),
    ("resolved_by", .text (db.userLabel env alert.resolvedBy))]

/-- `order_by("triggered_at", "id")`. -/
def alertOrder : AlertEvent → AlertEvent → Bool :=
  orderBy timeLe AlertEvent.triggeredAt fun a b => a.id ≤ b.id

/-- The alerts of `_alert_export_rows`. -/
def exportedAlerts : Except String (List AlertEvent) := do
  let parameters := job.parameters.orEmpty
  let templateConfig ← db.getReportConfig job
  let range ← env.parser.parseReportDateRange parameters true
  env.validateMaxDateRange range templateConfig
  let qs := db.alerts.select fun alert => alert.organization = job.organization
  let dataCenter ← db.resolveDataCenterScope env job parameters
  let qs := inDataCenter dataCenter AlertEvent.dataCenter qs
  let qs := inRange range AlertEvent.triggeredAt qs
  let condition ← db.deviceConditions env job parameters dataCenter
  let qs := qs.filter fun alert => db.onDevice condition alert.device
  let metricCodes ← env.resolveMetricCodes parameters
  let qs := amongValues metricCodes (fun alert => db.metricCode alert.metric) qs
  let severities ← env.normalizeChoiceValues (parameters.get "severity")
    (AlertSeverity.values.map AlertSeverity.value) "severity"
  let qs := amongValues severities (fun alert => some alert.severity.value) qs
  let statuses ← env.normalizeChoiceValues (parameters.get "status")
    (AlertStatus.values.map AlertStatus.value) "status"
  let qs := amongValues statuses (fun alert => some alert.status.value) qs
  let sourceValues := env.normalizeList (parameters.get "source")
  let qs :=
    if sourceValues = [] then qs
    else qs.filter fun alert => sourceValues.any fun source => alert.metadata.hasText "source" source
  return qs.mergeSort alertOrder

/-- `_alert_export_rows`. -/
def alertExportRows : Except String (List String × List ReportRow) := do
  let qs ← db.exportedAlerts env job
  return (alertExportHeaders, qs.map (db.alertRow env))

/-! ### Notifications -/

/-- The notifications about alerts in the data center of the job, if it has one.  They name an
alert in their metadata; without alerts there are none. -/
def inJobDataCenter (qs : List ReportNotification) : List ReportNotification :=
  match job.dataCenter with
  | none => qs
  | some dataCenter =>
      let alerts := (db.alerts.select fun alert => alert.organization = job.organization).filter
        fun alert => alert.dataCenter = dataCenter
      qs.filter fun row => alerts.any fun alert =>
        metadataIs row.metadata "alert_event_id" (env.keyText alert.id) ||
          metadataIs row.metadata "alert_id" (env.keyText alert.id)

/-- The filter by `recipient_id` or `actor_id`, of rows with the key of a user. -/
def ofUser {ρ : Type} (parameters : Dict) (field : String) (user : ρ → Option UserId)
    (qs : List ρ) : Except String (List ρ) :=
  match getParameterValue parameters [field] with
  | none => .ok qs
  | some value => do
      let id ← env.readKey value
      match db.users.find id with
      | none => throw ("Invalid " ++ field ++ ".")
      | some found => return qs.filter fun row => user row = some found.id

/-- The filter of notifications by `alert_id`, which may be any text. -/
def aboutAlert (parameters : Dict) (qs : List ReportNotification) : List ReportNotification :=
  match getParameterValue parameters ["alert_id"] with
  | none => qs
  | some value => qs.filter fun row =>
      metadataIs row.metadata "alert_event_id" (env.str value) ||
        metadataIs row.metadata "alert_id" (env.str value)

/-- The filter of notifications by `device_id`. -/
def aboutDevice (parameters : Dict) (qs : List ReportNotification) :
    Except String (List ReportNotification) :=
  match getParameterValue parameters ["device_id"] with
  | none => .ok qs
  | some value => do
      let device ← db.resolveDevice env job value
      return qs.filter fun row =>
        metadataIs row.metadata "device_id" (env.keyText device.id) ||
          metadataIs row.metadata "device_id" (env.str value)

/-- The notifications that `_notification_delivery_rows` counts. -/
def countedNotifications : Except String (List ReportNotification) := do
  let parameters := job.parameters.orEmpty
  let range ← env.parser.parseReportDateRange parameters
  let templateConfig ← db.getReportConfig job
  env.validateMaxDateRange range templateConfig
  let qs := db.notifications.select fun row => row.organization = job.organization
  let qs := db.inJobDataCenter env job qs
  let qs := inRange range (fun row => row.createdAt) qs
  let qs ← db.ofUser env parameters "recipient_id" (fun row => row.recipient) qs
  let channels ← env.normalizeChoiceValues (parameters.get "channel")
    (NotificationChannel.values.map NotificationChannel.value) "channel"
  let qs := amongValues channels (fun row => some row.channel.value) qs
  let statuses ← env.normalizeChoiceValues (parameters.get "status")
    (NotificationStatus.values.map NotificationStatus.value) "status"
  let qs := amongValues statuses (fun row => some row.status.value) qs
  db.aboutDevice env job parameters (aboutAlert env parameters qs)

/-- `_notification_delivery_rows`. -/
def notificationDeliveryRows : Except String (List String × List ReportRow) := do
  let qs ← db.countedNotifications env job
  return (countHeaders, notificationCounts qs)

/-! ### Devices -/

/-- The columns of `_device_inventory_rows`. -/
def deviceInventoryHeaders : List String :=
  ["device_id", "organization", "data_center", "room", "rack", "device", "code", "hostname",
    "ip_address", "device_type", "device_model", "vendor", "status", "is_active", "last_seen"]

/-- The row of a device in `_device_inventory_rows`. -/
def deviceRow (device : Device) : ReportRow :=
  let columns := db.deviceColumns device.id
  [("device_id", .text (env.keyText device.id)),
    ("organization", .text (db.name ⟨.organization, device.organization⟩)),
    ("data_center", .text (db.name ⟨.dataCenter, device.dataCenter⟩)),
    ("room", db.resourceName .room device.room),
    ("rack", db.resourceName .rack device.rack),
    ("device", .text device.name),
    ("code", .text columns.code),
    ("hostname", .ofText? columns.hostname),
    ("ip_address", .ofText? columns.ipAddress),
    ("device_type", .ofText? ((db.deviceTypes.find device.deviceType).map DeviceType.name)),
    ("device_model", db.deviceModelName device.id),
    ("vendor", .ofText? ((columns.deviceModel.bind db.deviceModels.find).map DeviceModel.vendor)),
    ("status", .text columns.status.value),
    ("is_active", .bool columns.isActive),
    ("last_seen", .ofText? (columns.lastSeenAt.map env.py.isoformat))]

/-- The devices of `_device_inventory_rows`. -/
def inventoriedDevices : Except String (List Device) := do
  let parameters := job.parameters.orEmpty
  let qs := db.hierarchy.devices.select fun device => device.organization = job.organization
  let dataCenter ← db.resolveDataCenterScope env job parameters
  let qs := inDataCenter dataCenter Device.dataCenter qs
  let inRoom ← db.roomCondition env job parameters dataCenter
  let inRack ← db.rackCondition env job parameters dataCenter
  let onDevice ← db.deviceCondition env job parameters dataCenter
  let onModel ← db.deviceModelCondition env job parameters dataCenter
  let onType ← db.deviceTypeCondition env job parameters dataCenter
  let qs := qs.filter fun device =>
    inRoom device && inRack device && onDevice device && onModel device && onType device
  let statuses ← env.normalizeChoiceValues (parameters.get "status")
    (DeviceStatus.values.map DeviceStatus.value) "status"
  let qs := amongValues statuses (fun device => some (db.deviceColumns device.id).status.value) qs
  let isActive ← env.normalizeBool (parameters.get "is_active") "is_active"
  let qs := qs.filter fun device => isActive.all fun value =>
    (db.deviceColumns device.id).isActive = value
  return qs.mergeSort (orderBy env.collate Device.name
    (orderBy env.collate (fun device => (db.deviceColumns device.id).code) orderEnd))

/-- `_device_inventory_rows`. -/
def deviceInventoryRows : Except String (List String × List ReportRow) := do
  let qs ← db.inventoriedDevices env job
  return (deviceInventoryHeaders, qs.map (db.deviceRow env))

/-! ### The audit log -/

/-- The columns of `_audit_export_rows`. -/
def auditExportHeaders : List String :=
  ["created_at", "actor", "action", "resource_type", "resource_id", "organization", "message",
    "ip_address", "user_agent"]

/-- The row of an entry in `_audit_export_rows`. -/
def auditRow (log : DatedAuditLog) : ReportRow :=
  [("created_at", .text (env.py.isoformat log.createdAt)),
    ("actor", .text (db.userLabel env log.actor)),
    ("action", .text log.action),
    ("resource_type", .ofText? log.resourceType),
    ("resource_id", .ofText? log.resourceId),
    ("organization", db.resourceName .organization log.organization),
    ("message", .ofText? log.message),
    ("ip_address", .ofText? log.ipAddress),
    ("user_agent", .ofText? log.userAgent)]

/-- The filter of entries by a column with a text. -/
def withText (parameters : Dict) (field : String) (column : DatedAuditLog → Option String)
    (qs : List DatedAuditLog) : List DatedAuditLog :=
  match getParameterValue parameters [field] with
  | none => qs
  | some value => qs.filter fun log => column log = some (pyStrip (env.str value))

/-- The filter of entries by `ip_address`. -/
def fromAddress (parameters : Dict) (qs : List DatedAuditLog) :
    Except String (List DatedAuditLog) :=
  match getParameterValue parameters ["ip_address"] with
  | none => .ok qs
  | some value => do
      let equal ← env.matchAddress (pyStrip (env.str value))
      return qs.filter fun log => log.ipAddress.any equal

/-- The entries of `_audit_export_rows`. -/
def exportedAuditLogs : Except String (List DatedAuditLog) := do
  let parameters := job.parameters.orEmpty
  let templateConfig ← db.getReportConfig job
  let range ← env.parser.parseReportDateRange parameters true
  env.validateMaxDateRange range templateConfig
  let qs := db.auditLogs.select fun log => log.organization = some job.organization
  let qs := inRange range (fun log => log.createdAt) qs
  let qs ← db.ofUser env parameters "actor_id" (fun log => log.actor) qs
  let actions ← env.normalizeChoiceValues (parameters.get "actions") auditActions "actions"
  let qs := amongValues actions (fun log => some log.action) qs
  let qs := withText env parameters "resource_type" (fun log => log.resourceType) qs
  let qs := withText env parameters "resource_id" (fun log => log.resourceId) qs
  let qs ← fromAddress env parameters qs
  return qs.mergeSort (orderBy timeLe (fun log => log.createdAt) fun a b => a.id ≤ b.id)

/-- `_audit_export_rows`. -/
def auditExportRows : Except String (List String × List ReportRow) := do
  let qs ← db.exportedAuditLogs env job
  return (auditExportHeaders, qs.map (db.auditRow env))

/-! ### Telemetry -/

/-- `_telemetry_value`. -/
def telemetryValue (point : ReportPoint) : PyValue :=
  match point.valueFloat, point.valueInteger, point.valueBoolean, point.valueText with
  | some value, _, _, _ => .float value
  | none, some value, _, _ => .int value
  | none, none, some value, _ => .bool value
  | none, none, none, some value => .text value
  | none, none, none, none => .ofText? point.rawValueText

/-- The metric of a point. -/
def pointMetric (point : ReportPoint) : Option MetricDefinition := db.metrics.table.find point.metric

/-- The columns of `_room_environment_rows`. -/
def roomEnvironmentHeaders : List String :=
  ["room_name", "room_code", "device_name", "device_code", "metric_code", "metric_name",
    "measured_at", "value", "unit", "quality", "source"]

/-- A text, or another one if it is missing or empty. -/
def textOr (text : Option String) (other : String) : PyValue :=
  match text with
  | none | some "" => .text other
  | some text => .text text

/-- The row of a point in `_room_environment_rows`. -/
def roomEnvironmentRow (point : ReportPoint) : ReportRow :=
  let device := db.hierarchy.devices.find point.device
  let room := device.bind Device.room
  let columns := db.metricColumns point.metric
  [("room_name", textOr (room.map fun id => db.name ⟨.room, id⟩) "Unassigned"),
    ("room_code", textOr (room.map db.roomCode) ""),
    ("device_name", .ofText? (device.map Device.name)),
    ("device_code", .text (db.deviceColumns point.device).code),
    ("metric_code", .ofText? ((db.pointMetric point).map MetricDefinition.code)),
    ("metric_name", .text columns.name),
    ("measured_at", .text (env.py.isoformat point.time)),
    ("value", telemetryValue point),
    ("unit", textOr columns.unit ""),
    ("quality", .text point.quality.value),
    ("source", textOr point.source "")]

/-- The metric codes of `_room_environment_rows`: of the parameters, of the template, or the
default ones. -/
def roomEnvironmentCodes : Except String (List String) := do
  let codes := env.listedCodes (job.parameters.orEmpty.get "metrics")
  if codes ≠ [] then return codes
  let template ← db.jobTemplate job
  let codes := env.listedCodes ((template.map fun template => template.config.get "metrics").getD
    (.scalar .none))
  if codes ≠ [] then return codes
  return ["room_temperature", "room_humidity"]

/-- The points of `_room_environment_rows`. -/
def roomEnvironmentPoints : Except String (List ReportPoint) := do
  let metricCodes ← db.roomEnvironmentCodes env job
  let metrics := db.metrics.table.select fun metric =>
    metric.code ∈ metricCodes && (db.metricColumns metric.id).isActive
  if metrics = [] then return []
  let qs := db.points.filter fun point =>
    point.organization = job.organization && metrics.any fun metric => metric.id = point.metric
  let qs := qs.filter fun point => job.dataCenter.all fun id => point.dataCenter = id
  let qs ← env.parser.applyDateRange (fun point => point.time) qs job.parameters.orEmpty
  let device (point : ReportPoint) := db.hierarchy.devices.find point.device
  return qs.mergeSort
    (orderBy (nullsLast env.collate)
      (fun point => ((device point).bind Device.room).map fun id => db.name ⟨.room, id⟩)
      (orderBy (nullsLast env.collate) (fun point => (device point).map Device.name)
        (orderBy timeLe (fun point => point.time)
          (orderBy (nullsLast env.collate)
            (fun point => (db.pointMetric point).map MetricDefinition.code) orderEnd))))

/-- `_room_environment_rows`. -/
def roomEnvironmentRows : Except String (List String × List ReportRow) := do
  let qs ← db.roomEnvironmentPoints env job
  return (roomEnvironmentHeaders, qs.map (db.roomEnvironmentRow env))

/-- The columns of `_telemetry_export_rows`. -/
def telemetryExportHeaders : List String :=
  ["timestamp", "organization", "data_center", "room", "rack", "device", "device_model",
    "device_type", "metric_code", "metric_name", "value", "unit", "quality"]

/-- `_format_timestamp_for_csv`. -/
def formatTimestampForCsv (value : Instant) : String :=
  ((env.strftime value).or (env.isoMinutes value)).getD (env.strTime value)

/-- The row of a point in `_telemetry_export_rows`. -/
def telemetryExportRow (point : ReportPoint) : ReportRow :=
  let device := db.hierarchy.devices.find point.device
  let columns := db.metricColumns point.metric
  [("timestamp", .text (formatTimestampForCsv env point.time)),
    ("organization", .text (db.name ⟨.organization, point.organization⟩)),
    ("data_center", .text (db.name ⟨.dataCenter, point.dataCenter⟩)),
    ("room", db.resourceName .room (device.bind Device.room)),
    ("rack", db.resourceName .rack (device.bind Device.rack)),
    ("device", .ofText? (device.map Device.name)),
    ("device_model", db.deviceModelName point.device),
    ("device_type", .ofText?
      ((device.bind fun device => db.deviceTypes.find device.deviceType).map DeviceType.name)),
    ("metric_code", .ofText? ((db.pointMetric point).map MetricDefinition.code)),
    ("metric_name", .text columns.name),
    ("value", telemetryValue point),
    ("unit", textOr columns.unit ""),
    ("quality", .text point.quality.value)]

/-- `str` of what `_resolve_telemetry_metrics` raises. -/
def metricsErrorText : MetricsError → String
  | .valueError message => message
  | .keyError key => env.parser.repr (.scalar (.text key))

/-- The points of `_telemetry_export_rows`. -/
def exportedPoints : Except String (List ReportPoint) := do
  let parameters := job.parameters.orEmpty
  let templateConfig ← db.getReportConfig job
  let range ← env.parser.parseReportDateRange parameters true
  env.validateMaxDateRange range templateConfig 31
  let metricCodes ← env.resolveMetricCodes parameters true
  let metrics ← ((db.metrics.resolveTelemetryMetrics metricCodes).mapError
    (metricsErrorText env)).map Prod.snd
  let qs := db.points.filter fun point =>
    point.organization = job.organization && metrics.any fun metric => metric.id = point.metric
  let dataCenter ← db.resolveDataCenterScope env job parameters
  let qs := inDataCenter dataCenter (fun point => point.dataCenter) qs
  let qs := inRange range (fun point => point.time) qs
  let condition ← db.deviceConditions env job parameters dataCenter
  let qs := qs.filter fun point => db.onDevice condition point.device
  return qs.mergeSort (orderBy timeLe (fun point => point.time)
    (orderBy (nullsLast env.collate)
      (fun point => (db.hierarchy.devices.find point.device).map Device.name)
      (orderBy (nullsLast env.collate)
        (fun point => (db.pointMetric point).map MetricDefinition.code) orderEnd)))

/-- `_telemetry_export_rows`. -/
def telemetryExportRows : Except String (List String × List ReportRow) := do
  let qs ← db.exportedPoints env job
  return (telemetryExportHeaders, qs.map (db.telemetryExportRow env))

/-! ### The file -/

/-- The dialect of `csv.DictWriter`. -/
def csvDialect : Dialect Char := ⟨',', '"', '\r', '\n', by decide⟩

/-- The text that `csv` makes of a value. -/
def csvCell : PyValue → String
  | .none => ""
  | .text text => text
  | value => env.py.str value

/-- The records of a file: the names of the columns, and a record for each row. -/
def csvRecords (headers : List String) (rows : List ReportRow) : List (List String) :=
  headers :: rows.map fun row => headers.map fun name => csvCell env (row.value name)

/-- `_render_csv`. -/
def renderCsv (headers : List String) (rows : List ReportRow) : ByteArray :=
  (String.ofList (csvDialect.write
    ((csvRecords env headers rows).map fun record => record.map String.toList))).toUTF8

/-- The builder of a type of report. -/
def reportRows (reportType : String) : Except String (List String × List ReportRow) :=
  if reportType = "alert_summary" then db.alertSummaryRows env job
  else if reportType = "notification_delivery" then db.notificationDeliveryRows env job
  else if reportType = "device_inventory" then db.deviceInventoryRows env job
  else if reportType = "alert_export" then db.alertExportRows env job
  else if reportType = "audit_export" then db.auditExportRows env job
  else if reportType = "telemetry_export" then db.telemetryExportRows env job
  else if reportType = "room_environment" then db.roomEnvironmentRows env job
  else .error ("Unsupported report type: " ++ reportType)

/-- `_build_report`. -/
def buildReport : Except String (String × ByteArray) := do
  let reportType ← db.resolveReportType env job
  let _ ← db.resolveOutputFormat env job
  let (headers, rows) ← db.reportRows env job reportType
  return (reportType, renderCsv env headers rows)

end ReportDb

/-! ### Two banks -/

/-- Numbers as keys, ASCII texts, and dates alone. -/
def asciiReports : ReportEnv where
  py := asciiText
  parser := isoParser
  readKey
    | .scalar (.int key) => .ok key.toNat
    | _ => .error "“%(value)s” is not a valid UUID."
  keyText := toString
  matchAddress text := .ok fun other => other = text
  collate a b := a ≤ b
  strftime _ := some "1970-01-01 06:00"
  isoMinutes _ := none
  strTime _ := ""

/-- A device in a data center of each bank. -/
def bankDevices : Hierarchy :=
  .flat (.ofRows [⟨1⟩, ⟨2⟩]) (.ofRows [⟨1, 1⟩, ⟨2, 2⟩])
    (.ofRows [{ id := 1, organization := 1, dataCenter := 1, deviceType := 1, name := "UPS" },
      { id := 2, organization := 2, dataCenter := 2, deviceType := 1, name := "PAC" }])
    (.refl true)

/-- An alert of each bank. -/
def bankAlerts : Table AlertEvent :=
  .ofRows (([1, 2] : List ℕ).map fun bank =>
    { id := bank
      organization := bank
      dataCenter := bank
      device := bank
      metric := none
      alertRule := none
      severity := .critical
      message := "On battery, \"bypass\" open"
      triggeredAt := 700000 * dayMicros
      createdAt := 700000 * dayMicros })

/-- The alerts of two banks. -/
def bankReportDb : ReportDb where
  hierarchy := bankDevices
  deviceTypes := .empty
  deviceModels := .empty
  metrics := ⟨.empty, by simp [Table.empty]⟩
  metricColumns _ := ⟨"", none, true⟩
  users := .empty
  templates := .empty
  alerts := bankAlerts
  notifications := .empty
  auditLogs := .empty
  points := []
  alert_device := by decide
  point_device := by simp
  point_metric := by simp

/-- A job of the first bank, on the alerts of a month. -/
def bankAlertsJob : ReportJob where
  id := 0
  organization := 1
  parameters := .object
    [("report_type", .scalar (.text "alert_export")),
      ("date_from", .scalar (.text "1917-07-01")), ("date_to", .scalar (.text "1917-08-01"))]

end DcimBackend
