import DcimBackend.Api.Audit
import DcimBackend.Collectors.Mappings
import DcimBackend.Notifications.Creation
import DcimBackend.Reports.Metrics
import DcimBackend.Reports.Parameters

/-!
# What reports read

The tables that the builders of `apps/reports/services/generator.py` read, and what they look up
by the parameters of a job: its data center, and a device, a room, a rack, a device model or a
device type.  A row that is looked up has to belong to the organization of the job, and one with a
place to its data center.

`ReportDb` extends the models of the other parts with the columns that only reports show.  Its
fields include the foreign keys that PostgreSQL enforces.  A report reads all of it as of one
moment.
-/

namespace DcimBackend

open Library

/-- `devices.DeviceModel`, with the name of its vendor. -/
structure DeviceModel where
  id : DeviceModelId
  name : String
  vendor : String

instance : Keyed DeviceModel := ⟨DeviceModel.id⟩

/-- The value of a status in its column. -/
def DeviceStatus.value : DeviceStatus → String
  | .online => "ONLINE"
  | .offline => "OFFLINE"
  | .degraded => "DEGRADED"
  | .maintenance => "MAINTENANCE"
  | .unknown => "UNKNOWN"

/-- The columns of a device that reports read, beside those of the hierarchy. -/
structure DeviceColumns where
  deviceModel : Option DeviceModelId := none
  code : String := ""
  hostname : Option String := none
  ipAddress : Option String := none
  status : DeviceStatus := .unknown
  isActive : Bool := true
  lastSeenAt : Option Instant := none

/-- The columns of a metric that reports read, beside its code. -/
structure MetricColumns where
  name : String
  unit : Option String := none
  isActive : Bool := true

/-- `accounts.User`, with what `_user_label` reads. -/
structure LabelledUser where
  id : UserId
  fullName : String := ""
  username : String := ""
  email : String := ""

/-- `Notification`, with the time at which it was read. -/
structure ReportNotification extends NotificationRow where
  readAt : Option Instant := none

/-- `AuditLog`, with its time. -/
structure DatedAuditLog extends AuditLog where
  createdAt : Instant

/-- `TelemetryPoint`, with its raw value. -/
structure ReportPoint extends TelemetryPoint where
  rawValueText : Option String := none

instance : Keyed LabelledUser := ⟨LabelledUser.id⟩
instance : Keyed ReportNotification := ⟨fun row => row.id⟩
instance : Keyed DatedAuditLog := ⟨fun row => row.id⟩

/-- The tables that reports read. -/
structure ReportDb where
  hierarchy : Hierarchy
  /-- The names of organizations, data centers, rooms and racks. -/
  name : Resource → String := fun _ => ""
  roomCode : RoomId → String := fun _ => ""
  deviceColumns : DeviceId → DeviceColumns := fun _ => {}
  deviceTypes : Table DeviceType
  deviceModels : Table DeviceModel
  metrics : MetricDefinitions
  metricColumns : MetricId → MetricColumns
  users : Table LabelledUser
  templates : Table ReportTemplate
  alerts : Table AlertEvent
  notifications : Table ReportNotification
  auditLogs : Table DatedAuditLog
  points : List ReportPoint
  alert_device : ∀ alert ∈ alerts.rows, (hierarchy.devices.find alert.device).isSome
  point_device : ∀ point ∈ points, (hierarchy.devices.find point.device).isSome
  point_metric : ∀ point ∈ points, (metrics.table.find point.metric).isSome

namespace ReportDb

variable (env : ReportEnv) (db : ReportDb) (job : ReportJob)

/-! ### The job -/

/-- `job.template`. -/
def jobTemplate : Except String (Option ReportTemplate) :=
  match job.template with
  | none => .ok none
  | some id =>
      match db.templates.find id with
      | some template => .ok (some template)
      | none => .error "ReportTemplate matching query does not exist."

/-- `ReportJob.report_type`. -/
def reportType : Except String Json := do
  match ← db.jobTemplate job with
  | some template => if template.config.isDict then return template.reportType
  | none => pure ()
  return job.parameters.get "report_type"

/-- `_get_report_config`. -/
def getReportConfig : Except String Dict := do
  match ← db.jobTemplate job with
  | some template => return template.config.orEmpty
  | none => return []

/-- `_resolve_report_type`. -/
def resolveReportType : Except String String := do
  let reportType ← db.reportType job
  if reportType.truthy = false then
    throw "Report type is missing from the report template or parameters."
  let reportType := pyStrip (env.str reportType)
  if (reportTypeLabels.lookup reportType).isNone then
    throw ("Unsupported report type: " ++ reportType)
  return reportType

/-- `_resolve_output_format`. -/
def resolveOutputFormat : Except String String := do
  let config ← db.getReportConfig job
  let raw := (config.lookup "output_format").getD (.scalar (.text "csv"))
  match normalizeReportFormat env.py.lower (if raw.truthy then env.str raw else "") with
  | none =>
      if env.normalizeKey raw = "xlsx" then throw "XLSX output is not supported yet."
      throw (env.str raw ++ " output is not supported yet.")
  | some normalized =>
      if normalized ≠ "CSV" then
        if normalized = "XLSX" then throw "XLSX output is not supported yet."
        throw (normalized ++ " output is not supported yet.")
      let allowed := env.normalizeList (config.get "allowed_output_formats")
      if allowed ≠ [] ∧ "csv" ∉ allowed.map fun value => env.normalizeKey (.scalar (.text value)) then
        throw "CSV output is not allowed for this template."
      return "CSV"

/-! ### Rows by their keys -/

/-- `report_job.data_center`. -/
def jobDataCenter : Except String (Option DataCenter) :=
  match job.dataCenter with
  | none => .ok none
  | some id =>
      match db.hierarchy.dataCenters.find id with
      | some dataCenter => .ok (some dataCenter)
      | none => .error "DataCenter matching query does not exist."

/-- The checks of a data center that is looked up by a parameter. -/
def checkDataCenter (jobDataCenter : Option DataCenter) :
    Option DataCenter → Except String (Option DataCenter)
  | none => throw "Invalid data_center_id."
  | some dataCenter => do
      if dataCenter.organization ≠ job.organization then
        throw "data_center_id must belong to the selected organization."
      if jobDataCenter.any fun own => own.id ≠ dataCenter.id then
        throw "ReportJob.data_center must match parameters.data_center_id."
      return some dataCenter

/-- `_resolve_data_center_scope`. -/
def resolveDataCenterScope (parameters : Dict) (required : Bool := false) :
    Except String (Option DataCenter) := do
  let jobDataCenter ← db.jobDataCenter job
  match getParameterValue parameters ["data_center_id"] with
  | none =>
      if required && jobDataCenter.isNone then throw "data_center_id is required."
      return jobDataCenter
  | some value =>
      let id ← env.readKey value
      checkDataCenter job jobDataCenter (db.hierarchy.dataCenters.find id)

/-- A row that was looked up, which has to be there and to belong to the organization. -/
def ownedRow {ρ : Type} (owned : ρ → Bool) (field : String) : Option ρ → Except String ρ
  | none => .error ("Invalid " ++ field ++ ".")
  | some row =>
      if owned row then .ok row
      else .error (field ++ " must belong to the selected organization.")

/-- What `_resolve_device`, `_resolve_room` and the like have in common: the row with a key, which
the organization has to own. -/
def resolveOwned {ρ : Type} (find : ℕ → Option ρ) (owned : ρ → Bool) (field : String)
    (value : Json) : Except String ρ := do
  let id ← env.readKey value
  ownedRow owned field (find id)

/-- The organization of a data center. -/
def ownsDataCenter (organization : OrganizationId) (id : DataCenterId) : Bool :=
  (db.hierarchy.dataCenters.find id).any fun dataCenter => dataCenter.organization = organization

/-- `_resolve_device`. -/
def resolveDevice : Json → Except String Device :=
  resolveOwned env db.hierarchy.devices.find
    (fun device => device.organization = job.organization) "device_id"

/-- `_resolve_room`. -/
def resolveRoom : Json → Except String Room :=
  resolveOwned env db.hierarchy.rooms.find
    (fun room => db.ownsDataCenter job.organization room.dataCenter) "room_id"

/-- `_resolve_rack`. -/
def resolveRack : Json → Except String Rack :=
  resolveOwned env db.hierarchy.racks.find
    (fun rack => db.ownsDataCenter job.organization rack.dataCenter) "rack_id"

/-- `_resolve_device_model`: the organization has a device of the model. -/
def resolveDeviceModel : Json → Except String DeviceModel :=
  resolveOwned env db.deviceModels.find
    (fun deviceModel => db.hierarchy.devices.rows.any fun device =>
      device.organization = job.organization &&
        (db.deviceColumns device.id).deviceModel = some deviceModel.id) "device_model_id"

/-- `_resolve_device_type`: the organization has a device of the type. -/
def resolveDeviceType : Json → Except String DeviceType :=
  resolveOwned env db.deviceTypes.find
    (fun deviceType => db.hierarchy.devices.rows.any fun device =>
      device.organization = job.organization && device.deviceType = deviceType.id)
    "device_type_id"

/-! ### Conditions on a device -/

/-- What a builder makes of one of these parameters: a condition on the device of a row.  A row
with a place has to be in the selected data center. -/
def conditionOf {ρ : Type} (parameters : Dict) (dataCenter : Option DataCenter) (field : String)
    (resolve : Json → Except String ρ) (place : ρ → Option DataCenterId)
    (holds : ρ → Device → Bool) : Except String (Device → Bool) :=
  match getParameterValue parameters [field] with
  | none => .ok fun _ => true
  | some value => do
      let row ← resolve value
      if (place row).any fun id => dataCenter.any fun selected => id ≠ selected.id then
        throw (field ++ " must belong to the selected data center.")
      return holds row

variable (parameters : Dict) (dataCenter : Option DataCenter)

/-- The filter by `device_id`. -/
def deviceCondition : Except String (Device → Bool) :=
  conditionOf parameters dataCenter "device_id" (db.resolveDevice env job)
    (fun device => some device.dataCenter) fun device other => other.id = device.id

/-- The filter by `device_model_id`. -/
def deviceModelCondition : Except String (Device → Bool) :=
  conditionOf parameters dataCenter "device_model_id" (db.resolveDeviceModel env job)
    (fun _ => none) fun deviceModel device =>
      (db.deviceColumns device.id).deviceModel = some deviceModel.id

/-- The filter by `device_type_id`. -/
def deviceTypeCondition : Except String (Device → Bool) :=
  conditionOf parameters dataCenter "device_type_id" (db.resolveDeviceType env job)
    (fun _ => none) fun deviceType device => device.deviceType = deviceType.id

/-- The filter by `room_id`. -/
def roomCondition : Except String (Device → Bool) :=
  conditionOf parameters dataCenter "room_id" (db.resolveRoom env job)
    (fun room => some room.dataCenter) fun room device => device.room = some room.id

/-- The filter by `rack_id`. -/
def rackCondition : Except String (Device → Bool) :=
  conditionOf parameters dataCenter "rack_id" (db.resolveRack env job)
    (fun rack => some rack.dataCenter) fun rack device => device.rack = some rack.id

/-- The five filters of the reports on alerts and on telemetry, in their order. -/
def deviceConditions : Except String (Device → Bool) := do
  let onDevice ← db.deviceCondition env job parameters dataCenter
  let onModel ← db.deviceModelCondition env job parameters dataCenter
  let onType ← db.deviceTypeCondition env job parameters dataCenter
  let inRoom ← db.roomCondition env job parameters dataCenter
  let inRack ← db.rackCondition env job parameters dataCenter
  return fun device =>
    onDevice device && onModel device && onType device && inRoom device && inRack device

/-- A condition on the device with a key. -/
def onDevice (condition : Device → Bool) (id : DeviceId) : Bool :=
  (db.hierarchy.devices.find id).any condition

end ReportDb

end DcimBackend
