import DcimBackend.Alerts.Isolation

/-!
# The ingestion of telemetry

The writers of `LatestTelemetry`: `ingest_points` of `apps/telemetry/services`, which the
REST API calls, `poll_snmp_device` and `poll_modbus_device` of the collectors, and the poll
that follows a trap of a PAC.  Each stores rows, and all but the first evaluate the rules
on what they have stored, every one with a failure handling of its own.

A poll is given by what the device answers to each mapping.  Telemetry points, ingest logs,
device events and the health of a device are written beside the rows, and nothing here
reads them.

The rows carry their unique key as a field (`LatestRows`), so an upsert replaces the one row of
its key, or adds it.  What the rules do to the alerts is `Alerts.Evaluation`, run on the alert
tables of the same state; so a failure of an evaluation and what it leaves of the rows are seen
together.
-/

namespace DcimBackend

open Library

/-! ### Stored rows -/

namespace LatestTelemetry

/-- The columns of `uq_latest_device_metric`. -/
def key (row : LatestTelemetry) : DeviceId × MetricId := (row.device.id, row.metric.id)

/-- PostgreSQL accepts the row: its integer is a `bigint`, and its source fits the
column. -/
def storable (row : LatestTelemetry) : Bool :=
  row.valueInteger.all (fun value => -9223372036854775808 ≤ value ∧ value ≤ 9223372036854775807) &&
    row.source.all fun source => source.length ≤ 50

end LatestTelemetry

/-- The rows of `latest_telemetry`. -/
structure LatestRows where
  rows : List LatestTelemetry
  /-- `uq_latest_device_metric`. -/
  unique : (rows.map LatestTelemetry.key).Nodup

namespace LatestRows

instance : Membership LatestTelemetry LatestRows := ⟨fun t row => row ∈ t.rows⟩

instance (t : LatestRows) (row : LatestTelemetry) : Decidable (row ∈ t) :=
  inferInstanceAs (Decidable (row ∈ t.rows))

instance (t : LatestRows) (p : LatestTelemetry → Prop) [DecidablePred p] :
    Decidable (∀ row ∈ t, p row) :=
  inferInstanceAs (Decidable (∀ row ∈ t.rows, p row))

/-- No rows. -/
def empty : LatestRows := ⟨[], List.nodup_nil⟩

/-- `LatestTelemetry.objects.update_or_create`. -/
def updateOrCreate (t : LatestRows) (row : LatestTelemetry) : LatestRows where
  rows := upsert LatestTelemetry.key t.rows row
  unique := nodup_upsert t.unique

/-- One row after another. -/
def updateOrCreateAll (t : LatestRows) (rows : List LatestTelemetry) : LatestRows :=
  rows.foldl updateOrCreate t

@[simp] theorem updateOrCreateAll_nil (t : LatestRows) : t.updateOrCreateAll [] = t := rfl

@[simp] theorem updateOrCreateAll_cons (t : LatestRows) (row : LatestTelemetry)
    (rows : List LatestTelemetry) :
    t.updateOrCreateAll (row :: rows) = (t.updateOrCreate row).updateOrCreateAll rows := rfl

/-- A stored row is one of those written, or was there before. -/
theorem mem_updateOrCreateAll {t : LatestRows} {rows : List LatestTelemetry}
    {row : LatestTelemetry} (h : row ∈ t.updateOrCreateAll rows) : row ∈ rows ∨ row ∈ t := by
  induction rows generalizing t with
  | nil => exact Or.inr h
  | cons first rows ih =>
      rcases ih h with hrest | hhead
      · exact Or.inl (List.mem_cons_of_mem _ hrest)
      · rcases mem_upsert.mp hhead with ⟨hold, -⟩ | rfl
        · exact Or.inr hold
        · exact Or.inl List.mem_cons_self

end LatestRows

/-- The tables that ingestion reads and writes. -/
structure TelemetryDb where
  alerts : AlertsDb
  latest : LatestRows

/-! ### The REST API -/

/-- What `ingest_points` raises. -/
inductive IngestError
  /-- `objects.get` found no row. -/
  | doesNotExist
  /-- A column cannot hold the value. -/
  | dataError
deriving DecidableEq

/-- A point of a request. -/
structure PointItem extends Reading where
  device : DeviceId
  metricCode : String
  time : Option Instant := none
  quality : TelemetryQuality := .good
  source : Option String := none

namespace TelemetryDb

/-- The row of a point, where its device and its metric are found. -/
def pointRow (db : TelemetryDb) (source : String) (now : Instant) (item : PointItem) :
    Option LatestTelemetry := do
  let device ← db.alerts.hierarchy.devices.find item.device
  let metric ← db.alerts.metrics.rows.find? fun metric => metric.code = item.metricCode
  return {
    toReading := item.toReading
    organization := device.organization
    dataCenter := device.dataCenter
    device := device
    metric := metric
    quality := item.quality
    lastSeenAt := item.time.getD now
    source := pyOr item.source (some source) }

end TelemetryDb

/-- One point of `ingest_points`. -/
def storePoint (source : String) (now : Instant) (item : PointItem) :
    Tx IngestError TelemetryDb Unit := fun db =>
  match db.pointRow source now item with
  | none => (.error .doesNotExist, db)
  | some row =>
      if row.storable then (.ok ⟨⟩, { db with latest := db.latest.updateOrCreate row })
      else (.error .dataError, db)

/-- The loop of `ingest_points`. -/
def storePoints (source : String) (now : Instant) : List PointItem → Tx IngestError TelemetryDb Unit
  | [] => return
  | item :: items => do
      storePoint source now item
      storePoints source now items

/-- `ingest_points`. -/
def ingestPoints (points : List PointItem) (source : String) (now : Instant) :
    Tx IngestError TelemetryDb Unit :=
  Tx.atomic (storePoints source now points)

/-! ### The polls of the collectors -/

/-- The poll of one mapping, with everything the environment chooses. -/
structure MappingPoll where
  metric : MetricDefinition
  /-- The columns and the quality that are stored.  There are none if reading the device or
  converting the answer raises. -/
  answer : Option (Reading × TelemetryQuality)
  cached : Option (List RuleId)
  clock : ℕ → ℕ → Instant

/-- The poll of a device.  A metric has one mapping. -/
structure DevicePoll where
  device : Device
  startedAt : Instant
  polls : List MappingPoll
  evaluateAlerts : Bool := true
  distinct : (polls.map fun poll => poll.metric.id).Nodup

/-- The statuses of a poll. -/
inductive PollStatus
  | success
  | partialSuccess
  | failed
deriving DecidableEq

/-- A stored row on which the rules are evaluated, with what the evaluation reads. -/
structure Visit where
  row : LatestTelemetry
  cached : Option (List RuleId)
  clock : ℕ → ℕ → Instant

/-- The row of an answer, and its evaluation. -/
def DevicePoll.visit (p : DevicePoll) (source : String) (m : MappingPoll) : Option Visit :=
  m.answer.map fun answer =>
    { row :=
        { toReading := answer.1
          organization := p.device.organization
          dataCenter := p.device.dataCenter
          device := p.device
          metric := m.metric
          quality := answer.2
          lastSeenAt := p.startedAt
          source := some source }
      cached := m.cached
      clock := m.clock }

/-- The rows of a poll, in order. -/
def DevicePoll.visits (p : DevicePoll) (source : String) : List Visit :=
  p.polls.filterMap (p.visit source)

/-- The transaction of `poll_snmp_device`, inside its loop. -/
structure SnmpLoop where
  db : TelemetryDb
  successCount : ℕ := 0
  failureCount : ℕ := 0
  /-- PostgreSQL has refused a statement of the block, and refuses all that follow. -/
  broken : Bool := false

section Polls

variable (py : PyText)

/-- One mapping of `poll_snmp_device`.  Every exception is caught and counted, also one of
the evaluation, whose row stays. -/
def pollSnmpMapping (p : DevicePoll) (s : SnmpLoop) (m : MappingPoll) : SnmpLoop :=
  match p.visit "snmp_worker" m with
  | none => { s with failureCount := s.failureCount + 1 }
  | some v =>
      if s.broken || !v.row.storable then
        { s with failureCount := s.failureCount + 1, broken := true }
      else
        let latest := s.db.latest.updateOrCreate v.row
        if p.evaluateAlerts then
          match evaluateLatest py v.row v.cached v.clock s.db.alerts with
          | (.ok _, alerts) => { s with db := ⟨alerts, latest⟩, successCount := s.successCount + 1 }
          | (.error _, alerts) =>
              { s with db := ⟨alerts, latest⟩, failureCount := s.failureCount + 1 }
        else { s with db := ⟨s.db.alerts, latest⟩, successCount := s.successCount + 1 }

/-- `poll_snmp_device`.  Without a success, or in a broken transaction, nothing is kept. -/
def pollSnmpDevice (p : DevicePoll) (db : TelemetryDb) : PollStatus × TelemetryDb :=
  let s := p.polls.foldl (pollSnmpMapping py p) { db := db }
  if s.successCount = 0 ∨ s.broken then (.failed, db)
  else (if s.failureCount = 0 then .success else .partialSuccess, s.db)

/-- The evaluations of `poll_modbus_device`, in the order in which the query returns the
rows. -/
def evaluateVisits : List Visit → Engine Unit
  | [] => return
  | v :: visits => do
      let _ ← evaluateLatest py v.row v.cached v.clock
      evaluateVisits visits

/-- `poll_modbus_device`.  All rows are written in one transaction, and an exception of an
evaluation fails the poll.  The metrics are distinct, so the order in which the rows are
written does not matter. -/
def pollModbusDevice (p : DevicePoll) (db : TelemetryDb) : PollStatus × TelemetryDb :=
  let visits := p.visits "modbus_worker"
  let status := if visits.length = p.polls.length then PollStatus.success else .partialSuccess
  if visits.isEmpty || visits.any (fun v => !v.row.storable) then (.failed, db)
  else
    let latest := db.latest.updateOrCreateAll (visits.map Visit.row)
    if p.evaluateAlerts then
      match evaluateVisits py visits db.alerts with
      | (.ok _, alerts) => (status, ⟨alerts, latest⟩)
      | (.error _, alerts) => (.failed, ⟨alerts, latest⟩)
    else (status, ⟨db.alerts, latest⟩)

/-! ### The confirmation of a PAC -/

/-- What a PAC answers to the poll of an alarm. -/
structure AlarmPoll where
  metric : MetricDefinition
  /-- The scaled value, unless reading it raises. -/
  value : Option PyValue
  cached : Option (List RuleId)
  clock : ℕ → ℕ → Instant
  createdAt : Instant

/-- The poll of the alarms of a PAC.  A metric has one mapping. -/
structure PacPoll where
  device : Device
  confirmationAt : Instant
  polls : List AlarmPoll
  distinct : (polls.map fun poll => poll.metric.id).Nodup

/-- The state that the poll of an alarm confirms. -/
def AlarmPoll.state (m : AlarmPoll) : Option Bool := m.value.bind (coerceAlarmState py)

/-- The row of a confirmed state, and its evaluation. -/
def PacPoll.visit (p : PacPoll) (m : AlarmPoll) : Option Visit :=
  (m.state py).map fun state =>
    { row := confirmedRow p.device m.metric state p.confirmationAt
      cached := m.cached
      clock := m.clock }

/-- The rows of a poll, in order. -/
def PacPoll.visits (p : PacPoll) : List Visit := p.polls.filterMap (p.visit py)

/-- The loop of `process_pac_trap_alarm_confirmation`. -/
structure PacLoop where
  db : TelemetryDb
  processed : ℕ := 0
  failures : ℕ := 0

/-- One mapping.  The row is committed before the rules are evaluated, and every exception
is caught and counted. -/
def pollAlarm (p : PacPoll) (s : PacLoop) (m : AlarmPoll) : PacLoop :=
  match m.state py with
  | none => { s with failures := s.failures + 1 }
  | some state =>
      let latest :=
        s.db.latest.updateOrCreate (confirmedRow p.device m.metric state p.confirmationAt)
      match confirmMapping py p.device m.metric state m.cached m.clock p.confirmationAt
          m.createdAt s.db.alerts with
      | (.ok _, alerts) => { s with db := ⟨alerts, latest⟩, processed := s.processed + 1 }
      | (.error _, alerts) => { s with db := ⟨alerts, latest⟩, failures := s.failures + 1 }

/-- `process_pac_trap_alarm_confirmation`. -/
def confirmAlarms (p : PacPoll) (db : TelemetryDb) : PollStatus × TelemetryDb :=
  let s := p.polls.foldl (pollAlarm py p) { db := db }
  (if s.processed = 0 then .failed
    else if s.failures = 0 then .success else .partialSuccess, s.db)

end Polls

end DcimBackend
