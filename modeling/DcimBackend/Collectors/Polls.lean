import DcimBackend.Library.Process
import DcimBackend.Telemetry.Ingestion

/-!
# Polls that fail

What `poll_snmp_device` and `poll_modbus_device` have in common, with their exceptions.
`Telemetry.Ingestion` has the polls as far as the stored rows and the alerts go.  Here an
exception may surface at every statement: a poll is given by what its device answers and by
`raises`, which says at which positions of the source something is raised.  What the rules do
to the alerts is left out; their evaluation is a position that may raise.

The tables are those of the polled device.  The counters and the cache locks are variables of
the process, since no rollback undoes them, and so is the trace of what the poll has done.

The positions of a source are a type of each collector.  What the two do in the same words, such
as the updates behind a failure (`markFailed`), is stated once for any type of positions.
-/

namespace DcimBackend

open Library

/-- `DeviceStatus`. -/
inductive DeviceStatus
  | online
  | offline
  | degraded
  | maintenance
  | unknown
deriving DecidableEq

/-- `devices.DevicePollingConfig`, with what the polls read of its profile. -/
structure PollingConfig where
  intervalSeconds : ℕ := 60
  staleAfterSeconds : ℕ := 180
  lastPolledAt : Option Instant := none
  nextPollAt : Option Instant := none
  consecutiveFailures : ℕ := 0
  lastErrorMessage : Option String := none
deriving DecidableEq

/-- What polls read and write of a device. -/
structure DeviceHealth where
  status : DeviceStatus := .unknown
  lastSeenAt : Option Instant := none
  pollingConfig : Option PollingConfig
deriving DecidableEq

/-- `timezone.timedelta(seconds=n)`. -/
def timedelta (n : ℕ) : ℤ := n * 1000000

/-- What `_mark_success` updates, in either collector: the row of the device, … -/
def DeviceHealth.seen (time : Instant) (health : DeviceHealth) : DeviceHealth :=
  { health with status := .online, lastSeenAt := some time }

/-- … and its polling config. -/
def PollingConfig.succeeded (time : Instant) (config : PollingConfig) : PollingConfig :=
  { config with
    lastPolledAt := some time
    nextPollAt := some (time + timedelta config.intervalSeconds)
    consecutiveFailures := 0
    lastErrorMessage := some "" }

/-- What `_mark_failure` updates in the polling config.  The interval and the count are those of
the copy that the poll has loaded. -/
def PollingConfig.failed (time : Instant) (message : String) (copy config : PollingConfig) :
    PollingConfig :=
  { config with
    lastPolledAt := some time
    nextPollAt := some (time + timedelta (min copy.intervalSeconds 300))
    consecutiveFailures := copy.consecutiveFailures + 1
    lastErrorMessage := some (String.ofList (message.toList.take 2000)) }

abbrev IngestId := ℕ

/-- `telemetry.TelemetryPoint`. -/
structure TelemetryPoint extends Reading where
  time : Instant
  organization : OrganizationId
  dataCenter : DataCenterId
  device : DeviceId
  metric : MetricId
  quality : TelemetryQuality
  source : Option String
  ingestId : IngestId
deriving DecidableEq

namespace Collectors

/-- The statuses of a poll. -/
inductive OutcomeStatus
  | success
  | partialSuccess
  | failed
  | skipped
deriving DecidableEq

/-- `telemetry.TelemetryIngestLog`. -/
structure TelemetryIngestLog where
  ingestId : IngestId
  device : DeviceId
  protocol : String
  status : OutcomeStatus
  successCount : ℕ
  failureCount : ℕ
  errorMessage : Option String
  startedAt : Instant
  finishedAt : Instant
  durationMs : ℤ
deriving DecidableEq

/-- `PollOutcome`, and `ModbusPollOutcome`.  A poll that is skipped for its device has no
ingest id. -/
structure PollOutcome where
  device : DeviceId
  ingestId : Option IngestId
  status : OutcomeStatus
  successCount : ℕ
  failureCount : ℕ
  errorMessage : Option String
deriving DecidableEq

/-- The tables of the polled device. -/
structure PollTables where
  health : DeviceHealth
  points : List TelemetryPoint
  latest : LatestRows
  logs : List TelemetryIngestLog

namespace PollTables

/-- `TelemetryPoint.objects.create`, or `bulk_create`. -/
def insertPoints (points : List TelemetryPoint) (t : PollTables) : PollTables :=
  { t with points := t.points ++ points }

/-- `LatestTelemetry.objects.update_or_create`, for each row. -/
def updateLatest (rows : List LatestTelemetry) (t : PollTables) : PollTables :=
  { t with latest := t.latest.updateOrCreateAll rows }

/-- `Device.objects.filter(pk=device.pk).update`. -/
def updateDevice (f : DeviceHealth → DeviceHealth) (t : PollTables) : PollTables :=
  { t with health := f t.health }

/-- `DevicePollingConfig.objects.filter(pk=polling_config.pk).update`. -/
def updatePollingConfig (f : PollingConfig → PollingConfig) (t : PollTables) : PollTables :=
  { t with health := { t.health with pollingConfig := t.health.pollingConfig.map f } }

/-- `TelemetryIngestLog.objects.create`. -/
def insertLog (log : TelemetryIngestLog) (t : PollTables) : PollTables :=
  { t with logs := t.logs ++ [log] }

end PollTables

/-! ### Exceptions -/

/-- What is raised inside a poll. -/
inductive PollException
  | softTimeLimitExceeded
  | error (message : String)
deriving DecidableEq

/-- What a statement of a broken block raises. -/
def aborted : PollException :=
  .error ("An error occurred in the current transaction. You can't execute queries until " ++
    "the end of the 'atomic' block.")

/-- What a poll has done. -/
inductive PollAction
  /-- It has asked the device for the value of a mapping. -/
  | read (i : ℕ)
  | raised (e : PollException)
  /-- It has run `_mark_failure`. -/
  | markedFailure (message : String)
deriving DecidableEq

/-- A mapping, with the columns and the quality that are stored if its value is read and
converted. -/
structure MappingReading where
  metric : MetricDefinition
  payload : Reading
  quality : TelemetryQuality
deriving DecidableEq

/-- The variables of a poll, and the locks that it has put into the cache. -/
structure PollLocals where
  successCount : ℕ := 0
  failureCount : ℕ := 0
  /-- `readings`, of a Modbus poll. -/
  readings : List MappingReading := []
  /-- `client` is not `None`. -/
  client : Bool := false
  /-- `gateway_locked`. -/
  gatewayLocked : Bool := false
  deviceLock : Bool := false
  gatewayLock : Bool := false
  trace : List PollAction := []
deriving DecidableEq

/-- A poll at work. -/
abbrev PollProcess := Process PollTables PollLocals

/-- A part of a poll. -/
abbrev Poll (α : Type) := Tx PollException PollProcess α

/-- A poll starts. -/
def PollTables.process (t : PollTables) : PollProcess where
  tables := t
  locals := {}

def record (action : PollAction) : Poll PUnit :=
  Process.assign fun locals => { locals with trace := locals.trace ++ [action] }

@[simp] theorem record_apply (action : PollAction) (s : PollProcess) :
    record action s = (.ok ⟨⟩, { s with locals := { s.locals with
      trace := s.locals.trace ++ [action] } }) := rfl

/-- A position of the source, at which something may be raised. -/
def reach {π : Type} (raises : π → Option PollException) (pos : π) : Poll PUnit :=
  match raises pos with
  | none => return
  | some e => do
      record (.raised e)
      Tx.raise e

section Reach

variable {π : Type} {raises : π → Option PollException} {pos : π} {s : PollProcess}

theorem reach_of_none (h : raises pos = none) : reach raises pos s = (.ok ⟨⟩, s) := by
  rw [reach, h]
  rfl

theorem reach_of_some {e : PollException} (h : raises pos = some e) :
    reach raises pos s = (.error e, { s with locals := { s.locals with
      trace := s.locals.trace ++ [.raised e] } }) := by
  rw [reach, h]
  rfl

theorem reach_eq_ok_iff {s' : PollProcess} {u : PUnit} :
    reach raises pos s = (.ok u, s') ↔ raises pos = none ∧ s' = s := by
  cases h : raises pos with
  | none => simp [reach_of_none h, eq_comm]
  | some e => simp [reach_of_some h]

theorem keeps_reach {β : Type} {part : PollTables → β} :
    Tx.Respects (Process.Keeps part) (reach raises pos) := by
  unfold reach
  split
  · exact Tx.respects_pure _
  · exact Tx.respects_bind (Process.keeps_assign _) fun _ => Tx.respects_raise _

end Reach

/-! ### The failure of a poll -/

/-- The tables after `_mark_failure`, for a loaded copy and the status that the collector gives
the device. -/
def PollTables.failed (copy : DeviceHealth) (status : DeviceStatus) (time : Instant)
    (message : String) (t : PollTables) : PollTables :=
  let marked := t.updateDevice fun health => { health with status := status }
  match copy.pollingConfig with
  | none => marked
  | some config => marked.updatePollingConfig (config.failed time message)

section Failure

variable {π : Type} (raises : π → Option PollException) (device config : π) (copy : DeviceHealth)
  (status : DeviceStatus) (time : Instant) (message : String)

/-- `_mark_failure`, in either collector.  Its two updates are positions of their own. -/
def markFailed : Poll Unit := do
  reach raises device
  Process.write (PollTables.updateDevice fun health => { health with status := status })
  if let some loaded := copy.pollingConfig then
    reach raises config
    Process.write (PollTables.updatePollingConfig (loaded.failed time message))
  record (.markedFailure message)

/-- The `except` blocks of a poll: the failure is marked, and the poll goes on to its log. -/
def failWith (mark : String → Poll Unit) : Poll (OutcomeStatus × Option String) := do
  mark message
  return (.failed, some message)

variable {raises device config copy status time message} {s s' : PollProcess}

theorem markFailed_apply (hdevice : raises device = none) (hconfig : raises config = none) :
    markFailed raises device config copy status time message s = (.ok ⟨⟩, { s with
      tables := s.tables.failed copy status time message
      locals := { s.locals with trace := s.locals.trace ++ [.markedFailure message] } }) := by
  rw [markFailed, Tx.bind_of_ok (reach_of_none hdevice)]
  unfold PollTables.failed
  cases copy.pollingConfig with
  | none => rfl
  | some loaded =>
      simp only [Tx.bind_apply, Process.write_apply, reach_of_none hconfig]
      rfl

theorem failWith_apply {mark : String → Poll Unit} (h : mark message s = (.ok ⟨⟩, s')) :
    failWith message mark s = (.ok (.failed, some message), s') := by
  rw [failWith, Tx.bind_of_ok h]
  rfl

end Failure

/-! ### The polled device -/

/-- What a poll is given: the device, its active mappings, what they answer, and the times at
which the poll starts, fails and ends. -/
structure PollArgs where
  device : Device
  mappings : List MappingReading
  evaluateAlerts : Bool := true
  ingestId : IngestId
  startedAt : Instant
  failedAt : Instant
  finishedAt : Instant

namespace PollArgs

/-- The point of a reading. -/
def point (p : PollArgs) (source : String) (m : MappingReading) : TelemetryPoint where
  toReading := m.payload
  time := p.startedAt
  organization := p.device.organization
  dataCenter := p.device.dataCenter
  device := p.device.id
  metric := m.metric.id
  quality := m.quality
  source := some source
  ingestId := p.ingestId

/-- The row of a reading. -/
def row (p : PollArgs) (source : String) (m : MappingReading) : LatestTelemetry where
  toReading := m.payload
  organization := p.device.organization
  dataCenter := p.device.dataCenter
  device := p.device
  metric := m.metric
  quality := m.quality
  lastSeenAt := p.startedAt
  source := some source

/-- The log of a poll. -/
def log (p : PollArgs) (protocol : String) (status : OutcomeStatus) (locals : PollLocals)
    (errorMessage : Option String) : TelemetryIngestLog where
  ingestId := p.ingestId
  device := p.device.id
  protocol := protocol
  status := status
  successCount := locals.successCount
  failureCount := locals.failureCount
  errorMessage := errorMessage
  startedAt := p.startedAt
  finishedAt := p.finishedAt
  durationMs := (p.finishedAt - p.startedAt).tdiv 1000

/-- The outcome of a poll. -/
def outcome (p : PollArgs) (status : OutcomeStatus) (locals : PollLocals)
    (errorMessage : Option String) : PollOutcome where
  device := p.device.id
  ingestId := some p.ingestId
  status := status
  successCount := locals.successCount
  failureCount := locals.failureCount
  errorMessage := errorMessage

end PollArgs

end Collectors

end DcimBackend
