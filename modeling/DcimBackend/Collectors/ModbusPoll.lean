import DcimBackend.Collectors.Polls

/-!
# The Modbus poll and its exceptions

`poll_modbus_device`, with `_mark_success` and `_mark_failure`
(`collectors/modbus_collector/services.py`).  The registers are read outside of any
transaction, all rows are written in one (`write_device_telemetry_bulk`), and the marks are
committed one by one.  The locks are taken and released as in `Collectors.GatewayLocks`; here
they are those of one poll.

A position stands for everything between two statements that the model tells apart, and `raises`
may put an exception at any of them, `SoftTimeLimitExceeded` included.  The positions of the
`finally` block are among them: `client.close()` may raise, and then the locks behind it are not
released.

`Frame` collects what a relation has to respect for a whole poll to respect it, so that "a poll
leaves this part alone" takes one instance and no walk through the poll.
-/

namespace DcimBackend.Collectors

open Library

/-- The positions of `poll_modbus_device`. -/
inductive ModbusPosition
  | acquireDevice
  /-- The lock of the device is in the cache, and the call has not returned. -/
  | deviceAdded
  /-- In front of the `try` block, where the device is loaded. -/
  | load
  | runtime
  | acquireGateway
  /-- The lock of the gateway is in the cache, and `gateway_locked` is not assigned. -/
  | gatewayAdded
  | createClient
  | connect
  /-- Between two mappings. -/
  | loop (i : ℕ)
  | read (i : ℕ)
  | convert (i : ℕ)
  /-- In front of `success_count += 1`. -/
  | count (i : ℕ)
  /-- In the `except` block of a mapping. -/
  | caught (i : ℕ)
  | check
  | write
  /-- The query for the rows to evaluate. -/
  | query
  /-- In a `try` block of `evaluate_latest`, such as the one around the notifications. -/
  | notify (i : ℕ)
  /-- Anywhere else in `evaluate_latest`. -/
  | evaluate (i : ℕ)
  /-- The two updates of `_mark_success`. -/
  | markDevice
  | markConfig
  | status
  /-- The two updates of `_mark_failure`. -/
  | failDevice
  | failConfig
  | close
  | releaseGateway
  | releaseDevice
  | log
deriving DecidableEq

namespace ModbusPosition

/-- The position is in the `try` block of the poll, and in no `try` block inside it. -/
def inPoll : ModbusPosition → Bool
  | .runtime | .acquireGateway | .gatewayAdded | .createClient | .connect | .loop _ | .caught _
  | .check | .write | .query | .evaluate _ | .markDevice | .markConfig | .status => true
  | _ => false

/-- The position is in a `try` block inside that one. -/
def inInner : ModbusPosition → Bool
  | .read _ | .convert _ | .count _ | .notify _ => true
  | _ => false

/-- The position is in the `try` block of the poll. -/
def inTry (pos : ModbusPosition) : Bool := pos.inInner || pos.inPoll

theorem inInner_of_inPoll {pos : ModbusPosition} (h : pos.inPoll = true) :
    pos.inInner = false := by
  cases pos <;> first | rfl | cases h

end ModbusPosition

/-- A poll of `poll_modbus_device`, with what `cache.add` returns for its locks. -/
structure ModbusPoll extends PollArgs where
  deviceFree : Bool := true
  gatewayFree : Bool := true
  raises : ModbusPosition → Option PollException

namespace ModbusPoll

variable (p : ModbusPoll)

/-- `acquire_device_poll_lock`. -/
def acquireDevice : Poll Unit := do
  reach p.raises .acquireDevice
  if p.deviceFree then
    Process.assign fun locals => { locals with deviceLock := true }
    reach p.raises .deviceAdded

/-- `gateway_locked = acquire_modbus_gateway_lock(...)`. -/
def acquireGateway : Poll Unit := do
  reach p.raises .acquireGateway
  if p.gatewayFree then
    Process.assign fun locals => { locals with gatewayLock := true }
    reach p.raises .gatewayAdded
    Process.assign fun locals => { locals with gatewayLocked := true }

/-- The `try` block of a mapping. -/
def readRegister (i : ℕ) (m : MappingReading) : Poll Unit := do
  record (.read i)
  reach p.raises (.read i)
  reach p.raises (.convert i)
  Process.assign fun locals => { locals with readings := locals.readings ++ [m] }
  reach p.raises (.count i)
  Process.assign fun locals => { locals with successCount := locals.successCount + 1 }

/-- The `except` block of a mapping. -/
def catchRegister (i : ℕ) : Poll Unit := do
  reach p.raises (.caught i)
  Process.assign fun locals => { locals with failureCount := locals.failureCount + 1 }

/-- The loop over the mappings. -/
def readRegisters : ℕ → List MappingReading → Poll Unit
  | _, [] => return
  | i, m :: ms => do
      reach p.raises (.loop i)
      Tx.handle (p.readRegister i m) fun _ => p.catchRegister i
      readRegisters (i + 1) ms

/-- `write_device_telemetry_bulk`. -/
def writeReadings (readings : List MappingReading) : Poll Unit :=
  Process.atomic do
    Process.write (PollTables.insertPoints (readings.map (p.point "modbus_worker")))
    reach p.raises .write
    Process.write (PollTables.updateLatest (readings.map (p.row "modbus_worker")))

/-- `evaluate_latest`, row by row. -/
def evaluateReadings : ℕ → List MappingReading → Poll Unit
  | _, [] => return
  | i, _ :: readings => do
      Tx.handle (reach p.raises (.notify i)) fun _ => return
      reach p.raises (.evaluate i)
      evaluateReadings (i + 1) readings

/-- The loop over the rows, if the poll evaluates alerts. -/
def evaluateAll (readings : List MappingReading) : Poll Unit := do
  if p.evaluateAlerts then
    reach p.raises .query
    p.evaluateReadings 0 readings

/-- `_mark_success`. -/
def markSuccess (copy : DeviceHealth) : Poll Unit := do
  reach p.raises .markDevice
  Process.write (PollTables.updateDevice (DeviceHealth.seen p.startedAt))
  if copy.pollingConfig.isSome then
    reach p.raises .markConfig
    Process.write (PollTables.updatePollingConfig (PollingConfig.succeeded p.startedAt))

/-- The status that `_mark_failure` sets. -/
def failureStatus (copy : DeviceHealth) : DeviceStatus :=
  let failureCount := copy.pollingConfig.elim 1 fun config => config.consecutiveFailures + 1
  if failureCount < 3 then .degraded else .offline

/-- The `error_message` of a poll that fails. -/
def failureMessage : PollException → String
  | .softTimeLimitExceeded => "Modbus poll exceeded worker soft time limit"
  | .error message => message

/-- `_mark_failure`. -/
def markFailure (copy : DeviceHealth) (message : String) : Poll Unit :=
  markFailed p.raises .failDevice .failConfig copy (failureStatus copy) p.failedAt message

/-- The `try` block from `write_device_telemetry_bulk` on. -/
def store (copy : DeviceHealth) : Poll (OutcomeStatus × Option String) := do
  let readings ← Tx.read fun s => s.locals.readings
  p.writeReadings readings
  p.evaluateAll readings
  p.markSuccess copy
  reach p.raises .status
  let failureCount ← Tx.read fun s => s.locals.failureCount
  return (if failureCount = 0 then .success else .partialSuccess, none)

/-- The `try` block from `readings = []` on. -/
def poll (copy : DeviceHealth) : Poll (OutcomeStatus × Option String) := do
  p.readRegisters 0 p.mappings
  reach p.raises .check
  if (← Tx.read fun s => s.locals.successCount) = 0 then
    Tx.raise (.error "All configured Modbus registers failed")
  p.store copy

/-- The `try` block from the lock of the gateway on. -/
def pollGateway (copy : DeviceHealth) : Poll (OutcomeStatus × Option String) := do
  p.acquireGateway
  if p.gatewayFree then
    reach p.raises .createClient
    Process.assign fun locals => { locals with client := true }
    reach p.raises .connect
    p.poll copy
  else return (.skipped, some "Modbus gateway busy")

/-- The `try` block of the poll. -/
def body (copy : DeviceHealth) : Poll (OutcomeStatus × Option String) := do
  reach p.raises .runtime
  if p.mappings.isEmpty then
    Tx.raise (.error "No active Modbus register mappings found for this device type/model")
  p.pollGateway copy

/-- Its `except` blocks. -/
def fail (copy : DeviceHealth) (e : PollException) : Poll (OutcomeStatus × Option String) :=
  failWith (failureMessage e) (p.markFailure copy)

/-- `client.close()`, if there is a client. -/
def closeClient : Poll Unit := do
  if ← Tx.read fun s => s.locals.client then
    reach p.raises .close

/-- `release_modbus_gateway_lock`, if the gateway is locked.  What it raises is ignored. -/
def releaseGateway : Poll Unit := do
  if ← Tx.read fun s => s.locals.gatewayLocked then
    Tx.handle (do
      reach p.raises .releaseGateway
      Process.assign fun locals => { locals with gatewayLock := false }) fun _ => return

/-- `release_device_poll_lock`. -/
def releaseDevice : Poll Unit := do
  reach p.raises .releaseDevice
  Process.assign fun locals => { locals with deviceLock := false }

/-- Its `finally` block. -/
def cleanup : Poll Unit := do
  p.closeClient
  p.releaseGateway
  p.releaseDevice

/-- The poll, once it has the lock of the device. -/
def pollLocked : Poll PollOutcome := do
  reach p.raises .load
  let copy ← Tx.read fun s => s.tables.health
  let (status, errorMessage) ← Tx.ensure (Tx.handle (p.body copy) (p.fail copy)) p.cleanup
  let locals ← Tx.read fun s => s.locals
  if status = .skipped then return p.outcome .skipped locals errorMessage
  else
    reach p.raises .log
    Process.write (PollTables.insertLog (p.log "MODBUS_TCP" status locals errorMessage))
    return p.outcome status locals errorMessage

/-- `poll_modbus_device`. -/
def pollModbusDevice : Poll PollOutcome := do
  p.acquireDevice
  if p.deviceFree then p.pollLocked
  else
    return {
      device := p.device.id
      ingestId := none
      status := .skipped
      successCount := 0
      failureCount := 0
      errorMessage := some "Device already being polled" }

variable {p} {copy : DeviceHealth} {s s' : PollProcess}

/-! ### What a poll does apart from its locks -/

/-- The variables that say what the `finally` block has to do: the client, `gateway_locked`, and
the locks of the device and of the gateway in the cache. -/
def locks (locals : PollLocals) : Bool × Bool × Bool × Bool :=
  (locals.client, locals.gatewayLocked, locals.deviceLock, locals.gatewayLock)

/-- A relation that the single steps of a poll respect, apart from those on its locks. -/
structure Frame (R : PollProcess → PollProcess → Prop) : Prop where
  assign : ∀ f : PollLocals → PollLocals, (∀ l, locks (f l) = locks l) →
    Tx.Respects R (Process.assign f : Poll PUnit)
  points : ∀ points, Tx.Respects R (Process.write (PollTables.insertPoints points) : Poll PUnit)
  latest : ∀ rows, Tx.Respects R (Process.write (PollTables.updateLatest rows) : Poll PUnit)
  device : ∀ f : DeviceHealth → DeviceHealth,
    (∀ health, (f health).pollingConfig = health.pollingConfig) →
      Tx.Respects R (Process.write (PollTables.updateDevice f) : Poll PUnit)
  config : ∀ f, Tx.Respects R (Process.write (PollTables.updatePollingConfig f) : Poll PUnit)
  atomic : ∀ x : Poll Unit, Tx.Respects R x → Tx.Respects R (Process.atomic x)

section Frame

variable {R : PollProcess → PollProcess → Prop} [IsPreorder PollProcess R]

theorem Frame.reach (hR : Frame R) (pos : ModbusPosition) :
    Tx.Respects R (Collectors.reach p.raises pos) := by
  unfold Collectors.reach
  split
  · exact Tx.respects_pure _
  · exact Tx.respects_bind (hR.assign _ fun _ => rfl) fun _ => Tx.respects_raise _

theorem Frame.readRegisters (hR : Frame R) (ms : List MappingReading) (i : ℕ) :
    Tx.Respects R (p.readRegisters i ms) := by
  have hread : ∀ i m, Tx.Respects R (p.readRegister i m) := fun i m =>
    Tx.respects_bind (hR.assign _ fun _ => rfl) fun _ => Tx.respects_bind (hR.reach _) fun _ =>
      Tx.respects_bind (hR.reach _) fun _ => Tx.respects_bind (hR.assign _ fun _ => rfl) fun _ =>
        Tx.respects_bind (hR.reach _) fun _ => hR.assign _ fun _ => rfl
  have hcatch : ∀ i, Tx.Respects R (p.catchRegister i) := fun i =>
    Tx.respects_bind (hR.reach _) fun _ => hR.assign _ fun _ => rfl
  induction ms generalizing i with
  | nil => exact Tx.respects_pure _
  | cons m ms ih =>
      exact Tx.respects_bind (hR.reach _) fun _ =>
        Tx.respects_bind (Tx.respects_handle (hread i m) fun _ => hcatch i) fun _ => ih (i + 1)

theorem Frame.evaluateAll (hR : Frame R) (readings : List MappingReading) :
    Tx.Respects R (p.evaluateAll readings) := by
  have hloop : ∀ i, Tx.Respects R (p.evaluateReadings i readings) := by
    induction readings with
    | nil => exact fun i => Tx.respects_pure _
    | cons m readings ih =>
        exact fun i => Tx.respects_bind
          (Tx.respects_handle (hR.reach _) fun _ => Tx.respects_pure _) fun _ =>
            Tx.respects_bind (hR.reach _) fun _ => ih (i + 1)
  unfold ModbusPoll.evaluateAll
  split
  · exact Tx.respects_bind (hR.reach _) fun _ => hloop 0
  · exact Tx.respects_pure _

theorem Frame.store (hR : Frame R) : Tx.Respects R (p.store copy) := by
  have hwrite : ∀ readings, Tx.Respects R (p.writeReadings readings) := fun _ =>
    hR.atomic _ (Tx.respects_bind (hR.points _) fun _ =>
      Tx.respects_bind (hR.reach _) fun _ => hR.latest _)
  have hmark : Tx.Respects R (p.markSuccess copy) := by
    refine Tx.respects_bind (hR.reach _) fun _ =>
      Tx.respects_bind (hR.device _ fun _ => rfl) fun _ => ?_
    split
    · exact Tx.respects_bind (hR.reach _) fun _ => hR.config _
    · exact Tx.respects_pure _
  exact Tx.respects_bind (Tx.respects_read _) fun readings =>
    Tx.respects_bind (hwrite readings) fun _ =>
      Tx.respects_bind (hR.evaluateAll readings) fun _ => Tx.respects_bind hmark fun _ =>
        Tx.respects_bind (hR.reach _) fun _ => Tx.respects_bind (Tx.respects_read _) fun _ =>
          Tx.respects_pure _

/-- From `readings = []` on. -/
theorem Frame.poll (hR : Frame R) : Tx.Respects R (p.poll copy) := by
  refine Tx.respects_bind (hR.readRegisters p.mappings 0) fun _ =>
    Tx.respects_bind (hR.reach _) fun _ => Tx.respects_bind (Tx.respects_read _) fun _ => ?_
  split
  · exact Tx.respects_bind (Tx.respects_raise _) fun _ => hR.store
  · exact hR.store

/-- In the `except` blocks. -/
theorem Frame.fail (hR : Frame R) (e : PollException) : Tx.Respects R (p.fail copy e) := by
  have hrecord : ∀ action, Tx.Respects R (record action) := fun _ => hR.assign _ fun _ => rfl
  have hmark : ∀ message, Tx.Respects R (p.markFailure copy message) := by
    intro message
    refine Tx.respects_bind (hR.reach _) fun _ =>
      Tx.respects_bind (hR.device _ fun _ => rfl) fun _ => ?_
    split
    · exact Tx.respects_bind (hR.reach _) fun _ => Tx.respects_bind (hR.config _) fun _ =>
        hrecord _
    · exact hrecord _
  exact Tx.respects_bind (hmark _) fun _ => Tx.respects_pure _

end Frame

/-! ### The marks -/

/-- The tables after `_mark_success`. -/
def succeeded (p : ModbusPoll) (copy : DeviceHealth) (t : PollTables) : PollTables :=
  let seen := t.updateDevice (DeviceHealth.seen p.startedAt)
  if copy.pollingConfig.isSome then
    seen.updatePollingConfig (PollingConfig.succeeded p.startedAt)
  else seen

/-- The tables after `_mark_failure`. -/
def failed (p : ModbusPoll) (copy : DeviceHealth) (message : String) (t : PollTables) :
    PollTables :=
  t.failed copy (failureStatus copy) p.failedAt message

/-! ### The `finally` block -/

theorem closeClient_apply (h : p.raises .close = none) : p.closeClient s = (.ok ⟨⟩, s) := by
  rw [closeClient, Tx.bind_of_ok (Tx.read_apply ..)]
  split
  · exact reach_of_none h
  · rfl

/-- The release of the gateway returns, whatever it raises. -/
theorem releaseGateway_spec : ∃ s', p.releaseGateway s = (.ok ⟨⟩, s') ∧ s'.tables = s.tables ∧
    (p.raises .releaseGateway = none → s'.locals.trace = s.locals.trace) := by
  rw [releaseGateway, Tx.bind_of_ok (Tx.read_apply ..)]
  split
  · cases h : p.raises .releaseGateway with
    | none =>
        refine ⟨_, Tx.handle_of_ok ((Tx.bind_of_ok (reach_of_none h)).trans rfl), rfl, ?_⟩
        intro _
        rfl
    | some e =>
        refine ⟨_, Tx.handle_of_error (Tx.bind_of_error (reach_of_some h)), rfl, ?_⟩
        intro hnone
        cases hnone
  · exact ⟨s, rfl, rfl, fun _ => rfl⟩

theorem releaseDevice_apply (h : p.raises .releaseDevice = none) :
    p.releaseDevice s = (.ok ⟨⟩, { s with locals := { s.locals with deviceLock := false } }) := by
  rw [releaseDevice, Tx.bind_of_ok (reach_of_none h)]
  rfl

/-- The `finally` block writes no tables. -/
theorem cleanup_spec (hclose : p.raises .close = none) (hrelease : p.raises .releaseDevice = none) :
    ∃ s', p.cleanup s = (.ok ⟨⟩, s') ∧ s'.tables = s.tables ∧
      (p.raises .releaseGateway = none → s'.locals.trace = s.locals.trace) := by
  obtain ⟨s', hgateway, htables, htrace⟩ := releaseGateway_spec (p := p) (s := s)
  refine ⟨{ s' with locals := { s'.locals with deviceLock := false } }, ?_, htables, htrace⟩
  rw [cleanup, Tx.bind_of_ok (closeClient_apply hclose), Tx.bind_of_ok hgateway,
    releaseDevice_apply hrelease]

/-- The poll with the lock of the device, from its `try` statement. -/
theorem pollLocked_of_ok {r : OutcomeStatus × Option String} (hload : p.raises .load = none)
    (hclose : p.raises .close = none) (hrelease : p.raises .releaseDevice = none)
    (hlog : p.raises .log = none)
    (h : Tx.handle (p.body s.tables.health) (p.fail s.tables.health) s = (.ok r, s')) :
    ∃ s'', s''.tables = s'.tables ∧
      (p.raises .releaseGateway = none → s''.locals.trace = s'.locals.trace) ∧
      p.pollLocked s = (.ok (p.outcome r.1 s''.locals r.2),
        if r.1 = .skipped then s''
        else { s'' with
          tables := s''.tables.insertLog (p.log "MODBUS_TCP" r.1 s''.locals r.2) }) := by
  obtain ⟨s'', hcleanup, htables, htrace⟩ := cleanup_spec (s := s') hclose hrelease
  refine ⟨s'', htables, htrace, ?_⟩
  have hensure : Tx.ensure (Tx.handle (p.body s.tables.health) (p.fail s.tables.health)) p.cleanup
      s = (.ok r, s'') := by
    rw [Tx.ensure_of_ok (by rw [h]; exact hcleanup), h]
  rw [pollLocked, Tx.bind_of_ok (reach_of_none hload), Tx.bind_of_ok (Tx.read_apply ..),
    Tx.bind_of_ok hensure]
  dsimp only
  rw [Tx.bind_of_ok (Tx.read_apply ..)]
  by_cases hskipped : r.1 = .skipped
  · rw [if_pos hskipped, if_pos hskipped, hskipped]
    rfl
  · rw [if_neg hskipped, if_neg hskipped, Tx.bind_of_ok (reach_of_none hlog)]
    rfl

/-- A poll that gets the lock of its device. -/
theorem pollModbusDevice_of_free (hacquire : p.raises .acquireDevice = none)
    (hadded : p.raises .deviceAdded = none) (hfree : p.deviceFree = true) :
    p.pollModbusDevice s = p.pollLocked { s with locals := { s.locals with deviceLock := true } } := by
  have hlock : p.acquireDevice s =
      (.ok ⟨⟩, { s with locals := { s.locals with deviceLock := true } }) := by
    rw [acquireDevice, Tx.bind_of_ok (reach_of_none hacquire), if_pos hfree,
      Tx.bind_of_ok (Process.assign_apply ..)]
    exact reach_of_none hadded
  rw [pollModbusDevice, Tx.bind_of_ok hlock, if_pos hfree]

/-- A poll that does not get it does nothing. -/
theorem pollModbusDevice_of_busy (hacquire : p.raises .acquireDevice = none)
    (hfree : p.deviceFree = false) : (p.pollModbusDevice s).2 = s := by
  have hlock : p.acquireDevice s = (.ok ⟨⟩, s) := by
    rw [acquireDevice, Tx.bind_of_ok (reach_of_none hacquire), if_neg (by simp [hfree])]
    rfl
  rw [pollModbusDevice, Tx.bind_of_ok hlock, if_neg (by simp [hfree])]
  rfl

end ModbusPoll

end DcimBackend.Collectors
