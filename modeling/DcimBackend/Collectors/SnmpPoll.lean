import DcimBackend.Collectors.Polls

/-!
# The SNMP poll and its exceptions

`poll_snmp_device`, with `_mark_success` and `_mark_failure`
(`collectors/snmp_collector/services.py`).  One transaction is around the loop over the
mappings, and no savepoint around a mapping.  A failed `objects.create` breaks the transaction;
`update_or_create` and the blocks of `evaluate_latest` have savepoints of their own, and the
query for the matching rules has none.

A statement is run through `Process.execute`, which refuses it in a broken block with the message
of Django; so a mapping behind the one that broke the transaction still reads its value from the
device, and fails at its insert.  The `except` block of a mapping catches that like everything
else.
-/

namespace DcimBackend.Collectors

open Library

/-- The positions of `poll_snmp_device`. -/
inductive SnmpPosition
  /-- In front of the `try` block, where the device is loaded. -/
  | load
  | runtime
  /-- Between two mappings. -/
  | loop (i : ℕ)
  | read (i : ℕ)
  | convert (i : ℕ)
  | insert (i : ℕ)
  | upsert (i : ℕ)
  /-- PostgreSQL refuses the query for the matching rules. -/
  | matching (i : ℕ)
  /-- In a `try` block of `evaluate_latest`, such as the one around the notifications. -/
  | notify (i : ℕ)
  /-- Anywhere else in `evaluate_latest`. -/
  | evaluate (i : ℕ)
  /-- In front of `success_count += 1`. -/
  | count (i : ℕ)
  /-- In the `except` block of a mapping. -/
  | caught (i : ℕ)
  | check
  /-- The two updates of `_mark_success`. -/
  | markDevice
  | markConfig
  | commit
  /-- After the transaction, in front of `status = ...`. -/
  | status
  /-- The two updates of `_mark_failure`. -/
  | failDevice
  | failConfig
  | log
deriving DecidableEq

namespace SnmpPosition

/-- The position is in the `try` block of a mapping. -/
def inMapping : SnmpPosition → Bool
  | .read _ | .convert _ | .insert _ | .upsert _ | .matching _ | .notify _ | .evaluate _
  | .count _ => true
  | _ => false

/-- The position is in the `try` block of the poll, and in no block of a mapping. -/
def inPoll : SnmpPosition → Bool
  | .runtime | .loop _ | .caught _ | .check | .markDevice | .markConfig | .commit
  | .status => true
  | _ => false

/-- The position is in the `try` block of the poll. -/
def inTry (pos : SnmpPosition) : Bool := pos.inMapping || pos.inPoll

theorem inMapping_of_inPoll {pos : SnmpPosition} (h : pos.inPoll = true) :
    pos.inMapping = false := by
  cases pos <;> first | rfl | cases h

end SnmpPosition

/-- A poll of `poll_snmp_device`. -/
structure SnmpPoll extends PollArgs where
  raises : SnmpPosition → Option PollException

namespace SnmpPoll

variable (p : SnmpPoll)

/-- The `try` block of a mapping, up to `_quality_for_metric`. -/
def readMapping (i : ℕ) : Poll Unit := do
  record (.read i)
  reach p.raises (.read i)
  reach p.raises (.convert i)

/-- `TelemetryPoint.objects.create`. -/
def createPoint (i : ℕ) (m : MappingReading) : Poll Unit :=
  Process.execute aborted do
    reach p.raises (.insert i)
    Process.write (PollTables.insertPoints [p.point "snmp_worker" m])

/-- `LatestTelemetry.objects.update_or_create`. -/
def updateOrCreateLatest (i : ℕ) (m : MappingReading) : Poll Unit :=
  Process.atomic <| Process.execute aborted do
    reach p.raises (.upsert i)
    Process.write (PollTables.updateLatest [p.row "snmp_worker" m])

/-- `evaluate_latest`, if the poll evaluates alerts. -/
def evaluateMapping (i : ℕ) : Poll Unit := do
  if p.evaluateAlerts then
    Process.execute aborted (reach p.raises (.matching i))
    Tx.handle (reach p.raises (.notify i)) fun _ => return
    reach p.raises (.evaluate i)

/-- The rest of the `try` block. -/
def storeMapping (i : ℕ) (m : MappingReading) : Poll Unit := do
  p.createPoint i m
  p.updateOrCreateLatest i m
  p.evaluateMapping i
  reach p.raises (.count i)
  Process.assign fun locals => { locals with successCount := locals.successCount + 1 }

/-- The `try` block of a mapping. -/
def pollMapping (i : ℕ) (m : MappingReading) : Poll Unit := do
  p.readMapping i
  p.storeMapping i m

/-- The `except` block of a mapping. -/
def catchMapping (i : ℕ) : Poll Unit := do
  reach p.raises (.caught i)
  Process.assign fun locals => { locals with failureCount := locals.failureCount + 1 }

/-- One round of the loop. -/
def tryMapping (i : ℕ) (m : MappingReading) : Poll Unit :=
  Tx.handle (p.pollMapping i m) fun _ => p.catchMapping i

/-- The loop over the mappings. -/
def pollMappings : ℕ → List MappingReading → Poll Unit
  | _, [] => return
  | i, m :: ms => do
      reach p.raises (.loop i)
      p.tryMapping i m
      pollMappings (i + 1) ms

/-- `_mark_success`, inside the transaction. -/
def markSuccess (copy : DeviceHealth) : Poll Unit := do
  Process.execute aborted do
    reach p.raises .markDevice
    Process.write (PollTables.updateDevice (DeviceHealth.seen p.startedAt))
  if copy.pollingConfig.isSome then
    Process.execute aborted do
      reach p.raises .markConfig
      Process.write (PollTables.updatePollingConfig (PollingConfig.succeeded p.startedAt))

/-- The status that `_mark_failure` sets. -/
def failureStatus (copy : DeviceHealth) (time : Instant) : DeviceStatus :=
  let failureCount := copy.pollingConfig.elim 1 fun config => config.consecutiveFailures + 1
  let staleAfter := copy.pollingConfig.elim 180 PollingConfig.staleAfterSeconds
  if copy.lastSeenAt.all (fun seen => timedelta staleAfter ≤ time - seen) || 3 ≤ failureCount then
    .offline
  else .degraded

/-- The `error_message` of a poll that fails. -/
def failureMessage : PollException → String
  | .softTimeLimitExceeded => "SNMP poll exceeded worker soft time limit"
  | .error message => message

/-- `_mark_failure`. -/
def markFailure (copy : DeviceHealth) (message : String) : Poll Unit :=
  markFailed p.raises .failDevice .failConfig copy (failureStatus copy p.failedAt) p.failedAt
    message

/-- The transaction. -/
def transaction (copy : DeviceHealth) : Poll Unit :=
  Process.atomic do
    p.pollMappings 0 p.mappings
    reach p.raises .check
    if (← Tx.read fun s => s.locals.successCount) = 0 then
      Tx.raise (.error "All configured SNMP OIDs failed")
    p.markSuccess copy
    reach p.raises .commit

/-- The `try` block of the poll. -/
def body (copy : DeviceHealth) : Poll (OutcomeStatus × Option String) := do
  reach p.raises .runtime
  if p.mappings.isEmpty then
    Tx.raise (.error "No active SNMP OID mappings found for this device type/model")
  p.transaction copy
  reach p.raises .status
  let failureCount ← Tx.read fun s => s.locals.failureCount
  return (if failureCount = 0 then .success else .partialSuccess, none)

/-- Its `except` blocks. -/
def fail (copy : DeviceHealth) (e : PollException) : Poll (OutcomeStatus × Option String) :=
  failWith (failureMessage e) (p.markFailure copy)

/-- `poll_snmp_device`. -/
def pollSnmpDevice : Poll PollOutcome := do
  reach p.raises .load
  let copy ← Tx.read fun s => s.tables.health
  let (status, errorMessage) ← Tx.handle (p.body copy) (p.fail copy)
  reach p.raises .log
  let locals ← Tx.read fun s => s.locals
  Process.write (PollTables.insertLog (p.log "SNMP" status locals errorMessage))
  return p.outcome status locals errorMessage

variable {p}

/-! ### What the loop leaves alone -/

/-- The loop writes points and rows only. -/
theorem keeps_pollMappings {β : Type} {part : PollTables → β}
    (hpoints : ∀ points t, part (PollTables.insertPoints points t) = part t)
    (hlatest : ∀ rows t, part (PollTables.updateLatest rows t) = part t) {i : ℕ}
    {ms : List MappingReading} : Tx.Respects (Process.Keeps part) (p.pollMappings i ms) := by
  have hread : ∀ i, Tx.Respects (Process.Keeps part) (p.readMapping i) := fun i =>
    Tx.respects_bind (Process.keeps_assign _) fun _ => Tx.respects_bind keeps_reach fun _ =>
      keeps_reach
  have hcreate : ∀ i m, Tx.Respects (Process.Keeps part) (p.createPoint i m) := fun i m =>
    Process.keeps_execute (Tx.respects_bind keeps_reach fun _ => Process.keeps_write (hpoints _))
  have hupdate : ∀ i m, Tx.Respects (Process.Keeps part) (p.updateOrCreateLatest i m) :=
    fun i m => Process.keeps_atomic (Process.keeps_execute
      (Tx.respects_bind keeps_reach fun _ => Process.keeps_write (hlatest _)))
  have hevaluate : ∀ i, Tx.Respects (Process.Keeps part) (p.evaluateMapping i) := by
    intro i
    unfold evaluateMapping
    split
    · exact Tx.respects_bind (Process.keeps_execute keeps_reach) fun _ => Tx.respects_bind
        (Tx.respects_handle keeps_reach fun _ => Tx.respects_pure _) fun _ => keeps_reach
    · exact Tx.respects_pure _
  have hstore : ∀ i m, Tx.Respects (Process.Keeps part) (p.storeMapping i m) := fun i m =>
    Tx.respects_bind (hcreate i m) fun _ => Tx.respects_bind (hupdate i m) fun _ =>
      Tx.respects_bind (hevaluate i) fun _ => Tx.respects_bind keeps_reach fun _ =>
        Process.keeps_assign _
  have hcatch : ∀ i, Tx.Respects (Process.Keeps part) (p.catchMapping i) := fun i =>
    Tx.respects_bind keeps_reach fun _ => Process.keeps_assign _
  induction ms generalizing i with
  | nil => exact Tx.respects_pure _
  | cons m ms ih =>
      exact Tx.respects_bind keeps_reach fun _ => Tx.respects_bind
        (Tx.respects_handle (Tx.respects_bind (hread i) fun _ => hstore i m) fun _ => hcatch i)
        fun _ => ih

/-! ### The marks -/

/-- The tables after `_mark_success`. -/
def succeeded (p : SnmpPoll) (copy : DeviceHealth) (t : PollTables) : PollTables :=
  let seen := t.updateDevice (DeviceHealth.seen p.startedAt)
  if copy.pollingConfig.isSome then
    seen.updatePollingConfig (PollingConfig.succeeded p.startedAt)
  else seen

/-- The tables after `_mark_failure`. -/
def failed (p : SnmpPoll) (copy : DeviceHealth) (message : String) (t : PollTables) : PollTables :=
  t.failed copy (failureStatus copy p.failedAt) p.failedAt message

variable {copy : DeviceHealth} {s s' : PollProcess}

@[simp] theorem points_succeeded {t : PollTables} : (p.succeeded copy t).points = t.points := by
  unfold succeeded
  split <;> rfl

@[simp] theorem logs_succeeded {t : PollTables} : (p.succeeded copy t).logs = t.logs := by
  unfold succeeded
  split <;> rfl

@[simp] theorem points_failed {message : String} {t : PollTables} :
    (p.failed copy message t).points = t.points := by
  unfold failed PollTables.failed
  cases copy.pollingConfig <;> rfl

@[simp] theorem logs_failed {message : String} {t : PollTables} :
    (p.failed copy message t).logs = t.logs := by
  unfold failed PollTables.failed
  cases copy.pollingConfig <;> rfl

/-- `_mark_success` in a whole block. -/
theorem markSuccess_apply (copy : DeviceHealth) (hs : s.broken = false)
    (hdevice : p.raises .markDevice = none) (hconfig : p.raises .markConfig = none) :
    p.markSuccess copy s = (.ok ⟨⟩, { s with tables := p.succeeded copy s.tables }) := by
  have hfirst : Process.execute aborted (do
      reach p.raises .markDevice
      Process.write (PollTables.updateDevice (DeviceHealth.seen p.startedAt))) s =
      (.ok ⟨⟩, { s with tables := s.tables.updateDevice (DeviceHealth.seen p.startedAt) }) := by
    refine Process.execute_of_ok _ hs ?_
    rw [Tx.bind_of_ok (reach_of_none hdevice)]
    rfl
  rw [markSuccess, Tx.bind_of_ok hfirst]
  unfold succeeded
  split
  · refine Process.execute_of_ok _ hs ?_
    rw [Tx.bind_of_ok (reach_of_none hconfig)]
    rfl
  · rfl

/-- `_mark_success` in a broken block. -/
theorem markSuccess_of_broken (hs : s.broken = true) :
    p.markSuccess copy s = (.error aborted, s) := by
  exact Tx.bind_of_error (Tx.refuseIf_of_true hs)

/-- A `_mark_success` that returns has run in a whole block. -/
theorem markSuccess_of_ok {u : Unit} (h : p.markSuccess copy s = (.ok u, s')) :
    s.broken = false ∧ s' = { s with tables := p.succeeded copy s.tables } := by
  obtain ⟨u₁, s₁, hfirst, hrest⟩ := Tx.bind_eq_ok_iff.mp h
  obtain ⟨hs, hfirst⟩ := Process.execute_eq_ok_iff.mp hfirst
  obtain ⟨u₂, s₂, hreach, hwrite⟩ := Tx.bind_eq_ok_iff.mp hfirst
  obtain ⟨hdevice, rfl⟩ := reach_eq_ok_iff.mp hreach
  obtain rfl := (Prod.mk.inj hwrite).2
  refine ⟨hs, ?_⟩
  unfold succeeded
  split at hrest
  · rename_i hconfig
    rw [if_pos hconfig]
    obtain ⟨-, hrest⟩ := Process.execute_eq_ok_iff.mp hrest
    obtain ⟨u₃, s₃, hreach, hwrite⟩ := Tx.bind_eq_ok_iff.mp hrest
    obtain ⟨-, rfl⟩ := reach_eq_ok_iff.mp hreach
    exact ((Prod.mk.inj hwrite).2).symm
  · rename_i hconfig
    rw [if_neg hconfig]
    exact ((Prod.mk.inj hrest).2).symm

/-! ### The transaction, from its loop -/

/-- A loop without a success rolls back. -/
theorem transaction_of_zero {u : Unit} (hcheck : p.raises .check = none)
    (h : p.pollMappings 0 p.mappings s = (.ok u, s')) (hzero : s'.locals.successCount = 0) :
    p.transaction copy s = (.error (.error "All configured SNMP OIDs failed"),
      { s' with tables := s.tables, broken := s.broken }) := by
  refine Process.atomic_of_error ?_
  rw [Tx.bind_of_ok h, Tx.bind_of_ok (reach_of_none hcheck), Tx.bind_of_ok (Tx.read_apply ..),
    if_pos hzero]
  rfl

/-- A broken block rolls back. -/
theorem transaction_of_broken {u : Unit} (hcheck : p.raises .check = none)
    (h : p.pollMappings 0 p.mappings s = (.ok u, s')) (hsome : s'.locals.successCount ≠ 0)
    (hbroken : s'.broken = true) :
    p.transaction copy s = (.error aborted,
      { s' with tables := s.tables, broken := s.broken }) := by
  refine Process.atomic_of_error ?_
  rw [Tx.bind_of_ok h, Tx.bind_of_ok (reach_of_none hcheck), Tx.bind_of_ok (Tx.read_apply ..),
    if_neg hsome]
  exact Tx.bind_of_error (markSuccess_of_broken hbroken)

/-- A whole block with a success is kept. -/
theorem transaction_of_whole (copy : DeviceHealth) {u : Unit} (hcheck : p.raises .check = none)
    (hdevice : p.raises .markDevice = none) (hconfig : p.raises .markConfig = none)
    (hcommit : p.raises .commit = none) (h : p.pollMappings 0 p.mappings s = (.ok u, s'))
    (hsome : s'.locals.successCount ≠ 0) (hwhole : s'.broken = false) :
    p.transaction copy s = (.ok ⟨⟩,
      { s' with tables := p.succeeded copy s'.tables, broken := s.broken }) := by
  have hmark := markSuccess_apply copy hwhole hdevice hconfig
  have hinner : (do
      p.pollMappings 0 p.mappings
      reach p.raises .check
      if (← Tx.read fun s => s.locals.successCount) = 0 then
        Tx.raise (.error "All configured SNMP OIDs failed")
      p.markSuccess copy
      reach p.raises .commit : Poll Unit) s =
      (.ok ⟨⟩, { s' with tables := p.succeeded copy s'.tables }) := by
    rw [Tx.bind_of_ok h, Tx.bind_of_ok (reach_of_none hcheck), Tx.bind_of_ok (Tx.read_apply ..),
      if_neg hsome]
    exact (Tx.bind_of_ok hmark).trans (reach_of_none hcommit)
  exact Process.atomic_of_ok hinner hwhole

/-! ### The poll, from its `try` block -/

theorem pollSnmpDevice_of_ok {r : OutcomeStatus × Option String} (hload : p.raises .load = none)
    (hlog : p.raises .log = none) (h : p.body s.tables.health s = (.ok r, s')) :
    p.pollSnmpDevice s = (.ok (p.outcome r.1 s'.locals r.2),
      { s' with tables := s'.tables.insertLog (p.log "SNMP" r.1 s'.locals r.2) }) := by
  rw [pollSnmpDevice, Tx.bind_of_ok (reach_of_none hload), Tx.bind_of_ok (Tx.read_apply ..),
    Tx.bind_of_ok (Tx.handle_of_ok h)]
  dsimp only
  rw [Tx.bind_of_ok (reach_of_none hlog)]
  rfl

theorem pollSnmpDevice_of_error {e : PollException} (hload : p.raises .load = none)
    (hdevice : p.raises .failDevice = none) (hconfig : p.raises .failConfig = none)
    (hlog : p.raises .log = none) (h : p.body s.tables.health s = (.error e, s')) :
    p.pollSnmpDevice s =
      (.ok (p.outcome .failed s'.locals (some (failureMessage e))), { s' with
        tables := (p.failed s.tables.health (failureMessage e) s'.tables).insertLog
          (p.log "SNMP" .failed s'.locals (some (failureMessage e)))
        locals := { s'.locals with
          trace := s'.locals.trace ++ [.markedFailure (failureMessage e)] } }) := by
  rw [pollSnmpDevice, Tx.bind_of_ok (reach_of_none hload), Tx.bind_of_ok (Tx.read_apply ..),
    Tx.bind_of_ok ((Tx.handle_of_error h).trans (failWith_apply (markFailed_apply hdevice hconfig)))]
  dsimp only
  rw [Tx.bind_of_ok (reach_of_none hlog)]
  rfl

end SnmpPoll

end DcimBackend.Collectors
