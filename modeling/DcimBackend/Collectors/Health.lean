import DcimBackend.Collectors.SoftLimit
import DcimBackend.Library.Run

/-!
# Device health

What `_mark_success` and `_mark_failure` of the two collectors write, against the history of the
polls.  The history is not stored: the counter of the polling config, the status and the time of
the last success have to carry what is needed of it.

`Health` is the law.  `health_run` shows that it holds after every run of polls that end with
their marks: nothing is raised where no mark follows, and no SNMP poll is stopped behind the
commit of its transaction, where `_mark_success` is stored and `_mark_failure` still runs.

The law has three parts: the counter is the length of the trailing run of failures, the device is
online where that run is empty, and it is offline from the third failure on; in between, the two
collectors decide about `DEGRADED` in different ways.  `Carries` is the invariant between the
stored columns and the history, one for each collector, with the time of the last success, which
the law does not mention.

Only the poll's own writes are looked at, and the first poll starts from a device that has never
been polled.
-/

namespace DcimBackend.Collectors

open Library

/-! ### The history of the polls -/

/-- What is known of a poll: whether it is a success, when it has started and when its failure
is marked. -/
structure PollRecord where
  success : Bool
  startedAt : Instant
  failedAt : Instant

/-- The last poll is the first of the list. -/
abbrev PollHistory := List PollRecord

namespace PollHistory

/-- The length of the trailing run of failed polls. -/
def failures (h : PollHistory) : ℕ := (h.takeWhile fun poll => !poll.success).length

/-- The start of the last successful poll. -/
def lastSuccess (h : PollHistory) : Option Instant :=
  (h.find? PollRecord.success).map PollRecord.startedAt

variable {poll : PollRecord} {h : PollHistory}

theorem failures_success (hpoll : poll.success = true) : failures (poll :: h) = 0 := by
  simp [failures, hpoll]

theorem failures_failure (hpoll : poll.success = false) :
    failures (poll :: h) = failures h + 1 := by
  simp [failures, hpoll]

theorem lastSuccess_success (hpoll : poll.success = true) :
    lastSuccess (poll :: h) = some poll.startedAt := by
  simp [lastSuccess, hpoll]

theorem lastSuccess_failure (hpoll : poll.success = false) :
    lastSuccess (poll :: h) = lastSuccess h := by
  simp [lastSuccess, hpoll]

/-- The last failure is marked less than `n` seconds after the last success has started. -/
def SeenWithin (h : PollHistory) (n : ℕ) : Prop :=
  ∃ poll ∈ h.head?, ∃ seen ∈ h.lastSuccess, poll.failedAt - seen < timedelta n

end PollHistory

/-- The tables of a device, with the history of its polls. -/
structure Watched where
  tables : PollTables
  history : PollHistory

/-- The law of one collector, with its rule for `DEGRADED`. -/
structure Health (degraded : PollHistory → ℕ → Prop) (w : Watched) : Prop where
  count : ∃ config, w.tables.health.pollingConfig = some config ∧
    config.consecutiveFailures = w.history.failures ∧
    (w.tables.health.status = .degraded ↔ degraded w.history config.staleAfterSeconds)
  online : w.tables.health.status = .online ↔ w.history.failures = 0
  offline : 3 ≤ w.history.failures → w.tables.health.status = .offline

/-- `DEGRADED`, after SNMP polls. -/
def SnmpDegraded (h : PollHistory) (staleAfter : ℕ) : Prop :=
  (h.failures = 1 ∨ h.failures = 2) ∧ h.SeenWithin staleAfter

/-- `DEGRADED`, after Modbus polls. -/
def ModbusDegraded (h : PollHistory) (_ : ℕ) : Prop := h.failures = 1 ∨ h.failures = 2

/-- A poll is a success if it returns `SUCCESS` or `PARTIAL_SUCCESS`. -/
def isSuccess : Except PollException PollOutcome → Bool
  | .ok outcome => outcome.status = .success ∨ outcome.status = .partialSuccess
  | .error _ => false

/-- The device after a poll. -/
def Watched.observe (w : Watched) (args : PollArgs) (poll : Poll PollOutcome) : Watched where
  tables := (poll w.tables.process).2.tables
  history :=
    { success := isSuccess (poll w.tables.process).1
      startedAt := args.startedAt
      failedAt := args.failedAt } :: w.history

/-- A device that has never been polled. -/
structure PollTables.Fresh (t : PollTables) : Prop where
  lastSeenAt : t.health.lastSeenAt = none
  pollingConfig : ∃ config, t.health.pollingConfig = some config ∧ config.consecutiveFailures = 0

/-- The device, before its first poll. -/
def PollTables.unpolled (t : PollTables) : Watched where
  tables := t
  history := []

/-! ### SNMP polls -/

namespace SnmpPoll

variable {p : SnmpPoll} {copy : DeviceHealth} {s s' : PollProcess}

def step (w : Watched) (p : SnmpPoll) : Watched := w.observe p.toPollArgs p.pollSnmpDevice

/-- Nothing is raised where no mark follows, and nothing behind the commit. -/
def EndsMarked (p : SnmpPoll) : Prop :=
  ∀ pos ∈ [SnmpPosition.load, .status, .failDevice, .failConfig, .log], p.raises pos = none

/-- A transaction that returns has marked the success. -/
theorem health_transaction_of_ok {u : Unit} (h : p.transaction copy s = (.ok u, s')) :
    s'.tables.health = (p.succeeded copy s.tables).health := by
  obtain ⟨s₁, hinner, rfl⟩ := Process.atomic_eq_ok h
  obtain ⟨u₁, s₂, hloop, hrest⟩ := Tx.bind_eq_ok_iff.mp hinner
  obtain ⟨u₂, s₃, hcheck, htail⟩ := Tx.bind_eq_ok_iff.mp hrest
  obtain ⟨-, rfl⟩ := reach_eq_ok_iff.mp hcheck
  rw [Tx.bind_of_ok (Tx.read_apply ..)] at htail
  have hkeeps : s₃.tables.health = s.tables.health := by
    have hloop' : Process.Keeps PollTables.health s (p.pollMappings 0 p.mappings s).2 :=
      keeps_pollMappings (fun _ _ => rfl) (fun _ _ => rfl) s
    rw [hloop] at hloop'
    exact hloop'
  split at htail
  · rw [Tx.bind_of_error (Tx.raise_apply ..)] at htail
    cases htail
  obtain ⟨u₃, s₄, hmark, hcommit⟩ := Tx.bind_eq_ok_iff.mp htail
  obtain ⟨-, rfl⟩ := reach_eq_ok_iff.mp hcommit
  obtain ⟨hwhole, rfl⟩ := markSuccess_of_ok hmark
  dsimp only
  rw [if_neg (by simp [hwhole])]
  unfold succeeded
  split <;> simp [PollTables.updateDevice, PollTables.updatePollingConfig, hkeeps]

/-- The `try` block of the poll stores the success, or nothing. -/
theorem body_health (copy : DeviceHealth) (s : PollProcess) (hstatus : p.raises .status = none) :
    (∃ r s', p.body copy s = (.ok r, s') ∧ (r.1 = .success ∨ r.1 = .partialSuccess) ∧
      s'.tables.health = (p.succeeded copy s.tables).health) ∨
    ∃ e s', p.body copy s = (.error e, s') ∧ s'.tables = s.tables := by
  unfold body
  cases hruntime : p.raises .runtime with
  | some e => exact .inr ⟨e, _, Tx.bind_of_error (reach_of_some hruntime), rfl⟩
  | none =>
      rw [Tx.bind_of_ok (reach_of_none hruntime)]
      split
      · exact .inr ⟨_, s, Tx.bind_of_error (Tx.raise_apply ..), rfl⟩
      dsimp only
      rcases htransaction : p.transaction copy s with ⟨e | u, s'⟩
      · exact .inr ⟨e, s', Tx.bind_of_error htransaction,
          Process.tables_atomic_of_error htransaction⟩
      · rw [Tx.bind_of_ok htransaction, Tx.bind_of_ok (reach_of_none hstatus)]
        refine .inl ⟨_, s', rfl, ?_, health_transaction_of_ok htransaction⟩
        dsimp only
        split
        · exact .inl rfl
        · exact .inr rfl

/-- What an SNMP poll makes of the health of its device. -/
theorem health_pollSnmpDevice (h : p.EndsMarked) (t : PollTables) :
    (isSuccess (p.pollSnmpDevice t.process).1 = true ∧
      (p.pollSnmpDevice t.process).2.tables.health = (p.succeeded t.health t).health) ∨
    (isSuccess (p.pollSnmpDevice t.process).1 = false ∧ ∃ message,
      (p.pollSnmpDevice t.process).2.tables.health = (p.failed t.health message t).health) := by
  have hload := h .load (by simp)
  have hlog := h .log (by simp)
  rcases body_health t.process.tables.health t.process (h .status (by simp)) with
    ⟨r, s', hbody, hstatus, hhealth⟩ | ⟨e, s', hbody, htables⟩
  · rw [pollSnmpDevice_of_ok (s := t.process) hload hlog hbody]
    exact .inl ⟨decide_eq_true hstatus, hhealth⟩
  · have hpoll := pollSnmpDevice_of_error (s := t.process) hload (h .failDevice (by simp))
      (h .failConfig (by simp)) hlog hbody
    rw [hpoll]
    refine .inr ⟨rfl, failureMessage e, ?_⟩
    change (p.failed t.health (failureMessage e) s'.tables).health = _
    rw [htables]
    rfl

section FailureStatus

variable {config : PollingConfig} {time : Instant}

theorem failureStatus_ne_online : failureStatus copy time ≠ .online := by
  unfold failureStatus
  dsimp only
  split <;> simp

theorem failureStatus_of_three (hconfig : copy.pollingConfig = some config)
    (h : 3 ≤ config.consecutiveFailures + 1) : failureStatus copy time = .offline := by
  simp [failureStatus, hconfig, h]

theorem failureStatus_eq_degraded_iff (hconfig : copy.pollingConfig = some config) :
    failureStatus copy time = .degraded ↔ config.consecutiveFailures + 1 < 3 ∧
      ∃ seen ∈ copy.lastSeenAt, time - seen < timedelta config.staleAfterSeconds := by
  cases hseen : copy.lastSeenAt with
  | none => simp [failureStatus, hconfig, hseen]
  | some seen =>
      by_cases hcount : 3 ≤ config.consecutiveFailures + 1
      · simp [failureStatus, hconfig, hseen, hcount]
      · simp [failureStatus, hconfig, hseen, hcount, not_le.mp hcount]

end FailureStatus

/-- What the stored columns carry of the history. -/
structure Carries (w : Watched) : Prop where
  count : ∃ config, w.tables.health.pollingConfig = some config ∧
    config.consecutiveFailures = w.history.failures
  seen : w.tables.health.lastSeenAt = w.history.lastSuccess

/-- **One SNMP poll.** -/
theorem carries_step {w : Watched} (hw : Carries w) (h : p.EndsMarked) :
    Carries (step w p) ∧ Health SnmpDegraded (step w p) := by
  obtain ⟨config, hconfig, hcount⟩ := hw.count
  rcases health_pollSnmpDevice h w.tables with ⟨hsuccess, hhealth⟩ | ⟨hfailure, message, hhealth⟩
  · have hfailures : (step w p).history.failures = 0 := PollHistory.failures_success hsuccess
    have hlast : (step w p).history.lastSuccess = some p.startedAt :=
      PollHistory.lastSuccess_success hsuccess
    have hnew : (step w p).tables.health =
        { status := .online
          lastSeenAt := some p.startedAt
          pollingConfig := some (config.succeeded p.startedAt) } := by
      refine hhealth.trans ?_
      simp [succeeded, hconfig, PollTables.updateDevice, PollTables.updatePollingConfig,
        DeviceHealth.seen]
    refine ⟨⟨⟨_, by rw [hnew], by rw [hfailures]; rfl⟩, by rw [hnew, hlast]⟩, ⟨?_, ?_, ?_⟩⟩
    · refine ⟨_, by rw [hnew], by rw [hfailures]; rfl, ?_⟩
      simp [hnew, SnmpDegraded, hfailures]
    · simp [hnew, hfailures]
    · simp [hfailures]
  · have hfailures : (step w p).history.failures = w.history.failures + 1 :=
      PollHistory.failures_failure hfailure
    have hlast : (step w p).history.lastSuccess = w.history.lastSuccess :=
      PollHistory.lastSuccess_failure hfailure
    have hnew : (step w p).tables.health =
        { w.tables.health with
          status := failureStatus w.tables.health p.failedAt
          pollingConfig := some (config.failed p.failedAt message config) } := by
      refine hhealth.trans ?_
      simp [failed, PollTables.failed, hconfig, PollTables.updateDevice,
        PollTables.updatePollingConfig]
    have hmarked : (config.failed p.failedAt message config).consecutiveFailures =
        (step w p).history.failures := by
      rw [hfailures, ← hcount]
      rfl
    refine ⟨⟨⟨_, by rw [hnew], hmarked⟩, by rw [hnew, hlast]; exact hw.seen⟩, ⟨?_, ?_, ?_⟩⟩
    · refine ⟨_, by rw [hnew], hmarked, ?_⟩
      rw [hnew]
      dsimp only
      rw [failureStatus_eq_degraded_iff hconfig, hw.seen]
      unfold SnmpDegraded PollHistory.SeenWithin
      rw [hlast, hfailures, hcount]
      refine and_congr (by omega) ?_
      simp [step, Watched.observe, PollingConfig.failed]
    · rw [hnew, hfailures]
      exact iff_of_false failureStatus_ne_online (by omega)
    · intro hthree
      rw [hnew]
      exact failureStatus_of_three hconfig (by omega)

/-- **A run of SNMP polls.** -/
theorem health_run {t : PollTables} (ht : t.Fresh) {polls : List SnmpPoll} (hpolls : polls ≠ [])
    (h : ∀ p ∈ polls, p.EndsMarked) : Health SnmpDegraded (run step t.unpolled polls) :=
  run_established (I := Carries) (J := Health SnmpDegraded) (G := EndsMarked)
    (fun _ _ => carries_step) ⟨ht.pollingConfig, ht.lastSeenAt⟩ hpolls h

end SnmpPoll

/-! ### Modbus polls -/

namespace ModbusPoll

variable {p : ModbusPoll} {copy : DeviceHealth} {s s' : PollProcess}

def step (w : Watched) (p : ModbusPoll) : Watched := w.observe p.toPollArgs p.pollModbusDevice

/-- The poll is not skipped, and nothing is raised where no mark follows. -/
structure EndsMarked (p : ModbusPoll) : Prop where
  deviceFree : p.deviceFree = true
  gatewayFree : p.gatewayFree = true
  unraised : ∀ pos ∈ [ModbusPosition.acquireDevice, .deviceAdded, .load, .failDevice, .failConfig,
    .close, .releaseDevice, .log], p.raises pos = none

/-- The device has a polling config. -/
def hasConfig (t : PollTables) : Bool := t.health.pollingConfig.isSome

theorem frame_hasConfig : Frame (Process.Keeps hasConfig) where
  assign _ _ := Process.keeps_assign _
  points _ := Process.keeps_write fun _ => rfl
  latest _ := Process.keeps_write fun _ => rfl
  device _ h := Process.keeps_write fun t => congrArg Option.isSome (h t.health)
  config _ := Process.keeps_write fun _ => Option.isSome_map ..
  atomic _ := Process.keeps_atomic

/-- No poll creates or deletes the polling config. -/
theorem keeps_body : Tx.Respects (Process.Keeps hasConfig) (p.body copy) := by
  have hacquire : Tx.Respects (Process.Keeps hasConfig) p.acquireGateway := by
    refine Tx.respects_bind keeps_reach fun _ => ?_
    split
    · exact Tx.respects_bind (Process.keeps_assign _) fun _ => Tx.respects_bind keeps_reach
        fun _ => Process.keeps_assign _
    · exact Tx.respects_pure _
  have hgateway : Tx.Respects (Process.Keeps hasConfig) (p.pollGateway copy) := by
    refine Tx.respects_bind hacquire fun _ => ?_
    split
    · exact Tx.respects_bind keeps_reach fun _ => Tx.respects_bind (Process.keeps_assign _)
        fun _ => Tx.respects_bind keeps_reach fun _ => frame_hasConfig.poll
    · exact Tx.respects_pure _
  refine Tx.respects_bind keeps_reach fun _ => ?_
  split
  · exact Tx.respects_bind (Tx.respects_raise _) fun _ => hgateway
  · exact hgateway

/-- A `_mark_success` that returns has marked the success. -/
theorem markSuccess_of_ok {u : Unit} (h : p.markSuccess copy s = (.ok u, s')) :
    s' = { s with tables := p.succeeded copy s.tables } := by
  obtain ⟨u₁, s₁, hdevice, hrest⟩ := Tx.bind_eq_ok_iff.mp h
  obtain ⟨-, rfl⟩ := reach_eq_ok_iff.mp hdevice
  rw [Tx.bind_of_ok (Process.write_apply ..)] at hrest
  unfold succeeded
  split at hrest
  · rename_i hconfig
    rw [if_pos hconfig]
    obtain ⟨u₂, s₂, hreach, hwrite⟩ := Tx.bind_eq_ok_iff.mp hrest
    obtain ⟨-, rfl⟩ := reach_eq_ok_iff.mp hreach
    exact ((Prod.mk.inj hwrite).2).symm
  · rename_i hconfig
    rw [if_neg hconfig]
    exact ((Prod.mk.inj hrest).2).symm

/-- A `try` block that returns has marked the success. -/
theorem store_of_ok {r : OutcomeStatus × Option String} (h : p.store copy s = (.ok r, s')) :
    (r.1 = .success ∨ r.1 = .partialSuccess) ∧ ∃ t, s'.tables = p.succeeded copy t := by
  obtain ⟨readings, s₁, hread, h₁⟩ := Tx.bind_eq_ok_iff.mp h
  obtain ⟨u₂, s₂, hwrite, h₂⟩ := Tx.bind_eq_ok_iff.mp h₁
  obtain ⟨u₃, s₃, hevaluate, h₃⟩ := Tx.bind_eq_ok_iff.mp h₂
  obtain ⟨u₄, s₄, hmark, h₄⟩ := Tx.bind_eq_ok_iff.mp h₃
  obtain ⟨u₅, s₅, hstatus, h₅⟩ := Tx.bind_eq_ok_iff.mp h₄
  obtain ⟨-, rfl⟩ := reach_eq_ok_iff.mp hstatus
  obtain rfl := markSuccess_of_ok hmark
  rw [Tx.bind_of_ok (Tx.read_apply ..)] at h₅
  obtain ⟨hr, rfl⟩ := Prod.mk.inj h₅
  obtain rfl := Except.ok.inj hr
  refine ⟨?_, _, rfl⟩
  dsimp only
  split
  · exact .inl rfl
  · exact .inr rfl

theorem body_of_ok (hfree : p.gatewayFree = true) {r : OutcomeStatus × Option String}
    (h : p.body copy s = (.ok r, s')) :
    (r.1 = .success ∨ r.1 = .partialSuccess) ∧ ∃ t, s'.tables = p.succeeded copy t := by
  have hgateway : ∀ s, p.pollGateway copy s = (.ok r, s') →
      (r.1 = .success ∨ r.1 = .partialSuccess) ∧ ∃ t, s'.tables = p.succeeded copy t := by
    intro s h
    obtain ⟨u₁, s₁, hacquire, h₁⟩ := Tx.bind_eq_ok_iff.mp h
    rw [if_pos hfree] at h₁
    obtain ⟨u₂, s₂, hclient, h₂⟩ := Tx.bind_eq_ok_iff.mp h₁
    obtain ⟨u₃, s₃, hassign, h₃⟩ := Tx.bind_eq_ok_iff.mp h₂
    obtain ⟨u₄, s₄, hconnect, h₄⟩ := Tx.bind_eq_ok_iff.mp h₃
    obtain ⟨u₅, s₅, hloop, h₅⟩ := Tx.bind_eq_ok_iff.mp h₄
    obtain ⟨u₆, s₆, hcheck, h₆⟩ := Tx.bind_eq_ok_iff.mp h₅
    rw [Tx.bind_of_ok (Tx.read_apply ..)] at h₆
    split at h₆
    · rw [Tx.bind_of_error (Tx.raise_apply ..)] at h₆
      cases h₆
    · exact store_of_ok h₆
  obtain ⟨u₁, s₁, hruntime, h₁⟩ := Tx.bind_eq_ok_iff.mp h
  split at h₁
  · rw [Tx.bind_of_error (Tx.raise_apply ..)] at h₁
    cases h₁
  · exact hgateway s₁ h₁

section Failed

variable {config : PollingConfig}

theorem failureStatus_of_some (hconfig : copy.pollingConfig = some config) :
    failureStatus copy =
      if config.consecutiveFailures + 1 < 3 then .degraded else .offline := by
  simp [failureStatus, hconfig]

/-- A success that is marked for a device with a polling config. -/
theorem succeeded_spec {t : PollTables} (hcopy : copy.pollingConfig = some config)
    (ht : hasConfig (p.succeeded copy t) = true) :
    (p.succeeded copy t).health.status = .online ∧
      ∃ marked, (p.succeeded copy t).health.pollingConfig = some marked ∧
        marked.consecutiveFailures = 0 := by
  cases hstored : t.health.pollingConfig with
  | none =>
      simp [hasConfig, succeeded, hcopy, PollTables.updateDevice, PollTables.updatePollingConfig,
        DeviceHealth.seen, hstored] at ht
  | some stored =>
      simp [succeeded, hcopy, PollTables.updateDevice, PollTables.updatePollingConfig,
        DeviceHealth.seen, hstored, PollingConfig.succeeded]

/-- A failure that is marked for a device with a polling config. -/
theorem failed_spec {message : String} {t : PollTables} (hcopy : copy.pollingConfig = some config)
    (ht : hasConfig t = true) :
    (p.failed copy message t).health.status = failureStatus copy ∧
      ∃ marked, (p.failed copy message t).health.pollingConfig = some marked ∧
        marked.consecutiveFailures = config.consecutiveFailures + 1 := by
  obtain ⟨stored, hstored⟩ := Option.isSome_iff_exists.mp ht
  simp [failed, PollTables.failed, hcopy, PollTables.updateDevice, PollTables.updatePollingConfig,
    hstored, PollingConfig.failed]

end Failed

/-- What a Modbus poll makes of the health of its device. -/
theorem health_pollModbusDevice (h : p.EndsMarked) {t : PollTables} {config : PollingConfig}
    (hconfig : t.health.pollingConfig = some config) :
    ∃ health, (p.pollModbusDevice t.process).2.tables.health = health ∧
      ((isSuccess (p.pollModbusDevice t.process).1 = true ∧ health.status = .online ∧
        ∃ marked, health.pollingConfig = some marked ∧ marked.consecutiveFailures = 0) ∨
      (isSuccess (p.pollModbusDevice t.process).1 = false ∧
        health.status = failureStatus t.health ∧
        ∃ marked, health.pollingConfig = some marked ∧
          marked.consecutiveFailures = config.consecutiveFailures + 1)) := by
  refine ⟨_, rfl, ?_⟩
  rw [pollModbusDevice_of_free (h.unraised .acquireDevice (by simp))
    (h.unraised .deviceAdded (by simp)) h.deviceFree]
  set s : PollProcess := { t.process with locals := { t.process.locals with deviceLock := true } }
  have hload := h.unraised .load (by simp)
  have hclose := h.unraised .close (by simp)
  have hrelease := h.unraised .releaseDevice (by simp)
  have hlog := h.unraised .log (by simp)
  have hkeeps := @keeps_body p s.tables.health s
  have hcopy : hasConfig s.tables = true := by
    change t.health.pollingConfig.isSome = true
    rw [hconfig]
    rfl
  rcases hbody : p.body s.tables.health s with ⟨e | r, s'⟩
  · obtain ⟨s'', htables, -, hpoll⟩ := pollLocked_of_ok (s := s) hload hclose hrelease hlog
      ((Tx.handle_of_error hbody).trans
        (failWith_apply
          (markFailed_apply (h.unraised .failDevice (by simp)) (h.unraised .failConfig (by simp)))))
    rw [hbody] at hkeeps
    rw [hpoll, if_neg (by simp)]
    refine .inr ⟨rfl, ?_⟩
    change (s''.tables.health.status = _) ∧ ∃ marked, s''.tables.health.pollingConfig = _ ∧ _
    rw [htables]
    exact failed_spec hconfig (hkeeps.trans hcopy)
  · obtain ⟨s'', htables, -, hpoll⟩ := pollLocked_of_ok (s := s) hload hclose hrelease hlog
      (Tx.handle_of_ok hbody)
    rw [hbody] at hkeeps
    obtain ⟨hstatus, u, hu⟩ := body_of_ok h.gatewayFree hbody
    have hskipped : r.1 ≠ .skipped := by
      rcases hstatus with hstatus | hstatus <;> simp [hstatus]
    rw [hpoll, if_neg hskipped]
    refine .inl ⟨decide_eq_true hstatus, ?_⟩
    change (s''.tables.health.status = _) ∧ ∃ marked, s''.tables.health.pollingConfig = _ ∧ _
    rw [htables, hu]
    refine succeeded_spec hconfig ?_
    rw [← hu]
    exact hkeeps.trans hcopy

/-- What the stored columns carry of the history. -/
def Carries (w : Watched) : Prop :=
  ∃ config, w.tables.health.pollingConfig = some config ∧
    config.consecutiveFailures = w.history.failures

/-- **One Modbus poll.** -/
theorem carries_step {w : Watched} (hw : Carries w) (h : p.EndsMarked) :
    Carries (step w p) ∧ Health ModbusDegraded (step w p) := by
  obtain ⟨config, hconfig, hcount⟩ := hw
  obtain ⟨health, hhealth, hmarked⟩ := health_pollModbusDevice h hconfig
  change (step w p).tables.health = health at hhealth
  rcases hmarked with ⟨hsuccess, hstatus, marked, hsome, hzero⟩ |
    ⟨hfailure, hstatus, marked, hsome, hnext⟩
  · have hfailures : (step w p).history.failures = 0 := PollHistory.failures_success hsuccess
    have hnew : ∃ config, (step w p).tables.health.pollingConfig = some config ∧
        config.consecutiveFailures = (step w p).history.failures :=
      ⟨marked, by rw [hhealth, hsome], by rw [hzero, hfailures]⟩
    refine ⟨hnew, ⟨?_, ?_, ?_⟩⟩
    · refine ⟨marked, by rw [hhealth, hsome], by rw [hzero, hfailures], ?_⟩
      simp [hhealth, hstatus, ModbusDegraded, hfailures]
    · simp [hhealth, hstatus, hfailures]
    · simp [hfailures]
  · have hfailures : (step w p).history.failures = w.history.failures + 1 :=
      PollHistory.failures_failure hfailure
    have hcounted : marked.consecutiveFailures = (step w p).history.failures := by
      rw [hnext, hfailures, hcount]
    refine ⟨⟨marked, by rw [hhealth, hsome], hcounted⟩, ⟨?_, ?_, ?_⟩⟩
    · refine ⟨marked, by rw [hhealth, hsome], hcounted, ?_⟩
      rw [hhealth, hstatus, failureStatus_of_some hconfig, hcount]
      unfold ModbusDegraded
      rw [hfailures]
      split
      · exact iff_of_true rfl (by omega)
      · exact iff_of_false (by simp) (by omega)
    · rw [hhealth, hstatus, failureStatus_of_some hconfig, hfailures]
      refine iff_of_false ?_ (by omega)
      split <;> simp
    · intro hthree
      rw [hhealth, hstatus, failureStatus_of_some hconfig, if_neg (by omega)]

/-- **A run of Modbus polls.** -/
theorem health_run {t : PollTables} (ht : t.Fresh) {polls : List ModbusPoll} (hpolls : polls ≠ [])
    (h : ∀ p ∈ polls, p.EndsMarked) : Health ModbusDegraded (run step t.unpolled polls) :=
  run_established (I := Carries) (J := Health ModbusDegraded) (G := EndsMarked)
    (fun _ _ => carries_step) (s := t.unpolled) ht.pollingConfig hpolls h

end ModbusPoll

/-- **Device health follows the poll history**, where every poll ends with its marks. -/
theorem health_followsHistory {t : PollTables} (ht : t.Fresh) :
    (∀ polls : List SnmpPoll, polls ≠ [] → (∀ p ∈ polls, p.EndsMarked) →
      Health SnmpDegraded (run SnmpPoll.step t.unpolled polls)) ∧
    ∀ polls : List ModbusPoll, polls ≠ [] → (∀ p ∈ polls, p.EndsMarked) →
      Health ModbusDegraded (run ModbusPoll.step t.unpolled polls) :=
  ⟨fun _ => SnmpPoll.health_run ht, fun _ => ModbusPoll.health_run ht⟩

theorem fresh_freshTables : SnmpPoll.freshTables.Fresh where
  lastSeenAt := rfl
  pollingConfig := ⟨{}, rfl, rfl⟩

/-- A success, and a poll that cannot be configured, in either collector. -/
theorem health_followsHistory_roomPoll :
    Health SnmpDegraded (run SnmpPoll.step SnmpPoll.freshTables.unpolled
      [SnmpPoll.roomPoll (.read 0), SnmpPoll.roomPoll .runtime]) ∧
    Health ModbusDegraded (run ModbusPoll.step SnmpPoll.freshTables.unpolled
      [stoppedModbusPoll (.read 0), stoppedModbusPoll .runtime]) :=
  ⟨(health_followsHistory fresh_freshTables).1 _ (by simp)
      (by simp [SnmpPoll.EndsMarked, SnmpPoll.roomPoll]),
    (health_followsHistory fresh_freshTables).2 _ (by simp) (by
      rintro p hp
      simp only [List.mem_cons, List.not_mem_nil, or_false] at hp
      rcases hp with rfl | rfl <;>
        exact ⟨rfl, rfl, by simp [stoppedModbusPoll]⟩)⟩

/-- A poll is stopped behind the commit of its transaction.  It fails, but `last_seen_at` is
stored; the next failure marks a device that has never been polled with success as degraded. -/
theorem stoppedPoll_not_health :
    ¬Health SnmpDegraded (run SnmpPoll.step SnmpPoll.freshTables.unpolled
      [stoppedPoll .status, SnmpPoll.roomPoll .runtime]) := by
  intro h
  obtain ⟨config, -, -, hdegraded⟩ := h.count
  obtain ⟨-, poll, -, seen, hseen, -⟩ := hdegraded.mp rfl
  cases hseen

end DcimBackend.Collectors
