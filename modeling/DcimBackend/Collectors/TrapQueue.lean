import DcimBackend.Collectors.TrapReceiver
import DcimBackend.Library.RetryQueue

/-!
# From a datagram to a stored trap

`cb_fun` (`collectors/snmp_trap_receiver/receiver.py`) takes the messages of a datagram apart and
queues a task for each.  `process_snmp_trap_task` (`collectors/snmp_trap_receiver/tasks.py`) runs
`process_snmp_trap` in one transaction and is retried three times.  The task is acknowledged before
it runs, so a worker that is killed takes it along.

Of a PAC trap, the confirmation is queued when the transaction has been committed, by
`transaction.on_commit`.  Between the two an attempt can go wrong with its trap stored: the broker
refuses the confirmation, so that the task raises and is retried, or the worker is killed, so that
neither the confirmation nor a retry follows.  A worker may also be killed when all is done but the
return.  An attempt therefore has three places to be killed at, of which only the first one, before
the commit, leaves nothing behind.

The decoder of the messages is a parameter, of which only one thing is used: a message takes up some
bytes, so the loop over a datagram ends.  The tables that an attempt reads and the clock come with
the attempt.  A stored trap has the number of the traps before it as its key, in the place of a
random one.

`traps_accounted` says how many traps a task has stored after any run, what became of the
confirmation of each, and that a confirmation always finds its trap.

Two lists are kept in the store that the source does not have: the traps whose confirmation was
not queued, and those whose attempt has not returned.  They are what the accounts are about, and
no function of the model reads them.
-/

namespace DcimBackend

open Library

/-! ### The datagram -/

/-- The arguments of `process_snmp_trap_task`. -/
structure TrapTask where
  sourceIp : String
  trapOid : String
  rawVarbinds : Dict

/-- What the decoder makes of the bytes at hand. -/
inductive DecodedTrap
  /-- The version is none of `protoModules`. -/
  | unsupported
  /-- A message, its variable bindings as far as they can be printed, and what follows it. -/
  | message (varbinds : List (String × String)) (rest : List UInt8)
  /-- The decoder raises. -/
  | malformed

/-- The BER decoder: a message takes up some bytes. -/
structure TrapDecoder where
  decode : List UInt8 → DecodedTrap
  rest_lt : ∀ {bytes varbinds rest}, decode bytes = .message varbinds rest →
    rest.length < bytes.length

/-- `SNMP_TRAP_OID_V2`. -/
def snmpTrapOidV2 : String := "1.3.6.1.6.3.1.1.4.1.0"

/-- The body of the loop over the variable bindings: `raw_varbinds` and `trap_oid`. -/
def readVarbind (state : Dict × Option String) (varbind : String × String) :
    Dict × Option String :=
  (Dict.merge state.1 [(varbind.1, .scalar (.text varbind.2))],
    if varbind.1 = snmpTrapOidV2 then some varbind.2 else state.2)

/-- `raw_varbinds.get(SNMP_TRAP_OID_V2)`. -/
def varbindOid (rawVarbinds : Dict) : Option String :=
  match rawVarbinds.lookup snmpTrapOidV2 with
  | some (.scalar (.text oid)) => some oid
  | _ => none

/-- The task of a message: the OID is `trap_oid or raw_varbinds.get(SNMP_TRAP_OID_V2) or
"UNKNOWN"`. -/
def trapTask (sourceIp : String) (varbinds : List (String × String)) : TrapTask :=
  let read := varbinds.foldl readVarbind ([], none)
  { sourceIp := sourceIp
    trapOid := ((read.2.filter (· ≠ "")).or ((varbindOid read.1).filter (· ≠ ""))).getD "UNKNOWN"
    rawVarbinds := read.1 }

/-- `cb_fun`: the tasks that it queues. -/
def cbFun (decoder : TrapDecoder) (sourceIp : String) (wholeMsg : List UInt8) : List TrapTask :=
  match _h : decoder.decode wholeMsg with
  | .message varbinds rest => trapTask sourceIp varbinds :: cbFun decoder sourceIp rest
  | _ => []
termination_by wholeMsg.length
decreasing_by exact decoder.rest_lt _h

/-- The OID of a task is the one in its variable bindings, if there is one that is not empty. -/
def TrapTask.OidRead (task : TrapTask) : Prop :=
  task.trapOid = ((varbindOid task.rawVarbinds).filter (· ≠ "")).getD "UNKNOWN"

theorem varbindOid_merge (d : Dict) (varbind : String × String) :
    varbindOid (Dict.merge d [(varbind.1, .scalar (.text varbind.2))]) =
      if varbind.1 = snmpTrapOidV2 then some varbind.2 else varbindOid d := by
  unfold varbindOid
  rw [Dict.lookup_merge, List.lookup_cons, List.lookup_nil]
  by_cases hoid : varbind.1 = snmpTrapOidV2
  · rw [if_pos hoid, hoid, beq_self_eq_true]
    rfl
  · rw [if_neg hoid, beq_false_of_ne (Ne.symm hoid)]
    rfl

/-- `trap_oid` is what `raw_varbinds` has under the OID, all along the loop. -/
theorem varbindOid_foldl (varbinds : List (String × String)) (state : Dict × Option String)
    (h : varbindOid state.1 = state.2) :
    varbindOid (varbinds.foldl readVarbind state).1 = (varbinds.foldl readVarbind state).2 := by
  induction varbinds generalizing state with
  | nil => exact h
  | cons varbind varbinds ih =>
      refine ih (readVarbind state varbind) ?_
      rw [readVarbind, varbindOid_merge, h]

theorem oidRead_trapTask (sourceIp : String) (varbinds : List (String × String)) :
    (trapTask sourceIp varbinds).OidRead := by
  have hoid := varbindOid_foldl varbinds ([], none) rfl
  unfold TrapTask.OidRead trapTask
  dsimp only
  rw [← hoid, Option.or_self]

theorem oidRead_cbFun {decoder : TrapDecoder} {sourceIp : String} {wholeMsg : List UInt8} :
    ∀ task ∈ cbFun decoder sourceIp wholeMsg, task.OidRead := by
  fun_induction cbFun decoder sourceIp wholeMsg with
  | case1 wholeMsg varbinds rest h ih =>
      exact List.forall_mem_cons.mpr ⟨oidRead_trapTask sourceIp varbinds, ih⟩
  | case2 => exact fun _ hmem => (List.not_mem_nil hmem).elim

/-! ### The tasks -/

/-- A stored trap, with the task that stored it. -/
structure StoredTrap where
  id : ℕ
  task : ℕ
  outcome : TrapOutcome

/-- The arguments of `process_pac_trap_alarm_confirmation_task`. -/
structure TrapConfirmation where
  device : DeviceId
  trapEvent : ℕ
  eventCode : String

/-- What the tasks write: the stored traps, and the confirmations that are queued.  Two lists are
kept beside them: the traps whose confirmation has not got to the broker, and those whose attempt
has not returned. -/
structure TrapStore where
  events : List StoredTrap := []
  confirmations : List TrapConfirmation := []
  unconfirmed : List StoredTrap := []
  unreturned : List StoredTrap := []

/-- Where a worker is killed. -/
inductive KillPoint
  | beforeCommit
  | beforePublish
  | beforeReturn
deriving DecidableEq

/-- What an attempt meets: the tables and the clock, whether the transaction is committed, whether
the broker takes what is queued on commit, and where the worker is killed, if it is. -/
structure TrapAttempt where
  db : TrapTables
  receivedAt : Instant
  commits : Bool := true
  queues : Bool := true
  killed : Option KillPoint := none

/-- The ending of an attempt that gets to its end. -/
def TrapAttempt.ending (a : TrapAttempt) (ending : TaskEnding) : TaskEnding :=
  if a.killed = some .beforeReturn then .dies else ending

/-- A trap has the OID of its variable bindings, and asks for the confirmation of its own device. -/
structure StoredTrap.Sound (event : StoredTrap) : Prop where
  oid : event.outcome.event.trapOid =
    ((varbindOid event.outcome.event.rawVarbinds).filter (· ≠ "")).getD "UNKNOWN"
  device : ∀ c, event.outcome.confirmation = some c → event.outcome.event.device = some c.1

namespace TrapStore

variable (upper : String → String) (store : TrapStore)

/-- The trap that an attempt stores. -/
def nextEvent (id : ℕ) (task : TrapTask) (a : TrapAttempt) : StoredTrap where
  id := store.events.length
  task := id
  outcome := a.db.processSnmpTrap upper
    { sourceIp := task.sourceIp
      trapOid := some task.trapOid
      rawVarbinds := some task.rawVarbinds
      receivedAt := a.receivedAt }

/-- The store with a trap that has been committed, and what has been queued for it. -/
def keep (event : StoredTrap) (queued : List TrapConfirmation) (ending : TaskEnding) :
    TrapStore where
  events := store.events ++ [event]
  confirmations := store.confirmations ++ queued
  unconfirmed := store.unconfirmed ++
    if event.outcome.confirmation.isSome = true ∧ queued = [] then [event] else []
  unreturned := store.unreturned ++ if ending = .returns then [] else [event]

/-- `process_snmp_trap_task`: how it ends, and what it leaves. -/
def processSnmpTrapTask (id : ℕ) (task : TrapTask) (a : TrapAttempt) : TaskEnding × TrapStore :=
  if a.killed = some .beforeCommit then (.dies, store)
  else if a.commits = false then (.raises, store)
  else
    let event := store.nextEvent upper id task a
    if a.killed = some .beforePublish then (.dies, store.keep event [] .dies)
    else
      match event.outcome.confirmation with
      | none => (a.ending .returns, store.keep event [] (a.ending .returns))
      | some (device, eventCode) =>
          if a.queues then
            (a.ending .returns,
              store.keep event [⟨device, event.id, eventCode⟩] (a.ending .returns))
          else (a.ending .raises, store.keep event [] (a.ending .raises))

/-- The retries of `process_snmp_trap_task`. -/
def policy : RetryPolicy TrapTask TrapStore TrapAttempt where
  maxRetries := 3
  handle id task a store := store.processSnmpTrapTask upper id task a

/-- How many traps a task has stored. -/
def stored (store : TrapStore) (task : ℕ) : ℕ := store.events.countP fun event => event.task = task

/-- How many of them were stored by an attempt that has not returned. -/
def late (store : TrapStore) (task : ℕ) : ℕ :=
  store.unreturned.countP fun event => event.task = task

/-- The lookup of `process_pac_trap_alarm_confirmation`. -/
def trapEvent (c : TrapConfirmation) : Option StoredTrap :=
  store.events.find? fun event => event.id = c.trapEvent && event.outcome.event.device = some c.device

variable {upper store}

/-- What is queued for a trap: nothing, or the confirmation that it asks for. -/
def Queued (event : StoredTrap) (queued : List TrapConfirmation) : Prop :=
  queued = [] ∨ ∃ c, event.outcome.confirmation = some c ∧ queued = [⟨c.1, event.id, c.2⟩]

/-- **What an attempt can do**: end without a trap, or store its trap, with its confirmation or
without it.  If it returns, it has stored the trap and queued the confirmation that it asks for. -/
theorem processSnmpTrapTask_cases (id : ℕ) (task : TrapTask) (a : TrapAttempt) :
    (∃ ending, ending ≠ .returns ∧
      store.processSnmpTrapTask upper id task a = (ending, store)) ∨
    ∃ queued ending, store.processSnmpTrapTask upper id task a =
        (ending, store.keep (store.nextEvent upper id task a) queued ending) ∧
      Queued (store.nextEvent upper id task a) queued ∧
      (ending = .returns →
        (store.nextEvent upper id task a).outcome.confirmation.isSome = true → queued ≠ []) := by
  unfold processSnmpTrapTask
  split
  · exact Or.inl ⟨.dies, by decide, rfl⟩
  split
  · exact Or.inl ⟨.raises, by decide, rfl⟩
  refine Or.inr ?_
  dsimp only
  split
  · exact ⟨[], .dies, rfl, Or.inl rfl, fun h => by cases h⟩
  split
  · rename_i hnone
    exact ⟨[], _, rfl, Or.inl rfl, fun _ hsome => by rw [hnone] at hsome; cases hsome⟩
  · rename_i device eventCode hsome
    split
    · exact ⟨_, _, rfl, Or.inr ⟨(device, eventCode), hsome, rfl⟩, fun _ _ => List.cons_ne_nil _ _⟩
    · refine ⟨[], _, rfl, Or.inl rfl, fun hreturns => ?_⟩
      unfold TrapAttempt.ending at hreturns
      split at hreturns
      · cases hreturns
      · cases hreturns

theorem countP_concat_task {events : List StoredTrap} {event : StoredTrap} (other : ℕ) :
    (events ++ [event]).countP (fun e => e.task = other) =
      events.countP (fun e => e.task = other) + if event.task = other then 1 else 0 := by
  rw [List.countP_append, List.countP_singleton]
  simp only [decide_eq_true_eq]

/-- The counters of a task, when a trap has been stored. -/
theorem stored_keep {event : StoredTrap} {queued : List TrapConfirmation} {ending : TaskEnding}
    (other : ℕ) : (store.keep event queued ending).stored other =
      store.stored other + if event.task = other then 1 else 0 :=
  countP_concat_task other

theorem late_keep {event : StoredTrap} {queued : List TrapConfirmation} {ending : TaskEnding}
    (other : ℕ) : (store.keep event queued ending).late other =
      store.late other + if ending ≠ .returns ∧ event.task = other then 1 else 0 := by
  unfold late keep
  dsimp only
  by_cases hreturns : ending = .returns
  · rw [if_pos hreturns, if_neg fun h => h.1 hreturns, List.append_nil, Nat.add_zero]
  · rw [if_neg hreturns, countP_concat_task]
    simp only [ne_eq, hreturns, not_false_eq_true, true_and]

/-- An attempt stores a trap of its own task, at most once. -/
theorem counts : RetryQueue.Counts (policy upper) stored late where
  other {id task a store other} hne := by
    show stored (store.processSnmpTrapTask upper id task a).2 other = _ ∧
      late (store.processSnmpTrapTask upper id task a).2 other = _
    have htask : (store.nextEvent upper id task a).task ≠ other := hne.symm
    rcases processSnmpTrapTask_cases id task a with ⟨_, -, h⟩ | ⟨_, _, h, -⟩
    · rw [h]
      exact ⟨rfl, rfl⟩
    · rw [h, stored_keep, late_keep, if_neg htask, if_neg fun hlate => htask hlate.2]
      exact ⟨rfl, rfl⟩
  returned {id task a store} hreturned := by
    have htask : (store.nextEvent upper id task a).task = id := rfl
    replace hreturned : (store.processSnmpTrapTask upper id task a).1 = .returns := hreturned
    show stored (store.processSnmpTrapTask upper id task a).2 id = _ ∧
      late (store.processSnmpTrapTask upper id task a).2 id = _
    rcases processSnmpTrapTask_cases id task a with ⟨_, hne, h⟩ | ⟨_, _, h, -⟩
    · rw [h] at hreturned
      exact absurd hreturned hne
    · rw [h] at hreturned ⊢
      rw [stored_keep, late_keep, if_pos htask, if_neg fun hlate => hlate.1 hreturned]
      exact ⟨rfl, rfl⟩
  failed {id task a store} hfailed := by
    have htask : (store.nextEvent upper id task a).task = id := rfl
    replace hfailed : (store.processSnmpTrapTask upper id task a).1 ≠ .returns := hfailed
    show ∃ n ≤ 1, stored (store.processSnmpTrapTask upper id task a).2 id = _ ∧
      late (store.processSnmpTrapTask upper id task a).2 id = _
    rcases processSnmpTrapTask_cases id task a with ⟨_, -, h⟩ | ⟨_, _, h, -⟩
    · rw [h]
      exact ⟨0, Nat.zero_le 1, rfl, rfl⟩
    · rw [h] at hfailed ⊢
      rw [stored_keep, late_keep, if_pos htask, if_pos ⟨hfailed, htask⟩]
      exact ⟨1, le_rfl, rfl, rfl⟩

/-! ### Confirmations -/

/-- Every confirmation is about a stored trap, and every trap that needs one has it queued once, or
is one of those whose confirmation has not got to the broker.  The attempt of such a trap has not
returned. -/
structure Confirmed (store : TrapStore) : Prop where
  keys : store.events.map StoredTrap.id = List.range store.events.length
  unreturned : ∀ event ∈ store.unreturned, event ∈ store.events
  unconfirmed : ∀ event ∈ store.unconfirmed, event ∈ store.unreturned
  needed : ∀ event ∈ store.events, event.outcome.confirmation.isSome = true ↔
    event.id ∈ store.confirmations.map TrapConfirmation.trapEvent ++
      store.unconfirmed.map StoredTrap.id
  once : (store.confirmations.map TrapConfirmation.trapEvent ++
    store.unconfirmed.map StoredTrap.id).Nodup
  about : ∀ c ∈ store.confirmations, ∃ event ∈ store.events, event.id = c.trapEvent ∧
    event.outcome.confirmation = some (c.device, c.eventCode)

/-- A confirmation is queued for the device of the trap. -/
theorem device_of_confirmation {db : TrapTables} {trap : ReceivedTrap} {c : DeviceId × String}
    (h : (db.processSnmpTrap upper trap).confirmation = some c) :
    (db.processSnmpTrap upper trap).event.device = some c.1 := by
  unfold TrapTables.processSnmpTrap at h ⊢
  dsimp only at h ⊢
  split at h
  · rename_i device m hdevice hmapping
    rw [hdevice, Option.bind_some] at hmapping
    rw [hdevice, Option.bind_some, hmapping]
    dsimp only at h ⊢
    split at h
    · cases h
      rfl
    · cases h
  · cases h

theorem Confirmed.nodup (h : Confirmed store) : (store.events.map StoredTrap.id).Nodup :=
  h.keys ▸ List.nodup_range

theorem Confirmed.id_lt (h : Confirmed store) {event : StoredTrap} (hevent : event ∈ store.events) :
    event.id < store.events.length :=
  List.mem_range.mp (h.keys ▸ List.mem_map_of_mem hevent)

/-- What is confirmed or not is a stored trap. -/
theorem Confirmed.lt_of_mem (h : Confirmed store) {id : ℕ}
    (hid : id ∈ store.confirmations.map TrapConfirmation.trapEvent ++
      store.unconfirmed.map StoredTrap.id) : id < store.events.length := by
  rcases List.mem_append.mp hid with hqueued | hunconfirmed
  · obtain ⟨c, hc, rfl⟩ := List.mem_map.mp hqueued
    obtain ⟨event, hevent, hkey, -⟩ := h.about c hc
    exact hkey ▸ h.id_lt hevent
  · obtain ⟨event, hevent, rfl⟩ := List.mem_map.mp hunconfirmed
    exact h.id_lt (h.unreturned event (h.unconfirmed event hevent))

/-- A new trap has a place among the queued confirmations or among the others, if it needs one. -/
theorem places_keep {event : StoredTrap} {queued : List TrapConfirmation} {ending : TaskEnding}
    (hqueued : Queued event queued) :
    ((store.keep event queued ending).confirmations.map TrapConfirmation.trapEvent ++
        (store.keep event queued ending).unconfirmed.map StoredTrap.id).Perm
      ((store.confirmations.map TrapConfirmation.trapEvent ++
          store.unconfirmed.map StoredTrap.id) ++
        (event.outcome.confirmation.map fun _ => event.id).toList) := by
  have hplace : queued.map TrapConfirmation.trapEvent ++ (if
      event.outcome.confirmation.isSome = true ∧ queued = [] then [event] else []).map
        StoredTrap.id = (event.outcome.confirmation.map fun _ => event.id).toList := by
    rcases hqueued with rfl | ⟨c, hc, rfl⟩
    · cases event.outcome.confirmation with
      | none => rfl
      | some c => rfl
    · rw [hc]
      rfl
  unfold keep
  dsimp only
  rw [← hplace, List.map_append, List.map_append]
  refine List.perm_iff_count.mpr fun id => ?_
  simp only [List.count_append]
  omega

/-- A trap is stored along with what becomes of its confirmation. -/
theorem Confirmed.keep (h : Confirmed store) {event : StoredTrap}
    {queued : List TrapConfirmation} {ending : TaskEnding} (hid : event.id = store.events.length)
    (hqueued : Queued event queued)
    (hreturns : ending = .returns → event.outcome.confirmation.isSome = true → queued ≠ []) :
    Confirmed (store.keep event queued ending) := by
  have hplaces := @places_keep store event queued ending hqueued
  have hnew : ∀ id, id ∈ (event.outcome.confirmation.map fun _ => event.id).toList ↔
      id = event.id ∧ event.outcome.confirmation.isSome = true := by
    intro id
    cases event.outcome.confirmation with
    | none => simp
    | some c => simp
  refine ⟨?_, fun e he => ?_, fun e he => ?_, fun e he => ?_, ?_, fun c hc => ?_⟩
  · show (store.events ++ [event]).map StoredTrap.id = List.range (store.events ++ [event]).length
    rw [List.map_append, h.keys, List.length_append, List.map_singleton, hid,
      List.length_singleton, List.range_succ]
  · rcases List.mem_append.mp he with hold | hlast
    · exact List.mem_append_left _ (h.unreturned e hold)
    · split at hlast
      · cases hlast
      · exact List.mem_append_right _ hlast
  · rcases List.mem_append.mp he with hold | hlast
    · exact List.mem_append_left _ (h.unconfirmed e hold)
    · split at hlast
      · rename_i hmissing
        refine List.mem_append_right _ ?_
        rwa [if_neg fun hend => hreturns hend hmissing.1 hmissing.2]
      · cases hlast
  · rw [hplaces.mem_iff, List.mem_append, hnew]
    rcases List.mem_append.mp he with hold | hlast
    · have hne : e.id ≠ event.id := hid ▸ (h.id_lt hold).ne
      rw [h.needed e hold, or_iff_left fun hmem => hne hmem.1]
    · rw [List.mem_singleton.mp hlast]
      have hfresh : event.id ∉ store.confirmations.map TrapConfirmation.trapEvent ++
          store.unconfirmed.map StoredTrap.id :=
        fun hmem => (hid ▸ h.lt_of_mem hmem).false
      rw [or_iff_right hfresh, and_iff_right rfl]
  · rw [hplaces.nodup_iff, List.nodup_append']
    refine ⟨h.once, ?_, fun id hold hlast => ?_⟩
    · cases event.outcome.confirmation with
      | none => exact List.nodup_nil
      | some c => exact List.nodup_singleton _
    · rw [hnew] at hlast
      exact (hlast.1.trans hid ▸ h.lt_of_mem hold).false
  · rcases List.mem_append.mp hc with hold | hlast
    · obtain ⟨e, he, hkey⟩ := h.about c hold
      exact ⟨e, List.mem_append_left _ he, hkey⟩
    · rcases hqueued with rfl | ⟨asked, hasked, rfl⟩
      · cases hlast
      · rw [List.mem_singleton.mp hlast]
        exact ⟨event, List.mem_append_right _ List.mem_cons_self, rfl, hasked⟩

/-- **Every attempt keeps the accounts of the confirmations.** -/
theorem Confirmed.processSnmpTrapTask (h : Confirmed store) (id : ℕ) (task : TrapTask)
    (a : TrapAttempt) : Confirmed (store.processSnmpTrapTask upper id task a).2 := by
  rcases processSnmpTrapTask_cases id task a with ⟨_, -, hstore⟩ |
    ⟨queued, ending, hstore, hqueued, hreturns⟩
  · rw [hstore]
    exact h
  · rw [hstore]
    exact h.keep rfl hqueued hreturns

theorem event_processSnmpTrap {db : TrapTables} {trap : ReceivedTrap} :
    (db.processSnmpTrap upper trap).event =
      db.trapEvent trap (db.trapDevice trap.sourceIp)
        ((db.trapDevice trap.sourceIp).bind fun device => db.trapMapping device trap.trapOid) := by
  unfold TrapTables.processSnmpTrap
  dsimp only
  split
  · rfl
  · rfl

/-- The OID of a task is never empty, so it is stored as it is. -/
theorem sound_nextEvent {id : ℕ} {task : TrapTask} {a : TrapAttempt} (htask : task.OidRead) :
    (store.nextEvent upper id task a).Sound where
  oid := by
    have hne : task.trapOid ≠ "" := by
      rw [TrapTask.OidRead] at htask
      rw [htask]
      cases hread : (varbindOid task.rawVarbinds).filter (· ≠ "") with
      | none => simp
      | some oid => exact of_decide_eq_true (Option.filter_eq_some_iff.mp hread).2
    have hevent : (store.nextEvent upper id task a).outcome.event.trapOid = task.trapOid := by
      rw [nextEvent, event_processSnmpTrap]
      show ((some task.trapOid).filter (· ≠ "")).getD "UNKNOWN" = task.trapOid
      rw [Option.filter_some, if_pos (decide_eq_true hne), Option.getD_some]
    rw [hevent, nextEvent, event_processSnmpTrap]
    exact htask
  device _ hc := device_of_confirmation hc

/-- The traps are sound, and their confirmations are accounted for. -/
def Kept (store : TrapStore) : Prop :=
  (∀ event ∈ store.events, event.Sound) ∧ Confirmed store

theorem Kept.processSnmpTrapTask (h : Kept store) (id : ℕ) {task : TrapTask} (a : TrapAttempt)
    (htask : task.OidRead) : Kept (store.processSnmpTrapTask upper id task a).2 := by
  refine ⟨fun event hevent => ?_, h.2.processSnmpTrapTask id task a⟩
  have happend : ∀ event ∈ store.events ++ [store.nextEvent upper id task a], event.Sound := by
    intro event hevent
    rcases List.mem_append.mp hevent with hold | hnew
    · exact h.1 event hold
    · rw [List.mem_singleton.mp hnew]
      exact sound_nextEvent htask
  rcases processSnmpTrapTask_cases id task a with ⟨_, -, hstore⟩ | ⟨_, _, hstore, -⟩
  · rw [hstore] at hevent
    exact h.1 event hevent
  · rw [hstore] at hevent
    exact happend event hevent

/-- The trap of a queued confirmation is found, and is the one that asks for it. -/
theorem Kept.trapEvent (h : Kept store) {c : TrapConfirmation} (hc : c ∈ store.confirmations) :
    ∃ event, store.trapEvent c = some event ∧
      event.outcome.confirmation = some (c.device, c.eventCode) := by
  obtain ⟨event, hevent, hid, hasks⟩ := h.2.about c hc
  have hdevice := (h.1 event hevent).device _ hasks
  cases hfound : store.trapEvent c with
  | none =>
      have hnone := List.find?_eq_none.mp hfound event hevent
      simp [hid, hdevice] at hnone
  | some found =>
      have hkey : found.id = c.trapEvent := by
        have hp := List.find?_some hfound
        rw [Bool.and_eq_true] at hp
        exact of_decide_eq_true hp.1
      have hmem := List.mem_of_find?_eq_some hfound
      have hsame : found = event :=
        List.inj_on_of_nodup_map h.2.nodup hmem hevent (hkey.trans hid.symm)
      exact ⟨found, rfl, hsame ▸ hasks⟩

end TrapStore

/-! ### Runs -/

/-- What happens to the traps: a datagram of which the broker takes so many tasks, or an attempt at
a task. -/
inductive TrapStep
  | datagram (sourceIp : String) (wholeMsg : List UInt8) (taken : ℕ)
  | attempt (id : ℕ) (a : TrapAttempt) (requeues : Bool)

/-- The step of the queue. -/
def TrapStep.toRetryStep (decoder : TrapDecoder) : TrapStep → RetryStep TrapTask TrapAttempt
  | .datagram sourceIp wholeMsg taken => .publish ((cbFun decoder sourceIp wholeMsg).take taken)
  | .attempt id a requeues => .attempt id a requeues

/-- The queue after a run. -/
def trapRun (upper : String → String) (decoder : TrapDecoder) (w : List TrapStep) :
    RetryQueue TrapTask TrapStore :=
  run (RetryQueue.step (TrapStore.policy upper)) { world := {} }
    (w.map (TrapStep.toRetryStep decoder))

/-- The accounts of the traps. -/
structure TrapsAccounted (s : RetryQueue TrapTask TrapStore) : Prop where
  /-- Every task is queued, done or dropped. -/
  conserved : s.Conserved
  /-- A task stores a trap when it is done, and one in each attempt that stores its trap and does
  not return, four at most. -/
  stored_eq : ∀ id, s.world.stored id = s.done.count id + s.world.late id
  stored_le : ∀ id, s.world.stored id ≤ 4
  once_iff : (∀ id, s.world.stored id = s.done.count id) ↔ s.world.unreturned = []
  sound : ∀ event ∈ s.world.events, event.Sound
  /-- A trap that asks for a confirmation has it queued once, or its attempt has not returned. -/
  confirmed : s.world.Confirmed
  found : ∀ c ∈ s.world.confirmations, ∃ event, s.world.trapEvent c = some event ∧
    event.outcome.confirmation = some (c.device, c.eventCode)

/-- A decoder of short messages: a tag, a length below 128, and as many bytes, which are the
characters of the OID. -/
def shortDecoder : TrapDecoder where
  decode
    | 0x30 :: length :: bytes =>
        if length < 128 ∧ length.toNat ≤ bytes.length then
          .message [(snmpTrapOidV2, String.ofList ((bytes.take length.toNat).map fun byte =>
            Char.ofNat byte.toNat))] (bytes.drop length.toNat)
        else .malformed
    | _ => .malformed
  rest_lt {bytes varbinds rest} h := by
    split at h
    · split at h
      · obtain ⟨-, rfl⟩ := DecodedTrap.message.inj h
        simp only [List.length_drop, List.length_cons]
        omega
      · cases h
    · cases h

/-- A PAC whose alarms are confirmed. -/
def pacTables : TrapTables where
  sources := []
  devices := [TrapTables.coolingUnit]
  deviceTypes := .ofRows [{ id := 1, code := "PAC", name := "Precision air conditioner" }]
  mappings :=
    [{ id := 1, deviceType := 1, trapOid := "1.3", eventCode := "PAC_ALARM_FIRED",
       eventName := "Alarm fired" }]

/-- Two traps of the PAC in one datagram.  For the first one the broker refuses the confirmation,
and the worker of the retry is killed before it asks again; the second one is stored and
confirmed. -/
def pacRun : List TrapStep :=
  let a : TrapAttempt := { db := pacTables, receivedAt := 0 }
  [.datagram "10.0.0.5" [0x30, 3, 49, 46, 51, 0x30, 3, 49, 46, 51] 2,
    .attempt 0 { a with queues := false } true,
    .attempt 0 { a with killed := some .beforePublish } true,
    .attempt 1 a true]

end DcimBackend
