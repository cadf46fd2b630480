import DcimBackend.Collectors.Polls
import DcimBackend.Library.Cutoff
import DcimBackend.Library.Table
import Mathlib.Data.List.Sort

/-!
# The poll scheduler

`enqueue_due_polls` (`collectors/scheduler/tasks.py`), on a database that answers.  The due configs
are ordered by their time and cut off at the limit before their protocols are looked at; a config
that no collector polls is passed over, and stays due.

A `Tick` is one run with its environment: the clock, the random numbers, and the order in which the
database returns configs that are due at the same time.  `enqueued_iff` is about one run and
`eventuallySelected_iff` about all that follow.

The limit is a slice of the query, so it is applied to whatever the database returns first, and
configs that are due at the same time may come in any order.  `Tick` has such an order as a field,
with the proofs that it is a permutation and sorted by time, so every theorem holds for every
order that PostgreSQL may choose.
-/

namespace DcimBackend

open Library

/-- `ProtocolType`. -/
inductive ProtocolType
  | snmp
  | modbusTcp
  | modbusRtuGateway
  | mqtt
  | httpApi
  | ping
  | manual
deriving DecidableEq

/-- `devices.PollingProfile`. -/
structure PollingProfile where
  protocol : ProtocolType
  priority : String := "NORMAL"
  intervalSeconds : ℕ := 60
  isActive : Bool := true
deriving DecidableEq

/-- `devices.DevicePollingConfig`, with its profile and whether its device is active. -/
structure ScheduledConfig where
  id : ℕ
  device : DeviceId
  deviceIsActive : Bool := true
  profile : PollingProfile
  isEnabled : Bool := true
  nextPollAt : Option Instant
deriving DecidableEq

instance : Keyed ScheduledConfig := ⟨ScheduledConfig.id⟩

@[simp] theorem pk_scheduledConfig (config : ScheduledConfig) : pk config = config.id := rfl

/-- The tasks that poll a device. -/
inductive PollTask
  | pollSnmpDevice
  | pollModbusDevice
deriving DecidableEq

/-- `apply_async`. -/
structure PollJob where
  task : PollTask
  device : DeviceId
  queue : String
deriving DecidableEq

namespace Scheduler

/-! ### One run -/

/-- `get_queue`, with Python's `str.lower`. -/
def getQueue (lower : String → String) (protocol : ProtocolType) (priority : String) : String :=
  let priority := lower (if priority = "" then "NORMAL" else priority)
  match protocol with
  | .snmp =>
      ([("high", "snmp_high"), ("normal", "snmp_normal"), ("low", "snmp_low")].lookup
        priority).getD "snmp_normal"
  | .modbusTcp =>
      ([("high", "modbus_high"), ("normal", "modbus_normal"), ("low", "modbus_low")].lookup
        priority).getD "modbus_normal"
  | _ => "default"

/-- `calculate_next_poll`, at a time and with a random number. -/
def calculateNextPoll (now : Instant) (random intervalSeconds : ℕ) : Instant :=
  let intervalSeconds := if intervalSeconds = 0 then 60 else intervalSeconds
  let jitter := random % (max 1 (min 10 (intervalSeconds / 5)) + 1)
  now + timedelta (intervalSeconds + jitter)

/-- The task for a protocol, if a collector polls it. -/
def pollTask : ProtocolType → Option PollTask
  | .snmp => some .pollSnmpDevice
  | .modbusTcp => some .pollModbusDevice
  | _ => none

/-- A collector polls the config. -/
def isPolled (config : ScheduledConfig) : Bool := (pollTask config.profile.protocol).isSome

/-- The filter of the query, apart from the time. -/
def isReady (config : ScheduledConfig) : Bool :=
  config.isEnabled && config.deviceIsActive && config.profile.isActive

/-- The config is ready and its time is not after `now`. -/
def isDue (now : Instant) (config : ScheduledConfig) : Bool :=
  isReady config && config.nextPollAt.any (· ≤ now)

/-- No later, by `next_poll_at`. -/
def NoLater (a b : ScheduledConfig) : Prop := a.nextPollAt.getD 0 ≤ b.nextPollAt.getD 0

instance : DecidableRel NoLater := fun a b =>
  inferInstanceAs (Decidable (a.nextPollAt.getD 0 ≤ b.nextPollAt.getD 0))

/-- One run, with its environment. -/
structure Tick where
  /-- `timezone.now()`, when the run begins. -/
  now : Instant
  /-- How much later the clock is when a config is enqueued, in microseconds. -/
  elapsed : ℕ → ℕ
  /-- The random number for a config. -/
  random : ℕ → ℕ
  /-- `.order_by("next_poll_at")`. -/
  orderBy : List ScheduledConfig → List ScheduledConfig
  perm : ∀ configs, (orderBy configs).Perm configs
  sorted : ∀ configs, (orderBy configs).Pairwise NoLater

/-- The new time of a config that is enqueued. -/
def Tick.nextPollAt (tick : Tick) (config : ScheduledConfig) : Instant :=
  calculateNextPoll (tick.now + tick.elapsed config.id) (tick.random config.id)
    config.profile.intervalSeconds

/-- `config.save(update_fields=["next_poll_at", "updated_at"])`, on a row. -/
def Tick.saveNext (tick : Tick) (config row : ScheduledConfig) : ScheduledConfig :=
  if row.id = config.id then { row with nextPollAt := some (tick.nextPollAt config) } else row

theorem Tick.pk_saveNext (tick : Tick) (config row : ScheduledConfig) :
    pk (tick.saveNext config row) = pk row := by
  unfold saveNext
  split <;> rfl

/-- The jobs that are enqueued, and the table. -/
abbrev Progress := List PollJob × Table ScheduledConfig

/-- The body of the loop. -/
def enqueue (lower : String → String) (tick : Tick) (progress : Progress)
    (config : ScheduledConfig) : Progress :=
  match pollTask config.profile.protocol with
  | none => progress
  | some task =>
      (progress.1 ++
        [⟨task, config.device, getQueue lower config.profile.protocol config.profile.priority⟩],
        progress.2.modify (tick.saveNext config) (tick.pk_saveNext config))

/-- The due configs, in the order of the database. -/
def dueConfigs (tick : Tick) (db : Table ScheduledConfig) : List ScheduledConfig :=
  tick.orderBy (db.rows.filter (isDue tick.now))

/-- The configs that a run looks at. -/
def selected (limit : ℕ) (tick : Tick) (db : Table ScheduledConfig) : List ScheduledConfig :=
  (dueConfigs tick db).take limit

/-- `enqueue_due_polls`: the jobs, and the table after the run. -/
def enqueueDuePolls (lower : String → String) (limit : ℕ) (tick : Tick)
    (db : Table ScheduledConfig) : Progress :=
  (selected limit tick db).foldl (enqueue lower tick) ([], db)

/-! ### What one run enqueues -/

section Run

variable {lower : String → String} {limit : ℕ} {tick : Tick} {db : Table ScheduledConfig}
variable {configs : List ScheduledConfig} {config row : ScheduledConfig} {time : Instant}

theorem length_foldl_enqueue (progress : Progress) :
    (configs.foldl (enqueue lower tick) progress).1.length =
      progress.1.length + configs.countP isPolled := by
  induction configs generalizing progress with
  | nil => rfl
  | cons config configs ih =>
      rw [List.foldl_cons, ih, List.countP_cons, isPolled, enqueue]
      cases pollTask config.profile.protocol with
      | none => rfl
      | some task =>
          rw [List.length_append]
          simp only [List.length_singleton, Option.isSome_some, if_true]
          omega

theorem length_enqueueDuePolls :
    (enqueueDuePolls lower limit tick db).1.length = (selected limit tick db).countP isPolled := by
  rw [enqueueDuePolls, length_foldl_enqueue]
  exact Nat.zero_add _

theorem perm_dueConfigs : (dueConfigs tick db).Perm (db.rows.filter (isDue tick.now)) :=
  tick.perm _

theorem mem_dueConfigs_iff : config ∈ dueConfigs tick db ↔ config ∈ db ∧ isDue tick.now config := by
  rw [perm_dueConfigs.mem_iff, List.mem_filter]
  rfl

theorem mem_of_mem_selected (h : config ∈ selected limit tick db) :
    config ∈ db ∧ isDue tick.now config :=
  mem_dueConfigs_iff.mp (List.mem_of_mem_take h)

/-! ### What one run writes -/

/-- What a run over some configs makes of a row. -/
def Tick.saved (tick : Tick) (configs : List ScheduledConfig) (row : ScheduledConfig) :
    ScheduledConfig :=
  configs.foldl (fun row config => if isPolled config then tick.saveNext config row else row) row

theorem rows_foldl_enqueue (progress : Progress) :
    (configs.foldl (enqueue lower tick) progress).2.rows =
      progress.2.rows.map (tick.saved configs) := by
  induction configs generalizing progress with
  | nil => exact (List.map_id _).symm
  | cons config configs ih =>
      rw [List.foldl_cons, ih, enqueue]
      cases htask : pollTask config.profile.protocol with
      | none =>
          refine List.map_congr_left fun row _ => ?_
          simp [Tick.saved, isPolled, htask]
      | some task =>
          rw [Table.modify, List.map_map]
          refine List.map_congr_left fun row _ => ?_
          simp [Tick.saved, isPolled, htask]

theorem rows_enqueueDuePolls :
    (enqueueDuePolls lower limit tick db).2.rows =
      db.rows.map (tick.saved (selected limit tick db)) :=
  rows_foldl_enqueue _

theorem lt_calculateNextPoll (now : ℤ) (elapsed random intervalSeconds : ℕ) :
    now < calculateNextPoll (now + (elapsed : ℤ)) random intervalSeconds := by
  unfold calculateNextPoll timedelta
  by_cases hzero : intervalSeconds = 0
  · simp only [hzero, if_true]
    omega
  · simp only [hzero, if_false]
    omega

/-- The new time is after the run. -/
theorem Tick.now_lt_nextPollAt (tick : Tick) (config : ScheduledConfig) :
    tick.now < tick.nextPollAt config :=
  lt_calculateNextPoll _ _ _ _

theorem Tick.saved_cons (tick : Tick) :
    tick.saved (config :: configs) row =
      tick.saved configs
        (if isPolled config = true ∧ row.id = config.id
          then { row with nextPollAt := some (tick.nextPollAt config) } else row) := by
  by_cases hpolled : isPolled config = true
  · simp [Tick.saved, saveNext, hpolled]
  · simp [Tick.saved, hpolled]

/-- A config that is not enqueued keeps its row. -/
theorem Tick.saved_of_forall_ne
    (h : ∀ config ∈ configs, isPolled config = true → row.id ≠ config.id) :
    tick.saved configs row = row := by
  induction configs with
  | nil => rfl
  | cons config configs ih =>
      rw [List.forall_mem_cons] at h
      rw [Tick.saved_cons, if_neg (fun hhead => h.1 hhead.1 hhead.2)]
      exact ih h.2

/-- A run writes no more of a row than its time, which is then after the run. -/
theorem Tick.saved_eq_or (tick : Tick) (configs : List ScheduledConfig) (row : ScheduledConfig) :
    tick.saved configs row = row ∨
      ∃ time, tick.now < time ∧ tick.saved configs row = { row with nextPollAt := some time } := by
  induction configs generalizing row with
  | nil => exact Or.inl rfl
  | cons config configs ih =>
      rw [Tick.saved_cons]
      split
      · rcases ih { row with nextPollAt := some (tick.nextPollAt config) } with h | h
        · exact Or.inr ⟨_, tick.now_lt_nextPollAt config, h⟩
        · exact Or.inr h
      · exact ih row

/-- A config that is enqueued is due later. -/
theorem Tick.exists_saved (tick : Tick) (h : config ∈ configs) (hpolled : isPolled config = true)
    (hid : row.id = config.id) :
    ∃ time, tick.now < time ∧ tick.saved configs row = { row with nextPollAt := some time } := by
  induction configs generalizing row with
  | nil => cases h
  | cons other configs ih =>
      rw [Tick.saved_cons]
      rcases List.mem_cons.mp h with rfl | htail
      · rw [if_pos ⟨hpolled, hid⟩]
        rcases tick.saved_eq_or configs
          { row with nextPollAt := some (tick.nextPollAt config) } with hsame | hlater
        · exact ⟨_, tick.now_lt_nextPollAt config, hsame⟩
        · exact hlater
      · split
        · have hlater := @ih { row with nextPollAt := some (tick.nextPollAt other) } htail hid
          exact hlater
        · exact ih htail hid

/-- A row that a run changes is looked at and polled. -/
theorem mem_selected_of_saved_ne (hrow : row ∈ db)
    (h : tick.saved (selected limit tick db) row ≠ row) :
    row ∈ selected limit tick db ∧ isPolled row = true := by
  by_contra hnot
  refine h (Tick.saved_of_forall_ne fun config hconfig hpolled hid => ?_)
  rw [db.eq_of_pk_eq hrow (mem_of_mem_selected hconfig).1 hid] at hnot
  exact hnot ⟨hconfig, hpolled⟩

end Run

/-! ### What the next runs find -/

/-- The table that the `n`-th run finds. -/
def stateAt (lower : String → String) (limit : ℕ) (ticks : ℕ → Tick)
    (db : Table ScheduledConfig) : ℕ → Table ScheduledConfig
  | 0 => db
  | n + 1 => (enqueueDuePolls lower limit (ticks n) (stateAt lower limit ticks db n)).2

/-- The configs that are due at a time and that no collector polls. -/
def passedOver (time : Instant) (db : Table ScheduledConfig) : ℕ :=
  db.rows.countP fun config => isDue time config && !isPolled config

section Step

variable {lower : String → String} {limit : ℕ} {tick : Tick} {db : Table ScheduledConfig}
variable {config row : ScheduledConfig} {time : Instant}

theorem isPolled_saved (tick : Tick) (configs : List ScheduledConfig) (row : ScheduledConfig) :
    isPolled (tick.saved configs row) = isPolled row := by
  rcases tick.saved_eq_or configs row with h | ⟨time, -, h⟩
  · rw [h]
  · rw [h]
    rfl

/-- What is enqueued after a time is not due at it. -/
theorem isDue_of_lt {next : Instant} (hlate : time < next) :
    isDue time { row with nextPollAt := some next } = false := by
  simp [isDue, not_le.mpr hlate]

/-- A run makes nothing due at a time that is past. -/
theorem isDue_of_isDue_saved {configs : List ScheduledConfig} (htime : time ≤ tick.now)
    (h : isDue time (tick.saved configs row) = true) : isDue time row = true := by
  rcases tick.saved_eq_or configs row with hsame | ⟨next, hnext, hlater⟩
  · rwa [hsame] at h
  · rw [hlater, isDue_of_lt (lt_of_le_of_lt htime hnext)] at h
    cases h

/-- A config that no collector polls stays as it is. -/
theorem saved_of_not_isPolled (hrow : row ∈ db) (h : isPolled row = false) :
    tick.saved (selected limit tick db) row = row := by
  by_contra hne
  rw [(mem_selected_of_saved_ne hrow hne).2] at h
  cases h

/-- No run makes fewer of the configs that are passed over, or more. -/
theorem passedOver_enqueueDuePolls (time : Instant) :
    passedOver time (enqueueDuePolls lower limit tick db).2 = passedOver time db := by
  rw [passedOver, passedOver, rows_enqueueDuePolls, List.countP_map]
  refine List.countP_congr fun row hrow => ?_
  rw [Function.comp_apply, isPolled_saved]
  cases hpolled : isPolled row with
  | false => rw [saved_of_not_isPolled hrow hpolled]
  | true => simp

/-- A config that a run does not look at stays. -/
theorem mem_enqueueDuePolls (hconfig : config ∈ db) (h : config ∉ selected limit tick db) :
    config ∈ (enqueueDuePolls lower limit tick db).2 := by
  rw [Table.mem_def, rows_enqueueDuePolls, List.mem_map]
  refine ⟨config, hconfig, ?_⟩
  by_contra hne
  exact h (mem_selected_of_saved_ne hconfig hne).1

theorem isDue_mono {now : Instant} (htime : time ≤ now) (h : isDue time config = true) :
    isDue now config = true := by
  simp only [isDue, Bool.and_eq_true, Option.any_eq_true, decide_eq_true_eq] at h ⊢
  obtain ⟨hready, next, hnext, hle⟩ := h
  exact ⟨hready, next, hnext, le_trans hle htime⟩

/-- A run that does not look at a due config looks at others instead, none of them later, … -/
theorem selected_of_notMem (hconfig : config ∈ db) (htime : config.nextPollAt = some time)
    (hdue : isDue tick.now config = true) (hnot : config ∉ selected limit tick db) :
    (selected limit tick db).length = limit ∧
      ∀ other ∈ selected limit tick db, isDue time other = true := by
  have hmem : config ∈ dueConfigs tick db := mem_dueConfigs_iff.mpr ⟨hconfig, hdue⟩
  obtain ⟨hlength, hearlier⟩ := le_of_mem_take_of_notMem (tick.sorted _) hmem hnot
  refine ⟨hlength, fun other hother => ?_⟩
  have hotherDue := (mem_of_mem_selected hother).2
  have hle : NoLater other config := hearlier other hother
  simp only [isDue, Bool.and_eq_true, Option.any_eq_true, decide_eq_true_eq] at hotherDue ⊢
  obtain ⟨hready, next, hnext, -⟩ := hotherDue
  rw [NoLater, hnext, htime] at hle
  exact ⟨hready, next, hnext, hle⟩

/-- … and one of them is enqueued, if there are few that are passed over. -/
theorem exists_polled_of_notMem (hconfig : config ∈ db) (htime : config.nextPollAt = some time)
    (hdue : isDue tick.now config = true) (hfew : passedOver time db < limit)
    (hnot : config ∉ selected limit tick db) :
    ∃ other ∈ selected limit tick db, isPolled other = true ∧ isDue time other = true := by
  obtain ⟨hlength, hearlier⟩ := selected_of_notMem hconfig htime hdue hnot
  by_contra hnone
  push Not at hnone
  have hall : (selected limit tick db).countP
      (fun config => isDue time config && !isPolled config) = limit := by
    refine (List.countP_eq_length.mpr fun other hother => ?_).trans hlength
    have hdueOther := hearlier other hother
    have hpolled : isPolled other ≠ true := fun hpolled => hnone other hother hpolled hdueOther
    simp [hdueOther, hpolled]
  have hle : limit ≤ passedOver time db := by
    rw [← hall]
    calc (selected limit tick db).countP (fun config => isDue time config && !isPolled config)
        ≤ (dueConfigs tick db).countP (fun config => isDue time config && !isPolled config) :=
          (List.take_sublist _ _).countP_le
      _ = (db.rows.filter (isDue tick.now)).countP
            (fun config => isDue time config && !isPolled config) := perm_dueConfigs.countP_eq _
      _ ≤ passedOver time db := List.filter_sublist.countP_le
  omega

/-- As long as a config waits, the configs that are due no later become fewer. -/
theorem countP_isDue_lt (hconfig : config ∈ db) (htime : config.nextPollAt = some time)
    (hnow : time ≤ tick.now) (hdue : isDue tick.now config = true)
    (hfew : passedOver time db < limit) (hnot : config ∉ selected limit tick db) :
    (enqueueDuePolls lower limit tick db).2.rows.countP (isDue time) <
      db.rows.countP (isDue time) := by
  obtain ⟨other, hother, hpolled, hotherDue⟩ :=
    exists_polled_of_notMem hconfig htime hdue hfew hnot
  obtain ⟨next, hnext, hsaved⟩ :=
    tick.exists_saved hother hpolled (rfl : other.id = other.id)
  rw [rows_enqueueDuePolls, List.countP_map]
  refine countP_lt_countP (fun row _ => isDue_of_isDue_saved hnow)
    (mem_of_mem_selected hother).1 hotherDue ?_
  rw [Function.comp_apply, hsaved]
  exact isDue_of_lt (lt_of_le_of_lt hnow hnext)

end Step

section Runs

variable {lower : String → String} {limit : ℕ} {ticks : ℕ → Tick} {clock : ℕ → Instant}
variable {db : Table ScheduledConfig} {config : ScheduledConfig} {time : Instant}

theorem stateAt_succ (n : ℕ) :
    stateAt lower limit ticks db (n + 1) =
      (enqueueDuePolls lower limit (ticks n) (stateAt lower limit ticks db n)).2 := rfl

theorem passedOver_stateAt (n : ℕ) :
    passedOver time (stateAt lower limit ticks db n) = passedOver time db := by
  induction n with
  | zero => rfl
  | succ n ih => rw [stateAt_succ, passedOver_enqueueDuePolls, ih]

/-- A config stays as long as no run looks at it. -/
theorem mem_stateAt (hconfig : config ∈ db) (n : ℕ)
    (h : ∀ k < n, config ∉ selected limit (ticks k) (stateAt lower limit ticks db k)) :
    config ∈ stateAt lower limit ticks db n := by
  induction n with
  | zero => exact hconfig
  | succ n ih =>
      rw [stateAt_succ]
      exact mem_enqueueDuePolls (ih fun k hk => h k (by omega)) (h n (by omega))

/-- A due config is looked at sooner or later, if there are few that are passed over. -/
theorem exists_mem_selected (hclock : ∀ m n, m ≤ n → clock m ≤ clock n)
    (hticks : ∀ n, (ticks n).now = clock n)
    (hconfig : config ∈ db) (htime : config.nextPollAt = some time)
    (hdue : isDue (clock 0) config = true) (hfew : passedOver time db < limit) :
    ∃ n, config ∈ selected limit (ticks n) (stateAt lower limit ticks db n) := by
  by_contra hnever
  push Not at hnever
  have hle : time ≤ clock 0 := by
    simpa [isDue, htime] using (Bool.and_eq_true_iff.mp hdue).2
  have hstep : ∀ n, (stateAt lower limit ticks db (n + 1)).rows.countP (isDue time) <
      (stateAt lower limit ticks db n).rows.countP (isDue time) := by
    intro n
    have hnow : clock 0 ≤ (ticks n).now := by
      rw [hticks]
      exact hclock 0 n (Nat.zero_le n)
    refine countP_isDue_lt (mem_stateAt hconfig n fun k _ => hnever k) htime (le_trans hle hnow)
      (isDue_mono hnow hdue) ?_ (hnever n)
    rwa [passedOver_stateAt]
  have hbound : ∀ n, (stateAt lower limit ticks db n).rows.countP (isDue time) + n ≤
      db.rows.countP (isDue time) := by
    intro n
    induction n with
    | zero => exact le_rfl
    | succ n ih =>
        have := hstep n
        omega
  have := hbound (db.rows.countP (isDue time) + 1)
  omega

/-! ### A database that returns the other configs first -/

/-- By time, and at one time what no collector polls first. -/
def OthersFirst (a b : ScheduledConfig) : Prop :=
  a.nextPollAt.getD 0 < b.nextPollAt.getD 0 ∨
    a.nextPollAt.getD 0 = b.nextPollAt.getD 0 ∧ (isPolled a = true → isPolled b = true)

instance : DecidableRel OthersFirst := fun a b =>
  inferInstanceAs (Decidable (a.nextPollAt.getD 0 < b.nextPollAt.getD 0 ∨
    a.nextPollAt.getD 0 = b.nextPollAt.getD 0 ∧ (isPolled a = true → isPolled b = true)))

theorem OthersFirst.refl (a : ScheduledConfig) : OthersFirst a a := Or.inr ⟨rfl, id⟩

theorem OthersFirst.noLater {a b : ScheduledConfig} (h : OthersFirst a b) : NoLater a b :=
  h.elim le_of_lt fun hsame => le_of_eq hsame.1

theorem OthersFirst.trans {a b c : ScheduledConfig} (hab : OthersFirst a b)
    (hbc : OthersFirst b c) : OthersFirst a c := by
  rcases hab with hab | ⟨hab, hpolled⟩
  · exact Or.inl (lt_of_lt_of_le hab hbc.noLater)
  · rcases hbc with hbc | ⟨hbc, hpolled'⟩
    · exact Or.inl (hab ▸ hbc)
    · exact Or.inr ⟨hab.trans hbc, hpolled' ∘ hpolled⟩

theorem OthersFirst.total (a b : ScheduledConfig) : OthersFirst a b ∨ OthersFirst b a := by
  rcases lt_trichotomy (a.nextPollAt.getD 0) (b.nextPollAt.getD 0) with h | h | h
  · exact Or.inl (Or.inl h)
  · by_cases ha : isPolled a = true
    · exact Or.inr (Or.inr ⟨h.symm, fun _ => ha⟩)
    · exact Or.inl (Or.inr ⟨h, fun hpolled => absurd hpolled ha⟩)
  · exact Or.inr (Or.inl h)

instance : Std.Total OthersFirst := ⟨OthersFirst.total⟩

instance : IsTrans ScheduledConfig OthersFirst := ⟨fun _ _ _ => OthersFirst.trans⟩

/-- A run on such a database. -/
def othersFirstTick (now : Instant) : Tick where
  now := now
  elapsed := fun _ => 0
  random := fun _ => 0
  orderBy := fun configs => configs.insertionSort OthersFirst
  perm := List.perm_insertionSort OthersFirst
  sorted := fun configs => (List.pairwise_insertionSort OthersFirst configs).imp OthersFirst.noLater

/-- A config that is passed over comes before a polled one that is due no earlier. -/
theorem not_othersFirst {other : ScheduledConfig} (htime : config.nextPollAt = some time)
    (hpolled : isPolled config = true) (hdue : isDue time other = true)
    (hother : isPolled other = false) : ¬OthersFirst config other := by
  simp only [isDue, Bool.and_eq_true, Option.any_eq_true, decide_eq_true_eq] at hdue
  obtain ⟨-, next, hnext, hle⟩ := hdue
  rintro (hlt | ⟨-, himp⟩)
  · rw [htime, hnext] at hlt
    exact not_lt_of_ge hle hlt
  · rw [himp hpolled] at hother
    cases hother

/-- Such a run looks at a polled config only if there are few that are passed over. -/
theorem passedOver_lt_of_mem_selected {now : Instant} (htime : config.nextPollAt = some time)
    (hnow : time ≤ now) (hpolled : isPolled config = true)
    (h : config ∈ selected limit (othersFirstTick now) db) : passedOver time db < limit := by
  refine lt_of_le_of_lt ?_
    (countP_lt_of_mem_take (List.pairwise_insertionSort OthersFirst _) (OthersFirst.refl config) h)
  change passedOver time db ≤ (dueConfigs (othersFirstTick now) db).countP _
  rw [perm_dueConfigs.countP_eq, List.countP_filter]
  refine List.countP_mono_left fun other _ hother => ?_
  rw [Bool.and_eq_true, Bool.not_eq_true'] at hother
  simp only [Bool.and_eq_true, decide_eq_true_eq]
  exact ⟨not_othersFirst htime hpolled hother.1 hother.2, isDue_mono hnow hother.1⟩

/-- **A due config that a collector polls is looked at by one of the next runs, however the
database orders configs that are due at the same time, exactly if fewer configs than the limit are
due no later and passed over.** -/
theorem eventuallySelected_iff (hclock : ∀ m n, m ≤ n → clock m ≤ clock n) (hconfig : config ∈ db)
    (hdue : isDue (clock 0) config = true) (hpolled : isPolled config = true)
    (htime : config.nextPollAt = some time) :
    (∀ ticks : ℕ → Tick, (∀ n, (ticks n).now = clock n) →
        ∃ n, config ∈ selected limit (ticks n) (stateAt lower limit ticks db n)) ↔
      passedOver time db < limit := by
  constructor
  · intro h
    obtain ⟨n, hn⟩ := h (fun n => othersFirstTick (clock n)) (fun _ => rfl)
    have hle : time ≤ clock 0 := by
      simpa [isDue, htime] using (Bool.and_eq_true_iff.mp hdue).2
    have hlt := passedOver_lt_of_mem_selected htime (le_trans hle (hclock 0 n (Nat.zero_le n)))
      hpolled hn
    rwa [passedOver_stateAt] at hlt
  · intro hfew ticks hticks
    exact exists_mem_selected hclock hticks hconfig htime hdue hfew

end Runs

/-- **One run enqueues as many configs as it could exactly if what it looks at is all polled, or
nothing that is polled is left behind the limit.** -/
theorem enqueued_iff (lower : String → String) (limit : ℕ) (tick : Tick)
    (db : Table ScheduledConfig) :
    (enqueueDuePolls lower limit tick db).1.length =
        min limit (db.rows.countP fun config => isPolled config && isDue tick.now config) ↔
      (∀ config ∈ selected limit tick db, isPolled config = true) ∨
        ∀ config ∈ (dueConfigs tick db).drop limit, isPolled config = false := by
  have hall : (dueConfigs tick db).countP isPolled =
      db.rows.countP fun config => isPolled config && isDue tick.now config := by
    rw [perm_dueConfigs.countP_eq, List.countP_filter]
  rw [length_enqueueDuePolls, ← hall]
  exact countP_take_eq_min_iff

/-- **What a run enqueues, and what all runs look at.** -/
theorem enqueueDuePolls_iff (lower : String → String) (limit : ℕ) (db : Table ScheduledConfig) :
    (∀ tick : Tick,
      ((enqueueDuePolls lower limit tick db).1.length =
          min limit (db.rows.countP fun config => isPolled config && isDue tick.now config) ↔
        (∀ config ∈ selected limit tick db, isPolled config = true) ∨
          ∀ config ∈ (dueConfigs tick db).drop limit, isPolled config = false)) ∧
      ∀ clock : ℕ → Instant, (∀ m n, m ≤ n → clock m ≤ clock n) →
        ∀ config ∈ db, isDue (clock 0) config = true → isPolled config = true →
          ∀ time, config.nextPollAt = some time →
            ((∀ ticks : ℕ → Tick, (∀ n, (ticks n).now = clock n) →
                ∃ n, config ∈ selected limit (ticks n) (stateAt lower limit ticks db n)) ↔
              passedOver time db < limit) :=
  ⟨fun tick => enqueued_iff lower limit tick db,
    fun _ hclock _ hconfig hdue hpolled _ htime =>
      eventuallySelected_iff hclock hconfig hdue hpolled htime⟩

/-- A config for SNMP that is due at 10, … -/
def snmpConfig : ScheduledConfig where
  id := 2
  device := 2
  profile := { protocol := .snmp }
  nextPollAt := some 10

/-- … and one that no collector polls, due before it. -/
def backlog : Table ScheduledConfig where
  rows := [{ id := 1, device := 1, profile := { protocol := .ping }, nextPollAt := some 0 },
    snmpConfig]
  nextPk := 3
  pk_lt_nextPk := by decide
  nodup_pk := by decide

/-- With a limit of two the config is looked at. -/
theorem enqueueDuePolls_iff_backlog :
    ∃ n, snmpConfig ∈ selected 2 (othersFirstTick 10)
      (stateAt id 2 (fun _ => othersFirstTick 10) backlog n) :=
  ((enqueueDuePolls_iff id 2 backlog).2 (fun _ => 10) (fun _ _ _ => le_rfl) snmpConfig (by decide)
    (by decide) rfl 10 rfl).mpr (by decide) _ fun _ => rfl

/-- With a limit of one it is not enqueued, and never looked at. -/
theorem starves :
    (enqueueDuePolls id 1 (othersFirstTick 10) backlog).1.length ≠
        min 1 (backlog.rows.countP fun config => isPolled config && isDue 10 config) ∧
      ∀ n : ℕ, snmpConfig ∉ selected 1 (othersFirstTick (10 + n))
        (stateAt id 1 (fun k => othersFirstTick (10 + k)) backlog n) := by
  refine ⟨by decide, fun n h => ?_⟩
  have hlt := passedOver_lt_of_mem_selected (rfl : snmpConfig.nextPollAt = some 10) (by simp) rfl h
  rw [passedOver_stateAt] at hlt
  exact absurd hlt (by decide)

end Scheduler

end DcimBackend
