import DcimBackend.Access.Hierarchy
import DcimBackend.Library.Lease
import DcimBackend.Library.Run
import Mathlib.Algebra.Group.Nat.Defs

/-!
# Poll locks

The locks of `collectors/common/locks.py`, and the order in which `poll_modbus_device`
(`collectors/modbus_collector/services.py`) takes and releases them.  The cache entries are the
leases of `Library.Lease`; their owner is not in the source, where every entry holds `"1"`.

Any number of polls run at once, and time passes between any two of their steps.  A poll may be
stopped at any step: inside its `try` block it goes on with the `finally` block (`finish`),
outside of it, or if the worker is killed, it leaves its locks behind (`die`), and if it is
stopped after `cache.add` and before the result is kept, it leaves that lock behind (`lose`).

The owner of a lock is part of the model and not of the cache, in which every entry holds the same
text: `cache.delete` removes whatever is stored.  So the model can say whose lock a poll deletes,
and the theorem does not assume what the code cannot check.

Time is a step, of any length.  The task of a poll has a soft limit of 45 seconds, and the lease
of a gateway may be as short as 20, so a poll may outlast it; `Prompt` is the condition under
which the leases are long enough.
-/

namespace DcimBackend

open Library

/-- The keys of the locks.  The last colon of the gateway's key ends the host. -/
inductive PollLock
  | device (id : DeviceId)
  | modbusGateway (host : String) (port : ℕ)
deriving DecidableEq

/-- A call of `poll_modbus_device`: the device, and its enabled Modbus protocol config. -/
structure ModbusCall where
  device : DeviceId
  host : String
  port : Option ℕ
  timeoutSeconds : ℕ

namespace ModbusCall

/-- `protocol_config.port or 502`. -/
def portOrDefault (c : ModbusCall) : ℕ :=
  match c.port with
  | none | some 0 => 502
  | some port => port

def deviceLock (c : ModbusCall) : PollLock := .device c.device

def gatewayLock (c : ModbusCall) : PollLock := .modbusGateway c.host c.portOrDefault

end ModbusCall

/-- The clock counts microseconds. -/
def seconds (n : ℕ) : ℕ := n * 1000000

/-- `timeout=120`. -/
def devicePollTimeout : ℕ := seconds 120

/-- `timeout=max(protocol_config.timeout_seconds * 4, 20)`. -/
def gatewayTimeout (c : ModbusCall) : ℕ := seconds (max (c.timeoutSeconds * 4) 20)

/-- Where a poll stands. -/
inductive PollStage
  | ended
  | called
  /-- In the `try` block, with no client yet. -/
  | polling
  /-- The client has connected. -/
  | talking
  /-- In the `finally` block, after `client.close()`. -/
  | closing
deriving DecidableEq

structure ModbusPoll where
  call : ModbusCall
  stage : PollStage
  gatewayLocked : Bool

/-- The cache and the polls. -/
structure PollSystem where
  leases : Leases PollLock
  polls : ℕ → ModbusPoll

inductive PollEvent
  | call (p : ℕ)
  /-- `acquire_device_poll_lock`. -/
  | takeDevice (p : ℕ)
  /-- `acquire_modbus_gateway_lock`. -/
  | takeGateway (p : ℕ)
  /-- Stopped when one of them has added its entry. -/
  | lose (p : ℕ)
  | connect (p : ℕ)
  /-- The `try` block is left, and the client closed. -/
  | finish (p : ℕ)
  | releaseGateway (p : ℕ)
  /-- `release_modbus_gateway_lock` fails, which is ignored. -/
  | keepGateway (p : ℕ)
  | releaseDevice (p : ℕ)
  | die (p : ℕ)
  | advance (d : ℕ)

/-- The poll that makes the step. -/
def PollEvent.actor : PollEvent → Option ℕ
  | .call p | .takeDevice p | .takeGateway p | .lose p | .connect p | .finish p
  | .releaseGateway p | .keepGateway p | .releaseDevice p | .die p => some p
  | .advance _ => none

namespace PollSystem

/-- The cache is empty, and no poll has been called. -/
def start (now : ℕ) (calls : ℕ → ModbusCall) : PollSystem where
  leases := .start now
  polls p := ⟨calls p, .ended, false⟩

/-- A poll goes on. -/
def next (s : PollSystem) (leases : Leases PollLock) (p : ℕ) (poll : ModbusPoll) : PollSystem where
  leases := leases
  polls := Function.update s.polls p poll

/-- The lock that a poll tries to take next, and its timeout. -/
def wanted (poll : ModbusPoll) : Option (PollLock × ℕ) :=
  match poll.stage with
  | .called => some (poll.call.deviceLock, devicePollTimeout)
  | .polling =>
      if poll.gatewayLocked then none else some (poll.call.gatewayLock, gatewayTimeout poll.call)
  | _ => none

def step (s : PollSystem) : PollEvent → PollSystem
  | .call p =>
      let poll := s.polls p
      match poll.stage with
      | .ended => s.next s.leases p { poll with stage := .called }
      | _ => s
  | .takeDevice p =>
      let poll := s.polls p
      match poll.stage with
      | .called =>
          if (s.leases.live poll.call.deviceLock).isNone then
            s.next (s.leases.put p poll.call.deviceLock devicePollTimeout) p
              { poll with stage := .polling }
          else
            -- "Device already being polled"
            s.next s.leases p { poll with stage := .ended }
      | _ => s
  | .takeGateway p =>
      let poll := s.polls p
      match poll.stage, poll.gatewayLocked with
      | .polling, false =>
          if (s.leases.live poll.call.gatewayLock).isNone then
            s.next (s.leases.put p poll.call.gatewayLock (gatewayTimeout poll.call)) p
              { poll with gatewayLocked := true }
          else
            -- "Modbus gateway busy"
            s.next s.leases p { poll with stage := .closing }
      | _, _ => s
  | .lose p =>
      let poll := s.polls p
      match wanted poll with
      | some (lock, timeout) =>
          if (s.leases.live lock).isNone then
            s.next (s.leases.putEntry p lock timeout) p
              { poll with stage := if poll.stage = .called then .ended else .closing }
          else s
      | none => s
  | .connect p =>
      let poll := s.polls p
      match poll.stage, poll.gatewayLocked with
      | .polling, true => s.next s.leases p { poll with stage := .talking }
      | _, _ => s
  | .finish p =>
      let poll := s.polls p
      match poll.stage with
      | .polling | .talking => s.next s.leases p { poll with stage := .closing }
      | _ => s
  | .releaseGateway p =>
      let poll := s.polls p
      match poll.stage, poll.gatewayLocked with
      | .closing, true =>
          s.next (s.leases.delete p poll.call.gatewayLock) p { poll with gatewayLocked := false }
      | _, _ => s
  | .keepGateway p =>
      let poll := s.polls p
      match poll.stage, poll.gatewayLocked with
      | .closing, true =>
          s.next (s.leases.forget p poll.call.gatewayLock) p { poll with gatewayLocked := false }
      | _, _ => s
  | .releaseDevice p =>
      let poll := s.polls p
      match poll.stage, poll.gatewayLocked with
      | .closing, false =>
          s.next (s.leases.delete p poll.call.deviceLock) p { poll with stage := .ended }
      | _, _ => s
  | .die p =>
      let poll := s.polls p
      s.next ((s.leases.forget p poll.call.gatewayLock).forget p poll.call.deviceLock) p
        { poll with stage := .ended, gatewayLocked := false }
  | .advance d => { s with leases := s.leases.advance d }

/-- The poll talks to the gateway of a lock. -/
def TalksTo (s : PollSystem) (p : ℕ) (lock : PollLock) : Prop :=
  (s.polls p).stage = .talking ∧ (s.polls p).call.gatewayLock = lock

/-- No two polls talk to one gateway. -/
def GatewaysExclusive (s : PollSystem) : Prop :=
  ∀ p q lock, s.TalksTo p lock → s.TalksTo q lock → p = q

/-- A poll's step leaves the locks of the other polls in place. -/
def KeepsOthers (s : PollSystem) (e : PollEvent) (s' : PollSystem) : Prop :=
  ∀ p, e.actor = some p → ∀ lock lease, s.leases.live lock = some lease → lease.owner ≠ p →
    s'.leases.live lock = some lease

/-- The lock that a step takes. -/
def taken (s : PollSystem) : PollEvent → Option PollLock
  | .takeDevice p | .takeGateway p | .lose p =>
      (wanted (s.polls p)).bind fun want =>
        if (s.leases.live want.1).isNone then some want.1 else none
  | _ => none

/-- No lock is taken that another poll has let expire and not released yet. -/
def TakesReleased (s : PollSystem) (e : PollEvent) : Prop :=
  ∀ lock, s.taken e = some lock → ∀ q, ¬s.leases.Overrun q lock

/-! ### The invariant -/

/-- A poll holds the locks that its `finally` block is going to release, and talks only while it
holds the lock of its gateway. -/
structure Holds (held : PollLock → Option ℕ) (poll : ModbusPoll) : Prop where
  gateway : poll.gatewayLocked = true → (held poll.call.gatewayLock).isSome
  device : poll.stage = .polling ∨ poll.stage = .talking ∨ poll.stage = .closing →
    (held poll.call.deviceLock).isSome
  talking : poll.stage = .talking → poll.gatewayLocked = true
  outside : poll.stage = .ended ∨ poll.stage = .called → poll.gatewayLocked = false

structure Consistent (s : PollSystem) : Prop where
  leases : s.leases.Exclusive
  polls : ∀ p, Holds (s.leases.held p) (s.polls p)

theorem consistent_start (now : ℕ) (calls : ℕ → ModbusCall) : (start now calls).Consistent where
  leases := Leases.exclusive_start now
  polls _ := ⟨by simp [start], by simp [start], by simp [start], by simp [start]⟩

variable {s : PollSystem} {p : ℕ} {poll : ModbusPoll} {leases : Leases PollLock} {e : PollEvent}

theorem deviceLock_ne_gatewayLock (c c' : ModbusCall) : c.deviceLock ≠ c'.gatewayLock := by
  intro h
  cases h

/-- Two polls that talk to one gateway hold its lock both. -/
theorem Consistent.gatewaysExclusive (h : s.Consistent) : s.GatewaysExclusive := by
  rintro p q lock ⟨hp, rfl⟩ ⟨hq, hlock⟩
  have hp' := (h.polls p).gateway ((h.polls p).talking hp)
  have hq' := (h.polls q).gateway ((h.polls q).talking hq)
  rw [hlock] at hq'
  exact h.leases.unique p q _ hp' hq'

/-- What a step keeps. -/
structure Kept (s : PollSystem) (e : PollEvent) (s' : PollSystem) : Prop where
  consistent : s'.Consistent
  others : s.KeepsOthers e s'

/-- A step that does nothing. -/
theorem Consistent.kept_self (h : s.Consistent) (e : PollEvent) : s.Kept e s where
  consistent := h
  others _ _ _ _ hlive _ := hlive

/-- A fair step of a poll, which then holds what its stage requires. -/
theorem Consistent.kept_next (h : s.Consistent) (hactor : e.actor = some p)
    (hfair : Leases.Fair p s.leases leases) (hpoll : Holds (leases.held p) poll) :
    s.Kept e (s.next leases p poll) where
  consistent := by
    refine ⟨hfair.exclusive, ?_⟩
    intro q
    change Holds (leases.held q) (Function.update s.polls p poll q)
    by_cases hq : q = p
    · subst hq
      rw [Function.update_self]
      exact hpoll
    · rw [Function.update_of_ne hq, hfair.held q hq]
      exact h.polls q
  others := by
    intro q hq lock lease hlive howner
    obtain rfl : p = q := Option.some.inj (hactor.symm.trans hq)
    exact hfair.entries lock lease hlive howner

/-- What the `finally` block still has to release stays held when the poll leaves the `try`
block. -/
theorem Holds.close {held : PollLock → Option ℕ} (h : Holds held poll)
    (hrunning : poll.stage = .polling ∨ poll.stage = .talking) :
    Holds held { poll with stage := .closing } where
  gateway := h.gateway
  device _ := h.device (hrunning.imp_right .inl)
  talking := by simp
  outside := by simp

/-- Outside of the `try` block, a poll without the lock of its gateway has to hold nothing. -/
theorem Holds.idle {held : PollLock → Option ℕ} (hunlocked : poll.gatewayLocked = false)
    (hstage : poll.stage = .ended ∨ poll.stage = .called) : Holds held poll where
  gateway := by simp [hunlocked]
  device := by rcases hstage with hstage | hstage <;> simp [hstage]
  talking := by rcases hstage with hstage | hstage <;> simp [hstage]
  outside _ := hunlocked

/-- The lock of the gateway is given up in the `finally` block, and that of the device is kept. -/
theorem Holds.unlock {held held' : PollLock → Option ℕ} (h : Holds held poll)
    (hstage : poll.stage = .closing)
    (hdevice : held' poll.call.deviceLock = held poll.call.deviceLock) :
    Holds held' { poll with gatewayLocked := false } where
  gateway := by simp
  device _ := by
    rw [hdevice]
    exact h.device (.inr (.inr hstage))
  talking := by simp [hstage]
  outside _ := rfl

/-- A poll that is stopped when it has added an entry holds what it held before. -/
theorem Holds.lose {held : PollLock → Option ℕ} {want : PollLock × ℕ} (h : Holds held poll)
    (hwanted : wanted poll = some want) :
    Holds held { poll with stage := if poll.stage = .called then .ended else .closing } := by
  cases hstage : poll.stage with
  | called => exact .idle (h.outside (.inr hstage)) (.inl rfl)
  | polling => exact h.close (.inl hstage)
  | ended | talking | closing => simp [wanted, hstage] at hwanted

/-- A poll takes the lock of its device, or ends. -/
theorem Consistent.kept_takeDevice (h : s.Consistent) (p : ℕ)
    (htakes : s.TakesReleased (.takeDevice p)) :
    s.Kept (.takeDevice p) (s.step (.takeDevice p)) := by
  unfold step
  dsimp only
  split
  · rename_i hstage
    have hout := (h.polls p).outside (.inr hstage)
    split
    · rename_i hnone
      have hfree := Option.isNone_iff_eq_none.mp hnone
      have hover := htakes (s.polls p).call.deviceLock (by simp [taken, wanted, hstage, hfree])
      refine h.kept_next rfl (h.leases.fair_put hfree hover p _)
        ⟨by simp [hout], ?_, by simp, by simp⟩
      intro _
      rw [Leases.held_put, if_pos ⟨rfl, rfl⟩]
      rfl
    · exact h.kept_next rfl (h.leases.fair_self p) (.idle hout (.inl rfl))
  · exact h.kept_self _

/-- A poll takes the lock of its gateway, or leaves the `try` block. -/
theorem Consistent.kept_takeGateway (h : s.Consistent) (p : ℕ)
    (htakes : s.TakesReleased (.takeGateway p)) :
    s.Kept (.takeGateway p) (s.step (.takeGateway p)) := by
  unfold step
  dsimp only
  split
  · rename_i hstage hunlocked
    have hdevice := (h.polls p).device (.inl hstage)
    split
    · rename_i hnone
      have hfree := Option.isNone_iff_eq_none.mp hnone
      have hover := htakes (s.polls p).call.gatewayLock
        (by simp [taken, wanted, hstage, hunlocked, hfree])
      refine h.kept_next rfl (h.leases.fair_put hfree hover p _)
        ⟨?_, ?_, by simp, by simp [hstage]⟩
      · intro _
        rw [Leases.held_put, if_pos ⟨rfl, rfl⟩]
        rfl
      · intro _
        rw [Leases.held_put, if_neg fun hlock => deviceLock_ne_gatewayLock _ _ hlock.2]
        exact hdevice
    · exact h.kept_next rfl (h.leases.fair_self p) ((h.polls p).close (.inl hstage))
  · exact h.kept_self _

/-- **One step**, if it takes no lock that another poll has let expire. -/
theorem Consistent.kept_step (h : s.Consistent) (e : PollEvent) (htakes : s.TakesReleased e) :
    s.Kept e (s.step e) := by
  cases e with
  | call p =>
      unfold step
      dsimp only
      split
      · rename_i hstage
        exact h.kept_next rfl (h.leases.fair_self p)
          (.idle ((h.polls p).outside (.inl hstage)) (.inr rfl))
      · exact h.kept_self _
  | takeDevice p => exact h.kept_takeDevice p htakes
  | takeGateway p => exact h.kept_takeGateway p htakes
  | lose p =>
      unfold step
      dsimp only
      split
      · rename_i lock timeout hwanted
        split
        · rename_i hnone
          have hfree := Option.isNone_iff_eq_none.mp hnone
          have hover := htakes lock (by simp [taken, hwanted, hfree])
          exact h.kept_next rfl (h.leases.fair_putEntry hfree hover p timeout)
            ((h.polls p).lose hwanted)
        · exact h.kept_self _
      · exact h.kept_self _
  | connect p =>
      unfold step
      dsimp only
      split
      · rename_i hstage hlocked
        refine h.kept_next rfl (h.leases.fair_self p)
          ⟨(h.polls p).gateway, fun _ => (h.polls p).device (.inl hstage), fun _ => hlocked, by simp⟩
      · exact h.kept_self _
  | finish p =>
      unfold step
      dsimp only
      split
      · rename_i hstage
        exact h.kept_next rfl (h.leases.fair_self p) ((h.polls p).close (.inl hstage))
      · rename_i hstage
        exact h.kept_next rfl (h.leases.fair_self p) ((h.polls p).close (.inr hstage))
      · exact h.kept_self _
  | releaseGateway p =>
      unfold step
      dsimp only
      split
      · rename_i hstage hlocked
        exact h.kept_next rfl (h.leases.fair_delete ((h.polls p).gateway hlocked))
          ((h.polls p).unlock hstage
            (Leases.held_delete_of_ne_key (deviceLock_ne_gatewayLock _ _)))
      · exact h.kept_self _
  | keepGateway p =>
      unfold step
      dsimp only
      split
      · rename_i hstage hlocked
        exact h.kept_next rfl (h.leases.fair_forget p _)
          ((h.polls p).unlock hstage
            (Leases.held_forget_of_ne_key (deviceLock_ne_gatewayLock _ _)))
      · exact h.kept_self _
  | releaseDevice p =>
      unfold step
      dsimp only
      split
      · rename_i hstage hunlocked
        exact h.kept_next rfl (h.leases.fair_delete ((h.polls p).device (.inr (.inr hstage))))
          (.idle hunlocked (.inl rfl))
      · exact h.kept_self _
  | die p =>
      have hforget := h.leases.fair_forget p (s.polls p).call.gatewayLock
      exact h.kept_next rfl (hforget.trans (hforget.exclusive.fair_forget p _))
        (.idle rfl (.inl rfl))
  | advance d =>
      refine ⟨⟨h.leases.advance d, h.polls⟩, ?_⟩
      intro p hp
      cases hp

/-! ### Runs -/

/-- What a run should do at each step: leave the locks of the other polls in place, and have no
two polls talk to one gateway. -/
def Excludes (s : PollSystem) (e : PollEvent) (s' : PollSystem) : Prop :=
  s.KeepsOthers e s' ∧ s'.GatewaysExclusive

/-- **Gateway exclusion**: as long as no poll takes a lock that another one has let expire and
not released yet, no two polls talk to one gateway, and none deletes the lock of another. -/
theorem excludes_of_takesReleased (now : ℕ) (calls : ℕ → ModbusCall) (w : List PollEvent)
    (h : Along step (fun s e _ => s.TakesReleased e) (start now calls) w) :
    Along step Excludes (start now calls) w := by
  have hkeep : ∀ s e, Consistent s → s.TakesReleased e → (s.step e).Consistent :=
    fun _ e hs htakes => (hs.kept_step e htakes).consistent
  refine along_mono hkeep ?_ (consistent_start now calls) h
  intro s e hs htakes
  have hkept := hs.kept_step e htakes
  exact ⟨hkept.others, hkept.consistent.gatewaysExclusive⟩

/-- Every poll releases its locks in time: at no step is one held whose time is over. -/
def Prompt (s : PollSystem) : Prop := ∀ p lock, ¬s.leases.Overrun p lock

/-- Prompt polls let no lock expire. -/
theorem takesReleased_of_prompt (now : ℕ) (calls : ℕ → ModbusCall) (w : List PollEvent)
    (h : Along step (fun _ _ s' => s'.Prompt) (start now calls) w) :
    Along step (fun s e _ => s.TakesReleased e) (start now calls) w := by
  have hstart : (start now calls).Prompt := by
    rintro p lock ⟨t, ht, -⟩
    cases ht
  refine along_mono (I := Prompt) (fun _ _ _ hprompt => hprompt) ?_ hstart h
  intro s e hs _ lock _ q
  exact hs q lock

/-! ### Two devices behind one gateway -/

/-- The default timeout of five seconds, for both. -/
def twoDevices (p : ℕ) : ModbusCall := ⟨p, "10.0.0.5", none, 5⟩

/-- A poll, and one of the other device while the first one talks. -/
def quickPoll : List PollEvent :=
  [.call 0, .takeDevice 0, .takeGateway 0, .connect 0, .advance (seconds 5),
    .call 1, .takeDevice 1, .takeGateway 1]

theorem quickPoll_takesReleased :
    Along step (fun s e _ => s.TakesReleased e) (start 0 twoDevices) quickPoll := by
  refine ⟨?_, ?_, ?_, ?_, ?_, ?_, ?_, ?_, trivial⟩
  · intro lock h
    cases h
  · -- nobody holds anything yet
    rintro lock - q ⟨t, ht, -⟩
    cases ht
  · rintro lock h q ⟨t, ht, -⟩
    cases h
    by_cases hq : q = 0
    · subst hq
      cases ht
    · have hnone : (run step (start 0 twoDevices) (quickPoll.take 2)).leases.held q =
          fun _ => none := Function.update_of_ne hq ..
      cases (congrFun hnone _).symm.trans ht
  · intro lock h
    cases h
  · intro lock h
    cases h
  · intro lock h
    cases h
  · rintro lock h q ⟨t, ht, -⟩
    cases h
    by_cases hq : q = 0
    · subst hq
      cases ht
    · have hnone : (run step (start 0 twoDevices) (quickPoll.take 6)).leases.held q =
          fun _ => none := (Function.update_of_ne hq ..).trans (Function.update_of_ne hq ..)
      cases (congrFun hnone _).symm.trans ht
  · intro lock h
    cases h

/-- The gateway is busy for the second poll. -/
theorem excludes_of_takesReleased_quickPoll :
    Along step Excludes (start 0 twoDevices) quickPoll :=
  excludes_of_takesReleased 0 twoDevices quickPoll quickPoll_takesReleased

/-- The first poll still talks when its lock expires after 20 seconds; the second one takes the
lock, and the first one deletes it. -/
def slowPoll : List PollEvent :=
  [.call 0, .takeDevice 0, .takeGateway 0, .connect 0, .advance (seconds 21),
    .call 1, .takeDevice 1, .takeGateway 1, .connect 1, .finish 0, .releaseGateway 0]

theorem slowPoll_not_excludes :
    ¬Along step (fun _ _ s' => s'.GatewaysExclusive) (start 0 twoDevices) slowPoll ∧
      ¬Along step KeepsOthers (start 0 twoDevices) slowPoll := by
  constructor
  · intro h
    have htalk : (run step (start 0 twoDevices) (slowPoll.take 9)).GatewaysExclusive := by
      have hsplit := along_iff_split.mp h (slowPoll.take 8) (.connect 1) (slowPoll.drop 9) rfl
      exact hsplit
    have hsame : (0 : ℕ) = 1 :=
      htalk 0 1 (twoDevices 0).gatewayLock ⟨by decide, by decide⟩ ⟨by decide, by decide⟩
    cases hsame
  · intro h
    have hkept := along_iff_split.mp h (slowPoll.take 10) (.releaseGateway 0) [] rfl
    have hlive := hkept 0 rfl (twoDevices 1).gatewayLock ⟨1, seconds 41⟩ (by decide) (by decide)
    have hgone : (run step (start 0 twoDevices) slowPoll).leases.live
      (twoDevices 1).gatewayLock = none := by decide
    cases hgone.symm.trans hlive

end PollSystem

end DcimBackend
