import DcimBackend.Collectors.Accounting
import DcimBackend.Collectors.ModbusPoll
import Mathlib.Tactic.MkIffOfInductiveProp

/-!
# The locks after a poll

What `poll_modbus_device` leaves in the cache, whatever is raised and wherever.  The `try` block
begins behind `Device.objects.get`, `gateway_locked` is assigned behind `cache.add`, and the
`finally` block goes through `client.close()` and two calls of `cache.delete`, of which only the
first is guarded.

A lock counts as held until it is deleted; when it expires is left to `Collectors.GatewayLocks`.

The two modules on locks divide the subject.  Here there is one poll, and anything may be raised
anywhere, `SoftTimeLimitExceeded` included; there any number of polls run, time passes, and a poll
is stopped at any step.
-/

namespace DcimBackend.Collectors

open Library

namespace ModbusPoll

/-! ### What a poll takes -/

section Taken

variable (p : ModbusPoll)

/-- The poll takes the lock of its device. -/
def takesDevice : Bool := (p.raises .acquireDevice).isNone && p.deviceFree

/-- Once it has that one, it takes the lock of the gateway. -/
def takesGateway : Bool :=
  (p.raises .runtime).isNone && !p.mappings.isEmpty && (p.raises .acquireGateway).isNone &&
    p.gatewayFree

/-- `gateway_locked` is assigned. -/
def assignsGateway : Bool := p.takesGateway && (p.raises .gatewayAdded).isNone

/-- `client` is assigned. -/
def createsClient : Bool := p.assignsGateway && (p.raises .createClient).isNone

/-- Nothing is raised where a lock is in the cache and the `finally` block does not delete it:
between `cache.add` and the `try` statement, between `cache.add` and the assignment of
`gateway_locked`, in `client.close()`, and in `cache.delete`. -/
@[mk_iff]
structure ReleasesLocks : Prop where
  deviceAdded : p.raises .deviceAdded = none
  load : p.raises .load = none
  gatewayAdded : p.takesGateway = true → p.raises .gatewayAdded = none
  close : p.createsClient = true → p.raises .close = none
  releaseGateway : p.takesGateway = true → p.raises .releaseGateway = none
  releaseDevice : p.raises .releaseDevice = none

end Taken

variable {p : ModbusPoll} {copy : DeviceHealth} {s : PollProcess} {device : Bool}

/-! ### The `try` block -/

theorem frame_locks : Frame (Process.Leaves locks) where
  assign _ h := Process.leaves_assign h
  points _ := Process.leaves_write _
  latest _ := Process.leaves_write _
  device _ _ := Process.leaves_write _
  config _ := Process.leaves_write _
  atomic _ := Process.leaves_atomic

/-- The locks after a position, and after what comes behind it. -/
theorem locks_reach_bind {α : Type} {pos : ModbusPosition} {f : PUnit → Poll α} :
    locks ((reach p.raises pos >>= f) s).2.locals =
      if (p.raises pos).isNone then locks (f ⟨⟩ s).2.locals else locks s.locals := by
  cases h : p.raises pos with
  | none =>
      rw [Tx.bind_of_ok (reach_of_none h)]
      rfl
  | some e =>
      rw [Tx.bind_of_error (reach_of_some h)]
      rfl

theorem locks_assign_bind {α : Type} {g : PollLocals → PollLocals} {f : PUnit → Poll α} :
    ((Process.assign g >>= f) s).2 = (f ⟨⟩ { s with locals := g s.locals }).2 := rfl

/-- The lock of the gateway, and the client. -/
theorem locks_pollGateway (hs : locks s.locals = (false, false, device, false)) :
    locks (p.pollGateway copy s).2.locals =
      if (p.raises .acquireGateway).isNone && p.gatewayFree then
        if (p.raises .gatewayAdded).isNone then
          ((p.raises .createClient).isNone, true, device, true)
        else (false, false, device, true)
      else (false, false, device, false) := by
  simp only [locks, Prod.mk.injEq] at hs
  obtain ⟨hclient, hlocked, hdevice, hgateway⟩ := hs
  unfold pollGateway acquireGateway
  rw [Tx.bind_assoc, locks_reach_bind]
  cases (p.raises .acquireGateway).isNone with
  | false => simp [locks, hclient, hlocked, hdevice, hgateway]
  | true =>
      cases hfree : p.gatewayFree with
      | false => simp [locks, hclient, hlocked, hdevice, hgateway]
      | true =>
          simp only [if_true, Bool.and_self]
          rw [Tx.bind_assoc, locks_assign_bind, Tx.bind_assoc, locks_reach_bind]
          cases (p.raises .gatewayAdded).isNone with
          | false => simp [locks, hclient, hlocked, hdevice]
          | true =>
              simp only [if_true]
              rw [locks_assign_bind, locks_reach_bind]
              cases (p.raises .createClient).isNone with
              | false => simp [locks, hclient, hdevice]
              | true =>
                  simp only [if_true]
                  rw [locks_assign_bind]
                  have hpoll : Tx.Respects (Process.Leaves locks)
                      (reach p.raises .connect >>= fun _ => p.poll copy) :=
                    Tx.respects_bind (frame_locks.reach _) fun _ => frame_locks.poll
                  refine (hpoll _).trans ?_
                  simp [locks, hdevice]

theorem locks_body (hs : locks s.locals = (false, false, device, false)) :
    locks (p.body copy s).2.locals =
      (p.createsClient, p.assignsGateway, device, p.takesGateway) := by
  unfold createsClient assignsGateway takesGateway body
  rw [locks_reach_bind]
  cases (p.raises .runtime).isNone with
  | false => simpa using hs
  | true =>
      cases hmappings : p.mappings.isEmpty with
      | true => simpa [Tx.bind_of_error (Tx.raise_apply ..)] using hs
      | false =>
          simp only [if_true, Bool.false_eq_true, if_false, locks_pollGateway hs]
          cases (p.raises .acquireGateway).isNone <;> cases p.gatewayFree <;>
            cases (p.raises .gatewayAdded).isNone <;> simp

/-- The `except` blocks leave the locks alone. -/
theorem locks_try (hs : locks s.locals = (false, false, device, false)) :
    locks (Tx.handle (p.body copy) (p.fail copy) s).2.locals =
      (p.createsClient, p.assignsGateway, device, p.takesGateway) := by
  have hbody : locks (p.body copy s).2.locals = _ := locks_body hs
  unfold Tx.handle
  rcases h : p.body copy s with ⟨e | r, s'⟩
  · rw [h] at hbody
    exact (frame_locks.fail e s').trans hbody
  · rwa [h] at hbody

/-! ### The `finally` block -/

theorem locks_releaseGateway :
    ∃ s', p.releaseGateway s = (.ok ⟨⟩, s') ∧ locks s'.locals =
      (s.locals.client, s.locals.gatewayLocked, s.locals.deviceLock,
        s.locals.gatewayLock &&
          !(s.locals.gatewayLocked && (p.raises .releaseGateway).isNone)) := by
  rw [releaseGateway, Tx.bind_of_ok (Tx.read_apply ..)]
  cases hlocked : s.locals.gatewayLocked with
  | false => exact ⟨s, rfl, by simp [locks, hlocked]⟩
  | true =>
      cases h : p.raises .releaseGateway with
      | none =>
          refine ⟨_, Tx.handle_of_ok ((Tx.bind_of_ok (reach_of_none h)).trans rfl), ?_⟩
          simp [locks, hlocked]
      | some e =>
          refine ⟨_, Tx.handle_of_error (Tx.bind_of_error (reach_of_some h)), ?_⟩
          simp [locks, hlocked]

theorem locks_releaseDevice :
    (p.releaseDevice s).2.locals.gatewayLock = s.locals.gatewayLock ∧
      (p.releaseDevice s).2.locals.deviceLock =
        (s.locals.deviceLock && (p.raises .releaseDevice).isSome) := by
  cases h : p.raises .releaseDevice with
  | none => simp [releaseDevice_apply h]
  | some e =>
      rw [releaseDevice, Tx.bind_of_error (reach_of_some h)]
      simp

/-- What is raised by `client.close()` keeps both locks. -/
theorem locks_cleanup :
    (p.cleanup s).2.locals.deviceLock = (s.locals.deviceLock &&
        ((s.locals.client && (p.raises .close).isSome) || (p.raises .releaseDevice).isSome)) ∧
      (p.cleanup s).2.locals.gatewayLock = (s.locals.gatewayLock &&
        ((s.locals.client && (p.raises .close).isSome) ||
          !(s.locals.gatewayLocked && (p.raises .releaseGateway).isNone))) := by
  have hrest : p.closeClient s = (.ok ⟨⟩, s) →
      (p.cleanup s).2.locals.deviceLock =
        (s.locals.deviceLock && (p.raises .releaseDevice).isSome) ∧
      (p.cleanup s).2.locals.gatewayLock = (s.locals.gatewayLock &&
        !(s.locals.gatewayLocked && (p.raises .releaseGateway).isNone)) := by
    intro hclose
    obtain ⟨s', hgateway, hlocks⟩ := locks_releaseGateway (p := p) (s := s)
    simp only [locks, Prod.mk.injEq] at hlocks
    obtain ⟨-, -, hdevice, hgatewayLock⟩ := hlocks
    rw [cleanup, Tx.bind_of_ok hclose, Tx.bind_of_ok hgateway, locks_releaseDevice.1,
      locks_releaseDevice.2, hdevice, hgatewayLock]
    exact ⟨rfl, rfl⟩
  cases hclient : s.locals.client with
  | false =>
      have hclose : p.closeClient s = (.ok ⟨⟩, s) := by
        rw [closeClient, Tx.bind_of_ok (Tx.read_apply ..), if_neg (by simp [hclient])]
        rfl
      simpa using hrest hclose
  | true =>
      cases hraises : p.raises .close with
      | none => simpa using hrest (closeClient_apply hraises)
      | some e =>
          have hclose : p.closeClient s = reach p.raises .close s := by
            rw [closeClient, Tx.bind_of_ok (Tx.read_apply ..), if_pos hclient]
          rw [cleanup, Tx.bind_of_error (hclose.trans (reach_of_some hraises))]
          simp

/-! ### The whole call -/

/-- What comes behind the `finally` block leaves the locks alone. -/
theorem locks_pollLocked (hload : p.raises .load = none) :
    locks (p.pollLocked s).2.locals = locks (p.cleanup
      (Tx.handle (p.body s.tables.health) (p.fail s.tables.health) s).2).2.locals := by
  rw [pollLocked, Tx.bind_of_ok (reach_of_none hload), Tx.bind_of_ok (Tx.read_apply ..),
    ← Tx.ensure_state]
  refine Tx.rel_after_bind (R := Process.Leaves locks) fun r => ?_
  refine Tx.respects_bind (Tx.respects_read _) fun locals => ?_
  split
  · exact Tx.respects_pure _
  · exact Tx.respects_bind (frame_locks.reach _) fun _ =>
      Tx.respects_bind (Process.leaves_write _) fun _ => Tx.respects_pure _

/-- The locks that a poll leaves in the cache, once it has that of its device and has loaded it. -/
theorem locks_of_loaded (hs : locks s.locals = (false, false, true, false))
    (hload : p.raises .load = none) :
    (p.pollLocked s).2.locals.deviceLock =
        ((p.createsClient && (p.raises .close).isSome) || (p.raises .releaseDevice).isSome) ∧
      (p.pollLocked s).2.locals.gatewayLock = (p.takesGateway &&
        ((p.createsClient && (p.raises .close).isSome) ||
          !(p.assignsGateway && (p.raises .releaseGateway).isNone))) := by
  have hpoll := locks_pollLocked (s := s) hload
  have htry : locks (Tx.handle (p.body s.tables.health) (p.fail s.tables.health) s).2.locals = _ :=
    locks_try hs
  simp only [locks, Prod.mk.injEq] at hpoll htry
  obtain ⟨-, -, hdevice, hgateway⟩ := hpoll
  obtain ⟨hclient, hlocked, hdeviceLock, hgatewayLock⟩ := htry
  rw [hdevice, hgateway, locks_cleanup.1, locks_cleanup.2, hclient, hlocked, hdeviceLock,
    hgatewayLock]
  exact ⟨Bool.true_and _, rfl⟩

/-- Both are gone exactly if none of what could be raised is. -/
theorem released_of_loaded (hadded : p.raises .deviceAdded = none) (hload : p.raises .load = none) :
    (((p.createsClient && (p.raises .close).isSome) || (p.raises .releaseDevice).isSome) = false ∧
      (p.takesGateway && ((p.createsClient && (p.raises .close).isSome) ||
        !(p.assignsGateway && (p.raises .releaseGateway).isNone))) = false) ↔
      p.ReleasesLocks := by
  rw [releasesLocks_iff]
  simp only [hadded, hload, true_and, assignsGateway]
  cases p.takesGateway with
  | false => simp
  | true =>
      simp only [Bool.or_eq_false_iff, Bool.and_eq_false_imp, Option.isSome_eq_false_iff,
        Option.isNone_iff_eq_none, Bool.true_and, Bool.not_eq_false', Bool.and_eq_true,
        forall_const]
      tauto

/-- **A call leaves no lock in the cache exactly if it does not get that of its device, or nothing
is raised where the `finally` block does not delete them.** -/
theorem released_iff (p : ModbusPoll) (t : PollTables) :
    ((p.pollModbusDevice t.process).2.locals.deviceLock = false ∧
        (p.pollModbusDevice t.process).2.locals.gatewayLock = false) ↔
      (p.takesDevice = true → p.ReleasesLocks) := by
  unfold takesDevice
  cases hacquire : p.raises .acquireDevice with
  | some e =>
      rw [pollModbusDevice, acquireDevice,
        Tx.bind_of_error (Tx.bind_of_error (reach_of_some hacquire))]
      simp [PollTables.process]
  | none =>
      cases hfree : p.deviceFree with
      | false =>
          rw [pollModbusDevice_of_busy hacquire hfree]
          simp [PollTables.process]
      | true =>
          simp only [Option.isNone_none, Bool.and_self, forall_const]
          cases hadded : p.raises .deviceAdded with
          | some e =>
              have hadd : p.acquireDevice t.process =
                  reach p.raises .deviceAdded
                    { t.process with locals := { t.process.locals with deviceLock := true } } := by
                rw [acquireDevice, Tx.bind_of_ok (reach_of_none hacquire), if_pos hfree,
                  Tx.bind_of_ok (Process.assign_apply ..)]
              rw [pollModbusDevice, Tx.bind_of_error (hadd.trans (reach_of_some hadded))]
              refine iff_of_false (by simp) fun h => ?_
              cases hadded.symm.trans h.deviceAdded
          | none =>
              rw [pollModbusDevice_of_free hacquire hadded hfree]
              cases hload : p.raises .load with
              | some e =>
                  rw [pollLocked, Tx.bind_of_error (reach_of_some hload)]
                  refine iff_of_false (by simp) fun h => ?_
                  cases hload.symm.trans h.load
              | none =>
                  rw [(locks_of_loaded rfl hload).1, (locks_of_loaded rfl hload).2]
                  exact released_of_loaded hadded hload

/-- The poll of a device that has been deleted since it was enqueued. -/
def deletedPoll : ModbusPoll where
  toPollArgs := (SnmpPoll.roomPoll .load).toPollArgs
  raises := fun pos =>
    if pos = .load then some (.error "Device matching query does not exist.") else none

/-- Its lock stays in the cache. -/
theorem deletedPoll_keeps :
    (deletedPoll.pollModbusDevice SnmpPoll.freshTables.process).1 =
        .error (.error "Device matching query does not exist.") ∧
      (deletedPoll.pollModbusDevice SnmpPoll.freshTables.process).2.locals.deviceLock = true :=
  ⟨rfl, rfl⟩

end ModbusPoll

end DcimBackend.Collectors
