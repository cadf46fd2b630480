import DcimBackend.Common.Value
import DcimBackend.Library.Run

/-!
# Delivering a notification

`apps/notifications/services/delivery.py` and `apps/notifications/tasks.py`, on one
notification.  Any number of workers deliver it, each from a copy of the row, and between
two statements of a worker any other may run, as may the requeueing of stale deliveries.
A worker is a run of `send_notification_task`, where a Celery retry is another run, or the
notification's turn in `deliver_pending_notifications`.

The claim and the requeueing look at the row under its lock.  The outcome of a delivery is
written without: success and failure overwrite whatever is stored by then.

`sent_stays_iff` is the exact line: in a run, a notification that has been sent stays so
if and only if no worker writes a failure over it.

A worker holds a copy of the row, and `write` takes the listed columns from it; so what a late
save overwrites can be read off its columns.  The worker that writes need not be the one whose
claim is stored.
-/

namespace DcimBackend

open Library

/-! ### The row -/

/-- `NotificationStatus`. -/
inductive NotificationStatus
  | pending
  | delivering
  | sent
  | failed
deriving DecidableEq

/-- `NotificationChannel`.  Only `full_clean` checks the choices of the column. -/
inductive NotificationChannel
  | email
  | sms
  | web
  | webhook
  | unsupported (value : String)
deriving DecidableEq

/-- The value of a channel in its column. -/
def NotificationChannel.value : NotificationChannel → String
  | .email => "EMAIL"
  | .sms => "SMS"
  | .web => "WEB"
  | .webhook => "WEBHOOK"
  | .unsupported value => value

/-- `Notification`, as far as its delivery reads and writes it.  Times are instants, in
microseconds. -/
structure Notification where
  channel : NotificationChannel
  status : NotificationStatus := .pending
  sentAt : Option ℤ := none
  errorMessage : Option String := none
  metadata : Json := .object []
  updatedAt : ℤ

/-- The columns of the `update_fields` here, but `updated_at`, which is in all of them. -/
inductive NotificationColumn
  | status
  | sentAt
  | errorMessage
  | metadata
deriving DecidableEq

namespace Notification

/-- The stored row after `copy.save(update_fields=columns)` at `now`. -/
def write (columns : List NotificationColumn) (now : ℤ) (copy stored : Notification) :
    Notification :=
  { stored with
    status := if .status ∈ columns then copy.status else stored.status
    sentAt := if .sentAt ∈ columns then copy.sentAt else stored.sentAt
    errorMessage := if .errorMessage ∈ columns then copy.errorMessage else stored.errorMessage
    metadata := if .metadata ∈ columns then copy.metadata else stored.metadata
    updatedAt := now }

variable (n : Notification)

/-- `claim_notification_for_delivery`: the row as it is left under the lock, which is the
copy that the worker gets, or nothing. -/
def claimForDelivery (now : ℤ) : Option Notification :=
  if n.status = .sent ∨ n.status = .delivering then none
  else
    let copy := { n with status := .delivering, errorMessage := some "" }
    some (copy.write [.status, .errorMessage] now n)

/-- `requeue_stale_delivering_notifications`, on a row that it has matched, under the
lock. -/
def requeueStale (now olderThan : ℤ) : Notification :=
  if n.status ≠ .delivering then n
  else if now - olderThan < n.updatedAt then n
  else
    let copy :=
      { n with
        status := .pending
        errorMessage := some "Requeued after stale DELIVERING timeout" }
    copy.write [.status, .errorMessage] now n

/-- What the transports have said: a dictionary, or what they raised. -/
abbrev Reply := Except String Dict

/-- `deliver_notification`: whether it returns a dictionary, or raises. -/
def deliveryResult (reply : Reply) : Except String (Option Dict) :=
  match n.channel with
  | .web | .unsupported _ => .ok none
  | .email => reply.map fun _ => none
  | .sms | .webhook => reply.map some

/-- The copy after the assignments of a success. -/
def asSent (now : ℤ) : Notification :=
  { n with status := .sent, sentAt := some now, errorMessage := some "" }

/-- The copy with a dictionary that the delivery has returned. -/
def withResult (result : Option Dict) : Notification :=
  match result with
  | none => n
  | some result =>
      let metadata := match n.metadata with
        | .object fields => fields
        | _ => []
      { n with metadata := .object (Dict.merge metadata [("delivery_result", .object result)]) }

/-- The copy after the assignments of a failure. -/
def asFailed (error : String) : Notification :=
  { n with status := .failed, errorMessage := some error }

variable {n}

/-- A notification that has been sent cannot be claimed. -/
theorem claimForDelivery_of_sent (h : n.status = .sent) (now : ℤ) :
    n.claimForDelivery now = none := by
  rw [claimForDelivery, if_pos (Or.inl h)]

/-- Nor is it requeued. -/
theorem requeueStale_of_sent (h : n.status = .sent) (now olderThan : ℤ) :
    n.requeueStale now olderThan = n := by
  rw [requeueStale, if_pos (by simp [h])]

end Notification

/-! ### Workers -/

/-- What a worker runs. -/
inductive DeliveryRunner
  | sendNotificationTask
  | deliverPendingNotifications
deriving DecidableEq

/-- Where a worker stands. -/
inductive DeliveryPhase
  | idle
  /-- It has claimed the notification. -/
  | claimed (runner : DeliveryRunner) (copy : Notification)
  /-- The delivery has returned. -/
  | delivered (runner : DeliveryRunner) (copy : Notification) (result : Option Dict)
  /-- The task has caught an exception, and reads the row again. -/
  | caught (error : String)
  /-- A failure is about to be written, from this copy. -/
  | failing (copy : Notification) (error : String)

/-- A statement of a worker, or of the requeueing. -/
inductive DeliveryStep
  | claim (worker : ℕ) (runner : DeliveryRunner) (now : ℤ)
  | deliver (worker : ℕ) (reply : Notification.Reply) (now : ℤ)
  /-- The save of a success, with the text of the exception if the row is refused. -/
  | saveSent (worker : ℕ) (now : ℤ) (error : String)
  | reload (worker : ℕ)
  | saveFailed (worker : ℕ) (now : ℤ)
  /-- The locked part of `requeue_stale_delivering_notifications`. -/
  | requeueStale (now olderThan : ℤ)
  /-- `queue_pending_notifications` reads, and starts tasks. -/
  | queuePending

/-- The notification, and its workers. -/
structure Deliveries where
  notification : Notification
  workers : ℕ → DeliveryPhase

namespace Deliveries

variable (s : Deliveries)

/-- The worker moves on. -/
def move (worker : ℕ) (phase : DeliveryPhase) : Deliveries :=
  { s with workers := Function.update s.workers worker phase }

/-- The worker writes, and moves on. -/
def save (worker : ℕ) (phase : DeliveryPhase) (row : Notification) : Deliveries :=
  { (s.move worker phase) with notification := row }

/-- The delivery itself.  It writes only for a channel that it does not know. -/
def deliver (worker : ℕ) (runner : DeliveryRunner) (copy : Notification)
    (reply : Notification.Reply) (now : ℤ) : Deliveries :=
  match copy.deliveryResult reply with
  | .ok result =>
      match copy.channel with
      | .unsupported _ =>
          let copy := { copy with status := .sent, sentAt := some now }
          s.save worker (.delivered runner copy result)
            (copy.write [.status, .sentAt] now s.notification)
      | _ => s.move worker (.delivered runner copy result)
  | .error error =>
      match runner with
      | .sendNotificationTask => s.move worker (.caught error)
      | .deliverPendingNotifications => s.move worker (.failing copy error)

/-- The save of a success.  The task saves the metadata too, which PostgreSQL may refuse. -/
def saveSent (worker : ℕ) (runner : DeliveryRunner) (copy : Notification)
    (result : Option Dict) (now : ℤ) (error : String) : Deliveries :=
  match runner with
  | .sendNotificationTask =>
      let copy := (copy.withResult result).asSent now
      if copy.metadata.storable then
        s.save worker .idle
          (copy.write [.status, .sentAt, .errorMessage, .metadata] now s.notification)
      else s.move worker (.caught error)
  | .deliverPendingNotifications =>
      s.save worker .idle
        ((copy.asSent now).write [.status, .sentAt, .errorMessage] now s.notification)

/-- A step.  A worker that is elsewhere does nothing. -/
def step (s : Deliveries) : DeliveryStep → Deliveries
  | .claim worker runner now =>
      match s.workers worker, s.notification.claimForDelivery now with
      | .idle, some row => s.save worker (.claimed runner row) row
      | _, _ => s
  | .deliver worker reply now =>
      match s.workers worker with
      | .claimed runner copy => s.deliver worker runner copy reply now
      | _ => s
  | .saveSent worker now error =>
      match s.workers worker with
      | .delivered runner copy result => s.saveSent worker runner copy result now error
      | _ => s
  | .reload worker =>
      match s.workers worker with
      | .caught error => s.move worker (.failing s.notification error)
      | _ => s
  | .saveFailed worker now =>
      match s.workers worker with
      | .failing copy error =>
          s.save worker .idle
            ((copy.asFailed error).write [.status, .errorMessage] now s.notification)
      | _ => s
  | .requeueStale now olderThan =>
      { s with notification := s.notification.requeueStale now olderThan }
  | .queuePending => s

/-- The step writes a failure over a notification that has been sent. -/
def FailsSent : DeliveryStep → Prop
  | .saveFailed worker _ =>
      s.notification.status = .sent ∧ ∃ copy error, s.workers worker = .failing copy error
  | _ => False

variable {s}

/-- A delivery that writes, writes that the notification has been sent. -/
theorem sent_deliver {worker : ℕ} {runner : DeliveryRunner} {copy : Notification}
    {reply : Notification.Reply} {now : ℤ} (h : s.notification.status = .sent) :
    (s.deliver worker runner copy reply now).notification.status = .sent := by
  unfold deliver
  split
  · split
    · rfl
    · exact h
  · split
    · exact h
    · exact h

/-- So does the save of a success. -/
theorem sent_saveSent {worker : ℕ} {runner : DeliveryRunner} {copy : Notification}
    {result : Option Dict} {now : ℤ} {error : String} (h : s.notification.status = .sent) :
    (s.saveSent worker runner copy result now error).notification.status = .sent := by
  unfold saveSent
  split
  · dsimp only
    split
    · rfl
    · exact h
  · rfl

/-- **The step lemma**: a step leaves a notification sent exactly if it does not write a
failure over it. -/
theorem sent_step_iff (i : DeliveryStep) :
    (s.notification.status = .sent → (step s i).notification.status = .sent) ↔
      ¬s.FailsSent i := by
  cases i with
  | claim worker runner now =>
      refine iff_of_true (fun h => ?_) not_false
      simp only [step, Notification.claimForDelivery_of_sent h]
      split
      · rename_i hclaimed
        cases hclaimed
      · exact h
  | deliver worker reply now =>
      refine iff_of_true (fun h => ?_) not_false
      simp only [step]
      split
      · exact sent_deliver h
      · exact h
  | saveSent worker now error =>
      refine iff_of_true (fun h => ?_) not_false
      simp only [step]
      split
      · exact sent_saveSent h
      · exact h
  | reload worker =>
      refine iff_of_true (fun h => ?_) not_false
      simp only [step]
      split
      · exact h
      · exact h
  | saveFailed worker now =>
      constructor
      · rintro hstays ⟨hsent, copy, error, hworker⟩
        have hafter := hstays hsent
        simp only [step, hworker] at hafter
        cases hafter
      · intro hnot h
        simp only [step]
        split
        · rename_i copy error hworker
          exact absurd ⟨h, copy, error, hworker⟩ hnot
        · exact h
  | requeueStale now olderThan =>
      refine iff_of_true (fun h => ?_) not_false
      simp only [step, Notification.requeueStale_of_sent h]
      exact h
  | queuePending => exact iff_of_true id not_false

/-- **Sent is final** along a run exactly if no worker writes a failure over a
notification that has been sent. -/
theorem sent_stays_iff (s : Deliveries) (w : List DeliveryStep) :
    (∀ u v, w = u ++ v → (run step s u).notification.status = .sent →
      ∀ v₁ v₂, v = v₁ ++ v₂ → (run step s (u ++ v₁)).notification.status = .sent) ↔
      Along step (fun before i _ => ¬before.FailsSent i) s w := by
  have hstays := @stays_iff_along _ _ step (fun s => s.notification.status = .sent) s w
  exact hstays.trans (along_congr (G := fun _ _ _ => True) (fun _ i _ => sent_step_iff i)
    (along_of_forall (fun _ _ => trivial) s w))

/-! ### A late failure -/

/-- A text message that waits for its delivery. -/
def textMessage : Deliveries where
  notification := { channel := .sms, updatedAt := 0 }
  workers _ := .idle

/-- A worker claims the message and hangs.  After eleven minutes the message is requeued,
another worker sends it, and then the first one times out. -/
def lateFailure : List DeliveryStep :=
  [.claim 0 .sendNotificationTask 0,
    .requeueStale 660000000 600000000,
    .claim 1 .sendNotificationTask 660000000,
    .deliver 1 (.ok [("backend", .scalar (.text "soap"))]) 661000000,
    .saveSent 1 661000000 "",
    .deliver 0 (.error "Read timed out.") 662000000,
    .reload 0,
    .saveFailed 0 662000000]

/-- The message has been sent, and ends as failed. -/
theorem lateFailure_unsends :
    ¬∀ u v, lateFailure = u ++ v → (run step textMessage u).notification.status = .sent →
      ∀ v₁ v₂, v = v₁ ++ v₂ →
        (run step textMessage (u ++ v₁)).notification.status = .sent := by
  intro h
  have hsent := h (lateFailure.take 5) (lateFailure.drop 5) rfl (by decide)
    (lateFailure.drop 5) [] rfl
  exact absurd hsent (by decide)

end Deliveries

end DcimBackend
