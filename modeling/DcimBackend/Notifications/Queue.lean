import DcimBackend.Notifications.Delivery
import DcimBackend.Notifications.Dispatch

/-!
# The queue of deliveries

The notifications, and the tasks `send_notification_task` that wait at the broker or are in
execution.  The broker is reliable: the hooks of a commit run with it and each starts a task,
which waits until a worker receives it.  Outside a transaction a statement is a commit of its
own.  A worker may die once it has claimed a notification.  Beat runs one task on
notifications, `requeue_stale_delivering_notifications_task`.

A commit is what a fan-out leaves behind, wherever its loop has ended, and what an escalation
has inserted: `dispatched_spec`, `escalated_spec`.

A notification that is pending should have a task that is still to claim it.  Every step but
one keeps this: a requeueing that finds a delivery stale makes its notification pending and
starts no task, while the task of that delivery has claimed long ago.  `notStranded_run_iff`
is the exact line.

The invariant behind it, `Consistent`, is that a notification never has two tasks, and while
it is being delivered none that is still to claim it.

Of a fan-out or an escalation the queue sees the commit alone: rows that are pending, and a task
for each.  A task is where it stands and how often it has been retried.
-/

namespace DcimBackend

open Library

/-! ### Rows -/

/-- The row with other columns of its delivery. -/
def NotificationRow.withNotification (row : NotificationRow) (n : Notification) :
    NotificationRow :=
  { row with toNotification := n }

namespace NotificationsDb

/-- The rows with other columns of their deliveries. -/
def mapNotifications (db : NotificationsDb) (f : NotificationRow → Notification) :
    NotificationsDb where
  rows := db.rows.modify (fun row => row.withNotification (f row)) fun _ => rfl
  dedupeKey_unique := by
    intro a ha b hb key hakey hbkey
    obtain ⟨old, hold, rfl⟩ := Table.mem_modify.mp ha
    obtain ⟨other, hother, rfl⟩ := Table.mem_modify.mp hb
    rw [db.dedupeKey_unique old hold other hother key hakey hbkey]
  subject_fits := by
    intro row hrow
    obtain ⟨old, hold, rfl⟩ := Table.mem_modify.mp hrow
    exact db.subject_fits old hold

variable {db db' : NotificationsDb} {f : NotificationRow → Notification}

theorem mem_mapNotifications {row : NotificationRow} :
    row ∈ (db.mapNotifications f).rows ↔ ∃ old ∈ db.rows, old.withNotification (f old) = row :=
  @Table.mem_modify _ _ db.rows (fun row => row.withNotification (f row)) (fun _ => rfl) row

/-- The row of a notification is written. -/
def write (db : NotificationsDb) (id : ℕ) (n : Notification) : NotificationsDb :=
  db.mapNotifications fun row => if row.id = id then n else row.toNotification

theorem exists_of_mem_write {id : ℕ} {n : Notification} {row : NotificationRow}
    (h : row ∈ (db.write id n).rows) :
    (row.id = id ∧ row.status = n.status) ∨
      (row.id ≠ id ∧ ∃ old ∈ db.rows, old.id = row.id ∧ old.status = row.status) := by
  obtain ⟨old, hold, rfl⟩ := mem_mapNotifications.mp h
  by_cases hid : old.id = id
  · rw [if_pos hid]
    exact Or.inl ⟨hid, rfl⟩
  · rw [if_neg hid]
    exact Or.inr ⟨hid, old, hold, rfl, rfl⟩

/-! ### Commits -/

/-- What a commit of statements has added: each row behind a hook is pending, and the hooks
are new. -/
structure Extends (db db' : NotificationsDb) (hooks : List ℕ) : Prop where
  nextPk_le : db.rows.nextPk ≤ db'.rows.nextPk
  hooks_new : ∀ id ∈ hooks, db.rows.nextPk ≤ id ∧ id < db'.rows.nextPk
  hooks_nodup : hooks.Nodup
  rows : ∀ row ∈ db'.rows, (row.status = .pending ∧ row.id ∈ hooks) ∨
    ∃ old ∈ db.rows, old.id = row.id ∧ old.status = row.status

theorem Extends.append {db'' : NotificationsDb} {as bs : List ℕ} (h : db.Extends db' as)
    (h' : db'.Extends db'' bs) : db.Extends db'' (as ++ bs) where
  nextPk_le := h.nextPk_le.trans h'.nextPk_le
  hooks_new := by
    intro id hid
    rcases List.mem_append.mp hid with hfirst | hsecond
    · exact ⟨(h.hooks_new id hfirst).1, (h.hooks_new id hfirst).2.trans_le h'.nextPk_le⟩
    · exact ⟨h.nextPk_le.trans (h'.hooks_new id hsecond).1, (h'.hooks_new id hsecond).2⟩
  hooks_nodup := by
    refine List.nodup_append.mpr ⟨h.hooks_nodup, h'.hooks_nodup, fun a ha b hb hab => ?_⟩
    have hlt := (h.hooks_new a ha).2
    have hle := (h'.hooks_new b hb).1
    omega
  rows := by
    intro row hrow
    rcases h'.rows row hrow with ⟨hpending, hhook⟩ | ⟨mid, hmid, hid, hstatus⟩
    · exact Or.inl ⟨hpending, List.mem_append_right _ hhook⟩
    · rcases h.rows mid hmid with ⟨hpending, hhook⟩ | ⟨old, hold, hid', hstatus'⟩
      · exact Or.inl ⟨hstatus ▸ hpending, List.mem_append_left _ (hid ▸ hhook)⟩
      · exact Or.inr ⟨old, hold, hid'.trans hid, hstatus'.trans hstatus⟩

theorem extends_refl : db.Extends db [] where
  nextPk_le := le_rfl
  hooks_new := by simp
  hooks_nodup := List.nodup_nil
  rows row hrow := Or.inr ⟨row, hrow, rfl, rfl⟩

/-- What a successful save has stored. -/
theorem saveNotification_rows {row : NotificationRow} {u : Unit}
    (h : saveNotification row db = (.ok u, db')) : db'.rows = db.rows.save row := by
  obtain ⟨hfits, hfree⟩ := saveNotification_ok h
  rw [saveNotification_of_fits hfits hfree] at h
  obtain rfl := (Prod.mk.inj h).2
  rfl

theorem extends_execute {statement : CreationStatement} {hooks : List ℕ}
    (h : statement.execute db = (.ok hooks, db')) : db.Extends db' hooks := by
  cases statement with
  | insert row pending =>
      obtain ⟨stored, db₁, hinsert, h⟩ := Tx.bind_eq_ok_iff.mp h
      obtain ⟨⟨rfl⟩, hdb⟩ := Prod.mk.inj h
      obtain ⟨u, db₂, hsave, hstored⟩ := Tx.bind_eq_ok_iff.mp hinsert
      obtain ⟨⟨rfl⟩, hdb₁⟩ := Prod.mk.inj hstored
      rw [hdb₁, hdb] at hsave
      have hmem : ∀ other, other ∈ db'.rows ↔
          other = row.withId db.rows.nextPk ∨ other ∈ db.rows := by
        intro other
        obtain ⟨hfits, hfree⟩ := saveNotification_ok hsave
        rw [← (Prod.mk.inj ((saveNotification_of_fits hfits hfree).symm.trans hsave)).2]
        exact mem_put_nextPk rfl
      have hnext : db'.rows.nextPk = db.rows.nextPk + 1 := by
        rw [saveNotification_rows hsave]
        exact max_eq_right (Nat.le_succ _)
      refine ⟨by omega, ?_, List.nodup_singleton _, fun other hother => ?_⟩
      · intro id hid
        rw [List.mem_singleton.mp hid, hnext]
        exact ⟨le_rfl, Nat.lt_succ_self _⟩
      · rcases (hmem other).mp hother with rfl | hold
        · exact Or.inl ⟨pending, List.mem_singleton.mpr rfl⟩
        · exact Or.inr ⟨other, hold, rfl, rfl⟩
  | claimLegacy id key now =>
      obtain ⟨u, db₁, hkey, h⟩ := Tx.bind_eq_ok_iff.mp h
      obtain ⟨⟨rfl⟩, rfl⟩ := Prod.mk.inj h
      unfold saveDedupeKey at hkey
      split at hkey
      swap
      · cases (Prod.mk.inj hkey).1
      rename_i stored hfind
      obtain ⟨hstored, -⟩ := Table.find_eq_some_iff.mp hfind
      have hrows := saveNotification_rows hkey
      refine ⟨?_, by simp, List.nodup_nil, fun other hother => Or.inr ?_⟩
      · rw [hrows]
        exact le_max_left _ _
      · rw [hrows] at hother
        rcases Table.mem_save.mp hother with rfl | ⟨hold, -⟩
        · exact ⟨stored, hstored, rfl, rfl⟩
        · exact ⟨other, hold, rfl, rfl⟩

theorem extends_executeAll {statements : List CreationStatement} {hooks : List ℕ}
    (h : CreationStatement.executeAll statements db = (.ok hooks, db')) :
    db.Extends db' hooks := by
  induction statements generalizing db hooks with
  | nil =>
      obtain ⟨⟨rfl⟩, rfl⟩ := Prod.mk.inj h
      exact extends_refl
  | cons statement statements ih =>
      obtain ⟨first, mid, hfirst, h⟩ := Tx.bind_eq_ok_iff.mp h
      obtain ⟨rest, db'', hrest, h⟩ := Tx.bind_eq_ok_iff.mp h
      obtain ⟨⟨rfl⟩, rfl⟩ := Prod.mk.inj h
      exact (extends_execute hfirst).append (ih hrest)

/-! ### Stale deliveries -/

/-- `_stale_delivering_queryset`, ordered and limited. -/
def staleDelivering (db : NotificationsDb) (now olderThan : ℤ) (limit : ℕ) : List ℕ :=
  let stale := db.rows.select fun row =>
    row.status = .delivering && decide (row.updatedAt ≤ now - olderThan)
  let ordered := stale.insertionSort fun a b =>
    if a.updatedAt = b.updatedAt then a.id ≤ b.id else a.updatedAt ≤ b.updatedAt
  (ordered.take limit).map fun row => row.id

/-- The locked part of `requeue_stale_delivering_notifications`. -/
def requeueMatched (db : NotificationsDb) (matched : List ℕ) (now olderThan : ℤ) :
    NotificationsDb :=
  db.mapNotifications fun row =>
    if row.id ∈ matched then row.requeueStale now olderThan else row.toNotification

end NotificationsDb

/-! ### Tasks -/

/-- Where a task stands. -/
inductive TaskPhase
  /-- It waits at the broker. -/
  | waiting
  /-- A worker has received it. -/
  | received
  /-- The worker has claimed the notification. -/
  | working (phase : DeliveryPhase)
  /-- The failure is written, and `self.retry` is next. -/
  | retrying

namespace TaskPhase

/-- The claim is still to come. -/
def announces : TaskPhase → Bool
  | .waiting | .received => true
  | _ => false

/-- A delivery is under way. -/
def delivers : TaskPhase → Bool
  | .working .idle => false
  | .working _ => true
  | _ => false

theorem announces_of_delivers {phase : TaskPhase} (h : phase.delivers = true) :
    phase.announces = false := by
  cases phase with
  | working => rfl
  | waiting => cases h
  | received => cases h
  | retrying => cases h

end TaskPhase

/-- `send_notification_task(notification_id)`, with `self.request.retries`. -/
structure DeliveryTask where
  notification : ℕ
  retries : ℕ := 0
  phase : TaskPhase := .waiting

/-- A statement of the task, behind its claim. -/
inductive DeliveryMove
  | deliver (reply : Notification.Reply) (now : ℤ)
  | saveSent (now : ℤ) (error : String)
  | reload
  | saveFailed (now : ℤ)

namespace DeliveryMove

/-- The statement, as one of the only worker of a notification. -/
def step : DeliveryMove → DeliveryStep
  | .deliver reply now => .deliver 0 reply now
  | .saveSent now error => .saveSent 0 now error
  | .reload => .reload 0
  | .saveFailed now => .saveFailed 0 now

/-- Where the task stands behind it, unless it has ended. -/
def next (move : DeliveryMove) : DeliveryPhase → Option TaskPhase
  | .idle =>
      match move with
      | .saveFailed _ => some .retrying
      | _ => none
  | phase => some (.working phase)

/-- The row and the task behind the statement. -/
def apply (move : DeliveryMove) (n : Notification) (phase : DeliveryPhase) :
    Notification × Option TaskPhase :=
  let after := Deliveries.step ⟨n, fun _ => phase⟩ move.step
  (after.notification, move.next (after.workers 0))

variable {n : Notification} {phase : DeliveryPhase}

/-- What a statement leaves: the notification is not pending anew, and while it is being
delivered the task goes on delivering. -/
structure Leaves (n : Notification) (after : Notification × Option TaskPhase) : Prop where
  status : after.1.status = n.status ∨ after.1.status = .sent ∨ after.1.status = .failed
  next : after.1.status = .delivering → ∀ phase, after.2 = some phase → phase.delivers = true

theorem leaves_next {move : DeliveryMove} {n' : Notification} {phase : DeliveryPhase}
    (hstatus : n'.status = n.status ∨ n'.status = .sent ∨ n'.status = .failed)
    (hphase : phase ≠ .idle ∨ n'.status ≠ .delivering) :
    Leaves n (n', move.next phase) where
  status := hstatus
  next := by
    intro hdelivering after hafter
    have hphase := hphase.resolve_right (not_not.mpr hdelivering)
    cases phase with
    | idle => exact absurd rfl hphase
    | claimed => obtain rfl := Option.some.inj hafter; rfl
    | delivered => obtain rfl := Option.some.inj hafter; rfl
    | caught => obtain rfl := Option.some.inj hafter; rfl
    | failing => obtain rfl := Option.some.inj hafter; rfl

/-- Of each statement of a task. -/
theorem leaves_apply (move : DeliveryMove) (hphase : phase ≠ .idle ∨ n.status ≠ .delivering) :
    Leaves n (move.apply n phase) := by
  -- a task that stands elsewhere does nothing
  have hstay : Leaves n (n, move.next phase) := leaves_next (Or.inl rfl) hphase
  cases move with
  | deliver reply now =>
      cases phase with
      | claimed runner copy =>
          simp only [apply, step, Deliveries.step, Deliveries.deliver]
          split
          · split
            · refine leaves_next (Or.inr (Or.inl rfl)) (Or.inl ?_)
              simp [Deliveries.save, Deliveries.move]
            · refine leaves_next (Or.inl rfl) (Or.inl ?_)
              simp [Deliveries.move]
          · split
            · refine leaves_next (Or.inl rfl) (Or.inl ?_)
              simp [Deliveries.move]
            · refine leaves_next (Or.inl rfl) (Or.inl ?_)
              simp [Deliveries.move]
      | idle => exact hstay
      | delivered => exact hstay
      | caught => exact hstay
      | failing => exact hstay
  | saveSent now error =>
      cases phase with
      | delivered runner copy result =>
          simp only [apply, step, Deliveries.step, Deliveries.saveSent]
          split
          · split
            · refine leaves_next (Or.inr (Or.inl rfl)) (Or.inr ?_)
              simp [Deliveries.save, Notification.write, Notification.asSent]
            · refine leaves_next (Or.inl rfl) (Or.inl ?_)
              simp [Deliveries.move]
          · refine leaves_next (Or.inr (Or.inl rfl)) (Or.inr ?_)
            simp [Deliveries.save, Notification.write, Notification.asSent]
      | idle => exact hstay
      | claimed => exact hstay
      | caught => exact hstay
      | failing => exact hstay
  | reload =>
      cases phase with
      | caught error =>
          refine leaves_next (Or.inl rfl) (Or.inl ?_)
          simp [step, Deliveries.step, Deliveries.move]
      | idle => exact hstay
      | claimed => exact hstay
      | delivered => exact hstay
      | failing => exact hstay
  | saveFailed now =>
      cases phase with
      | failing copy error =>
          refine leaves_next (Or.inr (Or.inr rfl)) (Or.inr ?_)
          simp [step, Deliveries.step, Deliveries.save, Notification.write, Notification.asFailed]
      | idle => exact hstay
      | claimed => exact hstay
      | delivered => exact hstay
      | caught => exact hstay

end DeliveryMove

/-- The notifications and the tasks. -/
structure NotificationQueue where
  db : NotificationsDb
  tasks : List DeliveryTask := []
  /-- What a run of the requeueing has matched. -/
  matched : ℕ → List ℕ := fun _ => []

/-- A step of the queue. -/
inductive QueueStep
  /-- A transaction that creates notifications commits, and its hooks run. -/
  | commit (statements : List CreationStatement)
  | receive (i : ℕ)
  /-- `claim_notification_for_delivery`. -/
  | claim (i : ℕ) (now : ℤ)
  | work (i : ℕ) (move : DeliveryMove)
  /-- `self.retry`, which gives up at `max_retries`. -/
  | retry (i : ℕ)
  /-- The worker of a task that has claimed dies. -/
  | die (i : ℕ)
  /-- `requeue_stale_delivering_notifications_task` reads. -/
  | findStale (run : ℕ) (now : ℤ)
  /-- It locks what it has found, and requeues. -/
  | requeueStale (run : ℕ) (now : ℤ)

namespace NotificationQueue

/-- `older_than_minutes=10`. -/
def olderThan : ℤ := 600000000

/-- The task at a position writes, and goes on as another or ends. -/
def advance (s : NotificationQueue) (i : ℕ) (db : NotificationsDb) (task : Option DeliveryTask) :
    NotificationQueue :=
  { s with db := db, tasks := replaceAt s.tasks i task }

open CreationStatement in
/-- A step.  A task that stands elsewhere does nothing. -/
def step (s : NotificationQueue) : QueueStep → NotificationQueue
  | .commit statements =>
      match executeAll statements s.db with
      | (.ok hooks, db) =>
          { s with
            db := db
            tasks := s.tasks ++ hooks.map fun id => { notification := id } }
      | (.error _, _) => s
  | .receive i =>
      match s.tasks[i]? with
      | some ⟨id, retries, .waiting⟩ => s.advance i s.db (some ⟨id, retries, .received⟩)
      | _ => s
  | .claim i now =>
      match s.tasks[i]? with
      | some ⟨id, retries, .received⟩ =>
          match (s.db.rows.find id).bind fun row => row.claimForDelivery now with
          | some copy =>
              s.advance i (s.db.write id copy)
                (some ⟨id, retries, .working (.claimed .sendNotificationTask copy)⟩)
          | none => s.advance i s.db none
      | _ => s
  | .work i move =>
      match s.tasks[i]? with
      | some ⟨id, retries, .working phase⟩ =>
          match s.db.rows.find id with
          | some row =>
              let (n, next) := move.apply row.toNotification phase
              s.advance i (s.db.write id n) (next.map fun phase => ⟨id, retries, phase⟩)
          | none => s
      | _ => s
  | .retry i =>
      match s.tasks[i]? with
      | some ⟨id, retries, .retrying⟩ =>
          s.advance i s.db (if 3 ≤ retries then none else some ⟨id, retries + 1, .waiting⟩)
      | _ => s
  | .die i =>
      match s.tasks[i]? with
      | some ⟨_, _, .working _⟩ => s.advance i s.db none
      | some ⟨_, _, .retrying⟩ => s.advance i s.db none
      | _ => s
  | .findStale run now =>
      { s with
        matched := Function.update s.matched run (s.db.staleDelivering now olderThan 100) }
  | .requeueStale run now =>
      { s with
        db := s.db.requeueMatched (s.matched run) now olderThan
        matched := Function.update s.matched run [] }

/-! ### No notification is stranded -/

/-- Every pending notification has a task that is still to claim it. -/
def NotStranded (s : NotificationQueue) : Prop :=
  ∀ row ∈ s.db.rows, row.status = .pending →
    ∃ task ∈ s.tasks, task.notification = row.id ∧ task.phase.announces = true

instance (s : NotificationQueue) : Decidable s.NotStranded :=
  inferInstanceAs (Decidable (∀ row ∈ s.db.rows, row.status = .pending →
    ∃ task ∈ s.tasks, task.notification = row.id ∧ task.phase.announces = true))

/-- The step finds a delivery stale under the lock. -/
def Requeues (s : NotificationQueue) : QueueStep → Prop
  | .requeueStale run now =>
      ∃ row ∈ s.db.rows, row.id ∈ s.matched run ∧ row.status = .delivering ∧
        row.updatedAt ≤ now - olderThan
  | _ => False

instance (s : NotificationQueue) : (i : QueueStep) → Decidable (s.Requeues i)
  | .requeueStale run now =>
      inferInstanceAs (Decidable (∃ row ∈ s.db.rows, row.id ∈ s.matched run ∧
        row.status = .delivering ∧ row.updatedAt ≤ now - olderThan))
  | .commit _ | .receive _ | .claim _ _ | .work _ _ | .retry _ | .die _ | .findStale _ _ =>
      inferInstanceAs (Decidable False)

/-- Nothing waits, and nothing is pending. -/
structure Quiet (s : NotificationQueue) : Prop where
  tasks : s.tasks = []
  rows : ∀ row ∈ s.db.rows, row.status ≠ .pending

/-- A notification has one task at most, and none but a delivery while it is being
delivered. -/
structure Consistent (s : NotificationQueue) : Prop where
  nodup : (s.tasks.map fun task => task.notification).Nodup
  known : ∀ task ∈ s.tasks, task.notification < s.db.rows.nextPk
  delivering : ∀ task ∈ s.tasks, ∀ row ∈ s.db.rows, row.id = task.notification →
    row.status = .delivering → task.phase.delivers = true

variable {s : NotificationQueue}

theorem Quiet.consistent (h : s.Quiet) : s.Consistent where
  nodup := by rw [h.tasks]; exact List.nodup_nil
  known := by rw [h.tasks]; simp
  delivering := by rw [h.tasks]; simp

theorem Quiet.notStranded (h : s.Quiet) : s.NotStranded :=
  fun row hrow hpending => absurd hpending (h.rows row hrow)

variable {i : ℕ} {task : DeliveryTask} {db : NotificationsDb} {next : Option DeliveryTask}

/-- Two tasks of a notification are one. -/
theorem Consistent.eq_of_notification_eq (h : s.Consistent) {a b : DeliveryTask} (ha : a ∈ s.tasks)
    (hb : b ∈ s.tasks) (heq : a.notification = b.notification) : a = b :=
  List.inj_on_of_nodup_map h.nodup ha hb heq

/-- A notification whose task does not announce it is not pending. -/
theorem NotStranded.not_pending (hp : s.NotStranded) (h : s.Consistent) (htask : task ∈ s.tasks)
    (hphase : task.phase.announces = false) {row : NotificationRow} (hrow : row ∈ s.db.rows)
    (hid : row.id = task.notification) : row.status ≠ .pending := by
  intro hpending
  obtain ⟨other, hother, hother_id, hannounces⟩ := hp row hrow hpending
  obtain rfl := h.eq_of_notification_eq hother htask (hother_id.trans hid)
  rw [hphase] at hannounces
  cases hannounces

/-! ### Steps of a task -/

/-- The status of a notification and its task agree. -/
structure Suits (status : NotificationStatus) (next : Option DeliveryTask) : Prop where
  pending : status = .pending → ∃ task, next = some task ∧ task.phase.announces = true
  delivering : status = .delivering → ∀ task, next = some task → task.phase.delivers = true

/-- The rows of other notifications keep their status, and that of this one is as said. -/
structure Touches (db db' : NotificationsDb) (id : ℕ) (ok : NotificationStatus → Prop) :
    Prop where
  nextPk : db'.rows.nextPk = db.rows.nextPk
  rows : ∀ row ∈ db'.rows, (row.id = id ∧ ok row.status) ∨
    (row.id ≠ id ∧ ∃ old ∈ db.rows, old.id = row.id ∧ old.status = row.status)

/-- **The step lemma of a task.** -/
theorem advance_spec (h : s.Consistent) (hp : s.NotStranded) (htask : s.tasks[i]? = some task)
    (hid : ∀ after, next = some after → after.notification = task.notification)
    (hdb : Touches s.db db task.notification fun status => Suits status next) :
    (s.advance i db next).Consistent ∧ (s.advance i db next).NotStranded := by
  have hmem : task ∈ s.tasks := List.mem_of_getElem? htask
  have htasks : ∀ other, other ∈ replaceAt s.tasks i next ↔ next = some other ∨
      (other ∈ s.tasks ∧ other.notification ≠ task.notification) :=
    fun other => mem_replaceAt h.nodup htask
  refine ⟨⟨nodup_replaceAt h.nodup htask hid, ?_, ?_⟩, ?_⟩
  · intro other hother
    rw [show (s.advance i db next).db.rows.nextPk = s.db.rows.nextPk from hdb.nextPk]
    rcases (htasks other).mp hother with hnext | ⟨hold, -⟩
    · rw [hid other hnext]
      exact h.known task hmem
    · exact h.known other hold
  · intro other hother row hrow hrow_id hdelivering
    rcases (htasks other).mp hother with hnext | ⟨hold, hne⟩
    · rcases hdb.rows row hrow with ⟨-, hsuits⟩ | ⟨hrow_ne, -⟩
      · exact hsuits.delivering hdelivering other hnext
      · exact absurd (hrow_id.trans (hid other hnext)) hrow_ne
    · rcases hdb.rows row hrow with ⟨hrow_eq, -⟩ | ⟨-, old, hold_row, hold_id, hold_status⟩
      · exact absurd (hrow_id.symm.trans hrow_eq) hne
      · exact h.delivering other hold old hold_row (hold_id.trans hrow_id)
          (hold_status.trans hdelivering)
  · intro row hrow hpending
    rcases hdb.rows row hrow with ⟨hrow_eq, hsuits⟩ | ⟨hrow_ne, old, hold, hold_id, hold_status⟩
    · obtain ⟨after, hafter, hannounces⟩ := hsuits.pending hpending
      exact ⟨after, (htasks after).mpr (Or.inl hafter), (hid after hafter).trans hrow_eq.symm,
        hannounces⟩
    · obtain ⟨other, hother, hother_id, hannounces⟩ := hp old hold (hold_status.trans hpending)
      have hother_id := hother_id.trans hold_id
      have hne : other.notification ≠ task.notification := fun heq =>
        hrow_ne (hother_id.symm.trans heq)
      exact ⟨other, (htasks other).mpr (Or.inr ⟨hother, hne⟩), hother_id, hannounces⟩

theorem touches_write {id : ℕ} {n : Notification} {ok : NotificationStatus → Prop}
    (hok : ok n.status) : Touches db (db.write id n) id ok where
  nextPk := rfl
  rows := by
    intro row hrow
    rcases NotificationsDb.exists_of_mem_write hrow with ⟨hid, hstatus⟩ | hold
    · exact Or.inl ⟨hid, hstatus ▸ hok⟩
    · exact Or.inr hold

theorem touches_refl {id : ℕ} {ok : NotificationStatus → Prop}
    (hok : ∀ row ∈ db.rows, row.id = id → ok row.status) : Touches db db id ok where
  nextPk := rfl
  rows := by
    intro row hrow
    by_cases hid : row.id = id
    · exact Or.inl ⟨hid, hok row hrow hid⟩
    · exact Or.inr ⟨hid, row, hrow, rfl, rfl⟩

/-- A task goes on, and writes nothing. -/
theorem advance_of_suits (h : s.Consistent) (hp : s.NotStranded) (htask : s.tasks[i]? = some task)
    (hid : ∀ after, next = some after → after.notification = task.notification)
    (hpending : task.phase.announces = true → ∀ row ∈ s.db.rows, row.id = task.notification →
      row.status = .pending → ∃ after, next = some after ∧ after.phase.announces = true)
    (hdelivering : task.phase.delivers = true → next = none) :
    (s.advance i s.db next).Consistent ∧ (s.advance i s.db next).NotStranded := by
  have hmem : task ∈ s.tasks := List.mem_of_getElem? htask
  refine advance_spec h hp htask hid (touches_refl fun row hrow hrow_id => ⟨fun hrow_pending => ?_,
    fun hrow_delivering after hafter => ?_⟩)
  · cases hannounces : task.phase.announces with
    | true => exact hpending hannounces row hrow hrow_id hrow_pending
    | false => exact absurd hrow_pending (hp.not_pending h hmem hannounces hrow hrow_id)
  · have hdelivers := h.delivering task hmem row hrow hrow_id hrow_delivering
    rw [hdelivering hdelivers] at hafter
    cases hafter

theorem step_receive (h : s.Consistent) (hp : s.NotStranded) (i : ℕ) :
    (s.step (.receive i)).Consistent ∧ (s.step (.receive i)).NotStranded := by
  simp only [step]
  split
  · rename_i id retries htask
    refine advance_of_suits h hp htask (fun after hafter => ?_) (fun _ _ _ _ _ => ⟨_, rfl, rfl⟩)
      fun hdelivers => ?_
    · obtain rfl := Option.some.inj hafter
      rfl
    · cases hdelivers
  · exact ⟨h, hp⟩

theorem step_claim (h : s.Consistent) (hp : s.NotStranded) (i : ℕ) (now : ℤ) :
    (s.step (.claim i now)).Consistent ∧ (s.step (.claim i now)).NotStranded := by
  simp only [step]
  split
  · rename_i id retries htask
    split
    · rename_i copy hclaim
      obtain ⟨row, -, hcopy⟩ := Option.bind_eq_some_iff.mp hclaim
      have hstatus : copy.status = .delivering := by
        unfold Notification.claimForDelivery at hcopy
        split at hcopy
        · cases hcopy
        · obtain rfl := Option.some.inj hcopy
          rfl
      refine advance_spec h hp htask (fun after hafter => ?_) (touches_write ⟨?_, ?_⟩)
      · obtain rfl := Option.some.inj hafter
        rfl
      · intro hpending
        rw [hstatus] at hpending
        cases hpending
      · intro _ after hafter
        obtain rfl := Option.some.inj hafter
        rfl
    · rename_i hclaim
      refine advance_of_suits h hp htask (fun after hafter => by cases hafter)
        (fun _ row hrow hrow_id hpending => ?_) fun _ => rfl
      -- a pending row can be claimed
      have hfind : s.db.rows.find id = some row := Table.find_eq_some_iff.mpr ⟨hrow, hrow_id⟩
      rw [hfind, Option.bind_some, Notification.claimForDelivery, hpending, if_neg (by decide)]
        at hclaim
      cases hclaim
  · exact ⟨h, hp⟩

theorem step_work (h : s.Consistent) (hp : s.NotStranded) (i : ℕ) (move : DeliveryMove) :
    (s.step (.work i move)).Consistent ∧ (s.step (.work i move)).NotStranded := by
  simp only [step]
  split
  · rename_i id retries phase htask
    have hmem := List.mem_of_getElem? htask
    split
    · rename_i row hfind
      obtain ⟨hrow, hrow_id⟩ := Table.find_eq_some_iff.mp hfind
      have hleaves : DeliveryMove.Leaves row.toNotification
          (move.apply row.toNotification phase) := by
        refine DeliveryMove.leaves_apply move (or_iff_not_imp_right.mpr fun hdelivering => ?_)
        rintro rfl
        cases h.delivering _ hmem row hrow hrow_id (not_not.mp hdelivering)
      refine advance_spec h hp htask (fun after hafter => ?_) (touches_write ⟨?_, ?_⟩)
      · obtain ⟨after_phase, -, rfl⟩ := Option.map_eq_some_iff.mp hafter
        rfl
      · intro hpending
        have hwas := hp.not_pending h hmem rfl hrow hrow_id
        rcases hleaves.status with hsame | hsent | hfailed
        · exact absurd (hsame.symm.trans hpending) hwas
        · rw [hsent] at hpending
          cases hpending
        · rw [hfailed] at hpending
          cases hpending
      · intro hdelivering after hafter
        obtain ⟨after_phase, hnext, rfl⟩ := Option.map_eq_some_iff.mp hafter
        exact hleaves.next hdelivering after_phase hnext
    · exact ⟨h, hp⟩
  · exact ⟨h, hp⟩

theorem step_retry (h : s.Consistent) (hp : s.NotStranded) (i : ℕ) :
    (s.step (.retry i)).Consistent ∧ (s.step (.retry i)).NotStranded := by
  simp only [step]
  split
  · rename_i id retries htask
    refine advance_of_suits h hp htask (fun after hafter => ?_) (fun hannounces => ?_)
      fun hdelivers => ?_
    · split at hafter
      · cases hafter
      · obtain rfl := Option.some.inj hafter
        rfl
    · cases hannounces
    · cases hdelivers
  · exact ⟨h, hp⟩

theorem step_die (h : s.Consistent) (hp : s.NotStranded) (i : ℕ) :
    (s.step (.die i)).Consistent ∧ (s.step (.die i)).NotStranded := by
  simp only [step]
  split
  · rename_i id retries phase htask
    refine advance_of_suits h hp htask (fun after hafter => by cases hafter)
      (fun hannounces => ?_) fun _ => rfl
    cases hannounces
  · rename_i id retries htask
    refine advance_of_suits h hp htask (fun after hafter => by cases hafter)
      (fun hannounces => ?_) fun _ => rfl
    cases hannounces
  · exact ⟨h, hp⟩

/-! ### Commits and requeueings -/

open CreationStatement in
/-- What a commit makes pending, its hooks start a task for. -/
theorem step_commit (h : s.Consistent) (hp : s.NotStranded) (statements : List CreationStatement) :
    (s.step (.commit statements)).Consistent ∧ (s.step (.commit statements)).NotStranded := by
  simp only [step]
  split
  · rename_i hooks db hexecute
    have hextends := NotificationsDb.extends_executeAll hexecute
    have hnew : ∀ task ∈ hooks.map fun id => ({ notification := id } : DeliveryTask),
        task.notification ∈ hooks ∧ task.phase = .waiting := by
      intro task htask
      obtain ⟨id, hid, rfl⟩ := List.mem_map.mp htask
      exact ⟨hid, rfl⟩
    refine ⟨⟨?_, fun task htask => ?_, fun task htask row hrow hid hdelivering => ?_⟩,
      fun row hrow hpending => ?_⟩
    · have hids : (hooks.map fun id => ({ notification := id } : DeliveryTask)).map
          (fun task => task.notification) = hooks := by
        rw [List.map_map]
        exact List.map_id hooks
      rw [List.map_append, hids, List.nodup_append]
      refine ⟨h.nodup, hextends.hooks_nodup, fun a ha id hid hab => ?_⟩
      obtain ⟨task, htask, rfl⟩ := List.mem_map.mp ha
      have hknown := h.known task htask
      have hle := (hextends.hooks_new id hid).1
      exact absurd (hab ▸ hknown) (not_lt.mpr hle)
    · rcases List.mem_append.mp htask with hold | htask
      · exact (h.known task hold).trans_le hextends.nextPk_le
      · exact (hextends.hooks_new _ (hnew task htask).1).2
    · rcases hextends.rows row hrow with ⟨hpending, -⟩ | ⟨old, hold, hold_id, hold_status⟩
      · rw [hpending] at hdelivering
        cases hdelivering
      rcases List.mem_append.mp htask with htask | htask
      · exact h.delivering task htask old hold (hold_id.trans hid)
          (hold_status.trans hdelivering)
      · -- an old row is not that of a new task
        have hle := (hextends.hooks_new _ (hnew task htask).1).1
        have hlt := s.db.rows.pk_lt_nextPk old hold
        rw [pk_notificationRow, hold_id, hid] at hlt
        exact absurd hlt (not_lt.mpr hle)
    · rcases hextends.rows row hrow with ⟨-, hhook⟩ | ⟨old, hold, hold_id, hold_status⟩
      · exact ⟨_, List.mem_append_right _ (List.mem_map_of_mem hhook), rfl, rfl⟩
      · obtain ⟨task, htask, htask_id, hannounces⟩ := hp old hold (hold_status.trans hpending)
        exact ⟨task, List.mem_append_left _ htask, htask_id.trans hold_id, hannounces⟩
  · exact ⟨h, hp⟩

/-- The status of a row behind a requeueing. -/
theorem requeueStale_status {n : Notification} {now olderThan : ℤ} :
    (n.requeueStale now olderThan).status =
      if n.status = .delivering ∧ n.updatedAt ≤ now - olderThan then .pending else n.status := by
  unfold Notification.requeueStale
  by_cases hstatus : n.status = .delivering
  · rw [if_neg (not_not.mpr hstatus)]
    by_cases hstale : n.updatedAt ≤ now - olderThan
    · rw [if_neg (not_lt.mpr hstale), if_pos ⟨hstatus, hstale⟩]
      rfl
    · rw [if_pos (not_le.mp hstale), if_neg fun hboth => hstale hboth.2]
  · rw [if_pos hstatus, if_neg fun hboth => hstatus hboth.1]

/-- The rows behind a requeueing: those that it takes up are pending, the others keep their
status. -/
theorem mem_requeueMatched {matched : List ℕ} {now olderThan : ℤ} {row : NotificationRow}
    (hrow : row ∈ (s.db.requeueMatched matched now olderThan).rows) :
    ∃ old ∈ s.db.rows, old.id = row.id ∧ row.status =
      if old.id ∈ matched ∧ old.status = .delivering ∧ old.updatedAt ≤ now - olderThan
      then .pending else old.status := by
  obtain ⟨old, hold, rfl⟩ := NotificationsDb.mem_mapNotifications.mp hrow
  refine ⟨old, hold, rfl, ?_⟩
  by_cases hmatched : old.id ∈ matched
  · simp only [hmatched, true_and, if_true, NotificationRow.withNotification]
    exact requeueStale_status
  · simp only [hmatched, false_and, if_false, NotificationRow.withNotification]

theorem step_requeueStale (h : s.Consistent) (hp : s.NotStranded) (run : ℕ) (now : ℤ) :
    (s.step (.requeueStale run now)).Consistent ∧
      ((s.step (.requeueStale run now)).NotStranded ↔ ¬s.Requeues (.requeueStale run now)) := by
  refine ⟨⟨h.nodup, h.known, fun task htask row hrow hid hdelivering => ?_⟩, ?_⟩
  · obtain ⟨old, hold, hold_id, hstatus⟩ := mem_requeueMatched hrow
    rw [hstatus] at hdelivering
    split at hdelivering
    · cases hdelivering
    · exact h.delivering task htask old hold (hold_id.trans hid) hdelivering
  constructor
  · rintro hafter ⟨row, hrow, hmatched, hdelivering, hstale⟩
    -- the task of the delivery, if there is one, has claimed
    have hpending := hafter (row.withNotification (row.requeueStale now olderThan))
      (NotificationsDb.mem_mapNotifications.mpr ⟨row, hrow, by rw [if_pos hmatched]⟩)
      (requeueStale_status.trans (if_pos ⟨hdelivering, hstale⟩))
    obtain ⟨task, htask, hid, hannounces⟩ := hpending
    have hdelivers := h.delivering task htask row hrow hid.symm hdelivering
    rw [TaskPhase.announces_of_delivers hdelivers] at hannounces
    cases hannounces
  · intro hnot row hrow hpending
    obtain ⟨old, hold, hold_id, hstatus⟩ := mem_requeueMatched hrow
    rw [if_neg fun hrequeued => hnot ⟨old, hold, hrequeued⟩] at hstatus
    obtain ⟨task, htask, hid, hannounces⟩ := hp old hold (hstatus.symm.trans hpending)
    exact ⟨task, htask, hid.trans hold_id, hannounces⟩

section Callers

variable (s)

/-- The queue after a fan-out whose transaction commits, wherever its loop has ended. -/
def dispatched (f : Fanout) (action : NotificationAction) (clock : Notice → Instant) :
    NotificationQueue :=
  let session := (f.dispatch action clock (f.notices action) { connection := { now := s.db } }).2
  { s with
    db := session.connection.now
    tasks := s.tasks ++ session.onCommit.map fun id => { notification := id } }

/-- The queue after an escalation on its notifications that has queued some of them. -/
def escalated (db : EscalationDb) (hooks : List ℕ) : NotificationQueue :=
  { s with
    db := db.notifications
    tasks := s.tasks ++ hooks.map fun id => { notification := id } }

variable {s}

theorem step_commit_eq {statements : List CreationStatement} {hooks : List ℕ}
    {db : NotificationsDb} (h : CreationStatement.executeAll statements s.db = (.ok hooks, db)) :
    s.step (.commit statements) =
      { s with
        db := db
        tasks := s.tasks ++ hooks.map fun id => { notification := id } } := by
  simp only [step, h]

/-- **A fan-out** is a commit of the queue, so it strands nothing. -/
theorem dispatched_spec (h : s.Consistent) (hp : s.NotStranded) (f : Fanout)
    (action : NotificationAction) (clock : Notice → Instant) :
    (s.dispatched f action clock).Consistent ∧ (s.dispatched f action clock).NotStranded := by
  obtain ⟨r, db, statements, hooks, hdispatch, hexecute⟩ :=
    @Fanout.dispatch_statements f action clock (f.notices action)
      { connection := { now := s.db } } rfl
  have hcommit : s.dispatched f action clock = s.step (.commit statements) := by
    rw [step_commit_eq hexecute, dispatched, hdispatch]
    rfl
  rw [hcommit]
  exact step_commit h hp statements

/-- **An escalation**, wherever it ended, has inserted what a commit inserts, so it strands
nothing if it has queued what it has inserted. -/
theorem escalated_spec (h : s.Consistent) (hp : s.NotStranded) (setup : EscalationSetup)
    (fails : EscalationPoint → Bool) (alert : AlertEvent) (policy : AlertEscalationPolicy)
    (now : Instant) (alerts : AlertsDb) :
    ∃ hooks, (s.escalated (setup.escalateAlert fails alert policy now ⟨alerts, s.db⟩).2
        hooks).Consistent ∧
      (s.escalated (setup.escalateAlert fails alert policy now ⟨alerts, s.db⟩).2
        hooks).NotStranded := by
  obtain ⟨statements, hooks, hexecute⟩ :=
    @escalation_statements setup fails alert policy now ⟨alerts, s.db⟩
  refine ⟨hooks, ?_⟩
  have hcommit := step_commit_eq hexecute
  have hspec := step_commit h hp statements
  rw [hcommit] at hspec
  exact hspec

end Callers

/-- **The step lemma.** -/
theorem step_spec (h : s.Consistent) (hp : s.NotStranded) (i : QueueStep) :
    (s.step i).Consistent ∧ ((s.step i).NotStranded ↔ ¬s.Requeues i) := by
  have hkeeps : ∀ {s' : NotificationQueue}, s'.Consistent ∧ s'.NotStranded →
      s'.Consistent ∧ (s'.NotStranded ↔ ¬False) :=
    fun hs' => ⟨hs'.1, iff_of_true hs'.2 not_false⟩
  cases i with
  | commit statements => exact hkeeps (step_commit h hp statements)
  | receive i => exact hkeeps (step_receive h hp i)
  | claim i now => exact hkeeps (step_claim h hp i now)
  | work i move => exact hkeeps (step_work h hp i move)
  | retry i => exact hkeeps (step_retry h hp i)
  | die i => exact hkeeps (step_die h hp i)
  | findStale run now => exact hkeeps ⟨⟨h.nodup, h.known, h.delivering⟩, hp⟩
  | requeueStale run now => exact step_requeueStale h hp run now

/-- **No notification is stranded** in a run that begins with nothing pending, exactly if no
requeueing of the run finds a delivery stale. -/
theorem notStranded_run_iff (h : s.Quiet) (w : List QueueStep) :
    (∀ u v, w = u ++ v → (run step s u).NotStranded) ↔
      Along step (fun before i _ => ¬before.Requeues i) s w :=
  always_iff_along (fun _ i _ hI hP => (step_spec hI hP i).1)
    (fun _ i _ hI hP => (step_spec hI hP i).2) h.consistent h.notStranded

/-! ### A worker that dies -/

/-- No notifications, and no tasks. -/
def atRest : NotificationQueue where
  db := .empty

theorem atRest_quiet : atRest.Quiet where
  tasks := rfl
  rows _ hrow := by cases hrow

/-- The notification of an alert, and the worker that claims it. -/
def claimedNotice : List QueueStep :=
  [.commit [.insert (notificationRow firstBankAlert ⟨1, .opened, .email, 1⟩
      "Alert Opened: UPS 01" "UPS 01  OPEN: On battery" 0) rfl],
    .receive 0, .claim 0 0]

/-- The worker delivers, and the requeueing has nothing to do. -/
def deliveredNotice : List QueueStep :=
  claimedNotice ++ [.work 0 (.deliver (.ok []) 1000000), .work 0 (.saveSent 1000000 ""),
    .findStale 0 600000000, .requeueStale 0 600000000]

/-- The worker dies, and the next requeueing makes the notification pending. -/
def lostNotice : List QueueStep :=
  claimedNotice ++ [.die 0, .findStale 0 660000000, .requeueStale 0 660000000]

theorem deliveredNotice_notStranded : (run step atRest deliveredNotice).NotStranded :=
  (notStranded_run_iff atRest_quiet deliveredNotice).mpr (by decide) deliveredNotice []
    (List.append_nil _).symm

/-- No task is left for it. -/
theorem lostNotice_stranded :
    ¬∀ u v, lostNotice = u ++ v → (run step atRest u).NotStranded := by
  intro h
  exact absurd (h lostNotice [] (List.append_nil _).symm) (by decide)

end NotificationQueue

end DcimBackend
