import DcimBackend.Library.Balance
import DcimBackend.Library.Fallible
import DcimBackend.Notifications.Creation

/-!
# Reading notifications

`NotificationViewSet` (`apps/notifications/views.py`), beside the deliveries of the same rows.

`mark_all_read` and `unread_count` are one statement each.  `mark_read` loads a notification, and
saves `read_at` and `updated_at` of its copy in a second statement, so between the two any other
request may run.  `readAt_stays_iff` says what comes of it: the time of reading is final exactly if
no such save comes late.

The rows are those of `Notifications.Delivery` with one column more, and a delivery writes every
column but that one (`delivered`).  Each request is made by a user, with the tables of the access
control at that time, and sees the notifications that `get_queryset` leaves: its own, as far as
its scope goes.  The tables may change between any two steps.

Unread counts are kept as accounts in the sense of `Library.Balance`: what arrives, less what is
marked, is what is there.  They hold of every run, late saves included, since a late save finds
nothing unread.
-/

namespace DcimBackend

open Library

/-! ### The rows -/

/-- `Notification`, with the time of its reading. -/
structure InboxRow extends NotificationRow where
  readAt : Option Instant := none

instance : Keyed InboxRow := ⟨fun row => row.id⟩

namespace InboxRow

/-- The row of a new notification. -/
def new (row : NotificationRow) (id : ℕ) : InboxRow := { toNotificationRow := row.withId id }

/-- The row after a statement of its delivery. -/
def delivered (n : Notification) (row : InboxRow) : InboxRow :=
  { row with toNotificationRow := { row.toNotificationRow with toNotification := n } }

/-- `save(update_fields=["read_at", "updated_at"])`. -/
def stamped (readAt now : Instant) (row : InboxRow) : InboxRow :=
  { row with readAt := some readAt, updatedAt := now }

/-- `Notification.objects.filter(recipient=user, read_at__isnull=True)`. -/
def isUnreadOf (user : UserId) (row : InboxRow) : Bool :=
  row.recipient = some user && row.readAt.isNone

/-- `update(read_at=now)`, of the rows that are unread. -/
def stampedAll (user : UserId) (now : Instant) (row : InboxRow) : InboxRow :=
  if row.isUnreadOf user then { row with readAt := some now } else row

theorem pk_stampedAll (user : UserId) (now : Instant) (row : InboxRow) :
    pk (row.stampedAll user now) = pk row := by
  unfold stampedAll
  split
  · rfl
  · rfl

end InboxRow

/-! ### The view set -/

/-- The fields of `Notification` that lead to a resource. -/
def notificationSchema : Schema Unit where
  getField _ name := if name = "organization" then some (.relation ()) else none

/-- A request: who makes it, and the tables of the access control by then. -/
structure InboxRequest where
  db : Directory
  user : User
  isStaff : Bool := false

/-- A notification that a thread is about to save as read. -/
structure PendingRead where
  id : ℕ
  user : UserId
  readAt : Instant

/-- The notifications, with the workers that deliver them, and the requests between their two
statements. -/
structure Inbox where
  rows : Table InboxRow := .empty
  workers : ℕ → ℕ → DeliveryPhase := fun _ _ => .idle
  saves : ℕ → Option PendingRead := fun _ => none

/-- What happens. -/
inductive InboxStep
  | arrive (row : NotificationRow)
  | deliver (id : ℕ) (i : DeliveryStep)
  | unreadCount (user : UserId)
  | markAllRead (user : UserId) (now : Instant)
  /-- The first statement of `mark_read`, in a thread. -/
  | markRead (thread : ℕ) (request : InboxRequest) (id : ℕ) (now : Instant)
  /-- The second one. -/
  | saveRead (thread : ℕ) (now : Instant)

namespace Inbox

variable (s : Inbox)

/-- `NotificationViewSet.get_queryset`. -/
def getQueryset (request : InboxRequest) : Except FieldError (List InboxRow) := do
  let rows ← notificationSchema.filterQuerysetForUser request.db
    { model := (), rows := s.rows.rows,
      keyAt := fun path row => if path = ["organization"] then some row.organization else none }
    (some request.user) { accessScope := .level .organization }
  if request.user.isSuperuser || request.isStaff then return rows
  return rows.filter fun row => row.recipient = some request.user.id

/-- The notification that `mark_read` is to save: `get_object`, and its two checks. -/
def toMark (request : InboxRequest) (id : ℕ) : Option InboxRow :=
  ((s.getQueryset request).toOption.bind fun rows => rows.find? fun row => row.id = id).filter
    fun row => row.isUnreadOf request.user.id

/-- The number of unread notifications of a user. -/
def unread (user : UserId) : ℕ := s.rows.rows.countP (InboxRow.isUnreadOf user)

/-- The number in the answer: `unread_count`, or `updated_count`. -/
def answer : InboxStep → Option ℕ
  | .unreadCount user => some (s.unread user)
  | .markAllRead user _ => some (s.unread user)
  | _ => none

/-- A write to one row. -/
def writeRow (id : ℕ) (f : InboxRow → InboxRow) (hf : ∀ row, pk (f row) = pk row) : Table InboxRow :=
  s.rows.modify (fun row => if pk row = id then f row else row) fun row => by
    split
    · exact hf row
    · rfl

/-- A step. -/
def step (s : Inbox) : InboxStep → Inbox
  | .arrive row => { s with rows := s.rows.save (.new row s.rows.nextPk) }
  | .deliver id i =>
      (s.rows.find id).elim s fun row =>
        let d := Deliveries.step ⟨row.toNotification, s.workers id⟩ i
        { s with
          rows := s.writeRow id (InboxRow.delivered d.notification) fun _ => rfl
          workers := Function.update s.workers id d.workers }
  | .unreadCount _ => s
  | .markAllRead user now =>
      { s with
        rows := s.rows.modify (InboxRow.stampedAll user now) (InboxRow.pk_stampedAll user now) }
  | .markRead thread request id now =>
      if (s.saves thread).isSome then s
      else
        (s.toMark request id).elim s fun row =>
          { s with
            saves := Function.update s.saves thread (some ⟨row.id, request.user.id, now⟩) }
  | .saveRead thread now =>
      (s.saves thread).elim s fun p =>
        { s with
          rows := s.writeRow p.id (InboxRow.stamped p.readAt now) fun _ => rfl
          saves := Function.update s.saves thread none }

/-! ### What a step does to a row -/

/-- What becomes of a row in a step. -/
inductive Evolves (i : InboxStep) (row : InboxRow) : InboxRow → Prop
  | same : Evolves i row row
  | delivered (j : DeliveryStep) (n : Notification) (h : i = .deliver row.id j) :
      Evolves i row (row.delivered n)
  | stampedAll (user : UserId) (now : Instant) (h : i = .markAllRead user now)
      (hunread : row.isUnreadOf user = true) : Evolves i row { row with readAt := some now }
  | stamped (thread : ℕ) (now : Instant) (p : PendingRead) (h : i = .saveRead thread now)
      (hsave : s.saves thread = some p) (hid : p.id = row.id) :
      Evolves i row (row.stamped p.readAt now)

variable {s} {row row' : InboxRow}

theorem Evolves.pk {i : InboxStep} (h : s.Evolves i row row') : pk row' = pk row := by
  cases h with
  | same => rfl
  | delivered j n h => rfl
  | stampedAll user now h hunread => rfl
  | stamped thread now p h hsave hid => rfl

theorem mem_writeRow {id : ℕ} (f : InboxRow → InboxRow)
    (hf : ∀ row, Keyed.pk (f row) = Keyed.pk row) :
    row' ∈ s.writeRow id f hf ↔
      ∃ row ∈ s.rows, (if Keyed.pk row = id then f row else row) = row' :=
  Table.mem_modify

/-- **What a step does**: every row evolves. -/
theorem exists_evolves (hrow : row ∈ s.rows) (i : InboxStep) :
    ∃ row' ∈ (step s i).rows, s.Evolves i row row' := by
  cases i with
  | arrive new =>
      have hne : Keyed.pk row ≠ s.rows.nextPk := (s.rows.pk_lt_nextPk row hrow).ne
      exact ⟨row, Table.mem_save.mpr (Or.inr ⟨hrow, hne⟩), .same⟩
  | deliver id j =>
      show ∃ row' ∈ ((s.rows.find id).elim s _).rows, _
      cases s.rows.find id with
      | none => exact ⟨row, hrow, .same⟩
      | some stored =>
          refine ⟨_, (mem_writeRow (InboxRow.delivered _) fun _ => rfl).mpr ⟨row, hrow, rfl⟩, ?_⟩
          split
          · rename_i hid
            exact .delivered j _ (hid ▸ rfl)
          · exact .same
  | unreadCount user => exact ⟨row, hrow, .same⟩
  | markAllRead user now =>
      show ∃ row' ∈ s.rows.modify (InboxRow.stampedAll user now) (InboxRow.pk_stampedAll user now), _
      refine ⟨row.stampedAll user now, Table.mem_modify.mpr ⟨row, hrow, rfl⟩, ?_⟩
      unfold InboxRow.stampedAll
      split
      · rename_i hunread
        exact .stampedAll user now rfl hunread
      · exact .same
  | markRead thread request id now =>
      refine ⟨row, ?_, .same⟩
      show row ∈ Inbox.rows (if _ then _ else (s.toMark request id).elim s _)
      split
      · exact hrow
      · cases s.toMark request id with
        | none => exact hrow
        | some found => exact hrow
  | saveRead thread now =>
      show ∃ row' ∈ ((s.saves thread).elim s _).rows, _
      cases hsave : s.saves thread with
      | none => exact ⟨row, hrow, .same⟩
      | some p =>
          refine ⟨_,
            (mem_writeRow (InboxRow.stamped p.readAt now) fun _ => rfl).mpr ⟨row, hrow, rfl⟩, ?_⟩
          split
          · rename_i hid
            exact .stamped thread now p rfl hsave hid.symm
          · exact .same

/-- The rows before and after a step are told by their keys. -/
theorem evolves_of_pk {i : InboxStep} (hrow : row ∈ s.rows) (hrow' : row' ∈ (step s i).rows)
    (hpk : Keyed.pk row' = Keyed.pk row) : s.Evolves i row row' := by
  obtain ⟨other, hother, hevolves⟩ := exists_evolves hrow i
  rwa [(step s i).rows.eq_of_pk_eq hrow' hother (hpk.trans hevolves.pk.symm)]

/-! ### Who reads -/

/-- Who has made the request of a statement that marks notifications as read. -/
def reader : InboxStep → Option UserId
  | .markAllRead user _ => some user
  | .saveRead thread _ => (s.saves thread).map PendingRead.user
  | _ => none

/-- A thread is about to save a notification of the user whose request it serves. -/
def SavesOwn (s : Inbox) : Prop :=
  ∀ thread p, s.saves thread = some p →
    ∃ row ∈ s.rows, pk row = p.id ∧ row.recipient = some p.user

/-- What a step may do to the notifications that are there: their recipients stay, only a request of
the recipient changes the time of reading, what is read is never unread, and only the delivery of
a notification changes what its delivery has written. -/
structure KeepsReceipts (before : Inbox) (i : InboxStep) (after : Inbox) : Prop where
  kept : ∀ row ∈ before.rows, ∃ row' ∈ after.rows, pk row' = pk row
  recipient : ∀ row ∈ before.rows, ∀ row' ∈ after.rows, pk row' = pk row →
    row'.recipient = row.recipient
  reader : ∀ row ∈ before.rows, ∀ row' ∈ after.rows, pk row' = pk row →
    row'.readAt ≠ row.readAt → ∃ user, before.reader i = some user ∧ row.recipient = some user
  read : ∀ row ∈ before.rows, ∀ row' ∈ after.rows, pk row' = pk row →
    row.readAt.isSome = true → row'.readAt.isSome = true
  delivery : ∀ row ∈ before.rows, ∀ row' ∈ after.rows, pk row' = pk row →
    (∃ j, i = .deliver (pk row) j) ∨
      row'.toNotification = { row.toNotification with updatedAt := row'.updatedAt }

theorem mem_of_getQueryset {request : InboxRequest} {rows : List InboxRow}
    (h : s.getQueryset request = .ok rows) (hrow : row ∈ rows) : row ∈ s.rows := by
  obtain ⟨filtered, hfiltered, hrows⟩ := bind_eq_ok_iff.mp h
  have hsub : row ∈ filtered := by
    split at hrows
    · exact Except.ok.inj hrows ▸ hrow
    · exact List.mem_of_mem_filter (Except.ok.inj hrows ▸ hrow)
  exact ((Schema.mem_filterQuerysetForUser hfiltered).mp hsub).1

theorem recipient_of_toMark {request : InboxRequest} {id : ℕ}
    (h : s.toMark request id = some row) : row ∈ s.rows ∧ row.recipient = some request.user.id := by
  obtain ⟨hfound, hunread⟩ := Option.filter_eq_some_iff.mp h
  obtain ⟨rows, hrows, hfind⟩ := Option.bind_eq_some_iff.mp hfound
  refine ⟨mem_of_getQueryset (toOption_eq_some_iff.mp hrows) (List.mem_of_find?_eq_some hfind), ?_⟩
  unfold InboxRow.isUnreadOf at hunread
  rw [Bool.and_eq_true] at hunread
  exact of_decide_eq_true hunread.1

/-- **Who reads**: a step keeps the receipts. -/
theorem keepsReceipts_step (h : s.SavesOwn) (i : InboxStep) : KeepsReceipts s i (step s i) where
  kept row hrow := by
    obtain ⟨row', hrow', hevolves⟩ := exists_evolves hrow i
    exact ⟨row', hrow', hevolves.pk⟩
  recipient row hrow row' hrow' hpk := by
    cases evolves_of_pk hrow hrow' hpk with
    | same => rfl
    | delivered j n h => rfl
    | stampedAll user now h hunread => rfl
    | stamped thread now p h hsave hid => rfl
  reader row hrow row' hrow' hpk hne := by
    cases evolves_of_pk hrow hrow' hpk with
    | same => exact absurd rfl hne
    | delivered j n h => exact absurd rfl hne
    | stampedAll user now hi hunread =>
        unfold InboxRow.isUnreadOf at hunread
        rw [Bool.and_eq_true] at hunread
        exact ⟨user, by rw [hi]; rfl, of_decide_eq_true hunread.1⟩
    | stamped thread now p hi hsave hid =>
        obtain ⟨own, hown, hkey, hrecipient⟩ := h thread p hsave
        have hsame : own = row := s.rows.eq_of_pk_eq hown hrow (hkey.trans hid)
        refine ⟨p.user, ?_, hsame ▸ hrecipient⟩
        rw [hi, Inbox.reader, hsave, Option.map_some]
  read row hrow row' hrow' hpk hread := by
    cases evolves_of_pk hrow hrow' hpk with
    | same => exact hread
    | delivered j n h => exact hread
    | stampedAll user now h hunread => rfl
    | stamped thread now p h hsave hid => rfl
  delivery row hrow row' hrow' hpk := by
    cases evolves_of_pk hrow hrow' hpk with
    | same => exact Or.inr rfl
    | delivered j n h => exact Or.inl ⟨j, h⟩
    | stampedAll user now h hunread => exact Or.inr rfl
    | stamped thread now p h hsave hid => exact Or.inr rfl

/-- What a thread is about to save after a step was loaded earlier, or is loaded in it. -/
theorem saves_step {i : InboxStep} {thread : ℕ} {p : PendingRead}
    (h : (step s i).saves thread = some p) : s.saves thread = some p ∨
      ∃ request id row, s.toMark request id = some row ∧ row.id = p.id ∧
        request.user.id = p.user := by
  cases i with
  | arrive new => exact Or.inl h
  | deliver id j =>
      change Inbox.saves ((s.rows.find id).elim s _) thread = some p at h
      cases hfind : s.rows.find id with
      | none => exact Or.inl (by rwa [hfind] at h)
      | some row => exact Or.inl (by rwa [hfind] at h)
  | unreadCount user => exact Or.inl h
  | markAllRead user now => exact Or.inl h
  | markRead loading request id now =>
      change Inbox.saves (if _ then _ else (s.toMark request id).elim s _) thread = some p at h
      split at h
      · exact Or.inl h
      · cases hmark : s.toMark request id with
        | none => exact Or.inl (by rwa [hmark] at h)
        | some row =>
            rw [hmark] at h
            change Function.update s.saves loading (some ⟨row.id, request.user.id, now⟩) thread =
              some p at h
            by_cases hthread : thread = loading
            · rw [hthread, Function.update_self, Option.some.injEq] at h
              exact Or.inr ⟨request, id, row, hmark, h ▸ rfl, h ▸ rfl⟩
            · rw [Function.update_of_ne hthread] at h
              exact Or.inl h
  | saveRead saving now =>
      change Inbox.saves ((s.saves saving).elim s _) thread = some p at h
      cases hsave : s.saves saving with
      | none => exact Or.inl (by rwa [hsave] at h)
      | some q =>
          rw [hsave] at h
          change Function.update s.saves saving none thread = some p at h
          by_cases hthread : thread = saving
          · rw [hthread, Function.update_self] at h
            cases h
          · rw [Function.update_of_ne hthread] at h
            exact Or.inl h

theorem SavesOwn.step (h : s.SavesOwn) (i : InboxStep) : (step s i).SavesOwn := by
  intro thread p hsave
  have hown : ∃ row ∈ s.rows, Keyed.pk row = p.id ∧ row.recipient = some p.user := by
    rcases saves_step hsave with hold | ⟨request, id, row, hmark, hid, huser⟩
    · exact h thread p hold
    · obtain ⟨hrow, hrecipient⟩ := recipient_of_toMark hmark
      exact ⟨row, hrow, hid, huser ▸ hrecipient⟩
  obtain ⟨row, hrow, hkey, hrecipient⟩ := hown
  have hkeeps := keepsReceipts_step h i
  obtain ⟨row', hrow', hpk⟩ := hkeeps.kept row hrow
  exact ⟨row', hrow', hpk.trans hkey, (hkeeps.recipient row hrow row' hrow' hpk).trans hrecipient⟩

/-! ### The unread count -/

/-- The notifications of a user that arrive in a step. -/
def arrived (user : UserId) (_ : Inbox) : InboxStep → ℕ
  | .arrive new => if new.recipient = some user then 1 else 0
  | _ => 0

/-- What the answer says that `mark_all_read` has marked of a user. -/
def markedAll (user : UserId) (s : Inbox) : InboxStep → ℕ
  | .markAllRead u now => if u = user then (s.answer (.markAllRead u now)).getD 0 else 0
  | _ => 0

/-- The unread notifications of a user that the save of a `mark_read` marks. -/
def markedOne (user : UserId) (s : Inbox) : InboxStep → ℕ
  | .saveRead thread _ =>
      (s.saves thread).elim 0 fun p =>
        s.rows.rows.countP fun row => row.id = p.id && row.isUnreadOf user
  | _ => 0

theorem unread_modify {user : UserId} {f : InboxRow → InboxRow}
    {hf : ∀ row, Keyed.pk (f row) = Keyed.pk row}
    (h : ∀ row, (f row).isUnreadOf user = row.isUnreadOf user) :
    (s.rows.modify f hf).rows.countP (InboxRow.isUnreadOf user) = s.unread user := by
  show (s.rows.rows.map f).countP _ = _
  rw [List.countP_map, unread]
  exact congrArg (List.countP · s.rows.rows) (funext h)

theorem unread_writeRow {user : UserId} {id : ℕ} (f : InboxRow → InboxRow)
    (hf : ∀ row, Keyed.pk (f row) = Keyed.pk row)
    (h : ∀ row, (f row).isUnreadOf user = row.isUnreadOf user) :
    (s.writeRow id f hf).rows.countP (InboxRow.isUnreadOf user) = s.unread user := by
  refine unread_modify fun row => ?_
  split
  · exact h row
  · rfl

theorem countP_insert {t : Table InboxRow} {row : InboxRow} (hrow : row.id = t.nextPk)
    (p : InboxRow → Bool) :
    (t.save row).rows.countP p = t.rows.countP p + if p row then 1 else 0 := by
  have hfresh : ¬∃ old ∈ t.rows, Keyed.pk old = Keyed.pk row := by
    rintro ⟨old, hold, hpk⟩
    exact (t.pk_lt_nextPk old hold).ne (hpk.trans hrow)
  show (if _ then _ else _ : List InboxRow).countP p = _
  rw [if_neg hfresh, List.countP_append, List.countP_singleton]

/-- A row that is marked is no longer counted. -/
theorem countP_map_marked {rows : List InboxRow} {p : InboxRow → Bool} {f : InboxRow → InboxRow}
    {id : ℕ} (hf : ∀ row, p (f row) = false) :
    (rows.map fun row => if Keyed.pk row = id then f row else row).countP p +
      rows.countP (fun row => row.id = id && p row) = rows.countP p := by
  induction rows with
  | nil => rfl
  | cons row rows ih =>
      rw [List.map_cons, List.countP_cons, List.countP_cons, List.countP_cons, ← ih]
      by_cases hid : row.id = id
      · rw [if_pos (show Keyed.pk row = id from hid), hf, decide_eq_true hid, Bool.true_and]
        simp only [Bool.false_eq_true, if_false]
        omega
      · rw [if_neg (show ¬Keyed.pk row = id from hid), decide_eq_false hid, Bool.false_and]
        simp only [Bool.false_eq_true, if_false]
        omega

/-- **The unread count of a step.** -/
theorem unread_step (user : UserId) (s : Inbox) (i : InboxStep) :
    (step s i).unread user + (markedAll user s i + markedOne user s i) =
      s.unread user + arrived user s i := by
  cases i with
  | arrive new =>
      show (s.rows.save (.new new s.rows.nextPk)).rows.countP _ + 0 = _
      rw [countP_insert rfl, Nat.add_zero, unread, arrived]
      show _ + (if (decide (new.recipient = some user) && true) = true then 1 else 0) = _
      rw [Bool.and_true]
      simp only [decide_eq_true_eq]
  | deliver id j =>
      show Inbox.unread ((s.rows.find id).elim s _) user + 0 = s.unread user + 0
      cases s.rows.find id with
      | none => rfl
      | some row =>
          show (s.writeRow id (InboxRow.delivered _) fun _ => rfl).rows.countP _ + 0 = s.unread user + 0
          exact unread_writeRow (InboxRow.delivered _) _ fun other => rfl
  | unreadCount u => rfl
  | markAllRead u now =>
      show (s.rows.modify _ (InboxRow.pk_stampedAll u now)).rows.countP _ +
        ((if _ then _ else _) + 0) = s.unread user + 0
      by_cases huser : u = user
      · rw [if_pos huser, huser]
        have hzero : (s.rows.modify (InboxRow.stampedAll user now)
            (InboxRow.pk_stampedAll user now)).rows.countP (InboxRow.isUnreadOf user) = 0 := by
          show (s.rows.rows.map _).countP _ = 0
          rw [List.countP_map, List.countP_eq_zero]
          intro row _ hunread
          rw [Function.comp_apply, InboxRow.stampedAll] at hunread
          split at hunread
          · simp [InboxRow.isUnreadOf] at hunread
          · contradiction
        rw [hzero]
        show 0 + (s.unread user + 0) = s.unread user + 0
        omega
      · rw [if_neg huser, unread_modify]
        intro row
        unfold InboxRow.stampedAll
        split
        · rename_i hunread
          unfold InboxRow.isUnreadOf at hunread ⊢
          rw [Bool.and_eq_true] at hunread
          have hne : row.recipient ≠ some user := by
            rw [of_decide_eq_true hunread.1]
            exact fun heq => huser (Option.some.inj heq)
          simp [hne]
        · rfl
  | markRead thread request id now =>
      show Inbox.unread (if _ then _ else (s.toMark request id).elim s _) user + 0 = s.unread user + 0
      split
      · rfl
      · cases s.toMark request id with
        | none => rfl
        | some row => rfl
  | saveRead thread now =>
      show Inbox.unread ((s.saves thread).elim s _) user + (0 + (s.saves thread).elim 0 _) =
        s.unread user + 0
      cases s.saves thread with
      | none => rfl
      | some p =>
          rw [Option.elim_some, Option.elim_some, Nat.zero_add, Nat.add_zero]
          exact countP_map_marked fun row => by simp [InboxRow.isUnreadOf, InboxRow.stamped]

/-! ### The first reading -/

/-- A save of `mark_read` finds its notification read, at another time. -/
def SavesLate (s : Inbox) : InboxStep → Prop
  | .saveRead thread _ =>
      ∃ p, s.saves thread = some p ∧ ∃ row ∈ s.rows, pk row = p.id ∧ ∃ t, row.readAt = some t ∧
        t ≠ p.readAt
  | _ => False

/-- A notification that is there was read at a time. -/
def ReadAt (id : ℕ) (t : Instant) (s : Inbox) : Prop :=
  ∃ row ∈ s.rows, pk row = id ∧ row.readAt = some t

/-- A step leaves every time of reading exactly if it is no late save. -/
theorem readAt_step_iff (s : Inbox) (i : InboxStep) :
    (∀ id t, ReadAt id t s → ReadAt id t (step s i)) ↔ ¬s.SavesLate i := by
  constructor
  · intro hstays hlate
    cases i with
    | saveRead thread now =>
        obtain ⟨p, hsave, row, hrow, hkey, t, hread, hne⟩ := hlate
        obtain ⟨row', hrow', hpk, hread'⟩ := hstays p.id t ⟨row, hrow, hkey, hread⟩
        have hstep : step s (.saveRead thread now) = { s with
            rows := s.writeRow p.id (InboxRow.stamped p.readAt now) fun _ => rfl
            saves := Function.update s.saves thread none } := by
          show (s.saves thread).elim s _ = _
          rw [hsave, Option.elim_some]
        rw [hstep] at hrow'
        obtain ⟨old, -, hold⟩ :=
          (mem_writeRow (InboxRow.stamped p.readAt now) fun _ => rfl).mp hrow'
        have hid : Keyed.pk old = p.id := by
          rw [← hpk, ← hold]
          split
          · rfl
          · rfl
        rw [if_pos hid] at hold
        rw [← hold] at hread'
        exact hne (Option.some.inj hread').symm
    | arrive new => exact hlate
    | deliver id j => exact hlate
    | unreadCount user => exact hlate
    | markAllRead user now => exact hlate
    | markRead thread request id now => exact hlate
  · rintro hlate id t ⟨row, hrow, hid, hread⟩
    obtain ⟨row', hrow', hevolves⟩ := exists_evolves hrow i
    refine ⟨row', hrow', hevolves.pk.trans hid, ?_⟩
    cases hevolves with
    | same => exact hread
    | delivered j n h => exact hread
    | stampedAll user now h hunread =>
        unfold InboxRow.isUnreadOf at hunread
        rw [hread, Bool.and_eq_true] at hunread
        cases hunread.2
    | stamped thread now p h hsave hkey =>
        have hsame : t = p.readAt := by
          by_contra hne
          rw [h] at hlate
          exact hlate ⟨p, hsave, row, hrow, hkey.symm, t, hread, hne⟩
        rw [hsame]
        rfl

/-- **The first reading is final** along a run exactly if no save of a `mark_read` comes late. -/
theorem readAt_stays_iff (s : Inbox) (w : List InboxStep) :
    (∀ id t u v, w = u ++ v → ReadAt id t (run step s u) →
      ∀ v₁ v₂, v = v₁ ++ v₂ → ReadAt id t (run step s (u ++ v₁))) ↔
      Along step (fun before i _ => ¬before.SavesLate i) s w := by
  have hstays := fun id t => @stays_iff_along _ _ step (ReadAt id t) s w
  have hall : (∀ id t, Along step (fun before _ after => ReadAt id t before → ReadAt id t after) s w) ↔
      Along step (fun before i _ => ¬before.SavesLate i) s w := by
    rw [forall_congr' fun id => (@along_forall _ _ step _ _ _ _).symm, ← along_forall]
    exact along_congr (G := fun _ _ _ => True) (fun s i _ => readAt_step_iff s i)
      (along_of_forall (fun _ _ => trivial) s w)
  rw [← hall]
  exact forall_congr' fun id => forall_congr' fun t => hstays id t

/-! ### Runs -/

/-- The accounts of the readers: what every step of a run keeps, and the unread counts. -/
structure ReadersAccounted (w : List InboxStep) : Prop where
  receipts : Along step KeepsReceipts {} w
  /-- What has arrived for a user is unread, or it was in the answer of a `mark_all_read`, or marked
  by a `mark_read`. -/
  unread : ∀ user, (run step {} w).unread user +
    total step (fun s i => markedAll user s i + markedOne user s i) {} w =
      total step (arrived user) {} w

/-- **The readers of any run are accounted for.** -/
theorem readers_accounted (w : List InboxStep) : ReadersAccounted w where
  receipts := by
    refine along_mono (I := SavesOwn) (G := fun _ _ _ => True) (fun s i hs _ => hs.step i)
      (fun s i hs _ => keepsReceipts_step hs i) ?_ (along_of_forall (fun _ _ => trivial) _ w)
    intro thread p hsave
    cases hsave
  unread user := by
    have hbalance := @balance_run _ _ step (fun s => s.unread user) (arrived user)
      (fun s i => markedAll user s i + markedOne user s i) (unread_step user) {} w
    exact hbalance.trans (Nat.zero_add _)

end Inbox

end DcimBackend
