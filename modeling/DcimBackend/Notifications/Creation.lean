import DcimBackend.Alerts.Recipients
import DcimBackend.Alerts.Engine
import DcimBackend.Library.Connection
import DcimBackend.Library.Separated
import DcimBackend.Notifications.Delivery

/-!
# Creating a notification

`_create_notification` of `apps/alerts/services/notifications.py`, and the table that it
works on.  A notification is known by its dedupe key; one that was created before there
were such keys is known by its metadata, and is given its key when it is met.

The function runs in a block of its own.  Between its lookups and its insertion another
worker may commit: this is the parameter `rival`.  What PostgreSQL refuses is an error, as
is every query in a block that an error has broken.

The table carries what PostgreSQL enforces of it as fields: no key occurs twice, and every subject
fits its column.  So a state that the database would refuse cannot be built, and an insertion
either has a proof of both or is refused, by the error that PostgreSQL reports first.

A connection is one of `Library.Connection`: an error inside the block breaks it, and the lookup
behind a refused insertion, which is to find the winner of a race, is itself refused.  The rival's
commit is visible outside of the block at once, and survives a rollback.
-/

namespace DcimBackend

open Library

/-! ### The table -/

/-- `Notification`, with the columns that its creation writes. -/
structure NotificationRow extends Notification where
  id : ℕ := 0
  organization : OrganizationId
  recipient : Option UserId
  dedupeKey : Option String
  subject : Option String
  message : String
  createdAt : Instant

instance : Keyed NotificationRow := ⟨NotificationRow.id⟩

@[simp] theorem pk_notificationRow (row : NotificationRow) : pk row = row.id := rfl

/-- The row under a key. -/
def NotificationRow.withId (row : NotificationRow) (id : ℕ) : NotificationRow :=
  { row with id := id }

/-- The subject fits its column. -/
def NotificationRow.Fits (row : NotificationRow) : Prop :=
  ∀ subject ∈ row.subject, subject.length ≤ 255

instance (row : NotificationRow) : Decidable row.Fits :=
  inferInstanceAs (Decidable (∀ _ ∈ (_ : Option _), _))

/-- What a statement on notifications raises. -/
inductive NotificationError
  /-- A column cannot hold the value. -/
  | dataError
  /-- A unique key is in use. -/
  | integrityError
  /-- `save(update_fields=...)` found no row. -/
  | notAffected
  /-- The block has seen an error. -/
  | transactionManagementError
deriving DecidableEq

/-- The notifications, with what PostgreSQL enforces of them. -/
structure NotificationsDb where
  rows : Table NotificationRow
  /-- `dedupe_key` is unique. -/
  dedupeKey_unique : ∀ a ∈ rows, ∀ b ∈ rows, ∀ key, a.dedupeKey = some key →
    b.dedupeKey = some key → a = b
  subject_fits : ∀ row ∈ rows, row.Fits

namespace NotificationsDb

/-- A table without notifications. -/
def empty : NotificationsDb where
  rows := .empty
  dedupeKey_unique := fun _ ha => by cases ha
  subject_fits := fun _ hrow => by cases hrow

variable (db : NotificationsDb)

/-- No other row has the key of the row. -/
def KeyFree (row : NotificationRow) : Prop :=
  ∀ other ∈ db.rows, other.id ≠ row.id → ∀ key ∈ row.dedupeKey, other.dedupeKey ≠ some key

instance (row : NotificationRow) : Decidable (db.KeyFree row) :=
  inferInstanceAs (Decidable (∀ other ∈ db.rows.rows, other.id ≠ row.id →
    ∀ key ∈ (row.dedupeKey : Option String), other.dedupeKey ≠ some key))

/-- Save a row under its own key. -/
def put (row : NotificationRow) (hfits : row.Fits) (hfree : db.KeyFree row) :
    NotificationsDb where
  rows := db.rows.save row
  dedupeKey_unique := by
    intro a ha b hb key hakey hbkey
    rcases Table.mem_save.mp ha with haNew | ⟨haOld, haNe⟩
    · rcases Table.mem_save.mp hb with hbNew | ⟨hbOld, hbNe⟩
      · rw [haNew, hbNew]
      · exact absurd hbkey (hfree b hbOld hbNe key (haNew ▸ hakey))
    · rcases Table.mem_save.mp hb with hbNew | ⟨hbOld, hbNe⟩
      · exact absurd hakey (hfree a haOld haNe key (hbNew ▸ hbkey))
      · exact db.dedupeKey_unique a haOld b hbOld key hakey hbkey
  subject_fits := by
    intro other hother
    rcases Table.mem_save.mp hother with rfl | ⟨hold, -⟩
    · exact hfits
    · exact db.subject_fits other hold

/-- The row with a dedupe key. -/
def findByKey (key : String) : Option NotificationRow :=
  db.rows.rows.find? fun row => row.dedupeKey = some key

end NotificationsDb

/-- A row is written, or refused. -/
def saveNotification (row : NotificationRow) : Tx NotificationError NotificationsDb Unit :=
  fun db =>
    if hfits : row.Fits then
      if hfree : db.KeyFree row then (.ok ⟨⟩, db.put row hfits hfree)
      else (.error .integrityError, db)
    else (.error .dataError, db)

/-- `Notification.objects.create`. -/
def insertNotification (row : NotificationRow) :
    Tx NotificationError NotificationsDb NotificationRow := fun db =>
  let row := row.withId db.rows.nextPk
  (do
    saveNotification row
    return row) db

/-- `legacy.save(update_fields=["dedupe_key", "updated_at"])`. -/
def saveDedupeKey (id : ℕ) (key : String) (now : Instant) :
    Tx NotificationError NotificationsDb Unit := fun db =>
  match db.rows.find id with
  | some stored => saveNotification { stored with dedupeKey := some key, updatedAt := now } db
  | none => (.error .notAffected, db)

/-! ### What a notification is about -/

/-- The columns of `accounts.User` by which a user is reached. -/
structure Contact where
  email : String := ""
  phone : Option String := none
deriving DecidableEq

/-- The contact that a channel needs is there. -/
def Contact.reaches (contact : Contact) : NotificationChannel → Bool
  | .email => contact.email ≠ ""
  | .sms => (contact.phone.elim "" pyStrip) ≠ ""
  | _ => true

/-- The actions of the notifications that `_create_notification` creates. -/
inductive NotificationAction
  | opened
  | resolved
deriving DecidableEq

/-- The text of an action. -/
def NotificationAction.value : NotificationAction → String
  | .opened => "OPENED"
  | .resolved => "RESOLVED"

/-- What a notification tells whom, and how. -/
structure Notice where
  alert : AlertId
  action : NotificationAction
  channel : NotificationChannel
  user : UserId
deriving DecidableEq

/-- `_dedupe_key`. -/
def Notice.dedupeKey (notice : Notice) : String :=
  "alert:" ++ toString notice.alert ++ ":" ++ notice.action.value ++ ":" ++
    notice.channel.value ++ ":" ++ toString notice.user

/-- A field of a JSON column has a text. -/
def Json.hasText (json : Json) (key text : String) : Bool :=
  match json with
  | .object fields => Dict.hasText fields key text
  | _ => false

namespace NotificationRow

variable (row : NotificationRow)

/-- The lookup of a notification without a key. -/
def matchesNotice (notice : Notice) : Bool :=
  row.recipient = some notice.user && row.channel.value = notice.channel.value &&
    row.metadata.hasText "alert_event_id" (toString notice.alert) &&
    row.metadata.hasText "action" notice.action.value

/-- The row is the notification of a notice, by its key or by its metadata. -/
def IsFor (notice : Notice) : Prop :=
  row.dedupeKey = some notice.dedupeKey ∨ row.matchesNotice notice

instance (notice : Notice) : Decidable (row.IsFor notice) :=
  inferInstanceAs (Decidable (_ ∨ _))

end NotificationRow

/-- `.order_by("-created_at", "-updated_at").first()`. -/
def newestNotification (rows : List NotificationRow) : Option NotificationRow :=
  @List.argmax _ _ alertTimesOrder.toPartialOrder.toPreorder alertTimesOrder.toDecidableLT
    (fun row => toLex (row.createdAt, row.updatedAt)) rows

/-! ### `_create_notification` -/

/-- A computation on the notifications, through a connection. -/
abbrev Notifier := Tx NotificationError (Connection NotificationsDb)

/-- A statement of the connection. -/
def Notifier.execute {α : Type} (x : Tx NotificationError NotificationsDb α) : Notifier α :=
  Connection.execute .transactionManagementError x

/-- The row that is created for a notice. -/
def notificationRow (alert : AlertEvent) (notice : Notice) (subject message : String)
    (now : Instant) : NotificationRow where
  organization := alert.organization
  recipient := some notice.user
  channel := notice.channel
  dedupeKey := some notice.dedupeKey
  subject := some subject
  message := message
  metadata := .object
    [scalarField "alert_event_id" (.text (toString notice.alert)),
      scalarField "alert_status" (.text alert.status.value),
      scalarField "severity" (.text alert.severity.value),
      scalarField "device_id" (.text (toString alert.device)),
      scalarField "metric_id" (alert.metric.elim .none fun id => .text (toString id)),
      scalarField "action" (.text notice.action.value)]
  createdAt := now
  updatedAt := now

/-- A notification without a key is given its key.  Another row may have it. -/
def claimLegacy (legacy : NotificationRow) (notice : Notice) (now : Instant) : Notifier Unit :=
  if legacy.dedupeKey.all (· = "") then
    Tx.handle (Notifier.execute (saveDedupeKey legacy.id notice.dedupeKey now)) fun
      | .integrityError => return
      | e => Tx.raise e
  else return

/-- The insertion.  Where the key is in use, the row that uses it is looked up. -/
def insertOrFind (row : NotificationRow) (key : String) : Notifier (Option NotificationRow) :=
  Tx.handle (some <$> Notifier.execute (insertNotification row)) fun
    | .integrityError => do
        match ← Notifier.execute (Tx.read fun db => db.findByKey key) with
        | some _ => return none
        | none => Tx.raise .integrityError
    | e => Tx.raise e

/-- `_create_notification`. -/
def createNotification (contact : Contact) (alert : AlertEvent) (notice : Notice)
    (subject message : String) (now : Instant) (rival : NotificationsDb → NotificationsDb) :
    Notifier (Option NotificationRow) :=
  if contact.reaches notice.channel then
    Connection.atomic do
      match ← Notifier.execute (Tx.read fun db => db.findByKey notice.dedupeKey) with
      | some _ => return none
      | none =>
          match ← Notifier.execute (Tx.read fun db =>
              newestNotification (db.rows.select fun row => row.matchesNotice notice)) with
          | some legacy =>
              claimLegacy legacy notice now
              return none
          | none =>
              Connection.outside rival
              insertOrFind (notificationRow alert notice subject message now) notice.dedupeKey
  else return none

/-! ### Keys and notices -/

theorem NotificationAction.colon_notMem_value {action : NotificationAction} :
    ':' ∉ action.value.toList := by
  cases action <;> decide

theorem NotificationAction.value_inj {a b : NotificationAction} : a.value = b.value ↔ a = b := by
  cases a <;> cases b <;> decide

/-- **The key of a notice** tells its alert, its action, the text of its channel, and its
user. -/
theorem Notice.dedupeKey_inj {a b : Notice} :
    a.dedupeKey = b.dedupeKey ↔ a.alert = b.alert ∧ a.action = b.action ∧
      a.channel.value = b.channel.value ∧ a.user = b.user := by
  have hsplit : ∀ notice : Notice, notice.dedupeKey.toList =
      "alert".toList ++ ':' :: ((toString notice.alert).toList ++ ':' ::
        (notice.action.value.toList ++ ':' ::
          (notice.channel.value.toList ++ ':' :: (toString notice.user).toList))) := by
    intro notice
    simp [dedupeKey]
  have hcolon : ∀ n : ℕ, ':' ∉ (toString n).toList := fun _ => notMem_toString_nat (by decide)
  rw [← String.toList_inj, hsplit, hsplit, append_sep_inj (by decide) (by decide),
    append_sep_inj (hcolon _) (hcolon _),
    append_sep_inj NotificationAction.colon_notMem_value NotificationAction.colon_notMem_value,
    sep_append_inj (hcolon _) (hcolon _)]
  simp only [String.toList_inj, toString_nat_inj, NotificationAction.value_inj, true_and]

/-- A key is not empty. -/
theorem Notice.dedupeKey_ne_empty {notice : Notice} : notice.dedupeKey ≠ "" := by
  rw [dedupeKey, ne_eq, ← String.toList_inj]
  simp

theorem Json.hasText_iff_eq {json : Json} {key text other : String} (h : json.hasText key text) :
    json.hasText key other ↔ text = other := by
  cases json with
  | object fields => exact Dict.hasText_iff_eq h
  | scalar value => cases h
  | array items => cases h

namespace NotificationRow

variable {row : NotificationRow} {a b : Notice}

/-- The metadata names one notice, up to the key. -/
theorem matchesNotice_iff (h : row.matchesNotice a) :
    row.matchesNotice b ↔ a.dedupeKey = b.dedupeKey := by
  simp only [matchesNotice, Bool.and_eq_true, decide_eq_true_eq] at h ⊢
  obtain ⟨⟨⟨hrecipient, hchannel⟩, halert⟩, haction⟩ := h
  rw [hrecipient, hchannel, Json.hasText_iff_eq halert, Json.hasText_iff_eq haction,
    Notice.dedupeKey_inj, toString_nat_inj, NotificationAction.value_inj, Option.some.injEq]
  tauto

/-- A row that is found by its metadata has no notice but this one, unless its key is
another's. -/
theorem isFor_withKey (h : row.matchesNotice a) (hkey : row.dedupeKey.all (· = ""))
    (now : Instant) :
    ({ row with dedupeKey := some a.dedupeKey, updatedAt := now } : NotificationRow).IsFor b ↔
      row.IsFor b := by
  have hmatches : row.matchesNotice b ↔ a.dedupeKey = b.dedupeKey := matchesNotice_iff h
  have hnone : row.dedupeKey ≠ some b.dedupeKey := by
    intro hsome
    rw [hsome] at hkey
    exact Notice.dedupeKey_ne_empty (by simpa using hkey)
  refine (or_congr (by rw [Option.some.injEq]) (Iff.refl (row.matchesNotice b))).trans ?_
  rw [IsFor, hmatches, or_self, iff_false_intro hnone, false_or]

end NotificationRow

/-- The row that is created for a notice is for it, and for no other. -/
theorem isFor_notificationRow {alert : AlertEvent} {notice other : Notice}
    {subject message : String} {now : Instant} {id : ℕ} :
    ((notificationRow alert notice subject message now).withId id).IsFor other ↔
      notice.dedupeKey = other.dedupeKey := by
  have hown : ((notificationRow alert notice subject message now).withId id).matchesNotice
      notice := by
    simp only [NotificationRow.matchesNotice, NotificationRow.withId, notificationRow,
      Bool.and_eq_true,
      decide_eq_true_eq, Json.hasText, Dict.hasText_iff, true_and]
    exact ⟨rfl, rfl⟩
  rw [NotificationRow.IsFor, NotificationRow.matchesNotice_iff hown]
  refine (or_congr ?_ Iff.rfl).trans or_self_iff
  rw [NotificationRow.withId, notificationRow, Option.some.injEq]

/-! ### The notifications of a notice -/

namespace NotificationsDb

variable (db : NotificationsDb)

/-- The keys of all notifications. -/
def ids : Set ℕ := {id | ∃ row ∈ db.rows, row.id = id}

/-- The keys of the notifications of a notice. -/
def idsFor (notice : Notice) : Set ℕ := {id | ∃ row ∈ db.rows, row.id = id ∧ row.IsFor notice}

/-- There is a notification of the notice. -/
def Has (notice : Notice) : Prop := ∃ row ∈ db.rows, row.IsFor notice

instance (notice : Notice) : Decidable (db.Has notice) :=
  inferInstanceAs (Decidable (∃ row ∈ db.rows, row.IsFor notice))

variable {db}

theorem has_iff_nonempty {notice : Notice} : db.Has notice ↔ (db.idsFor notice).Nonempty :=
  ⟨fun ⟨row, hrow, hfor⟩ => ⟨row.id, row, hrow, rfl, hfor⟩,
    fun ⟨_, row, hrow, _, hfor⟩ => ⟨row, hrow, hfor⟩⟩

/-- The two lookups find nothing exactly if there is nothing. -/
theorem not_has_iff {notice : Notice} :
    ¬db.Has notice ↔ db.findByKey notice.dedupeKey = none ∧
      newestNotification (db.rows.select fun row => row.matchesNotice notice) = none := by
  rw [findByKey, List.find?_eq_none, newestNotification, List.argmax_eq_none,
    List.eq_nil_iff_forall_not_mem]
  simp only [Has, NotificationRow.IsFor, Table.mem_select, decide_eq_true_eq]
  constructor
  · intro hnone
    refine ⟨fun row hrow hkey => hnone ⟨row, hrow, Or.inl hkey⟩, ?_⟩
    rintro row ⟨hrow, hmatches⟩
    exact hnone ⟨row, hrow, Or.inr hmatches⟩
  · rintro ⟨hkeys, hmetadata⟩ ⟨row, hrow, hkey | hmatches⟩
    · exact hkeys row hrow hkey
    · exact hmetadata row ⟨hrow, hmatches⟩

/-- Every notice has the same notifications, and there are no others. -/
structure SameNotices (db db' : NotificationsDb) : Prop where
  ids : db'.ids = db.ids
  idsFor : ∀ notice, db'.idsFor notice = db.idsFor notice

instance : IsPreorder NotificationsDb SameNotices where
  refl _ := ⟨rfl, fun _ => rfl⟩
  trans _ _ _ h h' :=
    ⟨h'.ids.trans h.ids, fun notice => (h'.idsFor notice).trans (h.idsFor notice)⟩

theorem SameNotices.has_iff {db' : NotificationsDb} (h : db.SameNotices db') {notice : Notice} :
    db'.Has notice ↔ db.Has notice := by
  rw [has_iff_nonempty, has_iff_nonempty, h.idsFor]

/-- A row that is written over a stored one of the same notices changes none. -/
theorem sameNotices_put {row stored : NotificationRow} {hfits : row.Fits}
    {hfree : db.KeyFree row} (hstored : stored ∈ db.rows) (hid : row.id = stored.id)
    (hfor : ∀ notice, row.IsFor notice ↔ stored.IsFor notice) :
    db.SameNotices (db.put row hfits hfree) := by
  -- what holds of some row with a key is looked up in the same row
  have hrows : ∀ (P : NotificationRow → Prop), (P row ↔ P stored) → ∀ id,
      (∃ other ∈ (db.put row hfits hfree).rows, other.id = id ∧ P other) ↔
        ∃ other ∈ db.rows, other.id = id ∧ P other := by
    intro P hP id
    simp only [put, Table.mem_save, pk_notificationRow]
    constructor
    · rintro ⟨other, rfl | ⟨hother, -⟩, hotherId, hholds⟩
      · exact ⟨stored, hstored, hid.symm.trans hotherId, hP.mp hholds⟩
      · exact ⟨other, hother, hotherId, hholds⟩
    · rintro ⟨other, hother, hotherId, hholds⟩
      by_cases hsame : other.id = row.id
      · obtain rfl : other = stored :=
          db.rows.eq_of_pk_eq hother hstored (hsame.trans hid)
        exact ⟨row, Or.inl rfl, hid.trans hotherId, hP.mpr hholds⟩
      · exact ⟨other, Or.inr ⟨hother, hsame⟩, hotherId, hholds⟩
  refine ⟨Set.ext fun id => ?_, fun notice => Set.ext fun id => ?_⟩
  · simpa [NotificationsDb.ids] using hrows (fun _ => True) Iff.rfl id
  · exact hrows (fun other => other.IsFor notice) (hfor notice) id

/-- The notification of a notice has been inserted. -/
structure Inserted (db db' : NotificationsDb) (notice : Notice) : Prop where
  ids : db'.ids = insert db.rows.nextPk db.ids
  idsFor : ∀ other, db'.idsFor other =
    if notice.dedupeKey = other.dedupeKey then insert db.rows.nextPk (db.idsFor other)
    else db.idsFor other

/-- A row under the next key is beside the others. -/
theorem mem_put_nextPk {row other : NotificationRow} {hfits : row.Fits} {hfree : db.KeyFree row}
    (hid : row.id = db.rows.nextPk) :
    other ∈ (db.put row hfits hfree).rows ↔ other = row ∨ other ∈ db.rows := by
  refine Table.mem_save.trans (or_congr_right (and_iff_left_of_imp fun hother => ?_))
  have hlt := db.rows.pk_lt_nextPk other hother
  rw [pk_notificationRow] at hlt ⊢
  rw [pk_notificationRow, hid]
  omega

theorem inserted_put {row : NotificationRow} {notice : Notice} {hfits : row.Fits}
    {hfree : db.KeyFree row} (hid : row.id = db.rows.nextPk)
    (hfor : ∀ other, row.IsFor other ↔ notice.dedupeKey = other.dedupeKey) :
    db.Inserted (db.put row hfits hfree) notice := by
  refine ⟨Set.ext fun id => ?_, fun other => Set.ext fun id => ?_⟩
  · simp only [NotificationsDb.ids, mem_put_nextPk hid, Set.mem_insert_iff, Set.mem_ofPred_eq]
    rw [← hid]
    constructor
    · rintro ⟨found, rfl | hfound, rfl⟩
      · exact Or.inl rfl
      · exact Or.inr ⟨found, hfound, rfl⟩
    · rintro (rfl | ⟨found, hfound, rfl⟩)
      · exact ⟨row, Or.inl rfl, rfl⟩
      · exact ⟨found, Or.inr hfound, rfl⟩
  · have hids : id ∈ (db.put row hfits hfree).idsFor other ↔
        (id = row.id ∧ notice.dedupeKey = other.dedupeKey) ∨ id ∈ db.idsFor other := by
      simp only [NotificationsDb.idsFor, mem_put_nextPk hid, Set.mem_ofPred_eq, ← hfor]
      constructor
      · rintro ⟨found, rfl | hfound, rfl, hisFor⟩
        · exact Or.inl ⟨rfl, hisFor⟩
        · exact Or.inr ⟨found, hfound, rfl, hisFor⟩
      · rintro (⟨rfl, hisFor⟩ | ⟨found, hfound, rfl, hisFor⟩)
        · exact ⟨row, Or.inl rfl, rfl, hisFor⟩
        · exact ⟨found, Or.inr hfound, rfl, hisFor⟩
    rw [hids, ← hid]
    split
    · rename_i hkey
      simp [hkey]
    · rename_i hkey
      simp [hkey]

end NotificationsDb

/-! ### What `_create_notification` does -/

section Creation

open NotificationsDb

variable {contact : Contact} {alert : AlertEvent} {notice : Notice} {subject message : String}
  {now : Instant} {rival : NotificationsDb → NotificationsDb} {s : Connection NotificationsDb}
  {db : NotificationsDb}

theorem saveNotification_of_fits {row : NotificationRow} (hfits : row.Fits)
    (hfree : db.KeyFree row) : saveNotification row db = (.ok ⟨⟩, db.put row hfits hfree) := by
  rw [saveNotification, dif_pos hfits, dif_pos hfree]

theorem saveNotification_of_not_fits {row : NotificationRow} (hfits : ¬row.Fits) :
    saveNotification row db = (.error .dataError, db) := by
  rw [saveNotification, dif_neg hfits]

/-- A row that is refused changes nothing. -/
theorem saveNotification_error {row : NotificationRow} {e : NotificationError}
    {db' : NotificationsDb} (h : saveNotification row db = (.error e, db')) : db' = db := by
  unfold saveNotification at h
  split at h
  · split at h
    · cases (Prod.mk.inj h).1
    · exact (Prod.mk.inj h).2.symm
  · exact (Prod.mk.inj h).2.symm

/-- What has been written fits, and its key was free. -/
theorem saveNotification_ok {row : NotificationRow} {u : Unit} {db' : NotificationsDb}
    (h : saveNotification row db = (.ok u, db')) : row.Fits ∧ db.KeyFree row := by
  unfold saveNotification at h
  split at h
  · rename_i hfits
    split at h
    · rename_i hfree
      exact ⟨hfits, hfree⟩
    · cases (Prod.mk.inj h).1
  · cases (Prod.mk.inj h).1

theorem Notifier.execute_read {α : Type} {f : NotificationsDb → α} (hs : s.broken = false) :
    Notifier.execute (Tx.read f) s = (.ok (f s.now), s) :=
  Connection.execute_of_ok hs rfl

/-- A channel that does not reach the user is skipped. -/
theorem createNotification_of_unreachable (h : contact.reaches notice.channel = false) :
    createNotification contact alert notice subject message now rival s = (.ok none, s) := by
  rw [createNotification, if_neg (by simp [h])]
  rfl

/-- Nothing has happened, or a notification has been given a key. -/
def NotificationsDb.AtMostKeyed (db : NotificationsDb) (key : String) (now : Instant)
    (db' : NotificationsDb) : Prop :=
  db' = db ∨ ∃ id, saveDedupeKey id key now db = (.ok ⟨⟩, db')

/-- A notification without a key gets it, and that is all. -/
theorem claimLegacy_spec {legacy : NotificationRow} (hs : s.broken = false)
    (hlegacy : legacy ∈ s.now.rows) (hmatches : legacy.matchesNotice notice)
    (hnone : s.now.findByKey notice.dedupeKey = none) :
    ∃ db, claimLegacy legacy notice now s = (.ok ⟨⟩, { s with now := db }) ∧
      s.now.SameNotices db ∧ s.now.AtMostKeyed notice.dedupeKey now db := by
  unfold claimLegacy
  split
  swap
  · exact ⟨s.now, rfl, refl_of SameNotices _, Or.inl rfl⟩
  rename_i hkey
  have hfree : s.now.KeyFree
      { legacy with dedupeKey := some notice.dedupeKey, updatedAt := now } := by
    rintro other hother - key hsome hused
    obtain rfl := Option.some.inj hsome
    exact absurd (by simpa using hused) (List.find?_eq_none.mp hnone other hother)
  have hfits : NotificationRow.Fits
      { legacy with dedupeKey := some notice.dedupeKey, updatedAt := now } :=
    s.now.subject_fits legacy hlegacy
  have hsave : saveDedupeKey legacy.id notice.dedupeKey now s.now =
      (.ok ⟨⟩, s.now.put _ hfits hfree) := by
    have hfind : s.now.rows.find legacy.id = some legacy := Table.find_pk hlegacy
    rw [saveDedupeKey, hfind]
    exact saveNotification_of_fits hfits hfree
  refine ⟨_, Tx.handle_of_ok (Connection.execute_of_ok hs hsave), ?_, Or.inr ⟨_, hsave⟩⟩
  exact sameNotices_put hlegacy rfl fun other => NotificationRow.isFor_withKey hmatches hkey now

/-- Where there is a notification, none is created. -/
theorem createNotification_of_has (hs : s.broken = false) (hhas : s.now.Has notice) :
    ∃ db, createNotification contact alert notice subject message now rival s =
      (.ok none, { s with now := db }) ∧ s.now.SameNotices db ∧
        s.now.AtMostKeyed notice.dedupeKey now db := by
  unfold createNotification
  split
  swap
  · exact ⟨s.now, rfl, refl_of SameNotices _, Or.inl rfl⟩
  have henter : s.enter.broken = false := hs
  -- what the block does with the connection, it does with the data alone
  suffices hbody : ∀ {x : Notifier (Option NotificationRow)} {P : NotificationsDb → Prop},
      (∃ db, x s.enter = (.ok none, { s.enter with now := db }) ∧ P db) →
        ∃ db, Connection.atomic x s = (.ok none, { s with now := db }) ∧ P db by
    refine hbody ?_
    rw [Tx.bind_of_ok (Notifier.execute_read henter)]
    cases hfound : s.now.findByKey notice.dedupeKey with
    | some row =>
        have hread : s.enter.now.findByKey notice.dedupeKey = some row := hfound
        rw [hread]
        exact ⟨s.now, rfl, refl_of SameNotices _, Or.inl rfl⟩
    | none =>
        have hread : s.enter.now.findByKey notice.dedupeKey = none := hfound
        rw [hread]
        dsimp only
        rw [Tx.bind_of_ok (Notifier.execute_read henter)]
        cases hnewest : newestNotification
            (s.now.rows.select fun row => row.matchesNotice notice) with
        | none => exact absurd hhas (not_has_iff.mpr ⟨hfound, hnewest⟩)
        | some legacy =>
            have hread : newestNotification
                (s.enter.now.rows.select fun row => row.matchesNotice notice) = some legacy :=
              hnewest
            rw [hread]
            obtain ⟨hlegacy, hmatches⟩ := Table.mem_select.mp (List.argmax_mem hnewest)
            obtain ⟨db, hclaim, hsame⟩ :=
              @claimLegacy_spec notice now s.enter legacy henter hlegacy hmatches hfound
            exact ⟨db, Tx.bind_of_ok hclaim, hsame⟩
  rintro x P ⟨db, hx, hP⟩
  exact ⟨db, Connection.atomic_of_ok hx henter, hP⟩

/-- What is raised behind an insertion that was refused: the lookup of the row with the key
is in the block that the refusal has broken. -/
def NotificationError.behindInsertion : NotificationError → NotificationError
  | .integrityError => .transactionManagementError
  | e => e

theorem insertOrFind_eq {row : NotificationRow} {key : String} (hs : s.broken = false)
    (hblock : s.savepoints.isEmpty = false) :
    insertOrFind row key s =
      match saveNotification (row.withId s.now.rows.nextPk) s.now with
      | (.ok _, db) => (.ok (some (row.withId s.now.rows.nextPk)), { s with now := db })
      | (.error e, _) => (.error e.behindInsertion, { s with broken := true }) := by
  rcases hsave : saveNotification (row.withId s.now.rows.nextPk) s.now with ⟨e | u, db⟩
  · have hinsert : insertNotification row s.now = (.error e, db) := Tx.bind_of_error hsave
    have herror : (some <$> Notifier.execute (insertNotification row)) s =
        (.error e, { s with broken := true }) := by
      refine Tx.bind_of_error ((Connection.execute_of_error hs hinsert).trans ?_)
      rw [hblock]
      rfl
    rw [insertOrFind, Tx.handle_of_error herror]
    cases e with
    | integrityError =>
        have hbroken : ({ s with broken := true } : Connection NotificationsDb).broken = true := rfl
        have hlookup : Notifier.execute (Tx.read fun db => db.findByKey key)
            { s with broken := true } =
              (.error .transactionManagementError, { s with broken := true }) := by
          rw [Notifier.execute, Connection.execute, Tx.refuseIf_of_true hbroken]
        exact Tx.bind_of_error hlookup
    | dataError => rfl
    | notAffected => rfl
    | transactionManagementError => rfl
  · have hinsert : insertNotification row s.now =
        (.ok (row.withId s.now.rows.nextPk), db) := Tx.bind_of_ok hsave
    exact Tx.handle_of_ok (Tx.bind_of_ok (Connection.execute_of_ok hs hinsert))

/-- **Where there is no notification**, one is inserted, into what the rival has left, or
the function ends with an error. -/
theorem createNotification_of_not_has (hcontact : contact.reaches notice.channel)
    (hs : s.broken = false) (hnone : ¬s.now.Has notice) :
    createNotification contact alert notice subject message now rival s =
      let row := (notificationRow alert notice subject message now).withId
        (rival s.now).rows.nextPk
      match saveNotification row (rival s.now) with
      | (.ok _, db) => (.ok (some row), { s.after rival with now := db })
      | (.error e, _) => (.error e.behindInsertion, s.after rival) := by
  obtain ⟨hkey, hlegacy⟩ := not_has_iff.mp hnone
  have henter : s.enter.broken = false := hs
  have hreadKey : s.enter.now.findByKey notice.dedupeKey = none := hkey
  have hreadLegacy : newestNotification
      (s.enter.now.rows.select fun row => row.matchesNotice notice) = none := hlegacy
  rw [createNotification, if_pos hcontact, Connection.atomic,
    Tx.bind_of_ok (Notifier.execute_read henter), hreadKey]
  dsimp only
  rw [Tx.bind_of_ok (Notifier.execute_read henter), hreadLegacy]
  dsimp only
  rw [Tx.bind_of_ok (Connection.outside_apply rival s.enter),
    @insertOrFind_eq (s.enter.after rival) _ _ hs rfl]
  have hnow : (s.enter.after rival).now = rival s.now := rfl
  rw [hnow]
  rcases saveNotification ((notificationRow alert notice subject message now).withId
    (rival s.now).rows.nextPk) (rival s.now) with ⟨e | u, db⟩
  · rfl
  · simp only [Connection.after, Connection.enter, hs]
    rfl

end Creation

end DcimBackend
