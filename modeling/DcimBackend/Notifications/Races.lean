import DcimBackend.Notifications.Fanout

/-!
# A lost race for a dedupe key

Two workers tell the same user of the same alert.  At one position of the loop of
`create_notifications_for_alert_opened` the other worker commits first, behind the lookups
and in front of the insertion.  The insertion fails, and the function means to look up the
other row and go on; but the lookup is a query in the block that the failure has broken.
What it raises leaves the block, the function and the loop, and `open_alert` swallows it.

`raced_complete_iff` says what that costs: every position behind the raced one which had no
notification yet.

The rival is another worker at the same position, so it uses the same key; its row may have other
texts.  The race is put at any one position of the loop, and what others have committed before it
is part of the table.
-/

namespace DcimBackend

open Library

namespace Fanout

open NotificationsDb

variable {f : Fanout} {action : NotificationAction} {clock : Notice → Instant}
  {rival : Notice → NotificationsDb → NotificationsDb} {notices others : List Notice}
  {s : Connection NotificationsDb}

/-- The end of `open_alert`: what the loop raises is logged. -/
def notifyOpened (f : Fanout) (clock : Notice → Instant)
    (rival : Notice → NotificationsDb → NotificationsDb) : Notifier (List NotificationRow) :=
  Tx.handle (f.createNotificationsForAlertOpened clock rival) fun _ => return []

/-- The notification of another worker, on the same alert and at the same position. -/
structure Rival where
  alert : AlertEvent
  subject : String
  message : String
  createdAt : Instant
  subject_fits : subject.length ≤ 255

/-- The other worker commits its row for a notice. -/
def Rival.commit (rival : Rival) (notice : Notice) (db : NotificationsDb) : NotificationsDb :=
  (insertNotification
    (notificationRow rival.alert notice rival.subject rival.message rival.createdAt) db).2

/-- One position is raced. -/
def racedAt (rival : Rival) (raced : Notice) : Notice → NotificationsDb → NotificationsDb :=
  Function.update (fun _ => id) raced (rival.commit raced)

/-- The commit of another worker changes its own notice only, and uses its key. -/
theorem Rival.commit_spec {rival : Rival} {notice : Notice} {db : NotificationsDb}
    (hnone : ¬db.Has notice) :
    db.Inserted (rival.commit notice db) notice ∧
      ∃ row ∈ (rival.commit notice db).rows, row.dedupeKey = some notice.dedupeKey := by
  obtain ⟨db', hsave, hinserted, hmem⟩ := saveNotification_notice hnone rival.subject_fits
  rw [commit, insertNotification, Tx.bind_of_ok hsave]
  exact ⟨hinserted, _, hmem, rfl⟩

/-! ### The loop in parts -/

/-- The loop over two lists. -/
theorem notify_append :
    f.notify action clock rival (notices ++ others) s =
      (do
        let created ← f.notify action clock rival notices
        let rest ← f.notify action clock rival others
        return created ++ rest) s := by
  induction notices generalizing s with
  | nil =>
      rw [List.nil_append, notify, Tx.bind_apply, Tx.pure_apply]
      dsimp only
      rw [Tx.bind_apply]
      rcases f.notify action clock rival others s with ⟨e | rest, s'⟩ <;> rfl
  | cons notice notices ih =>
      rw [List.cons_append, notify, notify]
      simp only [Tx.bind_apply]
      rcases createNotification (f.contact notice.user) f.alert notice (f.subject action)
        f.message (clock notice) (rival notice) s with ⟨e | created, s'⟩
      · rfl
      · dsimp only
        rw [ih]
        simp only [Tx.bind_apply]
        rcases f.notify action clock rival notices s' with ⟨e | rest, s''⟩
        · rfl
        · dsimp only
          rw [Tx.pure_apply]
          dsimp only
          rcases f.notify action clock rival others s'' with ⟨e | rest', s'''⟩
          · rfl
          · simp only [Tx.pure_apply, List.append_assoc]

/-- The loop looks at the rivals of its own positions. -/
theorem notify_congr {rival' : Notice → NotificationsDb → NotificationsDb}
    (h : ∀ notice ∈ notices, rival notice = rival' notice) :
    f.notify action clock rival notices = f.notify action clock rival' notices := by
  induction notices with
  | nil => rfl
  | cons notice notices ih =>
      rw [List.forall_mem_cons] at h
      rw [notify, notify, h.1, ih h.2]

/-- The channels of an action have different texts. -/
theorem nodup_channels : ((f.channels action).map NotificationChannel.value).Nodup := by
  cases action with
  | opened =>
      rw [channels, channelsForOpen]
      cases f.alert.severity.capitals f.upper with
      | unsupported text htext => exact List.nodup_singleton _
      | _ => decide
  | resolved =>
      rw [channels, channelsForResolved]
      cases f.alert.severity.capitals f.upper with
      | unsupported text htext => exact List.nodup_singleton _
      | _ => decide

/-- The positions have different keys, if the recipients are different users. -/
theorem nodup_keys (hrecipients : (f.recipients.map fun user => user.id).Nodup) :
    ((f.notices action).map Notice.dedupeKey).Nodup := by
  have hchannels : (f.channels action).Pairwise fun a b => a.value ≠ b.value :=
    List.pairwise_map.mp (@nodup_channels f action)
  rw [notices, List.map_flatMap, List.nodup_flatMap]
  constructor
  · intro user _
    rw [List.map_map]
    refine List.pairwise_map.mpr (hchannels.imp fun hne hkey => ?_)
    exact hne (Notice.dedupeKey_inj.mp hkey).2.2.1
  · refine (List.pairwise_map.mp hrecipients).imp fun hne => ?_
    simp only [Function.onFun, List.disjoint_left, List.mem_map]
    rintro _ ⟨_, ⟨channel, -, rfl⟩, rfl⟩ ⟨_, ⟨channel', -, rfl⟩, hkey⟩
    exact hne (Notice.dedupeKey_inj.mp hkey).2.2.2.symm

/-! ### Up to the race -/

/-- **At the race** the rival has committed, and the function ends with an error. -/
theorem createNotification_raced {contact : Contact} {alert : AlertEvent} {raced : Notice}
    {subject message : String} {now : Instant} {rival : Rival} (hs : s.broken = false)
    (hreaches : contact.reaches raced.channel) (hnone : ¬s.now.Has raced) :
    ∃ e, createNotification contact alert raced subject message now (rival.commit raced) s =
      (.error e, s.after (rival.commit raced)) := by
  rw [createNotification_of_not_has hreaches hs hnone]
  dsimp only
  rcases hsave : saveNotification ((notificationRow alert raced subject message now).withId
    (rival.commit raced s.now).rows.nextPk) (rival.commit raced s.now) with ⟨e | u, db⟩
  · exact ⟨_, rfl⟩
  · -- the key of the rival's row is not free
    obtain ⟨row, hrow, hkey⟩ := (@Rival.commit_spec rival raced s.now hnone).2
    refine absurd hkey ((saveNotification_ok hsave).2 row hrow ?_ _ rfl)
    exact ((rival.commit raced s.now).rows.pk_lt_nextPk row hrow).ne

section Race

variable {rival : Rival} {before : List Notice} {raced : Notice} {rest : List Notice}

/-- A position behind the race has a notification afterwards exactly if it had one before. -/
theorem raced_has_iff (hs : s.broken = false)
    (hrecipients : (f.recipients.map fun user => user.id).Nodup)
    (hpositions : f.notices .opened = before ++ raced :: rest)
    (hreaches : (f.contact raced.user).reaches raced.channel) (hnone : ¬s.now.Has raced)
    {other : Notice} (hother : other ∈ rest) :
    (f.notifyOpened clock (racedAt rival raced) s).2.now.Has other ↔ s.now.Has other := by
  have hkeys := @nodup_keys f .opened hrecipients
  rw [hpositions, List.map_append, List.map_cons, List.nodup_append] at hkeys
  obtain ⟨-, hracedRest, hbefore⟩ := hkeys
  obtain ⟨hraced, -⟩ := List.nodup_cons.mp hracedRest
  -- no position in front of the race has the key of the raced one, or of one behind it
  have hfront : ∀ notice ∈ before, ∀ other ∈ raced :: rest,
      notice.dedupeKey ≠ other.dedupeKey := by
    intro notice hnotice other hother
    rw [← List.map_cons] at hbefore
    exact hbefore _ (List.mem_map_of_mem hnotice) _ (List.mem_map_of_mem hother)
  have hcongr : f.notify .opened clock (racedAt rival raced) before =
      f.notify .opened clock (fun _ => id) before := by
    refine notify_congr fun notice hnotice => Function.update_of_ne ?_ _ _
    rintro rfl
    exact hfront notice hnotice notice List.mem_cons_self rfl
  obtain ⟨r, db, hnotify, -, -, -, hhas⟩ := @notify_spec f .opened clock before s hs
  have hotherFront := hhas other fun notice hnotice =>
    hfront notice hnotice other (List.mem_cons_of_mem _ hother)
  rw [notifyOpened, Tx.handle_state, createNotificationsForAlertOpened, hpositions,
    notify_append, hcongr]
  cases r with
  | error e =>
      rw [Tx.bind_of_error hnotify]
      exact hotherFront
  | ok created =>
      have hmissing : ¬db.Has raced := fun h =>
        hnone ((hhas raced fun notice hnotice =>
          hfront notice hnotice raced List.mem_cons_self).mp h)
      obtain ⟨e, hcreate⟩ := @createNotification_raced { s with now := db }
        (f.contact raced.user) f.alert raced (f.subject .opened) f.message (clock raced) rival
        hs hreaches hmissing
      have hloop : f.notify .opened clock (racedAt rival raced) (raced :: rest)
          { s with now := db } = (.error e, Connection.after { s with now := db }
            (rival.commit raced)) := by
        rw [notify, racedAt, Function.update_self]
        exact Tx.bind_of_error hcreate
      rw [Tx.bind_of_ok hnotify, Tx.bind_of_error hloop]
      have hkey : raced.dedupeKey ≠ other.dedupeKey := fun h =>
        hraced (h ▸ List.mem_map_of_mem hother)
      exact ((Rival.commit_spec hmissing).1.has_other hkey).trans hotherFront

end Race

/-- **Losing the race** at one position leaves a notification at every position behind it
that reaches its user exactly if each of them had one before. -/
theorem raced_complete_iff (f : Fanout) (clock : Notice → Instant) (rival : Rival)
    (s : Connection NotificationsDb) (before : List Notice) (raced : Notice) (rest : List Notice)
    (hs : s.broken = false) (hrecipients : (f.recipients.map fun user => user.id).Nodup)
    (hpositions : f.notices .opened = before ++ raced :: rest)
    (hreaches : (f.contact raced.user).reaches raced.channel) (hnone : ¬s.now.Has raced) :
    (∀ notice ∈ rest, (f.contact notice.user).reaches notice.channel →
        (f.notifyOpened clock (racedAt rival raced) s).2.now.Has notice) ↔
      ∀ notice ∈ rest, (f.contact notice.user).reaches notice.channel → s.now.Has notice :=
  forall_congr' fun _ => forall_congr' fun hnotice => imp_congr_right fun _ =>
    raced_has_iff hs hrecipients hpositions hreaches hnone hnotice

/-! ### A user on two channels -/

/-- A warning for one user. -/
def warnOne (contact : Contact) : Fanout where
  upper := String.toUpper
  alert := { firstBankAlert with severity := .warning }
  device := { id := 1, organization := 1, dataCenter := 1, deviceType := 1, name := "UPS 01" }
  metric := none
  recipients := [{ id := 1, username := "first" }]
  contact _ := contact

/-- Another worker on the same warning. -/
def otherWorker : Rival where
  alert := { firstBankAlert with severity := .warning }
  subject := "Alert Opened: UPS 01"
  message := "UPS 01  OPEN: On battery"
  createdAt := 0
  subject_fits := by decide

/-- Behind an e-mail that is stored already, the race for the web page costs nothing. -/
theorem warnOne_complete :
    ((warnOne { email := "first@bank" }).notifyOpened (fun _ => 0)
      (racedAt otherWorker ⟨1, .opened, .web, 1⟩)
      { now := otherWorker.commit ⟨1, .opened, .email, 1⟩ .empty }).2.now.Has
        ⟨1, .opened, .email, 1⟩ :=
  (raced_complete_iff (warnOne { email := "first@bank" }) (fun _ => 0) otherWorker
    { now := otherWorker.commit ⟨1, .opened, .email, 1⟩ .empty } []
    ⟨1, .opened, .web, 1⟩ [⟨1, .opened, .email, 1⟩] rfl (by decide) rfl rfl (by decide)).mpr
    (by decide) ⟨1, .opened, .email, 1⟩ List.mem_cons_self (by decide)

/-- With one, the e-mail is lost. -/
theorem warnOne_loses :
    ¬∀ notice ∈ [(⟨1, .opened, .email, 1⟩ : Notice)],
      ((warnOne { email := "first@bank" }).contact notice.user).reaches notice.channel →
        ((warnOne { email := "first@bank" }).notifyOpened (fun _ => 0)
          (racedAt otherWorker ⟨1, .opened, .web, 1⟩) { now := .empty }).2.now.Has notice := by
  intro h
  have hiff := @raced_has_iff (warnOne { email := "first@bank" }) (fun _ => 0)
    { now := .empty } otherWorker [] ⟨1, .opened, .web, 1⟩ [⟨1, .opened, .email, 1⟩] rfl
    (by decide) rfl rfl (by decide) ⟨1, .opened, .email, 1⟩ List.mem_cons_self
  have hhas := hiff.mp (h _ List.mem_cons_self (by decide))
  obtain ⟨row, hrow, -⟩ := hhas
  cases hrow

end Fanout

end DcimBackend
