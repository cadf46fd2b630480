import DcimBackend.Notifications.Creation
import DcimBackend.Library.Run

/-!
# Telling everyone about an alert

`create_notifications_for_alert_opened` and `create_notifications_for_alert_resolved` of
`apps/alerts/services/notifications.py`: a notification for every recipient and every
channel of the severity.  Both are one loop, with a subject, an action and a choice of
channels of their own.  The delivery that is queued for each row writes no row itself.

`fanout_correct_iff` is about any number of calls, one after another, on any table.  They
are idempotent whatever happens.  They are complete exactly if the subject fits its column,
or nothing was missing: a subject that PostgreSQL refuses ends the first insertion, and the
loop with it.

A call is given its recipients; who they are is the business of `Alerts.Recipients`.  Each
position of the loop runs `_create_notification` in a block of its own, with a clock and a rival
of its own, and the specification of a position (`CreationEffect`) is all that the induction over
the loop uses.  The races are in `Notifications.Races`, and the hooks behind the rows in
`Notifications.Dispatch`.
-/

namespace DcimBackend

open Library

/-- `_channels_for_open`. -/
def channelsForOpen (upper : String → String) (severity : AlertSeverity) :
    List NotificationChannel :=
  match severity.capitals upper with
  | .info => [.web]
  | .warning => [.web, .email]
  | .critical | .emergency => [.web, .email, .sms]
  | .unsupported _ _ => [.web]

/-- `_channels_for_resolved`. -/
def channelsForResolved (upper : String → String) (severity : AlertSeverity) :
    List NotificationChannel :=
  match severity.capitals upper with
  | .critical | .emergency => [.web, .email]
  | .info | .warning | .unsupported _ _ => [.web]

/-- An alert, what its notifications say of it, and who gets them. -/
structure Fanout where
  /-- `str.upper`. -/
  upper : String → String
  alert : AlertEvent
  /-- `alert.device`. -/
  device : Device
  /-- `alert.metric`. -/
  metric : Option MetricDefinition
  /-- `get_alert_recipients(alert)`. -/
  recipients : List Account
  contact : UserId → Contact

namespace Fanout

variable (f : Fanout)

/-- `_alert_message`. -/
def message : String :=
  pyStrip (f.device.name ++ " " ++ f.metric.elim "" (fun metric => metric.code) ++ " " ++
    f.alert.status.value ++ ": " ++ f.alert.message)

/-- The subject of an action. -/
def subject : NotificationAction → String
  | .opened => "Alert Opened: " ++ f.device.name
  | .resolved => "Alert Resolved: " ++ f.device.name

/-- The channels of an action. -/
def channels : NotificationAction → List NotificationChannel
  | .opened => channelsForOpen f.upper f.alert.severity
  | .resolved => channelsForResolved f.upper f.alert.severity

/-- The positions of the loop, in its order. -/
def notices (action : NotificationAction) : List Notice :=
  f.recipients.flatMap fun user =>
    (f.channels action).map fun channel => ⟨f.alert.id, action, channel, user.id⟩

/-- The loop.  The clock and the rivals are those of each position. -/
def notify (action : NotificationAction) (clock : Notice → Instant)
    (rival : Notice → NotificationsDb → NotificationsDb) :
    List Notice → Notifier (List NotificationRow)
  | [] => return []
  | notice :: notices => do
      let created ← createNotification (f.contact notice.user) f.alert notice
        (f.subject action) f.message (clock notice) (rival notice)
      let others ← notify action clock rival notices
      return created.toList ++ others

/-- `create_notifications_for_alert_opened`. -/
def createNotificationsForAlertOpened (clock : Notice → Instant)
    (rival : Notice → NotificationsDb → NotificationsDb) : Notifier (List NotificationRow) :=
  f.notify .opened clock rival (f.notices .opened)

/-- `create_notifications_for_alert_resolved`. -/
def createNotificationsForAlertResolved (clock : Notice → Instant)
    (rival : Notice → NotificationsDb → NotificationsDb) : Notifier (List NotificationRow) :=
  f.notify .resolved clock rival (f.notices .resolved)

/-- The function of an action. -/
def createNotifications : NotificationAction → (Notice → Instant) →
    (Notice → NotificationsDb → NotificationsDb) → Notifier (List NotificationRow)
  | .opened => f.createNotificationsForAlertOpened
  | .resolved => f.createNotificationsForAlertResolved

theorem createNotifications_eq {action : NotificationAction} {clock : Notice → Instant}
    {rival : Notice → NotificationsDb → NotificationsDb} :
    f.createNotifications action clock rival = f.notify action clock rival (f.notices action) := by
  cases action <;> rfl

/-- The table after a call without rivals, whether the call returned or raised. -/
def call (action : NotificationAction) (db : NotificationsDb) (clock : Notice → Instant) :
    NotificationsDb :=
  (f.createNotifications action clock (fun _ => id) { now := db }).2.now

/-- Every recipient that a channel reaches has a notification of it. -/
def Complete (action : NotificationAction) (db : NotificationsDb) : Prop :=
  ∀ notice ∈ f.notices action, (f.contact notice.user).reaches notice.channel → db.Has notice

instance (action : NotificationAction) (db : NotificationsDb) :
    Decidable (f.Complete action db) :=
  inferInstanceAs (Decidable (∀ _ ∈ _, _ → _))

end Fanout

namespace NotificationsDb

/-- A notice that has notifications keeps exactly these, and one that has none gets at most
one. -/
structure Grows (db db' : NotificationsDb) : Prop where
  kept : ∀ notice, db.Has notice → db'.idsFor notice = db.idsFor notice
  single : ∀ notice, ¬db.Has notice → (db'.idsFor notice).Subsingleton

variable {db db' : NotificationsDb}

theorem SameNotices.grows (h : db.SameNotices db') : db.Grows db' where
  kept notice _ := h.idsFor notice
  single notice hnone := by
    rw [h.idsFor, Set.not_nonempty_iff_eq_empty.mp (has_iff_nonempty.not.mp hnone)]
    exact Set.subsingleton_empty

instance : IsPreorder NotificationsDb Grows where
  refl _ := (refl_of SameNotices _).grows
  trans a b c h h' := by
    refine ⟨fun notice hhas => ?_, fun notice hnone => ?_⟩
    · have hmid : b.Has notice := by
        rw [has_iff_nonempty, h.kept notice hhas]
        exact has_iff_nonempty.mp hhas
      rw [h'.kept notice hmid, h.kept notice hhas]
    · by_cases hmid : b.Has notice
      · rw [h'.kept notice hmid]
        exact h.single notice hnone
      · exact h'.single notice hmid

theorem Grows.has (h : db.Grows db') {notice : Notice} (hhas : db.Has notice) :
    db'.Has notice := by
  rw [has_iff_nonempty, h.kept notice hhas]
  exact has_iff_nonempty.mp hhas

theorem Inserted.has {notice : Notice} (h : db.Inserted db' notice) : db'.Has notice := by
  rw [has_iff_nonempty, h.idsFor, if_pos rfl]
  exact Set.insert_nonempty _ _

theorem Inserted.has_other {notice other : Notice} (h : db.Inserted db' notice)
    (hother : notice.dedupeKey ≠ other.dedupeKey) : db'.Has other ↔ db.Has other := by
  rw [has_iff_nonempty, h.idsFor, if_neg hother, has_iff_nonempty]

/-- A notice has the notifications of every notice with its key. -/
theorem has_congr {a b : Notice} (h : a.dedupeKey = b.dedupeKey) : db.Has a ↔ db.Has b := by
  refine exists_congr fun row => and_congr_right fun _ => ?_
  obtain ⟨halert, haction, hchannel, huser⟩ := Notice.dedupeKey_inj.mp h
  rw [NotificationRow.IsFor, NotificationRow.IsFor, h, NotificationRow.matchesNotice,
    NotificationRow.matchesNotice, halert, haction, hchannel, huser]

/-- An insertion for a notice that has none. -/
theorem Inserted.grows {notice : Notice} (h : db.Inserted db' notice) (hnone : ¬db.Has notice) :
    db.Grows db' := by
  refine ⟨fun other hhas => ?_, fun other hother => ?_⟩
  · rw [h.idsFor, if_neg]
    intro hkey
    exact hnone ((has_congr hkey).mpr hhas)
  · have hempty := Set.not_nonempty_iff_eq_empty.mp (has_iff_nonempty.not.mp hother)
    rw [h.idsFor, hempty]
    split
    · rw [insert_empty_eq]
      exact Set.subsingleton_singleton
    · exact Set.subsingleton_empty

end NotificationsDb

/-! ### A position of the loop -/

section Position

open NotificationsDb

variable {contact : Contact} {alert : AlertEvent} {notice : Notice} {subject message : String}
  {now : Instant} {s : Connection NotificationsDb} {db db' : NotificationsDb}

/-- What a position without a rival does, and what it returns or raises: it skips a channel
that does not reach the user, or a notice that has a notification; it creates one; or
PostgreSQL refuses the subject. -/
inductive CreationEffect (contact : Contact) (notice : Notice) (subject : String)
    (db db' : NotificationsDb) : Except NotificationError (Option NotificationRow) → Prop
  | skipped (hsame : db.SameNotices db') (hhas : contact.reaches notice.channel → db.Has notice) :
      CreationEffect contact notice subject db db' (.ok none)
  | created (row : NotificationRow) (hreaches : contact.reaches notice.channel)
      (hnone : ¬db.Has notice) (hinserted : db.Inserted db' notice)
      (hfits : subject.length ≤ 255) : CreationEffect contact notice subject db db' (.ok (some row))
  | refused (e : NotificationError) (hdb : db' = db) (hreaches : contact.reaches notice.channel)
      (hnone : ¬db.Has notice) (hlong : ¬subject.length ≤ 255) :
      CreationEffect contact notice subject db db' (.error e)

/-- The row of a notice without notifications can be inserted, if its subject fits. -/
theorem saveNotification_notice (hnone : ¬db.Has notice) (hfits : subject.length ≤ 255) :
    ∃ db', saveNotification ((notificationRow alert notice subject message now).withId
      db.rows.nextPk) db = (.ok ⟨⟩, db') ∧ db.Inserted db' notice ∧
        (notificationRow alert notice subject message now).withId db.rows.nextPk ∈ db'.rows := by
  have hrow : ((notificationRow alert notice subject message now).withId
      db.rows.nextPk).Fits := by
    rintro _ ⟨⟩
    exact hfits
  have hfree : db.KeyFree ((notificationRow alert notice subject message now).withId
      db.rows.nextPk) := by
    rintro other hother - key ⟨⟩ hkey
    exact hnone ⟨other, hother, Or.inl hkey⟩
  exact ⟨_, saveNotification_of_fits hrow hfree, inserted_put rfl fun _ => isFor_notificationRow,
    Table.mem_save.mpr (Or.inl rfl)⟩

theorem creationEffect (hs : s.broken = false) :
    ∃ r db, createNotification contact alert notice subject message now id s =
      (r, { s with now := db }) ∧ CreationEffect contact notice subject s.now db r := by
  by_cases hhas : s.now.Has notice
  · obtain ⟨db, hcreate, hsame, -⟩ := createNotification_of_has hs hhas
    exact ⟨.ok none, db, hcreate, .skipped hsame fun _ => hhas⟩
  cases hcontact : contact.reaches notice.channel with
  | false =>
      refine ⟨.ok none, s.now, createNotification_of_unreachable hcontact, ?_⟩
      exact .skipped (refl_of SameNotices _) fun h => absurd (hcontact.symm.trans h) (by simp)
  | true =>
      have hafter : s.after id = s := by
        simp only [Connection.after, id_eq, List.map_id_fun]
      rw [createNotification_of_not_has hcontact hs hhas, hafter]
      simp only [id_eq]
      by_cases hfits : subject.length ≤ 255
      · obtain ⟨db, hsave, hinserted, -⟩ :=
          @saveNotification_notice alert notice subject message now s.now hhas hfits
        rw [hsave]
        exact ⟨_, _, rfl, .created _ hcontact hhas hinserted hfits⟩
      · have hrow : ¬((notificationRow alert notice subject message now).withId
            s.now.rows.nextPk).Fits := fun h => hfits (h subject rfl)
        rw [saveNotification_of_not_fits hrow]
        exact ⟨_, _, rfl, .refused _ rfl hcontact hhas hfits⟩

theorem CreationEffect.grows {r : Except NotificationError (Option NotificationRow)}
    (h : CreationEffect contact notice subject db db' r) : db.Grows db' := by
  cases h with
  | skipped hsame => exact hsame.grows
  | created row hreaches hnone hinserted => exact hinserted.grows hnone
  | refused e hdb =>
      rw [hdb]
      exact refl_of Grows _

/-- A position that creates nothing. -/
theorem CreationEffect.same {r : Except NotificationError (Option NotificationRow)}
    (h : CreationEffect contact notice subject db db' r)
    (hnot : ¬(contact.reaches notice.channel ∧ ¬db.Has notice ∧ subject.length ≤ 255)) :
    db.SameNotices db' := by
  cases h with
  | skipped hsame => exact hsame
  | created row hreaches hnone hinserted hfits => exact absurd ⟨hreaches, hnone, hfits⟩ hnot
  | refused e hdb =>
      rw [hdb]
      exact refl_of SameNotices _

/-- A position leaves a notice with another key alone. -/
theorem CreationEffect.has_other {r : Except NotificationError (Option NotificationRow)}
    (h : CreationEffect contact notice subject db db' r) {other : Notice}
    (hother : notice.dedupeKey ≠ other.dedupeKey) : db'.Has other ↔ db.Has other := by
  cases h with
  | skipped hsame => exact hsame.has_iff
  | created row hreaches hnone hinserted => exact hinserted.has_other hother
  | refused e hdb => rw [hdb]

end Position

/-! ### The loop -/

namespace Fanout

open NotificationsDb

variable {f : Fanout} {action : NotificationAction} {clock : Notice → Instant}
  {notices : List Notice} {s : Connection NotificationsDb} {db : NotificationsDb}

/-- What the loop does without rivals.  It adds at most one notification to each notice that
has none; if the subject fits, every position has a notification afterwards; if it does not,
or if every position has one before, nothing is created.  Notices with other keys are left
alone. -/
theorem notify_spec (hs : s.broken = false) :
    ∃ r db, f.notify action clock (fun _ => id) notices s = (r, { s with now := db }) ∧
      s.now.Grows db ∧
      ((f.subject action).length ≤ 255 → ∀ notice ∈ notices,
        (f.contact notice.user).reaches notice.channel → db.Has notice) ∧
      ((∀ notice ∈ notices, (f.contact notice.user).reaches notice.channel →
        ¬s.now.Has notice → ¬(f.subject action).length ≤ 255) → s.now.SameNotices db) ∧
      ∀ other : Notice, (∀ notice ∈ notices, notice.dedupeKey ≠ other.dedupeKey) →
        (db.Has other ↔ s.now.Has other) := by
  induction notices generalizing s with
  | nil =>
      exact ⟨.ok [], s.now, rfl, refl_of Grows _, by simp, fun _ => refl_of SameNotices _,
        fun _ _ => Iff.rfl⟩
  | cons notice notices ih =>
      obtain ⟨r, mid, hcreate, heffect⟩ := @creationEffect (f.contact notice.user) f.alert notice
        (f.subject action) f.message (clock notice) s hs
      cases r with
      | error e =>
          -- the loop ends here, since the subject does not fit
          have hlong : ¬(f.subject action).length ≤ 255 := by
            cases heffect with
            | refused e hdb hreaches hnone hlong => exact hlong
          exact ⟨.error e, mid, Tx.bind_of_error hcreate, heffect.grows,
            fun hfits => absurd hfits hlong, fun _ => heffect.same fun h => hlong h.2.2,
            fun other hother => heffect.has_other (hother notice List.mem_cons_self)⟩
      | ok created =>
          obtain ⟨r, db, hnotify, hgrows, hcomplete, hsame, hothers⟩ :=
            @ih { s with now := mid } hs
          have hhas : (f.subject action).length ≤ 255 →
              (f.contact notice.user).reaches notice.channel → mid.Has notice := by
            intro hfits hreaches
            cases heffect with
            | skipped hsame hhas => exact hsame.has_iff.mpr (hhas hreaches)
            | created row _ _ hinserted => exact hinserted.has
          refine ⟨r.map (created.toList ++ ·), db, ?_, trans_of Grows heffect.grows hgrows,
            fun hfits => ?_, fun hnone => ?_, fun other hother => ?_⟩
          · rw [notify, Tx.bind_of_ok hcreate]
            cases r with
            | ok others => exact Tx.bind_of_ok hnotify
            | error e => exact Tx.bind_of_error hnotify
          · rw [List.forall_mem_cons]
            exact ⟨fun hreaches => hgrows.has (hhas hfits hreaches), hcomplete hfits⟩
          · rw [List.forall_mem_cons] at hnone
            have hmid : s.now.SameNotices mid :=
              heffect.same fun ⟨hreaches, hmissing, hfits⟩ => hnone.1 hreaches hmissing hfits
            refine trans_of SameNotices hmid (hsame fun other hother hreaches hmissing => ?_)
            exact hnone.2 other hother hreaches (hmid.has_iff.not.mp hmissing)
          · rw [List.forall_mem_cons] at hother
            exact (hothers other hother.2).trans (heffect.has_other hother.1)

/-- What a call does. -/
theorem call_spec (db : NotificationsDb) :
    db.Grows (f.call action db clock) ∧
      ((f.subject action).length ≤ 255 → f.Complete action (f.call action db clock)) ∧
      ((f.subject action).length ≤ 255 → f.Complete action db →
        db.SameNotices (f.call action db clock)) ∧
      (¬(f.subject action).length ≤ 255 → db.SameNotices (f.call action db clock)) := by
  obtain ⟨r, db', hnotify, hgrows, hcomplete, hsame, -⟩ :=
    @notify_spec f action clock (f.notices action) { now := db } rfl
  have hcall : f.call action db clock = db' := by
    rw [call, createNotifications_eq, hnotify]
  rw [hcall]
  refine ⟨hgrows, hcomplete, fun _ hbefore => hsame ?_, fun hlong => hsame ?_⟩
  · exact fun notice hnotice hreaches hnone => absurd (hbefore notice hnotice hreaches) hnone
  · exact fun _ _ _ _ => hlong

/-- The calls of an action, one after another, tell everyone, and nobody twice. -/
structure Correct (f : Fanout) (action : NotificationAction) (db : NotificationsDb) : Prop where
  /-- After one call or more, every recipient has a notification on every channel. -/
  complete : ∀ clocks, clocks ≠ [] → f.Complete action (run (f.call action) db clocks)
  /-- None of the calls after the first creates a row. -/
  idempotent : ∀ clock clocks,
    (run (f.call action) db (clock :: clocks)).ids = (f.call action db clock).ids
  /-- No call creates a second row for a notice. -/
  single : ∀ clocks, Along (f.call action) (fun before _ after => before.Grows after) db clocks

theorem complete_grows {db' : NotificationsDb} (h : db.Grows db') (hcomplete : f.Complete action db) :
    f.Complete action db' :=
  fun notice hnotice hreaches => h.has (hcomplete notice hnotice hreaches)

/-- After a call, more calls create nothing. -/
theorem sameNotices_run (clocks : List (Notice → Instant)) :
    (f.call action db clock).SameNotices (run (f.call action) (f.call action db clock) clocks) := by
  obtain ⟨-, hcomplete, -, hlong⟩ := @call_spec f action clock db
  -- either everything is there, or nothing can be created
  refine (run_invariant (I := fun db' => (f.call action db clock).SameNotices db' ∧
    ((f.subject action).length ≤ 255 → f.Complete action db')) ?_
      ⟨refl_of SameNotices _, hcomplete⟩ clocks).1
  rintro db' clock' ⟨hsame, hcomplete'⟩
  obtain ⟨hgrows, hcompleteNext, hsameNext, hlongNext⟩ := @call_spec f action clock' db'
  refine ⟨trans_of SameNotices hsame ?_, hcompleteNext⟩
  by_cases hfits : (f.subject action).length ≤ 255
  · exact hsameNext hfits (hcomplete' hfits)
  · exact hlongNext hfits

/-- **The calls are correct** exactly if the subject of the action fits its column, or every
recipient has been told before. -/
theorem fanout_correct_iff (f : Fanout) (action : NotificationAction) (db : NotificationsDb) :
    f.Correct action db ↔ (f.subject action).length ≤ 255 ∨ f.Complete action db := by
  constructor
  · intro hcorrect
    by_cases hfits : (f.subject action).length ≤ 255
    · exact Or.inl hfits
    · right
      have hafter := hcorrect.complete [fun _ => 0] (by simp)
      have hsame := (@call_spec f action (fun _ => 0) db).2.2.2 hfits
      exact fun notice hnotice hreaches => hsame.has_iff.mp (hafter notice hnotice hreaches)
  · intro hwhen
    have hgrows : ∀ (db : NotificationsDb) (clock : Notice → Instant),
        db.Grows (f.call action db clock) := fun db _ => (call_spec db).1
    refine ⟨fun clocks hclocks => ?_, fun clock clocks => (sameNotices_run clocks).ids,
      fun clocks => along_of_forall hgrows db clocks⟩
    obtain ⟨clock, clocks, rfl⟩ := List.exists_cons_of_ne_nil hclocks
    have hfirst : f.Complete action (f.call action db clock) := by
      rcases hwhen with hfits | hcomplete
      · exact (call_spec db).2.1 hfits
      · exact complete_grows (hgrows db clock) hcomplete
    exact fun notice hnotice hreaches =>
      (sameNotices_run clocks).has_iff.mpr (hfirst notice hnotice hreaches)

/-- A device with a long name, and its alert for one user. -/
def longName : Fanout where
  upper := String.toUpper
  alert := firstBankAlert
  device :=
    { id := 1, organization := 1, dataCenter := 1, deviceType := 1
      name := String.ofList (List.replicate 242 'x') }
  metric := none
  recipients := [{ id := 1, username := "first" }]
  contact _ := {}

/-- The name fits its column, and the subject does not: nobody is told. -/
theorem longName_untold :
    longName.device.name.length ≤ 255 ∧ ¬longName.Correct .opened .empty := by
  have hname : longName.device.name.length = 242 := by
    show (String.ofList _).length = _
    rw [String.length_ofList, List.length_replicate]
  have hlength : (longName.subject .opened).length = 256 := by
    show ("Alert Opened: " ++ longName.device.name).length = _
    rw [String.length_append, hname]
    rfl
  refine ⟨by omega, fun hcorrect => ?_⟩
  have hafter := hcorrect.complete [fun _ => 0] (by simp)
  rw [run_cons, run_nil] at hafter
  have hsame := (@call_spec longName .opened (fun _ => 0) .empty).2.2.2 (by omega)
  -- the first position is the web page of the user
  have hnotice : (⟨1, .opened, .web, 1⟩ : Notice) ∈ longName.notices .opened := by decide
  obtain ⟨row, hrow, -⟩ := hsame.has_iff.mp (hafter _ hnotice rfl)
  cases hrow

end Fanout

end DcimBackend
