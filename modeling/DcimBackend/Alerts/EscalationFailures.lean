import DcimBackend.Alerts.EscalationRuns

/-!
# Escalations that fail

The record of an escalation is committed before the log row and the notifications that it
stands for.  An escalation that fails behind the record leaves the rest undone, and no later
run takes it up, since the record says that it has been done.

A position of the loop over recipients and channels stops the loop or does not, and this
depends on the state before the loop only: what a position inserts has its own key.  So the
positions that are told are those in front of the first that stops it, and that one if what
failed was the queueing of its delivery.

What may be refused is a parameter of the run, one Boolean for each `EscalationPoint`: the save of
the metadata, the log row, each query for recipients, and at each position of the loop the
insertion and the queueing.  PostgreSQL refuses on its own account what does not fit, such as a
subject that is longer than its column, so `Stops` has both reasons.

The completeness of an escalation is said of the stored rows alone: its log row, and a
notification under the key of each of `requiredNotices`.  `Grows` and `SameEscalation` carry it
through later runs, which neither delete rows nor take up an escalation that is recorded.
-/

namespace DcimBackend

open Library

/-! ### Keys -/

/-- **The key of an escalation notice** tells its alert, its policy, the text of its channel,
and its user. -/
theorem EscalationNotice.dedupeKey_inj {a b : EscalationNotice} :
    a.dedupeKey = b.dedupeKey ↔ a.alert = b.alert ∧ a.policy = b.policy ∧
      a.channel.value = b.channel.value ∧ a.user = b.user := by
  have hsplit : ∀ notice : EscalationNotice, notice.dedupeKey.toList =
      "alert".toList ++ ':' :: ((toString notice.alert).toList ++ ':' ::
        ("ESCALATED".toList ++ ':' :: ((toString notice.policy).toList ++ ':' ::
          (notice.channel.value.toList ++ ':' :: (toString notice.user).toList)))) := by
    intro notice
    simp [dedupeKey]
  have hcolon : ∀ n : ℕ, ':' ∉ (toString n).toList := fun _ => notMem_toString_nat (by decide)
  rw [← String.toList_inj, hsplit, hsplit, append_sep_inj (by decide) (by decide),
    append_sep_inj (hcolon _) (hcolon _), append_sep_inj (by decide) (by decide),
    append_sep_inj (hcolon _) (hcolon _), sep_append_inj (hcolon _) (hcolon _)]
  simp only [String.toList_inj, toString_nat_inj, true_and]

/-- The channels of a policy have different texts. -/
theorem AlertEscalationPolicy.channel_eq {policy : AlertEscalationPolicy}
    {a b : NotificationChannel} (ha : a ∈ policy.channels) (hb : b ∈ policy.channels)
    (h : a.value = b.value) : a = b := by
  unfold channels at ha hb
  split at ha
  · rename_i hother
    rw [if_pos hother] at hb
    rcases List.mem_pair.mp ha with rfl | rfl
    · rcases List.mem_pair.mp hb with rfl | rfl
      · rfl
      · exact absurd h.symm hother.2
    · rcases List.mem_pair.mp hb with rfl | rfl
      · exact absurd h hother.2
      · rfl
  · rename_i hweb
    rw [if_neg hweb] at hb
    rw [List.mem_singleton.mp ha, List.mem_singleton.mp hb]

/-! ### What an escalation leaves behind -/

namespace NotificationsDb

/-- There is a notification with the key. -/
def HasKey (db : NotificationsDb) (key : String) : Prop :=
  ∃ row ∈ db.rows, row.dedupeKey = some key

instance (db : NotificationsDb) (key : String) : Decidable (db.HasKey key) :=
  inferInstanceAs (Decidable (∃ row ∈ db.rows, _))

variable {db : NotificationsDb} {key : String}

theorem findByKey_eq_none_iff : db.findByKey key = none ↔ ¬db.HasKey key := by
  rw [findByKey, List.find?_eq_none]
  simp only [HasKey, not_exists, not_and, decide_eq_true_eq]
  exact Iff.rfl

/-- A row with a free key that fits is inserted. -/
theorem insertNotification_of_free {row : NotificationRow} (hfits : row.Fits)
    (hkey : row.dedupeKey = some key) (hfree : ¬db.HasKey key) :
    ∃ db', insertNotification row db = (.ok (row.withId db.rows.nextPk), db') ∧
      ∀ other, db'.HasKey other ↔ db.HasKey other ∨ other = key := by
  have hkeyFree : db.KeyFree (row.withId db.rows.nextPk) := by
    rintro other hother - used hused hotherKey
    rw [NotificationRow.withId, hkey] at hused
    obtain rfl := Option.some.inj hused
    exact hfree ⟨other, hother, hotherKey⟩
  have hfitsNew : (row.withId db.rows.nextPk).Fits := hfits
  refine ⟨db.put _ hfitsNew hkeyFree, Tx.bind_of_ok (saveNotification_of_fits hfitsNew hkeyFree),
    fun other => ?_⟩
  have hrowKey : (row.withId db.rows.nextPk).dedupeKey = some key := hkey
  have hid : (row.withId db.rows.nextPk).id = db.rows.nextPk := rfl
  simp only [HasKey, mem_put_nextPk hid, or_and_right, exists_or, exists_eq_left, hrowKey,
    Option.some.injEq]
  rw [or_comm, @eq_comm _ key]

/-- A row that does not fit is refused. -/
theorem insertNotification_of_not_fits {row : NotificationRow} (h : ¬row.Fits) :
    insertNotification row db = (.error .dataError, db) :=
  Tx.bind_of_error (saveNotification_of_not_fits h)

end NotificationsDb

namespace EscalationDb

variable (db : EscalationDb)

/-- The log row of an escalation has been written. -/
def Logged (alert : AlertId) (policy : PolicyId) : Prop :=
  ∃ log ∈ db.alerts.logs, log.Escalates alert policy

instance (alert : AlertId) (policy : PolicyId) : Decidable (db.Logged alert policy) :=
  inferInstanceAs (Decidable (∃ log ∈ db.alerts.logs, _))

/-- There is a notification of the notice. -/
def Told (notice : EscalationNotice) : Prop := db.notifications.HasKey notice.dedupeKey

instance (notice : EscalationNotice) : Decidable (db.Told notice) :=
  inferInstanceAs (Decidable (db.notifications.HasKey _))

end EscalationDb

/-! ### One position of the loop -/

namespace EscalationSetup

variable (setup : EscalationSetup) (fails : EscalationPoint → Bool) (subject : String)

/-- The position inserts its notification, unless it exists. -/
structure Sends (notice : EscalationNotice) : Prop where
  reaches : (setup.contact notice.user).reaches notice.channel
  lookup : fails (.notification notice.channel notice.user) = false
  fits : subject.length ≤ 255

/-- The position raises. -/
structure Stops (db : NotificationsDb) (notice : EscalationNotice) : Prop where
  reaches : (setup.contact notice.user).reaches notice.channel
  fails : fails (.notification notice.channel notice.user) ∨
    (¬db.HasKey notice.dedupeKey ∧
      (¬subject.length ≤ 255 ∨ fails (.queueDelivery notice.channel notice.user)))

variable {setup fails subject} {alert : AlertEvent} {policy : AlertEscalationPolicy}
  {message : String} {now : Instant} {db : EscalationDb}

/-- The positions of one escalation have different keys. -/
theorem escalationNotice_eq {a b : EscalationNotice} {as bs : List Account}
    (ha : a ∈ escalationNotices alert policy as) (hb : b ∈ escalationNotices alert policy bs)
    (h : a.dedupeKey = b.dedupeKey) : a = b := by
  obtain ⟨-, hchannelA, -⟩ := mem_escalationNotices.mp ha
  obtain ⟨-, hchannelB, -⟩ := mem_escalationNotices.mp hb
  obtain ⟨halert, hpolicy, hchannel, huser⟩ := EscalationNotice.dedupeKey_inj.mp h
  have hsame := AlertEscalationPolicy.channel_eq hchannelA hchannelB hchannel
  cases a
  cases b
  simp_all

theorem Escalator.onNotifications_of_ok {α : Type} {x : Tx NotificationError NotificationsDb α}
    {a : α} {notifications : NotificationsDb} (h : x db.notifications = (.ok a, notifications)) :
    Escalator.onNotifications x db = (.ok a, { db with notifications := notifications }) := by
  rw [Escalator.onNotifications, h]

theorem Escalator.onNotifications_of_error {α : Type}
    {x : Tx NotificationError NotificationsDb α} {e : NotificationError}
    {notifications : NotificationsDb} (h : x db.notifications = (.error e, notifications)) :
    Escalator.onNotifications x db =
      (.error (.notification e), { db with notifications := notifications }) := by
  rw [Escalator.onNotifications, h]

/-- A notice whose subject is too long is refused. -/
theorem insertNotice_of_long (notice : EscalationNotice) (hlong : ¬subject.length ≤ 255) :
    (some <$> Escalator.onNotifications
      (insertNotification (escalationRow alert notice subject message now))) db =
      (.error (.notification .dataError), db) := by
  have hnot : ¬(escalationRow alert notice subject message now).Fits := by
    intro h
    exact hlong (h subject rfl)
  exact Tx.bind_of_error (Escalator.onNotifications_of_error
    (NotificationsDb.insertNotification_of_not_fits hnot))

/-- Another one is inserted, if it is new. -/
theorem exists_insertNotice {notice : EscalationNotice} (hfits : subject.length ≤ 255)
    (htold : ¬db.Told notice) :
    ∃ row notifications, (some <$> Escalator.onNotifications
        (insertNotification (escalationRow alert notice subject message now))) db =
        (.ok (some row), { db with notifications := notifications }) ∧
      ∀ key, notifications.HasKey key ↔
        db.notifications.HasKey key ∨ key = notice.dedupeKey := by
  have hrow : (escalationRow alert notice subject message now).Fits := by
    intro other hother
    rw [← Option.some.inj hother]
    exact hfits
  obtain ⟨notifications, hinsert, hkeys⟩ :=
    NotificationsDb.insertNotification_of_free hrow rfl htold
  exact ⟨_, notifications, Tx.bind_of_ok (Escalator.onNotifications_of_ok hinsert), hkeys⟩

/-- **One position** raises exactly if it stops the loop, and adds its own key at most. -/
theorem createEscalationNotification_spec (notice : EscalationNotice) :
    ∃ r db', setup.createEscalationNotification fails alert notice subject message now db =
        (r, db') ∧
      (r.isOk ↔ ¬setup.Stops fails subject db.notifications notice) ∧
      ∀ key, db'.notifications.HasKey key ↔ db.notifications.HasKey key ∨
        (setup.Sends fails subject notice ∧ key = notice.dedupeKey) := by
  unfold createEscalationNotification
  by_cases hreaches : (setup.contact notice.user).reaches notice.channel
  swap
  · -- without an address the position is passed over
    rw [if_neg hreaches]
    refine ⟨_, db, rfl, iff_of_true rfl fun h => hreaches h.reaches, fun key => ?_⟩
    exact (or_iff_left fun h => hreaches h.1.reaches).symm
  rw [if_pos hreaches, Escalator.attempt]
  by_cases hlookup : fails (.notification notice.channel notice.user)
  · rw [if_pos hlookup]
    refine ⟨_, db, rfl, iff_of_false (by simp [Except.isOk, Except.toBool])
      (not_not.mpr ⟨hreaches, Or.inl hlookup⟩), fun key => (or_iff_left fun h => ?_).symm⟩
    exact absurd hlookup (by simp [h.1.lookup])
  rw [if_neg hlookup, Tx.bind_of_ok (Escalator.onNotifications_of_ok (Tx.read_apply _ _))]
  by_cases htold : db.Told notice
  · -- the notification exists: nothing is inserted or queued
    obtain ⟨row, hrow⟩ := Option.ne_none_iff_exists'.mp
      (NotificationsDb.findByKey_eq_none_iff.not.mpr (not_not.mpr htold))
    rw [hrow]
    refine ⟨_, db, rfl, iff_of_true rfl fun h => ?_, fun key => ⟨Or.inl, ?_⟩⟩
    · rcases h.fails with hfails | ⟨hnone, -⟩
      · exact hlookup hfails
      · exact hnone htold
    · rintro (hkey | ⟨-, rfl⟩)
      · exact hkey
      · exact htold
  rw [NotificationsDb.findByKey_eq_none_iff.mpr htold]
  dsimp only
  by_cases hfits : subject.length ≤ 255
  swap
  · refine ⟨_, db, Tx.bind_of_error (Tx.handle_of_error (insertNotice_of_long notice hfits)), ?_,
      fun key => ?_⟩
    · exact iff_of_false (by simp [Except.isOk, Except.toBool])
        (not_not.mpr ⟨hreaches, Or.inr ⟨htold, Or.inl hfits⟩⟩)
    · exact (or_iff_left fun h => hfits h.1.fits).symm
  · obtain ⟨row, notifications, hinserted, hkeys⟩ := exists_insertNotice hfits htold
    rw [Tx.bind_of_ok (Tx.handle_of_ok hinserted)]
    have hsends : setup.Sends fails subject notice := ⟨hreaches, by simpa using hlookup, hfits⟩
    have hadded : ∀ key, notifications.HasKey key ↔ db.notifications.HasKey key ∨
        (setup.Sends fails subject notice ∧ key = notice.dedupeKey) := by
      intro key
      rw [hkeys, and_iff_right hsends]
    dsimp only
    rw [Escalator.attempt]
    by_cases hqueue : fails (.queueDelivery notice.channel notice.user)
    · -- the row stays, though its delivery is not queued
      rw [if_pos hqueue]
      refine ⟨_, _, rfl, ?_, hadded⟩
      exact iff_of_false (by simp [Except.isOk, Except.toBool])
        (not_not.mpr ⟨hreaches, Or.inr ⟨htold, Or.inr hqueue⟩⟩)
    · rw [if_neg hqueue]
      refine ⟨_, _, rfl, iff_of_true rfl fun h => ?_, hadded⟩
      rcases h.fails with hfails | ⟨-, hlong | hfails⟩
      · exact hlookup hfails
      · exact hlong hfits
      · exact hqueue hfails

/-! ### The loop -/

variable (setup fails subject) in
/-- The loop tells a notice: nothing in front of its position stops the loop. -/
structure LoopTells (db : NotificationsDb) (notices : List EscalationNotice)
    (notice : EscalationNotice) : Prop where
  sends : setup.Sends fails subject notice
  reached : ∃ before after, notices = before ++ notice :: after ∧
    ∀ other ∈ before, ¬setup.Stops fails subject db other

theorem loopTells_cons_iff {db : NotificationsDb} {first notice : EscalationNotice}
    {notices : List EscalationNotice} :
    setup.LoopTells fails subject db (first :: notices) notice ↔
      (notice = first ∧ setup.Sends fails subject first) ∨
        (¬setup.Stops fails subject db first ∧
          setup.LoopTells fails subject db notices notice) := by
  constructor
  · rintro ⟨hsends, before, after, hsplit, hbefore⟩
    cases before with
    | nil =>
        obtain ⟨rfl, -⟩ := List.cons.inj hsplit
        exact Or.inl ⟨rfl, hsends⟩
    | cons other before =>
        rw [List.cons_append, List.cons.injEq] at hsplit
        obtain ⟨rfl, hsplit⟩ := hsplit
        obtain ⟨hfirst, hbefore⟩ := List.forall_mem_cons.mp hbefore
        exact Or.inr ⟨hfirst, hsends, before, after, hsplit, hbefore⟩
  · rintro (⟨rfl, hsends⟩ | ⟨hfirst, hsends, before, after, rfl, hbefore⟩)
    · exact ⟨hsends, [], notices, rfl, by simp⟩
    · exact ⟨hsends, first :: before, after, rfl, List.forall_mem_cons.mpr ⟨hfirst, hbefore⟩⟩

theorem LoopTells.mem {db : NotificationsDb} {notice : EscalationNotice}
    {notices : List EscalationNotice}
    (h : setup.LoopTells fails subject db notices notice) : notice ∈ notices := by
  obtain ⟨-, before, after, rfl, -⟩ := h
  simp

/-- A position that did not stop the loop has not made another one stop it. -/
theorem stops_iff_behind {db db' : NotificationsDb} {notice other : EscalationNotice}
    (hgoes : ¬setup.Stops fails subject db notice)
    (hkeys : ∀ key, db'.HasKey key ↔ db.HasKey key ∨
      (setup.Sends fails subject notice ∧ key = notice.dedupeKey))
    (hsame : notice.dedupeKey = other.dedupeKey → notice = other) :
    setup.Stops fails subject db' other ↔ setup.Stops fails subject db other := by
  constructor
  · rintro ⟨hreaches, hfails | ⟨hnone, hfails⟩⟩
    · exact ⟨hreaches, Or.inl hfails⟩
    · exact ⟨hreaches, Or.inr ⟨fun h => hnone ((hkeys other.dedupeKey).mpr (Or.inl h)), hfails⟩⟩
  · rintro ⟨hreaches, hfails | ⟨hnone, hfails⟩⟩
    · exact ⟨hreaches, Or.inl hfails⟩
    · refine ⟨hreaches, Or.inr ⟨fun h => ?_, hfails⟩⟩
      -- if its key is there now, it is the position itself, which would have stopped the loop
      obtain ⟨-, hkey⟩ := ((hkeys other.dedupeKey).mp h).resolve_left hnone
      obtain rfl := hsame hkey.symm
      exact hgoes ⟨hreaches, Or.inr ⟨hnone, hfails⟩⟩

/-- What the loop tells depends on what stops it. -/
theorem loopTells_congr {db db' : NotificationsDb} {notice : EscalationNotice}
    {notices : List EscalationNotice}
    (hstops : ∀ other ∈ notices,
      (setup.Stops fails subject db' other ↔ setup.Stops fails subject db other)) :
    setup.LoopTells fails subject db' notices notice ↔
      setup.LoopTells fails subject db notices notice := by
  constructor
  · rintro ⟨hsends, before, after, rfl, hbefore⟩
    refine ⟨hsends, before, after, rfl, fun other hother => ?_⟩
    exact (hstops other (List.mem_append_left _ hother)).not.mp (hbefore other hother)
  · rintro ⟨hsends, before, after, rfl, hbefore⟩
    refine ⟨hsends, before, after, rfl, fun other hother => ?_⟩
    exact (hstops other (List.mem_append_left _ hother)).not.mpr (hbefore other hother)

/-- **The loop** ends without an error exactly if none of its positions stops it. -/
theorem notifyEscalation_spec {notices : List EscalationNotice}
    (hinj : ∀ a ∈ notices, ∀ b ∈ notices, a.dedupeKey = b.dedupeKey → a = b) :
    ∃ r db', setup.notifyEscalation fails alert subject message now notices db = (r, db') ∧
      (r.isOk ↔ ∀ notice ∈ notices, ¬setup.Stops fails subject db.notifications notice) ∧
      ∀ key, db'.notifications.HasKey key ↔ db.notifications.HasKey key ∨
        ∃ notice, setup.LoopTells fails subject db.notifications notices notice ∧
          key = notice.dedupeKey := by
  induction notices generalizing db with
  | nil =>
      refine ⟨_, db, rfl, iff_of_true rfl (by simp), fun key => (or_iff_left ?_).symm⟩
      rintro ⟨notice, htells, -⟩
      cases htells.mem
  | cons first notices ih =>
      obtain ⟨r, db₁, hfirst, hok, hkeys⟩ :=
        @createEscalationNotification_spec setup fails subject alert message now db first
      cases r with
      | error e =>
          -- the loop ends here, and the positions behind are not reached
          have hstops : setup.Stops fails subject db.notifications first := by
            by_contra hgoes
            cases hok.mpr hgoes
          refine ⟨.error e, db₁, Tx.bind_of_error hfirst, ?_, fun key => ?_⟩
          · exact iff_of_false (by simp [Except.isOk, Except.toBool])
              fun hall => hall first List.mem_cons_self hstops
          · rw [hkeys]
            refine or_congr_right ⟨fun ⟨hsends, hkey⟩ => ⟨first, ?_, hkey⟩, ?_⟩
            · exact loopTells_cons_iff.mpr (Or.inl ⟨rfl, hsends⟩)
            · rintro ⟨notice, htells, rfl⟩
              rcases loopTells_cons_iff.mp htells with ⟨rfl, hsends⟩ | ⟨hgoes, -⟩
              · exact ⟨hsends, rfl⟩
              · exact absurd hstops hgoes
      | ok u =>
          have hgoes : ¬setup.Stops fails subject db.notifications first := hok.mp rfl
          -- what the first position has added is no key of the others, so they stop as before
          have hinjTail : ∀ a ∈ notices, ∀ b ∈ notices, a.dedupeKey = b.dedupeKey → a = b :=
            fun a ha b hb => hinj a (List.mem_cons_of_mem _ ha) b (List.mem_cons_of_mem _ hb)
          have hstops : ∀ notice ∈ notices, (setup.Stops fails subject db₁.notifications notice ↔
              setup.Stops fails subject db.notifications notice) := by
            intro notice hnotice
            exact stops_iff_behind hgoes hkeys
              (hinj first List.mem_cons_self notice (List.mem_cons_of_mem _ hnotice))
          have htells : ∀ notice, setup.LoopTells fails subject db₁.notifications notices notice ↔
              setup.LoopTells fails subject db.notifications notices notice :=
            fun notice => loopTells_congr hstops
          obtain ⟨r, db₂, hrest, hokRest, hkeysRest⟩ := @ih db₁ hinjTail
          refine ⟨r, db₂, (Tx.bind_of_ok hfirst).trans hrest, ?_, fun key => ?_⟩
          · rw [hokRest, List.forall_mem_cons, and_iff_right hgoes]
            exact forall₂_congr fun notice hnotice => (hstops notice hnotice).not
          · rw [hkeysRest, hkeys, or_assoc]
            refine or_congr_right ⟨?_, ?_⟩
            · rintro (⟨hsends, rfl⟩ | ⟨notice, hnotice, rfl⟩)
              · exact ⟨first, loopTells_cons_iff.mpr (Or.inl ⟨rfl, hsends⟩), rfl⟩
              · exact ⟨notice, loopTells_cons_iff.mpr (Or.inr ⟨hgoes, (htells notice).mp hnotice⟩),
                  rfl⟩
            · rintro ⟨notice, hnotice, rfl⟩
              rcases loopTells_cons_iff.mp hnotice with ⟨rfl, hsends⟩ | ⟨-, hlater⟩
              · exact Or.inl ⟨hsends, rfl⟩
              · exact Or.inr ⟨notice, (htells notice).mpr hlater, rfl⟩

/-! ### One escalation -/

/-- The recipients do not depend on the metadata. -/
theorem hasAlertScope_withMetadata {user : Account} {metadata : Dict} :
    setup.hasAlertScope user (alert.withMetadata metadata) = setup.hasAlertScope user alert := rfl

theorem appendUsers_withMetadata {recipients users : List Account} {metadata : Dict} :
    setup.appendUsers fails (alert.withMetadata metadata) recipients users =
      setup.appendUsers fails alert recipients users := by
  induction users generalizing recipients with
  | nil => rfl
  | cons user users ih => simp only [appendUsers, ih, hasAlertScope_withMetadata]

theorem targetUsers_withMetadata {metadata : Dict} :
    setup.targetUsers (alert.withMetadata metadata) policy = setup.targetUsers alert policy := rfl

theorem roleUsers_withMetadata {role : RoleId} {metadata : Dict} :
    setup.roleUsers (alert.withMetadata metadata) role = setup.roleUsers alert role := rfl

theorem getEscalationRecipients_withMetadata {metadata : Dict} :
    setup.getEscalationRecipients fails (alert.withMetadata metadata) policy =
      setup.getEscalationRecipients fails alert policy := by
  simp only [getEscalationRecipients, appendQuery, appendUsers_withMetadata,
    targetUsers_withMetadata, roleUsers_withMetadata]

variable (setup fails) in
/-- The escalation tells a notice before it ends. -/
def Tells (alert : AlertEvent) (policy : AlertEscalationPolicy) (db : NotificationsDb)
    (notice : EscalationNotice) : Prop :=
  fails .createLog = false ∧ ∃ recipients,
    setup.getEscalationRecipients fails alert policy = .ok recipients ∧
      setup.LoopTells fails (setup.escalationSubject alert) db
        (escalationNotices alert policy recipients) notice

theorem createNotificationsForAlertEscalated_spec :
    ∃ r db', setup.createNotificationsForAlertEscalated fails alert policy now db = (r, db') ∧
      (r.isOk → ∃ recipients,
        setup.getEscalationRecipients fails alert policy = .ok recipients ∧
          ∀ notice ∈ escalationNotices alert policy recipients,
            ¬setup.Stops fails (setup.escalationSubject alert) db.notifications notice) ∧
      ∀ key, db'.notifications.HasKey key ↔ db.notifications.HasKey key ∨
        ∃ notice, (∃ recipients, setup.getEscalationRecipients fails alert policy = .ok recipients ∧
            setup.LoopTells fails (setup.escalationSubject alert) db.notifications
              (escalationNotices alert policy recipients) notice) ∧
          key = notice.dedupeKey := by
  unfold createNotificationsForAlertEscalated
  cases hrecipients : setup.getEscalationRecipients fails alert policy with
  | error e => exact ⟨_, db, rfl, (fun h => by cases h), by simp⟩
  | ok recipients =>
      obtain ⟨r, db', hnotify, hok, hkeys⟩ := @notifyEscalation_spec setup fails
        (setup.escalationSubject alert) alert
        (escalationMessage setup.py.upper alert policy (setup.deviceName alert)) now db
        (escalationNotices alert policy recipients)
        (fun _ ha _ hb h => escalationNotice_eq ha hb h)
      exact ⟨r, db', hnotify, fun h => ⟨recipients, rfl, hok.mp h⟩, by simpa using hkeys⟩

theorem logged_putLog_iff {alerts : AlertsDb} {notifications : NotificationsDb}
    {upper : String → String} {deviceName : String} {other : AlertId} {otherPolicy : PolicyId} :
    EscalationDb.Logged
        ⟨alerts.putLog (escalationLog upper alert policy deviceName), notifications⟩ other
        otherPolicy ↔
      EscalationDb.Logged ⟨alerts, notifications⟩ other otherPolicy ∨
        (alert.id = other ∧ policy.id = otherPolicy) := by
  simp only [EscalationDb.Logged, AlertsDb.putLog, List.mem_append, List.mem_singleton, or_and_right,
    exists_or, exists_eq_left, escalates_escalationLog]

/-- **An escalation behind its record**: it has written the log row, if that was not
refused, and has told the notices that it has reached. -/
theorem escalateAlert_saved {metadata : Dict} (halert : alert ∈ db.alerts.alerts)
    (hmetadata : escalationMetadata setup.py alert.metadata policy.id now = .ok (some metadata))
    (hsave : fails .saveMetadata = false) :
    ∃ r db', setup.escalateAlert fails alert policy now db = (r, db') ∧
      alert.withMetadata metadata ∈ db'.alerts.alerts ∧
      (db'.Logged alert.id policy.id ↔
        fails .createLog = false ∨ db.Logged alert.id policy.id) ∧
      (∀ key, db'.notifications.HasKey key ↔ db.notifications.HasKey key ∨
        ∃ notice, setup.Tells fails alert policy db.notifications notice ∧ key = notice.dedupeKey) ∧
      (r.isOk → fails .createLog = false ∧ ∃ recipients,
        setup.getEscalationRecipients fails alert policy = .ok recipients ∧
          ∀ notice ∈ escalationNotices alert policy recipients,
            ¬setup.Stops fails (setup.escalationSubject alert) db.notifications notice) := by
  obtain ⟨saved, -, halerts, hlogs, heq⟩ :=
    @escalateAlert_of_new setup fails alert policy now db metadata halert hmetadata
  rw [heq, if_neg (by simp [hsave])]
  have hrow : alert.withMetadata metadata ∈ saved.alerts := by
    rw [halerts]
    exact Table.mem_save.mpr (Or.inl rfl)
  have hlogged : ∀ notifications, EscalationDb.Logged ⟨saved, notifications⟩ alert.id policy.id ↔
      db.Logged alert.id policy.id := by
    intro notifications
    rw [EscalationDb.Logged, hlogs]
    exact Iff.rfl
  by_cases hlog : fails .createLog
  · rw [if_pos hlog]
    refine ⟨_, _, rfl, hrow, ?_, fun key => ?_, fun h => by cases h⟩
    · rw [hlogged, hlog]
      simp
    · exact (or_iff_left fun ⟨_, ⟨hno, _⟩, _⟩ => by rw [hlog] at hno; cases hno).symm
  rw [if_neg hlog]
  have hlog : fails .createLog = false := by simpa using hlog
  -- the loop reads of the alert what the record has left alone, and of the state the keys
  obtain ⟨r, db', hnotify, hok, hkeys⟩ := @createNotificationsForAlertEscalated_spec setup fails
    (alert.withMetadata metadata) policy now
    { db with
      alerts := saved.putLog (escalationLog setup.py.upper alert policy (setup.deviceName alert)) }
  have halertsNew := sameAlerts_createNotificationsForAlertEscalated.of_eq hnotify
  have hrowNew : alert.withMetadata metadata ∈ db'.alerts.alerts := by
    rw [halertsNew]
    exact hrow
  have hloggedNew : db'.Logged alert.id policy.id := by
    rw [EscalationDb.Logged, halertsNew]
    exact logged_putLog_iff.mpr (Or.inr ⟨rfl, rfl⟩)
  have hkeysNew : ∀ key, db'.notifications.HasKey key ↔ db.notifications.HasKey key ∨
      ∃ notice, setup.Tells fails alert policy db.notifications notice ∧ key = notice.dedupeKey := by
    intro key
    refine (hkeys key).trans (or_congr_right (exists_congr fun notice => ?_))
    rw [getEscalationRecipients_withMetadata, Tells, and_iff_right hlog]
    exact Iff.rfl
  rw [hnotify]
  cases r with
  | error e =>
      exact ⟨_, db', rfl, hrowNew, iff_of_true hloggedNew (Or.inl hlog), hkeysNew,
        fun h => by cases h⟩
  | ok u =>
      exact ⟨_, db', rfl, hrowNew, iff_of_true hloggedNew (Or.inl hlog), hkeysNew,
        fun _ => ⟨hlog, getEscalationRecipients_withMetadata ▸ hok rfl⟩⟩

end EscalationSetup

/-! ### What later runs keep -/

namespace EscalationDb

/-- No log row and no notification is lost. -/
structure Grows (db db' : EscalationDb) : Prop where
  logs : ∀ log ∈ db.alerts.logs, log ∈ db'.alerts.logs
  keys : ∀ key, db.notifications.HasKey key → db'.notifications.HasKey key

instance : IsPreorder EscalationDb Grows where
  refl _ := ⟨fun _ hlog => hlog, fun _ hkey => hkey⟩
  trans _ _ _ h h' :=
    ⟨fun log hlog => h'.logs log (h.logs log hlog), fun key hkey => h'.keys key (h.keys key hkey)⟩

/-- The log row and the notifications of one escalation are the same. -/
structure SameEscalation (alert : AlertId) (policy : PolicyId) (db db' : EscalationDb) :
    Prop where
  logged : db'.Logged alert policy ↔ db.Logged alert policy
  told : ∀ notice : EscalationNotice, notice.alert = alert → notice.policy = policy →
    (db'.Told notice ↔ db.Told notice)

instance {alert : AlertId} {policy : PolicyId} :
    IsPreorder EscalationDb (SameEscalation alert policy) where
  refl _ := ⟨Iff.rfl, fun _ _ _ => Iff.rfl⟩
  trans _ _ _ h h' := ⟨h'.logged.trans h.logged, fun notice halert hpolicy =>
    (h'.told notice halert hpolicy).trans (h.told notice halert hpolicy)⟩

end EscalationDb

namespace EscalationSetup

open EscalationDb

variable {setup : EscalationSetup} {fails : EscalationPoint → Bool} {subject message : String}
  {alert copy : AlertEvent} {policy : AlertEscalationPolicy} {now : Instant}
  {db db' : EscalationDb} {run : EscalationRun} {deviceName : String} {notice : EscalationNotice}

theorem Escalator.onAlerts_state {α : Type} {x : Engine α} :
    (Escalator.onAlerts x db).2 = { db with alerts := (x db.alerts).2 } := by
  unfold Escalator.onAlerts
  rcases x db.alerts with ⟨e | a, alerts⟩ <;> rfl

/-- An escalation respects what its statements do. -/
theorem respects_escalateAlert {R : EscalationDb → EscalationDb → Prop} [IsPreorder EscalationDb R]
    (hsave : ∀ metadata, Tx.Respects R
      (Escalator.onAlerts (saveEscalation (alert.withMetadata metadata))))
    (hlog : ∀ copy : AlertEvent, copy.id = alert.id → ∀ deviceName, Tx.Respects R
      (Escalator.onAlerts (logEscalation setup.py.upper copy policy deviceName)))
    (hnotify : ∀ (copy : AlertEvent) (notice : EscalationNotice), notice.alert = alert.id →
      notice.policy = policy.id → ∀ subject message, Tx.Respects R
        (setup.createEscalationNotification fails copy notice subject message now)) :
    Tx.Respects R (setup.escalateAlert fails alert policy now) := by
  unfold escalateAlert
  split
  · exact Tx.respects_raise _
  · exact Tx.respects_pure _
  · rename_i metadata _
    refine Tx.respects_bind (Escalator.respects_attempt (hsave metadata)) fun _ => ?_
    refine Tx.respects_bind (Escalator.respects_attempt ?_) fun _ => ?_
    · exact hlog (alert.withMetadata metadata) rfl _
    refine Tx.respects_bind ?_ fun _ => Tx.respects_pure _
    exact respects_createNotificationsForAlertEscalated fun notice halert hpolicy subject message =>
      hnotify _ notice halert hpolicy subject message

theorem respects_escalateAll {R : EscalationDb → EscalationDb → Prop} [IsPreorder EscalationDb R]
    {alerts : List AlertEvent} (h : ∀ alert ∈ alerts, Tx.Respects R (setup.escalateFirst run alert)) :
    Tx.Respects R (setup.escalateAll run alerts) := by
  induction alerts with
  | nil => exact Tx.respects_pure _
  | cons alert alerts ih =>
      obtain ⟨hhead, htail⟩ := List.forall_mem_cons.mp h
      exact Tx.respects_bind hhead fun _ => Tx.respects_bind (ih htail) fun _ => Tx.respects_pure _

theorem check_eq : setup.check db run = (setup.escalateAll run
    (run.alertOrder.arrange (db.alerts.alerts.select fun alert => alert.status.isActive)) db).2 :=
  rfl

/-! #### Nothing is lost -/

theorem grows_createEscalationNotification : Tx.Respects Grows
    (setup.createEscalationNotification fails alert notice subject message now) := by
  intro db
  obtain ⟨r, db', hcreate, -, hkeys⟩ :=
    @createEscalationNotification_spec setup fails subject alert message now db notice
  have halerts := sameAlerts_createEscalationNotification.of_eq hcreate
  rw [hcreate]
  refine ⟨fun log hlog => ?_, fun key hkey => (hkeys key).mpr (Or.inl hkey)⟩
  rw [halerts]
  exact hlog

theorem grows_escalateAlert : Tx.Respects Grows (setup.escalateAlert fails alert policy now) := by
  refine respects_escalateAlert (fun metadata db => ?_) (fun copy _ deviceName db => ?_)
    fun _ _ _ _ _ _ => grows_createEscalationNotification
  · rw [Escalator.onAlerts_state]
    refine ⟨fun log hlog => ?_, fun key hkey => hkey⟩
    rw [saveEscalation, logs_saveAlert]
    exact hlog
  · rw [Escalator.onAlerts_state, logEscalation_apply]
    exact ⟨fun log hlog => List.mem_append_left _ hlog, fun key hkey => hkey⟩

theorem grows_escalateAll {alerts : List AlertEvent} :
    Tx.Respects Grows (setup.escalateAll run alerts) := by
  refine respects_escalateAll fun alert _ => ?_
  unfold escalateFirst
  split
  · exact Tx.respects_pure _
  · exact grows_escalateAlert

/-! #### Nothing is added to a recorded escalation -/

theorem sameEscalation_createEscalationNotification {id : AlertId} {policyId : PolicyId}
    (h : ¬(notice.alert = id ∧ notice.policy = policyId)) :
    Tx.Respects (SameEscalation id policyId)
      (setup.createEscalationNotification fails alert notice subject message now) := by
  intro db
  obtain ⟨r, db', hcreate, -, hkeys⟩ :=
    @createEscalationNotification_spec setup fails subject alert message now db notice
  have halerts := sameAlerts_createEscalationNotification.of_eq hcreate
  rw [hcreate]
  refine ⟨?_, fun other halert hpolicy => (hkeys _).trans (or_iff_left ?_)⟩
  · rw [Logged, halerts]
    exact Iff.rfl
  · rintro ⟨-, hkey⟩
    obtain ⟨hsameAlert, hsamePolicy, -⟩ := EscalationNotice.dedupeKey_inj.mp hkey
    exact h ⟨hsameAlert.symm.trans halert, hsamePolicy.symm.trans hpolicy⟩

/-- An escalation of another alert, or by another policy, leaves this one as it is. -/
theorem sameEscalation_escalateAlert {id : AlertId} {policyId : PolicyId}
    (h : ¬(alert.id = id ∧ policy.id = policyId)) :
    Tx.Respects (SameEscalation id policyId)
      (setup.escalateAlert fails alert policy now) := by
  refine respects_escalateAlert (fun metadata db => ?_) (fun copy hcopy deviceName db => ?_)
    fun copy notice halert hpolicy subject message => ?_
  · rw [Escalator.onAlerts_state]
    refine ⟨?_, fun _ _ _ => Iff.rfl⟩
    rw [Logged, saveEscalation, logs_saveAlert]
    exact Iff.rfl
  · rw [Escalator.onAlerts_state, logEscalation_apply]
    refine ⟨logged_putLog_iff.trans (or_iff_left ?_), fun _ _ _ => Iff.rfl⟩
    rwa [hcopy]
  · exact sameEscalation_createEscalationNotification (by rwa [halert, hpolicy])

theorem sameEscalation_escalateFirst {id : AlertId} {policyId : PolicyId}
    (h : alert.id = id → RecordsPolicy alert.metadata policyId) :
    Tx.Respects (SameEscalation id policyId) (setup.escalateFirst run alert) := by
  unfold escalateFirst
  split
  · exact Tx.respects_pure _
  · rename_i policy _
    by_cases hsame : alert.id = id ∧ policy.id = policyId
    · intro db
      rw [escalateAlert_of_recorded (hsame.2 ▸ h hsame.1)]
      exact refl_of (SameEscalation id policyId) db
    · exact sameEscalation_escalateAlert hsame

/-- **A run adds nothing to an escalation that is recorded.** -/
theorem sameEscalation_check {policyId : PolicyId} (halert : alert ∈ db.alerts.alerts)
    (h : RecordsPolicy alert.metadata policyId) :
    db.SameEscalation alert.id policyId (setup.check db run) := by
  rw [check_eq]
  refine respects_escalateAll (fun copy hcopy => sameEscalation_escalateFirst fun hid => ?_) db
  obtain rfl : copy = alert :=
    db.alerts.alerts.eq_of_pk_eq (mem_loaded_iff.mp hcopy).1 halert hid
  exact h

/-! ### Complete escalations -/

variable (setup) in
/-- Whom an escalation is to tell, and how, if nothing fails. -/
def requiredNotices (alert : AlertEvent) (policy : AlertEscalationPolicy) :
    List EscalationNotice :=
  match setup.getEscalationRecipients (fun _ => false) alert policy with
  | .ok recipients => (escalationNotices alert policy recipients).filter fun notice =>
      (setup.contact notice.user).reaches notice.channel
  | .error _ => []

variable (setup) in
/-- The log row of an escalation has been written, and everyone has been told. -/
structure Complete (alert : AlertEvent) (policy : AlertEscalationPolicy) (db : EscalationDb) :
    Prop where
  logged : db.Logged alert.id policy.id
  told : ∀ notice ∈ setup.requiredNotices alert policy, db.Told notice

variable (setup) in
/-- Nothing is refused in the run, and it returns. -/
structure Succeeds (run : EscalationRun) (db : EscalationDb) : Prop where
  accepted : ∀ point, run.fails point = false
  returns : setup.Returns run db

theorem mem_requiredNotices (h : notice ∈ setup.requiredNotices alert policy) :
    ∃ recipients, setup.getEscalationRecipients (fun _ => false) alert policy = .ok recipients ∧
      notice ∈ escalationNotices alert policy recipients ∧
      (setup.contact notice.user).reaches notice.channel := by
  unfold requiredNotices at h
  split at h
  · rename_i recipients hrecipients
    exact ⟨recipients, hrecipients, List.mem_filter.mp h⟩
  · cases h

theorem requiredNotices_withMetadata {metadata : Dict} :
    setup.requiredNotices (alert.withMetadata metadata) policy =
      setup.requiredNotices alert policy := by
  rw [requiredNotices, getEscalationRecipients_withMetadata]
  rfl

theorem complete_withMetadata_iff {metadata : Dict} :
    setup.Complete (alert.withMetadata metadata) policy db ↔ setup.Complete alert policy db := by
  constructor
  · rintro ⟨hlogged, htold⟩
    exact ⟨hlogged, requiredNotices_withMetadata ▸ htold⟩
  · rintro ⟨hlogged, htold⟩
    exact ⟨hlogged, requiredNotices_withMetadata.symm ▸ htold⟩

theorem Complete.grows (h : setup.Complete alert policy db) (hgrows : db.Grows db') :
    setup.Complete alert policy db' := by
  constructor
  · obtain ⟨log, hlog, hfor⟩ := h.logged
    exact ⟨log, hgrows.logs log hlog, hfor⟩
  · exact fun notice hnotice => hgrows.keys _ (h.told notice hnotice)

theorem complete_congr (h : db.SameEscalation alert.id policy.id db') :
    setup.Complete alert policy db' ↔ setup.Complete alert policy db := by
  have htold : ∀ notice ∈ setup.requiredNotices alert policy,
      (db'.Told notice ↔ db.Told notice) := by
    intro notice hnotice
    obtain ⟨_, -, hmem, -⟩ := mem_requiredNotices hnotice
    obtain ⟨⟨halert, hpolicy⟩, -⟩ := mem_escalationNotices.mp hmem
    exact h.told notice halert hpolicy
  constructor
  · rintro ⟨hlogged, hall⟩
    exact ⟨h.logged.mp hlogged, fun notice hnotice => (htold notice hnotice).mp (hall notice hnotice)⟩
  · rintro ⟨hlogged, hall⟩
    exact ⟨h.logged.mpr hlogged,
      fun notice hnotice => (htold notice hnotice).mpr (hall notice hnotice)⟩

/-- **An escalation in which nothing is refused, and that returns, is complete.** -/
theorem complete_of_ok {result : Option AlertEvent} (halert : alert ∈ db.alerts.alerts)
    (hnew : ¬RecordsPolicy alert.metadata policy.id) (hfails : ∀ point, fails point = false)
    (h : setup.escalateAlert fails alert policy now db = (.ok result, db')) :
    setup.Complete alert policy db' := by
  rcases hmetadata : escalationMetadata setup.py alert.metadata policy.id now with
    e | (_ | metadata)
  · rw [escalateAlert, hmetadata] at h
    cases (Prod.mk.inj h).1
  · exact absurd (escalationMetadata_none_iff.mp hmetadata) hnew
  obtain ⟨r, db₁, heq, -, hlogged, hkeys, hok⟩ := escalateAlert_saved halert hmetadata (hfails _)
  rw [h] at heq
  obtain ⟨rfl, rfl⟩ := Prod.mk.inj heq
  obtain ⟨hlog, recipients, hrecipients, hgoes⟩ := hok rfl
  refine ⟨hlogged.mpr (Or.inl hlog), fun notice hnotice => (hkeys _).mpr ?_⟩
  obtain ⟨others, hothers, hmem, hreaches⟩ := mem_requiredNotices hnotice
  obtain rfl : fails = fun _ => false := funext hfails
  obtain rfl : others = recipients := Except.ok.inj (hothers.symm.trans hrecipients)
  by_cases htold : db.notifications.HasKey notice.dedupeKey
  · exact Or.inl htold
  · right
    have hfits : (setup.escalationSubject alert).length ≤ 255 := by
      by_contra hlong
      exact hgoes notice hmem ⟨hreaches, Or.inr ⟨htold, Or.inl hlong⟩⟩
    obtain ⟨before, after, hsplit⟩ := List.append_of_mem hmem
    refine ⟨notice, ⟨rfl, others, hrecipients, ⟨hreaches, rfl, hfits⟩, before, after, hsplit, ?_⟩,
      rfl⟩
    exact fun other hother => hgoes other (hsplit ▸ List.mem_append_left _ hother)

/-- The loop completes what it records. -/
theorem escalateAll_complete {alerts escalated : List AlertEvent}
    (halerts : ∀ alert ∈ alerts, alert ∈ db.alerts.alerts) (hnodup : (alerts.map pk).Nodup)
    (hfails : ∀ point, run.fails point = false)
    (h : setup.escalateAll run alerts db = (.ok escalated, db')) (halert : alert ∈ alerts)
    (htriggered : setup.firstTriggered run alert = some policy)
    (hnew : ¬RecordsPolicy alert.metadata policy.id) : setup.Complete alert policy db' := by
  induction alerts generalizing db escalated with
  | nil => cases halert
  | cons first alerts ih =>
      obtain ⟨hfresh, hnodup⟩ := List.nodup_cons.mp hnodup
      obtain ⟨hhead, htail⟩ := List.forall_mem_cons.mp halerts
      obtain ⟨result, db₁, hturn, hrest⟩ := Tx.bind_eq_ok_iff.mp h
      obtain ⟨others, db₂, hloop, hreturn⟩ := Tx.bind_eq_ok_iff.mp hrest
      obtain rfl := (Prod.mk.inj hreturn).2
      rcases List.mem_cons.mp halert with rfl | hlater
      · rw [escalateFirst, htriggered] at hturn
        exact (complete_of_ok hhead hnew hfails hturn).grows (grows_escalateAll.of_eq hloop)
      · obtain ⟨metadata, -, hrows⟩ := escalateFirst_ok hhead hturn
        refine ih (fun other hother => ?_) hnodup hloop hlater
        refine (hrows other).mpr (Or.inr ⟨htail other hother, fun hid => ?_⟩)
        exact hfresh (List.mem_map.mpr ⟨other, hother, hid⟩)

/-- **A run that succeeds** leaves an escalation complete, if it is recorded afterwards and
was complete if it was recorded before. -/
theorem check_complete (h : setup.Succeeds run db) (halert : alert ∈ db.alerts.alerts)
    (hactive : alert.status.isActive) (hpolicy : policy ∈ setup.policies)
    (hcomplete : RecordsPolicy alert.metadata policy.id → setup.Complete alert policy db) :
    ∃ metadata, alert.withMetadata metadata ∈ (setup.check db run).alerts.alerts ∧
      (RecordsPolicy metadata policy.id → setup.Complete alert policy (setup.check db run)) := by
  obtain ⟨metadata, hrecords, hstored⟩ := check_records h.returns halert hactive
  refine ⟨metadata, hstored, fun hrecorded => ?_⟩
  by_cases hold : RecordsPolicy alert.metadata policy.id
  · exact (hcomplete hold).grows (by rw [check_eq]; exact grows_escalateAll db)
  unfold RunRecords at hrecords
  cases htriggered : setup.firstTriggered run alert with
  | none =>
      rw [htriggered] at hrecords
      exact absurd (hrecords ▸ hrecorded) hold
  | some first =>
      rw [htriggered] at hrecords
      have hid : policy.id = first.id := (hrecords.recordsPolicy_iff.mp hrecorded).resolve_left hold
      have hmem := (run.policyOrder.perm _).mem_iff.mp (List.mem_of_find?_eq_some htriggered)
      obtain rfl := setup.policies.eq_of_pk_eq hpolicy (Table.mem_select.mp hmem).1 hid
      have hreturns := h.returns
      unfold Returns at hreturns
      unfold check
      rcases hrun : setup.runAlertEscalationCheck run db with ⟨e | escalated, db'⟩
      · rw [hrun] at hreturns
        cases hreturns
      · obtain ⟨alerts, db₁, hread, hloop⟩ := Tx.bind_eq_ok_iff.mp hrun
        obtain ⟨⟨rfl⟩, rfl⟩ := Prod.mk.inj hread
        exact escalateAll_complete (fun alert h => (mem_loaded_iff.mp h).1) nodup_loaded h.accepted
          hloop (mem_loaded_iff.mpr ⟨halert, hactive⟩) htriggered hold

/-! ### A failure and the runs behind it -/

variable (setup fails) in
/-- What fails leaves nothing undone behind the record: the record cannot be written or is
refused, or the log row is written and everyone is told, if they have not been before. -/
def LeavesNothing (alert : AlertEvent) (policy : AlertEscalationPolicy) (db : EscalationDb) :
    Prop :=
  (∀ items, escalatedPolicyIds alert.metadata ≠ .array items) ∨ fails .saveMetadata ∨
    ((fails .createLog = false ∨ db.Logged alert.id policy.id) ∧
      ∀ notice ∈ setup.requiredNotices alert policy,
        db.Told notice ∨ setup.Tells fails alert policy db.notifications notice)

variable {runs : List EscalationRun}

/-- An escalation that has not written its record leaves it to a later run. -/
theorem complete_run_of_unrecorded (halert : alert ∈ db.alerts.alerts)
    (hactive : alert.status.isActive) (hpolicy : policy ∈ setup.policies)
    (hnew : ¬RecordsPolicy alert.metadata policy.id)
    (hruns : Along setup.check (fun db run _ => setup.Succeeds run db) db runs)
    (hrecorded : (Library.run setup.check db runs).Recorded alert.id policy.id) :
    setup.Complete alert policy (Library.run setup.check db runs) := by
  have hstep : ∀ db run, (∃ metadata, alert.withMetadata metadata ∈ db.alerts.alerts ∧
        (RecordsPolicy metadata policy.id → setup.Complete alert policy db)) →
      setup.Succeeds run db →
      ∃ metadata, alert.withMetadata metadata ∈ (setup.check db run).alerts.alerts ∧
        (RecordsPolicy metadata policy.id → setup.Complete alert policy (setup.check db run)) := by
    rintro db run ⟨metadata, hstored, hcomplete⟩ hsucceeds
    obtain ⟨metadata', hstored', hcomplete'⟩ := check_complete hsucceeds hstored hactive hpolicy
      fun h => complete_withMetadata_iff.mpr (hcomplete h)
    exact ⟨metadata', hstored', fun h => complete_withMetadata_iff.mp (hcomplete' h)⟩
  obtain ⟨metadata, hstored, hcomplete⟩ :=
    run_invariant_of_along hstep ⟨alert.metadata, halert, fun h => absurd h hnew⟩ hruns
  exact hcomplete ((EscalationDb.recorded_iff hstored).mp hrecorded)

/-- Later runs add nothing to an escalation that has written its record. -/
theorem complete_run_of_recorded {metadata : Dict}
    (hstored : alert.withMetadata metadata ∈ db.alerts.alerts) (hactive : alert.status.isActive)
    (hrecords : RecordsPolicy metadata policy.id)
    (hruns : Along setup.check (fun db run _ => setup.Succeeds run db) db runs) :
    (Library.run setup.check db runs).Recorded alert.id policy.id ∧
      (setup.Complete alert policy (Library.run setup.check db runs) ↔
        setup.Complete alert policy db) := by
  have hstep : ∀ db' run, (∃ metadata, alert.withMetadata metadata ∈ db'.alerts.alerts ∧
        RecordsPolicy metadata policy.id ∧ db.SameEscalation alert.id policy.id db') →
      setup.Succeeds run db' →
      ∃ metadata, alert.withMetadata metadata ∈ (setup.check db' run).alerts.alerts ∧
        RecordsPolicy metadata policy.id ∧
        db.SameEscalation alert.id policy.id (setup.check db' run) := by
    rintro db' run ⟨metadata, hstored, hrecords, hsame⟩ hsucceeds
    obtain ⟨metadata', hrun, hstored'⟩ := check_records hsucceeds.returns hstored hactive
    have hkept : db'.SameEscalation alert.id policy.id (setup.check db' run) :=
      @sameEscalation_check setup (alert.withMetadata metadata) db' run _ hstored hrecords
    refine ⟨metadata', hstored', ?_, trans_of (SameEscalation alert.id policy.id) hsame hkept⟩
    unfold RunRecords at hrun
    split at hrun
    · rw [hrun]
      exact hrecords
    · exact hrun.recordsPolicy_iff.mpr (Or.inl hrecords)
  obtain ⟨metadata, hstored, hrecords, hsame⟩ := run_invariant_of_along hstep
    ⟨metadata, hstored, hrecords, refl_of (SameEscalation alert.id policy.id) db⟩ hruns
  exact ⟨(EscalationDb.recorded_iff hstored).mpr hrecords, complete_congr hsame⟩

/-- **An escalation is complete or retried** exactly if what fails leaves nothing undone
behind the record. -/
theorem completeIfRecorded_run_iff (halert : alert ∈ db.alerts.alerts)
    (hactive : alert.status.isActive) (hpolicy : policy ∈ setup.policies)
    (hnew : ¬RecordsPolicy alert.metadata policy.id)
    (hruns : Along setup.check (fun db run _ => setup.Succeeds run db)
      (setup.escalateAlert fails alert policy now db).2 runs) :
    ((Library.run setup.check (setup.escalateAlert fails alert policy now db).2 runs).Recorded
          alert.id policy.id →
        setup.Complete alert policy
          (Library.run setup.check (setup.escalateAlert fails alert policy now db).2 runs)) ↔
      setup.LeavesNothing fails alert policy db := by
  rcases hmetadata : escalationMetadata setup.py alert.metadata policy.id now with
    e | (_ | metadata)
  · -- the records are not a list
    have hstate : (setup.escalateAlert fails alert policy now db).2 = db := by
      rw [escalateAlert, hmetadata]
      rfl
    rw [hstate] at hruns ⊢
    refine iff_of_true (complete_run_of_unrecorded halert hactive hpolicy hnew hruns) (Or.inl ?_)
    intro items hitems
    obtain ⟨metadata, hsome⟩ :=
      (@exists_escalationMetadata_iff setup.py _ _ now hnew).mpr ⟨items, hitems⟩
    rw [hmetadata] at hsome
    cases hsome
  · exact absurd (escalationMetadata_none_iff.mp hmetadata) hnew
  have hlist := (@exists_escalationMetadata_iff setup.py _ _ now hnew).mp ⟨metadata, hmetadata⟩
  have hnotList : ¬∀ items, escalatedPolicyIds alert.metadata ≠ .array items :=
    fun h => hlist.elim h
  by_cases hsave : fails .saveMetadata
  · have hstate : (setup.escalateAlert fails alert policy now db).2 = db := by
      obtain ⟨saved, -, -, -, heq⟩ :=
        @escalateAlert_of_new setup fails alert policy now db metadata halert hmetadata
      rw [heq, if_pos hsave]
    rw [hstate] at hruns ⊢
    exact iff_of_true (complete_run_of_unrecorded halert hactive hpolicy hnew hruns)
      (Or.inr (Or.inl hsave))
  · obtain ⟨r, db₁, heq, hstored, hlogged, hkeys, -⟩ :=
      @escalateAlert_saved setup fails alert policy now db metadata halert hmetadata
        (by simpa using hsave)
    rw [heq] at hruns ⊢
    have hrecords : RecordsPolicy metadata policy.id :=
      ((recordsPolicy_escalationMetadata hmetadata).2 policy.id).mpr (Or.inr rfl)
    obtain ⟨hrecorded, hcomplete⟩ := complete_run_of_recorded hstored hactive hrecords hruns
    have htold : ∀ notice ∈ setup.requiredNotices alert policy, (db₁.Told notice ↔
        db.Told notice ∨ setup.Tells fails alert policy db.notifications notice) := by
      intro notice hnotice
      obtain ⟨_, -, hmem, -⟩ := mem_requiredNotices hnotice
      refine (hkeys _).trans (or_congr_right ⟨?_, fun h => ⟨notice, h, rfl⟩⟩)
      rintro ⟨other, htells, hkey⟩
      obtain ⟨-, recipients, -, hloop⟩ := id htells
      rwa [escalationNotice_eq hmem hloop.mem hkey]
    rw [imp_iff_right hrecorded, hcomplete, LeavesNothing, or_iff_right hnotList,
      or_iff_right hsave]
    constructor
    · rintro ⟨hlog, hall⟩
      exact ⟨hlogged.mp hlog, fun notice hnotice => (htold notice hnotice).mp (hall notice hnotice)⟩
    · rintro ⟨hlog, hall⟩
      exact ⟨hlogged.mpr hlog, fun notice hnotice => (htold notice hnotice).mpr (hall notice hnotice)⟩

/-- A setup whose only user, a superuser, is told by the policies. -/
def oneOperator : EscalationSetup :=
  { nobody [afterQuarter] with
    accounts := .ofRows [{ id := 1, username := "operator", isSuperuser := true }] }

theorem firstBankAlert_unrecorded : ¬RecordsPolicy firstBankAlert.metadata afterQuarter.id := by
  decide

/-- The database refuses the record: the next run takes the escalation up. -/
theorem refusedRecord_retried :
    let fails := fun point => decide (point = EscalationPoint.saveMetadata)
    let after := Library.run oneOperator.check
      (oneOperator.escalateAlert fails firstBankAlert afterQuarter 0 firstBankDb).2 [afterHour]
    after.Recorded 1 1 → oneOperator.Complete firstBankAlert afterQuarter after :=
  (@completeIfRecorded_run_iff oneOperator (fun point => decide (point = .saveMetadata))
    firstBankAlert afterQuarter 0 firstBankDb [afterHour] firstBankAlert_mem rfl (by decide)
    firstBankAlert_unrecorded ⟨⟨fun _ => rfl, by decide⟩, trivial⟩).mpr (Or.inr (Or.inl rfl))

/-- The database refuses the log row: the escalation fails, the next run returns, and there
is neither a log row nor a notification. -/
theorem refusedLog_lost :
    let fails := fun point => decide (point = EscalationPoint.createLog)
    let failed := oneOperator.escalateAlert fails firstBankAlert afterQuarter 0 firstBankDb
    let after := Library.run oneOperator.check failed.2 [afterHour]
    (firstBankAlert ∈ firstBankDb.alerts.alerts ∧ firstBankAlert.status.isActive ∧
        failed.1.isOk = false) ∧
      Along oneOperator.check (fun db run _ => oneOperator.Succeeds run db) failed.2 [afterHour] ∧
      oneOperator.Triggered afterHour firstBankAlert afterQuarter ∧
      ¬(after.Recorded 1 1 → oneOperator.Complete firstBankAlert afterQuarter after) := by
  refine ⟨⟨firstBankAlert_mem, rfl, by decide⟩, ⟨⟨fun _ => rfl, by decide⟩, trivial⟩,
    ⟨by decide, by decide, by decide⟩, fun h => ?_⟩
  exact absurd (h (by decide)).logged (by decide)

end EscalationSetup

end DcimBackend
