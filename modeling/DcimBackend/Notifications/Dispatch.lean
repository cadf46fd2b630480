import DcimBackend.Alerts.EscalationFailures
import DcimBackend.Notifications.Fanout

/-!
# Queueing deliveries

`queue_notification_delivery` registers a hook with the transaction of the caller, which runs
when that transaction commits and then starts a task.  The functions that create
notifications call it for each that they have created, and go on until they are done or
something raises.

What such a function has done to its transaction is a list of `CreationStatement`s, and its
hooks are those of the statements: `dispatch_statements` says so of the loops over recipients
and channels, `escalation_statements` of an escalation.  So a commit is a commit of
statements, wherever the function ended.
-/

namespace DcimBackend

open Library

/-! ### The statements -/

/-- A statement of the creation that writes.  What it inserts is pending. -/
inductive CreationStatement
  | insert (row : NotificationRow) (pending : row.status = .pending)
  | claimLegacy (id : ℕ) (key : String) (now : Instant)

namespace CreationStatement

/-- The statement, and the hooks behind it. -/
def execute : CreationStatement → Tx NotificationError NotificationsDb (List ℕ)
  | .insert row _ => do
      let row ← insertNotification row
      return [row.id]
  | .claimLegacy id key now => do
      saveDedupeKey id key now
      return []

/-- Statements, one after another. -/
def executeAll : List CreationStatement → Tx NotificationError NotificationsDb (List ℕ)
  | [] => return []
  | statement :: statements => do
      let hooks ← statement.execute
      let others ← executeAll statements
      return hooks ++ others

variable {db db₁ db₂ : NotificationsDb} {as bs : List CreationStatement} {hooks others : List ℕ}

theorem executeAll_append (has : executeAll as db = (.ok hooks, db₁))
    (hbs : executeAll bs db₁ = (.ok others, db₂)) :
    executeAll (as ++ bs) db = (.ok (hooks ++ others), db₂) := by
  induction as generalizing db hooks with
  | nil =>
      obtain ⟨⟨rfl⟩, rfl⟩ := Prod.mk.inj has
      exact hbs
  | cons statement as ih =>
      obtain ⟨first, db', hfirst, has⟩ := Tx.bind_eq_ok_iff.mp has
      obtain ⟨rest, db'', hrest, has⟩ := Tx.bind_eq_ok_iff.mp has
      obtain ⟨⟨rfl⟩, rfl⟩ := Prod.mk.inj has
      rw [List.append_assoc]
      exact (Tx.bind_of_ok hfirst).trans (Tx.bind_of_ok (ih hrest))

theorem executeAll_singleton {statement : CreationStatement}
    (h : statement.execute db = (.ok hooks, db₁)) :
    executeAll [statement] db = (.ok hooks, db₁) := by
  refine (Tx.bind_of_ok h).trans ((Tx.bind_of_ok rfl).trans ?_)
  rw [List.append_nil]
  rfl

end CreationStatement

/-! ### Hooks -/

/-- A connection, with the hooks of its transaction. -/
structure Session where
  connection : Connection NotificationsDb
  onCommit : List ℕ := []

/-- A computation with hooks. -/
abbrev Dispatcher := Tx NotificationError Session

/-- A computation without. -/
def Dispatcher.onConnection {α : Type} (x : Notifier α) : Dispatcher α := fun s =>
  ((x s.connection).1, { s with connection := (x s.connection).2 })

/-- `queue_notification_delivery`. -/
def queueNotificationDelivery (row : NotificationRow) : Dispatcher Unit :=
  if row.status = .sent ∨ row.status = .delivering then return
  else Tx.modify fun s => { s with onCommit := s.onCommit ++ [row.id] }

/-- `_queue_delivery`. -/
def queueDelivery (row : Option NotificationRow) : Dispatcher Unit :=
  match row with
  | some row => queueNotificationDelivery row
  | none => return

/-- The loop of `notify`, with the queueing. -/
def Fanout.dispatch (f : Fanout) (action : NotificationAction) (clock : Notice → Instant) :
    List Notice → Dispatcher (List NotificationRow)
  | [] => return []
  | notice :: notices => do
      let created ← Dispatcher.onConnection
        (createNotification (f.contact notice.user) f.alert notice (f.subject action) f.message
          (clock notice) id)
      queueDelivery created
      let others ← f.dispatch action clock notices
      return created.toList ++ others

/-! ### What the functions have done -/

open CreationStatement

section Position

variable {contact : Contact} {alert : AlertEvent} {notice : Notice} {subject message : String}
  {now : Instant} {s : Connection NotificationsDb}

/-- The hooks behind a position. -/
def hooksOf : Except NotificationError (Option NotificationRow) → List ℕ
  | .ok created => created.toList.map fun row => row.id
  | .error _ => []

/-- A position is a statement at most, and what it creates is pending. -/
theorem createNotification_statements (hs : s.broken = false) :
    ∃ r db statements, createNotification contact alert notice subject message now id s =
        (r, { s with now := db }) ∧
      executeAll statements s.now = (.ok (hooksOf r), db) ∧
      ∀ row, r = .ok (some row) → row.status = .pending := by
  by_cases hhas : s.now.Has notice
  · obtain ⟨db, hcreate, -, rfl | ⟨id, hkeyed⟩⟩ := createNotification_of_has hs hhas
    · exact ⟨_, _, [], hcreate, rfl, fun row hrow => by cases hrow⟩
    · exact ⟨_, _, [.claimLegacy id notice.dedupeKey now], hcreate,
        executeAll_singleton (Tx.bind_of_ok hkeyed), fun row hrow => by cases hrow⟩
  cases hcontact : contact.reaches notice.channel with
  | false =>
      exact ⟨_, s.now, [], createNotification_of_unreachable hcontact, rfl,
        fun row hrow => by cases hrow⟩
  | true =>
      have hafter : s.after id = s := by
        simp only [Connection.after, id_eq, List.map_id_fun]
      rw [createNotification_of_not_has hcontact hs hhas, hafter]
      simp only [id_eq]
      rcases hsave : saveNotification ((notificationRow alert notice subject message now).withId
        s.now.rows.nextPk) s.now with ⟨e | u, db⟩
      · exact ⟨_, s.now, [], rfl, rfl, fun row hrow => by cases hrow⟩
      · have hinsert : insertNotification (notificationRow alert notice subject message now)
            s.now = (.ok ((notificationRow alert notice subject message now).withId
              s.now.rows.nextPk), db) := Tx.bind_of_ok hsave
        refine ⟨_, db, [.insert (notificationRow alert notice subject message now) rfl], rfl,
          executeAll_singleton (Tx.bind_of_ok hinsert), fun row hrow => ?_⟩
        obtain rfl := Option.some.inj (Except.ok.inj hrow)
        rfl

theorem Dispatcher.onConnection_of_eq {α : Type} {x : Notifier α} {s : Session}
    {r : Except NotificationError α} {connection : Connection NotificationsDb}
    (h : x s.connection = (r, connection)) :
    Dispatcher.onConnection x s = (r, { s with connection := connection }) := by
  rw [Dispatcher.onConnection, h]

/-- What has been created is queued. -/
theorem queueDelivery_apply {created : Option NotificationRow} {s : Session}
    (hpending : ∀ row, created = some row → row.status = .pending) :
    queueDelivery created s =
      (.ok ⟨⟩, { s with onCommit := s.onCommit ++ hooksOf (.ok created) }) := by
  cases created with
  | none =>
      rw [hooksOf, Option.toList_none, List.map_nil, List.append_nil]
      rfl
  | some row =>
      have hrow : ¬(row.status = .sent ∨ row.status = .delivering) := by
        rw [hpending row rfl]
        decide
      rw [queueDelivery, queueNotificationDelivery, if_neg hrow]
      rfl

end Position

/-- **A loop over recipients and channels**, wherever it ended: it has executed statements,
and its hooks are theirs. -/
theorem Fanout.dispatch_statements {f : Fanout} {action : NotificationAction}
    {clock : Notice → Instant} {notices : List Notice} {s : Session}
    (hs : s.connection.broken = false) :
    ∃ r db statements hooks, f.dispatch action clock notices s =
        (r, ⟨{ s.connection with now := db }, s.onCommit ++ hooks⟩) ∧
      executeAll statements s.connection.now = (.ok hooks, db) := by
  induction notices generalizing s with
  | nil =>
      refine ⟨.ok [], s.connection.now, [], [], ?_, rfl⟩
      rw [List.append_nil]
      rfl
  | cons notice notices ih =>
      obtain ⟨r, mid, first, hcreate, hfirst, hpending⟩ := @createNotification_statements
        (f.contact notice.user) f.alert notice (f.subject action) f.message (clock notice)
        s.connection hs
      have hcreate := Dispatcher.onConnection_of_eq hcreate
      cases r with
      | error e =>
          -- the exception ends the loop, and leaves the hooks before it
          refine ⟨.error e, mid, first, [], ?_, hfirst⟩
          rw [dispatch, Tx.bind_of_error hcreate, List.append_nil]
      | ok created =>
          have hqueue := @queueDelivery_apply created
            { s with connection := { s.connection with now := mid } }
            fun row hrow => hpending row (congrArg Except.ok hrow)
          obtain ⟨r, db, others, hooks, hdispatch, hothers⟩ := @ih
            { connection := { s.connection with now := mid }
              onCommit := s.onCommit ++ hooksOf (.ok created) } hs
          refine ⟨r.map (created.toList ++ ·), db, first ++ others, hooksOf (.ok created) ++ hooks,
            ?_, executeAll_append hfirst hothers⟩
          rw [dispatch, Tx.bind_of_ok hcreate, Tx.bind_of_ok hqueue, ← List.append_assoc]
          cases r with
          | error e => exact Tx.bind_of_error hdispatch
          | ok rows => exact Tx.bind_of_ok hdispatch

/-! ### Escalations -/

/-- Statements lead from one table to the other. -/
def EscalationDb.ByStatements (db db' : EscalationDb) : Prop :=
  ∃ statements hooks, executeAll statements db.notifications = (.ok hooks, db'.notifications)

open EscalationDb

instance : IsPreorder EscalationDb ByStatements where
  refl _ := ⟨[], [], rfl⟩
  trans _ _ _ := by
    rintro ⟨as, hooks, has⟩ ⟨bs, others, hbs⟩
    exact ⟨as ++ bs, hooks ++ others, executeAll_append has hbs⟩

section Escalation

variable {setup : EscalationSetup} {fails : EscalationPoint → Bool} {alert : AlertEvent}
  {policy : AlertEscalationPolicy} {notice : EscalationNotice} {subject message : String}
  {now : Instant}

theorem byStatements_insert {row : NotificationRow} (hpending : row.status = .pending) :
    Tx.Respects ByStatements (Escalator.onNotifications (insertNotification row)) := by
  intro db
  rcases hsave : saveNotification (row.withId db.notifications.rows.nextPk) db.notifications
    with ⟨e | u, notifications⟩
  · have hinsert : insertNotification row db.notifications = (.error e, notifications) :=
      Tx.bind_of_error hsave
    obtain rfl := saveNotification_error hsave
    rw [EscalationSetup.Escalator.onNotifications_of_error hinsert]
    exact ⟨[], [], rfl⟩
  · have hinsert : insertNotification row db.notifications =
        (.ok (row.withId db.notifications.rows.nextPk), notifications) := Tx.bind_of_ok hsave
    rw [EscalationSetup.Escalator.onNotifications_of_ok hinsert]
    exact ⟨[.insert row hpending], _, executeAll_singleton (Tx.bind_of_ok hinsert)⟩

theorem byStatements_createEscalationNotification :
    Tx.Respects ByStatements
      (setup.createEscalationNotification fails alert notice subject message now) :=
  EscalationSetup.respects_createEscalationNotification (fun _ => ⟨[], [], rfl⟩)
    (byStatements_insert rfl)

/-- **An escalation**, wherever it ended. -/
theorem escalation_statements :
    Tx.Respects ByStatements (setup.escalateAlert fails alert policy now) := by
  refine EscalationSetup.respects_escalateAlert (fun metadata db => ?_)
    (fun copy _ deviceName db => ?_) fun copy notice _ _ subject message => ?_
  · rw [EscalationSetup.Escalator.onAlerts_state]
    exact ⟨[], [], rfl⟩
  · rw [EscalationSetup.Escalator.onAlerts_state]
    exact ⟨[], [], rfl⟩
  · exact byStatements_createEscalationNotification

end Escalation

end DcimBackend
