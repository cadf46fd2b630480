import DcimBackend.Alerts.Lifecycle

/-!
# Requests on alerts, between the turns of the engine

The requests of `AlertEventViewSet` that write: `acknowledge`, `resolve`, `PUT` and
`PATCH`.  Each of them loads the row without a lock, and saves what it holds in memory
in a later step; between the two, other requests and turns of `evaluateLatest` may
write the same row.  A turn locks the row that it reads, so it is one step here.

`AlertEventDetailSerializer` has no field that a client can write, so `PUT` and `PATCH`
save the loaded row as it is, with every column.

`closed_stays_iff` is the exact line between the runs in which a closed alert stays
closed and those in which it is revived.

A request in progress holds a copy that was loaded from the table, so it can be stored, and its
rule exists; these are fields of the state, and a run cannot leave them.  `resolve` saves whatever
it has loaded as resolved, so of the requests only those that may save an active copy are
dangerous.
-/

namespace DcimBackend

open Library

namespace AlertsDb

/-! ### Closed alerts -/

/-- The alert is stored, and it is not active. -/
def Closed (id : AlertId) (db : AlertsDb) : Prop :=
  ∃ alert ∈ db.alerts, alert.id = id ∧ alert.status.isActive = false

instance (id : AlertId) (db : AlertsDb) : Decidable (db.Closed id) :=
  inferInstanceAs (Decidable (∃ alert ∈ db.alerts, _))

/-- A closed alert stays closed. -/
def KeepsClosed (id : AlertId) (db db' : AlertsDb) : Prop := db.Closed id → db'.Closed id

instance (id : AlertId) : IsPreorder AlertsDb (KeepsClosed id) where
  refl _ := fun h => h
  trans _ _ _ h h' := h' ∘ h

variable {db db' : AlertsDb} {id : AlertId}

/-- Saving a row decides about its own alert, and about no other. -/
theorem closed_save_iff {row : AlertEvent} (h : db'.alerts = db.alerts.save row) :
    db'.Closed id ↔ if id = row.id then row.status.isActive = false else db.Closed id := by
  simp only [Closed, h, Table.mem_save, pk_alertEvent]
  split
  · rename_i hid
    subst hid
    constructor
    · rintro ⟨alert, rfl | ⟨-, hne⟩, hid, hclosed⟩
      · exact hclosed
      · exact absurd hid hne
    · intro hclosed
      exact ⟨row, Or.inl rfl, rfl, hclosed⟩
  · rename_i hne
    constructor
    · rintro ⟨alert, rfl | ⟨halert, -⟩, hid, hclosed⟩
      · exact absurd hid.symm hne
      · exact ⟨alert, halert, hid, hclosed⟩
    · rintro ⟨alert, halert, rfl, hclosed⟩
      exact ⟨alert, Or.inr ⟨halert, hne⟩, rfl, hclosed⟩

theorem Frozen.keepsClosed (h : db.Frozen db') : KeepsClosed id db db' := by
  rintro ⟨alert, halert, hid, hclosed⟩
  exact ⟨alert, h alert halert hclosed, hid, hclosed⟩

end AlertsDb

/-! ### What the saves do to closed alerts -/

namespace AlertsDb

theorem SameAlerts.closed_iff {db db' : AlertsDb} {id : AlertId} (h : db.SameAlerts db') :
    db'.Closed id ↔ db.Closed id := by
  unfold Closed
  rw [h]

end AlertsDb

section Effects

open AlertsDb

variable {id : AlertId} {alert : AlertEvent} {user : Option UserId} {comment : Option String}
  {now : Instant} {db : AlertsDb} {py : PyText} {latest : LatestTelemetry}

/-- A save that writes an inactive status, or no status, keeps closed alerts closed. -/
theorem keepsClosed_saveAlert {copy : AlertEvent} {columns : List AlertColumn}
    (hstatus : .status ∈ columns → copy.status.isActive = false) :
    Tx.Respects (KeepsClosed id) (saveAlert copy columns) := by
  intro db hclosed
  rcases hsave : saveAlert copy columns db with ⟨e | u, db'⟩
  · obtain rfl := saveAlert_error hsave
    exact hclosed
  · obtain ⟨stored, hfind, halerts⟩ := saveAlert_ok hsave
    rw [closed_save_iff halerts, AlertEvent.write_id, AlertEvent.write_status]
    split
    · rename_i hid
      split
      · rename_i hcolumn
        exact hstatus hcolumn
      · obtain ⟨alert, halert, hid', hinactive⟩ := hclosed
        obtain rfl : alert = stored := db.alerts.eq_of_pk_eq halert
          (Table.find_eq_some_iff.mp hfind).1 (hid'.trans hid)
        exact hinactive
    · exact hclosed

/-- A save that writes an active status leaves the other closed alerts closed, and not
its own. -/
theorem closed_saveAlert_iff {copy : AlertEvent} {columns : List AlertColumn}
    (hstatus : .status ∈ columns) (hmetadata : .metadata ∉ columns)
    (hcount : .occurrenceCount ∉ columns) (hactive : copy.status.isActive) :
    (saveAlert copy columns db).2.Closed id ↔ db.Closed id ∧ id ≠ copy.id := by
  cases hfind : db.alerts.find copy.id with
  | none =>
      have hsame : (saveAlert copy columns db).2 = db := by simp only [saveAlert, hfind]
      rw [hsame, iff_self_and]
      rintro ⟨stored, hstored, rfl, -⟩ hid
      exact Table.find_eq_none_iff.mp hfind stored hstored hid
  | some stored =>
      obtain ⟨db', hsave, -, halerts⟩ := saveAlert_of_find hfind hmetadata hcount
      have hid : stored.id = copy.id := (Table.find_eq_some_iff.mp hfind).2
      rw [hsave, closed_save_iff halerts, AlertEvent.write_id, hid, AlertEvent.write_status,
        if_pos hstatus, hactive]
      split
      · rename_i heq
        simp [heq]
      · rename_i hne
        simp [hne]

theorem keepsClosed_of_sameAlerts {α : Type} {x : Engine α} (h : Tx.Respects SameAlerts x) :
    Tx.Respects (KeepsClosed id) x :=
  fun db => (h db).closed_iff.mpr

theorem keepsClosed_resolveAlert {row : Option LatestTelemetry} {resolutionType : String} :
    Tx.Respects (KeepsClosed id)
      (resolveAlert py alert row resolutionType user comment now) :=
  Tx.respects_bind (keepsClosed_saveAlert fun _ => rfl) fun _ =>
    Tx.respects_bind (Tx.respects_read _) fun _ =>
      Tx.respects_bind (keepsClosed_of_sameAlerts sameAlerts_createAlertLog) fun _ =>
        Tx.respects_pure _

theorem keepsClosed_manuallyResolveAlert :
    Tx.Respects (KeepsClosed id) (manuallyResolveAlert py alert user comment now) :=
  Tx.respects_bind keepsClosed_resolveAlert fun _ =>
    Tx.respects_bind (keepsClosed_of_sameAlerts sameAlerts_commentOn) fun _ =>
      Tx.respects_pure _

/-- An acknowledgement of an open copy takes its alert out of the closed ones. -/
theorem closed_acknowledgeAlert_iff (hopen : alert.status = .open) :
    (acknowledgeAlert alert user comment now db).2.Closed id ↔
      db.Closed id ∧ id ≠ alert.id :=
  (SameAlerts.closed_iff (sameAlerts_acknowledgeAlert_after hopen)).trans
    (closed_saveAlert_iff (by simp) (by simp) (by simp) rfl)

/-- A turn touches active alerts only. -/
theorem keepsClosed_ruleTurn {rule : AlertRule} {clock : ℕ → Instant} :
    Tx.Respects (KeepsClosed id) (ruleTurn py latest rule clock) := by
  intro db
  rcases hturn : ruleTurn py latest rule clock db with ⟨e | result, db'⟩
  · obtain ⟨-, rfl⟩ := Tx.atomic_eq_error_iff.mp hturn
    exact refl_of (KeepsClosed id) _
  · exact (turnEffect_of_ok hturn).frozen.keepsClosed

/-- So does the trap step behind the turns. -/
theorem keepsClosed_trapTurn {clock : ℕ → Instant} :
    Tx.Respects (KeepsClosed id) (Tx.atomic (resolveUpsTrapAlertIfNeeded py latest clock)) := by
  intro db
  rcases hturn : Tx.atomic (resolveUpsTrapAlertIfNeeded py latest clock) db with
    ⟨e | result, db'⟩
  · obtain ⟨-, rfl⟩ := Tx.atomic_eq_error_iff.mp hturn
    exact refl_of (KeepsClosed id) _
  · exact (resolveUpsTrapAlert_ok (Tx.atomic_eq_ok_iff.mp hturn)).1.keepsClosed

end Effects

/-! ### Requests in progress -/

/-- The database, and the alerts that the requests in progress hold in memory.  These
were loaded from it, so they can be stored, and their rules exist. -/
structure AlertRequests where
  db : AlertsDb
  loaded : ℕ → Option AlertEvent
  loaded_storable : ∀ request, ∀ alert ∈ loaded request, alert.storable
  loaded_rule :
    ∀ request, ∀ alert ∈ loaded request, ∀ rule ∈ alert.alertRule, (db.rules.find rule).isSome

/-- A step of a request, or of the engine. -/
inductive RequestStep
  /-- `get_object`. -/
  | load (request : ℕ) (alert : AlertId)
  /-- `acknowledge`, behind `get_object`. -/
  | acknowledge (request : ℕ) (user : UserId) (comment : Option String) (now : Instant)
  /-- `resolve`, behind `get_object`. -/
  | resolve (request : ℕ) (user : UserId) (comment : Option String) (now : Instant)
  /-- `perform_update` of a `PUT` or a `PATCH`. -/
  | update (request : ℕ)
  /-- A rule's turn of `evaluate_latest`. -/
  | ruleTurn (latest : LatestTelemetry) (rule : AlertRule) (clock : ℕ → Instant)
  /-- The trap step of `evaluate_latest`. -/
  | trapTurn (latest : LatestTelemetry) (clock : ℕ → Instant)

namespace AlertRequests

open AlertsDb

variable (s : AlertRequests)

/-- The request holds the row that is stored now, or nothing if there is none. -/
def load (request : ℕ) (id : AlertId) : AlertRequests where
  db := s.db
  loaded := Function.update s.loaded request (s.db.alerts.find id)
  loaded_storable := by
    intro other alert halert
    rw [Function.update_apply] at halert
    split at halert
    · exact s.db.alert_storable alert (Table.find_eq_some_iff.mp halert).1
    · exact s.loaded_storable other alert halert
  loaded_rule := by
    intro other alert halert
    rw [Function.update_apply] at halert
    split at halert
    · exact s.db.alert_rule alert (Table.find_eq_some_iff.mp halert).1
    · exact s.loaded_rule other alert halert

/-- A computation on the database that leaves the rules alone. -/
def execute {α : Type} (x : Engine α) (hx : Tx.Respects SameSetup x) : AlertRequests where
  db := (x s.db).2
  loaded := s.loaded
  loaded_storable := s.loaded_storable
  loaded_rule := by
    rw [(hx s.db).rules]
    exact s.loaded_rule

/-- The request has been answered. -/
def finish (request : ℕ) : AlertRequests where
  db := s.db
  loaded := Function.update s.loaded request none
  loaded_storable := by
    intro other alert halert
    rw [Function.update_apply] at halert
    split at halert
    · cases halert
    · exact s.loaded_storable other alert halert
  loaded_rule := by
    intro other alert halert
    rw [Function.update_apply] at halert
    split at halert
    · cases halert
    · exact s.loaded_rule other alert halert

/-- The rest of a request, on the alert that it holds. -/
def save {α : Type} (request : ℕ) (f : AlertEvent → Engine α)
    (hf : ∀ alert, Tx.Respects SameSetup (f alert)) : AlertRequests :=
  match s.loaded request with
  | some alert => (s.execute (f alert) (hf alert)).finish request
  | none => s

/-- What opens nothing leaves the setup alone. -/
theorem sameSetup_of_respects {α : Type} {x : Engine α} (h : Tx.Respects (OpensOnly ∅) x) :
    Tx.Respects SameSetup x :=
  fun db => (h db).setup

theorem sameSetup_acknowledgeAlert {alert : AlertEvent} {user : Option UserId}
    {comment : Option String} {now : Instant} :
    Tx.Respects SameSetup (acknowledgeAlert alert user comment now) := by
  unfold acknowledgeAlert
  split
  · exact Tx.respects_pure _
  · exact Tx.respects_bind sameSetup_saveAlert fun _ =>
      Tx.respects_bind (sameSetup_of_respects respects_commentOn) fun _ =>
        Tx.respects_bind (sameSetup_of_respects respects_createAlertLog) fun _ =>
          Tx.respects_pure _

/-- A step. -/
def step (py : PyText) (s : AlertRequests) : RequestStep → AlertRequests
  | .load request alert => s.load request alert
  | .acknowledge request user comment now =>
      s.save request (fun alert => acknowledgeAlert alert (some user) comment now)
        fun _ => sameSetup_acknowledgeAlert
  | .resolve request user comment now =>
      s.save request (fun alert => manuallyResolveAlert py alert (some user) comment now)
        fun _ => sameSetup_of_respects respects_manuallyResolveAlert
  | .update request => s.save request saveAlertRow fun _ => sameSetup_saveAlertRow
  | .ruleTurn latest rule clock =>
      s.execute (DcimBackend.ruleTurn py latest rule clock) fun db => (respects_ruleTurn db).setup
  | .trapTurn latest clock =>
      s.execute (Tx.atomic (resolveUpsTrapAlertIfNeeded py latest clock))
        (sameSetup_of_respects (Tx.respects_atomic respects_resolveUpsTrapAlertIfNeeded))

/-! ### Revival -/

/-- The step saves an active copy of the alert over a row that has been closed. -/
def Revives (id : AlertId) : RequestStep → Prop
  | .acknowledge request _ _ _ =>
      ∃ alert ∈ s.loaded request, alert.id = id ∧ alert.status = .open ∧ s.db.Closed id
  | .update request =>
      ∃ alert ∈ s.loaded request, alert.id = id ∧ alert.status.isActive ∧ s.db.Closed id
  | _ => False

variable {s} {py : PyText} {id : AlertId}

theorem save_db {α : Type} {request : ℕ} {f : AlertEvent → Engine α}
    {hf : ∀ alert, Tx.Respects SameSetup (f alert)} {alert : AlertEvent}
    (hloaded : alert ∈ s.loaded request) : (s.save request f hf).db = (f alert s.db).2 := by
  simp only [save, Option.mem_def.mp hloaded]
  rfl

/-- A request that keeps closed alerts closed whatever it holds. -/
theorem keepsClosed_save {α : Type} {request : ℕ} {f : AlertEvent → Engine α}
    {hf : ∀ alert, Tx.Respects SameSetup (f alert)}
    (h : ∀ alert ∈ s.loaded request, KeepsClosed id s.db (f alert s.db).2) :
    KeepsClosed id s.db (s.save request f hf).db := by
  unfold save
  split
  · rename_i alert hloaded
    exact h alert hloaded
  · exact refl_of (KeepsClosed id) _

/-- **The step lemma**: a step leaves a closed alert closed exactly if it does not
revive it. -/
theorem keepsClosed_step_iff (i : RequestStep) :
    KeepsClosed id s.db (step py s i).db ↔ ¬s.Revives id i := by
  cases i with
  | load request alert => exact iff_of_true (refl_of (KeepsClosed id) _) not_false
  | resolve request user comment now =>
      exact iff_of_true (keepsClosed_save fun _ _ => keepsClosed_manuallyResolveAlert s.db)
        not_false
  | ruleTurn latest rule clock => exact iff_of_true (keepsClosed_ruleTurn s.db) not_false
  | trapTurn latest clock => exact iff_of_true (keepsClosed_trapTurn s.db) not_false
  | acknowledge request user comment now =>
      constructor
      · rintro hkeeps ⟨alert, hloaded, rfl, hopen, hclosed⟩
        have hafter := hkeeps hclosed
        rw [step, save_db hloaded, closed_acknowledgeAlert_iff hopen] at hafter
        exact hafter.2 rfl
      · intro hnot
        refine keepsClosed_save fun alert hloaded hclosed => ?_
        by_cases hopen : alert.status = .open
        · exact (closed_acknowledgeAlert_iff hopen).mpr
            ⟨hclosed, fun hid => hnot ⟨alert, hloaded, hid.symm, hopen, hclosed⟩⟩
        · rwa [acknowledgeAlert, if_pos hopen]
  | update request =>
      have hsaved : ∀ alert ∈ s.loaded request, (saveAlertRow alert s.db).2.alerts =
          s.db.alerts.save alert := fun alert hloaded => by
        rw [saveAlertRow_apply (s.loaded_storable request alert hloaded)
          (s.loaded_rule request alert hloaded)]
        rfl
      constructor
      · rintro hkeeps ⟨alert, hloaded, rfl, hactive, hclosed⟩
        have hafter := hkeeps hclosed
        rw [step, save_db hloaded, closed_save_iff (hsaved alert hloaded), if_pos rfl,
          hactive] at hafter
        cases hafter
      · intro hnot
        refine keepsClosed_save fun alert hloaded hclosed => ?_
        rw [closed_save_iff (hsaved alert hloaded)]
        split
        · rename_i hid
          rw [← Bool.not_eq_true]
          exact fun hactive => hnot ⟨alert, hloaded, hid.symm, hactive, hclosed⟩
        · exact hclosed

/-- **Closed alerts stay closed** along a run exactly if no `acknowledge`, `PUT` or
`PATCH` of the run saves an active copy over a row that has been closed. -/
theorem closed_stays_iff (py : PyText) (s : AlertRequests) (w : List RequestStep) :
    (∀ id u v, w = u ++ v → (run (step py) s u).db.Closed id →
      ∀ v₁ v₂, v = v₁ ++ v₂ → (run (step py) s (u ++ v₁)).db.Closed id) ↔
      Along (step py) (fun before i _ => ∀ id, ¬before.Revives id i) s w := by
  rw [along_forall]
  refine forall_congr' fun id => ?_
  have hstays := @stays_iff_along _ _ (step py) (fun s => s.db.Closed id) s w
  exact hstays.trans (along_congr (G := fun _ _ _ => True) (fun _ i _ => keepsClosed_step_iff i)
    (along_of_forall (fun _ _ => trivial) s w))

/-- The server room with an alert, and no request in progress. -/
def hotRequests : AlertRequests where
  db := hotServerRoom
  loaded _ := none
  loaded_storable := by simp
  loaded_rule := by simp

/-- A reading of 25 degrees. -/
def coolRow : LatestTelemetry := sensorRow { valueFloat := some (.finite 25) } .good

/-- An operator acknowledges the alert, and the engine resolves it after the request has
loaded it. -/
def lateAcknowledge : List RequestStep :=
  [.load 0 0, .ruleTurn coolRow tooHot fun _ => 0, .acknowledge 0 1 none 0]

/-- The late acknowledgement revives the alert. -/
theorem lateAcknowledge_revives :
    ¬∀ id u v, lateAcknowledge = u ++ v → (run (step plainText) hotRequests u).db.Closed id →
      ∀ v₁ v₂, v = v₁ ++ v₂ →
        (run (step plainText) hotRequests (u ++ v₁)).db.Closed id := by
  intro h
  have hrevived := h 0 [.load 0 0, .ruleTurn coolRow tooHot fun _ => 0]
    [.acknowledge 0 1 none 0] rfl (by decide) [.acknowledge 0 1 none 0] [] rfl
  exact absurd hrevived (by decide)

end AlertRequests

end DcimBackend
