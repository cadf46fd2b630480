import DcimBackend.Alerts.History

/-!
# Who closed an alert

The closure of an alert is its status together with the four columns that say when, by whom
and how it has been closed.  The lookups of the engine find active alerts only, and
`acknowledge_alert` returns an alert that is not open as it is.  `manually_resolve_alert` and
`suppress_alert` close whatever row they are given, so they write a second closure over the
first one.

`closures_stay_iff` is the exact line between the runs in which closures stay and those in
which one of them is rewritten.

A closure is compared as a whole, so a save that writes the same closure once more changes
nothing, and columns beside it may change: the metadata of a closed alert is rewritten by an
escalation.
-/

namespace DcimBackend

open Library

/-- Who closed an alert, when and how. -/
structure Closure where
  status : AlertStatus
  resolvedAt : Option Instant
  resolvedBy : Option UserId
  resolutionType : Option String
  resolveComment : Option String
deriving DecidableEq

/-- The closure of an alert, which says little while the alert is active. -/
def AlertEvent.closure (alert : AlertEvent) : Closure where
  status := alert.status
  resolvedAt := alert.resolvedAt
  resolvedBy := alert.resolvedBy
  resolutionType := alert.resolutionType
  resolveComment := alert.resolveComment

namespace AlertsDb

/-- The alert is stored, and has been closed so. -/
def ClosedAs (db : AlertsDb) (id : AlertId) (closure : Closure) : Prop :=
  closure.status.isActive = false ∧ ∃ alert ∈ db.alerts, alert.id = id ∧ alert.closure = closure

instance (db : AlertsDb) (id : AlertId) (closure : Closure) :
    Decidable (db.ClosedAs id closure) :=
  inferInstanceAs (Decidable (_ ∧ ∃ alert ∈ db.alerts, _))

/-- Alerts that are not active keep their closures. -/
def KeepsClosures (db db' : AlertsDb) : Prop :=
  ∀ alert ∈ db.alerts, alert.status.isActive = false →
    ∃ row ∈ db'.alerts, row.id = alert.id ∧ row.closure = alert.closure

instance : IsPreorder AlertsDb KeepsClosures where
  refl _ alert halert _ := ⟨alert, halert, rfl, rfl⟩
  trans db db' db'' h h' := by
    intro alert halert hclosed
    obtain ⟨row, hrow, hid, hsame⟩ := h alert halert hclosed
    have hrowClosed : row.status.isActive = false := by
      rw [← hclosed]
      exact congrArg (fun closure : Closure => closure.status.isActive) hsame
    obtain ⟨row', hrow', hid', hsame'⟩ := h' row hrow hrowClosed
    exact ⟨row', hrow', hid'.trans hid, hsame'.trans hsame⟩

section KeepsClosures

variable {db db' : AlertsDb} {alert copy : AlertEvent} {columns : List AlertColumn}

theorem keepsClosures_iff :
    KeepsClosures db db' ↔ ∀ id closure, db.ClosedAs id closure → db'.ClosedAs id closure := by
  constructor
  · rintro hkeeps id closure ⟨hclosed, alert, halert, rfl, rfl⟩
    obtain ⟨row, hrow, hid, hsame⟩ := hkeeps alert halert hclosed
    exact ⟨hclosed, row, hrow, hid, hsame⟩
  · intro h alert halert hclosed
    exact (h alert.id alert.closure ⟨hclosed, alert, halert, rfl, rfl⟩).2

theorem Frozen.keepsClosures (h : db.Frozen db') : KeepsClosures db db' :=
  fun alert halert hclosed => ⟨alert, h alert halert hclosed, rfl, rfl⟩

/-- A save keeps the closures exactly if it writes no other closure over that of its own
alert. -/
theorem Saved.keepsClosures_iff (h : db.Saved db' copy columns) (halert : alert ∈ db.alerts)
    (hid : copy.id = alert.id) :
    KeepsClosures db db' ↔ (alert.status.isActive = false →
      (AlertEvent.write columns copy alert).closure = alert.closure) := by
  obtain ⟨stored, hfind, hrows⟩ := h
  rw [hid, ← pk_alertEvent, Table.find_pk halert] at hfind
  obtain rfl := Option.some.inj hfind
  constructor
  · intro hkeeps hclosed
    obtain ⟨row, hrow, hrowId, hsame⟩ := hkeeps alert halert hclosed
    rw [hrows] at hrow
    rcases Table.mem_save.mp hrow with rfl | ⟨-, hne⟩
    · exact hsame
    · exact absurd hrowId hne
  · intro hwrite other hother hclosed
    by_cases hsame : other.id = alert.id
    · obtain rfl : other = alert := db.alerts.eq_of_pk_eq hother halert hsame
      refine ⟨AlertEvent.write columns copy other, ?_, rfl, hwrite hclosed⟩
      rw [hrows]
      exact Table.mem_save.mpr (Or.inl rfl)
    · refine ⟨other, ?_, rfl, rfl⟩
      rw [hrows]
      exact Table.mem_save.mpr (Or.inr ⟨hother, hsame⟩)

/-- The alerts of a deleted rule keep their closures. -/
theorem keepsClosures_removeRule {rule : RuleId} : KeepsClosures db (db.removeRule rule) := by
  intro alert halert hclosed
  refine ⟨alert.unlinkRule rule, ?_, AlertEvent.id_unlinkRule, ?_⟩
  · rw [removeRule, Table.mem_modify]
    exact ⟨alert, halert, rfl⟩
  · unfold AlertEvent.unlinkRule
    split <;> rfl

end KeepsClosures

/-! ### What each operation does to the closures -/

/-- The operation closes an alert that has been closed in another way. -/
def Rewrites (db : AlertsDb) : AlertOperation → Prop
  | .manuallyResolveAlert id user comment now =>
      ∃ alert ∈ db.alerts.find id, alert.status.isActive = false ∧
        alert.closure ≠
          ⟨.resolved, some now, user, some "MANUAL", pyOr comment alert.resolveComment⟩
  | .suppressAlert id user reason now =>
      ∃ alert ∈ db.alerts.find id, alert.status.isActive = false ∧
        alert.closure ≠
          ⟨.suppressed, some now, user, some "SUPPRESSED", pyOr reason alert.resolveComment⟩
  | _ => False

section Operations

variable {db db' : AlertsDb} {alert : AlertEvent} {py : PyText} {latest : LatestTelemetry}
  {user : Option UserId} {comment : Option String} {now createdAt : Instant}

theorem keepsClosures_evaluateLatest {cached : Option (List RuleId)}
    {clock : ℕ → ℕ → Instant} :
    Tx.Respects KeepsClosures (evaluateLatest py latest cached clock) := by
  refine respects_evaluateLatest (fun rule clock => ?_) fun clock => ?_
  · exact Tx.respects_atomic_of_ok fun db result db' hturn =>
      (turnEffect_of_ok hturn).frozen.keepsClosures
  · exact Tx.respects_atomic_of_ok fun db result db' hturn =>
      (resolveUpsTrapAlert_ok (Tx.atomic_eq_ok_iff.mp hturn)).1.keepsClosures

theorem keepsClosures_createOrUpdateTrapAlert {trap : Trap} :
    Tx.Respects KeepsClosures (createOrUpdateTrapAlert trap createdAt) := by
  refine Tx.respects_atomic_of_ok fun db result db' h => ?_
  obtain ⟨found, db₁, hread, h⟩ := Tx.bind_eq_ok_iff.mp (Tx.atomic_eq_ok_iff.mp h)
  obtain ⟨hfound, rfl⟩ := Prod.mk.inj hread
  have hopens : ∀ {returned : AlertEvent}, openTrapAlert trap createdAt db = (.ok returned, db') →
      KeepsClosures db db' :=
    fun hopen => (createAlert_logged hopen).2.1.frozen.keepsClosures
  cases found with
  | none => exact hopens h
  | some existing =>
      have hexisting := (Table.mem_select.mp (List.argmax_mem (Except.ok.inj hfound))).1
      dsimp only at h
      split at h
      · obtain ⟨-, hsaved, -⟩ := saveAlert_logged h
        exact (hsaved.keepsClosures_iff hexisting rfl).mpr fun _ => rfl
      · exact hopens h

/-- The exact alert that the two functions on exact alerts look for is open. -/
theorem isActive_of_isExactAlert {device : Device} {metric : MetricDefinition}
    (h : isExactAlert device metric alert) : alert.status.isActive := by
  simp only [isExactAlert, Bool.and_eq_true, decide_eq_true_eq] at h
  rw [h.2]
  rfl

theorem keepsClosures_saveAlert_of_active {copy : AlertEvent} {columns : List AlertColumn}
    (halert : alert ∈ db.alerts) (hid : copy.id = alert.id) (hactive : alert.status.isActive) :
    KeepsClosures db (saveAlert copy columns db).2 := by
  rcases hsave : saveAlert copy columns db with ⟨e | u, db'⟩
  · obtain rfl := saveAlert_error hsave
    exact refl_of KeepsClosures db'
  · exact ((saveAlert_ok hsave).frozen halert hid hactive).keepsClosures

theorem keepsClosures_openOrUpdateExactAlert {device : Device} {metric : MetricDefinition}
    {confirmationAt : Instant} :
    Tx.Respects KeepsClosures (openOrUpdateExactAlert device metric confirmationAt createdAt) := by
  intro db
  rw [openOrUpdateExactAlert, Tx.bind_apply, Tx.read_apply]
  rcases @exactAlert_cases db device metric with ⟨alert, halert, hexact, hfound⟩ | ⟨-, hfound⟩
  · rw [hfound]
    exact Tx.rel_bind (keepsClosures_saveAlert_of_active halert rfl
      (isActive_of_isExactAlert hexact)) fun _ => Tx.respects_pure _
  · rw [hfound]
    dsimp only
    rw [Tx.bind_apply]
    split
    · rename_i alert db₁ hcreate
      exact (createAlert_ok hcreate).2.frozen.keepsClosures
    · rename_i e db₁ herror
      exact (createAlert_ne_error herror rfl (by simp)).elim

theorem keepsClosures_resolveExactAlert {device : Device} {metric : MetricDefinition}
    {confirmationAt : Instant} :
    Tx.Respects KeepsClosures (resolveExactAlert device metric confirmationAt) := by
  intro db
  rw [resolveExactAlert, Tx.bind_apply, Tx.read_apply]
  rcases @exactAlert_cases db device metric with ⟨alert, halert, hexact, hfound⟩ | ⟨-, hfound⟩
  · rw [hfound]
    exact Tx.rel_bind (keepsClosures_saveAlert_of_active halert rfl
      (isActive_of_isExactAlert hexact)) fun _ => Tx.respects_pure _
  · rw [hfound]
    exact refl_of KeepsClosures db

theorem keepsClosures_acknowledgeAlert (halert : alert ∈ db.alerts) :
    KeepsClosures db (acknowledgeAlert alert user comment now db).2 := by
  by_cases hopen : alert.status = .open
  · obtain ⟨db₁, hrun, hsaved, -⟩ := @acknowledgeAlert_logged db alert user comment now halert hopen
    rw [hrun]
    refine (hsaved.frozen halert rfl ?_).keepsClosures
    rw [hopen]
    rfl
  · rw [acknowledgeAlert, if_pos hopen]
    exact refl_of KeepsClosures db

/-- A resolution by hand asks nothing of the status of the alert. -/
theorem keepsClosures_manuallyResolveAlert_iff (halert : alert ∈ db.alerts) :
    KeepsClosures db (manuallyResolveAlert py alert user comment now db).2 ↔
      ¬(alert.status.isActive = false ∧ alert.closure ≠
        ⟨.resolved, some now, user, some "MANUAL", pyOr comment alert.resolveComment⟩) := by
  obtain ⟨hsaved, -⟩ := @manuallyResolveAlert_logged db _ alert py user comment now halert rfl
  rw [hsaved.keepsClosures_iff halert rfl, not_and, not_ne_iff]
  exact imp_congr_right fun _ => eq_comm

/-- Neither does a suppression. -/
theorem keepsClosures_suppressAlert_iff (halert : alert ∈ db.alerts) :
    KeepsClosures db (suppressAlert alert user comment now db).2 ↔
      ¬(alert.status.isActive = false ∧ alert.closure ≠
        ⟨.suppressed, some now, user, some "SUPPRESSED", pyOr comment alert.resolveComment⟩) := by
  obtain ⟨result, db', hsuppress⟩ := @exists_suppressAlert db alert user comment now halert
  obtain ⟨-, hsaved, -⟩ := saveAlert_logged hsuppress
  rw [hsuppress, hsaved.keepsClosures_iff halert rfl, not_and, not_ne_iff]
  exact imp_congr_right fun _ => eq_comm

/-- An operation on a freshly loaded row, from what it does to a stored one. -/
theorem keepsClosures_onAlert_iff {id : AlertId} {f : AlertEvent → Engine AlertEvent}
    {p : AlertEvent → Prop}
    (h : ∀ alert ∈ db.alerts, KeepsClosures db (f alert db).2 ↔ ¬p alert) :
    KeepsClosures db (db.onAlert id f) ↔ ¬∃ alert ∈ db.alerts.find id, p alert := by
  unfold onAlert
  split
  · rename_i alert hfind
    rw [h alert (Table.find_eq_some_iff.mp hfind).1]
    simp [hfind]
  · rename_i hnone
    exact iff_of_true (refl_of KeepsClosures db) (by simp [hnone])

/-- **What an operation does to the closures**: those of `Rewrites` rewrite one, and all others
keep them all. -/
theorem keepsClosures_operate_iff (op : AlertOperation) :
    KeepsClosures db (db.operate py op) ↔ ¬db.Rewrites op := by
  cases op with
  | evaluateLatest latest cached clock =>
      exact iff_of_true (keepsClosures_evaluateLatest db) not_false
  | acknowledgeAlert id user comment now =>
      have hkeeps := @keepsClosures_onAlert_iff db id
        (fun alert => acknowledgeAlert alert user comment now) (fun _ => False)
        fun alert halert => iff_of_true (keepsClosures_acknowledgeAlert halert) not_false
      exact iff_of_true (hkeeps.mpr (by simp)) not_false
  | manuallyResolveAlert id user comment now =>
      exact keepsClosures_onAlert_iff fun alert halert =>
        keepsClosures_manuallyResolveAlert_iff halert
  | suppressAlert id user reason now =>
      exact keepsClosures_onAlert_iff fun alert halert => keepsClosures_suppressAlert_iff halert
  | createOrUpdateTrapAlert trap createdAt =>
      exact iff_of_true (keepsClosures_createOrUpdateTrapAlert db) not_false
  | openOrUpdateExactAlert device metric confirmationAt createdAt =>
      exact iff_of_true (keepsClosures_openOrUpdateExactAlert db) not_false
  | resolveExactAlert device metric confirmationAt =>
      exact iff_of_true (keepsClosures_resolveExactAlert db) not_false
  | saveRule rule =>
      refine iff_of_true ?_ not_false
      simp only [operate, saveRule]
      split
      · exact Frozen.keepsClosures (frozen_of_alerts_eq rfl)
      · exact refl_of KeepsClosures db
  | deleteRule rule => exact iff_of_true keepsClosures_removeRule not_false
  | saveWindow window =>
      refine iff_of_true ?_ not_false
      simp only [operate, saveWindow]
      split
      · exact Frozen.keepsClosures (frozen_of_alerts_eq rfl)
      · exact refl_of KeepsClosures db

end Operations

end AlertsDb

/-! ### Runs -/

namespace EscalationSetup

open AlertsDb

variable {setup : EscalationSetup} {db : EscalationDb}

/-- The operation closes no alert that has been closed in another way. -/
def PerformsOnce (db : EscalationDb) : HistoryOperation → Prop
  | .operate op => ¬db.alerts.Rewrites op
  | .escalate _ _ _ _ => True

/-- An escalation writes the metadata of its alert, closed or not. -/
theorem keepsClosures_escalateAlert {alert : AlertEvent} {policy : AlertEscalationPolicy}
    {now : Instant} {fails : EscalationPoint → Bool} (halert : alert ∈ db.alerts.alerts) :
    KeepsClosures db.alerts (setup.escalateAlert fails alert policy now db).2.alerts := by
  obtain hsame | ⟨metadata, hsaved, -⟩ :=
    @escalateAlert_logged setup db alert policy now fails _ halert rfl
  · rw [hsame]
    exact refl_of KeepsClosures db.alerts
  · exact (hsaved.keepsClosures_iff halert rfl).mpr fun _ => rfl

/-- **The step lemma**: an operation keeps the closures exactly if it closes nothing twice. -/
theorem keepsClosures_perform_iff (op : HistoryOperation) :
    KeepsClosures db.alerts (setup.perform db op).alerts ↔ PerformsOnce db op := by
  cases op with
  | operate op => exact keepsClosures_operate_iff op
  | escalate alert policy now fails =>
      refine iff_of_true ?_ trivial
      simp only [perform]
      split
      · rename_i alert hfind
        exact keepsClosures_escalateAlert (Table.find_eq_some_iff.mp hfind).1
      · exact refl_of KeepsClosures db.alerts

/-- **Closures stay**: along a run an alert that has been closed keeps its status, and when, by
whom, how and with which comment it was closed, exactly if no resolution by hand and no
suppression of the run closes it again in another way. -/
theorem closures_stay_iff (setup : EscalationSetup) (db : EscalationDb)
    (w : List HistoryOperation) :
    (∀ id closure u v, w = u ++ v → (run setup.perform db u).alerts.ClosedAs id closure →
      ∀ v₁ v₂, v = v₁ ++ v₂ → (run setup.perform db (u ++ v₁)).alerts.ClosedAs id closure) ↔
      Along setup.perform (fun before op _ => PerformsOnce before op) db w := by
  have hkept : ∀ id closure, (∀ u v, w = u ++ v →
      (run setup.perform db u).alerts.ClosedAs id closure → ∀ v₁ v₂, v = v₁ ++ v₂ →
        (run setup.perform db (u ++ v₁)).alerts.ClosedAs id closure) ↔
      Along setup.perform (fun before _ after => before.alerts.ClosedAs id closure →
        after.alerts.ClosedAs id closure) db w :=
    fun id closure => @stays_iff_along _ _ setup.perform
      (fun db => db.alerts.ClosedAs id closure) db w
  simp only [hkept, ← along_forall]
  refine along_congr (G := fun _ _ _ => True) (fun before op _ => ?_)
    (along_of_forall (fun _ _ => trivial) db w)
  rw [← keepsClosures_iff]
  exact keepsClosures_perform_iff op

/-! ### A resolution of a resolved alert -/

/-- An operator resolves the alert of the server room, and another one does it again. -/
def resolvedTwice : List HistoryOperation :=
  [.operate (.evaluateLatest hotRow none fun _ _ => 0),
    .operate (.manuallyResolveAlert 0 (some 1) (some "Filter cleaned") 60000000),
    .operate (.manuallyResolveAlert 0 (some 2) none 120000000)]

/-- The alert has been resolved by the second one then. -/
theorem resolvedTwice_rewrites :
    ¬∀ id closure u v, resolvedTwice = u ++ v →
      (run (nobody []).perform serverRoomDb u).alerts.ClosedAs id closure →
      ∀ v₁ v₂, v = v₁ ++ v₂ →
        (run (nobody []).perform serverRoomDb (u ++ v₁)).alerts.ClosedAs id closure := by
  intro hclaim
  have hfrozen := hclaim 0
    ⟨.resolved, some 60000000, some 1, some "MANUAL", some "Filter cleaned"⟩
    (resolvedTwice.take 2) (resolvedTwice.drop 2) rfl (by decide) (resolvedTwice.drop 2) [] rfl
  exact absurd hfrozen (by decide)

end EscalationSetup

end DcimBackend
