import DcimBackend.Alerts.History

/-!
# How often an alert has occurred

`occurrence_count` starts at one, and each of the two functions that raise it writes a log row
with the action `UPDATED` behind the save.  The two statements are in one transaction in both
places, so neither is stored without the other.

`Counted` says that the count is one more than the number of these log rows.  It is compared
with a save and an insertion in the way of `Faithful`, which speaks of the same log rows.

A trap that is reported again and a row that is still hot raise the count in the same way.  The
relation is stated for one save together with the log rows behind it, since between the two the
count is ahead of the log.
-/

namespace DcimBackend

open Library

/-- The log row of another occurrence. -/
def AlertEventLog.isUpdate (log : AlertEventLog) : Bool := log.action = .updated

namespace AlertsDb

/-- The number of occurrences of an alert that have been logged behind the first one. -/
def updates (db : AlertsDb) (alert : AlertId) : ℕ :=
  (db.history alert).countP AlertEventLog.isUpdate

/-- The counts of the alerts agree with the log. -/
def Counted (db : AlertsDb) : Prop :=
  ∀ alert ∈ db.alerts, alert.occurrenceCount = 1 + db.updates alert.id

/-- The counts are kept in agreement with the log. -/
def KeepsCounts (db db' : AlertsDb) : Prop :=
  db.LogsKnown ∧ db.Counted → db'.LogsKnown ∧ db'.Counted

instance : IsPreorder AlertsDb KeepsCounts where
  refl _ := id
  trans _ _ _ h h' := h' ∘ h

variable {db db' : AlertsDb} {alert copy result : AlertEvent} {columns : List AlertColumn}
  {new : List AlertEventLog}

theorem AlertEvent.write_occurrenceCount :
    (AlertEvent.write columns copy alert).occurrenceCount =
      if .occurrenceCount ∈ columns then copy.occurrenceCount else alert.occurrenceCount := rfl

/-! ### A save, an insertion, and nothing -/

/-- **A save and its log rows**: the count is raised by the number of occurrences that are
logged. -/
theorem keepsCounts_of_saved (hsaved : db.Saved db' copy columns) (halert : alert ∈ db.alerts)
    (hid : copy.id = alert.id) (hlogs : db'.logs = db.logs ++ new)
    (hnew : ∀ log ∈ new, log.alertEvent = alert.id)
    (hcount : alert.occurrenceCount ≠ 0 → (AlertEvent.write columns copy alert).occurrenceCount =
      alert.occurrenceCount + new.countP AlertEventLog.isUpdate) : KeepsCounts db db' := by
  rintro ⟨hknown, hcounted⟩
  refine ⟨hsaved.logsKnown hknown halert hid hlogs hnew, fun row hrow => ?_⟩
  have hbefore := hcounted alert halert
  rcases (hsaved.mem_alerts_iff halert hid).mp hrow with rfl | ⟨hold, hne⟩
  · rw [hcount (by omega), AlertEvent.write_id, updates, history_append_self hlogs hnew,
      List.countP_append, hbefore, updates, add_assoc]
  · rw [hcounted row hold, updates, updates, history_append_other hlogs hnew hne]

/-- **An insertion and its log rows**: the count of a new alert is one, and no further
occurrence is logged. -/
theorem keepsCounts_of_created (hcreated : db.Created db' alert)
    (hlogs : db'.logs = db.logs ++ new) (hnew : ∀ log ∈ new, log.alertEvent = alert.id)
    (hone : alert.occurrenceCount = 1) (hnone : new.countP AlertEventLog.isUpdate = 0) :
    KeepsCounts db db' := by
  rintro ⟨hknown, hcounted⟩
  refine ⟨hcreated.logsKnown hknown hlogs hnew, fun row hrow => ?_⟩
  rcases hcreated.mem_alerts_iff.mp hrow with rfl | hold
  · rw [updates, hcreated.history_eq hknown hlogs hnew, hnone, hone]
  · rw [hcounted row hold, updates, updates, history_append_other hlogs hnew
      (hcreated.id_ne row hold)]

/-- The same log rows, and alerts of the same counts. -/
theorem keepsCounts_of_same (hlogs : db'.logs = db.logs)
    (hkept : ∀ row ∈ db.alerts, ∃ row' ∈ db'.alerts, row'.id = row.id)
    (hsame : ∀ row' ∈ db'.alerts, ∃ row ∈ db.alerts,
      row.id = row'.id ∧ row.occurrenceCount = row'.occurrenceCount) : KeepsCounts db db' := by
  rintro ⟨hknown, hcounted⟩
  constructor
  · intro log hlog
    rw [hlogs] at hlog
    obtain ⟨row, hrow, hid⟩ := hknown log hlog
    obtain ⟨row', hrow', hid'⟩ := hkept row hrow
    exact ⟨row', hrow', hid'.trans hid⟩
  · intro row' hrow'
    obtain ⟨row, hrow, hid, hcount⟩ := hsame row' hrow'
    rw [← hcount, hcounted row hrow, updates, updates, history, history, hlogs, hid]

theorem keepsCounts_of_alerts_eq (hlogs : db'.logs = db.logs) (halerts : db'.alerts = db.alerts) :
    KeepsCounts db db' := by
  refine keepsCounts_of_same hlogs (fun row hrow => ?_) fun row hrow => ?_
  · exact ⟨row, halerts ▸ hrow, rfl⟩
  · exact ⟨row, halerts ▸ hrow, rfl, rfl⟩

/-- A save of other columns than the count, with log rows of other actions. -/
theorem keepsCounts_of_saved_others (hsaved : db.Saved db' copy columns)
    (halert : alert ∈ db.alerts) (hid : copy.id = alert.id) (hcolumn : .occurrenceCount ∉ columns)
    (hlogs : db'.logs = db.logs ++ new) (hnew : ∀ log ∈ new, log.alertEvent = alert.id)
    (hnone : new.countP AlertEventLog.isUpdate = 0) : KeepsCounts db db' := by
  refine keepsCounts_of_saved hsaved halert hid hlogs hnew fun _ => ?_
  rw [AlertEvent.write_occurrenceCount, if_neg hcolumn, hnone, add_zero]

/-- A save of other columns than the count that logs nothing, whether it is refused or not. -/
theorem keepsCounts_saveAlert (halert : alert ∈ db.alerts) (hid : copy.id = alert.id)
    (hcolumn : .occurrenceCount ∉ columns) : KeepsCounts db (saveAlert copy columns db).2 := by
  rcases hsave : saveAlert copy columns db with ⟨e | u, db'⟩
  · obtain rfl := saveAlert_error hsave
    exact refl_of KeepsCounts db'
  · have hlogs : db'.logs = db.logs ++ [] := by
      rw [← congrArg (fun r => r.2.logs) hsave, logs_saveAlert, List.append_nil]
    exact keepsCounts_of_saved_others (saveAlert_ok hsave) halert hid hcolumn hlogs (by simp) rfl

/-! ### The writes of the engine -/

section Functions

variable {py : PyText} {latest : LatestTelemetry} {value threshold : PyValue}
  {user : Option UserId} {comment : Option String} {now createdAt : Instant} {trap : Trap}

/-- An alert that has occurred is counted once more. -/
theorem raised_count {count : ℕ} (h : count ≠ 0) :
    (if count = 0 then 1 else count) + 1 = count + 1 := by
  rw [if_neg h]

theorem keepsCounts_suppressAlert (halert : alert ∈ db.alerts)
    (h : suppressAlert alert user comment now db = (.ok result, db')) : KeepsCounts db db' := by
  obtain ⟨-, hsaved, hlogs⟩ := saveAlert_logged h
  exact keepsCounts_of_saved_others hsaved halert rfl (by simp) hlogs
    (by simp [AlertEvent.asSuppressed]) rfl

/-- The rule engine counts an occurrence, and logs it. -/
theorem keepsCounts_updateActiveAlert (halert : alert ∈ db.alerts)
    (h : updateActiveAlert py alert latest value threshold now db = (.ok result, db')) :
    KeepsCounts db db' := by
  obtain ⟨found, db₁, hread, h⟩ := Tx.bind_eq_ok_iff.mp h
  obtain ⟨-, rfl⟩ := Prod.mk.inj hread
  cases found with
  | none => cases (Prod.mk.inj h).1
  | some rule =>
      obtain ⟨-, hsaved, hlogs⟩ := saveAlert_logged h
      exact keepsCounts_of_saved hsaved halert rfl hlogs (by simp [AlertEvent.asUpdated])
        fun hcount => raised_count hcount

/-- So does the trap engine. -/
theorem keepsCounts_updateTrapAlert (halert : alert ∈ db.alerts)
    (h : updateTrapAlert trap alert db = (.ok result, db')) : KeepsCounts db db' := by
  obtain ⟨-, hsaved, hlogs⟩ := saveAlert_logged h
  exact keepsCounts_of_saved hsaved halert rfl hlogs (by simp) fun hcount => raised_count hcount

theorem keepsCounts_openAlert {rule : AlertRule}
    (h : openAlert py rule latest value threshold now createdAt db = (.ok result, db')) :
    KeepsCounts db db' := by
  obtain ⟨rfl, hcreated, hlogs⟩ := createAlert_logged h
  exact keepsCounts_of_created hcreated hlogs (by simp) rfl rfl

theorem keepsCounts_createSuppressedAlert {rule : AlertRule}
    (h : createSuppressedAlert py latest rule value threshold now createdAt db =
      (.ok result, db')) : KeepsCounts db db' := by
  obtain ⟨rfl, hcreated, hlogs⟩ := createAlert_logged h
  exact keepsCounts_of_created hcreated hlogs (by simp) rfl rfl

theorem keepsCounts_openTrapAlert (h : openTrapAlert trap createdAt db = (.ok result, db')) :
    KeepsCounts db db' := by
  obtain ⟨rfl, hcreated, hlogs⟩ := createAlert_logged h
  exact keepsCounts_of_created hcreated hlogs (by simp) rfl rfl

theorem keepsCounts_resolveAlert {latest : Option LatestTelemetry} {resolutionType : String}
    (halert : alert ∈ db.alerts)
    (h : resolveAlert py alert latest resolutionType user comment now db = (.ok result, db')) :
    KeepsCounts db db' := by
  obtain ⟨hid, -, hsaved⟩ := resolveAlert_ok h
  obtain ⟨log, hlogs, halertId, haction, -⟩ := resolveAlert_logged h
  exact keepsCounts_of_saved_others hsaved halert hid (by simp) hlogs (by simpa using halertId)
    (by simp [AlertEventLog.isUpdate, haction])

theorem acrossWrites_keepsCounts : AcrossWrites py KeepsCounts where
  same := keepsCounts_of_alerts_eq
  suppressAlert := keepsCounts_suppressAlert
  updateActiveAlert := keepsCounts_updateActiveAlert
  openAlert := keepsCounts_openAlert
  createSuppressedAlert := keepsCounts_createSuppressedAlert
  resolveAlert := keepsCounts_resolveAlert
  updateTrapAlert := keepsCounts_updateTrapAlert
  openTrapAlert := keepsCounts_openTrapAlert

/-! ### Requests and exact alerts

These count nothing. -/

/-- A comment is no occurrence. -/
theorem countP_commentLogs {id : AlertId} {status : AlertStatus} :
    (commentLogs id status user comment).countP AlertEventLog.isUpdate = 0 := by
  rw [List.countP_eq_zero]
  intro log hlog
  obtain ⟨text, -, rfl⟩ := List.mem_map.mp hlog
  simp [AlertEventLog.isUpdate]

theorem keepsCounts_acknowledgeAlert (halert : alert ∈ db.alerts) :
    KeepsCounts db (acknowledgeAlert alert user comment now db).2 := by
  by_cases hopen : alert.status = .open
  swap
  · rw [acknowledgeAlert, if_pos hopen]
    exact refl_of KeepsCounts db
  obtain ⟨db₁, hrun, hsaved, hlogs⟩ :=
    @acknowledgeAlert_logged db alert user comment now halert hopen
  rw [hrun]
  refine keepsCounts_of_saved_others hsaved halert rfl (by simp) hlogs ?_ ?_
  · intro log hlog
    rcases List.mem_append.mp hlog with hcommented | hlast
    · exact alertEvent_of_mem_commentLogs log hcommented
    · rw [List.mem_singleton.mp hlast]
      rfl
  · rw [List.countP_append, countP_commentLogs]
    rfl

theorem keepsCounts_manuallyResolveAlert (halert : alert ∈ db.alerts) :
    KeepsCounts db (manuallyResolveAlert py alert user comment now db).2 := by
  obtain ⟨hsaved, hlogs⟩ :=
    @manuallyResolveAlert_logged db _ alert py user comment now halert rfl
  split at hlogs
  · refine keepsCounts_of_saved_others hsaved halert rfl (by simp) hlogs
      (List.forall_mem_cons.mpr ⟨rfl, alertEvent_of_mem_commentLogs⟩) ?_
    rw [List.countP_cons, countP_commentLogs]
    rfl
  · exact keepsCounts_of_saved_others hsaved halert rfl (by simp) hlogs (by simp) rfl

/-- A new exact alert has occurred once, and nothing is logged for it. -/
theorem keepsCounts_openOrUpdateExactAlert {device : Device} {metric : MetricDefinition}
    {confirmationAt : Instant} :
    Tx.Respects KeepsCounts (openOrUpdateExactAlert device metric confirmationAt createdAt) := by
  intro db
  rw [openOrUpdateExactAlert, Tx.bind_apply, Tx.read_apply]
  rcases @exactAlert_cases db device metric with ⟨alert, halert, -, hfound⟩ | ⟨-, hfound⟩
  · rw [hfound]
    exact Tx.rel_bind (keepsCounts_saveAlert halert rfl (by simp)) fun _ => Tx.respects_pure _
  · rw [hfound]
    dsimp only
    rw [Tx.bind_apply]
    split
    · rename_i alert db₁ hcreate
      obtain ⟨rfl, hcreated⟩ := createAlert_ok hcreate
      have hlogs : db₁.logs = db.logs ++ [] := by
        rw [← congrArg (fun r => r.2.logs) hcreate, logs_createAlert, List.append_nil]
      exact keepsCounts_of_created hcreated hlogs (by simp) rfl rfl
    · rename_i e db₁ herror
      exact (createAlert_ne_error herror rfl (by simp)).elim

theorem keepsCounts_resolveExactAlert {device : Device} {metric : MetricDefinition}
    {confirmationAt : Instant} :
    Tx.Respects KeepsCounts (resolveExactAlert device metric confirmationAt) := by
  intro db
  rw [resolveExactAlert, Tx.bind_apply, Tx.read_apply]
  rcases @exactAlert_cases db device metric with ⟨alert, halert, -, hfound⟩ | ⟨-, hfound⟩
  · rw [hfound]
    exact Tx.rel_bind (keepsCounts_saveAlert halert rfl (by simp)) fun _ => Tx.respects_pure _
  · rw [hfound]
    exact refl_of KeepsCounts db

/-- The alerts of a deleted rule keep their counts. -/
theorem keepsCounts_removeRule {rule : RuleId} : KeepsCounts db (db.removeRule rule) := by
  have hcount : ∀ row : AlertEvent,
      (row.unlinkRule rule).occurrenceCount = row.occurrenceCount := by
    intro row
    unfold AlertEvent.unlinkRule
    split <;> rfl
  refine keepsCounts_of_same rfl (fun row hrow => ?_) fun row' hrow' => ?_
  · have hkept : row.unlinkRule rule ∈ (db.removeRule rule).alerts := by
      rw [removeRule, Table.mem_modify]
      exact ⟨row, hrow, rfl⟩
    exact ⟨_, hkept, AlertEvent.id_unlinkRule⟩
  · rw [removeRule, Table.mem_modify] at hrow'
    obtain ⟨row, hrow, rfl⟩ := hrow'
    exact ⟨row, hrow, AlertEvent.id_unlinkRule.symm, (hcount row).symm⟩

/-- An operation on a freshly loaded row. -/
theorem keepsCounts_onAlert {id : AlertId} {f : AlertEvent → Engine AlertEvent}
    (h : ∀ alert ∈ db.alerts, KeepsCounts db (f alert db).2) : KeepsCounts db (db.onAlert id f) := by
  unfold onAlert
  split
  · rename_i alert hfind
    exact h alert (Table.find_eq_some_iff.mp hfind).1
  · exact refl_of KeepsCounts db

/-- **Every operation** keeps the counts. -/
theorem keepsCounts_operate (op : AlertOperation) : KeepsCounts db (db.operate py op) := by
  cases op with
  | evaluateLatest latest cached clock => exact acrossWrites_keepsCounts.respects_evaluateLatest db
  | acknowledgeAlert id user comment now =>
      exact keepsCounts_onAlert fun alert halert => keepsCounts_acknowledgeAlert halert
  | manuallyResolveAlert id user comment now =>
      exact keepsCounts_onAlert fun alert halert => keepsCounts_manuallyResolveAlert halert
  | suppressAlert id user reason now =>
      refine keepsCounts_onAlert fun alert halert => ?_
      obtain ⟨result, db', hsuppress⟩ := @exists_suppressAlert db alert user reason now halert
      rw [hsuppress]
      exact keepsCounts_suppressAlert halert hsuppress
  | createOrUpdateTrapAlert trap createdAt =>
      exact @AcrossWrites.respects_createOrUpdateTrapAlert py _ _ _ _ acrossWrites_keepsCounts db
  | openOrUpdateExactAlert device metric confirmationAt createdAt =>
      exact keepsCounts_openOrUpdateExactAlert db
  | resolveExactAlert device metric confirmationAt => exact keepsCounts_resolveExactAlert db
  | saveRule rule =>
      simp only [operate, saveRule]
      split
      · exact keepsCounts_of_alerts_eq rfl rfl
      · exact refl_of KeepsCounts db
  | deleteRule rule => exact keepsCounts_removeRule
  | saveWindow window =>
      simp only [operate, saveWindow]
      split
      · exact keepsCounts_of_alerts_eq rfl rfl
      · exact refl_of KeepsCounts db

end Functions

end AlertsDb

/-! ### Runs -/

namespace EscalationSetup

open AlertsDb

variable {setup : EscalationSetup} {db : EscalationDb}

/-- An escalation counts nothing either. -/
theorem keepsCounts_escalateAlert {alert : AlertEvent} {policy : AlertEscalationPolicy}
    {now : Instant} {fails : EscalationPoint → Bool} (halert : alert ∈ db.alerts.alerts) :
    KeepsCounts db.alerts (setup.escalateAlert fails alert policy now db).2.alerts := by
  obtain hsame | ⟨metadata, hsaved, hlogs | hlogs⟩ :=
    @escalateAlert_logged setup db alert policy now fails _ halert rfl
  · rw [hsame]
    exact refl_of KeepsCounts db.alerts
  · rw [← List.append_nil db.alerts.logs] at hlogs
    exact keepsCounts_of_saved_others hsaved halert rfl (by simp) hlogs (by simp) rfl
  · exact keepsCounts_of_saved_others hsaved halert rfl (by simp) hlogs (by simp [escalationLog])
      rfl

/-- **The step lemma**. -/
theorem keepsCounts_perform (op : HistoryOperation) :
    KeepsCounts db.alerts (setup.perform db op).alerts := by
  cases op with
  | operate op => exact keepsCounts_operate op
  | escalate alert policy now fails =>
      simp only [perform]
      split
      · rename_i alert hfind
        exact keepsCounts_escalateAlert (Table.find_eq_some_iff.mp hfind).1
      · exact refl_of KeepsCounts db.alerts

/-- **The count agrees with the log**: in every state that a run reaches, each alert has
occurred once more than the log says that it has been updated. -/
theorem counted_run (hempty : db.alerts.alerts.rows = []) (hlogs : db.alerts.logs = [])
    (w : List HistoryOperation) :
    ∀ alert ∈ (run setup.perform db w).alerts.alerts,
      alert.occurrenceCount = 1 + (run setup.perform db w).alerts.logs.countP
        fun log => log.alertEvent = alert.id ∧ log.action = .updated := by
  have hstart : db.alerts.LogsKnown ∧ db.alerts.Counted := by
    constructor
    · intro log hlog
      rw [hlogs] at hlog
      cases hlog
    · intro alert halert
      rw [Table.mem_def, hempty] at halert
      cases halert
  have hcounted : (run setup.perform db w).alerts.LogsKnown ∧
      (run setup.perform db w).alerts.Counted :=
    run_invariant (I := fun db : EscalationDb => db.alerts.LogsKnown ∧ db.alerts.Counted)
      (fun db op => keepsCounts_perform op) hstart w
  intro alert halert
  rw [hcounted.2 alert halert, updates, history, List.countP_filter]
  refine congrArg (1 + ·) (List.countP_congr fun log _ => ?_)
  simp [AlertEventLog.isUpdate, and_comm]

/-- Two hot readings in a row. -/
def hotTwice : List HistoryOperation :=
  [.operate (.evaluateLatest hotRow none fun _ _ => 0),
    .operate (.evaluateLatest hotRow none fun _ _ => 60000000)]

/-- The alert that the first of them opens has occurred twice. -/
theorem hotTwice_counted :
    ∃ alert ∈ (run (nobody []).perform serverRoomDb hotTwice).alerts.alerts,
      alert.occurrenceCount = 2 ∧ alert.occurrenceCount =
        1 + (run (nobody []).perform serverRoomDb hotTwice).alerts.logs.countP
          fun log => log.alertEvent = alert.id ∧ log.action = .updated := by
  obtain ⟨alert, halert, htwo⟩ :
      ∃ alert ∈ (run (nobody []).perform serverRoomDb hotTwice).alerts.alerts,
        alert.occurrenceCount = 2 := by decide
  exact ⟨alert, halert, htwo, counted_run rfl rfl hotTwice alert halert⟩

end EscalationSetup

end DcimBackend
