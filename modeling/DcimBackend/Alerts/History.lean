import DcimBackend.Alerts.EscalationFailures
import DcimBackend.Alerts.Lifecycle
import DcimBackend.Library.History

/-!
# The log rows of an alert

The log rows of an alert, in the order of their creation, are to be a history from no status
to the status that is stored.  Each operation writes its log rows by hand.

What an operation adds leads on from the status that the alert had, or the history is broken:
`faithful_iff_of_saved` and `faithful_iff_of_created` say so of a save and of an insertion,
whatever log rows come with it, and the operations are compared with these two.

The statements are kept apart from what calls them.  `AcrossWrites` lists the functions of the
engine that write an alert or a log row, and a relation that these functions meet holds of every
function that is built from them, wherever it ends.  That is why the log rows of an evaluation
need no case analysis of their own.

What an operation writes without a transaction may be cut off behind any of its statements: a
comment is logged in front of the acknowledgement that it comes with, and a manual resolution
saves the alert before it writes the log rows.  `Breaks` names the operations for which this, or a
log row with the wrong statuses, breaks the history of an alert, and `faithful_operate_iff` shows
that there are no others.
-/

namespace DcimBackend

open Library

namespace AlertsDb

/-! ### Histories of alerts -/

/-- The log rows of an alert, in the order of their creation. -/
def history (db : AlertsDb) (alert : AlertId) : List AlertEventLog :=
  db.logs.filter fun log => log.alertEvent = alert

/-- The log rows of each alert are a history from no status to the stored one. -/
def Faithful (db : AlertsDb) : Prop :=
  ∀ alert ∈ db.alerts, IsHistory AlertEventLog.oldStatus AlertEventLog.newStatus none
    (db.history alert.id) (some alert.status)

/-- The log rows lead from one status to another. -/
abbrev LogsLead (old : Option AlertStatus) (logs : List AlertEventLog) (new : AlertStatus) :
    Prop :=
  Leads AlertEventLog.oldStatus AlertEventLog.newStatus old logs (some new)

/-- The foreign key of the log rows. -/
def LogsKnown (db : AlertsDb) : Prop :=
  ∀ log ∈ db.logs, ∃ alert ∈ db.alerts, alert.id = log.alertEvent

variable {db db' : AlertsDb} {alert copy result : AlertEvent} {columns : List AlertColumn}
  {new : List AlertEventLog}

theorem isHistory_iff_logsLead {logs : List AlertEventLog} {status : AlertStatus} :
    IsHistory AlertEventLog.oldStatus AlertEventLog.newStatus none logs (some status) ↔
      LogsLead none logs status := by
  rw [isHistory_iff_leads, and_iff_right_of_imp]
  rintro hleads rfl
  cases hleads

theorem history_append (h : db'.logs = db.logs ++ new) {id : AlertId} :
    db'.history id = db.history id ++ new.filter fun log => log.alertEvent = id := by
  rw [history, h, List.filter_append, history]

theorem history_append_self (h : db'.logs = db.logs ++ new)
    (hnew : ∀ log ∈ new, log.alertEvent = alert.id) :
    db'.history alert.id = db.history alert.id ++ new := by
  rw [history_append h, List.filter_eq_self.mpr (by simpa using hnew)]

theorem history_append_other (h : db'.logs = db.logs ++ new)
    (hnew : ∀ log ∈ new, log.alertEvent = alert.id) {id : AlertId} (hid : id ≠ alert.id) :
    db'.history id = db.history id := by
  rw [history_append h, List.filter_eq_nil_iff.mpr, List.append_nil]
  intro log hlog
  rw [hnew log hlog]
  simpa using hid.symm

/-- The rows after a save of a stored alert. -/
theorem Saved.mem_alerts_iff (h : db.Saved db' copy columns) (halert : alert ∈ db.alerts)
    (hid : copy.id = alert.id) {row : AlertEvent} :
    row ∈ db'.alerts ↔
      row = AlertEvent.write columns copy alert ∨ (row ∈ db.alerts ∧ row.id ≠ alert.id) := by
  obtain ⟨stored, hfind, hsave⟩ := h
  rw [hid, ← pk_alertEvent, Table.find_pk halert] at hfind
  obtain rfl := Option.some.inj hfind
  rw [hsave]
  exact Table.mem_save

/-- A save with log rows of its own alert keeps the foreign key. -/
theorem Saved.logsKnown (h : db.Saved db' copy columns) (hknown : db.LogsKnown)
    (halert : alert ∈ db.alerts) (hid : copy.id = alert.id) (hlogs : db'.logs = db.logs ++ new)
    (hnew : ∀ log ∈ new, log.alertEvent = alert.id) : db'.LogsKnown := by
  have hwritten : AlertEvent.write columns copy alert ∈ db'.alerts :=
    (h.mem_alerts_iff halert hid).mpr (Or.inl rfl)
  intro log hlog
  rw [hlogs] at hlog
  rcases List.mem_append.mp hlog with hold | hadded
  · obtain ⟨row, hrow, hrowId⟩ := hknown log hold
    by_cases hsame : row.id = alert.id
    · exact ⟨_, hwritten, hsame.symm.trans hrowId⟩
    · exact ⟨row, (h.mem_alerts_iff halert hid).mpr (Or.inr ⟨hrow, hsame⟩), hrowId⟩
  · exact ⟨_, hwritten, (hnew log hadded).symm⟩

/-- So does an insertion. -/
theorem Created.logsKnown (h : db.Created db' alert) (hknown : db.LogsKnown)
    (hlogs : db'.logs = db.logs ++ new) (hnew : ∀ log ∈ new, log.alertEvent = alert.id) :
    db'.LogsKnown := by
  intro log hlog
  rw [hlogs] at hlog
  rcases List.mem_append.mp hlog with hold | hadded
  · obtain ⟨row, hrow, hrowId⟩ := hknown log hold
    exact ⟨row, h.mem_alerts_iff.mpr (Or.inr hrow), hrowId⟩
  · exact ⟨alert, h.mem_alerts_iff.mpr (Or.inl rfl), (hnew log hadded).symm⟩

/-- The key of a new alert is new. -/
theorem Created.id_ne (h : db.Created db' alert) : ∀ row ∈ db.alerts, row.id ≠ alert.id := by
  intro row hrow
  rw [h.1]
  exact Nat.ne_of_lt (db.alerts.pk_lt_nextPk row hrow)

/-- Nothing has been logged for a new alert before. -/
theorem Created.history_eq (h : db.Created db' alert) (hknown : db.LogsKnown)
    (hlogs : db'.logs = db.logs ++ new) (hnew : ∀ log ∈ new, log.alertEvent = alert.id) :
    db'.history alert.id = new := by
  have hnone : db.history alert.id = [] := by
    rw [history, List.filter_eq_nil_iff]
    intro log hlog hlogId
    obtain ⟨row, hrow, hrowId⟩ := hknown log hlog
    exact h.id_ne row hrow (hrowId.trans (by simpa using hlogId))
  rw [history_append_self hlogs hnew, hnone, List.nil_append]

/-- **A save and its log rows** keep the histories exactly if the log rows lead from the
status of the alert to the one that has been saved. -/
theorem faithful_iff_of_saved (hknown : db.LogsKnown) (hfaithful : db.Faithful)
    (hsaved : db.Saved db' copy columns) (halert : alert ∈ db.alerts) (hid : copy.id = alert.id)
    (hlogs : db'.logs = db.logs ++ new) (hnew : ∀ log ∈ new, log.alertEvent = alert.id) :
    db'.LogsKnown ∧ (db'.Faithful ↔ LogsLead (some alert.status) new
      (if .status ∈ columns then copy.status else alert.status)) := by
  refine ⟨hsaved.logsKnown hknown halert hid hlogs hnew, ?_⟩
  have hbefore : LogsLead none (db.history alert.id) alert.status :=
    isHistory_iff_logsLead.mp (hfaithful alert halert)
  have hafter : LogsLead none (db'.history alert.id)
        (AlertEvent.write columns copy alert).status ↔
      LogsLead (some alert.status) new
        (if .status ∈ columns then copy.status else alert.status) := by
    rw [history_append_self hlogs hnew, AlertEvent.write_status]
    exact Leads.append_iff hbefore
  rw [← hafter]
  constructor
  · intro hall
    exact isHistory_iff_logsLead.mp
      (hall _ ((hsaved.mem_alerts_iff halert hid).mpr (Or.inl rfl)))
  · intro hleads row hrow
    rcases (hsaved.mem_alerts_iff halert hid).mp hrow with rfl | ⟨hold, hne⟩
    · exact isHistory_iff_logsLead.mpr hleads
    · rw [history_append_other hlogs hnew hne]
      exact hfaithful row hold

/-- **An insertion and its log rows** keep the histories exactly if the log rows lead from no
status to that of the new alert. -/
theorem faithful_iff_of_created (hknown : db.LogsKnown) (hfaithful : db.Faithful)
    (hcreated : db.Created db' alert) (hlogs : db'.logs = db.logs ++ new)
    (hnew : ∀ log ∈ new, log.alertEvent = alert.id) :
    db'.LogsKnown ∧ (db'.Faithful ↔ LogsLead none new alert.status) := by
  refine ⟨hcreated.logsKnown hknown hlogs hnew, ?_⟩
  have hafter : db'.history alert.id = new := hcreated.history_eq hknown hlogs hnew
  constructor
  · intro hall
    rw [← hafter]
    exact isHistory_iff_logsLead.mp (hall alert (hcreated.mem_alerts_iff.mpr (Or.inl rfl)))
  · intro hleads row hrow
    rcases hcreated.mem_alerts_iff.mp hrow with rfl | hold
    · rw [hafter]
      exact isHistory_iff_logsLead.mpr hleads
    · rw [history_append_other hlogs hnew (hcreated.id_ne row hold)]
      exact hfaithful row hold

/-- The histories are kept. -/
def KeepsHistories (db db' : AlertsDb) : Prop :=
  db.LogsKnown ∧ db.Faithful → db'.LogsKnown ∧ db'.Faithful

instance : IsPreorder AlertsDb KeepsHistories where
  refl _ := id
  trans _ _ _ h h' := h' ∘ h

/-- The same log rows, and alerts of the same statuses. -/
theorem keepsHistories_of_same (hlogs : db'.logs = db.logs)
    (hkept : ∀ row ∈ db.alerts, ∃ row' ∈ db'.alerts, row'.id = row.id)
    (hsame : ∀ row' ∈ db'.alerts, ∃ row ∈ db.alerts, row.id = row'.id ∧ row.status = row'.status) :
    KeepsHistories db db' := by
  rintro ⟨hknown, hfaithful⟩
  constructor
  · intro log hlog
    rw [hlogs] at hlog
    obtain ⟨row, hrow, hid⟩ := hknown log hlog
    obtain ⟨row', hrow', hid'⟩ := hkept row hrow
    exact ⟨row', hrow', hid'.trans hid⟩
  · intro row' hrow'
    obtain ⟨row, hrow, hid, hstatus⟩ := hsame row' hrow'
    rw [history, hlogs, ← hid, ← hstatus]
    exact hfaithful row hrow

theorem keepsHistories_of_alerts_eq (hlogs : db'.logs = db.logs) (halerts : db'.alerts = db.alerts) :
    KeepsHistories db db' := by
  refine keepsHistories_of_same hlogs (fun row hrow => ?_) fun row hrow => ?_
  · exact ⟨row, halerts ▸ hrow, rfl⟩
  · exact ⟨row, halerts ▸ hrow, rfl, rfl⟩

/-- What has been logged for an alert leads from one status to another. -/
def Logs (db db' : AlertsDb) (alert : AlertId) (old : Option AlertStatus) (status : AlertStatus) :
    Prop :=
  ∃ new, db'.logs = db.logs ++ new ∧ (∀ log ∈ new, log.alertEvent = alert) ∧
    LogsLead old new status

/-- Nothing has been logged. -/
theorem logs_of_eq (h : db'.logs = db.logs) {id : AlertId} {status : AlertStatus} :
    db.Logs db' id (some status) status :=
  ⟨[], by rw [h, List.append_nil], by simp, rfl⟩

/-- One row has been logged. -/
theorem logs_of_append {log : AlertEventLog} {status : AlertStatus}
    (h : db'.logs = db.logs ++ [log]) (hstatus : log.newStatus = some status) :
    db.Logs db' log.alertEvent log.oldStatus status :=
  ⟨[log], h, by simp, rfl, hstatus⟩

/-- A save with log rows from the old status to the new one. -/
theorem keepsHistories_of_saved {status : AlertStatus} (hsaved : db.Saved db' copy columns)
    (halert : alert ∈ db.alerts) (hid : copy.id = alert.id)
    (hlogs : db.Logs db' alert.id (some alert.status) status)
    (hstatus : status = if .status ∈ columns then copy.status else alert.status) :
    KeepsHistories db db' := by
  obtain ⟨new, hlogs, hnew, hleads⟩ := hlogs
  rintro ⟨hknown, hfaithful⟩
  obtain ⟨hknown', hiff⟩ :=
    faithful_iff_of_saved hknown hfaithful hsaved halert hid hlogs hnew
  exact ⟨hknown', hiff.mpr (hstatus ▸ hleads)⟩

/-- A save of other columns than the status, whether it is refused or not. -/
theorem keepsHistories_saveAlert (halert : alert ∈ db.alerts) (hid : copy.id = alert.id)
    (hcolumn : .status ∉ columns) : KeepsHistories db (saveAlert copy columns db).2 := by
  rcases hsave : saveAlert copy columns db with ⟨e | u, db'⟩
  · obtain rfl := saveAlert_error hsave
    exact refl_of KeepsHistories db'
  · have hlogs : db'.logs = db.logs := by
      rw [← congrArg (fun r => r.2.logs) hsave, logs_saveAlert]
    exact keepsHistories_of_saved (saveAlert_ok hsave) halert hid (logs_of_eq hlogs)
      (if_neg hcolumn).symm

/-- An insertion with log rows from no status. -/
theorem keepsHistories_of_created (hcreated : db.Created db' alert)
    (hlogs : db.Logs db' alert.id none alert.status) : KeepsHistories db db' := by
  obtain ⟨new, hlogs, hnew, hleads⟩ := hlogs
  rintro ⟨hknown, hfaithful⟩
  obtain ⟨hknown', hiff⟩ := faithful_iff_of_created hknown hfaithful hcreated hlogs hnew
  exact ⟨hknown', hiff.mpr hleads⟩

/-! ### Saves and insertions that log

Most functions of the engine are a save, or an insertion, and one log row. -/

/-- A save, and then a log row. -/
theorem saveAlert_logged {log : AlertEventLog} {returned : AlertEvent}
    (h : (do
      saveAlert copy columns
      createAlertLog log
      return returned : Engine AlertEvent) db = (.ok result, db')) :
    returned = result ∧ db.Saved db' copy columns ∧ db'.logs = db.logs ++ [log] := by
  obtain ⟨_, db₁, hsave, h⟩ := Tx.bind_eq_ok_iff.mp h
  obtain ⟨_, db₂, hlog, h⟩ := Tx.bind_eq_ok_iff.mp h
  obtain ⟨⟨rfl⟩, rfl⟩ := Prod.mk.inj h
  obtain rfl := createAlertLog_ok hlog
  have hsame : db₁.logs = db.logs := by
    rw [← congrArg (fun r => r.2.logs) hsave, logs_saveAlert]
  obtain ⟨stored, hfind, halerts⟩ := saveAlert_ok hsave
  refine ⟨rfl, ⟨stored, hfind, halerts⟩, ?_⟩
  rw [putLog, hsame]

/-- An insertion, and then a log row. -/
theorem createAlert_logged {row : AlertEvent} {log : AlertEvent → AlertEventLog}
    (h : (do
      let alert ← createAlert row
      createAlertLog (log alert)
      return alert : Engine AlertEvent) db = (.ok result, db')) :
    result = { row with id := db.alerts.nextPk } ∧ db.Created db' result ∧
      db'.logs = db.logs ++ [log result] := by
  obtain ⟨_, db₁, hcreate, h⟩ := Tx.bind_eq_ok_iff.mp h
  obtain ⟨_, db₂, hlog, h⟩ := Tx.bind_eq_ok_iff.mp h
  obtain ⟨⟨rfl⟩, rfl⟩ := Prod.mk.inj h
  obtain rfl := createAlertLog_ok hlog
  have hsame : db₁.logs = db.logs := by
    rw [← congrArg (fun r => r.2.logs) hcreate, logs_createAlert]
  obtain ⟨rfl, hcreated⟩ := createAlert_ok hcreate
  refine ⟨rfl, hcreated, ?_⟩
  rw [putLog, hsame]

section Functions

variable {py : PyText} {latest : LatestTelemetry} {rule : AlertRule} {value threshold : PyValue}
  {user : Option UserId} {comment : Option String} {now createdAt : Instant} {trap : Trap}

theorem keepsHistories_suppressAlert (halert : alert ∈ db.alerts)
    (h : suppressAlert alert user comment now db = (.ok result, db')) : KeepsHistories db db' := by
  obtain ⟨-, hsaved, hlogs⟩ := saveAlert_logged h
  exact keepsHistories_of_saved hsaved halert rfl (logs_of_append hlogs rfl) rfl

/-- A suppression of a stored alert is not refused. -/
theorem exists_suppressAlert (halert : alert ∈ db.alerts) :
    ∃ result db', suppressAlert alert user comment now db = (.ok result, db') := by
  have hfind : db.alerts.find (alert.asSuppressed user comment now).id = some alert :=
    Table.find_pk halert
  obtain ⟨db₁, hsave, -⟩ := @saveAlert_of_find db _ alert
    [.status, .resolvedAt, .resolvedBy, .resolutionType, .resolveComment] hfind (by simp) (by simp)
  exact ⟨_, _, (Tx.bind_of_ok hsave).trans rfl⟩

theorem keepsHistories_updateActiveAlert (halert : alert ∈ db.alerts)
    (h : updateActiveAlert py alert latest value threshold now db = (.ok result, db')) :
    KeepsHistories db db' := by
  obtain ⟨found, db₁, hread, h⟩ := Tx.bind_eq_ok_iff.mp h
  obtain ⟨-, rfl⟩ := Prod.mk.inj hread
  cases found with
  | none => cases (Prod.mk.inj h).1
  | some rule =>
      obtain ⟨-, hsaved, hlogs⟩ := saveAlert_logged h
      exact keepsHistories_of_saved hsaved halert rfl (logs_of_append hlogs rfl) rfl

theorem keepsHistories_updateTrapAlert (halert : alert ∈ db.alerts)
    (h : updateTrapAlert trap alert db = (.ok result, db')) : KeepsHistories db db' := by
  obtain ⟨-, hsaved, hlogs⟩ := saveAlert_logged h
  exact keepsHistories_of_saved hsaved halert rfl (logs_of_append hlogs rfl) rfl

theorem keepsHistories_openAlert
    (h : openAlert py rule latest value threshold now createdAt db = (.ok result, db')) :
    KeepsHistories db db' := by
  obtain ⟨rfl, hcreated, hlogs⟩ := createAlert_logged h
  exact keepsHistories_of_created hcreated (logs_of_append hlogs rfl)

theorem keepsHistories_createSuppressedAlert
    (h : createSuppressedAlert py latest rule value threshold now createdAt db =
      (.ok result, db')) : KeepsHistories db db' := by
  obtain ⟨rfl, hcreated, hlogs⟩ := createAlert_logged h
  exact keepsHistories_of_created hcreated (logs_of_append hlogs rfl)

theorem keepsHistories_openTrapAlert (h : openTrapAlert trap createdAt db = (.ok result, db')) :
    KeepsHistories db db' := by
  obtain ⟨rfl, hcreated, hlogs⟩ := createAlert_logged h
  exact keepsHistories_of_created hcreated (logs_of_append hlogs rfl)

/-- A resolution that returns has written its log row. -/
theorem resolveAlert_logged {latest : Option LatestTelemetry} {resolutionType : String}
    (h : resolveAlert py alert latest resolutionType user comment now db = (.ok result, db')) :
    ∃ log, db'.logs = db.logs ++ [log] ∧ log.alertEvent = alert.id ∧ log.action = .resolved ∧
      log.oldStatus = some alert.status ∧ log.newStatus = some .resolved := by
  obtain ⟨_, db₁, hsave, h⟩ := Tx.bind_eq_ok_iff.mp h
  obtain ⟨found, db₂, hread, h⟩ := Tx.bind_eq_ok_iff.mp h
  obtain ⟨-, rfl⟩ := Prod.mk.inj hread
  obtain ⟨_, db₃, hlog, h⟩ := Tx.bind_eq_ok_iff.mp h
  obtain ⟨-, rfl⟩ := Prod.mk.inj h
  have hsame : db₁.logs = db.logs := by
    rw [← congrArg (fun r => r.2.logs) hsave, logs_saveAlert]
  obtain rfl := createAlertLog_ok hlog
  exact ⟨_, congrArg (· ++ [_]) hsame, rfl, rfl, rfl, rfl⟩

theorem keepsHistories_resolveAlert {latest : Option LatestTelemetry} {resolutionType : String}
    (halert : alert ∈ db.alerts)
    (h : resolveAlert py alert latest resolutionType user comment now db = (.ok result, db')) :
    KeepsHistories db db' := by
  obtain ⟨hid, hstatus, hsaved⟩ := resolveAlert_ok h
  obtain ⟨log, hlogs, halertId, -, hold, hnew⟩ := resolveAlert_logged h
  have hlogged := @logs_of_append db db' log .resolved hlogs hnew
  rw [halertId, hold] at hlogged
  refine keepsHistories_of_saved hsaved halert hid hlogged ?_
  rw [hstatus]
  rfl

/-! ### Turns, evaluations and traps

A turn, the trap step and a trap are transactions, so only those that return matter, and
what these have written is one of a few functions that succeeded. -/

/-- A relation that the writes of these functions meet when they succeed. -/
structure AcrossWrites (py : PyText) (R : AlertsDb → AlertsDb → Prop) : Prop where
  same : ∀ {db db' : AlertsDb}, db'.logs = db.logs → db'.alerts = db.alerts → R db db'
  suppressAlert : ∀ {db db' alert user comment now result}, alert ∈ db.alerts →
    suppressAlert alert user comment now db = (.ok result, db') → R db db'
  updateActiveAlert : ∀ {db db' alert latest value threshold now result}, alert ∈ db.alerts →
    updateActiveAlert py alert latest value threshold now db = (.ok result, db') → R db db'
  openAlert : ∀ {db db' rule latest value threshold now createdAt result},
    openAlert py rule latest value threshold now createdAt db = (.ok result, db') → R db db'
  createSuppressedAlert : ∀ {db db' latest rule value threshold now createdAt result},
    createSuppressedAlert py latest rule value threshold now createdAt db =
      (.ok result, db') → R db db'
  resolveAlert : ∀ {db db' alert latest resolutionType user comment now result},
    alert ∈ db.alerts →
    resolveAlert py alert latest resolutionType user comment now db = (.ok result, db') → R db db'
  updateTrapAlert : ∀ {db db' trap alert result}, alert ∈ db.alerts →
    updateTrapAlert trap alert db = (.ok result, db') → R db db'
  openTrapAlert : ∀ {db db' trap createdAt result},
    openTrapAlert trap createdAt db = (.ok result, db') → R db db'

namespace AcrossWrites

variable {R : AlertsDb → AlertsDb → Prop}

theorem rel_resolveFound (hR : AcrossWrites py R) {clock : ℕ → Instant}
    {returned : Option AlertEvent}
    (h : resolveFound py latest rule (activeAlertForRule latest rule db) clock db =
      (.ok returned, db')) : R db db' := by
  cases hfound : activeAlertForRule latest rule db with
  | none =>
      rw [hfound] at h
      obtain rfl := (Prod.mk.inj h).2
      exact hR.same rfl rfl
  | some alert =>
      obtain ⟨halert, hactive⟩ := activeAlertForRule_some hfound
      rw [hfound, resolveFound_of_active hactive.1] at h
      obtain ⟨copy, hresolve, -⟩ := map_eq_ok_iff.mp h
      exact hR.resolveAlert halert hresolve

variable [IsPreorder AlertsDb R]

theorem respects_maybeCreateDurationAlert (hR : AcrossWrites py R) :
    Tx.Respects R (maybeCreateDurationAlert latest rule now) := by
  refine Tx.respects_bind (Tx.respects_bind (Tx.respects_read _) fun existing => ?_)
    fun state => Tx.respects_pure _
  refine Tx.respects_bind (fun db => ?_) fun _ => Tx.respects_pure _
  unfold saveConditionState
  split
  · exact hR.same rfl rfl
  · exact refl_of R db

theorem rel_ensureAlert (hR : AcrossWrites py R) {clock : ℕ → Instant}
    {returned : Option AlertEvent}
    (h : ensureAlert py latest rule value threshold (activeAlertForRule latest rule db) clock db =
      (.ok returned, db')) : R db db' := by
  obtain ⟨suppressed, db₁, hread, h⟩ := Tx.bind_eq_ok_iff.mp h
  obtain ⟨-, rfl⟩ := Prod.mk.inj hread
  cases hfound : activeAlertForRule latest rule db with
  | some alert =>
      obtain ⟨halert, -⟩ := activeAlertForRule_some hfound
      simp only [hfound] at h
      split at h
      · split at h
        · obtain ⟨copy, hsuppress, -⟩ := map_eq_ok_iff.mp h
          exact hR.suppressAlert halert hsuppress
        · obtain rfl := (Prod.mk.inj h).2
          exact refl_of R db
      · split at h
        · obtain ⟨copy, hupdate, -⟩ := map_eq_ok_iff.mp h
          exact hR.updateActiveAlert halert hupdate
        · obtain rfl := (Prod.mk.inj h).2
          exact refl_of R db
  | none =>
      simp only [hfound] at h
      split at h
      · obtain ⟨alert, hcreate, -⟩ := map_eq_ok_iff.mp h
        exact hR.createSuppressedAlert hcreate
      · obtain ⟨lasted, db₂, hduration, h⟩ := Tx.bind_eq_ok_iff.mp h
        have hstate := hR.respects_maybeCreateDurationAlert.of_eq hduration
        split at h
        · obtain ⟨alert, hopen, -⟩ := map_eq_ok_iff.mp h
          exact trans_of R hstate (hR.openAlert hopen)
        · obtain rfl := (Prod.mk.inj h).2
          exact hstate

/-- **An evaluation**, of which a turn and the trap step are parts. -/
theorem respects_evaluateLatest (hR : AcrossWrites py R) {cached : Option (List RuleId)}
    {clock : ℕ → ℕ → Instant} : Tx.Respects R (evaluateLatest py latest cached clock) := by
  refine DcimBackend.respects_evaluateLatest (fun rule clock => ?_) fun clock => ?_
  · refine Tx.respects_atomic_of_ok fun db returned db' h => ?_
    have h := Tx.atomic_eq_ok_iff.mp h
    split at h
    · exact hR.rel_ensureAlert h
    · exact hR.rel_resolveFound h
  · refine Tx.respects_atomic_of_ok fun db returned db' h => ?_
    have h := Tx.atomic_eq_ok_iff.mp h
    rcases resolveUpsTrapAlert_cases h with rfl | ⟨alert, copy, halert, -, hresolve⟩
    · exact refl_of R db'
    · exact hR.resolveAlert halert hresolve

/-- **A trap**. -/
theorem respects_createOrUpdateTrapAlert (hR : AcrossWrites py R) :
    Tx.Respects R (createOrUpdateTrapAlert trap createdAt) := by
  refine Tx.respects_atomic_of_ok fun db returned db' h => ?_
  obtain ⟨found, db₁, hread, h⟩ := Tx.bind_eq_ok_iff.mp (Tx.atomic_eq_ok_iff.mp h)
  obtain ⟨hfound, rfl⟩ := Prod.mk.inj hread
  cases found with
  | none => exact hR.openTrapAlert h
  | some existing =>
      have hexisting := (Table.mem_select.mp (List.argmax_mem (Except.ok.inj hfound))).1
      dsimp only at h
      split at h
      · exact hR.updateTrapAlert hexisting h
      · exact hR.openTrapAlert h

end AcrossWrites

theorem acrossWrites_keepsHistories : AcrossWrites py KeepsHistories where
  same := keepsHistories_of_alerts_eq
  suppressAlert := keepsHistories_suppressAlert
  updateActiveAlert := keepsHistories_updateActiveAlert
  openAlert := keepsHistories_openAlert
  createSuppressedAlert := keepsHistories_createSuppressedAlert
  resolveAlert := keepsHistories_resolveAlert
  updateTrapAlert := keepsHistories_updateTrapAlert
  openTrapAlert := keepsHistories_openTrapAlert

/-! ### Operations that may break a history

An acknowledgement logs its comment in front of itself; a manual resolution is not a
transaction; exact alerts write no log rows. -/

/-- The log row of a comment, if there is one. -/
def commentLogs (alert : AlertId) (status : AlertStatus) (user : Option UserId)
    (comment : Option String) : List AlertEventLog :=
  (pyOr comment none).toList.map fun text =>
    { alertEvent := alert
      action := .commented
      oldStatus := some status
      newStatus := some status
      actor := user
      message := some text }

theorem commentOn_spec {status : AlertStatus} :
    ∃ db', commentOn alert status user comment db = (.ok ⟨⟩, db') ∧ db'.alerts = db.alerts ∧
      db'.logs = db.logs ++ commentLogs alert.id status user comment := by
  unfold commentOn commentLogs
  cases pyOr comment none with
  | none => exact ⟨db, rfl, rfl, (List.append_nil _).symm⟩
  | some text =>
      refine ⟨_, (Tx.bind_of_ok rfl).trans (createAlertLog_eq_ok_iff.mpr ⟨⟨rfl, rfl⟩, rfl⟩), ?_, ?_⟩
      · rfl
      · rfl

theorem alertEvent_of_mem_commentLogs {id : AlertId} {status : AlertStatus} :
    ∀ log ∈ commentLogs id status user comment, log.alertEvent = id := by
  intro log hlog
  obtain ⟨text, -, rfl⟩ := List.mem_map.mp hlog
  rfl

/-- A comment leads from the status that it names back to it. -/
theorem logsLead_commentLogs {id : AlertId} {status : AlertStatus} :
    LogsLead (some status) (commentLogs id status user comment) status := by
  unfold commentLogs
  cases pyOr comment none with
  | none => rfl
  | some text => exact ⟨rfl, rfl⟩

/-- The log row of an acknowledgement. -/
def acknowledgementLog (alert : AlertId) (user : Option UserId) (comment : Option String) :
    AlertEventLog where
  alertEvent := alert
  action := .acknowledged
  oldStatus := some .open
  newStatus := some .acknowledged
  actor := user
  message := pyOr comment (some "Alert acknowledged")

/-- What an acknowledgement logs leads from one status to the other exactly if it has no
comment. -/
theorem logsLead_acknowledgement_iff {id : AlertId} :
    LogsLead (some .open)
        (commentLogs id .acknowledged user comment ++ [acknowledgementLog id user comment])
        .acknowledged ↔
      pyOr comment none = none := by
  unfold commentLogs
  cases pyOr comment none with
  | none => exact iff_of_true ⟨rfl, rfl⟩ rfl
  | some text =>
      -- the comment is logged as if the alert had been acknowledged before it
      refine iff_of_false (fun hleads => ?_) (by simp)
      have hfirst : some AlertStatus.acknowledged = some AlertStatus.open := hleads.1
      cases hfirst

/-- **An acknowledgement** of an open alert. -/
theorem acknowledgeAlert_logged (halert : alert ∈ db.alerts) (hopen : alert.status = .open) :
    ∃ db', acknowledgeAlert alert user comment now db =
        (.ok (alert.asAcknowledged user comment now), db') ∧
      db.Saved db' (alert.asAcknowledged user comment now)
        [.status, .acknowledgedBy, .acknowledgedAt, .acknowledgeComment] ∧
      db'.logs = db.logs ++ (commentLogs alert.id .acknowledged user comment ++
        [acknowledgementLog alert.id user comment]) := by
  have hfind : db.alerts.find (alert.asAcknowledged user comment now).id = some alert :=
    Table.find_pk halert
  obtain ⟨db₁, hsave, -, halerts₁⟩ := @saveAlert_of_find db _ alert
    [.status, .acknowledgedBy, .acknowledgedAt, .acknowledgeComment] hfind (by simp) (by simp)
  have hlogs₁ : db₁.logs = db.logs := by
    rw [← congrArg (fun r => r.2.logs) hsave, logs_saveAlert]
  obtain ⟨db₂, hcomment, halerts₂, hlogs₂⟩ := @commentOn_spec db₁
    (alert.asAcknowledged user comment now) user comment .acknowledged
  have hlog : createAlertLog (acknowledgementLog alert.id user comment) db₂ =
      (.ok ⟨⟩, db₂.putLog (acknowledgementLog alert.id user comment)) :=
    createAlertLog_eq_ok_iff.mpr ⟨⟨rfl, rfl⟩, rfl⟩
  rw [acknowledgeAlert, if_neg (not_not.mpr hopen)]
  refine ⟨_, (Tx.bind_of_ok hsave).trans ((Tx.bind_of_ok hcomment).trans (Tx.bind_of_ok hlog)),
    ?_, ?_⟩
  · exact ⟨alert, hfind, halerts₂.trans halerts₁⟩
  · rw [putLog, hlogs₂, hlogs₁, List.append_assoc]
    rfl

/-- Of the snapshot of a manual resolution, only the threshold may be refused. -/
theorem storable_valueSnapshot_none {threshold : PyValue} :
    (valueSnapshot py none .none threshold).storable = (Json.scalar threshold).storable := by
  by_cases hthreshold : threshold = .none
  · rw [hthreshold]
    rfl
  · simp [valueSnapshot, hthreshold, Dict.storable, Json.storableFields, scalarField]

/-- The threshold of the rule of an alert. -/
def thresholdOf (db : AlertsDb) (alert : AlertEvent) : PyValue :=
  (alert.alertRule.bind db.rules.find).elim .none thresholdFromRule

/-- The log row of a manual resolution. -/
def resolutionLog (py : PyText) (threshold : PyValue) (alert : AlertEvent)
    (user : Option UserId) (comment : Option String) : AlertEventLog where
  alertEvent := alert.id
  action := .resolved
  oldStatus := some alert.status
  newStatus := some .resolved
  actor := user
  message := pyOr comment (some "Alert resolved")
  valueSnapshot := valueSnapshot py none .none threshold
  metadata := [scalarField "resolution_type" (.text "MANUAL")]

/-- **A manual resolution**: the alert is resolved, and its log rows are written unless the
first of them is refused. -/
theorem manuallyResolveAlert_logged (halert : alert ∈ db.alerts)
    (hdb' : db' = (manuallyResolveAlert py alert user comment now db).2) :
    db.Saved db' (alert.asResolved "MANUAL" user comment now)
        [.status, .resolvedAt, .resolvedBy, .resolutionType, .resolveComment, .lastSeenAt] ∧
      db'.logs = db.logs ++
        if (Json.scalar (db.thresholdOf alert)).storable then
          resolutionLog py (db.thresholdOf alert) alert user comment ::
            commentLogs alert.id .resolved user comment
        else [] := by
  have hfind : db.alerts.find (alert.asResolved "MANUAL" user comment now).id = some alert :=
    Table.find_pk halert
  obtain ⟨db₁, hsave, hsetup, halerts₁⟩ := @saveAlert_of_find db _ alert
    [.status, .resolvedAt, .resolvedBy, .resolutionType, .resolveComment, .lastSeenAt] hfind
    (by simp) (by simp)
  have hlogs₁ : db₁.logs = db.logs := by
    rw [← congrArg (fun r => r.2.logs) hsave, logs_saveAlert]
  have hthreshold : db₁.thresholdOf alert = db.thresholdOf alert := by
    rw [thresholdOf, hsetup.rules, thresholdOf]
  have hresolve : resolveAlert py alert none "MANUAL" user comment now db =
      (do
        createAlertLog (resolutionLog py (db₁.thresholdOf alert) alert user comment)
        return alert.asResolved "MANUAL" user comment now : Engine AlertEvent) db₁ :=
    (Tx.bind_of_ok hsave).trans (Tx.bind_of_ok rfl)
  rw [hthreshold] at hresolve
  have hsnapshot : (resolutionLog py (db.thresholdOf alert) alert user
      comment).valueSnapshot.storable = (Json.scalar (db.thresholdOf alert)).storable :=
    storable_valueSnapshot_none
  split
  · rename_i hstorable
    have hlog := (@createAlertLog_eq_ok_iff db₁ _ ⟨⟩ _).mpr
      ⟨⟨hsnapshot.trans hstorable, rfl⟩, rfl⟩
    rw [Tx.bind_of_ok hlog] at hresolve
    obtain ⟨db₂, hcomment, halerts₂, hlogs₂⟩ := @commentOn_spec
      (db₁.putLog (resolutionLog py (db.thresholdOf alert) alert user comment))
      (alert.asResolved "MANUAL" user comment now) user comment .resolved
    rw [manuallyResolveAlert, Tx.bind_of_ok hresolve, Tx.bind_of_ok hcomment] at hdb'
    subst hdb'
    refine ⟨⟨alert, hfind, halerts₂.trans halerts₁⟩, hlogs₂.trans ?_⟩
    rw [putLog, hlogs₁, List.append_assoc]
    rfl
  · rename_i hrefused
    have hlog : createAlertLog (resolutionLog py (db.thresholdOf alert) alert user comment) db₁ =
        (.error .dataError, db₁) := by
      rw [createAlertLog, hsnapshot, Bool.of_not_eq_true hrefused]
      rfl
    rw [Tx.bind_of_error hlog] at hresolve
    rw [manuallyResolveAlert, Tx.bind_of_error hresolve] at hdb'
    subst hdb'
    refine ⟨⟨alert, hfind, halerts₁⟩, ?_⟩
    rw [hlogs₁, List.append_nil]

/-! ### What each operation does to the histories -/

/-- The operations that break a history. -/
def Breaks (db : AlertsDb) : AlertOperation → Prop
  | .acknowledgeAlert id _ comment _ =>
      ∃ alert ∈ db.alerts.find id, alert.status = .open ∧ pyOr comment none ≠ none
  | .manuallyResolveAlert id _ _ _ =>
      ∃ alert ∈ db.alerts.find id, alert.status ≠ .resolved ∧
        (Json.scalar (db.thresholdOf alert)).storable = false
  | .openOrUpdateExactAlert device metric _ _ =>
      ∀ alert ∈ db.alerts, isExactAlert device metric alert = false
  | .resolveExactAlert device metric _ =>
      ∃ alert ∈ db.alerts, isExactAlert device metric alert
  | _ => False

instance (db : AlertsDb) : (op : AlertOperation) → Decidable (db.Breaks op)
  | .acknowledgeAlert id _ comment _ =>
      inferInstanceAs (Decidable (∃ alert ∈ db.alerts.find id,
        alert.status = .open ∧ pyOr comment none ≠ none))
  | .manuallyResolveAlert id _ _ _ =>
      inferInstanceAs (Decidable (∃ alert ∈ db.alerts.find id, alert.status ≠ .resolved ∧
        (Json.scalar (db.thresholdOf alert)).storable = false))
  | .openOrUpdateExactAlert device metric _ _ =>
      inferInstanceAs (Decidable (∀ alert ∈ db.alerts, isExactAlert device metric alert = false))
  | .resolveExactAlert device metric _ =>
      inferInstanceAs (Decidable (∃ alert ∈ db.alerts, isExactAlert device metric alert))
  | .evaluateLatest _ _ _ | .suppressAlert _ _ _ _ | .createOrUpdateTrapAlert _ _
  | .saveRule _ | .deleteRule _ | .saveWindow _ => instDecidableFalse

variable {device : Device} {metric : MetricDefinition} {confirmationAt : Instant}

/-- An operation that keeps the histories breaks none. -/
theorem KeepsHistories.faithful_iff {p : Prop} (h : KeepsHistories db db')
    (hknown : db.LogsKnown) (hfaithful : db.Faithful) (hp : ¬p) :
    db'.LogsKnown ∧ (db'.Faithful ↔ ¬p) :=
  ⟨(h ⟨hknown, hfaithful⟩).1, iff_of_true (h ⟨hknown, hfaithful⟩).2 hp⟩

theorem faithful_acknowledgeAlert_iff (hknown : db.LogsKnown) (hfaithful : db.Faithful)
    (halert : alert ∈ db.alerts) (hdb' : db' = (acknowledgeAlert alert user comment now db).2) :
    db'.LogsKnown ∧ (db'.Faithful ↔ ¬(alert.status = .open ∧ pyOr comment none ≠ none)) := by
  by_cases hopen : alert.status = .open
  swap
  · rw [acknowledgeAlert, if_pos hopen] at hdb'
    subst hdb'
    exact ⟨hknown, iff_of_true hfaithful fun h => hopen h.1⟩
  obtain ⟨db₁, hrun, hsaved, hlogs⟩ :=
    @acknowledgeAlert_logged db alert user comment now halert hopen
  rw [hrun] at hdb'
  subst hdb'
  have hnew : ∀ log ∈ commentLogs alert.id .acknowledged user comment ++
      [acknowledgementLog alert.id user comment], log.alertEvent = alert.id := by
    intro log hlog
    rcases List.mem_append.mp hlog with hcommented | hlast
    · exact alertEvent_of_mem_commentLogs log hcommented
    · rw [List.mem_singleton.mp hlast]
      rfl
  obtain ⟨hknown', hiff⟩ := faithful_iff_of_saved hknown hfaithful hsaved halert rfl hlogs hnew
  refine ⟨hknown', hiff.trans ?_⟩
  rw [hopen]
  exact logsLead_acknowledgement_iff.trans (by simp)

theorem faithful_manuallyResolveAlert_iff (hknown : db.LogsKnown) (hfaithful : db.Faithful)
    (halert : alert ∈ db.alerts)
    (hdb' : db' = (manuallyResolveAlert py alert user comment now db).2) :
    db'.LogsKnown ∧ (db'.Faithful ↔ ¬(alert.status ≠ .resolved ∧
      (Json.scalar (db.thresholdOf alert)).storable = false)) := by
  obtain ⟨hsaved, hlogs⟩ := manuallyResolveAlert_logged halert hdb'
  split at hlogs
  · rename_i hstorable
    obtain ⟨hknown', hiff⟩ := faithful_iff_of_saved hknown hfaithful hsaved halert rfl hlogs
      (List.forall_mem_cons.mpr ⟨rfl, alertEvent_of_mem_commentLogs⟩)
    refine ⟨hknown', hiff.trans (iff_of_true ⟨rfl, logsLead_commentLogs⟩ ?_)⟩
    rw [hstorable]
    simp
  · rename_i hrefused
    obtain ⟨hknown', hiff⟩ := faithful_iff_of_saved hknown hfaithful hsaved halert rfl hlogs (by simp)
    refine ⟨hknown', hiff.trans ?_⟩
    rw [Bool.of_not_eq_true hrefused]
    -- nothing has been logged, so the status must have been the same before
    simp [AlertEvent.asResolved]

/-- The exact alert that is looked for, among the stored ones. -/
theorem exactAlert_cases :
    (∃ alert ∈ db.alerts, isExactAlert device metric alert ∧
        latestAlert (db.alerts.select (isExactAlert device metric)) = some alert) ∨
      (∀ alert ∈ db.alerts, isExactAlert device metric alert = false) ∧
        latestAlert (db.alerts.select (isExactAlert device metric)) = none := by
  cases hfound : latestAlert (db.alerts.select (isExactAlert device metric)) with
  | some alert =>
      obtain ⟨halert, hexact⟩ := Table.mem_select.mp (List.argmax_mem hfound)
      exact Or.inl ⟨alert, halert, hexact, rfl⟩
  | none =>
      refine Or.inr ⟨fun alert halert => ?_, rfl⟩
      rw [latestAlert_eq_none_iff, List.eq_nil_iff_forall_not_mem] at hfound
      rw [← Bool.not_eq_true]
      exact fun hexact => hfound alert (Table.mem_select.mpr ⟨halert, hexact⟩)

theorem faithful_openOrUpdateExactAlert_iff (hknown : db.LogsKnown) (hfaithful : db.Faithful)
    (hdb' : db' = (openOrUpdateExactAlert device metric confirmationAt createdAt db).2) :
    db'.LogsKnown ∧ (db'.Faithful ↔
      ¬∀ alert ∈ db.alerts, isExactAlert device metric alert = false) := by
  rcases @exactAlert_cases db device metric with ⟨alert, halert, hexact, hfound⟩ | ⟨hnone, hfound⟩
  · rw [openOrUpdateExactAlert, Tx.bind_apply, Tx.read_apply, hfound] at hdb'
    dsimp only at hdb'
    have hkeeps : KeepsHistories db db' := by
      rw [hdb']
      exact Tx.rel_bind (keepsHistories_saveAlert halert rfl (by simp)) fun _ => Tx.respects_pure _
    refine hkeeps.faithful_iff hknown hfaithful fun hnone => ?_
    rw [hnone alert halert] at hexact
    cases hexact
  · rw [openOrUpdateExactAlert, Tx.bind_apply, Tx.read_apply, hfound] at hdb'
    dsimp only at hdb'
    rw [Tx.bind_apply] at hdb'
    split at hdb'
    · rename_i alert db₁ hcreate
      subst hdb'
      obtain ⟨-, hcreated⟩ := createAlert_ok hcreate
      have hlogs : db'.logs = db.logs ++ [] := by
        rw [← congrArg (fun r => r.2.logs) hcreate, logs_createAlert, List.append_nil]
      obtain ⟨hknown', hiff⟩ :=
        faithful_iff_of_created hknown hfaithful hcreated hlogs (by simp)
      exact ⟨hknown', hiff.trans (iff_of_false (fun hleads => by cases hleads) fun h => h hnone)⟩
    · rename_i e db₁ herror
      exact (createAlert_ne_error herror rfl (by simp)).elim

theorem faithful_resolveExactAlert_iff (hknown : db.LogsKnown) (hfaithful : db.Faithful)
    (hdb' : db' = (resolveExactAlert device metric confirmationAt db).2) :
    db'.LogsKnown ∧ (db'.Faithful ↔
      ¬∃ alert ∈ db.alerts, isExactAlert device metric alert) := by
  rcases @exactAlert_cases db device metric with ⟨alert, halert, hexact, hfound⟩ | ⟨hnone, hfound⟩
  · rw [resolveExactAlert, Tx.bind_apply, Tx.read_apply, hfound] at hdb'
    dsimp only at hdb'
    rw [Tx.bind_apply] at hdb'
    split at hdb'
    · rename_i u db₁ hsave
      subst hdb'
      have hlogs : db'.logs = db.logs ++ [] := by
        rw [← congrArg (fun r => r.2.logs) hsave, logs_saveAlert, List.append_nil]
      obtain ⟨hknown', hiff⟩ := faithful_iff_of_saved hknown hfaithful (saveAlert_ok hsave) halert
        rfl hlogs (by simp)
      refine ⟨hknown', hiff.trans (iff_of_false (fun hleads => ?_) fun h =>
        h ⟨alert, halert, hexact⟩)⟩
      -- the alert was open
      simp only [isExactAlert, Bool.and_eq_true, decide_eq_true_eq] at hexact
      rw [if_pos (by simp), hexact.2] at hleads
      have hsame : some AlertStatus.open = some AlertStatus.resolved := hleads
      cases hsame
    · rename_i e db₁ herror
      have hfind : db.alerts.find alert.id = some alert := Table.find_pk halert
      exact (saveAlert_ne_error herror hfind (by simp) (by simp)).elim
  · rw [resolveExactAlert, Tx.bind_apply, Tx.read_apply, hfound] at hdb'
    subst hdb'
    refine ⟨hknown, iff_of_true hfaithful ?_⟩
    rintro ⟨alert, halert, hexact⟩
    rw [hnone alert halert] at hexact
    cases hexact

/-- The alerts of a deleted rule keep their status. -/
theorem keepsHistories_removeRule {rule : RuleId} : KeepsHistories db (db.removeRule rule) := by
  refine keepsHistories_of_same rfl (fun row hrow => ?_) fun row' hrow' => ?_
  · have hkept : row.unlinkRule rule ∈ (db.removeRule rule).alerts := by
      rw [removeRule, Table.mem_modify]
      exact ⟨row, hrow, rfl⟩
    exact ⟨_, hkept, AlertEvent.id_unlinkRule⟩
  · rw [removeRule, Table.mem_modify] at hrow'
    obtain ⟨row, hrow, rfl⟩ := hrow'
    exact ⟨row, hrow, AlertEvent.id_unlinkRule.symm, AlertEvent.status_unlinkRule.symm⟩

/-- An operation on a freshly loaded row, from what it does to a stored one. -/
theorem faithful_onAlert_iff {id : AlertId} {f : AlertEvent → Engine AlertEvent}
    {p : AlertEvent → Prop} (hknown : db.LogsKnown) (hfaithful : db.Faithful)
    (h : ∀ alert ∈ db.alerts, ∀ db', db' = (f alert db).2 →
      db'.LogsKnown ∧ (db'.Faithful ↔ ¬p alert)) :
    (db.onAlert id f).LogsKnown ∧
      ((db.onAlert id f).Faithful ↔ ¬∃ alert ∈ db.alerts.find id, p alert) := by
  unfold onAlert
  split
  · rename_i alert hfind
    obtain ⟨hknown', hiff⟩ := h alert (Table.find_eq_some_iff.mp hfind).1 _ rfl
    refine ⟨hknown', hiff.trans (not_congr ?_)⟩
    simp [hfind]
  · rename_i hnone
    refine ⟨hknown, iff_of_true hfaithful ?_⟩
    simp [hnone]

/-- **What an operation does to the histories**: those of `Breaks` break one, and all others
keep them all. -/
theorem faithful_operate_iff (hknown : db.LogsKnown) (hfaithful : db.Faithful)
    (op : AlertOperation) :
    (db.operate py op).LogsKnown ∧ ((db.operate py op).Faithful ↔ ¬db.Breaks op) := by
  cases op with
  | evaluateLatest latest cached clock =>
      exact (acrossWrites_keepsHistories.respects_evaluateLatest db).faithful_iff hknown hfaithful id
  | acknowledgeAlert id user comment now =>
      exact faithful_onAlert_iff hknown hfaithful fun alert halert db' =>
        faithful_acknowledgeAlert_iff hknown hfaithful halert
  | manuallyResolveAlert id user comment now =>
      exact faithful_onAlert_iff hknown hfaithful fun alert halert db' =>
        faithful_manuallyResolveAlert_iff hknown hfaithful halert
  | suppressAlert id user reason now =>
      refine KeepsHistories.faithful_iff ?_ hknown hfaithful not_false
      simp only [operate, onAlert]
      split
      · rename_i alert hfind
        have halert := (Table.find_eq_some_iff.mp hfind).1
        obtain ⟨result, db', hsuppress⟩ := @exists_suppressAlert db alert user reason now halert
        rw [hsuppress]
        exact keepsHistories_suppressAlert halert hsuppress
      · exact refl_of KeepsHistories db
  | createOrUpdateTrapAlert trap createdAt =>
      exact (@AcrossWrites.respects_createOrUpdateTrapAlert py _ _ _ _ acrossWrites_keepsHistories
        db).faithful_iff hknown hfaithful id
  | openOrUpdateExactAlert device metric confirmationAt createdAt =>
      exact faithful_openOrUpdateExactAlert_iff hknown hfaithful rfl
  | resolveExactAlert device metric confirmationAt =>
      exact faithful_resolveExactAlert_iff hknown hfaithful rfl
  | saveRule rule =>
      refine KeepsHistories.faithful_iff ?_ hknown hfaithful id
      simp only [operate, saveRule]
      split
      · exact keepsHistories_of_alerts_eq rfl rfl
      · exact refl_of KeepsHistories db
  | deleteRule rule => exact keepsHistories_removeRule.faithful_iff hknown hfaithful id
  | saveWindow window =>
      refine KeepsHistories.faithful_iff ?_ hknown hfaithful id
      simp only [operate, saveWindow]
      split
      · exact keepsHistories_of_alerts_eq rfl rfl
      · exact refl_of KeepsHistories db

end Functions

end AlertsDb

/-! ### Runs -/

/-- An operation on an alert: one of the engine, or an escalation of its stored row. -/
inductive HistoryOperation
  | operate (op : AlertOperation)
  | escalate (alert : AlertId) (policy : AlertEscalationPolicy) (now : Instant)
      (fails : EscalationPoint → Bool)

namespace EscalationSetup

open AlertsDb

variable {setup : EscalationSetup} {db : EscalationDb}

variable (setup) in
/-- The state after an operation, whether it returned or raised. -/
def perform (db : EscalationDb) : HistoryOperation → EscalationDb
  | .operate op => { db with alerts := db.alerts.operate setup.py op }
  | .escalate alert policy now fails =>
      match db.alerts.alerts.find alert with
      | some alert => (setup.escalateAlert fails alert policy now db).2
      | none => db

/-- The operation breaks no history. -/
def PerformsFaithfully (db : EscalationDb) : HistoryOperation → Prop
  | .operate op => ¬db.alerts.Breaks op
  | .escalate _ _ _ _ => True

/-- **What an escalation writes** of the alerts: nothing, or the metadata of its alert, and with
it a log row or none. -/
theorem escalateAlert_logged {alert : AlertEvent} {policy : AlertEscalationPolicy}
    {now : Instant} {fails : EscalationPoint → Bool} {db' : AlertsDb}
    (halert : alert ∈ db.alerts.alerts)
    (hdb' : db' = (setup.escalateAlert fails alert policy now db).2.alerts) :
    db' = db.alerts ∨ ∃ metadata,
      db.alerts.Saved db' (alert.withMetadata metadata) [.metadata] ∧
        (db'.logs = db.alerts.logs ∨ db'.logs =
          db.alerts.logs ++
            [escalationLog setup.py.upper alert policy (setup.deviceName alert)]) := by
  rcases hmetadata : escalationMetadata setup.py alert.metadata policy.id now with e | _ | metadata
  · rw [escalateAlert, hmetadata] at hdb'
    exact Or.inl hdb'
  · rw [escalateAlert, hmetadata] at hdb'
    exact Or.inl hdb'
  obtain ⟨saved, hsave, -, hlogs, hrun⟩ :=
    @escalateAlert_of_new setup fails alert policy now db metadata halert hmetadata
  rw [hrun] at hdb'
  split at hdb'
  · exact Or.inl hdb'
  right
  obtain ⟨stored, hfind, hrow⟩ := saveAlert_ok hsave
  split at hdb'
  · subst hdb'
    exact ⟨metadata, ⟨stored, hfind, hrow⟩, Or.inl hlogs⟩
  -- the notifications leave the alerts as they are
  have halerts : ∀ r after, setup.createNotificationsForAlertEscalated fails
      (alert.withMetadata metadata) policy now { db with
        alerts := saved.putLog
          (escalationLog setup.py.upper alert policy (setup.deviceName alert)) } =
          (r, after) →
      after.alerts = saved.putLog
        (escalationLog setup.py.upper alert policy (setup.deviceName alert)) :=
    fun r after hnotify => sameAlerts_createNotificationsForAlertEscalated.of_eq hnotify
  have hlogged : (saved.putLog
      (escalationLog setup.py.upper alert policy (setup.deviceName alert))).logs =
      db.alerts.logs ++ [escalationLog setup.py.upper alert policy (setup.deviceName alert)] := by
    rw [putLog, hlogs]
  refine ⟨metadata, ?_⟩
  split at hdb'
  · rename_i hnotify
    rw [halerts _ _ hnotify] at hdb'
    subst hdb'
    exact ⟨⟨stored, hfind, hrow⟩, Or.inr hlogged⟩
  · rename_i hnotify
    rw [halerts _ _ hnotify] at hdb'
    subst hdb'
    exact ⟨⟨stored, hfind, hrow⟩, Or.inr hlogged⟩

/-- An escalation leaves the status of the alert, and logs it twice. -/
theorem keepsHistories_escalateAlert {alert : AlertEvent} {policy : AlertEscalationPolicy}
    {now : Instant} {fails : EscalationPoint → Bool} (halert : alert ∈ db.alerts.alerts) :
    KeepsHistories db.alerts (setup.escalateAlert fails alert policy now db).2.alerts := by
  obtain hsame | ⟨metadata, hsaved, hlogs | hlogs⟩ :=
    @escalateAlert_logged setup db alert policy now fails _ halert rfl
  · rw [hsame]
    exact refl_of KeepsHistories db.alerts
  · exact keepsHistories_of_saved hsaved halert rfl (logs_of_eq hlogs) rfl
  · have hlogged := @logs_of_append db.alerts _ _ alert.status hlogs rfl
    exact keepsHistories_of_saved hsaved halert rfl hlogged rfl

/-- **The log is a faithful history** through a run exactly if no operation of the run breaks
one. -/
theorem faithful_run_iff (hempty : db.alerts.alerts.rows = []) (hlogs : db.alerts.logs = [])
    (w : List HistoryOperation) :
    (∀ u v, w = u ++ v → (run setup.perform db u).alerts.Faithful) ↔
      Along setup.perform (fun before op _ => PerformsFaithfully before op) db w := by
  have hstep : ∀ (before : EscalationDb) (op : HistoryOperation), before.alerts.LogsKnown →
      before.alerts.Faithful → (setup.perform before op).alerts.LogsKnown ∧
        ((setup.perform before op).alerts.Faithful ↔ PerformsFaithfully before op) := by
    intro before op hknown hfaithful
    cases op with
    | operate op => exact faithful_operate_iff hknown hfaithful op
    | escalate alert policy now fails =>
        simp only [perform]
        split
        · rename_i alert hfind
          have halert := (Table.find_eq_some_iff.mp hfind).1
          obtain ⟨hknown', hfaithful'⟩ := keepsHistories_escalateAlert halert ⟨hknown, hfaithful⟩
          exact ⟨hknown', iff_of_true hfaithful' trivial⟩
        · exact ⟨hknown, iff_of_true hfaithful trivial⟩
  refine always_iff_along (I := fun db => db.alerts.LogsKnown) (fun before op _ hknown hfaithful =>
    (hstep before op hknown hfaithful).1) (fun before op _ hknown hfaithful =>
    (hstep before op hknown hfaithful).2) ?_ ?_
  · intro log hlog
    rw [hlogs] at hlog
    cases hlog
  · intro alert halert
    rw [Table.mem_def, hempty] at halert
    cases halert

/-! ### An acknowledgement with a comment -/

/-- The server room, without notifications. -/
def serverRoomDb : EscalationDb := ⟨serverRoom, .empty⟩

/-- An alert is opened, acknowledged, and resolved with a comment. -/
def acknowledgedAndResolved : List HistoryOperation :=
  [.operate (.evaluateLatest hotRow none fun _ _ => 0),
    .operate (.acknowledgeAlert 0 (some 1) none 0),
    .operate (.manuallyResolveAlert 0 (some 1) (some "Issue cleared") 0)]

theorem acknowledgedAndResolved_faithful :
    (run (nobody []).perform serverRoomDb acknowledgedAndResolved).alerts.Faithful :=
  (faithful_run_iff rfl rfl acknowledgedAndResolved).mpr (by
    refine ⟨id, ?_, ?_, trivial⟩
    · unfold PerformsFaithfully
      decide
    · unfold PerformsFaithfully
      decide) acknowledgedAndResolved [] (List.append_nil _).symm

/-- An alert is opened, and acknowledged with a comment. -/
def acknowledgedWithComment : List HistoryOperation :=
  [.operate (.evaluateLatest hotRow none fun _ _ => 0),
    .operate (.acknowledgeAlert 0 (some 1) (some "Checking device") 0)]

theorem acknowledgedWithComment_unfaithful :
    ¬∀ u v, acknowledgedWithComment = u ++ v →
      (run (nobody []).perform serverRoomDb u).alerts.Faithful := by
  intro hclaim
  have hempty : serverRoom.LogsKnown ∧ serverRoom.Faithful := by
    constructor
    · intro log hlog
      cases hlog
    · intro alert halert
      cases halert
  obtain ⟨hknown, hfaithful⟩ : hotServerRoom.LogsKnown ∧ hotServerRoom.Faithful :=
    acrossWrites_keepsHistories.respects_evaluateLatest serverRoom hempty
  have hbreaks : hotServerRoom.Breaks
      (.acknowledgeAlert 0 (some 1) (some "Checking device") 0) := by decide
  have hbroken := (@faithful_operate_iff hotServerRoom plainText hknown hfaithful _).2.not.mpr
    (not_not.mpr hbreaks)
  exact hbroken (hclaim acknowledgedWithComment [] rfl)

end EscalationSetup

end DcimBackend
