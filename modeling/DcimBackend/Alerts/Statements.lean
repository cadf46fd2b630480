import DcimBackend.Alerts.Models

/-!
# Statements on the alert tables

The statements that the alert engine executes, each as one step on `AlertsDb`.  What
PostgreSQL refuses is an error that leaves the database as it is: a value that a
column cannot hold, a foreign key to a missing row, and an update that finds no row.

An alert is only ever written by `putAlert`: `createAlert` saves a row under a fresh
key, and `saveAlert` the stored row with some columns replaced.  Proofs about the
engine read a statement through `*_eq_ok_iff` and never unfold it.

Every statement is total: it returns and has written, or raises one of the `EngineError`s and has
written nothing.  What is left out is what no function of the engine can meet, such as a deadlock,
and whether a failed statement leaves its transaction usable; `Tx.atomic` rolls the turn back
either way.
-/

namespace DcimBackend

open Library

/-- What a statement, or the code between statements, raises. -/
inductive EngineError
  /-- A column cannot hold the value. -/
  | dataError
  /-- A foreign key refers to no row. -/
  | integrityError
  /-- `save(update_fields=...)` found no row. -/
  | notAffected
  /-- `int()` of an infinity. -/
  | overflowError
  /-- An attribute of `None`, or of a value that has no such attribute. -/
  | attributeError
  /-- An operator on a value that does not support it. -/
  | typeError
deriving DecidableEq

/-- A computation of the engine. -/
abbrev Engine := Tx EngineError AlertsDb

/-- `on_delete=SET_NULL` of `AlertEvent.alert_rule`. -/
def AlertEvent.unlinkRule (id : RuleId) (alert : AlertEvent) : AlertEvent :=
  if alert.alertRule = some id then { alert with alertRule := none } else alert

section UnlinkRule

variable {id : RuleId} {alert : AlertEvent}

@[simp] theorem AlertEvent.id_unlinkRule : (alert.unlinkRule id).id = alert.id := by
  unfold AlertEvent.unlinkRule
  split <;> rfl

@[simp] theorem AlertEvent.status_unlinkRule :
    (alert.unlinkRule id).status = alert.status := by
  unfold AlertEvent.unlinkRule
  split <;> rfl

theorem AlertEvent.storable_unlinkRule : (alert.unlinkRule id).storable = alert.storable := by
  unfold AlertEvent.unlinkRule
  split <;> rfl

theorem AlertEvent.alertRule_unlinkRule {rule : RuleId} :
    (alert.unlinkRule id).alertRule = some rule ↔ rule ≠ id ∧ alert.alertRule = some rule := by
  unfold AlertEvent.unlinkRule
  split
  · rename_i hid
    simp only [reduceCtorEq, hid, Option.some.injEq, false_iff, not_and]
    exact fun hne heq => hne heq.symm
  · rename_i hid
    refine ⟨fun h => ⟨?_, h⟩, And.right⟩
    rintro rfl
    exact hid h

/-- An unlinked alert belongs to no key; the others keep theirs. -/
theorem AlertEvent.hasKey_unlinkRule {key : ConditionKey} :
    (alert.unlinkRule id).HasKey key ↔ alert.HasKey key ∧ key.alertRule ≠ id := by
  unfold AlertEvent.unlinkRule
  split
  · rename_i hid
    simp only [AlertEvent.HasKey, hid, reduceCtorEq, and_false, Option.some.injEq, false_iff,
      not_and, not_not]
    rintro ⟨-, -, -, -, heq⟩
    exact heq.symm
  · rename_i hid
    refine ⟨fun h => ⟨h, ?_⟩, And.left⟩
    rintro rfl
    exact hid h.2.2.2.2

end UnlinkRule

namespace AlertsDb

variable (db : AlertsDb)

/-- Save an alert under its key. -/
def putAlert (row : AlertEvent) (hstorable : row.storable)
    (hrule : ∀ rule ∈ row.alertRule, (db.rules.find rule).isSome) : AlertsDb :=
  { db with
    alerts := db.alerts.save row
    alert_rule := by
      intro alert halert
      rcases Table.mem_save.mp (Table.mem_def.mpr halert) with rfl | ⟨hold, -⟩
      · exact hrule
      · exact db.alert_rule alert hold
    alert_storable := by
      intro alert halert
      rcases Table.mem_save.mp (Table.mem_def.mpr halert) with rfl | ⟨hold, -⟩
      · exact hstorable
      · exact db.alert_storable alert hold }

/-- Add a log row. -/
def putLog (log : AlertEventLog) : AlertsDb := { db with logs := db.logs ++ [log] }

/-- Add a comment. -/
def putComment (comment : AlertComment) : AlertsDb :=
  { db with comments := db.comments ++ [comment] }

/-- The condition state of a key. -/
def findConditionState (key : ConditionKey) : Option AlertConditionState :=
  db.conditionStates.find? fun state => state.key = key

/-- Save a condition state under its key. -/
def putConditionState (state : AlertConditionState)
    (hrule : (db.rules.find state.alertRule).isSome) : AlertsDb :=
  { db with
    conditionStates := db.conditionStates.filter (fun other => other.key ≠ state.key) ++ [state]
    conditionState_rule := by
      intro other hother
      rcases List.mem_append.mp hother with hold | hnew
      · exact db.conditionState_rule other (List.mem_of_mem_filter hold)
      · rw [List.mem_singleton.mp hnew]
        exact hrule
    conditionState_unique := nodup_upsert db.conditionState_unique }

/-- Delete the condition state of a key. -/
def removeConditionState (key : ConditionKey) : AlertsDb :=
  { db with
    conditionStates := db.conditionStates.filter fun state => state.key ≠ key
    conditionState_rule := fun state hstate =>
      db.conditionState_rule state (List.mem_of_mem_filter hstate)
    conditionState_unique :=
      (List.filter_sublist.map _).nodup db.conditionState_unique }

/-- Where no condition state has the key, there is nothing to delete. -/
theorem removeConditionState_of_none {db : AlertsDb} {key : ConditionKey}
    (h : db.findConditionState key = none) : db.removeConditionState key = db := by
  have hkeep : db.conditionStates.filter (fun state => state.key ≠ key) = db.conditionStates := by
    rw [List.filter_eq_self]
    intro state hstate
    simpa using List.find?_eq_none.mp h state hstate
  cases db
  simp only [removeConditionState, AlertsDb.mk.injEq, true_and, and_true]
  exact hkeep

/-- Save a rule under its key. -/
def putRule (rule : AlertRule) : AlertsDb :=
  { db with
    rules := db.rules.save rule
    alert_rule := fun alert halert id hid =>
      Table.isSome_find_save (db.alert_rule alert halert id hid)
    conditionState_rule := fun state hstate =>
      Table.isSome_find_save (db.conditionState_rule state hstate) }

/-- Delete a rule: its alerts lose their rule, its condition states are deleted. -/
def removeRule (id : RuleId) : AlertsDb :=
  { db with
    rules := db.rules.filter fun rule => pk rule ≠ id
    alerts := db.alerts.modify (AlertEvent.unlinkRule id) (by simp)
    conditionStates := db.conditionStates.filter fun state => state.alertRule ≠ id
    alert_rule := by
      intro alert halert rule hrule
      obtain ⟨old, hold, rfl⟩ := Table.mem_modify.mp (Table.mem_def.mpr halert)
      obtain ⟨hne, hkept⟩ := AlertEvent.alertRule_unlinkRule.mp hrule
      exact Table.isSome_find_filter (db.alert_rule old hold rule hkept) hne
    conditionState_rule := by
      intro state hstate
      obtain ⟨hold, hne⟩ := List.mem_filter.mp hstate
      exact Table.isSome_find_filter (db.conditionState_rule state hold) (by simpa using hne)
    alert_storable := by
      intro alert halert
      obtain ⟨old, hold, rfl⟩ := Table.mem_modify.mp (Table.mem_def.mpr halert)
      rw [AlertEvent.storable_unlinkRule]
      exact db.alert_storable old hold
    conditionState_unique :=
      (List.filter_sublist.map _).nodup db.conditionState_unique }

/-- Save a suppression window under its key. -/
def putWindow (window : AlertSuppressionWindow) : AlertsDb :=
  { db with windows := db.windows.save window }

/-! ### What the writes leave alone -/

/-- The rules, the windows and what rules refer to are the same: what evaluation
never changes. -/
structure SameSetup (db db' : AlertsDb) : Prop where
  hierarchy : db'.hierarchy = db.hierarchy
  deviceTypes : db'.deviceTypes = db.deviceTypes
  metrics : db'.metrics = db.metrics
  rules : db'.rules = db.rules
  windows : db'.windows = db.windows

instance : IsPreorder AlertsDb SameSetup where
  refl _ := ⟨rfl, rfl, rfl, rfl, rfl⟩
  trans _ _ _ h h' :=
    ⟨h'.hierarchy.trans h.hierarchy, h'.deviceTypes.trans h.deviceTypes,
      h'.metrics.trans h.metrics, h'.rules.trans h.rules, h'.windows.trans h.windows⟩

end AlertsDb

/-! ### Statements -/

/-- `row.save()` without `update_fields`: every column is written. -/
def saveAlertRow (row : AlertEvent) : Engine Unit := fun db =>
  if hstorable : row.storable then
    if hrule : ∀ rule ∈ row.alertRule, (db.rules.find rule).isSome then
      (.ok ⟨⟩, db.putAlert row hstorable hrule)
    else (.error .integrityError, db)
  else (.error .dataError, db)

/-- `AlertEvent.objects.create`. -/
def createAlert (row : AlertEvent) : Engine AlertEvent := fun db =>
  let alert := { row with id := db.alerts.nextPk }
  (do
    saveAlertRow alert
    return alert) db

/-- `copy.save(update_fields=columns)`. -/
def saveAlert (copy : AlertEvent) (columns : List AlertColumn) : Engine Unit := fun db =>
  match db.alerts.find copy.id with
  | some stored => saveAlertRow (AlertEvent.write columns copy stored) db
  | none => (.error .notAffected, db)

/-- `create_alert_log`. -/
def createAlertLog (log : AlertEventLog) : Engine Unit :=
  if log.valueSnapshot.storable && log.metadata.storable then
    Tx.modify fun db => db.putLog log
  else Tx.raise .dataError

/-- `AlertComment.objects.create`. -/
def createComment (comment : AlertComment) : Engine Unit :=
  Tx.modify fun db => db.putComment comment

/-- Insert or update a condition state. -/
def saveConditionState (state : AlertConditionState) : Engine Unit := fun db =>
  if hrule : (db.rules.find state.alertRule).isSome then
    (.ok ⟨⟩, db.putConditionState state hrule)
  else (.error .integrityError, db)

/-! ### What a successful statement has done -/

namespace AlertsDb

/-- `copy.save(update_fields=columns)` has been executed. -/
def Saved (db db' : AlertsDb) (copy : AlertEvent) (columns : List AlertColumn) : Prop :=
  ∃ stored, db.alerts.find copy.id = some stored ∧
    db'.alerts = db.alerts.save (AlertEvent.write columns copy stored)

/-- The alert has been inserted. -/
def Created (db db' : AlertsDb) (alert : AlertEvent) : Prop :=
  alert.id = db.alerts.nextPk ∧ db'.alerts = db.alerts.save alert

end AlertsDb

section Specifications

variable {db db' : AlertsDb} {u : Unit}

theorem saveAlertRow_ok {row : AlertEvent} (h : saveAlertRow row db = (.ok u, db')) :
    db'.alerts = db.alerts.save row := by
  unfold saveAlertRow at h
  split at h
  · split at h
    · obtain rfl := (Prod.mk.inj h).2
      rfl
    · cases (Prod.mk.inj h).1
  · cases (Prod.mk.inj h).1

theorem saveAlertRow_apply {row : AlertEvent} (hstorable : row.storable)
    (hrule : ∀ rule ∈ row.alertRule, (db.rules.find rule).isSome) :
    saveAlertRow row db = (.ok ⟨⟩, db.putAlert row hstorable hrule) := by
  rw [saveAlertRow, dif_pos hstorable, dif_pos hrule]

theorem createAlert_ok {row alert : AlertEvent} (h : createAlert row db = (.ok alert, db')) :
    alert = { row with id := db.alerts.nextPk } ∧ db.Created db' alert := by
  obtain ⟨_, db₁, hsave, h⟩ := Tx.bind_eq_ok_iff.mp h
  obtain ⟨⟨rfl⟩, rfl⟩ := Prod.mk.inj h
  exact ⟨rfl, rfl, saveAlertRow_ok hsave⟩

/-- A row that its columns can hold, of a stored rule or of none, can be inserted. -/
theorem createAlert_of_storable {row : AlertEvent} (hstorable : row.storable)
    (hrule : ∀ rule ∈ row.alertRule, (db.rules.find rule).isSome) :
    ∃ db', createAlert row db = (.ok { row with id := db.alerts.nextPk }, db') := by
  have hnew : ({ row with id := db.alerts.nextPk } : AlertEvent).storable := hstorable
  exact ⟨db.putAlert _ hnew hrule, Tx.bind_of_ok (saveAlertRow_apply hnew hrule)⟩

/-- Such a row is not refused. -/
theorem createAlert_ne_error {row : AlertEvent} {e : EngineError}
    (h : createAlert row db = (.error e, db')) (hstorable : row.storable)
    (hrule : ∀ rule ∈ row.alertRule, (db.rules.find rule).isSome) : False := by
  obtain ⟨db₁, hok⟩ := createAlert_of_storable hstorable hrule
  rw [hok] at h
  cases (Prod.mk.inj h).1

theorem saveAlert_ok {copy : AlertEvent} {columns : List AlertColumn}
    (h : saveAlert copy columns db = (.ok u, db')) : db.Saved db' copy columns := by
  unfold saveAlert at h
  split at h
  · rename_i stored hfind
    exact ⟨stored, hfind, saveAlertRow_ok h⟩
  · cases (Prod.mk.inj h).1

/-- A save that is refused changes nothing. -/
theorem saveAlert_error {copy : AlertEvent} {columns : List AlertColumn} {e : EngineError}
    (h : saveAlert copy columns db = (.error e, db')) : db' = db := by
  unfold saveAlert saveAlertRow at h
  split at h
  · split at h
    · split at h
      · cases (Prod.mk.inj h).1
      · exact (Prod.mk.inj h).2.symm
    · exact (Prod.mk.inj h).2.symm
  · exact (Prod.mk.inj h).2.symm

/-- Statements on alerts write no log row. -/
theorem logs_saveAlertRow {row : AlertEvent} : (saveAlertRow row db).2.logs = db.logs := by
  unfold saveAlertRow
  split
  · split <;> rfl
  · rfl

theorem logs_saveAlert {copy : AlertEvent} {columns : List AlertColumn} :
    (saveAlert copy columns db).2.logs = db.logs := by
  unfold saveAlert
  split
  · exact logs_saveAlertRow
  · rfl

theorem logs_createAlert {row : AlertEvent} : (createAlert row db).2.logs = db.logs := by
  have hrow := @logs_saveAlertRow db { row with id := db.alerts.nextPk }
  rcases hsave : saveAlertRow { row with id := db.alerts.nextPk } db with ⟨e | u, db'⟩
  · rw [hsave] at hrow
    rw [createAlert, Tx.bind_of_error hsave]
    exact hrow
  · rw [hsave] at hrow
    rw [createAlert, Tx.bind_of_ok hsave]
    exact hrow

/-- An insertion that is refused changes nothing. -/
theorem createAlert_error {row : AlertEvent} {e : EngineError}
    (h : createAlert row db = (.error e, db')) : db' = db := by
  unfold createAlert at h
  rcases hsave : saveAlertRow { row with id := db.alerts.nextPk } db with ⟨e | u, db₁⟩
  · rw [Tx.bind_of_error hsave] at h
    obtain rfl := (Prod.mk.inj h).2
    unfold saveAlertRow at hsave
    split at hsave
    · split at hsave
      · cases (Prod.mk.inj hsave).1
      · exact (Prod.mk.inj hsave).2.symm
    · exact (Prod.mk.inj hsave).2.symm
  · rw [Tx.bind_of_ok hsave] at h
    cases (Prod.mk.inj h).1

theorem sameSetup_saveAlertRow {row : AlertEvent} :
    Tx.Respects AlertsDb.SameSetup (saveAlertRow row) := by
  intro db
  unfold saveAlertRow
  split
  · split
    · exact ⟨rfl, rfl, rfl, rfl, rfl⟩
    · exact refl_of AlertsDb.SameSetup _
  · exact refl_of AlertsDb.SameSetup _

theorem sameSetup_saveAlert {copy : AlertEvent} {columns : List AlertColumn} :
    Tx.Respects AlertsDb.SameSetup (saveAlert copy columns) := by
  intro db
  unfold saveAlert
  split
  · exact sameSetup_saveAlertRow db
  · exact refl_of AlertsDb.SameSetup _

/-- Columns other than the metadata and the count can be saved on any stored row. -/
theorem saveAlert_of_find {copy stored : AlertEvent} {columns : List AlertColumn}
    (hfind : db.alerts.find copy.id = some stored) (hmetadata : .metadata ∉ columns)
    (hcount : .occurrenceCount ∉ columns) :
    ∃ db', saveAlert copy columns db = (.ok ⟨⟩, db') ∧ db.SameSetup db' ∧
      db'.alerts = db.alerts.save (AlertEvent.write columns copy stored) := by
  obtain ⟨hmem, -⟩ := Table.find_eq_some_iff.mp hfind
  have hstorable : (AlertEvent.write columns copy stored).storable := by
    simpa [AlertEvent.storable, AlertEvent.write, hmetadata, hcount] using
      db.alert_storable stored hmem
  refine ⟨db.putAlert _ hstorable (db.alert_rule stored hmem), ?_, ⟨rfl, rfl, rfl, rfl, rfl⟩,
    rfl⟩
  simp only [saveAlert, hfind]
  exact saveAlertRow_apply hstorable (db.alert_rule stored hmem)

/-- Such a save is not refused. -/
theorem saveAlert_ne_error {copy stored : AlertEvent} {columns : List AlertColumn}
    {e : EngineError} (h : saveAlert copy columns db = (.error e, db'))
    (hfind : db.alerts.find copy.id = some stored) (hmetadata : .metadata ∉ columns)
    (hcount : .occurrenceCount ∉ columns) : False := by
  obtain ⟨db₁, hok, -⟩ := saveAlert_of_find hfind hmetadata hcount
  rw [hok] at h
  cases (Prod.mk.inj h).1

/-- A log row is added exactly if both of its JSON columns can be stored. -/
theorem createAlertLog_eq_ok_iff {log : AlertEventLog} :
    createAlertLog log db = (.ok u, db') ↔
      (log.valueSnapshot.storable ∧ log.metadata.storable) ∧ db' = db.putLog log := by
  unfold createAlertLog
  rw [← Bool.and_eq_true]
  split
  · rename_i hstorable
    simp [hstorable, eq_comm]
  · rename_i hstorable
    simp [hstorable]

theorem createAlertLog_ok {log : AlertEventLog} (h : createAlertLog log db = (.ok u, db')) :
    db' = db.putLog log := (createAlertLog_eq_ok_iff.mp h).2

theorem saveConditionState_ok {state : AlertConditionState}
    (h : saveConditionState state db = (.ok u, db')) :
    ∃ hrule, db' = db.putConditionState state hrule := by
  unfold saveConditionState at h
  split at h
  · rename_i hrule
    exact ⟨hrule, (Prod.mk.inj h).2.symm⟩
  · cases (Prod.mk.inj h).1

end Specifications

end DcimBackend
