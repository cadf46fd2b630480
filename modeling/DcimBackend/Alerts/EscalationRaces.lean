import DcimBackend.Alerts.EscalationRuns
import Mathlib.Logic.Function.Basic

/-!
# Escalations at the same time

The writers of the metadata of one alert.  An escalation run loads the alert, and saves the
whole column from this copy when its turn comes, and then writes the log row.
`update_active_alert` and `create_or_update_trap_alert` lock the row before they read it, so
each of them is one step on what is stored.

Runs that come one after another do what `escalate_alert` does, each on what the one before it
has left: `run_serialRuns`.  If they overlap, a save from a copy that lacks something undoes it.
Along a run in which no escalation saves such a copy, nothing is lost, and no policy escalates
the alert twice: `losesNothing_run`.

A worker is somewhere between its load and its log row (`EscalationTurn`), with the copy that it
has loaded.  The database and all workers are one state, on which any worker may take the next
step, so a theorem about a run is one about every interleaving.  A run that dies leaves what it
has saved.

The condition is on each save (`UpToDate`): it compares the copy with what is stored at that
moment, and not with what was stored when the copy was loaded.
-/

namespace DcimBackend

open Library

/-! ### The steps -/

/-- How far a run has come with the alert. -/
inductive EscalationTurn
  | idle
  /-- It has loaded the alert. -/
  | loaded (run : EscalationRun) (copy : AlertEvent)
  /-- It has saved the record. -/
  | saved (copy : AlertEvent) (policy : AlertEscalationPolicy)

/-- The committed database, and the runs. -/
structure EscalationRace where
  db : AlertsDb
  turns : ℕ → EscalationTurn

/-- A step of a run, or of another writer. -/
inductive RaceStep
  | load (worker : ℕ) (run : EscalationRun)
  | save (worker : ℕ)
  | log (worker : ℕ)
  /-- The run ends, or dies. -/
  | stop (worker : ℕ)
  | update (latest : LatestTelemetry) (value threshold : PyValue) (now : Instant)
  | trap (trap : Trap) (createdAt : Instant)

namespace EscalationRace

variable (setup : EscalationSetup) (alert : AlertId) (s : EscalationRace)

/-- The turn of a worker, replaced. -/
def setTurn (worker : ℕ) (turn : EscalationTurn) : EscalationRace :=
  { s with turns := Function.update s.turns worker turn }

@[simp] theorem turns_setTurn_self (worker : ℕ) (turn : EscalationTurn) :
    (s.setTurn worker turn).turns worker = turn :=
  Function.update_self ..

/-- The copy that a run loads. -/
def loadTurn (run : EscalationRun) : EscalationTurn :=
  match s.db.alerts.find alert with
  | some row => if row.status.isActive then .loaded run row else .idle
  | none => .idle

/-- What the turn of the alert saves: the metadata of its copy, with the record of the first
triggered policy. -/
def recordOf (run : EscalationRun) (copy : AlertEvent) : Option (AlertEscalationPolicy × Dict) :=
  match setup.firstTriggered run copy with
  | none => none
  | some policy =>
      match escalationMetadata setup.py copy.metadata policy.id (run.escalatedAt copy.id) with
      | .ok (some metadata) => some (policy, metadata)
      | _ => none

/-- The update of an alert that is still active when its row is locked. -/
def updateLocked (latest : LatestTelemetry) (value threshold : PyValue) (now : Instant)
    (row : AlertEvent) : Engine AlertEvent :=
  Tx.atomic
    (if row.status.isActive then updateActiveAlert setup.py row latest value threshold now
    else return row)

/-- The save of a record. -/
def saveRecord (worker : ℕ) (copy : AlertEvent) (policy : AlertEscalationPolicy) :
    EscalationRace :=
  match saveEscalation copy s.db with
  | (.ok _, db) => setTurn ⟨db, s.turns⟩ worker (.saved copy policy)
  | (.error _, db) => setTurn ⟨db, s.turns⟩ worker .idle

/-- The turn of the alert, up to the save. -/
def saveTurn (worker : ℕ) : EscalationRace :=
  match s.turns worker with
  | .loaded run copy =>
      match recordOf setup run copy with
      | some (policy, metadata) => s.saveRecord worker (copy.withMetadata metadata) policy
      | none => s.setTurn worker .idle
  | _ => s

/-- The log row behind the save. -/
def logTurn (worker : ℕ) : EscalationRace :=
  match s.turns worker with
  | .saved copy policy =>
      setTurn ⟨(logEscalation setup.py.upper copy policy (setup.deviceName copy) s.db).2, s.turns⟩
        worker .idle
  | _ => s

/-- One step. -/
def step : RaceStep → EscalationRace
  | .load worker run => s.setTurn worker (s.loadTurn alert run)
  | .save worker => s.saveTurn setup worker
  | .log worker => s.logTurn setup worker
  | .stop worker => s.setTurn worker .idle
  | .update latest value threshold now =>
      { s with db := s.db.onAlert alert (updateLocked setup latest value threshold now) }
  | .trap trap createdAt => { s with db := (createOrUpdateTrapAlert trap createdAt s.db).2 }

end EscalationRace

/-! ### What a step may write -/

/-- The keys that an escalation writes. -/
def escalationKeys : List String :=
  ["last_escalated_at", "last_escalation_policy_id", "escalated_policy_ids"]

/-- The keys that a trap writes. -/
def trapKeys : List String :=
  ["trap_oid", "trap_event_code", "trap_event_name", "source", "raw_payload"]

/-- The keys of the metadata that a step writes. -/
def RaceStep.keys : RaceStep → List String
  | .save _ => escalationKeys
  | .update .. => ["last_snapshot"]
  | .trap .. => trapKeys
  | _ => []

/-- The metadata is the same but for some keys, and has lost no recorded policy. -/
structure MetadataKept (keys : List String) (metadata metadata' : Dict) : Prop where
  lookup : ∀ key, key ∉ keys → metadata'.lookup key = metadata.lookup key
  records : ∀ policy, RecordsPolicy metadata policy → RecordsPolicy metadata' policy

instance {keys : List String} : IsPreorder Dict (MetadataKept keys) where
  refl _ := ⟨fun _ _ => rfl, fun _ h => h⟩
  trans _ _ _ h h' := ⟨fun key hkey => (h'.lookup key hkey).trans (h.lookup key hkey),
    fun policy hrecords => h'.records policy (h.records policy hrecords)⟩

/-- A merge of other keys keeps the records. -/
theorem metadataKept_merge {keys : List String} {metadata extra : Dict}
    (hextra : ∀ key, key ∉ keys → extra.lookup key = none) (hids : "escalated_policy_ids" ∉ keys) :
    MetadataKept keys metadata (Dict.merge metadata extra) := by
  have hlookup : ∀ key, key ∉ keys →
      (Dict.merge metadata extra).lookup key = metadata.lookup key := by
    intro key hkey
    rw [Dict.lookup_merge, hextra key hkey]
    rfl
  refine ⟨hlookup, fun policy hrecords => ?_⟩
  rwa [RecordsPolicy, escalatedPolicyIds, hlookup _ hids]

theorem metadataKept_escalationMetadata {py : PyText} {metadata metadata' : Dict}
    {policy : PolicyId} {now : Instant}
    (h : escalationMetadata py metadata policy now = .ok (some metadata')) :
    MetadataKept escalationKeys metadata metadata' where
  lookup _ hkey := lookup_escalationMetadata h hkey
  records other hrecords := ((recordsPolicy_escalationMetadata h).2 other).mpr (Or.inl hrecords)

theorem Trap.lookup_metadata_eq_none {trap : Trap} {key : String} (h : key ∉ trapKeys) :
    trap.metadata.lookup key = none := by
  rw [List.lookup_eq_none_iff]
  simp only [trapKeys, List.mem_cons, List.not_mem_nil, or_false, not_or] at h
  simp only [Trap.metadata, scalarField, List.mem_cons, List.not_mem_nil, or_false,
    bne_iff_ne]
  rintro field (rfl | rfl | rfl | rfl | rfl)
  · exact h.1
  · exact h.2.1
  · exact h.2.2.1
  · exact h.2.2.2.1
  · exact h.2.2.2.2

namespace AlertsDb

/-- The log rows of the escalations of an alert by a policy. -/
def escalationLogs (db : AlertsDb) (alert : AlertId) (policy : PolicyId) : List AlertEventLog :=
  db.logs.filter fun log => log.Escalates alert policy

/-- The stored metadata of an alert is kept but for some keys. -/
def KeepsMetadata (alert : AlertId) (keys : List String) (db db' : AlertsDb) : Prop :=
  ∀ row ∈ db.alerts, row.id = alert →
    ∃ row' ∈ db'.alerts, row'.id = alert ∧ MetadataKept keys row.metadata row'.metadata

/-- The stored metadata of an alert is kept but for some keys, and its escalations are the
same. -/
structure KeepsAlert (alert : AlertId) (keys : List String) (db db' : AlertsDb) : Prop where
  keeps : KeepsMetadata alert keys db db'
  logs : ∀ policy, db'.escalationLogs alert policy = db.escalationLogs alert policy

variable {alert : AlertId} {keys : List String} {db : AlertsDb}

instance : IsPreorder AlertsDb (KeepsAlert alert keys) where
  refl _ := ⟨fun row hrow hid => ⟨row, hrow, hid, refl_of (MetadataKept keys) _⟩, fun _ => rfl⟩
  trans _ _ _ h h' := by
    refine ⟨fun row hrow hid => ?_, fun policy => (h'.logs policy).trans (h.logs policy)⟩
    obtain ⟨row₁, hrow₁, hid₁, hkept₁⟩ := h.keeps row hrow hid
    obtain ⟨row₂, hrow₂, hid₂, hkept₂⟩ := h'.keeps row₁ hrow₁ hid₁
    exact ⟨row₂, hrow₂, hid₂, trans_of (MetadataKept keys) hkept₁ hkept₂⟩

/-- A save whose metadata keeps that of the row it is written over. -/
theorem keepsAlert_saveAlert {copy : AlertEvent} {columns : List AlertColumn}
    (h : ∀ stored ∈ db.alerts, stored.id = copy.id → copy.id = alert →
      MetadataKept keys stored.metadata (AlertEvent.write columns copy stored).metadata) :
    KeepsAlert alert keys db (saveAlert copy columns db).2 := by
  have hlogs := @logs_saveAlert db copy columns
  rcases hsave : saveAlert copy columns db with ⟨e | u, db'⟩
  · rw [saveAlert_error hsave]
    exact refl_of (KeepsAlert alert keys) db
  · rw [hsave] at hlogs
    obtain ⟨stored, hfind, halerts⟩ := saveAlert_ok hsave
    obtain ⟨hstored, hid⟩ := Table.find_eq_some_iff.mp hfind
    refine ⟨fun row hrow hrowId => ?_, fun policy => ?_⟩
    · rw [halerts]
      by_cases hsame : row.id = stored.id
      · obtain rfl := db.alerts.eq_of_pk_eq hrow hstored hsame
        refine ⟨AlertEvent.write columns copy row, Table.mem_save.mpr (Or.inl rfl), hrowId, ?_⟩
        exact h row hrow hid (hid.symm.trans hrowId)
      · exact ⟨row, Table.mem_save.mpr (Or.inr ⟨hrow, hsame⟩), hrowId,
          refl_of (MetadataKept keys) _⟩
    · rw [escalationLogs, hlogs]
      rfl

theorem keepsAlert_createAlert {row : AlertEvent} :
    Tx.Respects (KeepsAlert alert keys) (createAlert row) := by
  intro db
  have hlogs := @logs_createAlert db row
  rcases hcreate : createAlert row db with ⟨e | new, db'⟩
  · rw [createAlert_error hcreate]
    exact refl_of (KeepsAlert alert keys) db
  · rw [hcreate] at hlogs
    obtain ⟨-, hcreated⟩ := createAlert_ok hcreate
    refine ⟨fun row hrow hid => ?_, fun policy => ?_⟩
    · exact ⟨row, hcreated.mem_alerts_iff.mpr (Or.inr hrow), hid, refl_of (MetadataKept keys) _⟩
    · rw [escalationLogs, hlogs]
      rfl

/-- A log row of another action. -/
theorem keepsAlert_createAlertLog {log : AlertEventLog} (h : log.action ≠ .escalated) :
    Tx.Respects (KeepsAlert alert keys) (createAlertLog log) := by
  intro db
  unfold createAlertLog
  split
  · refine ⟨fun row hrow hid => ⟨row, hrow, hid, refl_of (MetadataKept keys) _⟩, fun policy => ?_⟩
    have hother : ¬log.Escalates alert policy := fun hlog => h hlog.2.1
    simp [escalationLogs, putLog, hother]
  · exact refl_of (KeepsAlert alert keys) db

/-! ### The writers that lock the row -/

variable {setup : EscalationSetup} {row : AlertEvent}

theorem keepsAlert_updateActiveAlert {py : PyText} {latest : LatestTelemetry}
    {value threshold : PyValue} {now : Instant} (hrow : row ∈ db.alerts) :
    KeepsAlert alert ["last_snapshot"] db
      (updateActiveAlert py row latest value threshold now db).2 := by
  rw [updateActiveAlert, Tx.bind_apply, Tx.read_apply]
  dsimp only
  cases row.alertRule.bind db.rules.find with
  | none => exact refl_of (KeepsAlert alert ["last_snapshot"]) db
  | some rule =>
      refine Tx.rel_bind (keepsAlert_saveAlert fun stored hstored hid _ => ?_) fun _ =>
        Tx.respects_bind (keepsAlert_createAlertLog (by simp)) fun _ => Tx.respects_pure _
      obtain rfl : stored = row := db.alerts.eq_of_pk_eq hstored hrow hid
      refine metadataKept_merge (fun key hkey => ?_) (by decide)
      rw [List.lookup_cons, beq_false_of_ne (by simpa using hkey)]
      rfl

theorem keepsAlert_createOrUpdateTrapAlert {trap : Trap} {createdAt : Instant} :
    KeepsAlert alert trapKeys db (createOrUpdateTrapAlert trap createdAt db).2 := by
  have hopen : Tx.Respects (KeepsAlert alert trapKeys) (openTrapAlert trap createdAt) :=
    Tx.respects_bind keepsAlert_createAlert fun _ =>
      Tx.respects_bind (keepsAlert_createAlertLog (by simp)) fun _ => Tx.respects_pure _
  refine Tx.rel_atomic ?_
  rw [Tx.bind_apply, Tx.read_apply]
  dsimp only
  cases hfound : latestAlert (db.alerts.select trap.matchesAlert) with
  | none => exact hopen db
  | some existing =>
      dsimp only
      split
      · have hexisting : existing ∈ db.alerts :=
          (Table.mem_select.mp (List.argmax_mem hfound)).1
        refine Tx.rel_bind (keepsAlert_saveAlert fun stored hstored hid _ => ?_) fun _ =>
          Tx.respects_bind (keepsAlert_createAlertLog (by simp)) fun _ => Tx.respects_pure _
        obtain rfl : stored = existing := db.alerts.eq_of_pk_eq hstored hexisting hid
        exact metadataKept_merge (fun key hkey => Trap.lookup_metadata_eq_none hkey) (by decide)
      · exact hopen db

end AlertsDb

/-! ### What the runs keep -/

namespace EscalationRace

open AlertsDb

variable (setup : EscalationSetup) (alert : AlertId) (s : EscalationRace)

/-- The stored alert records the policy. -/
def Recorded (policy : PolicyId) : Prop :=
  ∃ row ∈ s.db.alerts, row.id = alert ∧ RecordsPolicy row.metadata policy

/-- An escalation that is about to save has a copy that lacks nothing of what is stored. -/
def UpToDate : RaceStep → Prop
  | .save worker => ∀ run copy, s.turns worker = .loaded run copy →
      (∀ policy, setup.firstTriggered run copy = some policy →
        ¬RecordsPolicy copy.metadata policy.id →
          ∀ row ∈ s.db.alerts, row.id = alert →
            MetadataKept escalationKeys row.metadata copy.metadata)
  | _ => True

/-- No policy has escalated the alert twice, nor will the runs that have saved. -/
structure Consistent : Prop where
  once : ∀ policy, (s.db.escalationLogs alert policy).length ≤ 1
  recorded : ∀ policy, s.db.escalationLogs alert policy ≠ [] → s.Recorded alert policy
  copies : ∀ worker run copy, s.turns worker = .loaded run copy → copy.id = alert
  saved : ∀ worker copy policy, s.turns worker = .saved copy policy →
    copy.id = alert ∧ s.Recorded alert policy.id ∧ s.db.escalationLogs alert policy.id = []
  savedOnce : ∀ worker copy policy worker' copy' policy',
    s.turns worker = .saved copy policy → s.turns worker' = .saved copy' policy' →
      policy.id = policy'.id → worker = worker'

variable {setup alert s} {db : AlertsDb} {turns : ℕ → EscalationTurn} {keys : List String}

theorem Recorded.keeps {policy : PolicyId} (h : s.Recorded alert policy)
    (hkeeps : KeepsMetadata alert keys s.db db) :
    Recorded alert ⟨db, turns⟩ policy := by
  obtain ⟨row, hrow, hid, hrecords⟩ := h
  obtain ⟨row', hrow', hid', hkept⟩ := hkeeps row hrow hid
  exact ⟨row', hrow', hid', hkept.records policy hrecords⟩

/-- A step that keeps the alert, and after which no other run has saved. -/
theorem Consistent.keep (h : s.Consistent alert) (hdb : KeepsAlert alert keys s.db db)
    (hcopies : ∀ worker run copy, turns worker = .loaded run copy → copy.id = alert)
    (hsaved : ∀ worker copy policy, turns worker = .saved copy policy →
      s.turns worker = .saved copy policy) : Consistent alert ⟨db, turns⟩ where
  once policy := by
    rw [hdb.logs]
    exact h.once policy
  recorded policy hlogs := by
    rw [hdb.logs] at hlogs
    exact (h.recorded policy hlogs).keeps hdb.keeps
  copies := hcopies
  saved worker copy policy hturn := by
    obtain ⟨hid, hrecorded, hlogs⟩ := h.saved worker copy policy (hsaved worker copy policy hturn)
    exact ⟨hid, hrecorded.keeps hdb.keeps, (hdb.logs policy.id).trans hlogs⟩
  savedOnce worker copy policy worker' copy' policy' hturn hturn' :=
    h.savedOnce worker copy policy worker' copy' policy' (hsaved worker copy policy hturn)
      (hsaved worker' copy' policy' hturn')

theorem turns_setTurn {worker other : ℕ} {turn found : EscalationTurn}
    (h : (s.setTurn worker turn).turns other = found) :
    (other = worker ∧ found = turn) ∨ (other ≠ worker ∧ s.turns other = found) := by
  change Function.update s.turns worker turn other = found at h
  by_cases hother : other = worker
  · rw [hother, Function.update_self] at h
    exact Or.inl ⟨hother, h.symm⟩
  · rw [Function.update_of_ne hother] at h
    exact Or.inr ⟨hother, h⟩

/-- A turn that is put back, or loads. -/
theorem Consistent.setTurn (h : s.Consistent alert) (hdb : KeepsAlert alert keys s.db db)
    {worker : ℕ} {turn : EscalationTurn} (hloaded : ∀ run copy, turn = .loaded run copy →
      copy.id = alert) (hsaved : ∀ copy policy, turn ≠ .saved copy policy) :
    Consistent alert (EscalationRace.setTurn ⟨db, s.turns⟩ worker turn) := by
  refine h.keep hdb (fun other run copy hturn => ?_) fun other copy policy hturn => ?_
  · rcases turns_setTurn hturn with ⟨-, hsame⟩ | ⟨-, hold⟩
    · exact hloaded run copy hsame.symm
    · exact h.copies other run copy hold
  · rcases turns_setTurn hturn with ⟨-, hsame⟩ | ⟨-, hold⟩
    · exact absurd hsame.symm (hsaved copy policy)
    · exact hold

theorem recordOf_eq_some {run : EscalationRun} {copy : AlertEvent} {policy : AlertEscalationPolicy}
    {metadata : Dict} (h : recordOf setup run copy = some (policy, metadata)) :
    setup.firstTriggered run copy = some policy ∧
      ∃ now, escalationMetadata setup.py copy.metadata policy.id now = .ok (some metadata) := by
  unfold recordOf at h
  split at h
  · cases h
  · rename_i first hfirst
    split at h
    · rename_i found hfound
      obtain ⟨rfl, rfl⟩ := Prod.mk.inj (Option.some.inj h)
      exact ⟨hfirst, _, hfound⟩
    · cases h

/-- A record that is new, saved from a copy that lacked nothing. -/
theorem saveRecord_spec {worker : ℕ} {copy : AlertEvent} {policy : AlertEscalationPolicy}
    (h : s.Consistent alert) (hid : copy.id = alert)
    (hlacks : ∀ row ∈ s.db.alerts, row.id = alert →
      MetadataKept escalationKeys row.metadata copy.metadata)
    (hrecords : RecordsPolicy copy.metadata policy.id) (hfresh : ¬s.Recorded alert policy.id) :
    (s.saveRecord worker copy policy).Consistent alert ∧
      KeepsMetadata alert escalationKeys s.db (s.saveRecord worker copy policy).db := by
  have hdb : KeepsAlert alert escalationKeys s.db (saveEscalation copy s.db).2 :=
    keepsAlert_saveAlert fun stored hstored hstoredId _ =>
      hlacks stored hstored (hstoredId.trans hid)
  unfold saveRecord
  rcases hsave : saveEscalation copy s.db with ⟨e | u, db⟩
  · rw [hsave] at hdb
    exact ⟨h.setTurn hdb (fun _ _ hturn => by cases hturn) (fun _ _ hturn => by cases hturn),
      hdb.keeps⟩
  rw [hsave] at hdb
  refine ⟨?_, hdb.keeps⟩
  have hrecorded : ∀ turns, Recorded alert ⟨db, turns⟩ policy.id := by
    intro turns
    obtain ⟨stored, hfind, halerts⟩ := saveAlert_ok hsave
    obtain ⟨-, hstoredId⟩ := Table.find_eq_some_iff.mp hfind
    refine ⟨AlertEvent.write [.metadata] copy stored, ?_, hstoredId.trans hid, hrecords⟩
    rw [halerts]
    exact Table.mem_save.mpr (Or.inl rfl)
  have hlogs : db.escalationLogs alert policy.id = [] := by
    rw [hdb.logs]
    by_contra hlogged
    exact hfresh (h.recorded policy.id hlogged)
  have hbase : Consistent alert ⟨db, s.turns⟩ := h.keep hdb h.copies fun _ _ _ => id
  -- no other run has saved the policy, since the row did not record it
  have hothers : ∀ other found first, s.turns other = .saved found first →
      first.id ≠ policy.id := by
    intro other found first hother hsame
    exact hfresh (hsame ▸ (h.saved other found first hother).2.1)
  refine ⟨hbase.once, hbase.recorded, fun other run' copy' hloaded => ?_,
    fun other copy' policy' hsaved => ?_,
    fun other copy' policy' other' copy'' policy'' hsaved hsaved' hsame => ?_⟩
  · rcases turns_setTurn hloaded with ⟨-, hturn⟩ | ⟨-, hturn⟩
    · cases hturn
    · exact h.copies other run' copy' hturn
  · rcases turns_setTurn hsaved with ⟨-, hturn⟩ | ⟨-, hturn⟩
    · obtain ⟨rfl, rfl⟩ := EscalationTurn.saved.inj hturn
      exact ⟨hid, hrecorded _, hlogs⟩
    · exact hbase.saved other copy' policy' hturn
  · rcases turns_setTurn hsaved with ⟨hother, hturn⟩ | ⟨-, hturn⟩
    · rcases turns_setTurn hsaved' with ⟨hother', -⟩ | ⟨-, hturn'⟩
      · rw [hother, hother']
      · obtain ⟨-, rfl⟩ := EscalationTurn.saved.inj hturn
        exact absurd hsame.symm (hothers other' copy'' policy'' hturn')
    · rcases turns_setTurn hsaved' with ⟨-, hturn'⟩ | ⟨-, hturn'⟩
      · obtain ⟨-, rfl⟩ := EscalationTurn.saved.inj hturn'
        exact absurd hsame (hothers other copy' policy' hturn)
      · exact h.savedOnce other copy' policy' other' copy'' policy'' hturn hturn' hsame

/-- The turn of an escalation whose copy is up to date. -/
theorem saveTurn_spec {worker : ℕ} (h : s.Consistent alert)
    (hcopy : s.UpToDate setup alert (.save worker)) :
    (s.saveTurn setup worker).Consistent alert ∧
      KeepsMetadata alert escalationKeys s.db (s.saveTurn setup worker).db := by
  have hrefl := refl_of (KeepsAlert alert escalationKeys) s.db
  unfold saveTurn
  cases hturn : s.turns worker with
  | idle => exact ⟨h, hrefl.keeps⟩
  | saved copy policy => exact ⟨h, hrefl.keeps⟩
  | loaded run copy =>
    dsimp only
    cases hrecord : recordOf setup run copy with
    | none =>
      exact ⟨h.setTurn hrefl (fun _ _ hturn => by cases hturn) (fun _ _ hturn => by cases hturn),
        hrefl.keeps⟩
    | some record =>
      obtain ⟨policy, metadata⟩ := record
      obtain ⟨hfirst, now, hmetadata⟩ := recordOf_eq_some hrecord
      obtain ⟨hnew, hrecords⟩ := recordsPolicy_escalationMetadata hmetadata
      have hlacks := hcopy run copy hturn policy hfirst hnew
      refine saveRecord_spec h (h.copies worker run copy hturn) (fun row hrow hid => ?_)
        ((hrecords policy.id).mpr (Or.inr rfl)) ?_
      · exact trans_of (MetadataKept escalationKeys) (hlacks row hrow hid)
          (metadataKept_escalationMetadata hmetadata)
      · rintro ⟨row, hrow, hid, hrecorded⟩
        exact hnew ((hlacks row hrow hid).records policy.id hrecorded)

/-- The log row of an escalation that has saved. -/
theorem logTurn_spec {worker : ℕ} (h : s.Consistent alert) :
    (s.logTurn setup worker).Consistent alert ∧
      KeepsMetadata alert [] s.db (s.logTurn setup worker).db := by
  have hrefl := refl_of (KeepsAlert alert []) s.db
  unfold logTurn
  cases hturn : s.turns worker with
  | idle => exact ⟨h, hrefl.keeps⟩
  | loaded run copy => exact ⟨h, hrefl.keeps⟩
  | saved copy policy =>
    obtain ⟨hid, hrecorded, hnone⟩ := h.saved worker copy policy hturn
    have hlogs : ∀ other,
        (s.db.putLog (escalationLog setup.py.upper copy policy
            (setup.deviceName copy))).escalationLogs alert other = s.db.escalationLogs alert other ++
          if policy.id = other then
            [escalationLog setup.py.upper copy policy (setup.deviceName copy)] else [] := by
      intro other
      rw [escalationLogs, putLog, List.filter_append, escalationLogs]
      congr 1
      by_cases hsame : policy.id = other
      · rw [if_pos hsame]
        exact List.filter_eq_self.mpr (by simp [escalates_escalationLog, hid, hsame])
      · rw [if_neg hsame]
        exact List.filter_eq_nil_iff.mpr (by simp [escalates_escalationLog, hsame])
    dsimp only
    rw [logEscalation_apply]
    refine ⟨⟨fun other => ?_, fun other hlogged => ?_, fun other run' copy' hloaded => ?_,
      fun other copy' policy' hsaved => ?_,
      fun other copy' policy' other' copy'' policy'' hsaved hsaved' => ?_⟩, hrefl.keeps⟩
    · rw [setTurn, hlogs]
      split
      · rename_i hsame
        rw [← hsame, hnone]
        exact le_refl 1
      · rw [List.append_nil]
        exact h.once other
    · rw [setTurn, hlogs] at hlogged
      by_cases hsame : policy.id = other
      · exact hsame ▸ hrecorded
      · rw [if_neg hsame, List.append_nil] at hlogged
        exact h.recorded other hlogged
    · rcases turns_setTurn hloaded with ⟨-, hother⟩ | ⟨-, hother⟩
      · cases hother
      · exact h.copies other run' copy' hother
    · rcases turns_setTurn hsaved with ⟨-, hother⟩ | ⟨hne, hother⟩
      · cases hother
      · obtain ⟨hid', hrecorded', hnone'⟩ := h.saved other copy' policy' hother
        -- the policy is another one, since its run is
        have hpolicy : policy.id ≠ policy'.id := fun hsame =>
          hne (h.savedOnce other copy' policy' worker copy policy hother hturn hsame.symm)
        refine ⟨hid', hrecorded', ?_⟩
        rw [setTurn, hlogs, if_neg hpolicy, List.append_nil]
        exact hnone'
    · rcases turns_setTurn hsaved with ⟨-, hother⟩ | ⟨-, hother⟩
      · cases hother
      rcases turns_setTurn hsaved' with ⟨-, hother'⟩ | ⟨-, hother'⟩
      · cases hother'
      · exact h.savedOnce other copy' policy' other' copy'' policy'' hother hother'

/-- **One step** undoes nothing, and escalates by no policy twice, if its copy is up to
date. -/
theorem step_spec {i : RaceStep} (h : s.Consistent alert) (hi : s.UpToDate setup alert i) :
    (step setup alert s i).Consistent alert ∧
      KeepsMetadata alert i.keys s.db (step setup alert s i).db := by
  cases i with
  | load worker run =>
      have hrefl := refl_of (KeepsAlert alert []) s.db
      refine ⟨h.setTurn hrefl (fun run' copy hturn => ?_) (fun copy policy hturn => ?_), hrefl.keeps⟩
      · unfold loadTurn at hturn
        split at hturn
        · rename_i row hfind
          split at hturn
          · obtain ⟨-, rfl⟩ := EscalationTurn.loaded.inj hturn
            exact (Table.find_eq_some_iff.mp hfind).2
          · cases hturn
        · cases hturn
      · unfold loadTurn at hturn
        split at hturn
        · split at hturn <;> cases hturn
        · cases hturn
  | save worker => exact saveTurn_spec h hi
  | log worker => exact logTurn_spec h
  | stop worker =>
      have hrefl := refl_of (KeepsAlert alert []) s.db
      exact ⟨h.setTurn hrefl (fun _ _ hturn => by cases hturn) (fun _ _ hturn => by cases hturn),
        hrefl.keeps⟩
  | update latest value threshold now =>
      have hdb : KeepsAlert alert ["last_snapshot"] s.db
          (s.db.onAlert alert (updateLocked setup latest value threshold now)) := by
        unfold onAlert
        split
        · rename_i row hfind
          refine Tx.rel_atomic ?_
          split
          · exact keepsAlert_updateActiveAlert (Table.find_eq_some_iff.mp hfind).1
          · exact refl_of (KeepsAlert alert ["last_snapshot"]) s.db
        · exact refl_of (KeepsAlert alert ["last_snapshot"]) s.db
      exact ⟨h.keep hdb h.copies fun _ _ _ => id, hdb.keeps⟩
  | trap trap createdAt =>
      have hdb := @keepsAlert_createOrUpdateTrapAlert alert s.db trap createdAt
      exact ⟨h.keep hdb h.copies fun _ _ _ => id, hdb.keeps⟩

/-- **Concurrent escalations lose nothing** along a run in which no escalation saves from a
copy that lacks something. -/
theorem losesNothing_run {w : List RaceStep} (h : s.Consistent alert)
    (hw : Along (step setup alert) (fun s i _ => s.UpToDate setup alert i) s w) :
    (∀ u v, w = u ++ v → ∀ policy,
        ((Library.run (step setup alert) s u).db.escalationLogs alert policy).length ≤ 1) ∧
      Along (step setup alert) (fun before i after =>
        KeepsMetadata alert i.keys before.db after.db) s w := by
  have hkeep : ∀ s i, Consistent alert s → s.UpToDate setup alert i →
      Consistent alert (step setup alert s i) := fun s i hs hi => (step_spec hs hi).1
  constructor
  · intro u v hu policy
    have hprefix := (along_append.mp (hu ▸ hw)).1
    exact (run_invariant_of_along hkeep h hprefix).once policy
  · exact @along_mono _ _ (step setup alert) (Consistent alert)
      (fun s i _ => s.UpToDate setup alert i) _ hkeep (fun _ _ hs hi => (step_spec hs hi).2) _ h w hw

/-! ### A run alone, and two runs -/

/-- A run that is at its end writes no log row. -/
theorem logTurn_idle (worker : ℕ) :
    (s.setTurn worker .idle).logTurn setup worker = s.setTurn worker .idle := by
  rw [logTurn, turns_setTurn_self]

/-- **A run that nothing interrupts** does to the alert tables what `escalate_alert` does. -/
theorem run_alone {worker : ℕ} {run : EscalationRun} {row : AlertEvent}
    {notifications : NotificationsDb} (hrow : row ∈ s.db.alerts) (hactive : row.status.isActive)
    (hfails : ∀ point, run.fails point = false) :
    (Library.run (step setup row.id) s [.load worker run, .save worker, .log worker]).db =
      (setup.escalateFirst run row ⟨s.db, notifications⟩).2.alerts := by
  have hfind : s.db.alerts.find row.id = some row := Table.find_pk hrow
  have hload : step setup row.id s (.load worker run) =
      s.setTurn worker (.loaded run row) := by
    rw [step, loadTurn, hfind]
    dsimp only
    rw [if_pos hactive]
  have hlogIdle (s : EscalationRace) : ((s.setTurn worker .idle).logTurn setup worker).db = s.db := by
    rw [logTurn_idle]
    rfl
  simp only [run_cons, run_nil, hload]
  change ((saveTurn setup _ worker).logTurn setup worker).db = _
  rw [saveTurn, turns_setTurn_self]
  dsimp only
  unfold EscalationSetup.escalateFirst recordOf
  cases hfirst : setup.firstTriggered run row with
  | none => exact hlogIdle _
  | some policy =>
      dsimp only
      rcases hmetadata : escalationMetadata setup.py row.metadata policy.id
          (run.escalatedAt row.id) with e | (_ | metadata)
      · rw [EscalationSetup.escalateAlert, hmetadata]
        exact hlogIdle _
      · rw [EscalationSetup.escalateAlert, hmetadata]
        exact hlogIdle _
      · obtain ⟨saved, hsave, -, -, heq⟩ := @EscalationSetup.escalateAlert_of_new setup run.fails row
          policy (run.escalatedAt row.id) ⟨s.db, notifications⟩ metadata hrow hmetadata
        rw [heq, if_neg (by simp [hfails]), if_neg (by simp [hfails])]
        have hrecord : (s.setTurn worker (.loaded run row)).saveRecord worker
            (row.withMetadata metadata) policy =
            setTurn ⟨saved, (s.setTurn worker (.loaded run row)).turns⟩ worker
              (.saved (row.withMetadata metadata) policy) := by
          have hsave' : saveEscalation (row.withMetadata metadata)
              (s.setTurn worker (.loaded run row)).db = (.ok ⟨⟩, saved) := hsave
          rw [saveRecord, hsave']
        dsimp only
        rw [hrecord, logTurn, turns_setTurn_self]
        rcases hnotify : setup.createNotificationsForAlertEscalated run.fails
            (row.withMetadata metadata) policy (run.escalatedAt row.id)
            ⟨saved.putLog (escalationLog setup.py.upper row policy (setup.deviceName row)),
              notifications⟩ with
          ⟨e | u, db'⟩
        · exact
            (EscalationSetup.sameAlerts_createNotificationsForAlertEscalated.of_eq hnotify).symm
        · exact
            (EscalationSetup.sameAlerts_createNotificationsForAlertEscalated.of_eq hnotify).symm

variable (setup alert) in
/-- The turn of the alert in a run that finds it active, on what is stored. -/
def escalateStored (db : EscalationDb) (run : EscalationRun) : EscalationDb :=
  match db.alerts.alerts.find alert with
  | some row => if row.status.isActive then (setup.escalateFirst run row db).2 else db
  | none => db

/-- The steps of a run that nothing interrupts. -/
def serialRun (worker : ℕ) (run : EscalationRun) : List RaceStep :=
  [.load worker run, .save worker, .log worker]

/-- A run that does not find the alert, or not active, leaves it alone. -/
theorem run_serialRun_of_idle {worker : ℕ} {run : EscalationRun}
    (hidle : s.loadTurn alert run = .idle) :
    (Library.run (step setup alert) s (serialRun worker run)).db = s.db := by
  have hsave : (s.setTurn worker .idle).saveTurn setup worker = s.setTurn worker .idle := by
    rw [saveTurn, turns_setTurn_self]
  simp only [serialRun, run_cons, run_nil, step, hidle, hsave, logTurn_idle]
  rfl

/-- **Runs one after another** do to the alert tables what the function does, each on what the
one before it has left: it takes runs that overlap to lose something. -/
theorem run_serialRuns (runs : List EscalationRun) (worker : EscalationRun → ℕ)
    (hfails : ∀ run ∈ runs, ∀ point, run.fails point = false)
    (s : EscalationRace) (notifications : NotificationsDb) :
    (Library.run (step setup alert) s (runs.flatMap fun run => serialRun (worker run) run)).db =
      (Library.run (escalateStored setup alert) ⟨s.db, notifications⟩ runs).alerts := by
  induction runs generalizing s notifications with
  | nil => rfl
  | cons run runs ih =>
      obtain ⟨hrun, hrest⟩ := List.forall_mem_cons.mp hfails
      have hfirst : (Library.run (step setup alert) s (serialRun (worker run) run)).db =
          (escalateStored setup alert ⟨s.db, notifications⟩ run).alerts := by
        unfold escalateStored
        dsimp only
        cases hfind : s.db.alerts.find alert with
        | none => exact run_serialRun_of_idle (by rw [loadTurn, hfind])
        | some row =>
            obtain ⟨hrow, rfl⟩ := Table.find_eq_some_iff.mp hfind
            dsimp only
            by_cases hactive : row.status.isActive
            · rw [if_pos hactive]
              exact run_alone hrow hactive hrun
            · rw [if_neg hactive]
              refine run_serialRun_of_idle ?_
              rw [loadTurn, hfind]
              exact if_neg hactive
      rw [List.flatMap_cons, run_append, run_cons,
        ih hrest _ (escalateStored setup alert ⟨s.db, notifications⟩ run).notifications, hfirst]

open EscalationSetup in
/-- The alert of the first bank, before any run. -/
def firstBankRace : EscalationRace := ⟨firstBankDb.alerts, fun _ => .idle⟩

theorem consistent_firstBankRace : firstBankRace.Consistent 1 where
  once _ := Nat.zero_le 1
  recorded _ hlogs := absurd rfl hlogs
  copies _ _ _ hturn := by cases hturn
  saved _ _ _ hturn := by cases hturn
  savedOnce _ _ _ _ _ _ hturn := by cases hturn

open EscalationSetup in
/-- One run keeps the alert, and escalates it once. -/
theorem losesNothing_oneRun :
    let w := [.load 0 afterHour, .save 0, .log 0]
    (∀ u v, w = u ++ v → ∀ policy,
        ((Library.run (step (nobody [afterQuarter]) 1) firstBankRace u).db.escalationLogs 1
          policy).length ≤ 1) ∧
      Along (step (nobody [afterQuarter]) 1) (fun before i after =>
        KeepsMetadata 1 i.keys before.db after.db) firstBankRace w := by
  refine losesNothing_run consistent_firstBankRace ⟨trivial, ?_, trivial, trivial⟩
  rintro run copy hturn policy - - row hrow -
  obtain rfl : row = firstBankAlert := List.mem_singleton.mp hrow
  -- the copy is the row, since nothing has happened in between
  have hload : loadTurn 1 firstBankRace afterHour = .loaded afterHour firstBankAlert := rfl
  rcases turns_setTurn hturn with ⟨-, hcopy⟩ | ⟨hne, -⟩
  · rw [hload] at hcopy
    obtain ⟨-, rfl⟩ := EscalationTurn.loaded.inj hcopy
    exact refl_of (MetadataKept escalationKeys) _
  · exact absurd rfl hne

open EscalationSetup in
/-- Two runs load the alert before either saves: both write a log row for the policy. -/
theorem twoRuns_escalateTwice :
    ¬∀ w u v, w = u ++ v → ∀ policy,
      ((Library.run (step (nobody [afterQuarter]) 1) firstBankRace u).db.escalationLogs 1
        policy).length ≤ 1 := by
  intro h
  have htwice := h [.load 0 afterHour, .load 1 afterHour, .save 0, .log 0, .save 1, .log 1] _ []
    (List.append_nil _).symm 1
  exact absurd htwice (by decide)

end EscalationRace

end DcimBackend
