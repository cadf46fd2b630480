import DcimBackend.Alerts.Evaluation
import DcimBackend.Alerts.Traps

/-!
# What the engine does to active alerts

`OpensOnly K` relates two states of the database when everything that rules refer to
is the same, and each active alert was active before under no other key, or is new
and has no key outside `K`.  It is a preorder, so a function of the engine respects it
as soon as its statements do, whatever the functions return and wherever they fail:

* a statement that saves an inactive status, or no status, opens nothing;
* a statement that creates an alert opens at most the key of that alert.

The second half says what the functions that change a status have done when they
succeed.

The relations are stated for the database before and after, without the result, so that they hold
of a function that raises as well: `Tx.Respects` asks for both.  `K` is a set of keys because a
function such as an evaluation opens alerts of many; the turn of a rule is the case of one key.
-/

namespace DcimBackend

open Library

/-! ### Active alerts by key -/

/-- An active alert of a key. -/
def AlertEvent.ActiveFor (alert : AlertEvent) (key : ConditionKey) : Prop :=
  alert.status.isActive ∧ alert.HasKey key

instance (alert : AlertEvent) (key : ConditionKey) : Decidable (alert.ActiveFor key) :=
  inferInstanceAs (Decidable (_ ∧ _))

/-- An alert has one key at most. -/
theorem AlertEvent.HasKey.unique {alert : AlertEvent} {key key' : ConditionKey}
    (h : alert.HasKey key) (h' : alert.HasKey key') : key = key' := by
  obtain ⟨h₁, h₂, h₃, h₄, h₅⟩ := h
  obtain ⟨h₁', h₂', h₃', h₄', h₅'⟩ := h'
  cases key
  cases key'
  simp_all

namespace AlertsDb

/-- The keys of the active alerts of a key: what the alert table says about it. -/
def activeIds (db : AlertsDb) (key : ConditionKey) : Set AlertId :=
  {id | ∃ alert ∈ db.alerts, alert.id = id ∧ alert.ActiveFor key}

/-- Active alerts were active before, under no other key, or are new, with no key
outside `K`. -/
structure OpensOnly (K : Set ConditionKey) (db db' : AlertsDb) : Prop where
  setup : db.SameSetup db'
  nextPk_le : db.alerts.nextPk ≤ db'.alerts.nextPk
  active : ∀ alert ∈ db'.alerts, alert.status.isActive →
    (∃ old ∈ db.alerts, old.id = alert.id ∧ old.status.isActive ∧
        ∀ key, alert.HasKey key → old.HasKey key) ∨
      (db.alerts.nextPk ≤ alert.id ∧ ∀ key, alert.HasKey key → key ∈ K)

section OpensOnly

variable {K : Set ConditionKey} {db db' : AlertsDb}

/-- Statements that leave the alerts and the rules alone open nothing. -/
theorem opensOnly_of_alerts_eq (hsetup : db.SameSetup db') (h : db'.alerts = db.alerts) :
    OpensOnly K db db' where
  setup := hsetup
  nextPk_le := by rw [h]
  active alert halert hactive :=
    Or.inl ⟨alert, h ▸ halert, rfl, hactive, fun _ hkey => hkey⟩

instance : IsPreorder AlertsDb (OpensOnly K) where
  refl db := opensOnly_of_alerts_eq (refl_of SameSetup db) rfl
  trans db db' db'' h h' := by
    refine ⟨trans_of SameSetup h.setup h'.setup, h.nextPk_le.trans h'.nextPk_le, ?_⟩
    intro alert halert hactive
    rcases h'.active alert halert hactive with ⟨mid, hmid, hid, hmidActive, hkeys⟩ | ⟨hle, hK⟩
    · rcases h.active mid hmid hmidActive with ⟨old, hold, hid', holdActive, hkeys'⟩ | ⟨hle, hK⟩
      · exact Or.inl ⟨old, hold, hid'.trans hid, holdActive,
          fun key hkey => hkeys' key (hkeys key hkey)⟩
      · exact Or.inr ⟨hid ▸ hle, fun key hkey => hK key (hkeys key hkey)⟩
    · exact Or.inr ⟨h.nextPk_le.trans hle, hK⟩

/-- Outside `K` no alert becomes active. -/
theorem OpensOnly.activeIds_subset (h : OpensOnly K db db') {key : ConditionKey}
    (hkey : key ∉ K) : db'.activeIds key ⊆ db.activeIds key := by
  rintro id ⟨alert, halert, rfl, hactive, hhas⟩
  rcases h.active alert halert hactive with ⟨old, hold, hid, holdActive, hkeys⟩ | ⟨-, hK⟩
  · exact ⟨old, hold, hid, holdActive, hkeys key hhas⟩
  · exact absurd (hK key hhas) hkey

end OpensOnly

end AlertsDb

/-! ### Statements -/

section Statements

open AlertsDb

variable {K : Set ConditionKey}

/-- A save that does not turn the stored row active opens nothing. -/
theorem opensOnly_saveAlert {db : AlertsDb} {copy : AlertEvent} {columns : List AlertColumn}
    (hactive : ∀ stored, db.alerts.find copy.id = some stored →
      (AlertEvent.write columns copy stored).status.isActive → stored.status.isActive) :
    OpensOnly K db (saveAlert copy columns db).2 := by
  unfold saveAlert
  split
  swap
  · exact refl_of _ db
  rename_i stored hfind
  obtain ⟨hmem, hpk⟩ := Table.find_eq_some_iff.mp hfind
  unfold saveAlertRow
  split
  swap
  · exact refl_of _ db
  split
  swap
  · exact refl_of _ db
  refine ⟨⟨rfl, rfl, rfl, rfl, rfl⟩, le_max_left _ _, ?_⟩
  intro alert halert hnow
  rcases Table.mem_save.mp halert with rfl | ⟨hold, -⟩
  · exact Or.inl ⟨stored, hmem, rfl, hactive stored hfind hnow, fun _ hkey => hkey⟩
  · exact Or.inl ⟨alert, hold, rfl, hnow, fun _ hkey => hkey⟩

/-- A save that writes an inactive status, or no status, opens nothing. -/
theorem respects_saveAlert {copy : AlertEvent} {columns : List AlertColumn}
    (hstatus : .status ∈ columns → copy.status.isActive = false) :
    Tx.Respects (OpensOnly K) (saveAlert copy columns) := by
  refine fun db => opensOnly_saveAlert fun stored _ hactive => ?_
  rw [AlertEvent.write_status] at hactive
  split at hactive
  · rename_i hcolumn
    simp [hstatus hcolumn] at hactive
  · exact hactive

/-- An insertion opens at most the key of its row. -/
theorem respects_createAlert {row : AlertEvent}
    (hrow : row.status.isActive → ∀ key, row.HasKey key → key ∈ K) :
    Tx.Respects (OpensOnly K) (createAlert row) := by
  intro db
  simp only [createAlert, Tx.bind_apply, saveAlertRow]
  split
  · rename_i hok
    split at hok
    · split at hok
      · obtain rfl := (Prod.mk.inj hok).2
        refine ⟨⟨rfl, rfl, rfl, rfl, rfl⟩, le_max_left _ _, ?_⟩
        intro alert halert hactive
        rcases Table.mem_save.mp halert with rfl | ⟨hold, -⟩
        · exact Or.inr ⟨le_rfl, hrow hactive⟩
        · exact Or.inl ⟨alert, hold, rfl, hactive, fun _ hkey => hkey⟩
      · cases (Prod.mk.inj hok).1
    · cases (Prod.mk.inj hok).1
  · rename_i herror
    split at herror
    · split at herror
      · cases (Prod.mk.inj herror).1
      · obtain rfl := (Prod.mk.inj herror).2
        exact refl_of _ db
    · obtain rfl := (Prod.mk.inj herror).2
      exact refl_of _ db

theorem respects_createAlertLog {log : AlertEventLog} :
    Tx.Respects (OpensOnly K) (createAlertLog log) := by
  unfold createAlertLog
  split
  · exact Tx.respects_modify fun db => opensOnly_of_alerts_eq ⟨rfl, rfl, rfl, rfl, rfl⟩ rfl
  · exact Tx.respects_raise _

theorem respects_createComment {comment : AlertComment} :
    Tx.Respects (OpensOnly K) (createComment comment) :=
  Tx.respects_modify fun _ => opensOnly_of_alerts_eq ⟨rfl, rfl, rfl, rfl, rfl⟩ rfl

theorem respects_saveConditionState {state : AlertConditionState} :
    Tx.Respects (OpensOnly K) (saveConditionState state) := by
  intro db
  unfold saveConditionState
  split
  · exact opensOnly_of_alerts_eq ⟨rfl, rfl, rfl, rfl, rfl⟩ rfl
  · exact refl_of _ db

end Statements

/-! ### Functions -/

section Functions

open AlertsDb

variable {K : Set ConditionKey} {py : PyText} {latest : LatestTelemetry} {rule : AlertRule}
  {alert : AlertEvent} {value threshold : PyValue} {user : Option UserId}
  {comment : Option String}

theorem respects_clearConditionState :
    Tx.Respects (OpensOnly K) (clearConditionState latest rule) :=
  Tx.respects_modify fun _ => opensOnly_of_alerts_eq ⟨rfl, rfl, rfl, rfl, rfl⟩ rfl

theorem respects_maybeCreateDurationAlert {now : Instant} :
    Tx.Respects (OpensOnly K) (maybeCreateDurationAlert latest rule now) := by
  refine Tx.respects_bind (Tx.respects_bind (Tx.respects_read _) fun existing => ?_)
    fun state => Tx.respects_pure _
  exact Tx.respects_bind respects_saveConditionState fun _ => Tx.respects_pure _

/-- A rule's alert is opened for the key of the rule and the row. -/
theorem respects_openAlert {now createdAt : Instant} :
    Tx.Respects (OpensOnly {conditionKey latest rule})
      (openAlert py rule latest value threshold now createdAt) := by
  refine Tx.respects_bind (respects_createAlert ?_) fun alert =>
    Tx.respects_bind respects_createAlertLog fun _ => Tx.respects_pure _
  rintro - key ⟨h₁, h₂, h₃, h₄, h₅⟩
  cases key
  simp_all [conditionKey]

theorem respects_updateActiveAlert {now : Instant} :
    Tx.Respects (OpensOnly K) (updateActiveAlert py alert latest value threshold now) := by
  refine Tx.respects_bind (Tx.respects_read _) fun found => ?_
  cases found with
  | none => exact Tx.respects_raise _
  | some rule =>
      exact Tx.respects_bind (respects_saveAlert (by simp)) fun _ =>
        Tx.respects_bind respects_createAlertLog fun _ => Tx.respects_pure _

theorem respects_resolveAlert {latest : Option LatestTelemetry} {resolutionType : String}
    {now : Instant} :
    Tx.Respects (OpensOnly K)
      (resolveAlert py alert latest resolutionType user comment now) :=
  Tx.respects_bind (respects_saveAlert fun _ => rfl) fun _ =>
    Tx.respects_bind (Tx.respects_read _) fun _ =>
      Tx.respects_bind respects_createAlertLog fun _ => Tx.respects_pure _

theorem respects_commentOn {status : AlertStatus} :
    Tx.Respects (OpensOnly K) (commentOn alert status user comment) := by
  unfold commentOn
  split
  · exact Tx.respects_pure _
  · exact Tx.respects_bind respects_createComment fun _ => respects_createAlertLog

theorem respects_manuallyResolveAlert {now : Instant} :
    Tx.Respects (OpensOnly K) (manuallyResolveAlert py alert user comment now) :=
  Tx.respects_bind respects_resolveAlert fun _ =>
    Tx.respects_bind respects_commentOn fun _ => Tx.respects_pure _

/-- An acknowledgement on a freshly loaded row opens nothing: the row is open. -/
theorem opensOnly_acknowledgeAlert {db : AlertsDb} {now : Instant} (halert : alert ∈ db.alerts) :
    OpensOnly K db (acknowledgeAlert alert user comment now db).2 := by
  unfold acknowledgeAlert
  split
  · exact refl_of _ db
  · rename_i hopen
    rw [ne_eq, not_not] at hopen
    refine Tx.rel_bind (opensOnly_saveAlert fun stored hfind _ => ?_) fun _ =>
      Tx.respects_bind respects_commentOn fun _ =>
        Tx.respects_bind respects_createAlertLog fun _ => Tx.respects_pure _
    obtain rfl : alert = stored := Option.some.inj ((Table.find_pk halert).symm.trans hfind)
    rw [hopen]
    rfl

theorem respects_suppressAlert {now : Instant} :
    Tx.Respects (OpensOnly K) (suppressAlert alert user comment now) :=
  Tx.respects_bind (respects_saveAlert fun _ => rfl) fun _ =>
    Tx.respects_bind respects_createAlertLog fun _ => Tx.respects_pure _

theorem respects_createSuppressedAlert {now createdAt : Instant} :
    Tx.Respects (OpensOnly K)
      (createSuppressedAlert py latest rule value threshold now createdAt) := by
  refine Tx.respects_bind (respects_createAlert fun hactive => ?_) fun _ =>
    Tx.respects_bind respects_createAlertLog fun _ => Tx.respects_pure _
  cases hactive

/-- The `<$>` of the engine. -/
theorem respects_map {α β : Type} {R : AlertsDb → AlertsDb → Prop} [IsPreorder AlertsDb R]
    {x : Engine α} {f : α → β} (hx : Tx.Respects R x) : Tx.Respects R (f <$> x) :=
  Tx.respects_bind hx fun _ => Tx.respects_pure _

/-- With an alert at hand, a true condition opens nothing. -/
theorem respects_ensureAlert_some {clock : ℕ → Instant} :
    Tx.Respects (OpensOnly K) (ensureAlert py latest rule value threshold (some alert) clock) := by
  refine Tx.respects_bind (Tx.respects_read _) fun suppressed => ?_
  dsimp only
  split
  · split
    · exact respects_map respects_suppressAlert
    · exact Tx.respects_pure _
  · split
    · exact respects_map respects_updateActiveAlert
    · exact Tx.respects_pure _

theorem respects_ensureAlert {found : Option AlertEvent} {clock : ℕ → Instant} :
    Tx.Respects (OpensOnly {conditionKey latest rule})
      (ensureAlert py latest rule value threshold found clock) := by
  cases found with
  | some alert => exact respects_ensureAlert_some
  | none =>
      refine Tx.respects_bind (Tx.respects_read _) fun suppressed => ?_
      dsimp only
      split
      · exact respects_map respects_createSuppressedAlert
      · refine Tx.respects_bind respects_maybeCreateDurationAlert fun lasted => ?_
        split
        · exact respects_map respects_openAlert
        · exact Tx.respects_pure _

theorem respects_resolveFound {found : Option AlertEvent} {clock : ℕ → Instant} :
    Tx.Respects (OpensOnly K) (resolveFound py latest rule found clock) := by
  cases found with
  | none => exact Tx.respects_bind respects_clearConditionState fun _ => Tx.respects_pure _
  | some alert =>
      unfold resolveFound
      dsimp only
      split
      · exact Tx.respects_bind respects_clearConditionState fun _ => Tx.respects_pure _
      · split
        · exact respects_map respects_resolveAlert
        · exact Tx.respects_pure _

/-- A rule's turn opens at most the key of the rule and the row. -/
theorem respects_ruleTurn {clock : ℕ → Instant} :
    Tx.Respects (OpensOnly {conditionKey latest rule}) (ruleTurn py latest rule clock) := by
  refine Tx.respects_atomic ?_
  split
  · exact Tx.respects_bind (Tx.respects_read _) fun _ => respects_ensureAlert
  · exact Tx.respects_bind (Tx.respects_read _) fun _ => respects_resolveFound

theorem respects_resolveUpsTrapAlertIfNeeded {clock : ℕ → Instant} :
    Tx.Respects (OpensOnly K) (resolveUpsTrapAlertIfNeeded py latest clock) := by
  unfold resolveUpsTrapAlertIfNeeded
  split
  · exact Tx.respects_raise _
  · exact Tx.respects_pure _
  · refine Tx.respects_bind (Tx.respects_read _) fun found => ?_
    cases found with
    | none => exact Tx.respects_pure _
    | some alert => exact respects_map respects_resolveAlert

/-- The turns of a list of rules respect what the turn of each rule respects. -/
theorem respects_ruleTurns {R : AlertsDb → AlertsDb → Prop} [IsPreorder AlertsDb R]
    {rules : List AlertRule} {clock : ℕ → ℕ → Instant}
    (hturn : ∀ rule clock, Tx.Respects R (ruleTurn py latest rule clock)) :
    Tx.Respects R (ruleTurns py latest rules clock) := by
  induction rules generalizing clock with
  | nil => exact Tx.respects_pure _
  | cons rule rules ih =>
      exact Tx.respects_bind (hturn rule _) fun _ =>
        Tx.respects_bind ih fun _ => Tx.respects_pure _

/-- **An evaluation** respects what the turns and the trap step respect. -/
theorem respects_evaluateLatest {R : AlertsDb → AlertsDb → Prop} [IsPreorder AlertsDb R]
    {cached : Option (List RuleId)} {clock : ℕ → ℕ → Instant}
    (hturn : ∀ rule clock, Tx.Respects R (ruleTurn py latest rule clock))
    (htrap : ∀ clock,
      Tx.Respects R (Tx.atomic (resolveUpsTrapAlertIfNeeded py latest clock))) :
    Tx.Respects R (evaluateLatest py latest cached clock) :=
  Tx.respects_bind (Tx.respects_read _) fun _ =>
    Tx.respects_bind (respects_ruleTurns hturn) fun _ =>
      Tx.respects_bind (htrap _) fun _ => Tx.respects_pure _

/-! ### Alerts without a rule -/

theorem respects_createOrUpdateTrapAlert {trap : Trap} {createdAt : Instant} :
    Tx.Respects (OpensOnly K) (createOrUpdateTrapAlert trap createdAt) := by
  have hopen : Tx.Respects (OpensOnly K) (openTrapAlert trap createdAt) := by
    refine Tx.respects_bind (respects_createAlert ?_) fun _ =>
      Tx.respects_bind respects_createAlertLog fun _ => Tx.respects_pure _
    rintro - key ⟨-, -, -, -, hrule⟩
    cases hrule
  refine Tx.respects_atomic (Tx.respects_bind (Tx.respects_read _) fun found => ?_)
  cases found with
  | none => exact hopen
  | some existing =>
      dsimp only
      split
      · exact Tx.respects_bind (respects_saveAlert (by simp)) fun _ =>
          Tx.respects_bind respects_createAlertLog fun _ => Tx.respects_pure _
      · exact hopen

theorem respects_openOrUpdateExactAlert {device : Device} {metric : MetricDefinition}
    {confirmationAt createdAt : Instant} :
    Tx.Respects (OpensOnly K)
      (openOrUpdateExactAlert device metric confirmationAt createdAt) := by
  refine Tx.respects_bind (Tx.respects_read _) fun found => ?_
  cases found with
  | some alert =>
      exact Tx.respects_bind (respects_saveAlert (by simp)) fun _ => Tx.respects_pure _
  | none =>
      refine Tx.respects_bind (respects_createAlert ?_) fun _ => Tx.respects_pure _
      rintro - key ⟨-, -, -, -, hrule⟩
      cases hrule

theorem respects_resolveExactAlert {device : Device} {metric : MetricDefinition}
    {confirmationAt : Instant} :
    Tx.Respects (OpensOnly K) (resolveExactAlert device metric confirmationAt) := by
  refine Tx.respects_bind (Tx.respects_read _) fun found => ?_
  cases found with
  | none => exact Tx.respects_pure _
  | some alert =>
      exact Tx.respects_bind (respects_saveAlert fun _ => rfl) fun _ => Tx.respects_pure _

theorem respects_confirmExactAlert {device : Device} {metric : MetricDefinition} {state : Bool}
    {confirmationAt createdAt : Instant} :
    Tx.Respects (OpensOnly K)
      (confirmExactAlert device metric state confirmationAt createdAt) := by
  refine Tx.respects_atomic ?_
  split
  · exact Tx.respects_bind respects_openOrUpdateExactAlert fun _ => Tx.respects_pure _
  · exact Tx.respects_bind respects_resolveExactAlert fun _ => Tx.respects_pure _

end Functions

/-! ### Statements on other tables -/

namespace AlertsDb

/-- The alerts are the same. -/
def SameAlerts (db db' : AlertsDb) : Prop := db'.alerts = db.alerts

instance : IsPreorder AlertsDb SameAlerts where
  refl _ := rfl
  trans _ _ _ h h' := Eq.trans h' h

end AlertsDb

section SameAlerts

open AlertsDb

variable {alert : AlertEvent} {user : Option UserId} {comment : Option String} {now : Instant}
  {db : AlertsDb}

theorem sameAlerts_createAlertLog {log : AlertEventLog} :
    Tx.Respects SameAlerts (createAlertLog log) := by
  intro db
  unfold createAlertLog
  split <;> rfl

theorem sameAlerts_commentOn {status : AlertStatus} :
    Tx.Respects SameAlerts (commentOn alert status user comment) := by
  unfold commentOn
  split
  · exact Tx.respects_pure _
  · exact Tx.respects_bind (fun _ => rfl) fun _ => sameAlerts_createAlertLog

/-- Of an acknowledgement only the save writes the alert. -/
theorem sameAlerts_acknowledgeAlert_after (hopen : alert.status = .open) :
    SameAlerts
      (saveAlert (alert.asAcknowledged user comment now)
        [.status, .acknowledgedBy, .acknowledgedAt, .acknowledgeComment] db).2
      (acknowledgeAlert alert user comment now db).2 := by
  rw [acknowledgeAlert, if_neg (not_not.mpr hopen)]
  exact Tx.rel_after_bind fun _ => Tx.respects_bind sameAlerts_commentOn fun _ =>
    Tx.respects_bind sameAlerts_createAlertLog fun _ => Tx.respects_pure _

end SameAlerts

/-! ### What a save does to the active alerts

The keys of the active alerts with a property, of which those of a `ConditionKey` are an
instance.  A save writes no column that names the scope of an alert. -/

namespace AlertsDb

/-- The keys of the active alerts with a property. -/
def activeWhere (db : AlertsDb) (P : AlertEvent → Prop) : Set AlertId :=
  {id | ∃ alert ∈ db.alerts, alert.id = id ∧ alert.status.isActive ∧ P alert}

section ActiveIds

variable {db db' : AlertsDb} {copy alert : AlertEvent} {columns : List AlertColumn}
  {key : ConditionKey} {P : AlertEvent → Prop}

theorem activeWhere_eq_of_alerts_eq (h : db'.alerts = db.alerts) :
    db'.activeWhere P = db.activeWhere P := by
  unfold activeWhere
  rw [h]

theorem activeIds_eq_of_alerts_eq (h : db'.alerts = db.alerts) :
    db'.activeIds key = db.activeIds key := activeWhere_eq_of_alerts_eq h

/-- A saved inactive status takes the alert out. -/
theorem Saved.activeWhere_closed (h : db.Saved db' copy columns) (hcolumn : .status ∈ columns)
    (hstatus : copy.status.isActive = false) :
    db'.activeWhere P = db.activeWhere P \ {copy.id} := by
  obtain ⟨stored, hfind, halerts⟩ := h
  obtain ⟨hmem, hpk⟩ := Table.find_eq_some_iff.mp hfind
  ext id
  simp only [activeWhere, halerts, Table.mem_save, Set.mem_ofPred_eq, Set.mem_sdiff,
    Set.mem_singleton_iff, pk_alertEvent, AlertEvent.write_id]
  constructor
  · rintro ⟨row, rfl | ⟨hold, hne⟩, rfl, hactive⟩
    · simp [AlertEvent.write_status, hcolumn, hstatus] at hactive
    · exact ⟨⟨row, hold, rfl, hactive⟩, hpk ▸ hne⟩
  · rintro ⟨⟨row, hold, rfl, hactive⟩, hne⟩
    exact ⟨row, Or.inr ⟨hold, by rwa [← hpk] at hne⟩, rfl, hactive⟩

/-- A save changes nothing where the written row counts exactly if the stored one did. -/
theorem Saved.activeWhere_congr (h : db.Saved db' copy columns)
    (hwrite : ∀ stored, db.alerts.find copy.id = some stored →
      ((AlertEvent.write columns copy stored).status.isActive ∧
          P (AlertEvent.write columns copy stored) ↔ stored.status.isActive ∧ P stored)) :
    db'.activeWhere P = db.activeWhere P := by
  obtain ⟨stored, hfind, halerts⟩ := h
  obtain ⟨hmem, -⟩ := Table.find_eq_some_iff.mp hfind
  have hiff := hwrite stored hfind
  ext id
  simp only [activeWhere, halerts, Table.mem_save, Set.mem_ofPred_eq, pk_alertEvent,
    AlertEvent.write_id]
  constructor
  · rintro ⟨row, rfl | ⟨hold, -⟩, rfl, hactive⟩
    · exact ⟨stored, hmem, rfl, hiff.mp hactive⟩
    · exact ⟨row, hold, rfl, hactive⟩
  · rintro ⟨row, hold, rfl, hactive⟩
    by_cases hid : row.id = stored.id
    · obtain rfl : row = stored := db.alerts.eq_of_pk_eq hold hmem hid
      exact ⟨_, Or.inl rfl, rfl, hiff.mpr hactive⟩
    · exact ⟨row, Or.inr ⟨hold, hid⟩, rfl, hactive⟩

/-- A save of other columns changes nothing. -/
theorem Saved.activeWhere_kept (h : db.Saved db' copy columns) (hcolumn : .status ∉ columns)
    (hwrite : ∀ stored, db.alerts.find copy.id = some stored →
      (P (AlertEvent.write columns copy stored) ↔ P stored)) :
    db'.activeWhere P = db.activeWhere P := by
  refine h.activeWhere_congr fun stored hfind => ?_
  rw [AlertEvent.write_status, if_neg hcolumn, hwrite stored hfind]

theorem Saved.activeIds_closed (h : db.Saved db' copy columns) (hcolumn : .status ∈ columns)
    (hstatus : copy.status.isActive = false) :
    db'.activeIds key = db.activeIds key \ {copy.id} :=
  h.activeWhere_closed hcolumn hstatus

theorem Saved.activeIds_kept (h : db.Saved db' copy columns) (hcolumn : .status ∉ columns) :
    db'.activeIds key = db.activeIds key :=
  h.activeWhere_kept hcolumn fun _ _ => Iff.rfl

theorem Created.mem_alerts_iff (h : db.Created db' alert) {row : AlertEvent} :
    row ∈ db'.alerts ↔ row = alert ∨ row ∈ db.alerts := by
  obtain ⟨hid, halerts⟩ := h
  rw [halerts, Table.mem_save]
  refine or_congr_right (and_iff_left_of_imp fun hold => ?_)
  have := db.alerts.pk_lt_nextPk row hold
  rw [pk_alertEvent] at this ⊢
  rw [pk_alertEvent, hid]
  omega

/-- An insertion adds the alert, if it is active. -/
theorem Created.mem_activeWhere_iff (h : db.Created db' alert) {id : AlertId} :
    id ∈ db'.activeWhere P ↔
      (id = alert.id ∧ alert.status.isActive ∧ P alert) ∨ id ∈ db.activeWhere P := by
  simp only [activeWhere, Set.mem_ofPred_eq, h.mem_alerts_iff]
  constructor
  · rintro ⟨row, rfl | hold, rfl, hactive⟩
    · exact Or.inl ⟨rfl, hactive⟩
    · exact Or.inr ⟨row, hold, rfl, hactive⟩
  · rintro (⟨rfl, hactive⟩ | ⟨row, hold, rfl, hactive⟩)
    · exact ⟨alert, Or.inl rfl, rfl, hactive⟩
    · exact ⟨row, Or.inr hold, rfl, hactive⟩

/-- An insertion adds the alert to its own key, if it is active. -/
theorem Created.mem_activeIds_iff (h : db.Created db' alert) {id : AlertId} :
    id ∈ db'.activeIds key ↔
      (id = alert.id ∧ alert.ActiveFor key) ∨ id ∈ db.activeIds key :=
  h.mem_activeWhere_iff

end ActiveIds

/-- Alerts that are not active stay as they are. -/
def Frozen (db db' : AlertsDb) : Prop :=
  ∀ alert ∈ db.alerts, alert.status.isActive = false → alert ∈ db'.alerts

instance : IsPreorder AlertsDb Frozen where
  refl _ _ halert _ := halert
  trans _ _ _ h h' alert halert hclosed := h' alert (h alert halert hclosed) hclosed

section Frozen

variable {db db' : AlertsDb} {copy alert : AlertEvent} {columns : List AlertColumn}

theorem frozen_of_alerts_eq (h : db'.alerts = db.alerts) : db.Frozen db' :=
  fun _ halert _ => h ▸ halert

/-- A save on an active row touches no other. -/
theorem Saved.frozen (h : db.Saved db' copy columns) (halert : alert ∈ db.alerts)
    (hid : copy.id = alert.id) (hactive : alert.status.isActive) : db.Frozen db' := by
  obtain ⟨stored, hfind, halerts⟩ := h
  rw [hid, ← pk_alertEvent, Table.find_pk halert] at hfind
  obtain rfl := Option.some.inj hfind
  intro other hother hclosed
  rw [halerts]
  refine Table.mem_save.mpr (Or.inr ⟨hother, fun hsame => ?_⟩)
  obtain rfl : other = alert := db.alerts.eq_of_pk_eq hother halert hsame
  rw [hactive] at hclosed
  cases hclosed

/-- The row that a save leaves behind. -/
theorem Saved.exists_row (h : db.Saved db' copy columns) :
    ∃ row ∈ db'.alerts, row.id = copy.id ∧
      (.status ∈ columns → row.status = copy.status) := by
  obtain ⟨stored, hfind, halerts⟩ := h
  obtain ⟨-, hpk⟩ := Table.find_eq_some_iff.mp hfind
  refine ⟨AlertEvent.write columns copy stored, ?_, hpk, fun hcolumn => ?_⟩
  · rw [halerts]
    exact Table.mem_save.mpr (Or.inl rfl)
  · rw [AlertEvent.write_status, if_pos hcolumn]

theorem Created.frozen (h : db.Created db' alert) : db.Frozen db' :=
  fun _ hother _ => h.mem_alerts_iff.mpr (Or.inr hother)

end Frozen

end AlertsDb

/-! ### Functions that succeed -/

section Succeeds

variable {db db' : AlertsDb} {py : PyText} {latest : LatestTelemetry} {rule : AlertRule}
  {alert result : AlertEvent} {value threshold : PyValue} {user : Option UserId}
  {comment : Option String}

theorem updateActiveAlert_ok {now : Instant}
    (h : updateActiveAlert py alert latest value threshold now db = (.ok result, db')) :
    result.id = alert.id ∧ result.status = alert.status ∧
      db.Saved db' result [.lastSeenAt, .message, .valueFloat, .valueInteger, .valueBoolean,
        .valueText, .occurrenceCount, .metadata] := by
  obtain ⟨found, db₁, hread, h⟩ := Tx.bind_eq_ok_iff.mp h
  obtain ⟨hfound, rfl⟩ := Prod.mk.inj hread
  cases found with
  | none => cases (Prod.mk.inj h).1
  | some rule =>
      obtain ⟨_, db₂, hsave, h⟩ := Tx.bind_eq_ok_iff.mp h
      obtain ⟨_, db₃, hlog, h⟩ := Tx.bind_eq_ok_iff.mp h
      obtain ⟨⟨rfl⟩, rfl⟩ := Prod.mk.inj h
      obtain rfl := createAlertLog_ok hlog
      obtain ⟨stored, hfind, halerts⟩ := saveAlert_ok hsave
      exact ⟨rfl, rfl, stored, hfind, halerts⟩

theorem resolveAlert_ok {latest : Option LatestTelemetry} {resolutionType : String}
    {now : Instant}
    (h : resolveAlert py alert latest resolutionType user comment now db = (.ok result, db')) :
    result.id = alert.id ∧ result.status = .resolved ∧
      db.Saved db' result [.status, .resolvedAt, .resolvedBy, .resolutionType,
        .resolveComment, .lastSeenAt] := by
  obtain ⟨_, db₁, hsave, h⟩ := Tx.bind_eq_ok_iff.mp h
  obtain ⟨found, db₂, hread, h⟩ := Tx.bind_eq_ok_iff.mp h
  obtain ⟨-, rfl⟩ := Prod.mk.inj hread
  obtain ⟨_, db₃, hlog, h⟩ := Tx.bind_eq_ok_iff.mp h
  obtain ⟨⟨rfl⟩, rfl⟩ := Prod.mk.inj h
  obtain rfl := createAlertLog_ok hlog
  obtain ⟨stored, hfind, halerts⟩ := saveAlert_ok hsave
  exact ⟨rfl, rfl, stored, hfind, halerts⟩

theorem suppressAlert_ok {now : Instant}
    (h : suppressAlert alert user comment now db = (.ok result, db')) :
    result.id = alert.id ∧ result.status = .suppressed ∧
      db.Saved db' result [.status, .resolvedAt, .resolvedBy, .resolutionType,
        .resolveComment] := by
  obtain ⟨_, db₁, hsave, h⟩ := Tx.bind_eq_ok_iff.mp h
  obtain ⟨_, db₂, hlog, h⟩ := Tx.bind_eq_ok_iff.mp h
  obtain ⟨⟨rfl⟩, rfl⟩ := Prod.mk.inj h
  obtain rfl := createAlertLog_ok hlog
  obtain ⟨stored, hfind, halerts⟩ := saveAlert_ok hsave
  exact ⟨rfl, rfl, stored, hfind, halerts⟩

theorem openAlert_ok {now createdAt : Instant}
    (h : openAlert py rule latest value threshold now createdAt db = (.ok result, db')) :
    result.ActiveFor (conditionKey latest rule) ∧ db.Created db' result := by
  obtain ⟨_, db₁, hcreate, h⟩ := Tx.bind_eq_ok_iff.mp h
  obtain ⟨_, db₂, hlog, h⟩ := Tx.bind_eq_ok_iff.mp h
  obtain ⟨⟨rfl⟩, rfl⟩ := Prod.mk.inj h
  obtain rfl := createAlertLog_ok hlog
  obtain ⟨rfl, hcreated⟩ := createAlert_ok hcreate
  exact ⟨⟨rfl, rfl, rfl, rfl, rfl, rfl⟩, hcreated⟩

theorem createSuppressedAlert_ok {now createdAt : Instant}
    (h : createSuppressedAlert py latest rule value threshold now createdAt db =
      (.ok result, db')) :
    result.status = .suppressed ∧ db.Created db' result := by
  obtain ⟨_, db₁, hcreate, h⟩ := Tx.bind_eq_ok_iff.mp h
  obtain ⟨_, db₂, hlog, h⟩ := Tx.bind_eq_ok_iff.mp h
  obtain ⟨⟨rfl⟩, rfl⟩ := Prod.mk.inj h
  obtain rfl := createAlertLog_ok hlog
  obtain ⟨rfl, hcreated⟩ := createAlert_ok hcreate
  exact ⟨rfl, hcreated⟩

theorem maybeCreateDurationAlert_ok {now : Instant} {lasted : Bool}
    (h : maybeCreateDurationAlert latest rule now db = (.ok lasted, db')) :
    db'.alerts = db.alerts ∧ (rule.durationSeconds = 0 → lasted = true) := by
  obtain ⟨state, db₁, hstate, h⟩ := Tx.bind_eq_ok_iff.mp h
  obtain ⟨⟨rfl⟩, rfl⟩ := Prod.mk.inj h
  obtain ⟨existing, db₂, hread, hstate⟩ := Tx.bind_eq_ok_iff.mp hstate
  obtain ⟨-, rfl⟩ := Prod.mk.inj hread
  obtain ⟨_, db₃, hsave, hstate⟩ := Tx.bind_eq_ok_iff.mp hstate
  obtain ⟨-, rfl⟩ := Prod.mk.inj hstate
  obtain ⟨-, rfl⟩ := saveConditionState_ok hsave
  exact ⟨rfl, fun hzero => by simp [hzero]⟩

/-- The `<$>` of the engine. -/
theorem map_eq_ok_iff {α β : Type} {x : Engine α} {f : α → β} {b : β} :
    (f <$> x) db = (.ok b, db') ↔ ∃ a, x db = (.ok a, db') ∧ f a = b := by
  refine Tx.bind_eq_ok_iff.trans ⟨?_, ?_⟩
  · rintro ⟨a, db₁, hx, hf⟩
    obtain ⟨hab, rfl⟩ := Prod.mk.inj hf
    exact ⟨a, hx, Except.ok.inj hab⟩
  · rintro ⟨a, hx, rfl⟩
    exact ⟨a, db', hx, rfl⟩

/-- An evaluation that returns is the turns of the matching rules, and then the trap step. -/
theorem evaluateLatest_ok {cached : Option (List RuleId)} {clock : ℕ → ℕ → Instant}
    {alerts : List AlertEvent}
    (h : evaluateLatest py latest cached clock db = (.ok alerts, db')) :
    ∃ turnAlerts trapAlert db₁,
      ruleTurns py latest (getMatchingRules db latest cached) clock db = (.ok turnAlerts, db₁) ∧
      resolveUpsTrapAlertIfNeeded py latest
        (clock (getMatchingRules db latest cached).length) db₁ = (.ok trapAlert, db') ∧
      alerts = turnAlerts ++ trapAlert.toList := by
  obtain ⟨rules, db₁, hread, h⟩ := Tx.bind_eq_ok_iff.mp h
  obtain ⟨⟨rfl⟩, rfl⟩ := Prod.mk.inj hread
  obtain ⟨turnAlerts, db₂, hturns, h⟩ := Tx.bind_eq_ok_iff.mp h
  obtain ⟨trapAlert, db₃, htrap, h⟩ := Tx.bind_eq_ok_iff.mp h
  obtain ⟨⟨rfl⟩, rfl⟩ := Prod.mk.inj h
  exact ⟨turnAlerts, trapAlert, db₂, hturns, Tx.atomic_eq_ok_iff.mp htrap, rfl⟩

end Succeeds

end DcimBackend
