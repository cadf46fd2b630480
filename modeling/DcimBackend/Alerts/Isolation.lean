import DcimBackend.Alerts.Confirmation
import DcimBackend.Alerts.Evidence

/-!
# Turns apart from each other

A rule's turn on a row reads and writes the alerts and the condition state of one key.
`Undisturbed key` says that nothing which a turn of that key looks at has changed, and
every turn leaves all other keys undisturbed, whether it returns or raises.

So what a turn does inside an evaluation is what it does in the state in front of the
evaluation.  `turnRaises` says when it raises: PostgreSQL stores no snapshot with a NaN or
an infinity, and no count beyond its column.  A turn that raises ends the evaluation, and
`settled_ruleTurns_iff` says what is left of it: the rules in front of it are settled, and
the others have the alerts they had.

The isolation is what makes statements about an evaluation tractable.  Its rules are told apart by
their keys, so a turn commutes with what the others have left, and what it does is read off the
state in front of the loop.  The modules behind this one use its theorems and never look inside a
turn again.
-/

namespace DcimBackend

open Library

/-- An alert without a rule belongs to no key. -/
theorem AlertEvent.not_hasKey_of_none {alert : AlertEvent} (h : alert.alertRule = none)
    (key : ConditionKey) : ¬alert.HasKey key := by
  rintro ⟨-, -, -, -, hkey⟩
  rw [h] at hkey
  cases hkey

namespace AlertsDb

/-! ### The alerts of a key -/

/-- The alerts of a key, active or not. -/
def alertsFor (db : AlertsDb) (key : ConditionKey) : List AlertEvent :=
  db.alerts.select fun alert => alert.HasKey key

/-- The alerts of a key are the same. -/
def SameFor (key : ConditionKey) (db db' : AlertsDb) : Prop :=
  db'.alertsFor key = db.alertsFor key

instance {key : ConditionKey} : IsPreorder AlertsDb (SameFor key) where
  refl _ := rfl
  trans _ _ _ h h' := h'.trans h

section SameFor

variable {key : ConditionKey} {db db' : AlertsDb} {latest : LatestTelemetry} {rule : AlertRule}

theorem mem_alertsFor {alert : AlertEvent} :
    alert ∈ db.alertsFor key ↔ alert ∈ db.alerts ∧ alert.HasKey key := by
  rw [alertsFor, Table.mem_select, decide_eq_true_iff]

theorem SameFor.activeIds_eq (h : SameFor key db db') : db'.activeIds key = db.activeIds key := by
  have hids : ∀ db : AlertsDb, db.activeIds key =
      {id | ∃ alert ∈ db.alertsFor key, alert.id = id ∧ alert.status.isActive} := by
    intro db
    ext id
    constructor
    · rintro ⟨alert, halert, hid, hactive, hkey⟩
      exact ⟨alert, mem_alertsFor.mpr ⟨halert, hkey⟩, hid, hactive⟩
    · rintro ⟨alert, hmem, hid, hactive⟩
      obtain ⟨halert, hkey⟩ := mem_alertsFor.mp hmem
      exact ⟨alert, halert, hid, hactive, hkey⟩
  rw [hids, hids, show db'.alertsFor key = db.alertsFor key from h]

/-- The lookup of a turn sees the alerts of its key only. -/
theorem SameFor.activeAlertForRule_eq (h : SameFor (conditionKey latest rule) db db') :
    activeAlertForRule latest rule db' = activeAlertForRule latest rule db := by
  have hfound : ∀ db : AlertsDb, activeAlertForRule latest rule db =
      latestAlert ((db.alertsFor (conditionKey latest rule)).filter
        fun alert => alert.status.isActive) := by
    intro db
    rw [activeAlertForRule, alertsFor, Table.select, Table.select, List.filter_filter]
  rw [hfound, hfound, show db'.alertsFor (conditionKey latest rule) = _ from h]

/-! ### What leaves the alerts of a predicate alone -/

/-- The alerts of a predicate are the same. -/
def SameWhere (P : AlertEvent → Bool) (db db' : AlertsDb) : Prop :=
  db'.alerts.select P = db.alerts.select P

instance {P : AlertEvent → Bool} : IsPreorder AlertsDb (SameWhere P) where
  refl _ := rfl
  trans _ _ _ h h' := h'.trans h

/-- The predicate looks at no column that is ever saved again, and not at the key. -/
structure FixedColumns (P : AlertEvent → Bool) : Prop where
  write : ∀ columns copy stored, P (AlertEvent.write columns copy stored) = P stored
  id : ∀ (row : AlertEvent) (id : AlertId), P { row with id := id } = P row

theorem fixedColumns_hasKey : FixedColumns fun alert => alert.HasKey key :=
  ⟨fun _ _ _ => rfl, fun _ _ => rfl⟩

theorem sameWhere_of_alerts_eq {P : AlertEvent → Bool} (h : db'.alerts = db.alerts) :
    SameWhere P db db' := by
  unfold SameWhere
  rw [h]

section Functions

variable {P : AlertEvent → Bool} {py : PyText} {alert : AlertEvent} {value threshold : PyValue}
  {user : Option UserId} {comment : Option String} {now : Instant}

/-- A save on another alert. -/
theorem sameWhere_saveAlert (hP : FixedColumns P) {copy : AlertEvent}
    {columns : List AlertColumn} (halert : alert ∈ db.alerts) (hnot : P alert = false)
    (hid : copy.id = alert.id) : SameWhere P db (saveAlert copy columns db).2 := by
  have hfind : db.alerts.find copy.id = some alert := by
    rw [hid]
    exact Table.find_pk halert
  simp only [saveAlert, hfind, saveAlertRow]
  split
  · split
    · refine Table.select_save_of_not ((hP.write _ _ _).trans hnot) fun old hold hpk => ?_
      obtain rfl : old = alert := db.alerts.eq_of_pk_eq hold halert hpk
      exact hnot
    · exact refl_of (SameWhere P) db
  · exact refl_of (SameWhere P) db

/-- The insertion of another alert. -/
theorem sameWhere_createAlert (hP : FixedColumns P) {row : AlertEvent} (hnot : P row = false) :
    Tx.Respects (SameWhere P) (createAlert row) := by
  intro db
  refine Tx.rel_bind ?_ fun _ => Tx.respects_pure _
  unfold saveAlertRow
  split
  · split
    · refine Table.select_save_of_not ((hP.id _ _).trans hnot) fun old hold hpk => ?_
      have hlt := db.alerts.pk_lt_nextPk old hold
      rw [hpk] at hlt
      exact absurd hlt (lt_irrefl _)
    · exact refl_of (SameWhere P) db
  · exact refl_of (SameWhere P) db

theorem sameWhere_createAlertLog {log : AlertEventLog} :
    Tx.Respects (SameWhere P) (createAlertLog log) := by
  intro db
  unfold createAlertLog
  split <;> exact refl_of (SameWhere P) db

/-- A computation that goes on after a look at the state. -/
theorem rel_read {α β : Type} {R : AlertsDb → AlertsDb → Prop} {f : AlertsDb → α}
    {g : α → Engine β} (h : R db (g (f db) db).2) : R db ((Tx.read f >>= g) db).2 := h

theorem rel_map {α β : Type} {R : AlertsDb → AlertsDb → Prop} [IsPreorder AlertsDb R]
    {x : Engine α} {f : α → β} (h : R db (x db).2) : R db ((f <$> x) db).2 :=
  Tx.rel_bind h fun _ => Tx.respects_pure _

theorem sameWhere_resolveAlert (hP : FixedColumns P) {latest : Option LatestTelemetry}
    {resolutionType : String} (halert : alert ∈ db.alerts) (hnot : P alert = false) :
    SameWhere P db (resolveAlert py alert latest resolutionType user comment now db).2 :=
  Tx.rel_bind (sameWhere_saveAlert hP halert hnot rfl) fun _ =>
    Tx.respects_bind (Tx.respects_read _) fun _ =>
      Tx.respects_bind sameWhere_createAlertLog fun _ => Tx.respects_pure _

theorem sameWhere_suppressAlert (hP : FixedColumns P) (halert : alert ∈ db.alerts)
    (hnot : P alert = false) : SameWhere P db (suppressAlert alert user comment now db).2 :=
  Tx.rel_bind (sameWhere_saveAlert hP halert hnot rfl) fun _ =>
    Tx.respects_bind sameWhere_createAlertLog fun _ => Tx.respects_pure _

theorem sameWhere_updateActiveAlert (hP : FixedColumns P) (halert : alert ∈ db.alerts)
    (hnot : P alert = false) :
    SameWhere P db (updateActiveAlert py alert latest value threshold now db).2 := by
  refine rel_read ?_
  cases alert.alertRule.bind db.rules.find with
  | none => exact refl_of (SameWhere P) db
  | some rule => exact Tx.rel_bind (sameWhere_saveAlert hP halert hnot rfl) fun _ =>
      Tx.respects_bind sameWhere_createAlertLog fun _ => Tx.respects_pure _

/-- The new alert of a rule has the key of the rule and the row. -/
theorem sameWhere_openAlert (hP : FixedColumns P) {createdAt : Instant}
    (hkey : ∀ alert : AlertEvent, alert.HasKey (conditionKey latest rule) → P alert = false) :
    Tx.Respects (SameWhere P) (openAlert py rule latest value threshold now createdAt) :=
  Tx.respects_bind (sameWhere_createAlert hP (hkey _ ⟨rfl, rfl, rfl, rfl, rfl⟩)) fun _ =>
    Tx.respects_bind sameWhere_createAlertLog fun _ => Tx.respects_pure _

theorem sameWhere_createSuppressedAlert (hP : FixedColumns P) {createdAt : Instant}
    (hkey : ∀ alert : AlertEvent, alert.HasKey (conditionKey latest rule) → P alert = false) :
    Tx.Respects (SameWhere P)
      (createSuppressedAlert py latest rule value threshold now createdAt) :=
  Tx.respects_bind (sameWhere_createAlert hP (hkey _ ⟨rfl, rfl, rfl, rfl, rfl⟩)) fun _ =>
    Tx.respects_bind sameWhere_createAlertLog fun _ => Tx.respects_pure _

/-- The duration check writes condition states. -/
theorem sameWhere_maybeCreateDurationAlert :
    Tx.Respects (SameWhere P) (maybeCreateDurationAlert latest rule now) := by
  intro db
  rcases @maybeCreateDurationAlert_apply latest rule db now with
    ⟨e, h⟩ | ⟨state, hrule, -, -, h⟩
  · rw [h]
    exact refl_of (SameWhere P) db
  · rw [h]
    exact sameWhere_of_alerts_eq rfl

/-- A turn leaves alone what alerts of its key are not. -/
theorem sameWhere_ruleTurn (hP : FixedColumns P) {clock : ℕ → Instant}
    (hkey : ∀ alert : AlertEvent, alert.HasKey (conditionKey latest rule) → P alert = false) :
    Tx.Respects (SameWhere P) (ruleTurn py latest rule clock) := by
  intro db
  cases hfound : activeAlertForRule latest rule db with
  | some alert =>
      obtain ⟨halert, hactive, hhas⟩ := activeAlertForRule_some hfound
      have hnot : P alert = false := hkey alert hhas
      cases htrue : (evaluateRuleCondition rule latest).1 with
      | true =>
          rw [ruleTurn_of_true htrue hfound]
          refine Tx.rel_atomic (rel_read ?_)
          dsimp only
          split
          · split
            · exact rel_map (sameWhere_suppressAlert hP halert hnot)
            · exact refl_of (SameWhere P) db
          · exact rel_map (sameWhere_updateActiveAlert hP halert hnot)
      | false =>
          rw [ruleTurn_of_false htrue hfound, resolveFound_of_active hactive]
          exact Tx.rel_atomic (rel_map (sameWhere_resolveAlert hP halert hnot))
  | none =>
      cases htrue : (evaluateRuleCondition rule latest).1 with
      | true =>
          rw [ruleTurn_of_true htrue hfound]
          refine Tx.rel_atomic (rel_read ?_)
          dsimp only
          split
          · exact rel_map (sameWhere_createSuppressedAlert hP hkey db)
          · refine Tx.rel_bind (sameWhere_maybeCreateDurationAlert db) fun lasted => ?_
            split
            · exact respects_map (sameWhere_openAlert hP hkey)
            · exact Tx.respects_pure _
      | false =>
          rw [ruleTurn_of_false htrue hfound]
          exact sameWhere_of_alerts_eq rfl

/-- A turn leaves the alerts of all other keys alone. -/
theorem sameFor_ruleTurn {clock : ℕ → Instant} (hne : key ≠ conditionKey latest rule) :
    Tx.Respects (SameFor key) (ruleTurn py latest rule clock) :=
  sameWhere_ruleTurn fixedColumns_hasKey fun _ hhas =>
    decide_eq_false fun hkey => hne (hkey.unique hhas)

/-- An alert without a rule is none of those of a key. -/
theorem not_hasKey_of_no_rule (h : alert.alertRule = none) : decide (alert.HasKey key) = false :=
  decide_eq_false (AlertEvent.not_hasKey_of_none h key)

/-- The trap step closes an alert without a rule. -/
theorem sameFor_resolveUpsTrapAlertIfNeeded {clock : ℕ → Instant} :
    Tx.Respects (SameFor key) (resolveUpsTrapAlertIfNeeded py latest clock) := by
  intro db
  unfold resolveUpsTrapAlertIfNeeded
  rcases isUpsAbnormalConditionCleared py latest with e | _ | _
  · exact refl_of (SameFor key) db
  · exact refl_of (SameFor key) db
  · refine rel_read ?_
    cases hfound : latestAlert (db.alerts.select (isUpsTrapAlert py latest)) with
    | none => exact refl_of (SameFor key) db
    | some alert =>
        obtain ⟨halert, htrap⟩ := Table.mem_select.mp (List.argmax_mem hfound)
        simp only [isUpsTrapAlert, Bool.and_eq_true, decide_eq_true_eq] at htrap
        exact rel_map (sameWhere_resolveAlert fixedColumns_hasKey halert
          (not_hasKey_of_no_rule htrap.1.1.2))

/-- The exact alerts have no rule either. -/
theorem sameFor_confirmExactAlert {device : Device} {metric : MetricDefinition} {state : Bool}
    {confirmationAt createdAt : Instant} :
    Tx.Respects (SameFor key)
      (confirmExactAlert device metric state confirmationAt createdAt) := by
  have hexact : ∀ (db : AlertsDb) (alert : AlertEvent),
      latestAlert (db.alerts.select (isExactAlert device metric)) = some alert →
        alert ∈ db.alerts ∧ decide (alert.HasKey key) = false := by
    intro db alert hfound
    obtain ⟨halert, hexact⟩ := Table.mem_select.mp (List.argmax_mem hfound)
    simp only [isExactAlert, Bool.and_eq_true, decide_eq_true_eq] at hexact
    exact ⟨halert, not_hasKey_of_no_rule hexact.1.2⟩
  intro db
  refine Tx.rel_atomic ?_
  cases state with
  | true =>
      refine Tx.rel_bind (rel_read ?_) fun _ => Tx.respects_pure _
      cases hfound : latestAlert (db.alerts.select (isExactAlert device metric)) with
      | some alert =>
          obtain ⟨halert, hkey⟩ := hexact db alert hfound
          exact Tx.rel_bind (sameWhere_saveAlert fixedColumns_hasKey halert hkey rfl) fun _ =>
            Tx.respects_pure _
      | none =>
          exact Tx.rel_bind (sameWhere_createAlert fixedColumns_hasKey
            (not_hasKey_of_no_rule rfl) db) fun _ => Tx.respects_pure _
  | false =>
      refine Tx.rel_bind (rel_read ?_) fun _ => Tx.respects_pure _
      cases hfound : latestAlert (db.alerts.select (isExactAlert device metric)) with
      | none => exact refl_of (SameFor key) db
      | some alert =>
          obtain ⟨halert, hkey⟩ := hexact db alert hfound
          exact Tx.rel_bind (sameWhere_saveAlert fixedColumns_hasKey halert hkey rfl) fun _ =>
            Tx.respects_pure _

end Functions

end SameFor

/-! ### What a turn looks at -/

/-- Nothing that a turn of a key looks at has changed. -/
structure Undisturbed (key : ConditionKey) (db db' : AlertsDb) : Prop where
  alerts : SameFor key db db'
  timer : KeepsTimer key db db'
  setup : db.SameSetup db'

instance {key : ConditionKey} : IsPreorder AlertsDb (Undisturbed key) where
  refl db := ⟨refl_of (SameFor key) db, refl_of (KeepsTimer key) db, refl_of SameSetup db⟩
  trans _ _ _ h h' :=
    ⟨trans_of (SameFor key) h.alerts h'.alerts, trans_of (KeepsTimer key) h.timer h'.timer,
      trans_of SameSetup h.setup h'.setup⟩

section Raises

variable {key : ConditionKey} {db db' : AlertsDb} {py : PyText} {latest : LatestTelemetry}
  {rule : AlertRule} {alert : AlertEvent} {value threshold : PyValue} {now createdAt : Instant}
  {clock : ℕ → Instant}

theorem undisturbed_ruleTurn (hne : key ≠ conditionKey latest rule) :
    Tx.Respects (Undisturbed key) (ruleTurn py latest rule clock) := fun db =>
  ⟨sameFor_ruleTurn hne db, keepsTimer_ruleTurn hne db, (respects_ruleTurn db).setup⟩

/-- The turn of a rule, without suppression, raises: what it would log cannot be stored, or
the count of the alert that it would update is at its end. -/
def turnRaises (py : PyText) (latest : LatestTelemetry) (rule : AlertRule) (now : Instant)
    (db : AlertsDb) : Bool :=
  let storable := (resolutionSnapshot py latest rule).storable
  match (evaluateRuleCondition rule latest).1, activeAlertForRule latest rule db with
  | true, some alert => !(storable && alert.occurrenceCount < 2147483647)
  | true, none => db.lasted latest rule now && !storable
  | false, some _ => !storable
  | false, none => false

theorem Undisturbed.turnRaises_eq (h : Undisturbed (conditionKey latest rule) db db') :
    turnRaises py latest rule now db' = turnRaises py latest rule now db := by
  have hlasted : db'.lasted latest rule now = db.lasted latest rule now := by
    have htimer : db'.findConditionState (conditionKey latest rule) = _ := h.timer
    rw [lasted, lasted, timerStart, timerStart, htimer]
  simp only [turnRaises, h.alerts.activeAlertForRule_eq, hlasted]

/-! ### When a turn raises -/

/-- The snapshot of a condition is the one that a resolution logs. -/
theorem snapshot_evaluateRuleCondition :
    valueSnapshot py (some latest) (evaluateRuleCondition rule latest).2.1
      (evaluateRuleCondition rule latest).2.2 = resolutionSnapshot py latest rule := by
  unfold evaluateRuleCondition
  dsimp only
  split <;> rfl

theorem storable_alert_iff :
    alert.storable ↔ alert.metadata.storable ∧ alert.occurrenceCount ≤ 2147483647 := by
  simp [AlertEvent.storable]

/-- Metadata with one more field can be stored if the field can. -/
theorem storable_merge_iff {d : Dict} {name : String} {field : Json} (hd : d.storable) :
    (Dict.merge d [(name, field)]).storable ↔ field.storable := by
  rw [Dict.storable_iff] at hd ⊢
  constructor
  · intro h
    cases hlookup : d.lookup name with
    | none =>
        refine h (name, field) (List.mem_append_right _ (List.mem_filter.mpr ⟨?_, ?_⟩))
        · exact List.mem_singleton.mpr rfl
        · rw [hlookup]
          rfl
    | some old =>
        obtain ⟨other, hother, hname⟩ : ∃ other ∈ d, other.1 = name := by
          by_contra hnone
          push Not at hnone
          have hmissing : d.lookup name = none :=
            List.lookup_eq_none_iff.mpr fun other hother => by
              simpa using (hnone other hother).symm
          rw [hmissing] at hlookup
          cases hlookup
        have hfield := h (other.1, ([(name, field)].lookup other.1).getD other.2)
          (List.mem_append_left _ (List.mem_map.mpr ⟨other, hother, rfl⟩))
        simpa [hname] using hfield
  · intro hfield other hother
    rcases List.mem_append.mp hother with hmap | hnew
    · obtain ⟨old, hold, rfl⟩ := List.mem_map.mp hmap
      by_cases hname : old.1 = name
      · simpa [hname] using hfield
      · have hkept : [(name, field)].lookup old.1 = none :=
          List.lookup_eq_none_iff.mpr fun other hother => by
            obtain rfl := List.mem_singleton.mp hother
            simpa using hname
        simpa [hkept] using hd old hold
    · obtain rfl := List.mem_singleton.mp (List.mem_of_mem_filter hnew)
      exact hfield

/-- Inserting a row of a stored rule succeeds exactly if its columns can hold it. -/
theorem createAlert_succeeds_iff {row : AlertEvent} (hrule : rule ∈ db.rules)
    (hkey : row.alertRule = some rule.id) :
    (∃ alert db', createAlert row db = (.ok alert, db')) ↔ row.storable := by
  constructor
  · rintro ⟨alert, db', h⟩
    obtain ⟨rfl, hcreated⟩ := createAlert_ok h
    have hstorable := db'.alert_storable _ (hcreated.mem_alerts_iff.mpr (Or.inl rfl))
    exact hstorable
  · intro hstorable
    have hreferenced : ∀ id, row.alertRule = some id → (db.rules.find id).isSome := by
      intro id hid
      rw [hkey] at hid
      obtain rfl := Option.some.inj hid
      exact Table.isSome_find_iff.mpr ⟨rule, hrule, rfl⟩
    obtain ⟨db', h⟩ := createAlert_of_storable hstorable hreferenced
    exact ⟨_, db', h⟩

/-- Saving columns of a stored row succeeds exactly if the row can hold them. -/
theorem saveAlert_succeeds_iff {copy : AlertEvent} {columns : List AlertColumn}
    (halert : alert ∈ db.alerts) (hid : copy.id = alert.id) :
    (∃ db', saveAlert copy columns db = (.ok ⟨⟩, db')) ↔
      (AlertEvent.write columns copy alert).storable := by
  have hfind : db.alerts.find copy.id = some alert := by
    rw [hid]
    exact Table.find_pk halert
  constructor
  · rintro ⟨db', h⟩
    obtain ⟨stored, hstored, halerts⟩ := saveAlert_ok h
    obtain rfl : alert = stored := Option.some.inj (hfind.symm.trans hstored)
    refine db'.alert_storable _ ?_
    rw [halerts]
    exact Table.mem_def.mp (Table.mem_save.mpr (Or.inl rfl))
  · intro hstorable
    refine ⟨db.putAlert _ hstorable (db.alert_rule alert halert), ?_⟩
    simp only [saveAlert, hfind]
    exact saveAlertRow_apply hstorable (db.alert_rule alert halert)

/-- Opening the alert of a stored rule. -/
theorem openAlert_succeeds_iff (hrule : rule ∈ db.rules) :
    (∃ result db', openAlert py rule latest value threshold now createdAt db = (.ok result, db')) ↔
      (valueSnapshot py (some latest) value threshold).storable := by
  constructor
  · rintro ⟨result, db', h⟩
    obtain ⟨alert, db₁, -, h⟩ := Tx.bind_eq_ok_iff.mp h
    obtain ⟨_, db₂, hlog, -⟩ := Tx.bind_eq_ok_iff.mp h
    exact (createAlertLog_eq_ok_iff.mp hlog).1.1
  · intro hstorable
    refine Tx.bind_succeeds ((createAlert_succeeds_iff hrule rfl).mpr
      (storable_alert_iff.mpr ⟨Dict.storable_iff.mpr ?_, ?_⟩)) fun alert db₁ _ =>
        Tx.bind_succeeds ⟨(), _, createAlertLog_eq_ok_iff.mpr ⟨⟨hstorable, rfl⟩, rfl⟩⟩
          fun _ db₂ _ => ⟨alert, db₂, rfl⟩
    · intro field hfield
      rcases List.mem_cons.mp hfield with rfl | hfield
      · exact hstorable
      · obtain rfl := List.mem_singleton.mp hfield
        rfl
    · show 1 ≤ 2147483647
      omega

/-- Updating the alert of a stored rule. -/
theorem updateActiveAlert_succeeds_iff (halert : alert ∈ db.alerts) (hrule : rule ∈ db.rules)
    (hkey : alert.alertRule = some rule.id) :
    (∃ result db', updateActiveAlert py alert latest value threshold now db =
        (.ok result, db')) ↔
      (valueSnapshot py (some latest) value threshold).storable ∧
        alert.occurrenceCount < 2147483647 := by
  have hfound : alert.alertRule.bind db.rules.find = some rule := by
    rw [hkey]
    exact Table.find_pk hrule
  have hwrite : (AlertEvent.write [.lastSeenAt, .message, .valueFloat, .valueInteger,
      .valueBoolean, .valueText, .occurrenceCount, .metadata]
        (alert.asUpdated py latest rule value threshold now) alert).storable ↔
      (valueSnapshot py (some latest) value threshold).storable ∧
        alert.occurrenceCount < 2147483647 := by
    have hold := (storable_alert_iff.mp (db.alert_storable alert halert)).1
    rw [storable_alert_iff]
    refine and_congr (storable_merge_iff hold) ?_
    show (if alert.occurrenceCount = 0 then 1 else alert.occurrenceCount) + 1 ≤ 2147483647 ↔ _
    split <;> omega
  have hid : (alert.asUpdated py latest rule value threshold now).id = alert.id := rfl
  have hbody : updateActiveAlert py alert latest value threshold now db = _ :=
    Tx.bind_of_ok (congrArg (fun found => (Except.ok found, db)) hfound)
  rw [hbody]
  constructor
  · rintro ⟨result, db', h⟩
    obtain ⟨_, db₁, hsave, -⟩ := Tx.bind_eq_ok_iff.mp h
    exact hwrite.mp ((saveAlert_succeeds_iff halert hid).mp ⟨db₁, hsave⟩)
  · intro hstorable
    obtain ⟨db₁, hsave⟩ := (saveAlert_succeeds_iff halert hid).mpr (hwrite.mpr hstorable)
    exact Tx.bind_succeeds ⟨(), db₁, hsave⟩ fun _ _ _ =>
      Tx.bind_succeeds ⟨(), _, createAlertLog_eq_ok_iff.mpr ⟨⟨hstorable.1, rfl⟩, rfl⟩⟩
        fun _ db₂ _ => ⟨_, db₂, rfl⟩

/-- The duration check of a stored rule. -/
theorem maybeCreateDurationAlert_of_mem (hrule : rule ∈ db.rules) :
    ∃ db', maybeCreateDurationAlert latest rule now db = (.ok (db.lasted latest rule now), db') ∧
      db'.rules = db.rules := by
  have hfind : (db.rules.find rule.id).isSome :=
    Table.isSome_find_iff.mpr ⟨rule, hrule, rfl⟩
  rcases h : maybeCreateDurationAlert latest rule now db with ⟨e | answer, db'⟩
  · simp only [maybeCreateDurationAlert, upsertConditionState, saveConditionState, Tx.bind_apply,
      Tx.read_apply] at h
    rw [dif_pos hfind] at h
    cases (Prod.mk.inj h).1
  · obtain rfl := maybeCreateDurationAlert_eq h
    exact ⟨db', rfl, (respects_maybeCreateDurationAlert (K := ∅)).of_eq h |>.setup.rules⟩

theorem map_succeeds_iff {α β : Type} {x : Engine α} {f : α → β} :
    (∃ b db', (f <$> x) db = (.ok b, db')) ↔ ∃ a db', x db = (.ok a, db') := by
  constructor
  · rintro ⟨b, db', h⟩
    obtain ⟨a, ha, -⟩ := map_eq_ok_iff.mp h
    exact ⟨a, db', ha⟩
  · rintro ⟨a, db', h⟩
    exact ⟨f a, db', map_eq_ok_iff.mpr ⟨a, h, rfl⟩⟩

/-- **A turn returns** exactly if it does not raise what `turnRaises` says. -/
theorem ruleTurn_succeeds_iff (hrule : rule ∈ db.rules)
    (hclear : (evaluateRuleCondition rule latest).1 = true →
      hasSuppression latest (clock 1) db = false) :
    (∃ result db', ruleTurn py latest rule clock db = (.ok result, db')) ↔
      turnRaises py latest rule (clock 2) db = false := by
  unfold turnRaises
  cases hfound : activeAlertForRule latest rule db with
  | some alert =>
      obtain ⟨halert, hactive, hkey⟩ := activeAlertForRule_some hfound
      cases htrue : (evaluateRuleCondition rule latest).1 with
      | true =>
          have hbody : ensureAlert py latest rule (evaluateRuleCondition rule latest).2.1
              (evaluateRuleCondition rule latest).2.2 (some alert) clock db =
              (some <$> updateActiveAlert py alert latest
                (evaluateRuleCondition rule latest).2.1
                (evaluateRuleCondition rule latest).2.2 (clock 2)) db := by
            rw [ensureAlert, Tx.bind_apply, Tx.read_apply, hclear htrue]
            simp only [Bool.false_eq_true, if_false, if_pos hactive]
          rw [ruleTurn_of_true htrue hfound]
          simp only [Tx.atomic_eq_ok_iff, hbody, map_succeeds_iff]
          rw [updateActiveAlert_succeeds_iff halert hrule hkey.2.2.2.2,
            snapshot_evaluateRuleCondition]
          simp
      | false =>
          rw [ruleTurn_of_false htrue hfound, resolveFound_of_active hactive]
          simp only [Tx.atomic_eq_ok_iff, map_succeeds_iff]
          rw [resolveAlert_succeeds_iff _ _ _ _ halert hrule hkey.2.2.2.2]
          simp
  | none =>
      cases htrue : (evaluateRuleCondition rule latest).1 with
      | true =>
          obtain ⟨db₁, hduration, hrules⟩ := @maybeCreateDurationAlert_of_mem db latest rule
            (clock 2) hrule
          rw [ruleTurn_of_true htrue hfound]
          simp only [Tx.atomic_eq_ok_iff, ensureAlert_none_of_clear (hclear htrue),
            Tx.bind_of_ok hduration]
          cases hlasted : db.lasted latest rule (clock 2) with
          | true =>
              simp only [if_true, map_succeeds_iff]
              rw [openAlert_succeeds_iff (by rw [hrules]; exact hrule),
                snapshot_evaluateRuleCondition]
              simp
          | false => simp
      | false =>
          rw [ruleTurn_of_false htrue hfound]
          exact iff_of_true ⟨none, _, rfl⟩ rfl

/-! ### An evaluation that may raise -/

/-- The turn of the rule comes, and neither it nor one in front of it raises. -/
def Completes (py : PyText) (latest : LatestTelemetry) (rule : AlertRule) (db : AlertsDb) :
    List AlertRule → (ℕ → ℕ → Instant) → Prop
  | [], _ => False
  | other :: rules, clock =>
      turnRaises py latest other (clock 0 2) db = false ∧
        (other = rule ∨ Completes py latest rule db rules fun i => clock (i + 1))

instance Completes.decidable (py : PyText) (latest : LatestTelemetry) (rule : AlertRule)
    (db : AlertsDb) :
    (rules : List AlertRule) → (clock : ℕ → ℕ → Instant) →
      Decidable (Completes py latest rule db rules clock)
  | [], _ => .isFalse id
  | _ :: rules, clock =>
      have := Completes.decidable py latest rule db rules fun i => clock (i + 1)
      inferInstanceAs (Decidable (_ ∧ _))

theorem completes_congr {rules : List AlertRule} {clock : ℕ → ℕ → Instant}
    (h : ∀ other ∈ rules, Undisturbed (conditionKey latest other) db db') :
    Completes py latest rule db' rules clock ↔ Completes py latest rule db rules clock := by
  induction rules generalizing clock with
  | nil => exact Iff.rfl
  | cons other rules ih =>
      unfold Completes
      rw [(h other List.mem_cons_self).turnRaises_eq,
        ih fun next hnext => h next (List.mem_cons_of_mem _ hnext)]

theorem settled_congr
    (h : db'.activeIds (conditionKey latest rule) = db.activeIds (conditionKey latest rule)) :
    Settled latest rule db' ↔ Settled latest rule db := by
  unfold Settled
  rw [h]

/-- **The turns of a list of rules**, some of which may raise, leave a rule without duration
settled exactly if its turn completes, or if it was settled. -/
theorem settled_ruleTurns_iff {rules : List AlertRule} {clock : ℕ → ℕ → Instant}
    (hone : db.AtMostOneActive) (hnodup : (rules.map AlertRule.id).Nodup)
    (hstored : ∀ other ∈ rules, other ∈ db.rules)
    (hclear : ∀ i < rules.length, hasSuppression latest (clock i 1) db = false)
    (hrule : rule ∈ db.rules) (hduration : rule.durationSeconds = 0) :
    Settled latest rule (ruleTurns py latest rules clock db).2 ↔
      Completes py latest rule db rules clock ∨ Settled latest rule db := by
  induction rules generalizing db clock with
  | nil => exact (or_iff_right (fun hnone : False => hnone)).symm
  | cons other rules ih =>
      rw [List.map_cons, List.nodup_cons] at hnodup
      have hother : other ∈ db.rules := hstored other List.mem_cons_self
      have hclear₀ : hasSuppression latest (clock 0 1) db = false :=
        hclear 0 (Nat.zero_lt_succ _)
      have hreturns : (∃ result db', ruleTurn py latest other (clock 0) db = (.ok result, db')) ↔
          turnRaises py latest other (clock 0 2) db = false :=
        ruleTurn_succeeds_iff hother fun _ => hclear₀
      unfold Completes
      rw [ruleTurns_cons_snd]
      rcases hturn : ruleTurn py latest other (clock 0) db with ⟨e | result, db₁⟩
      · -- the turn raises, and it is the last one
        obtain ⟨-, rfl⟩ := Tx.atomic_eq_error_iff.mp hturn
        have hraises : ¬turnRaises py latest other (clock 0 2) db₁ = false := by
          rw [← hreturns]
          rintro ⟨result, db', hok⟩
          rw [hturn] at hok
          cases (Prod.mk.inj hok).1
        exact (or_iff_right fun hcompletes => hraises hcompletes.1).symm
      have hgoes : turnRaises py latest other (clock 0 2) db = false :=
        hreturns.mp ⟨result, db₁, hturn⟩
      have heffect := turnEffect_of_ok hturn
      have hsetup : db.SameSetup db₁ := (respects_ruleTurn.of_eq hturn).setup
      have hrest : Settled latest rule
            (ruleTurns py latest rules (fun i => clock (i + 1)) db₁).2 ↔
          Completes py latest rule db₁ rules (fun i => clock (i + 1)) ∨
            Settled latest rule db₁ := by
        refine ih (heffect.atMostOneActive hone) hnodup.2
          (fun next hnext => hsetup.rules ▸ hstored next (List.mem_cons_of_mem _ hnext))
          (fun i hi => ?_) (hsetup.rules ▸ hrule)
        rw [← hclear (i + 1) (Nat.succ_lt_succ hi)]
        unfold hasSuppression
        rw [hsetup.windows]
      dsimp only
      rw [hrest]
      simp only [hgoes, true_and]
      by_cases hsame : other = rule
      · subst hsame
        exact iff_of_true (Or.inr (heffect.settled hone hclear₀ hduration))
          (Or.inl (Or.inl rfl))
      · -- the turn of another rule disturbs neither this rule nor the next ones
        have hne : rule.id ≠ other.id := fun heq =>
          hsame (db.rules.eq_of_pk_eq hother hrule heq.symm)
        have hapart : ∀ next ∈ rules, Undisturbed (conditionKey latest next) db db₁ := by
          intro next hnext
          have hother : conditionKey latest next ≠ conditionKey latest other := fun heq =>
            hnodup.1 (List.mem_map.mpr ⟨next, hnext, id_eq_of_conditionKey_eq heq⟩)
          exact (undisturbed_ruleTurn hother).of_eq hturn
        have hcompletes : Completes py latest rule db₁ rules (fun i => clock (i + 1)) ↔
            Completes py latest rule db rules (fun i => clock (i + 1)) :=
          completes_congr hapart
        rw [hcompletes, settled_congr (heffect.activeIds_of_rule_ne hne), or_iff_right hsame]

/-- What an evaluation does to the alerts of a key is what its turns do. -/
theorem sameFor_evaluateLatest_after {cached : Option (List RuleId)}
    {clock : ℕ → ℕ → Instant} :
    SameFor key (ruleTurns py latest (getMatchingRules db latest cached) clock db).2
      (evaluateLatest py latest cached clock db).2 :=
  Tx.rel_after_bind (x := ruleTurns py latest (getMatchingRules db latest cached) clock)
    (s := db) fun _ => Tx.respects_bind
      (Tx.respects_atomic sameFor_resolveUpsTrapAlertIfNeeded) fun _ => Tx.respects_pure _

/-- **An evaluation that may raise** leaves a matching rule without duration settled exactly
if its turn completes, or if it was settled. -/
theorem settled_evaluateLatest_iff {cached : Option (List RuleId)} {clock : ℕ → ℕ → Instant}
    (hone : db.AtMostOneActive)
    (hnodup : ((getMatchingRules db latest cached).map AlertRule.id).Nodup)
    (hclear : ∀ i < (getMatchingRules db latest cached).length,
      hasSuppression latest (clock i 1) db = false)
    (hrule : rule ∈ db.rules) (hduration : rule.durationSeconds = 0) :
    Settled latest rule (evaluateLatest py latest cached clock db).2 ↔
      Completes py latest rule db (getMatchingRules db latest cached) clock ∨
        Settled latest rule db := by
  rw [settled_congr sameFor_evaluateLatest_after.activeIds_eq]
  exact settled_ruleTurns_iff hone hnodup (fun _ => mem_rules_of_mem_getMatchingRules) hclear
    hrule hduration

/-- An evaluation leaves the keys of other rows undisturbed. -/
theorem undisturbed_evaluateLatest {cached : Option (List RuleId)} {clock : ℕ → ℕ → Instant}
    (hne : ∀ rule, key ≠ conditionKey latest rule) :
    Tx.Respects (Undisturbed key) (evaluateLatest py latest cached clock) := by
  refine respects_evaluateLatest (fun rule _ => undisturbed_ruleTurn (hne rule)) fun clock =>
    Tx.respects_atomic fun db => ?_
  exact ⟨sameFor_resolveUpsTrapAlertIfNeeded db,
    (sameStates_resolveUpsTrapAlertIfNeeded db).findConditionState_eq key,
    (respects_resolveUpsTrapAlertIfNeeded (K := ∅) db).setup⟩

/-- The exact alert of a metric disturbs no key. -/
theorem undisturbed_confirmExactAlert {device : Device} {metric : MetricDefinition}
    {state : Bool} {confirmationAt : Instant} :
    Tx.Respects (Undisturbed key)
      (confirmExactAlert device metric state confirmationAt createdAt) := by
  have hsame : Tx.Respects SameStates
      (confirmExactAlert device metric state confirmationAt createdAt) := by
    refine Tx.respects_atomic ?_
    cases state with
    | true =>
        refine Tx.respects_bind (Tx.respects_bind (Tx.respects_read _) fun found => ?_) fun _ =>
          Tx.respects_pure _
        cases found with
        | some alert => exact Tx.respects_bind sameStates_saveAlert fun _ => Tx.respects_pure _
        | none => exact Tx.respects_bind sameStates_createAlert fun _ => Tx.respects_pure _
    | false =>
        refine Tx.respects_bind (Tx.respects_bind (Tx.respects_read _) fun found => ?_) fun _ =>
          Tx.respects_pure _
        cases found with
        | none => exact Tx.respects_pure _
        | some alert => exact Tx.respects_bind sameStates_saveAlert fun _ => Tx.respects_pure _
  exact fun db => ⟨sameFor_confirmExactAlert db, (hsame db).findConditionState_eq key,
    (respects_confirmExactAlert (K := ∅) db).setup⟩

end Raises

end AlertsDb

end DcimBackend
