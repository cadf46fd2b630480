import DcimBackend.Alerts.Orphans
import DcimBackend.Telemetry.Ingestion

/-!
# Alerts in step with telemetry

After an ingestion, the alerts of a rule without duration should say what its condition
says of each stored row.  `Visited` describes what the paths have in common: they evaluate
their rows one after another, whatever becomes of the evaluations, and do nothing else to
the alerts of rules.  So `Visited.settled_iff` holds of all of them, and a path differs from
the next in the rows that it visits only.

`along_keepsInStep_iff` is the exact condition: an ingestion keeps the alerts in step if and
only if, for each changed row and matching rule, the path evaluates the row and the turn of
the rule completes, or the alerts said already what the new row says.

The paths differ in what they catch.  The SNMP poll evaluates inside its transaction, mapping by
mapping, and goes on after an error; the Modbus poll writes all rows first and evaluates them
after the commit; the confirmation of alarms evaluates each row that it stores; the REST path
stores its rows and evaluates nothing.  `Ingestion` has all of them, each with what its device or
client sends, and `visits` and `rows` read off what it does.
-/

namespace DcimBackend

open Library AlertsDb

/-! ### Visits -/

/-- The alerts after the evaluation of some rows, with steps in between that disturb no
key. -/
inductive Visited (py : PyText) : List Visit → AlertsDb → AlertsDb → Prop
  | nil (db : AlertsDb) : Visited py [] db db
  | cons (v : Visit) (visits : List Visit) (db db₁ db' : AlertsDb)
      (hvisit : ∀ key,
        Undisturbed key (evaluateLatest py v.row v.cached v.clock db).2 db₁)
      (hrest : Visited py visits db₁ db') : Visited py (v :: visits) db db'

/-- The rules that a visit goes through. -/
def Visit.rules (v : Visit) (db : AlertsDb) : List AlertRule := getMatchingRules db v.row v.cached

/-- No window suppresses the row at the turn of a rule, and the reply of the cache names no
rule twice. -/
structure Visit.Quiet (v : Visit) (db : AlertsDb) : Prop where
  clear : ∀ i < (v.rules db).length, hasSuppression v.row (v.clock i 1) db = false
  distinct : ((v.rules db).map AlertRule.id).Nodup

instance (v : Visit) (db : AlertsDb) : Decidable (v.Quiet db) :=
  decidable_of_iff
    ((∀ i < (v.rules db).length, hasSuppression v.row (v.clock i 1) db = false) ∧
      ((v.rules db).map AlertRule.id).Nodup)
    ⟨fun h => ⟨h.1, h.2⟩, fun h => ⟨h.clear, h.distinct⟩⟩

section Visits

variable {py : PyText} {db db' : AlertsDb} {v : Visit} {visits : List Visit}
  {row : LatestTelemetry} {rule : AlertRule}

theorem keepsAtMostOne_of_undisturbed (h : ∀ key, Undisturbed key db db') :
    KeepsAtMostOne db db' := fun hone key => by
  rw [(h key).alerts.activeIds_eq]
  exact hone key

/-- The rules that match a row depend on the rules only. -/
theorem Visit.rules_eq (hsetup : db.SameSetup db') : v.rules db' = v.rules db := by
  simp only [Visit.rules, getMatchingRules, matchingRuleQueryset, hsetup.rules]

theorem Visit.Quiet.of_sameSetup (h : v.Quiet db) (hsetup : db.SameSetup db') : v.Quiet db' := by
  refine ⟨fun i hi => ?_, by rw [Visit.rules_eq hsetup]; exact h.distinct⟩
  rw [Visit.rules_eq hsetup] at hi
  rw [← h.clear i hi]
  unfold hasSuppression
  rw [hsetup.windows]

/-- Rows of different keys have no alert key in common. -/
theorem conditionKey_ne_of_key_ne {other : LatestTelemetry} (hne : other.key ≠ row.key)
    (rule next : AlertRule) : conditionKey row rule ≠ conditionKey other next := by
  intro heq
  have hdevice : row.device.id = other.device.id := congrArg ConditionKey.device heq
  have hmetric : row.metric.id = other.metric.id :=
    Option.some.inj (congrArg ConditionKey.metric heq)
  exact hne (Prod.ext hdevice.symm hmetric.symm)

/-- **What the visits of rows leave behind**: a rule without duration is settled on a row
exactly if one of the visits is to the row and completes the turn of the rule, or if it was
settled. -/
theorem Visited.settled_iff (h : Visited py visits db db') (hone : db.AtMostOneActive)
    (hkeys : (visits.map fun v => v.row.key).Nodup)
    (hquiet : ∀ v ∈ visits, v.Quiet db)
    (hrow : ∀ v ∈ visits, v.row.key = row.key → v.row = row)
    (hrule : rule ∈ db.rules) (hduration : rule.durationSeconds = 0) :
    Settled row rule db' ↔
      (∃ v ∈ visits, v.row = row ∧ Completes py row rule db (v.rules db) v.clock) ∨
        Settled row rule db := by
  induction h with
  | nil db => simp
  | cons v visits db db₁ db' hvisit hrest ih =>
      rw [List.map_cons, List.nodup_cons] at hkeys
      have hsetup : db.SameSetup db₁ := trans_of SameSetup
        (sameSetup_evaluateLatest db) (hvisit (conditionKey row rule)).setup
      have hone₁ : db₁.AtMostOneActive :=
        keepsAtMostOne_of_undisturbed hvisit (keepsAtMostOne_evaluateLatest db hone)
      rw [ih hone₁ hkeys.2
        (fun w hw => (hquiet w (List.mem_cons_of_mem _ hw)).of_sameSetup hsetup)
        (fun w hw => hrow w (List.mem_cons_of_mem _ hw)) (hsetup.rules ▸ hrule)]
      simp only [List.exists_mem_cons_iff]
      by_cases hsame : v.row = row
      · -- no later visit is to the row, so this one decides
        subst hsame
        have hlater : ¬∃ w ∈ visits, w.row = v.row ∧
            Completes py v.row rule db₁ (w.rules db₁) w.clock := by
          rintro ⟨w, hw, heq, -⟩
          exact hkeys.1 (List.mem_map.mpr ⟨w, hw, by rw [heq]⟩)
        have hlater' : ¬∃ w ∈ visits, w.row = v.row ∧
            Completes py v.row rule db (w.rules db) w.clock := by
          rintro ⟨w, hw, heq, -⟩
          exact hkeys.1 (List.mem_map.mpr ⟨w, hw, by rw [heq]⟩)
        have hv := hquiet v List.mem_cons_self
        rw [or_iff_right hlater, or_iff_left hlater',
          settled_congr (hvisit _).alerts.activeIds_eq,
          settled_evaluateLatest_iff hone hv.distinct hv.clear hrule hduration]
        simp only [true_and]
        rfl
      · -- the visit is to another row, and disturbs none of the rules on this one
        have hne : v.row.key ≠ row.key := fun heq => hsame (hrow v List.mem_cons_self heq)
        have hapart : ∀ next, Undisturbed (conditionKey row next) db db₁ := fun next =>
          trans_of (Undisturbed _)
            (undisturbed_evaluateLatest (conditionKey_ne_of_key_ne hne next) db) (hvisit _)
        have hcompletes : ∀ w : Visit, Completes py row rule db₁ (w.rules db₁) w.clock ↔
            Completes py row rule db (w.rules db) w.clock := fun w => by
          rw [Visit.rules_eq hsetup]
          exact completes_congr fun next _ => hapart next
        simp only [hcompletes, hsame, false_and, false_or,
          settled_congr (hapart rule).alerts.activeIds_eq]

end Visits

/-! ### What the paths have in common -/

/-- The rows are stored, the visits are made, and nothing else is done to the alerts of
rules. -/
structure Ingested (py : PyText) (visits : List Visit) (rows : List LatestTelemetry)
    (before after : TelemetryDb) : Prop where
  latest : after.latest = before.latest.updateOrCreateAll rows
  alerts : Visited py visits before.alerts after.alerts

section Paths

variable {py : PyText} {db db' : TelemetryDb}

theorem Ingested.refl : Ingested py [] [] db db := ⟨rfl, .nil _⟩

/-- A row is stored in front of the others. -/
theorem Ingested.cons {visits : List Visit} {rows : List LatestTelemetry}
    {row : LatestTelemetry} {db₁ : TelemetryDb} (h : Ingested py visits rows db₁ db')
    (hlatest : db₁.latest = db.latest.updateOrCreate row) (halerts : db₁.alerts = db.alerts) :
    Ingested py visits (row :: rows) db db' := by
  refine ⟨?_, halerts ▸ h.alerts⟩
  rw [h.latest, hlatest]
  rfl

/-- A row is stored and visited in front of the others. -/
theorem Ingested.visit {visits : List Visit} {rows : List LatestTelemetry} {v : Visit}
    {db₁ : TelemetryDb} (h : Ingested py visits rows db₁ db')
    (hlatest : db₁.latest = db.latest.updateOrCreate v.row)
    (hvisit : ∀ key, Undisturbed key
      (evaluateLatest py v.row v.cached v.clock db.alerts).2 db₁.alerts) :
    Ingested py (v :: visits) (v.row :: rows) db db' := by
  refine ⟨?_, .cons v visits _ db₁.alerts _ hvisit h.alerts⟩
  rw [h.latest, hlatest]
  rfl

/-! ### The paths one by one -/

/-- The REST API stores its rows and visits none. -/
theorem ingested_storePoints {source : String} {now : Instant} {items : List PointItem}
    {u : Unit} (h : storePoints source now items db = (.ok u, db')) :
    Ingested py [] (items.filterMap (db.pointRow source now)) db db' := by
  induction items generalizing db with
  | nil =>
      obtain rfl := (Prod.mk.inj h).2
      exact .refl
  | cons item items ih =>
      obtain ⟨_, db₁, hstore, h⟩ := Tx.bind_eq_ok_iff.mp h
      unfold storePoint at hstore
      cases hrow : db.pointRow source now item with
      | none =>
          rw [hrow] at hstore
          cases (Prod.mk.inj hstore).1
      | some row =>
          simp only [hrow] at hstore
          split at hstore
          · obtain rfl := (Prod.mk.inj hstore).2
            have hrest := ih h
            rw [List.filterMap_cons_some hrow]
            exact hrest.cons rfl rfl
          · cases (Prod.mk.inj hstore).1

/-- The visits of a poll that evaluates the rules, or does not. -/
def DevicePoll.visitsMade (p : DevicePoll) (source : String) (polls : List MappingPoll) :
    List Visit :=
  if p.evaluateAlerts then polls.filterMap (p.visit source) else []

/-- One mapping of an SNMP poll, in a transaction that is not broken. -/
theorem pollSnmpMapping_of_not_broken {p : DevicePoll} {s : SnmpLoop} {m : MappingPoll}
    (h : (pollSnmpMapping py p s m).broken = false) :
    s.broken = false ∧
      match p.visit "snmp_worker" m with
      | none => (pollSnmpMapping py p s m).db = s.db
      | some v =>
          (pollSnmpMapping py p s m).db.latest = s.db.latest.updateOrCreate v.row ∧
            (pollSnmpMapping py p s m).db.alerts =
              if p.evaluateAlerts then
                (evaluateLatest py v.row v.cached v.clock s.db.alerts).2
              else s.db.alerts := by
  unfold pollSnmpMapping at h ⊢
  cases hvisit : p.visit "snmp_worker" m with
  | none =>
      rw [hvisit] at h
      exact ⟨h, rfl⟩
  | some v =>
      simp only [hvisit] at h ⊢
      split at h
      · cases h
      · rename_i hgoes
        have hbroken : s.broken = false := by
          cases hs : s.broken with
          | false => rfl
          | true => exact absurd (by rw [hs]; rfl) hgoes
        refine ⟨hbroken, ?_⟩
        rw [if_neg hgoes]
        cases p.evaluateAlerts with
        | false => exact ⟨rfl, rfl⟩
        | true =>
            simp only [if_true]
            rcases evaluateLatest py v.row v.cached v.clock s.db.alerts with
              ⟨e | alerts, after⟩ <;> exact ⟨rfl, rfl⟩

/-- An SNMP poll whose transaction is not broken has stored and visited its rows. -/
theorem ingested_foldl_pollSnmpMapping {p : DevicePoll} {polls : List MappingPoll} {s : SnmpLoop}
    (h : (polls.foldl (pollSnmpMapping py p) s).broken = false) :
    s.broken = false ∧
      Ingested py (p.visitsMade "snmp_worker" polls)
        ((polls.filterMap (p.visit "snmp_worker")).map Visit.row) s.db
        (polls.foldl (pollSnmpMapping py p) s).db := by
  induction polls generalizing s with
  | nil =>
      refine ⟨h, ?_⟩
      unfold DevicePoll.visitsMade
      split <;> exact .refl
  | cons m polls ih =>
      obtain ⟨hmapping, hrest⟩ := ih h
      obtain ⟨hbroken, hspec⟩ := pollSnmpMapping_of_not_broken hmapping
      refine ⟨hbroken, ?_⟩
      rw [List.foldl_cons]
      unfold DevicePoll.visitsMade at hrest ⊢
      cases hvisit : p.visit "snmp_worker" m with
      | none =>
          rw [hvisit] at hspec
          rw [List.filterMap_cons_none hvisit]
          rwa [hspec] at hrest
      | some v =>
          simp only [hvisit] at hspec
          obtain ⟨hlatest, halerts⟩ := hspec
          rw [List.filterMap_cons_some hvisit, List.map_cons]
          split
          · rename_i hevaluate
            rw [if_pos hevaluate] at hrest halerts
            exact hrest.visit hlatest fun key => halerts ▸ refl_of (Undisturbed key) _
          · rename_i hevaluate
            rw [if_neg hevaluate] at hrest halerts
            exact hrest.cons hlatest halerts

/-- Evaluations that all return have visited their rows. -/
theorem visited_evaluateVisits {visits : List Visit} {alerts alerts' : AlertsDb} {u : Unit}
    (h : evaluateVisits py visits alerts = (.ok u, alerts')) :
    Visited py visits alerts alerts' := by
  induction visits generalizing alerts with
  | nil =>
      obtain rfl := (Prod.mk.inj h).2
      exact .nil _
  | cons v visits ih =>
      obtain ⟨results, alerts₁, hevaluate, h⟩ := Tx.bind_eq_ok_iff.mp h
      refine .cons v visits _ alerts₁ _ (fun key => ?_) (ih h)
      rw [hevaluate]
      exact refl_of (Undisturbed key) alerts₁

/-- A Modbus poll that does not fail has stored and visited its rows. -/
theorem ingested_pollModbusDevice {p : DevicePoll}
    (h : (pollModbusDevice py p db).1 ≠ .failed) :
    Ingested py (p.visitsMade "modbus_worker" p.polls)
      ((p.visits "modbus_worker").map Visit.row) db (pollModbusDevice py p db).2 := by
  unfold pollModbusDevice at h ⊢
  dsimp only at h ⊢
  split at h
  · exact absurd rfl h
  · rename_i hgoes
    rw [if_neg hgoes]
    unfold DevicePoll.visitsMade
    cases hevaluate : p.evaluateAlerts with
    | false => exact ⟨rfl, .nil _⟩
    | true =>
        simp only [hevaluate, if_true] at h ⊢
        rcases hvisits : evaluateVisits py (p.visits "modbus_worker") db.alerts with
          ⟨e | u, alerts⟩
        · rw [hvisits] at h
          exact absurd rfl h
        · exact ⟨rfl, visited_evaluateVisits hvisits⟩

/-- A confirmation does to the alerts of rules what the evaluation of its row does. -/
theorem undisturbed_confirmMapping_after {key : ConditionKey} {device : Device}
    {metric : MetricDefinition} {state : Bool} {cached : Option (List RuleId)}
    {clock : ℕ → ℕ → Instant} {confirmationAt createdAt : Instant} {alerts : AlertsDb} :
    Undisturbed key
      (evaluateLatest py (confirmedRow device metric state confirmationAt) cached clock alerts).2
      (confirmMapping py device metric state cached clock confirmationAt createdAt alerts).2 := by
  refine Tx.rel_after_bind fun evaluated => ?_
  split
  · exact undisturbed_confirmExactAlert
  · exact Tx.respects_pure _

/-- The poll of a PAC has stored and visited the rows of the confirmed states. -/
theorem ingested_foldl_pollAlarm {p : PacPoll} {polls : List AlarmPoll} {s : PacLoop} :
    Ingested py (polls.filterMap (p.visit py))
      ((polls.filterMap (p.visit py)).map Visit.row) s.db
      (polls.foldl (pollAlarm py p) s).db := by
  induction polls generalizing s with
  | nil => exact .refl
  | cons m polls ih =>
      have hrest := @ih (pollAlarm py p s m)
      rw [List.foldl_cons]
      cases hstate : m.state py with
      | none =>
          have hsame : (pollAlarm py p s m).db = s.db := by
            simp only [pollAlarm, hstate]
          rw [List.filterMap_cons_none (by simp [PacPoll.visit, hstate])]
          rwa [hsame] at hrest
      | some state =>
          have hvisit : p.visit py m = some
              { row := confirmedRow p.device m.metric state p.confirmationAt
                cached := m.cached
                clock := m.clock } := by
            simp only [PacPoll.visit, hstate, Option.map_some]
          have hdb : (pollAlarm py p s m).db.latest = s.db.latest.updateOrCreate
                (confirmedRow p.device m.metric state p.confirmationAt) ∧
              (pollAlarm py p s m).db.alerts = (confirmMapping py p.device m.metric state m.cached
                m.clock p.confirmationAt m.createdAt s.db.alerts).2 := by
            simp only [pollAlarm, hstate]
            rcases confirmMapping py p.device m.metric state m.cached m.clock p.confirmationAt
              m.createdAt s.db.alerts with ⟨e | u, alerts⟩ <;> exact ⟨rfl, rfl⟩
          rw [List.filterMap_cons_some hvisit, List.map_cons]
          exact hrest.visit hdb.1 fun key => hdb.2 ▸ undisturbed_confirmMapping_after

end Paths

/-! ### Ingestions -/

/-- An ingestion, by its path. -/
inductive Ingestion
  | ingestPoints (points : List PointItem) (source : String) (now : Instant)
  | pollSnmpDevice (poll : DevicePoll)
  | pollModbusDevice (poll : DevicePoll)
  | confirmAlarms (poll : PacPoll)

namespace Ingestion

variable (py : PyText) (db : TelemetryDb)

/-- Whether an ingestion completes, and what it leaves behind. -/
def ingest : Ingestion → Bool × TelemetryDb
  | .ingestPoints points source now =>
      ((DcimBackend.ingestPoints points source now db).1.isOk,
        (DcimBackend.ingestPoints points source now db).2)
  | .pollSnmpDevice poll =>
      ((DcimBackend.pollSnmpDevice py poll db).1 ≠ .failed,
        (DcimBackend.pollSnmpDevice py poll db).2)
  | .pollModbusDevice poll =>
      ((DcimBackend.pollModbusDevice py poll db).1 ≠ .failed,
        (DcimBackend.pollModbusDevice py poll db).2)
  | .confirmAlarms poll =>
      ((DcimBackend.confirmAlarms py poll db).1 ≠ .failed,
        (DcimBackend.confirmAlarms py poll db).2)

/-- The rows that an ingestion stores, if it completes. -/
def rows : Ingestion → List LatestTelemetry
  | .ingestPoints points source now => points.filterMap (db.pointRow source now)
  | .pollSnmpDevice poll => (poll.visits "snmp_worker").map Visit.row
  | .pollModbusDevice poll => (poll.visits "modbus_worker").map Visit.row
  | .confirmAlarms poll => (poll.visits py).map Visit.row

/-- The rows on which it evaluates the rules. -/
def visits : Ingestion → List Visit
  | .ingestPoints _ _ _ => []
  | .pollSnmpDevice poll => poll.visitsMade "snmp_worker" poll.polls
  | .pollModbusDevice poll => poll.visitsMade "modbus_worker" poll.polls
  | .confirmAlarms poll => poll.visits py

/-- The argument `evaluate_alerts` of a poll. -/
def evaluateAlerts : Ingestion → Bool
  | .pollSnmpDevice poll | .pollModbusDevice poll => poll.evaluateAlerts
  | .ingestPoints _ _ _ | .confirmAlarms _ => true

/-- The time at which it starts. -/
def time : Ingestion → Instant
  | .ingestPoints _ _ now => now
  | .pollSnmpDevice poll | .pollModbusDevice poll => poll.startedAt
  | .confirmAlarms poll => poll.confirmationAt

variable {py db} {i : Ingestion}

/-- **An ingestion that completes** has stored its rows and visited its visits. -/
theorem ingested_of_completed (h : (i.ingest py db).1 = true) :
    Ingested py (i.visits py) (i.rows py db) db (i.ingest py db).2 := by
  cases i with
  | ingestPoints points source now =>
      rcases hstore : DcimBackend.ingestPoints points source now db with ⟨e | u, db'⟩
      · simp only [ingest, hstore] at h
        cases h
      · simp only [ingest, hstore]
        exact ingested_storePoints (Tx.atomic_eq_ok_iff.mp hstore)
  | pollSnmpDevice poll =>
      simp only [ingest, DcimBackend.pollSnmpDevice] at h ⊢
      split at h
      · simp at h
      · rename_i hkept
        rw [if_neg hkept]
        rw [not_or, Bool.not_eq_true] at hkept
        exact (ingested_foldl_pollSnmpMapping hkept.2).2
  | pollModbusDevice poll => exact ingested_pollModbusDevice (by simpa [ingest] using h)
  | confirmAlarms poll => exact @ingested_foldl_pollAlarm py poll poll.polls { db := db }

/-- The rows that the mappings of a device store have distinct keys. -/
theorem nodup_key_filterMap {α : Type} {polls : List α} {visit : α → Option Visit}
    {metric : α → MetricId} (device : DeviceId) (hdistinct : (polls.map metric).Nodup)
    (hvisit : ∀ m v, visit m = some v → v.row.key = (device, metric m)) :
    ((polls.filterMap visit).map fun v => v.row.key).Nodup := by
  induction polls with
  | nil => exact List.nodup_nil
  | cons m polls ih =>
      rw [List.map_cons, List.nodup_cons] at hdistinct
      cases hm : visit m with
      | none =>
          rw [List.filterMap_cons_none hm]
          exact ih hdistinct.2
      | some v =>
          rw [List.filterMap_cons_some hm, List.map_cons, List.nodup_cons]
          refine ⟨fun hmem => hdistinct.1 ?_, ih hdistinct.2⟩
          obtain ⟨w, hw, hkey⟩ := List.mem_map.mp hmem
          obtain ⟨other, hother, hvisited⟩ := List.mem_filterMap.mp hw
          rw [hvisit m v hm, hvisit other w hvisited] at hkey
          exact List.mem_map.mpr ⟨other, hother, congrArg Prod.snd hkey⟩

theorem nodup_key_devicePoll (poll : DevicePoll) (source : String) :
    ((poll.visits source).map fun v => v.row.key).Nodup := by
  refine nodup_key_filterMap poll.device.id poll.distinct fun m v hv => ?_
  obtain ⟨answer, -, rfl⟩ := Option.map_eq_some_iff.mp hv
  rfl

theorem nodup_key_pacPoll (poll : PacPoll) :
    ((poll.visits py).map fun v => v.row.key).Nodup := by
  refine nodup_key_filterMap poll.device.id poll.distinct fun m v hv => ?_
  obtain ⟨state, -, rfl⟩ := Option.map_eq_some_iff.mp hv
  rfl

/-- The visits that are made are visits of rows, and no two of them have one key. -/
theorem visits_spec : ((i.visits py).map fun v => v.row.key).Nodup ∧
    ∀ row ∈ i.rows py db, ∀ v ∈ i.visits py, v.row.key = row.key → v.row = row := by
  have hpoll : ∀ (poll : DevicePoll) (source : String),
      ((poll.visitsMade source poll.polls).map fun v => v.row.key).Nodup ∧
        ∀ row ∈ (poll.visits source).map Visit.row, ∀ v ∈ poll.visitsMade source poll.polls,
          v.row.key = row.key → v.row = row := by
    intro poll source
    have hnodup := nodup_key_devicePoll poll source
    unfold DevicePoll.visitsMade
    split
    · refine ⟨hnodup, fun row hrow v hv hkey => ?_⟩
      obtain ⟨w, hw, rfl⟩ := List.mem_map.mp hrow
      rw [List.inj_on_of_nodup_map hnodup hv hw hkey]
    · exact ⟨List.nodup_nil, fun row _ v hv => by cases hv⟩
  cases i with
  | ingestPoints points source now => exact ⟨List.nodup_nil, fun row _ v hv => by cases hv⟩
  | pollSnmpDevice poll => exact hpoll poll "snmp_worker"
  | pollModbusDevice poll => exact hpoll poll "modbus_worker"
  | confirmAlarms poll =>
      have hnodup := @nodup_key_pacPoll py poll
      refine ⟨hnodup, fun row hrow v hv hkey => ?_⟩
      obtain ⟨w, hw, rfl⟩ := List.mem_map.mp hrow
      rw [List.inj_on_of_nodup_map hnodup hv hw hkey]

end Ingestion

/-! ### In step -/

/-- The alerts of a rule say of a row what its condition says. -/
def Says (row : LatestTelemetry) (rule : AlertRule) (db : AlertsDb) : Prop :=
  (∃ alert ∈ db.alerts, alert.ActiveFor (conditionKey row rule)) ↔
    (evaluateRuleCondition rule row).1 = true

instance (row : LatestTelemetry) (rule : AlertRule) (db : AlertsDb) :
    Decidable (Says row rule db) :=
  inferInstanceAs (Decidable (_ ↔ _))

theorem settled_iff_says {row : LatestTelemetry} {rule : AlertRule} {db : AlertsDb} :
    Settled row rule db ↔ Says row rule db := by
  have hnonempty : (db.activeIds (conditionKey row rule)).Nonempty ↔
      ∃ alert ∈ db.alerts, alert.ActiveFor (conditionKey row rule) := by
    constructor
    · rintro ⟨id, alert, halert, -, hactive⟩
      exact ⟨alert, halert, hactive⟩
    · rintro ⟨alert, halert, hactive⟩
      exact ⟨alert.id, alert, halert, rfl, hactive⟩
  unfold Settled Says
  rw [← hnonempty]
  split
  · rename_i htrue
    exact (iff_true_right htrue).symm
  · rename_i hfalse
    rw [iff_false_right hfalse, Set.not_nonempty_iff_eq_empty]

/-- An ingestion, or an operation on the alerts between ingestions. -/
inductive TelemetryOperation
  | ingest (ingestion : Ingestion)
  | operate (operation : AlertOperation)

namespace TelemetryOperation

variable (py : PyText)

/-- What a step does to the tables. -/
def step (db : TelemetryDb) : TelemetryOperation → TelemetryDb
  | .ingest i => (i.ingest py db).2
  | .operate operation => { db with alerts := db.alerts.operate py operation }

/-- The ingestions that count: they evaluate alerts as far as they are asked to, they
complete, and no window covers a row when they start or at the turn of a rule. -/
structure Counts (i : Ingestion) (db : TelemetryDb) : Prop where
  evaluateAlerts : i.evaluateAlerts = true
  completes : (i.ingest py db).1 = true
  clear : ∀ row ∈ i.rows py db, hasSuppression row i.time db.alerts = false
  quiet : ∀ v ∈ i.visits py, v.Quiet db.alerts

/-- After an ingestion the alerts are in step with each row that it has changed. -/
def KeepsInStep (before : TelemetryDb) (op : TelemetryOperation) (after : TelemetryDb) : Prop :=
  match op with
  | .ingest i => Counts py i before → ∀ row ∈ after.latest, row ∉ before.latest →
      ∀ rule ∈ matchingRuleQueryset after.alerts row, rule.durationSeconds = 0 →
        Says row rule after.alerts
  | .operate _ => True

/-- For each row that an ingestion changes, and each matching rule, the path evaluates the
row and the turn of the rule completes, or the alerts say already what the row says. -/
def Covers (before : TelemetryDb) (op : TelemetryOperation) (_ : TelemetryDb) : Prop :=
  match op with
  | .ingest i => Counts py i before →
      ∀ row ∈ before.latest.updateOrCreateAll (i.rows py before), row ∉ before.latest →
        ∀ rule ∈ matchingRuleQueryset before.alerts row, rule.durationSeconds = 0 →
          (∃ v ∈ i.visits py, v.row = row ∧
            Completes py row rule before.alerts (v.rules before.alerts) v.clock) ∨
          Says row rule before.alerts
  | .operate _ => True

theorem counts_iff (i : Ingestion) (db : TelemetryDb) :
    Counts py i db ↔ i.evaluateAlerts = true ∧ (i.ingest py db).1 = true ∧
      (∀ row ∈ i.rows py db, hasSuppression row i.time db.alerts = false) ∧
        ∀ v ∈ i.visits py, v.Quiet db.alerts :=
  ⟨fun h => ⟨h.evaluateAlerts, h.completes, h.clear, h.quiet⟩,
    fun ⟨hevaluates, hcompletes, hclear, hquiet⟩ => ⟨hevaluates, hcompletes, hclear, hquiet⟩⟩

instance (i : Ingestion) (db : TelemetryDb) : Decidable (Counts py i db) :=
  decidable_of_iff' _ (counts_iff py i db)

instance {before after : TelemetryDb} {op : TelemetryOperation} :
    Decidable (KeepsInStep py before op after) :=
  match op with
  | .ingest i => inferInstanceAs (Decidable (Counts py i before → _))
  | .operate _ => .isTrue trivial

instance {before after : TelemetryDb} {op : TelemetryOperation} :
    Decidable (Covers py before op after) :=
  match op with
  | .ingest i => inferInstanceAs (Decidable (Counts py i before → _))
  | .operate _ => .isTrue trivial

variable {py} {db : TelemetryDb}

/-- One ingestion. -/
theorem keepsInStep_ingest_iff {i : Ingestion} (hone : db.alerts.AtMostOneActive) :
    KeepsInStep py db (.ingest i) (step py db (.ingest i)) ↔
      Covers py db (.ingest i) (step py db (.ingest i)) := by
  refine forall_congr' fun hcounts => ?_
  obtain ⟨hlatest, hvisited⟩ := Ingestion.ingested_of_completed hcounts.completes
  have hsetup : db.alerts.SameSetup (i.ingest py db).2.alerts := by
    have hvisits : ∀ visits alerts alerts', Visited py visits alerts alerts' →
        alerts.SameSetup alerts' := by
      intro visits alerts alerts' h
      induction h with
      | nil db => exact refl_of SameSetup db
      | cons v visits db db₁ db' hvisit hrest ih =>
          have hfirst : db.SameSetup (evaluateLatest py v.row v.cached v.clock db).2 :=
            sameSetup_evaluateLatest db
          exact trans_of SameSetup (trans_of SameSetup hfirst
            (hvisit (rowKey v.row 0)).setup) ih
    exact hvisits _ _ _ hvisited
  have hmatching : ∀ row, matchingRuleQueryset (i.ingest py db).2.alerts row =
      matchingRuleQueryset db.alerts row := fun row => by
    simp only [matchingRuleQueryset, hsetup.rules]
  simp only [step, hlatest, hmatching]
  refine forall₂_congr fun row hrow => forall_congr' fun hnew => forall₂_congr fun rule hrule =>
    forall_congr' fun hduration => ?_
  -- a changed row is one of those written
  have hwritten : row ∈ i.rows py db :=
    (LatestRows.mem_updateOrCreateAll hrow).resolve_right hnew
  obtain ⟨hnodup, hrows⟩ := @Ingestion.visits_spec py db i
  rw [← settled_iff_says, ← settled_iff_says]
  exact hvisited.settled_iff hone hnodup hcounts.quiet (hrows row hwritten)
    (Table.mem_select.mp hrule).1 hduration

/-! ### Runs -/

theorem alerts_storePoints {source : String} {now : Instant} {items : List PointItem} :
    (storePoints source now items db).2.alerts = db.alerts := by
  induction items generalizing db with
  | nil => rfl
  | cons item items ih =>
      have hfirst : (storePoint source now item db).2.alerts = db.alerts := by
        unfold storePoint
        split
        · rfl
        · split <;> rfl
      rw [storePoints, Tx.bind_apply]
      rcases hstore : storePoint source now item db with ⟨e | u, db₁⟩
      · rw [hstore] at hfirst
        exact hfirst
      · rw [hstore] at hfirst
        exact ih.trans hfirst

theorem keepsAtMostOne_confirmMapping {device : Device} {metric : MetricDefinition}
    {state : Bool} {cached : Option (List RuleId)} {clock : ℕ → ℕ → Instant}
    {confirmationAt createdAt : Instant} :
    Tx.Respects KeepsAtMostOne
      (confirmMapping py device metric state cached clock confirmationAt createdAt) := by
  refine Tx.respects_bind keepsAtMostOne_evaluateLatest fun evaluated => ?_
  split
  · exact keepsAtMostOne_of_respects respects_confirmExactAlert
  · exact Tx.respects_pure _

theorem keepsAtMostOne_evaluateVisits {visits : List Visit} :
    Tx.Respects KeepsAtMostOne (evaluateVisits py visits) := by
  induction visits with
  | nil => exact Tx.respects_pure _
  | cons v visits ih => exact Tx.respects_bind keepsAtMostOne_evaluateLatest fun _ => ih

/-- One mapping of an SNMP poll. -/
theorem keepsAtMostOne_pollSnmpMapping {p : DevicePoll} {s : SnmpLoop} {m : MappingPoll} :
    KeepsAtMostOne s.db.alerts (pollSnmpMapping py p s m).db.alerts := by
  unfold pollSnmpMapping
  split
  · exact refl_of KeepsAtMostOne _
  · rename_i v hvisit
    have hevaluate : KeepsAtMostOne s.db.alerts
        (evaluateLatest py v.row v.cached v.clock s.db.alerts).2 :=
      keepsAtMostOne_evaluateLatest s.db.alerts
    split
    · exact refl_of KeepsAtMostOne _
    · dsimp only
      split
      · rcases h : evaluateLatest py v.row v.cached v.clock s.db.alerts with
          ⟨e | results, alerts⟩ <;> rwa [h] at hevaluate
      · exact refl_of KeepsAtMostOne _

/-- One mapping of the poll of a PAC. -/
theorem keepsAtMostOne_pollAlarm {p : PacPoll} {s : PacLoop} {m : AlarmPoll} :
    KeepsAtMostOne s.db.alerts (pollAlarm py p s m).db.alerts := by
  unfold pollAlarm
  split
  · exact refl_of KeepsAtMostOne _
  · rename_i state hstate
    have hconfirm : KeepsAtMostOne s.db.alerts
        (confirmMapping py p.device m.metric state m.cached m.clock p.confirmationAt
          m.createdAt s.db.alerts).2 := keepsAtMostOne_confirmMapping s.db.alerts
    dsimp only
    rcases h : confirmMapping py p.device m.metric state m.cached m.clock p.confirmationAt
      m.createdAt s.db.alerts with ⟨e | u, alerts⟩ <;> rwa [h] at hconfirm

/-- **The step lemma**: no step opens a second alert of a key. -/
theorem keepsAtMostOne_step (op : TelemetryOperation) :
    KeepsAtMostOne db.alerts (step py db op).alerts := by
  cases op with
  | operate operation => exact keepsAtMostOne_operate py db.alerts operation
  | ingest i =>
      cases i with
      | ingestPoints points source now =>
          have hsame : (step py db (.ingest (.ingestPoints points source now))).alerts =
              db.alerts := by
            simp only [step, Ingestion.ingest, ingestPoints, Tx.atomic]
            split
            · rename_i h
              have hstore := @alerts_storePoints db source now points
              rw [h] at hstore
              exact hstore
            · rfl
          rw [hsame]
          exact refl_of KeepsAtMostOne _
      | pollSnmpDevice poll =>
          simp only [step, Ingestion.ingest, pollSnmpDevice]
          split
          · exact refl_of KeepsAtMostOne _
          · intro hone
            refine List.foldlRecOn poll.polls (pollSnmpMapping py poll)
              (motive := fun s : SnmpLoop => s.db.alerts.AtMostOneActive) hone ?_
            exact fun s hs m _ => keepsAtMostOne_pollSnmpMapping hs
      | pollModbusDevice poll =>
          simp only [step, Ingestion.ingest, pollModbusDevice]
          split
          · exact refl_of KeepsAtMostOne _
          · split
            · have hvisits : KeepsAtMostOne db.alerts
                  (evaluateVisits py (poll.visits "modbus_worker") db.alerts).2 :=
                keepsAtMostOne_evaluateVisits db.alerts
              rcases h : evaluateVisits py (poll.visits "modbus_worker") db.alerts with
                ⟨e | u, alerts⟩ <;> rwa [h] at hvisits
            · exact refl_of KeepsAtMostOne _
      | confirmAlarms poll =>
          intro hone
          refine List.foldlRecOn poll.polls (pollAlarm py poll)
            (motive := fun s : PacLoop => s.db.alerts.AtMostOneActive) hone ?_
          exact fun s hs m _ => keepsAtMostOne_pollAlarm hs

/-- **Ingestion keeps alerts in step with telemetry**, in every run from no alerts, exactly
if each ingestion of the run evaluates the matching rules of each row that it changes, or
finds their alerts in step already. -/
theorem along_keepsInStep_iff (hempty : db.alerts.alerts.rows = [])
    {w : List TelemetryOperation} :
    Along (step py) (KeepsInStep py) db w ↔ Along (step py) (Covers py) db w := by
  have hone : db.alerts.AtMostOneActive := by
    rintro key id ⟨alert, halert, -⟩
    rw [Table.mem_def, hempty] at halert
    cases halert
  have hkeep : ∀ (s : TelemetryDb) (op : TelemetryOperation), s.alerts.AtMostOneActive →
      True → (step py s op).alerts.AtMostOneActive := fun s op hs _ => keepsAtMostOne_step op hs
  have hreached : Along (step py) (fun before _ _ => before.alerts.AtMostOneActive) db w :=
    along_mono (I := fun s : TelemetryDb => s.alerts.AtMostOneActive)
      (G := fun _ _ _ => True) hkeep (fun s op hs _ => hs) hone
      (along_of_forall (fun _ _ => trivial) db w)
  refine along_congr (fun s op hs => ?_) hreached
  cases op with
  | ingest i => exact keepsInStep_ingest_iff hs
  | operate operation => exact Iff.rfl

/-! ### A room that grows hot -/

/-- A data center with one sensor and a rule for it, before any telemetry. -/
def quietRoom : TelemetryDb := ⟨serverRoom, .empty⟩

/-- The sensor answers an SNMP poll. -/
def pollSensor (value : ℚ) : TelemetryOperation :=
  .ingest (.pollSnmpDevice
    { device := roomSensor
      startedAt := 0
      polls := [{ metric := temperature
                  answer := some ({ valueFloat := some (.finite value) }, .good)
                  cached := none
                  clock := fun _ _ => 0 }]
      distinct := List.nodup_singleton _ })

/-- The same reading over the REST API. -/
def postReading (value : ℚ) : TelemetryOperation :=
  .ingest (.ingestPoints
    [{ device := roomSensor.id
       metricCode := temperature.code
       valueFloat := some (.finite value) }] "api" 0)

/-- Polls keep the alerts in step with a room that grows hot and cools down. -/
theorem along_keepsInStep_quietRoom :
    Along (step plainText) (KeepsInStep plainText) quietRoom
      [pollSensor 35, pollSensor 36, pollSensor 20] :=
  (along_keepsInStep_iff rfl).mpr (by decide)

/-- A hot reading over the REST API raises no alert. -/
theorem postedReading_raises_nothing :
    ¬Along (step plainText) (KeepsInStep plainText) quietRoom [postReading 35] := by
  decide

end TelemetryOperation

end DcimBackend
