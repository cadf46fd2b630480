import DcimBackend.Alerts.Lifecycle

/-!
# Alerts and the rules behind them

An evaluation visits the rules that match the row now, while an alert keeps the rule that
opened it.  After an evaluation that returns, the active alerts of the row therefore fall
into two kinds: those of a rule that was visited, whose condition is then true, and those
of a rule that was not, which the evaluation has left as they were.

A rule that is deactivated, or that moves to another scope, turns its alerts into the
second kind, and nothing in the engine looks for them.
-/

namespace DcimBackend

open Library

/-- The alert is one of the row's organization, data center, device and metric. -/
def AlertEvent.OnRow (alert : AlertEvent) (latest : LatestTelemetry) : Prop :=
  alert.organization = latest.organization ∧ alert.dataCenter = latest.dataCenter ∧
    alert.device = latest.device.id ∧ alert.metric = some latest.metric.id

instance (alert : AlertEvent) (latest : LatestTelemetry) : Decidable (alert.OnRow latest) :=
  inferInstanceAs (Decidable (_ ∧ _))

/-- The key of the alerts of a rule on a row, by the key of the rule. -/
def rowKey (latest : LatestTelemetry) (rule : RuleId) : ConditionKey where
  organization := latest.organization
  dataCenter := latest.dataCenter
  device := latest.device.id
  metric := some latest.metric.id
  alertRule := rule

theorem rowKey_id (latest : LatestTelemetry) (rule : AlertRule) :
    rowKey latest rule.id = conditionKey latest rule := rfl

theorem AlertEvent.hasKey_rowKey_iff {alert : AlertEvent} {latest : LatestTelemetry}
    {rule : RuleId} :
    alert.HasKey (rowKey latest rule) ↔ alert.OnRow latest ∧ alert.alertRule = some rule := by
  simp only [AlertEvent.HasKey, AlertEvent.OnRow, rowKey, and_assoc]

namespace AlertsDb

variable {db db' : AlertsDb} {py : PyText} {latest : LatestTelemetry} {rule : AlertRule}

/-- Every active alert of a rule on the row belongs to a rule that matches the row and
whose condition is true of it. -/
def NoOrphan (latest : LatestTelemetry) (db : AlertsDb) : Prop :=
  ∀ alert ∈ db.alerts, alert.status.isActive → alert.OnRow latest →
    ∀ id ∈ alert.alertRule, ∃ rule ∈ matchingRuleQueryset db latest,
      rule.id = id ∧ (evaluateRuleCondition rule latest).1 = true

instance : Decidable (NoOrphan latest db) :=
  inferInstanceAs (Decidable (∀ alert ∈ db.alerts, _))

/-- After the evaluation, every active alert of a rule on the row belongs to a rule that
matches the row and whose condition is true of it, or to a rule that the evaluation has
not visited, and then it was active before. -/
def OrphanOrMatching (latest : LatestTelemetry) (cached : Option (List RuleId))
    (before after : AlertsDb) : Prop :=
  ∀ alert ∈ after.alerts, alert.status.isActive → alert.OnRow latest →
    ∀ id ∈ alert.alertRule,
      (∃ rule ∈ matchingRuleQueryset after latest,
          rule.id = id ∧ (evaluateRuleCondition rule latest).1 = true) ∨
        (∀ rule ∈ getMatchingRules before latest cached, rule.id ≠ id) ∧
          alert.id ∈ before.activeIds (rowKey latest id)

/-! ### The turns -/

/-- The turns of other rules leave the alerts of a rule alone. -/
theorem activeIds_ruleTurns {key : ConditionKey} {rules : List AlertRule}
    {clock : ℕ → ℕ → Instant} {alerts : List AlertEvent}
    (hne : ∀ rule ∈ rules, rule.id ≠ key.alertRule)
    (h : ruleTurns py latest rules clock db = (.ok alerts, db')) :
    db'.activeIds key = db.activeIds key := by
  induction rules generalizing db clock alerts with
  | nil =>
      obtain rfl := (Prod.mk.inj h).2
      rfl
  | cons rule rules ih =>
      obtain ⟨result, db₁, hturn, h⟩ := Tx.bind_eq_ok_iff.mp h
      obtain ⟨rest, db₂, hturns, h⟩ := Tx.bind_eq_ok_iff.mp h
      obtain rfl := (Prod.mk.inj h).2
      have hfirst : db₁.activeIds key = db.activeIds key :=
        (turnEffect_of_ok hturn).activeIds_of_rule_ne (hne rule List.mem_cons_self).symm
      exact (ih (fun other hother => hne other (List.mem_cons_of_mem _ hother)) hturns).trans
        hfirst

/-- Evaluation edits no rule. -/
theorem sameSetup_evaluateLatest {cached : Option (List RuleId)} {clock : ℕ → ℕ → Instant} :
    Tx.Respects SameSetup (evaluateLatest py latest cached clock) :=
  respects_evaluateLatest (fun _ _ db => (respects_ruleTurn db).setup) fun _ =>
    Tx.respects_atomic fun db => (respects_resolveUpsTrapAlertIfNeeded (K := ∅) db).setup

/-- **The alerts behind an evaluation** that returns, in every state that a sequence of
operations reaches. -/
theorem orphanOrMatching_evaluateLatest (hempty : db.alerts.rows = [])
    (w : List AlertOperation) {cached : Option (List RuleId)} {clock : ℕ → ℕ → Instant}
    {alerts : List AlertEvent}
    (h : evaluateLatest py latest cached clock (run (operate py) db w) = (.ok alerts, db')) :
    OrphanOrMatching latest cached (run (operate py) db w) db' := by
  have hone : (run (operate py) db w).AtMostOneActive := atMostOneActive_run hempty w
  have hsetup := sameSetup_evaluateLatest.of_eq h
  generalize run (operate py) db w = before at h hone hsetup ⊢
  intro alert halert hactive hrow id hid
  have hmem : alert.id ∈ db'.activeIds (rowKey latest id) :=
    ⟨alert, halert, rfl, hactive, AlertEvent.hasKey_rowKey_iff.mpr ⟨hrow, hid⟩⟩
  obtain ⟨turnAlerts, trapAlert, db₁, hturns, htrap, -⟩ := evaluateLatest_ok h
  -- the trap step behind the turns changes no key
  rw [(resolveUpsTrapAlert_ok htrap).2] at hmem
  by_cases hvisited : ∃ rule ∈ getMatchingRules before latest cached, rule.id = id
  · obtain ⟨rule, hrule, rfl⟩ := hvisited
    refine Or.inl ⟨rule, ?_, rfl, ?_⟩
    · have hmatching := mem_matchingRuleQueryset_of_mem hrule
      unfold matchingRuleQueryset at hmatching ⊢
      rwa [hsetup.rules]
    · by_contra hfalse
      have hnone : db₁.activeIds (conditionKey latest rule) = ∅ := by
        refine established_ruleTurns (P := fun ids => ids = ∅) hone (fun other hother heq => ?_)
          (fun i before after _ _ hone heffect =>
            heffect.activeIds_of_false hone (by simpa using hfalse)) (Or.inl hrule) hturns
        exact before.rules.eq_of_pk_eq (mem_rules_of_mem_getMatchingRules hother)
          (mem_rules_of_mem_getMatchingRules hrule) heq
      rw [rowKey_id, hnone] at hmem
      exact hmem
  · push Not at hvisited
    refine Or.inr ⟨hvisited, ?_⟩
    rwa [activeIds_ruleTurns hvisited hturns] at hmem

/-! ### A rule that is switched off -/

/-- The rule of the server room, switched off. -/
def switchedOff : AlertRule := { tooHot with isActive := false }

/-- A hot reading, and then the rule is switched off. -/
def switchOff : List AlertOperation :=
  [.evaluateLatest hotRow none fun _ _ => 0, .saveRule switchedOff]

/-- The next evaluation returns. -/
theorem exists_evaluateLatest_switchOff :
    ∃ alerts db', evaluateLatest plainText hotRow none (fun _ _ => 0)
      (run (operate plainText) serverRoom switchOff) = (.ok alerts, db') := by
  rcases h : evaluateLatest plainText hotRow none (fun _ _ => 0)
    (run (operate plainText) serverRoom switchOff) with ⟨e | alerts, db'⟩
  · have hok : (evaluateLatest plainText hotRow none (fun _ _ => 0)
        (run (operate plainText) serverRoom switchOff)).1.isOk = true := by decide
    rw [h] at hok
    cases hok
  · exact ⟨alerts, db', rfl⟩

theorem orphanOrMatching_evaluateLatest_switchOff :
    ∃ alerts db', evaluateLatest plainText hotRow none (fun _ _ => 0)
        (run (operate plainText) serverRoom switchOff) = (.ok alerts, db') ∧
      OrphanOrMatching hotRow none (run (operate plainText) serverRoom switchOff) db' := by
  obtain ⟨alerts, db', h⟩ := exists_evaluateLatest_switchOff
  exact ⟨alerts, db', h, orphanOrMatching_evaluateLatest rfl switchOff h⟩

/-- It leaves the alert of the rule active. -/
theorem switchOff_orphan :
    ¬∀ latest cached clock alerts db',
      evaluateLatest plainText latest cached clock (run (operate plainText) serverRoom switchOff) =
        (.ok alerts, db') → NoOrphan latest db' := by
  intro hclaim
  obtain ⟨alerts, db', h⟩ := exists_evaluateLatest_switchOff
  have horphan : ¬NoOrphan hotRow (evaluateLatest plainText hotRow none (fun _ _ => 0)
    (run (operate plainText) serverRoom switchOff)).2 := by decide
  rw [h] at horphan
  exact horphan (hclaim hotRow none _ alerts db' h)

end AlertsDb

end DcimBackend
