import DcimBackend.Alerts.Isolation
import DcimBackend.Alerts.Suppression

/-!
# Rules that block others

`evaluate_latest` gives each rule a transaction of its own, and has no handler around it: a turn
that raises ends the loop.  The rules behind it and the check of the trap alerts are not reached.

`unblocked_iff` says when nothing is blocked.  A turn looks at the alerts and the timer of its own
key only, so that the state in front of the evaluation tells whether it raises.

What "not blocked" should mean is defined by a second function, `evaluatedApart`: the same
evaluation in which a turn that raises is as if its rule did not exist.  The theorem compares the
two on the steps they come to and on the state they leave.
-/

namespace DcimBackend.AlertsDb

open Library

/-- The steps of `evaluate_latest`. -/
inductive EvaluationStep
  | turn (rule : AlertRule)
  | trap

section Steps

variable (py : PyText) (latest : LatestTelemetry)

/-- The steps that an evaluation of these rules comes to. -/
def stepsReached (rules : List AlertRule) (clock : ℕ → ℕ → Instant) (db : AlertsDb) :
    List EvaluationStep :=
  (rulesReached py latest rules clock db).map .turn ++
    if (ruleTurns py latest rules clock db).1.isOk then [.trap] else []

/-- The turns of a list of rules, where one that raises is as if its rule did not exist. -/
def turnsApart : List AlertRule → (ℕ → ℕ → Instant) → AlertsDb → AlertsDb
  | [], _, db => db
  | rule :: rules, clock, db =>
      turnsApart rules (fun i => clock (i + 1)) (ruleTurn py latest rule (clock 0) db).2

/-- What an evaluation would leave, if no rule blocked others. -/
def evaluatedApart (cached : Option (List RuleId)) (clock : ℕ → ℕ → Instant) (db : AlertsDb) :
    AlertsDb :=
  let rules := getMatchingRules db latest cached
  (Tx.atomic (resolveUpsTrapAlertIfNeeded py latest (clock rules.length))
    (turnsApart py latest rules clock db)).2

/-- An evaluation comes to every matching rule and to the trap alerts, and leaves what it would
leave if the rules that raise did not exist. -/
structure Unblocked (cached : Option (List RuleId)) (clock : ℕ → ℕ → Instant) (db : AlertsDb) :
    Prop where
  turns : ∀ rule ∈ getMatchingRules db latest cached,
    .turn rule ∈ stepsReached py latest (getMatchingRules db latest cached) clock db
  trap : .trap ∈ stepsReached py latest (getMatchingRules db latest cached) clock db
  state : (evaluateLatest py latest cached clock db).2 =
    evaluatedApart py latest cached clock db

/-- Handling the rule raises.  Under suppression, nothing is written that PostgreSQL refuses, unless
the condition is false. -/
def handlingRaises (rule : AlertRule) (clock : ℕ → Instant) (db : AlertsDb) : Bool :=
  turnRaises py latest rule (clock 2) db &&
    !((evaluateRuleCondition rule latest).1 && hasSuppression latest (clock 1) db)

end Steps

variable {db db' : AlertsDb} {py : PyText} {latest : LatestTelemetry} {rule : AlertRule}
  {rules : List AlertRule} {cached : Option (List RuleId)}

/-! ### When a turn raises -/

/-- A turn under suppression and a true condition returns. -/
theorem ruleTurn_of_suppressed {clock : ℕ → Instant} (hrule : rule ∈ db.rules)
    (htrue : (evaluateRuleCondition rule latest).1 = true)
    (hsuppressed : hasSuppression latest (clock 1) db = true) :
    ∃ result db', ruleTurn py latest rule clock db = (.ok result, db') := by
  cases hfound : activeAlertForRule latest rule db with
  | some alert =>
      obtain ⟨halert, hactive, -⟩ := activeAlertForRule_some hfound
      have hstatus : alert.status ≠ .suppressed := by
        intro hclosed
        rw [hclosed] at hactive
        cases hactive
      obtain ⟨result, db', hsuppress⟩ := suppressAlert_succeeds none
        (some "Suppression window active") (clock 2) halert
      refine ⟨some result, db', ?_⟩
      rw [ruleTurn_of_true htrue hfound]
      refine Tx.atomic_eq_ok_iff.mpr (Tx.bind_eq_ok_iff.mpr ⟨_, db, rfl, ?_⟩)
      simp only [hsuppressed, if_pos, if_pos hstatus]
      exact map_eq_ok_iff.mpr ⟨result, hsuppress, rfl⟩
  | none =>
      obtain ⟨result, db', hcreate, -⟩ := @createSuppressedAlert_succeeds db py latest rule
        (evaluateRuleCondition rule latest).2.1 (evaluateRuleCondition rule latest).2.2 (clock 0)
        (clock 2) hrule
      refine ⟨some result, db', ?_⟩
      rw [ruleTurn_of_true htrue hfound]
      refine Tx.atomic_eq_ok_iff.mpr ((ensureAlert_none_of_suppressed hsuppressed).trans ?_)
      exact map_eq_ok_iff.mpr ⟨result, hcreate, rfl⟩

theorem ruleTurn_returns_iff {clock : ℕ → Instant} (hrule : rule ∈ db.rules) :
    (∃ result db', ruleTurn py latest rule clock db = (.ok result, db')) ↔
      handlingRaises py latest rule clock db = false := by
  unfold handlingRaises
  by_cases hsuppressed : (evaluateRuleCondition rule latest).1 = true ∧
      hasSuppression latest (clock 1) db = true
  · refine iff_of_true (ruleTurn_of_suppressed hrule hsuppressed.1 hsuppressed.2) ?_
    rw [hsuppressed.1, hsuppressed.2, Bool.and_self, Bool.not_true, Bool.and_false]
  · have hclear : (evaluateRuleCondition rule latest).1 = true →
        hasSuppression latest (clock 1) db = false :=
      fun htrue => by simpa [htrue] using hsuppressed
    rw [ruleTurn_succeeds_iff hrule hclear]
    have hnot : ((evaluateRuleCondition rule latest).1 &&
        hasSuppression latest (clock 1) db) = false := by
      rw [Bool.and_eq_false_iff]
      by_cases htrue : (evaluateRuleCondition rule latest).1 = true
      · exact .inr (hclear htrue)
      · exact .inl (by simpa using htrue)
    rw [hnot, Bool.not_false, Bool.and_true]

theorem Undisturbed.handlingRaises_eq {clock : ℕ → Instant}
    (h : Undisturbed (conditionKey latest rule) db db') :
    handlingRaises py latest rule clock db' = handlingRaises py latest rule clock db := by
  unfold handlingRaises hasSuppression
  rw [h.turnRaises_eq, h.setup.windows]

/-! ### What an evaluation comes to -/

theorem nodup_getMatchingRules (hcached : ∀ ids ∈ cached, ids.Nodup) :
    ((getMatchingRules db latest cached).map AlertRule.id).Nodup := by
  have hmatching : ((matchingRuleQueryset db latest).map AlertRule.id).Nodup :=
    (List.filter_sublist.map _).nodup db.rules.nodup_pk
  unfold getMatchingRules
  cases cached with
  | none => exact ((List.perm_insertionSort _ _).map _).nodup_iff.mpr hmatching
  | some ids =>
      have hids : ((ids.filterMap fun id => (matchingRuleQueryset db latest).find? fun rule =>
          rule.id = id).map AlertRule.id).Sublist ids := by
        generalize matchingRuleQueryset db latest = matching
        clear hcached
        induction ids with
        | nil => exact List.Sublist.refl []
        | cons id ids ih =>
            rw [List.filterMap_cons]
            split
            · exact ih.cons id
            · rename_i rule hfind
              have hid : rule.id = id := by simpa using List.find?_some hfind
              rw [List.map_cons, hid]
              exact ih.cons_cons id
      exact hids.nodup (hcached ids rfl)

/-- The turns of a list of rules return exactly if none of them raises, in the state in front of
them all. -/
theorem isOk_ruleTurns_iff {clock : ℕ → ℕ → Instant} (hnodup : (rules.map AlertRule.id).Nodup)
    (hstored : ∀ rule ∈ rules, rule ∈ db.rules) :
    (ruleTurns py latest rules clock db).1.isOk = true ↔
      ∀ i rule, rules[i]? = some rule → handlingRaises py latest rule (clock i) db = false := by
  induction rules generalizing db clock with
  | nil => exact iff_of_true rfl fun i rule h => by cases h
  | cons rule rules ih =>
      rw [List.map_cons, List.nodup_cons] at hnodup
      have hreturns := @ruleTurn_returns_iff db py latest rule (clock 0)
        (hstored rule List.mem_cons_self)
      have hall : (∀ i other, (rule :: rules)[i]? = some other →
          handlingRaises py latest other (clock i) db = false) ↔
          handlingRaises py latest rule (clock 0) db = false ∧
            ∀ i other, rules[i]? = some other →
              handlingRaises py latest other (clock (i + 1)) db = false :=
        ⟨fun h => ⟨h 0 rule rfl, fun i other hi => h (i + 1) other hi⟩,
          fun h i other hi => by
            cases i with
            | zero => obtain rfl := Option.some.inj hi; exact h.1
            | succ i => exact h.2 i other hi⟩
      rw [hall, ruleTurns, Tx.bind_apply, ← hreturns]
      rcases hturn : ruleTurn py latest rule (clock 0) db with ⟨e | result, db₁⟩
      · refine iff_of_false (fun h => by cases h) ?_
        rintro ⟨⟨result, db', hok⟩, -⟩
        cases (Prod.mk.inj hok).1
      have hsetup : db.SameSetup db₁ := (respects_ruleTurn.of_eq hturn).setup
      have hrest := @ih db₁ (fun i => clock (i + 1)) hnodup.2 fun next hnext =>
        hsetup.rules ▸ hstored next (List.mem_cons_of_mem _ hnext)
      have hapart : ∀ next ∈ rules, Undisturbed (conditionKey latest next) db db₁ := by
        intro next hnext
        refine (undisturbed_ruleTurn fun heq => hnodup.1 ?_).of_eq hturn
        exact List.mem_map.mpr ⟨next, hnext, id_eq_of_conditionKey_eq heq⟩
      have hsame : (∀ i other, rules[i]? = some other →
          handlingRaises py latest other (clock (i + 1)) db₁ = false) ↔
          ∀ i other, rules[i]? = some other →
            handlingRaises py latest other (clock (i + 1)) db = false := by
        refine forall_congr' fun i => forall_congr' fun other => imp_congr_right fun hi => ?_
        rw [(hapart other (List.mem_of_getElem? hi)).handlingRaises_eq]
      rw [← hsame, ← hrest, and_iff_right ⟨result, db₁, rfl⟩]
      dsimp only
      rw [Tx.bind_apply]
      rcases ruleTurns py latest rules (fun i => clock (i + 1)) db₁ with ⟨e | alerts, db₂⟩
      · rfl
      · rfl

/-- Where every turn returns, every rule is reached, and the turns are those of rules apart. -/
theorem reached_of_isOk {clock : ℕ → ℕ → Instant}
    (h : (ruleTurns py latest rules clock db).1.isOk = true) :
    rulesReached py latest rules clock db = rules ∧
      (ruleTurns py latest rules clock db).2 = turnsApart py latest rules clock db := by
  induction rules generalizing db clock with
  | nil => exact ⟨rfl, rfl⟩
  | cons rule rules ih =>
      rw [ruleTurns, Tx.bind_apply] at h
      rw [ruleTurns_cons_snd, turnsApart, rulesReached]
      rcases hturn : ruleTurn py latest rule (clock 0) db with ⟨e | result, db₁⟩
      · rw [hturn] at h
        cases h
      rw [hturn] at h
      dsimp only at h ⊢
      rw [Tx.bind_apply] at h
      have hrest : (ruleTurns py latest rules (fun i => clock (i + 1)) db₁).1.isOk = true := by
        rcases hturns : ruleTurns py latest rules (fun i => clock (i + 1)) db₁ with
          ⟨e | alerts, db₂⟩
        · rw [hturns] at h
          cases h
        · rfl
      obtain ⟨hreached, hstate⟩ := ih hrest
      exact ⟨congrArg (rule :: ·) hreached, hstate⟩

/-- An evaluation whose turns return comes to the trap alerts. -/
theorem evaluateLatest_of_isOk {clock : ℕ → ℕ → Instant}
    (h : (ruleTurns py latest (getMatchingRules db latest cached) clock db).1.isOk = true) :
    (evaluateLatest py latest cached clock db).2 =
      (Tx.atomic (resolveUpsTrapAlertIfNeeded py latest
        (clock (getMatchingRules db latest cached).length))
        (ruleTurns py latest (getMatchingRules db latest cached) clock db).2).2 := by
  rw [evaluateLatest, Tx.bind_apply, Tx.read_apply]
  dsimp only
  rw [Tx.bind_apply]
  rcases hturns : ruleTurns py latest (getMatchingRules db latest cached) clock db with
    ⟨e | alerts, db₁⟩
  · rw [hturns] at h
    cases h
  dsimp only
  rw [Tx.bind_apply]
  rcases Tx.atomic (resolveUpsTrapAlertIfNeeded py latest
    (clock (getMatchingRules db latest cached).length)) db₁ with ⟨e | alert, db₂⟩
  · rfl
  · rfl

/-- **Exactly when no rule blocks another**: no matching rule raises, by the state in front of the
evaluation. -/
theorem unblocked_iff {clock : ℕ → ℕ → Instant} (hcached : ∀ ids ∈ cached, ids.Nodup) :
    Unblocked py latest cached clock db ↔
      ∀ i rule, (getMatchingRules db latest cached)[i]? = some rule →
        handlingRaises py latest rule (clock i) db = false := by
  rw [← isOk_ruleTurns_iff (nodup_getMatchingRules hcached) fun rule =>
    mem_rules_of_mem_getMatchingRules]
  constructor
  · intro h
    by_contra hraises
    have htrap := h.trap
    rw [stepsReached, if_neg hraises, List.append_nil] at htrap
    obtain ⟨rule, -, hrule⟩ := List.mem_map.mp htrap
    cases hrule
  · intro h
    obtain ⟨hreached, hstate⟩ := reached_of_isOk h
    refine ⟨fun rule hrule => ?_, ?_, ?_⟩
    · rw [stepsReached, hreached]
      exact List.mem_append_left _ (List.mem_map.mpr ⟨rule, hrule, rfl⟩)
    · rw [stepsReached, if_pos h]
      exact List.mem_append_right _ List.mem_cons_self
    · rw [evaluateLatest_of_isOk h, hstate]
      rfl

/-! ### An infinite reading -/

/-- An alert above 31 degrees, at once. -/
def stillHotter : AlertRule :=
  { tooHot with id := 2, name := "Hotter still", thresholdFloat := some (.finite 31) }

/-- A data center with one sensor, a rule of one minute and one without duration.  Their thresholds
differ, since no two active rules may agree in scope, metric, operator and threshold. -/
def twoRulesRoom : AlertsDb :=
  .quiet serverRoom.hierarchy serverRoom.deviceTypes serverRoom.metrics
    (.ofRows [Watched.minuteRule, stillHotter]) .empty

/-- Both rules pass their checks in the room. -/
example : ∀ rule ∈ [Watched.minuteRule, stillHotter], rule.fullClean twoRulesRoom = .ok ⟨⟩ := by
  decide

/-- A reading that is infinite. -/
def infiniteRow : LatestTelemetry := sensorRow { valueFloat := some .posInf } .good

/-- A finite reading blocks no rule. -/
theorem unblocked_iff_hotRow :
    Unblocked plainText hotRow none (fun _ _ => 0) twoRulesRoom ↔
      ∀ (i : ℕ) rule, (getMatchingRules twoRulesRoom hotRow none)[i]? = some rule →
        handlingRaises plainText hotRow rule (fun _ => 0) twoRulesRoom = false :=
  @unblocked_iff twoRulesRoom plainText hotRow none (fun _ _ => 0) fun _ h => by cases h

/-- The rule without duration cannot open its alert on an infinite reading, and the timer of the
other rule does not start. -/
theorem infiniteRow_blocks :
    handlingRaises plainText infiniteRow stillHotter (fun _ => 0) twoRulesRoom = true ∧
      handlingRaises plainText infiniteRow Watched.minuteRule (fun _ => 0) twoRulesRoom = false ∧
      ¬Unblocked plainText infiniteRow none (fun _ _ => 0) twoRulesRoom := by
  refine ⟨by decide, by decide, fun h => ?_⟩
  have hstate := congrArg (fun db : AlertsDb => db.conditionStates.length) h.state
  have hstarted : (evaluatedApart plainText infiniteRow none (fun _ _ => 0)
      twoRulesRoom).conditionStates.length = 1 := by decide
  have hblocked : (evaluateLatest plainText infiniteRow none (fun _ _ => 0)
      twoRulesRoom).2.conditionStates.length = 0 := by decide
  rw [hblocked, hstarted] at hstate
  cases hstate

end DcimBackend.AlertsDb
