import DcimBackend.Alerts.Lifecycle

/-!
# Resolution and evidence

When `evaluateLatest` resolves the alert of a rule, and whether the row gave it a reason
to.  The exception handler of `evaluate_rule_condition` answers `False`, and so does a
rule without a threshold, so a row that says nothing about the rule takes the branch of
a row that says the condition is over.

`resolvesOnEvidence_iff` is the exact line: an evaluation resolves on evidence only, if
and only if each rule that it reaches with an active alert has a usable value, a true
condition, or a resolution that PostgreSQL refuses.

`Usable` and `Evidence` are the model's own reading of "the row says something about the rule",
stated by the columns of the row and the threshold of the rule, and not by the code that evaluates
them.  Readings that PostgreSQL cannot store in a snapshot appear in the exact line, since a turn
that raises resolves nothing.
-/

namespace DcimBackend

open Library

/-! ### Evidence -/

/-- A reading of bad quality in the text column, of a metric that is not a text: what
`store_value_by_metric_type` makes of a value that it cannot convert. -/
def LatestTelemetry.IsTextFallback (latest : LatestTelemetry) : Prop :=
  latest.quality = .bad ∧ latest.metric.dataType ≠ .text ∧
    ∃ text, valueFromLatest latest.toReading = .text text

/-- The row carries a value that says something about the rule. -/
structure Usable (rule : AlertRule) (latest : LatestTelemetry) : Prop where
  value : valueFromLatest latest.toReading ≠ .none
  comparable : (valueFromLatest latest.toReading).comparable (thresholdFromRule rule)
  reading : ¬latest.IsTextFallback

/-- The row says that the condition of the rule is over. -/
structure Evidence (rule : AlertRule) (latest : LatestTelemetry) : Prop extends
    Usable rule latest where
  operator : compare rule.operator (valueFromLatest latest.toReading) (thresholdFromRule rule) =
    some false

section Evidence

variable {rule : AlertRule} {latest : LatestTelemetry}

/-- With a usable value, a false condition is evidence. -/
theorem Usable.evidence (h : Usable rule latest)
    (hfalse : (evaluateRuleCondition rule latest).1 = false) : Evidence rule latest := by
  refine ⟨h, ?_⟩
  have hthreshold : thresholdFromRule rule ≠ .none := by
    intro hnone
    have := h.comparable
    rw [hnone, PyValue.comparable_comm, PyValue.not_comparable_none] at this
    cases this
  obtain ⟨result, hresult⟩ : ∃ result, compare rule.operator
      (valueFromLatest latest.toReading) (thresholdFromRule rule) = some result :=
    Option.isSome_iff_exists.mp (isSome_compare_of_comparable h.comparable)
  rw [evaluateRuleCondition, if_neg hthreshold] at hfalse
  simp only [hresult, Option.getD_some] at hfalse
  rw [hresult, hfalse]

end Evidence

/-- The snapshot that the resolution of a rule's alert logs. -/
def resolutionSnapshot (py : PyText) (latest : LatestTelemetry) (rule : AlertRule) : Dict :=
  valueSnapshot py (some latest) (valueFromLatest latest.toReading) (thresholdFromRule rule)

namespace AlertsDb

variable {db db' : AlertsDb} {py : PyText} {latest : LatestTelemetry} {rule : AlertRule}

/-- An alert of a key that was active is resolved. -/
def MovesToResolved (key : ConditionKey) (db db' : AlertsDb) : Prop :=
  ∃ id ∈ db.activeIds key, ∃ alert ∈ db'.alerts, alert.id = id ∧ alert.status = .resolved

/-! ### One turn -/

/-- A turn with an active alert and a false condition, whose resolution PostgreSQL
accepts. -/
def TurnResolves (py : PyText) (latest : LatestTelemetry) (rule : AlertRule) (db : AlertsDb) :
    Prop :=
  (evaluateRuleCondition rule latest).1 = false ∧
    (db.activeIds (conditionKey latest rule)).Nonempty ∧
    (resolutionSnapshot py latest rule).storable

/-- Resolving a stored alert of a stored rule succeeds exactly if the log row can be
stored. -/
theorem resolveAlert_succeeds_iff {alert : AlertEvent} (resolutionType : String)
    (user : Option UserId) (comment : Option String) (now : Instant)
    (halert : alert ∈ db.alerts) (hrule : rule ∈ db.rules)
    (hkey : alert.alertRule = some rule.id) :
    (∃ result db', resolveAlert py alert (some latest) resolutionType user comment now db =
        (.ok result, db')) ↔ (resolutionSnapshot py latest rule).storable := by
  constructor
  · rintro ⟨result, db', h⟩
    obtain ⟨_, db₁, hsave, h⟩ := Tx.bind_eq_ok_iff.mp h
    obtain ⟨found, db₂, hread, h⟩ := Tx.bind_eq_ok_iff.mp h
    obtain ⟨hfound, rfl⟩ := Prod.mk.inj hread
    obtain ⟨_, db₃, hlog, -⟩ := Tx.bind_eq_ok_iff.mp h
    -- the save left the rules alone, so the threshold is the one of the rule
    have hbind : alert.alertRule.bind db₁.rules.find = some rule := by
      rw [hkey, (sameSetup_saveAlert.of_eq hsave).rules]
      exact Table.find_pk hrule
    obtain rfl : some rule = found := hbind.symm.trans (Except.ok.inj hfound)
    exact (createAlertLog_eq_ok_iff.mp hlog).1.1
  · intro hstorable
    have hfind : db.alerts.find alert.id = some alert := Table.find_pk halert
    obtain ⟨db₁, hsave, hsetup, -⟩ :
        ∃ db₁, saveAlert (alert.asResolved resolutionType user comment now)
          [.status, .resolvedAt, .resolvedBy, .resolutionType, .resolveComment, .lastSeenAt]
          db = (.ok ⟨⟩, db₁) ∧ db.SameSetup db₁ ∧ _ :=
      saveAlert_of_find hfind (by simp) (by simp)
    have hfound : alert.alertRule.bind db₁.rules.find = some rule := by
      rw [hkey, hsetup.rules]
      exact Table.find_pk hrule
    refine ⟨_, _, Tx.bind_eq_ok_iff.mpr ⟨_, db₁, hsave, Tx.bind_eq_ok_iff.mpr ⟨_, db₁, rfl,
      Tx.bind_eq_ok_iff.mpr ⟨(), _, createAlertLog_eq_ok_iff.mpr ⟨⟨?_, rfl⟩, rfl⟩, rfl⟩⟩⟩⟩
    simp only [hfound]
    exact hstorable

/-- A row with a status has it for good only if it is not active. -/
theorem MovesToResolved.of_frozen {key : ConditionKey} {db'' : AlertsDb}
    (h : MovesToResolved key db db') (hfrozen : db'.Frozen db'') :
    MovesToResolved key db db'' := by
  obtain ⟨id, hid, alert, halert, hsame, hstatus⟩ := h
  exact ⟨id, hid, alert, hfrozen alert halert (by rw [hstatus]; rfl), hsame, hstatus⟩

/-- No alert is active and resolved at once. -/
theorem not_resolved_of_mem_activeIds {key : ConditionKey} {alert : AlertEvent}
    (hmem : alert.id ∈ db.activeIds key) (halert : alert ∈ db.alerts) :
    alert.status ≠ .resolved := by
  obtain ⟨other, hother, hid, hactive, -⟩ := hmem
  obtain rfl : other = alert := db.alerts.eq_of_pk_eq hother halert hid
  intro hresolved
  rw [hresolved] at hactive
  cases hactive

/-- A turn that resolves does resolve. -/
theorem TurnResolves.moves (h : TurnResolves py latest rule db) (hrule : rule ∈ db.rules)
    (clock : ℕ → Instant) :
    ∃ result db', ruleTurn py latest rule clock db = (.ok result, db') ∧
      MovesToResolved (conditionKey latest rule) db db' := by
  obtain ⟨hfalse, hnonempty, hstorable⟩ := h
  obtain ⟨alert, hfound⟩ : ∃ alert, activeAlertForRule latest rule db = some alert := by
    rw [← Option.isSome_iff_exists, Option.isSome_iff_ne_none]
    intro hnone
    exact hnonempty.ne_empty (activeAlertForRule_none hnone)
  obtain ⟨halert, hactive⟩ := activeAlertForRule_some hfound
  obtain ⟨result, db', hresolve⟩ := (resolveAlert_succeeds_iff "AUTO" none none (clock 0) halert hrule
    hactive.2.2.2.2.2).mpr hstorable
  have hturn : ruleTurn py latest rule clock db = (.ok (some result), db') := by
    refine Tx.atomic_eq_ok_iff.mpr ?_
    rw [if_neg (by simp [hfalse])]
    refine Tx.bind_eq_ok_iff.mpr ⟨_, db, rfl, ?_⟩
    rw [hfound, resolveFound_of_active hactive.1]
    exact map_eq_ok_iff.mpr ⟨result, hresolve, rfl⟩
  obtain ⟨hid, hstatus, hsaved⟩ := resolveAlert_ok hresolve
  obtain ⟨row, hrow, hrowId, hrowStatus⟩ := hsaved.exists_row
  exact ⟨some result, db', hturn, alert.id, ⟨alert, halert, rfl, hactive⟩, row, hrow,
    hrowId.trans hid, (hrowStatus (by simp)).trans hstatus⟩

/-- A turn with a false condition that succeeds on an active alert resolves. -/
theorem turnResolves_of_ok {clock : ℕ → Instant} {result : Option AlertEvent}
    (h : ruleTurn py latest rule clock db = (.ok result, db')) (hrule : rule ∈ db.rules)
    (hfalse : (evaluateRuleCondition rule latest).1 = false)
    (hnonempty : (db.activeIds (conditionKey latest rule)).Nonempty) :
    TurnResolves py latest rule db := by
  refine ⟨hfalse, hnonempty, ?_⟩
  have h := Tx.atomic_eq_ok_iff.mp h
  rw [if_neg (by simp [hfalse])] at h
  obtain ⟨found, db₁, hread, h⟩ := Tx.bind_eq_ok_iff.mp h
  obtain ⟨hfound, rfl⟩ := Prod.mk.inj hread
  have hfound : activeAlertForRule latest rule db = found := Except.ok.inj hfound
  cases found with
  | none => exact absurd (activeAlertForRule_none hfound) hnonempty.ne_empty
  | some alert =>
      obtain ⟨halert, hactive⟩ := activeAlertForRule_some hfound
      rw [resolveFound_of_active hactive.1] at h
      obtain ⟨copy, hresolve, -⟩ := map_eq_ok_iff.mp h
      exact (resolveAlert_succeeds_iff _ _ _ _ halert hrule hactive.2.2.2.2.2).mp
        ⟨copy, db', hresolve⟩

/-! ### The turns of an evaluation -/

/-- The rules whose turn is reached: those in front of which no turn raises. -/
def rulesReached (py : PyText) (latest : LatestTelemetry) :
    List AlertRule → (ℕ → ℕ → Instant) → AlertsDb → List AlertRule
  | [], _, _ => []
  | rule :: rules, clock, db =>
      rule ::
        match ruleTurn py latest rule (clock 0) db with
        | (.ok _, db') => rulesReached py latest rules (fun i => clock (i + 1)) db'
        | (.error _, _) => []

theorem mem_of_mem_rulesReached {rules : List AlertRule} {clock : ℕ → ℕ → Instant}
    (h : rule ∈ rulesReached py latest rules clock db) : rule ∈ rules := by
  induction rules generalizing clock db with
  | nil => cases h
  | cons other rules ih =>
      rcases List.mem_cons.mp h with rfl | htail
      · exact List.mem_cons_self
      · split at htail
        · exact List.mem_cons_of_mem _ (ih htail)
        · cases htail

theorem frozen_ruleTurns {rules : List AlertRule} {clock : ℕ → ℕ → Instant} :
    Tx.Respects Frozen (ruleTurns py latest rules clock) :=
  respects_ruleTurns fun _ _ =>
    Tx.respects_atomic_of_ok fun _ _ _ hturn => (turnEffect_of_ok hturn).frozen

/-- The state after the turns of a nonempty list. -/
theorem ruleTurns_cons_snd {rules : List AlertRule} {clock : ℕ → ℕ → Instant} :
    (ruleTurns py latest (rule :: rules) clock db).2 =
      match ruleTurn py latest rule (clock 0) db with
      | (.ok _, db') => (ruleTurns py latest rules (fun i => clock (i + 1)) db').2
      | (.error _, db') => db' := by
  rw [ruleTurns, Tx.bind_apply]
  rcases ruleTurn py latest rule (clock 0) db with ⟨e | result, db'⟩
  · rfl
  · dsimp only
    rw [Tx.bind_apply]
    rcases ruleTurns py latest rules (fun i => clock (i + 1)) db' with ⟨e | alerts, db''⟩ <;> rfl

/-- Rules with one key on a row are one rule. -/
theorem id_eq_of_conditionKey_eq {other : AlertRule}
    (h : conditionKey latest rule = conditionKey latest other) : rule.id = other.id :=
  congrArg ConditionKey.alertRule h

/-- A turn that ends the activity of an alert which is found resolved in the end has
resolved it, and is a turn of the alert's rule. -/
theorem resolves_of_left {other : AlertRule} {clock : ℕ → Instant}
    {result : Option AlertEvent} {db'' : AlertsDb} {row : AlertEvent}
    (heffect : TurnEffect latest other clock db db')
    (hturn : ruleTurn py latest other clock db = (.ok result, db'))
    (hstored : other ∈ db.rules) (hsame : other.id = rule.id → other = rule)
    (hid : row.id ∈ db.activeIds (conditionKey latest rule))
    (hleft : row.id ∉ db'.activeIds (conditionKey latest rule))
    (hrow : row ∈ db''.alerts) (hresolved : row.status = .resolved)
    (hfrozen : db'.Frozen db'') :
    other = rule ∧ TurnResolves py latest rule db := by
  cases heffect with
  | kept _ h => exact absurd (h _ ▸ hid) hleft
  | opened _ alert _ _ h => exact absurd ((h _ _).mpr (Or.inr hid)) hleft
  | closed _ alert closedRow halert hactive hclosedRow hclosedId hstatus h =>
      -- it is the alert that the turn has closed
      have hclosed : row.id = alert.id := by
        by_contra hne
        exact hleft (h _ ▸ ⟨hid, hne⟩)
      obtain ⟨found, hfound, hfoundId, hfoundActive⟩ := hid
      obtain rfl : found = alert :=
        db.alerts.eq_of_pk_eq hfound halert (hfoundId.trans hclosed)
      obtain rfl := hsame (id_eq_of_conditionKey_eq
        (hfoundActive.2.unique hactive.2)).symm
      refine ⟨rfl, turnResolves_of_ok hturn hstored ?_ ⟨_, _, halert, rfl, hactive⟩⟩
      -- under suppression it would have stayed suppressed
      by_contra htrue
      rw [if_pos (by simpa using htrue)] at hstatus
      have hend : closedRow ∈ db''.alerts :=
        hfrozen closedRow hclosedRow (by rw [hstatus]; rfl)
      obtain rfl : closedRow = row :=
        db''.alerts.eq_of_pk_eq hend hrow (hclosedId.trans hclosed.symm)
      rw [hresolved] at hstatus
      cases hstatus

/-- **The turns of a list of rules** resolve an active alert of a rule exactly if they
reach the rule and its turn resolves.  The state at the end may lie behind further steps
that keep what is active active, and what is not as it is. -/
theorem moves_ruleTurns_iff {rules : List AlertRule} {clock : ℕ → ℕ → Instant}
    (hsame : ∀ other ∈ rules, other.id = rule.id → other = rule)
    (hstored : ∀ other ∈ rules, other ∈ db.rules)
    (hfrozen : (ruleTurns py latest rules clock db).2.Frozen db')
    (hkept : (ruleTurns py latest rules clock db).2.activeIds (conditionKey latest rule) ⊆
      db'.activeIds (conditionKey latest rule)) :
    MovesToResolved (conditionKey latest rule) db db' ↔
      rule ∈ rulesReached py latest rules clock db ∧ TurnResolves py latest rule db := by
  have hstay : ∀ {before : AlertsDb}, before.activeIds (conditionKey latest rule) ⊆
      db'.activeIds (conditionKey latest rule) →
      ¬MovesToResolved (conditionKey latest rule) before db' := by
    rintro before hsub ⟨id, hid, alert, halert, rfl, hresolved⟩
    exact not_resolved_of_mem_activeIds (hsub hid) halert hresolved
  induction rules generalizing db clock with
  | nil => exact iff_of_false (hstay hkept) (by simp [rulesReached])
  | cons other rules ih =>
      have hother := hstored other List.mem_cons_self
      rw [ruleTurns_cons_snd] at hfrozen hkept
      rcases hturn : ruleTurn py latest other (clock 0) db with ⟨e | result, db₁⟩
      · -- the turn raises: it has changed nothing, and it was the last one
        obtain ⟨-, rfl⟩ := Tx.atomic_eq_error_iff.mp hturn
        rw [hturn] at hkept
        simp only [rulesReached, hturn, List.mem_singleton]
        refine iff_of_false (hstay hkept) ?_
        rintro ⟨rfl, hresolves⟩
        obtain ⟨_, _, hok, -⟩ := hresolves.moves hother (clock 0)
        rw [hturn] at hok
        cases (Prod.mk.inj hok).1
      rw [hturn] at hfrozen hkept
      have heffect := turnEffect_of_ok hturn
      have hrules : db₁.rules = db.rules := (respects_ruleTurn.of_eq hturn).setup.rules
      have htail : MovesToResolved (conditionKey latest rule) db₁ db' ↔
          rule ∈ rulesReached py latest rules (fun i => clock (i + 1)) db₁ ∧
            TurnResolves py latest rule db₁ :=
        ih (fun r hr => hsame r (List.mem_cons_of_mem _ hr))
          (fun r hr => hrules ▸ hstored r (List.mem_cons_of_mem _ hr)) hfrozen hkept
      have hfrozen₁ : db₁.Frozen db' := trans_of Frozen (frozen_ruleTurns db₁) hfrozen
      simp only [rulesReached, hturn, List.mem_cons]
      constructor
      · rintro ⟨id, hid, row, hrow, rfl, hresolved⟩
        by_cases hactive : row.id ∈ db₁.activeIds (conditionKey latest rule)
        · obtain ⟨hreached, hfalse, -, hstorable⟩ :=
            htail.mp ⟨row.id, hactive, row, hrow, rfl, hresolved⟩
          exact ⟨Or.inr hreached, hfalse, ⟨row.id, hid⟩, hstorable⟩
        · obtain ⟨rfl, hresolves⟩ := resolves_of_left heffect hturn hother
            (hsame other List.mem_cons_self) hid hactive hrow hresolved hfrozen₁
          exact ⟨Or.inl rfl, hresolves⟩
      · rintro ⟨hreached, hresolves⟩
        by_cases hrule : other = rule
        · subst hrule
          obtain ⟨_, db₂, hok, hmoves⟩ := hresolves.moves hother (clock 0)
          rw [hturn] at hok
          obtain rfl := (Prod.mk.inj hok).2
          exact hmoves.of_frozen hfrozen₁
        · -- the turn of another rule leaves the alerts of this one alone
          have hkey : db₁.activeIds (conditionKey latest rule) =
              db.activeIds (conditionKey latest rule) :=
            heffect.activeIds_of_ne fun heq =>
              hrule (hsame other List.mem_cons_self (id_eq_of_conditionKey_eq heq).symm)
          obtain ⟨hfalse, hnonempty, hstorable⟩ := hresolves
          obtain ⟨id, hid, hmoved⟩ := htail.mpr
            ⟨hreached.resolve_left (Ne.symm hrule), hfalse, hkey ▸ hnonempty, hstorable⟩
          exact ⟨id, hkey ▸ hid, hmoved⟩

/-! ### The evaluation -/

/-- Behind the turns, an evaluation closes at most an alert without a rule. -/
theorem evaluateLatest_after_ruleTurns {cached : Option (List RuleId)}
    {clock : ℕ → ℕ → Instant} :
    (ruleTurns py latest (getMatchingRules db latest cached) clock db).2.Frozen
        (evaluateLatest py latest cached clock db).2 ∧
      ∀ key, (evaluateLatest py latest cached clock db).2.activeIds key =
        (ruleTurns py latest (getMatchingRules db latest cached) clock db).2.activeIds key := by
  rw [evaluateLatest, Tx.bind_apply, Tx.read_apply]
  dsimp only
  rw [Tx.bind_apply]
  rcases ruleTurns py latest (getMatchingRules db latest cached) clock db with ⟨e | alerts, db₁⟩
  · exact ⟨refl_of _ _, fun _ => rfl⟩
  dsimp only
  rw [Tx.bind_apply]
  rcases htrap : Tx.atomic (resolveUpsTrapAlertIfNeeded py latest
    (clock (getMatchingRules db latest cached).length)) db₁ with ⟨e | trapAlert, db₂⟩
  · obtain ⟨-, rfl⟩ := Tx.atomic_eq_error_iff.mp htrap
    exact ⟨refl_of _ _, fun _ => rfl⟩
  · exact resolveUpsTrapAlert_ok (Tx.atomic_eq_ok_iff.mp htrap)

/-- What an evaluation resolves of a matching rule. -/
theorem moves_evaluateLatest_iff {cached : Option (List RuleId)} {clock : ℕ → ℕ → Instant}
    (hrule : rule ∈ getMatchingRules db latest cached) :
    MovesToResolved (conditionKey latest rule) db (evaluateLatest py latest cached clock db).2 ↔
      rule ∈ rulesReached py latest (getMatchingRules db latest cached) clock db ∧
        TurnResolves py latest rule db := by
  obtain ⟨hfrozen, hkept⟩ := @evaluateLatest_after_ruleTurns db py latest cached clock
  refine moves_ruleTurns_iff (fun other hother hid => ?_)
    (fun other => mem_rules_of_mem_getMatchingRules) hfrozen (hkept _).ge
  exact db.rules.eq_of_pk_eq (mem_rules_of_mem_getMatchingRules hother)
    (mem_rules_of_mem_getMatchingRules hrule) hid

/-- **Resolution on evidence only.**  An evaluation resolves alerts on evidence only, if
and only if each rule that it reaches with an active alert has a usable value, a true
condition, or a resolution that PostgreSQL refuses. -/
theorem resolvesOnEvidence_iff (py : PyText) (latest : LatestTelemetry)
    (cached : Option (List RuleId)) (clock : ℕ → ℕ → Instant) (db : AlertsDb) :
    (∀ rule ∈ getMatchingRules db latest cached,
      MovesToResolved (conditionKey latest rule) db
        (evaluateLatest py latest cached clock db).2 → Evidence rule latest) ↔
      ∀ rule ∈ rulesReached py latest (getMatchingRules db latest cached) clock db,
        (db.activeIds (conditionKey latest rule)).Nonempty →
          Usable rule latest ∨ (evaluateRuleCondition rule latest).1 = true ∨
            ¬(resolutionSnapshot py latest rule).storable := by
  constructor
  · intro h rule hreached hnonempty
    have hrule := mem_of_mem_rulesReached hreached
    by_contra hnot
    push Not at hnot
    obtain ⟨hunusable, hfalse, hstorable⟩ := hnot
    have hresolves : TurnResolves py latest rule db :=
      ⟨by simpa using hfalse, hnonempty, hstorable⟩
    exact hunusable
      (h rule hrule ((moves_evaluateLatest_iff hrule).mpr ⟨hreached, hresolves⟩)).toUsable
  · intro h rule hrule hmoves
    obtain ⟨hreached, hfalse, hnonempty, hstorable⟩ := (moves_evaluateLatest_iff hrule).mp hmoves
    rcases h rule hreached hnonempty with husable | htrue | hrefused
    · exact husable.evidence hfalse
    · rw [hfalse] at htrue
      cases htrue
    · exact absurd hstorable hrefused

/-- The text that an agent sends for a sensor that is gone. -/
def failedRow : LatestTelemetry := sensorRow { valueText := some "No Such Instance" } .bad

/-- A sensor that is gone resolves the alert: `"No Such Instance" > 30.0` raises. -/
theorem failedRow_resolves :
    ¬∀ rule ∈ getMatchingRules hotServerRoom failedRow none,
      MovesToResolved (conditionKey failedRow rule) hotServerRoom
        (evaluateLatest plainText failedRow none (fun _ _ => 0) hotServerRoom).2 →
      Evidence rule failedRow := by
  intro h
  have hactive : ∃ alert ∈ hotServerRoom.alerts,
      alert.id = 0 ∧ alert.ActiveFor (conditionKey failedRow tooHot) := by decide
  have hresolved : ∃ alert ∈
      (evaluateLatest plainText failedRow none (fun _ _ => 0) hotServerRoom).2.alerts,
      alert.id = 0 ∧ alert.status = .resolved := by decide
  have hevidence := h tooHot (by decide) ⟨0, hactive, hresolved⟩
  exact absurd hevidence.comparable (by decide)

end AlertsDb

end DcimBackend
