import DcimBackend.Alerts.Effects
import DcimBackend.Library.Run

/-!
# The lifecycle of rule alerts

Operations on the alert tables, one after another, each on freshly loaded rows, and the
two halves of the lifecycle invariant:

* a key has at most one active alert, in every state that a run reaches;
* once `evaluateLatest` has returned, a rule without duration has an active alert
  exactly if its condition is true.

The alert table is seen through `activeIds`: a turn of a rule changes the set of its own
key only, and every other operation only takes alerts out of these sets.

An operation is a function of the state and of what its environment chooses: the row that is
evaluated, the readings of the clock, and the reply of the cache with the matching rules.  So the
theorems hold for every clock, and for every reply, also one that is out of date.

The first half of the invariant needs no hypothesis on the runs.  The second is about an
evaluation that has returned: one that raises has rolled back the turn that raised and has left
out those behind it, which is the subject of `Alerts.Isolation`.
-/

namespace DcimBackend

open Library

/-! ### Operations -/

/-- An operation, with everything the environment chooses.  A key of an alert stands
for the row that is loaded for it. -/
inductive AlertOperation
  | evaluateLatest (latest : LatestTelemetry) (cached : Option (List RuleId))
      (clock : ℕ → ℕ → Instant)
  | acknowledgeAlert (alert : AlertId) (user : Option UserId) (comment : Option String)
      (now : Instant)
  | manuallyResolveAlert (alert : AlertId) (user : Option UserId) (comment : Option String)
      (now : Instant)
  | suppressAlert (alert : AlertId) (user : Option UserId) (reason : Option String)
      (now : Instant)
  | createOrUpdateTrapAlert (trap : Trap) (createdAt : Instant)
  | openOrUpdateExactAlert (device : Device) (metric : MetricDefinition)
      (confirmationAt createdAt : Instant)
  | resolveExactAlert (device : Device) (metric : MetricDefinition) (confirmationAt : Instant)
  | saveRule (rule : AlertRule)
  | deleteRule (rule : RuleId)
  | saveWindow (window : AlertSuppressionWindow)

namespace AlertsDb

/-- An operation on the row of an alert, if there is one. -/
def onAlert (db : AlertsDb) (id : AlertId) (f : AlertEvent → Engine AlertEvent) : AlertsDb :=
  match db.alerts.find id with
  | some alert => (f alert db).2
  | none => db

/-- `AlertRule.save`: a row that `full_clean` refuses is not saved. -/
def saveRule (db : AlertsDb) (rule : AlertRule) : AlertsDb :=
  match rule.fullClean db with
  | .ok _ => db.putRule rule
  | .error _ => db

/-- `AlertSuppressionWindow.save`. -/
def saveWindow (db : AlertsDb) (window : AlertSuppressionWindow) : AlertsDb :=
  match window.fullClean db with
  | .ok _ => db.putWindow window
  | .error _ => db

/-- The state after an operation, whether it returned or raised. -/
def operate (py : PyText) (db : AlertsDb) : AlertOperation → AlertsDb
  | .evaluateLatest latest cached clock => (evaluateLatest py latest cached clock db).2
  | .acknowledgeAlert alert user comment now =>
      db.onAlert alert fun alert => acknowledgeAlert alert user comment now
  | .manuallyResolveAlert alert user comment now =>
      db.onAlert alert fun alert => manuallyResolveAlert py alert user comment now
  | .suppressAlert alert user reason now =>
      db.onAlert alert fun alert => suppressAlert alert user reason now
  | .createOrUpdateTrapAlert trap createdAt => (createOrUpdateTrapAlert trap createdAt db).2
  | .openOrUpdateExactAlert device metric confirmationAt createdAt =>
      (openOrUpdateExactAlert device metric confirmationAt createdAt db).2
  | .resolveExactAlert device metric confirmationAt =>
      (resolveExactAlert device metric confirmationAt db).2
  | .saveRule rule => db.saveRule rule
  | .deleteRule rule => db.removeRule rule
  | .saveWindow window => db.saveWindow window

/-- A key has at most one active alert. -/
def AtMostOneActive (db : AlertsDb) : Prop := ∀ key, (db.activeIds key).Subsingleton

variable {db db' : AlertsDb}

theorem OpensOnly.atMostOneActive (h : OpensOnly ∅ db db') (hone : db.AtMostOneActive) :
    db'.AtMostOneActive :=
  fun key => (hone key).anti (h.activeIds_subset (Set.notMem_empty key))

/-! ### The turn of a rule -/

section Turn

variable {py : PyText} {latest : LatestTelemetry} {rule : AlertRule} {clock : ℕ → Instant}

theorem latestAlert_eq_none_iff {alerts : List AlertEvent} :
    latestAlert alerts = none ↔ alerts = [] := List.argmax_eq_none

/-- The alert that a turn finds is an active one of its key. -/
theorem activeAlertForRule_some {alert : AlertEvent}
    (h : activeAlertForRule latest rule db = some alert) :
    alert ∈ db.alerts ∧ alert.ActiveFor (conditionKey latest rule) := by
  have hmem := Table.mem_select.mp (List.argmax_mem h)
  simpa [AlertEvent.ActiveFor] using hmem

/-- A turn that finds none finds that there is none. -/
theorem activeAlertForRule_none (h : activeAlertForRule latest rule db = none) :
    db.activeIds (conditionKey latest rule) = ∅ := by
  rw [activeAlertForRule, latestAlert_eq_none_iff, List.eq_nil_iff_forall_not_mem] at h
  rw [Set.eq_empty_iff_forall_notMem]
  rintro id ⟨alert, halert, -, hactive⟩
  exact h alert (Table.mem_select.mpr ⟨halert, by simpa [AlertEvent.ActiveFor] using hactive⟩)

/-- An active alert that the turn of a false condition finds is resolved. -/
theorem resolveFound_of_active {alert : AlertEvent} (hactive : alert.status.isActive) :
    resolveFound py latest rule (some alert) clock =
      some <$> resolveAlert py alert (some latest) "AUTO" none none (clock 0) := by
  have hstatus : alert.status ≠ .suppressed := by
    intro hsuppressed
    rw [hsuppressed] at hactive
    cases hactive
  simp only [resolveFound, if_neg hstatus, if_pos hactive]

/-- An active alert of one key is in no set of another. -/
theorem notMem_activeIds_of_ne {alert : AlertEvent} {key key' : ConditionKey}
    (halert : alert ∈ db.alerts) (hactive : alert.ActiveFor key) (hne : key' ≠ key) :
    alert.id ∉ db.activeIds key' := by
  rintro ⟨other, hother, hid, hactive'⟩
  obtain rfl : other = alert := db.alerts.eq_of_pk_eq hother halert hid
  exact hne (hactive'.2.unique hactive.2)

/-- Closing an active alert changes the set of its own key only. -/
theorem activeIds_diff_of_ne {alert : AlertEvent} {key key' : ConditionKey}
    (halert : alert ∈ db.alerts) (hactive : alert.ActiveFor key) (hne : key' ≠ key) :
    db.activeIds key' \ {alert.id} = db.activeIds key' :=
  Set.sdiff_singleton_eq_self (notMem_activeIds_of_ne halert hactive hne)

/-- What the turn of a rule has done when it succeeds: nothing to other keys, and
nothing to alerts that are not active; for its own key, it has closed the alert that it
found, kept it, or opened one where there was none. -/
inductive TurnEffect (latest : LatestTelemetry) (rule : AlertRule) (clock : ℕ → Instant)
    (db db' : AlertsDb) : Prop
  | kept (hfrozen : db.Frozen db') (h : ∀ key, db'.activeIds key = db.activeIds key)
      (hwhy : (evaluateRuleCondition rule latest).1 = true →
        (db.activeIds (conditionKey latest rule)).Nonempty ∨
          hasSuppression latest (clock 1) db ∨ rule.durationSeconds ≠ 0)
      (hnone : (evaluateRuleCondition rule latest).1 = false →
        db.activeIds (conditionKey latest rule) = ∅)
  | closed (hfrozen : db.Frozen db') (alert row : AlertEvent) (halert : alert ∈ db.alerts)
      (hactive : alert.ActiveFor (conditionKey latest rule))
      (hrow : row ∈ db'.alerts) (hid : row.id = alert.id)
      (hstatus : row.status =
        if (evaluateRuleCondition rule latest).1 then .suppressed else .resolved)
      (h : ∀ key, db'.activeIds key = db.activeIds key \ {alert.id})
      (hwhy : (evaluateRuleCondition rule latest).1 = true →
        hasSuppression latest (clock 1) db)
  | opened (hfrozen : db.Frozen db') (alert : AlertEvent)
      (hactive : alert.ActiveFor (conditionKey latest rule))
      (hnone : db.activeIds (conditionKey latest rule) = ∅)
      (h : ∀ key id, id ∈ db'.activeIds key ↔
        (id = alert.id ∧ alert.ActiveFor key) ∨ id ∈ db.activeIds key)
      (htrue : (evaluateRuleCondition rule latest).1 = true)

theorem turnEffect_of_true {value threshold : PyValue} {result : Option AlertEvent}
    (htrue : (evaluateRuleCondition rule latest).1 = true)
    (h : ensureAlert py latest rule value threshold (activeAlertForRule latest rule db) clock db =
      (.ok result, db')) : TurnEffect latest rule clock db db' := by
  obtain ⟨suppressed, db₁, hread, h⟩ := Tx.bind_eq_ok_iff.mp h
  obtain ⟨hsuppressed, rfl⟩ := Prod.mk.inj hread
  obtain rfl := Except.ok.inj hsuppressed
  have hfalse : ∀ {P : Prop}, (evaluateRuleCondition rule latest).1 = false → P := by
    intro P hfalse
    rw [htrue] at hfalse
    cases hfalse
  cases hfound : activeAlertForRule latest rule db with
  | some alert =>
      obtain ⟨halert, hactive⟩ := activeAlertForRule_some hfound
      have hnonempty : (db.activeIds (conditionKey latest rule)).Nonempty :=
        ⟨alert.id, alert, halert, rfl, hactive⟩
      simp only [hfound] at h
      split at h
      · rename_i hcovered
        -- a suppressed condition closes its alert, if it is not suppressed yet
        split at h
        · obtain ⟨copy, hsuppress, -⟩ := map_eq_ok_iff.mp h
          obtain ⟨hid, hstatus, hsaved⟩ := suppressAlert_ok hsuppress
          obtain ⟨row, hrow, hrowId, hrowStatus⟩ := hsaved.exists_row
          refine .closed (hsaved.frozen halert hid hactive.1) alert row halert hactive hrow
            (hrowId.trans hid) ?_ (fun key => ?_) fun _ => hcovered
          · rw [if_pos htrue, hrowStatus (by simp), hstatus]
          · rw [hsaved.activeIds_closed (by simp) (by rw [hstatus]; rfl), hid]
        · obtain rfl := (Prod.mk.inj h).2
          exact .kept (refl_of _ _) (fun _ => rfl) (fun _ => Or.inl hnonempty) hfalse
      · -- otherwise the alert is updated, and stays active
        split at h
        · obtain ⟨copy, hupdate, -⟩ := map_eq_ok_iff.mp h
          obtain ⟨hid, -, hsaved⟩ := updateActiveAlert_ok hupdate
          exact .kept (hsaved.frozen halert hid hactive.1)
            (fun key => hsaved.activeIds_kept (by simp)) (fun _ => Or.inl hnonempty) hfalse
        · obtain rfl := (Prod.mk.inj h).2
          exact .kept (refl_of _ _) (fun _ => rfl) (fun _ => Or.inl hnonempty) hfalse
  | none =>
      have hempty := activeAlertForRule_none hfound
      simp only [hfound] at h
      split at h
      · rename_i hcovered
        -- the alert is created suppressed, so no key has a new active one
        obtain ⟨alert, hcreate, -⟩ := map_eq_ok_iff.mp h
        obtain ⟨hstatus, hcreated⟩ := createSuppressedAlert_ok hcreate
        refine .kept hcreated.frozen (fun key => Set.ext fun id => ?_)
          (fun _ => Or.inr (Or.inl hcovered)) hfalse
        rw [hcreated.mem_activeIds_iff, or_iff_right]
        rintro ⟨-, hactive, -⟩
        rw [hstatus] at hactive
        cases hactive
      · -- an alert is opened once the condition has lasted long enough
        obtain ⟨lasted, db₂, hduration, h⟩ := Tx.bind_eq_ok_iff.mp h
        obtain ⟨halerts, hzero⟩ := maybeCreateDurationAlert_ok hduration
        split at h
        · obtain ⟨alert, hopen, -⟩ := map_eq_ok_iff.mp h
          obtain ⟨hactive, hcreated⟩ := openAlert_ok hopen
          refine .opened (trans_of Frozen (frozen_of_alerts_eq halerts) hcreated.frozen) alert
            hactive hempty (fun key id => ?_) htrue
          rw [hcreated.mem_activeIds_iff, activeIds_eq_of_alerts_eq halerts]
        · rename_i hlasted
          obtain rfl := (Prod.mk.inj h).2
          exact .kept (frozen_of_alerts_eq halerts)
            (fun key => activeIds_eq_of_alerts_eq halerts)
            (fun _ => Or.inr (Or.inr fun hduration => hlasted (hzero hduration))) hfalse

theorem turnEffect_of_false {result : Option AlertEvent}
    (hfalse : (evaluateRuleCondition rule latest).1 = false)
    (h : resolveFound py latest rule (activeAlertForRule latest rule db) clock db =
      (.ok result, db')) : TurnEffect latest rule clock db db' := by
  have htrue : ∀ {P : Prop}, (evaluateRuleCondition rule latest).1 = true → P := by
    intro P htrue
    rw [hfalse] at htrue
    cases htrue
  cases hfound : activeAlertForRule latest rule db with
  | none =>
      rw [hfound] at h
      obtain rfl := (Prod.mk.inj h).2
      exact .kept (frozen_of_alerts_eq rfl) (fun _ => rfl) htrue
        fun _ => activeAlertForRule_none hfound
  | some alert =>
      obtain ⟨halert, hactive⟩ := activeAlertForRule_some hfound
      rw [hfound, resolveFound_of_active hactive.1] at h
      obtain ⟨copy, hresolve, -⟩ := map_eq_ok_iff.mp h
      obtain ⟨hid, hresolved, hsaved⟩ := resolveAlert_ok hresolve
      obtain ⟨row, hrow, hrowId, hrowStatus⟩ := hsaved.exists_row
      refine .closed (hsaved.frozen halert hid hactive.1) alert row halert hactive hrow
        (hrowId.trans hid) ?_ (fun key => ?_) htrue
      · rw [hfalse, hrowStatus (by simp), hresolved]
        rfl
      · rw [hsaved.activeIds_closed (by simp) (by rw [hresolved]; rfl), hid]

/-- The effect of a turn that succeeds. -/
theorem turnEffect_of_ok {result : Option AlertEvent}
    (h : ruleTurn py latest rule clock db = (.ok result, db')) :
    TurnEffect latest rule clock db db' := by
  have h := Tx.atomic_eq_ok_iff.mp h
  split at h
  · rename_i htrue
    exact turnEffect_of_true htrue h
  · rename_i hfalse
    exact turnEffect_of_false (by simpa using hfalse) h

theorem TurnEffect.frozen (h : TurnEffect latest rule clock db db') : db.Frozen db' := by
  cases h with
  | kept hfrozen => exact hfrozen
  | closed hfrozen => exact hfrozen
  | opened hfrozen => exact hfrozen

/-- A turn leaves other keys alone. -/
theorem TurnEffect.activeIds_of_ne (h : TurnEffect latest rule clock db db')
    {key : ConditionKey} (hne : key ≠ conditionKey latest rule) :
    db'.activeIds key = db.activeIds key := by
  cases h with
  | kept hfrozen h => exact h key
  | closed hfrozen alert row halert hactive hrow hid hstatus h =>
      rw [h, activeIds_diff_of_ne halert hactive hne]
  | opened hfrozen alert hactive hnone h =>
      ext id
      rw [h, or_iff_right]
      rintro ⟨-, hactive'⟩
      exact hne (hactive'.2.unique hactive.2)

/-- A turn opens an alert only where there is none. -/
theorem TurnEffect.atMostOneActive (h : TurnEffect latest rule clock db db')
    (hone : db.AtMostOneActive) : db'.AtMostOneActive := by
  intro key
  by_cases hne : key = conditionKey latest rule
  swap
  · rw [h.activeIds_of_ne hne]
    exact hone key
  subst hne
  cases h with
  | kept hfrozen h =>
      rw [h]
      exact hone _
  | closed hfrozen alert row halert hactive hrow hid hstatus h =>
      rw [h]
      exact (hone _).anti Set.sdiff_subset
  | opened hfrozen alert hactive hnone h =>
      intro a ha b hb
      rw [h, hnone] at ha hb
      rcases ha with ⟨rfl, -⟩ | ha
      · rcases hb with ⟨rfl, -⟩ | hb
        · rfl
        · exact hb.elim
      · exact ha.elim

end Turn

/-! ### Evaluations -/

/-- What the alert table should say about a rule without duration. -/
def Settled (latest : LatestTelemetry) (rule : AlertRule) (db : AlertsDb) : Prop :=
  if (evaluateRuleCondition rule latest).1 then
    (db.activeIds (conditionKey latest rule)).Nonempty
  else db.activeIds (conditionKey latest rule) = ∅

/-- A sequence of steps that keeps the first half of the invariant. -/
def KeepsAtMostOne (db db' : AlertsDb) : Prop := db.AtMostOneActive → db'.AtMostOneActive

instance : IsPreorder AlertsDb KeepsAtMostOne where
  refl _ := id
  trans _ _ _ h h' := h' ∘ h

section Evaluation

variable {py : PyText} {latest : LatestTelemetry} {rule : AlertRule}

/-- After the turn of a rule whose condition is false, it has no active alert. -/
theorem TurnEffect.activeIds_of_false {clock : ℕ → Instant}
    (h : TurnEffect latest rule clock db db') (hone : db.AtMostOneActive)
    (hfalse : (evaluateRuleCondition rule latest).1 = false) :
    db'.activeIds (conditionKey latest rule) = ∅ := by
  cases h with
  | kept hfrozen h hwhy hnone =>
      rw [h]
      exact hnone hfalse
  | closed hfrozen alert row halert hactive hrow hid hstatus h =>
      rw [h, Set.sdiff_eq_empty]
      intro id hid
      exact hone _ hid ⟨alert, halert, rfl, hactive⟩
  | opened hfrozen alert hactive hnone h htrue =>
      rw [hfalse] at htrue
      cases htrue

/-- A turn settles its rule, unless a window suppresses it or a duration delays it. -/
theorem TurnEffect.settled {clock : ℕ → Instant} (h : TurnEffect latest rule clock db db')
    (hone : db.AtMostOneActive) (hclear : hasSuppression latest (clock 1) db = false)
    (hduration : rule.durationSeconds = 0) : Settled latest rule db' := by
  have hsuppressed : ¬hasSuppression latest (clock 1) db := by simp [hclear]
  unfold Settled
  split
  · rename_i htrue
    cases h with
    | kept hfrozen h hwhy =>
        rw [h]
        rcases hwhy htrue with hnonempty | hcovered | hne
        · exact hnonempty
        · exact absurd hcovered hsuppressed
        · exact absurd hduration hne
    | closed hfrozen alert row halert hactive hrow hid hstatus h hwhy =>
        exact absurd (hwhy htrue) hsuppressed
    | opened hfrozen alert hactive hnone h =>
        exact ⟨alert.id, (h _ _).mpr (Or.inl ⟨rfl, hactive⟩)⟩
  · rename_i hfalse
    exact h.activeIds_of_false hone (by simpa using hfalse)

/-- A rule's turn changes the alerts of no other rule. -/
theorem TurnEffect.activeIds_of_rule_ne {other : AlertRule} {clock : ℕ → Instant}
    {key : ConditionKey} (h : TurnEffect latest other clock db db')
    (hne : key.alertRule ≠ other.id) : db'.activeIds key = db.activeIds key :=
  h.activeIds_of_ne fun heq => hne (congrArg ConditionKey.alertRule heq)

/-- What every turn of a rule establishes about the alerts of its key, from a state with
the windows of the first one, holds after the turns of a list that contains the rule. -/
theorem established_ruleTurns {P : Set AlertId → Prop} {rules : List AlertRule}
    {clock : ℕ → ℕ → Instant} {alerts : List AlertEvent} (hone : db.AtMostOneActive)
    (hsame : ∀ other ∈ rules, other.id = rule.id → other = rule)
    (hturn : ∀ i before after, rules[i]? = some rule → before.windows = db.windows →
      before.AtMostOneActive → TurnEffect latest rule (clock i) before after →
      P (after.activeIds (conditionKey latest rule)))
    (hrule : rule ∈ rules ∨ P (db.activeIds (conditionKey latest rule)))
    (h : ruleTurns py latest rules clock db = (.ok alerts, db')) :
    P (db'.activeIds (conditionKey latest rule)) := by
  induction rules generalizing db clock alerts with
  | nil =>
      obtain rfl := (Prod.mk.inj h).2
      simpa using hrule
  | cons other rules ih =>
      obtain ⟨result, db₁, hfirst, h⟩ := Tx.bind_eq_ok_iff.mp h
      obtain ⟨rest, db₂, hturns, h⟩ := Tx.bind_eq_ok_iff.mp h
      obtain rfl := (Prod.mk.inj h).2
      have heffect := turnEffect_of_ok hfirst
      have hwindows : db₁.windows = db.windows := (respects_ruleTurn.of_eq hfirst).setup.windows
      refine ih (heffect.atMostOneActive hone)
        (fun other hother => hsame other (List.mem_cons_of_mem _ hother))
        (fun i before after hi hbefore => hturn (i + 1) before after hi (hbefore.trans hwindows))
        ?_ hturns
      by_cases hid : other.id = rule.id
      · obtain rfl := hsame other List.mem_cons_self hid
        exact Or.inr (hturn 0 db db₁ rfl rfl hone heffect)
      · rcases hrule with hmem | hestablished
        · refine Or.inl ((List.mem_cons.mp hmem).resolve_left ?_)
          rintro rfl
          exact hid rfl
        · rw [heffect.activeIds_of_rule_ne (Ne.symm hid)]
          exact Or.inr hestablished

/-- After the turns of a list of rules, a rule of the list is settled. -/
theorem settled_ruleTurns {rules : List AlertRule} {clock : ℕ → ℕ → Instant}
    {alerts : List AlertEvent} (hone : db.AtMostOneActive)
    (hsame : ∀ other ∈ rules, other.id = rule.id → other = rule)
    (hclear : ∀ i, rules[i]? = some rule → hasSuppression latest (clock i 1) db = false)
    (hduration : rule.durationSeconds = 0) (hrule : rule ∈ rules)
    (h : ruleTurns py latest rules clock db = (.ok alerts, db')) :
    Settled latest rule db' := by
  refine established_ruleTurns
    (P := fun ids => if (evaluateRuleCondition rule latest).1 then ids.Nonempty else ids = ∅)
    hone hsame (fun i before after hi hwindows hone heffect => ?_) (Or.inl hrule) h
  refine heffect.settled hone ?_ hduration
  rw [← hclear i hi]
  unfold hasSuppression
  rw [hwindows]

/-- What the trap step has done when it returns: nothing, or a resolution of a trap's alert. -/
theorem resolveUpsTrapAlert_cases {clock : ℕ → Instant} {result : Option AlertEvent}
    (h : resolveUpsTrapAlertIfNeeded py latest clock db = (.ok result, db')) :
    db' = db ∨ ∃ alert copy, alert ∈ db.alerts ∧ isUpsTrapAlert py latest alert ∧
      resolveAlert py alert (some latest) "AUTO" none none (clock 0) db = (.ok copy, db') := by
  unfold resolveUpsTrapAlertIfNeeded at h
  rcases hcleared : isUpsAbnormalConditionCleared py latest with e | _ | _
  · rw [hcleared] at h
    cases (Prod.mk.inj h).1
  · rw [hcleared] at h
    exact Or.inl (Prod.mk.inj h).2.symm
  · rw [hcleared] at h
    obtain ⟨found, db₁, hread, h⟩ := Tx.bind_eq_ok_iff.mp h
    obtain ⟨hfound, rfl⟩ := Prod.mk.inj hread
    cases found with
    | none => exact Or.inl (Prod.mk.inj h).2.symm
    | some alert =>
        obtain ⟨copy, hresolve, -⟩ := map_eq_ok_iff.mp h
        obtain ⟨halert, htrap⟩ :=
          Table.mem_select.mp (List.argmax_mem (Except.ok.inj hfound))
        exact Or.inr ⟨alert, copy, halert, htrap, hresolve⟩

/-- The trap step closes an alert without a rule, which no key has. -/
theorem resolveUpsTrapAlert_ok {clock : ℕ → Instant} {result : Option AlertEvent}
    (h : resolveUpsTrapAlertIfNeeded py latest clock db = (.ok result, db')) :
    db.Frozen db' ∧ ∀ key, db'.activeIds key = db.activeIds key := by
  rcases resolveUpsTrapAlert_cases h with rfl | ⟨alert, copy, halert, htrap, hresolve⟩
  · exact ⟨refl_of _ _, fun _ => rfl⟩
  obtain ⟨hid, hresolved, hsaved⟩ := resolveAlert_ok hresolve
  simp only [isUpsTrapAlert, Bool.and_eq_true, decide_eq_true_eq] at htrap
  refine ⟨hsaved.frozen halert hid htrap.1.2, fun key => ?_⟩
  rw [hsaved.activeIds_closed (by simp) (by rw [hresolved]; rfl), hid]
  -- the alert has no rule
  refine Set.sdiff_singleton_eq_self ?_
  rintro ⟨other, hother, hsame, -, -, -, -, -, hkey⟩
  obtain rfl : other = alert := db.alerts.eq_of_pk_eq hother halert hsame
  rw [htrap.1.1.2] at hkey
  cases hkey

/-- **After an evaluation** that returns, every matching rule without duration is
settled, unless a window covers the row. -/
theorem settled_evaluateLatest {cached : Option (List RuleId)} {clock : ℕ → ℕ → Instant}
    {alerts : List AlertEvent} (hone : db.AtMostOneActive)
    (hrule : rule ∈ getMatchingRules db latest cached)
    (hclear : ∀ i, (getMatchingRules db latest cached)[i]? = some rule →
      hasSuppression latest (clock i 1) db = false)
    (hduration : rule.durationSeconds = 0)
    (h : evaluateLatest py latest cached clock db = (.ok alerts, db')) :
    Settled latest rule db' := by
  obtain ⟨turnAlerts, trapAlert, db₁, hturns, htrap, -⟩ := evaluateLatest_ok h
  have hsettled : Settled latest rule db₁ := by
    refine settled_ruleTurns hone (fun other hother hid => ?_) hclear hduration hrule hturns
    exact db.rules.eq_of_pk_eq (mem_rules_of_mem_getMatchingRules hother)
      (mem_rules_of_mem_getMatchingRules hrule) hid
  -- the trap step behind the turns changes no key
  have hsame : db'.activeIds (conditionKey latest rule) =
      db₁.activeIds (conditionKey latest rule) := (resolveUpsTrapAlert_ok htrap).2 _
  simpa only [Settled, hsame] using hsettled

/-! ### Runs -/

theorem keepsAtMostOne_ruleTurn {clock : ℕ → Instant} :
    Tx.Respects KeepsAtMostOne (ruleTurn py latest rule clock) :=
  Tx.respects_atomic_of_ok fun _ _ _ hturn hone => (turnEffect_of_ok hturn).atMostOneActive hone

/-- What opens nothing keeps the first half of the invariant. -/
theorem keepsAtMostOne_of_respects {α : Type} {x : Engine α}
    (h : Tx.Respects (OpensOnly ∅) x) : Tx.Respects KeepsAtMostOne x :=
  fun db => (h db).atMostOneActive

theorem keepsAtMostOne_evaluateLatest {cached : Option (List RuleId)}
    {clock : ℕ → ℕ → Instant} :
    Tx.Respects KeepsAtMostOne (evaluateLatest py latest cached clock) :=
  respects_evaluateLatest (fun _ _ => keepsAtMostOne_ruleTurn) fun _ =>
    Tx.respects_atomic (keepsAtMostOne_of_respects respects_resolveUpsTrapAlertIfNeeded)

end Evaluation

/-- An operation on a freshly loaded row. -/
theorem keepsAtMostOne_onAlert {id : AlertId} {f : AlertEvent → Engine AlertEvent}
    (h : ∀ alert ∈ db.alerts, OpensOnly ∅ db (f alert db).2) :
    KeepsAtMostOne db (db.onAlert id f) := by
  unfold onAlert
  split
  · rename_i alert hfind
    exact (h alert (Table.find_eq_some_iff.mp hfind).1).atMostOneActive
  · exact fun hone => hone

theorem activeIds_removeRule_subset {rule : RuleId} {key : ConditionKey} :
    (db.removeRule rule).activeIds key ⊆ db.activeIds key := by
  rintro id ⟨alert, halert, rfl, hactive, hkey⟩
  rw [removeRule, Table.mem_modify] at halert
  obtain ⟨old, hold, rfl⟩ := halert
  refine ⟨old, hold, AlertEvent.id_unlinkRule.symm, ?_, (AlertEvent.hasKey_unlinkRule.mp hkey).1⟩
  rwa [AlertEvent.status_unlinkRule] at hactive

/-- **The step lemma**: every operation keeps the first half of the invariant. -/
theorem keepsAtMostOne_operate (py : PyText) (db : AlertsDb) (op : AlertOperation) :
    KeepsAtMostOne db (db.operate py op) := by
  cases op with
  | evaluateLatest latest cached clock => exact keepsAtMostOne_evaluateLatest db
  | acknowledgeAlert alert user comment now =>
      exact keepsAtMostOne_onAlert fun alert halert => opensOnly_acknowledgeAlert halert
  | manuallyResolveAlert alert user comment now =>
      exact keepsAtMostOne_onAlert fun alert _ => respects_manuallyResolveAlert db
  | suppressAlert alert user reason now =>
      exact keepsAtMostOne_onAlert fun alert _ => respects_suppressAlert db
  | createOrUpdateTrapAlert trap createdAt =>
      exact keepsAtMostOne_of_respects respects_createOrUpdateTrapAlert db
  | openOrUpdateExactAlert device metric confirmationAt createdAt =>
      exact keepsAtMostOne_of_respects respects_openOrUpdateExactAlert db
  | resolveExactAlert device metric confirmationAt =>
      exact keepsAtMostOne_of_respects respects_resolveExactAlert db
  | saveRule rule =>
      simp only [operate, saveRule]
      split <;> exact fun hone => hone
  | deleteRule rule => exact fun hone key => (hone key).anti activeIds_removeRule_subset
  | saveWindow window =>
      simp only [operate, saveWindow]
      split <;> exact fun hone => hone

theorem atMostOneActive_run {py : PyText} (hempty : db.alerts.rows = [])
    (w : List AlertOperation) : (run (operate py) db w).AtMostOneActive := by
  refine run_invariant (fun db op => keepsAtMostOne_operate py db op) ?_ w
  rintro key id ⟨alert, halert, -⟩
  rw [Table.mem_def, hempty] at halert
  cases halert

/-- The invariant on sets of keys, on the alerts themselves. -/
theorem AtMostOneActive.eq (h : db.AtMostOneActive) {key : ConditionKey}
    {a b : AlertEvent} (ha : a ∈ db.alerts) (hb : b ∈ db.alerts) (hactive : a.ActiveFor key)
    (hactive' : b.ActiveFor key) : a = b :=
  db.alerts.eq_of_pk_eq ha hb (h key ⟨a, ha, rfl, hactive⟩ ⟨b, hb, rfl, hactive'⟩)

/-- **The lifecycle of rule alerts.**  From no alerts, in every state that a sequence
of operations reaches: a key has at most one active alert; and an evaluation that
returns leaves each matching rule without duration, whose row no window covers at the
rule's turn, with exactly one active alert if its condition is true, and with none if it
is false. -/
theorem lifecycle_run {py : PyText} (hempty : db.alerts.rows = []) (w : List AlertOperation) :
    (∀ key, ∀ a ∈ (run (operate py) db w).alerts, ∀ b ∈ (run (operate py) db w).alerts,
      a.ActiveFor key → b.ActiveFor key → a = b) ∧
    ∀ latest cached clock alerts db',
      evaluateLatest py latest cached clock (run (operate py) db w) = (.ok alerts, db') →
      ∀ rule ∈ getMatchingRules (run (operate py) db w) latest cached,
        rule.durationSeconds = 0 →
        (∀ i, (getMatchingRules (run (operate py) db w) latest cached)[i]? = some rule →
          ∀ window ∈ (run (operate py) db w).windows, window.covers latest (clock i 1) = false) →
        if (evaluateRuleCondition rule latest).1 then
          ∃! alert, alert ∈ db'.alerts ∧ alert.ActiveFor (conditionKey latest rule)
        else ∀ alert ∈ db'.alerts, ¬alert.ActiveFor (conditionKey latest rule) := by
  have hone : (run (operate py) db w).AtMostOneActive := atMostOneActive_run hempty w
  refine ⟨fun key a ha b hb => hone.eq ha hb, ?_⟩
  intro latest cached clock alerts db' h rule hrule hduration hcovers
  have hclear : ∀ i, (getMatchingRules (run (operate py) db w) latest cached)[i]? = some rule →
      hasSuppression latest (clock i 1) (run (operate py) db w) = false :=
    fun i hi => List.any_eq_false.mpr fun window hwindow => by simp [hcovers i hi window hwindow]
  have hsettled := settled_evaluateLatest hone hrule hclear hduration h
  have hone' : db'.AtMostOneActive := keepsAtMostOne_evaluateLatest.of_eq h hone
  unfold Settled at hsettled
  split
  · rename_i htrue
    rw [if_pos htrue] at hsettled
    obtain ⟨id, alert, halert, -, hactive⟩ := hsettled
    exact ⟨alert, ⟨halert, hactive⟩, fun other hother => hone'.eq hother.1 halert hother.2 hactive⟩
  · rename_i hfalse
    rw [if_neg hfalse] at hsettled
    intro alert halert hactive
    exact Set.notMem_empty alert.id (hsettled ▸ ⟨alert, halert, rfl, hactive⟩)

/-! ### A server room -/

/-- Python's texts, for ASCII, for numbers that are integral, and at the epoch. -/
def plainText : PyText where
  str
    | .none => "None"
    | .bool value => if value then "True" else "False"
    | .int value => toString value
    | .float (.finite value) => toString value.num ++ ".0"
    | .float .nan => "nan"
    | .float .posInf => "inf"
    | .float .negInf => "-inf"
    | .text value => value
  lower := String.toLower
  int text := text.toInt?
  isoformat _ := "1970-01-01T00:00:00+00:00"
  upper := String.toUpper

/-- A sensor for the temperature of a room. -/
def roomSensor : Device :=
  { id := 1, organization := 1, dataCenter := 1, deviceType := 1, name := "TH 01" }

/-- The temperature in degrees. -/
def temperature : MetricDefinition := { id := 1, code := "temperature" }

/-- An alert above 30 degrees. -/
def tooHot : AlertRule :=
  { id := 1, organization := 1, metric := 1, name := "Too hot", operator := .gt
    thresholdFloat := some (.finite 30) }

/-- A data center with one sensor, one rule and no alerts. -/
def serverRoom : AlertsDb :=
  .quiet
    (.flat (.ofRows [⟨1⟩]) (.ofRows [⟨1, 1⟩]) (.ofRows [roomSensor]) (.refl true))
    (.ofRows [⟨1, "TH", "Temperature and humidity"⟩]) (.ofRows [temperature]) (.ofRows [tooHot])
    .empty

/-- The row of the sensor after a reading. -/
def sensorRow (reading : Reading) (quality : TelemetryQuality) : LatestTelemetry :=
  { toReading := reading, organization := 1, dataCenter := 1, device := roomSensor
    metric := temperature, quality := quality }

/-- A reading of 35 degrees. -/
def hotRow : LatestTelemetry := sensorRow { valueFloat := some (.finite 35) } .good

/-- Two hot readings in a row leave one active alert. -/
theorem lifecycle_run_serverRoom :
    ∃ alerts db',
      evaluateLatest plainText hotRow none (fun _ _ => 0)
        (run (operate plainText) serverRoom [.evaluateLatest hotRow none fun _ _ => 0]) =
          (.ok alerts, db') ∧
      ∃! alert, alert ∈ db'.alerts ∧ alert.ActiveFor (conditionKey hotRow tooHot) := by
  rcases h : evaluateLatest plainText hotRow none (fun _ _ => 0)
    (run (operate plainText) serverRoom [.evaluateLatest hotRow none fun _ _ => 0]) with
    ⟨e | alerts, db'⟩
  · have hok : (evaluateLatest plainText hotRow none (fun _ _ => 0)
        (run (operate plainText) serverRoom
          [.evaluateLatest hotRow none fun _ _ => 0])).1.isOk = true := by decide
    rw [h] at hok
    cases hok
  · refine ⟨alerts, db', rfl, ?_⟩
    have hsettled := (@lifecycle_run serverRoom plainText rfl
      [.evaluateLatest hotRow none fun _ _ => 0]).2 hotRow none (fun _ _ => 0) alerts db' h
      tooHot (by decide) rfl fun _ _ => by decide
    rwa [if_pos (by decide)] at hsettled

/-- The server room with an alert. -/
def hotServerRoom : AlertsDb :=
  (evaluateLatest plainText hotRow none (fun _ _ => 0) serverRoom).2

end AlertsDb

end DcimBackend
