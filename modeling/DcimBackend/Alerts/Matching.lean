import DcimBackend.Alerts.Models
import Mathlib.Data.List.Sort
import Mathlib.Data.Prod.Lex

/-!
# Rule conditions and matching rules

`apps/alerts/services/engine.py`, the part that reads only: the value of a row, the
threshold of a rule, the comparison of the two, and the rules that match a row.

`compare` is `none` where Python raises `TypeError`.  `evaluateRuleCondition` is what
the engine makes of it: both a rule without a threshold and a comparison that raises
count as a condition that is false.

The matching rules are sorted by specificity; their keys go through the cache, whose
reply is a parameter here, so that everything proved holds for a fresh cache, for an
expired entry, and for one that is out of date.
-/

namespace DcimBackend

open Library

/-! ### Conditions -/

/-- `_value_from_latest`: the first column that is set. -/
def valueFromLatest (latest : Reading) : PyValue :=
  match latest.valueFloat, latest.valueInteger, latest.valueBoolean with
  | some value, _, _ => .float value
  | none, some value, _ => .int value
  | none, none, some value => .bool value
  | none, none, none => latest.valueText.elim .none .text

/-- `_threshold_from_rule`. -/
def thresholdFromRule (rule : AlertRule) : PyValue :=
  match rule.thresholdFloat, rule.thresholdInteger, rule.thresholdBoolean with
  | some value, _, _ => .float value
  | none, some value, _ => .int value
  | none, none, some value => .bool value
  | none, none, none => rule.thresholdText.elim .none .text

/-- `_compare`. -/
def compare (operator : AlertOperator) (value threshold : PyValue) : Option Bool :=
  match operator with
  | .gt => threshold.lt? value
  | .gte => threshold.le? value
  | .lt => value.lt? threshold
  | .lte => value.le? threshold
  | .eq => some (value.eq threshold)
  | .neq => some (!value.eq threshold)
  | .unsupported _ => some false

/-- `evaluate_rule_condition`: the condition, the value and the threshold. -/
def evaluateRuleCondition (rule : AlertRule) (latest : LatestTelemetry) :
    Bool × PyValue × PyValue :=
  let value := valueFromLatest latest.toReading
  let threshold := thresholdFromRule rule
  if threshold = .none then (false, value, threshold)
  else ((compare rule.operator value threshold).getD false, value, threshold)

/-- Two values that compare make the comparison go through. -/
theorem isSome_compare_of_comparable {operator : AlertOperator} {value threshold : PyValue}
    (h : value.comparable threshold) : (compare operator value threshold).isSome := by
  cases operator with
  | gt => exact PyValue.isSome_lt?_iff.mpr (PyValue.comparable_comm ▸ h)
  | gte => exact PyValue.isSome_le?_iff.mpr (PyValue.comparable_comm ▸ h)
  | lt => exact PyValue.isSome_lt?_iff.mpr h
  | lte => exact PyValue.isSome_le?_iff.mpr h
  | eq | neq | unsupported value => rfl

/-! ### Matching rules -/

/-- The conditions of `_matching_rule_queryset` on the scope of a rule. -/
def AlertRule.scopeMatches (rule : AlertRule) (latest : LatestTelemetry) : Bool :=
  let dataCenter := latest.dataCenter
  let deviceType := latest.device.deviceType
  rule.device = some latest.device.id ||
    (rule.device = none && rule.dataCenter = some dataCenter &&
      rule.deviceType = some deviceType) ||
    (rule.device = none && rule.dataCenter = some dataCenter && rule.deviceType = none) ||
    (rule.device = none && rule.dataCenter = none && rule.deviceType = some deviceType) ||
    (rule.device = none && rule.dataCenter = none && rule.deviceType = none)

/-- `_matching_rule_queryset`. -/
def matchingRuleQueryset (db : AlertsDb) (latest : LatestTelemetry) : List AlertRule :=
  db.rules.select fun rule =>
    rule.isActive && rule.organization = latest.organization &&
      rule.metric = latest.metric.id && rule.scopeMatches latest

/-- The rank in `_rule_specificity`. -/
def AlertRule.specificityRank (rule : AlertRule) : ℕ :=
  if rule.device.isSome then 4
  else if rule.dataCenter.isSome && rule.deviceType.isSome then 3
  else if rule.dataCenter.isSome then 2
  else if rule.deviceType.isSome then 1
  else 0

/-- `_rule_specificity`.  The keys of rules are UUIDs, whose texts are ordered as
the numbers are. -/
def ruleSpecificity (rule : AlertRule) : ℕ ×ₗ Instant ×ₗ RuleId :=
  toLex (rule.specificityRank, toLex (rule.createdAt, rule.id))

/-- `get_matching_rules`, where `cached` is what the cache replied. -/
def getMatchingRules (db : AlertsDb) (latest : LatestTelemetry)
    (cached : Option (List RuleId)) : List AlertRule :=
  let matching := matchingRuleQueryset db latest
  match cached with
  | some ids => ids.filterMap fun id => matching.find? fun rule => rule.id = id
  | none => matching.insertionSort fun a b => ruleSpecificity b ≤ ruleSpecificity a

/-- A rule that is evaluated is one that the query returned. -/
theorem mem_matchingRuleQueryset_of_mem {db : AlertsDb} {latest : LatestTelemetry}
    {cached : Option (List RuleId)} {rule : AlertRule}
    (h : rule ∈ getMatchingRules db latest cached) :
    rule ∈ matchingRuleQueryset db latest := by
  unfold getMatchingRules at h
  cases cached with
  | none => simpa using h
  | some ids =>
      obtain ⟨id, -, hfind⟩ := List.mem_filterMap.mp h
      exact List.mem_of_find?_eq_some hfind

/-- A rule that is evaluated is stored. -/
theorem mem_rules_of_mem_getMatchingRules {db : AlertsDb} {latest : LatestTelemetry}
    {cached : Option (List RuleId)} {rule : AlertRule}
    (h : rule ∈ getMatchingRules db latest cached) : rule ∈ db.rules :=
  (Table.mem_select.mp (mem_matchingRuleQueryset_of_mem h)).1

end DcimBackend
