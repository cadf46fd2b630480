import DcimBackend.Alerts.Lifecycle
import DcimBackend.Library.VersionedCache

/-!
# The cache of matching rules

`get_matching_rules` with `_matching_rule_cache_key` (`apps/alerts/services/engine.py`), the
version of the cache (`apps/alerts/services/cache.py`), and the bumps that `AlertRule.save` and
`AlertRule.delete` register with `transaction.on_commit`.

The keys of the matching rules are cached under the version and the columns that the query
depends on.  Readers, writers and evictions interleave as in `Library.VersionedCache`, whose
steps are those of the source: a reader gets the version (`called`), or generates one and sets
it (`unversioned`, `generated`), gets the entry (`versioned`), and either filters the query by
the cached keys (`hit`) or sorts what it returns (`missed`) and sets the entry (`computed`).  A
committed write sets a new version by `invalidate_alert_rule_match_cache`.
-/

namespace DcimBackend

open Library

/-- The part of a cache key that comes after the version. -/
abbrev MatchingKey := OrganizationId × DataCenterId × DeviceId × DeviceTypeId × MetricId

/-- `_matching_rule_cache_key`, without the version. -/
def matchingRuleCacheKey (latest : LatestTelemetry) : MatchingKey :=
  (latest.organization, latest.dataCenter, latest.device.id, latest.device.deviceType,
    latest.metric.id)

/-- The query reads what the key says. -/
theorem matchingRuleQueryset_congr (db : AlertsDb) {latest latest' : LatestTelemetry}
    (h : matchingRuleCacheKey latest = matchingRuleCacheKey latest') :
    matchingRuleQueryset db latest = matchingRuleQueryset db latest' := by
  simp only [matchingRuleCacheKey, Prod.mk.injEq] at h
  obtain ⟨horganization, hdataCenter, hdevice, hdeviceType, hmetric⟩ := h
  unfold matchingRuleQueryset AlertRule.scopeMatches
  rw [horganization, hdataCenter, hdevice, hdeviceType, hmetric]

/-- A rule of the query is found by its key. -/
theorem find_matchingRuleQueryset {db : AlertsDb} {latest : LatestTelemetry} {rule : AlertRule}
    (h : rule ∈ matchingRuleQueryset db latest) :
    (matchingRuleQueryset db latest).find? (fun other => other.id = rule.id) = some rule := by
  cases hfind : (matchingRuleQueryset db latest).find? fun other => other.id = rule.id with
  | none =>
      have hnone := List.find?_eq_none.mp hfind rule h
      simp at hnone
  | some other =>
      have hid : other.id = rule.id := by simpa using List.find?_some hfind
      have hother := (Table.mem_select.mp (List.mem_of_find?_eq_some hfind)).1
      rw [db.rules.eq_of_pk_eq hother (Table.mem_select.mp h).1 hid]

/-- Rules of the query are given back by their keys. -/
theorem getMatchingRules_map_id {db : AlertsDb} {latest : LatestTelemetry} {rules : List AlertRule}
    (hrules : ∀ rule ∈ rules, rule ∈ matchingRuleQueryset db latest) :
    getMatchingRules db latest (some (rules.map AlertRule.id)) = rules := by
  change (rules.map AlertRule.id).filterMap (fun id =>
    (matchingRuleQueryset db latest).find? fun rule => rule.id = id) = rules
  induction rules with
  | nil => rfl
  | cons rule rules ih =>
      rw [List.forall_mem_cons] at hrules
      have hfind := find_matchingRuleQueryset hrules.1
      simp only [List.map_cons, List.filterMap_cons, hfind, ih hrules.2]

/-- **A hit on fresh keys**: as long as the rules have not changed, the cached keys give back
the sorted rules. -/
theorem getMatchingRules_cached (db : AlertsDb) (latest : LatestTelemetry) :
    getMatchingRules db latest (some ((getMatchingRules db latest none).map AlertRule.id)) =
      getMatchingRules db latest none :=
  getMatchingRules_map_id fun _ hrule => mem_matchingRuleQueryset_of_mem hrule

/-- The matching rules, as the cache keeps them: by their keys. -/
def ruleMemo : Memo AlertsDb LatestTelemetry MatchingKey (List RuleId) (List AlertRule) where
  key := matchingRuleCacheKey
  compute db latest := getMatchingRules db latest none
  pack rules := rules.map AlertRule.id
  unpack db latest ids := getMatchingRules db latest (some ids)
  compute_congr db latest latest' h := by
    unfold getMatchingRules
    rw [matchingRuleQueryset_congr db h]
  unpack_pack := getMatchingRules_cached

/-- The rules, the cache, and who is at work on them. -/
abbrev RuleCache := CacheState AlertsDb LatestTelemetry MatchingKey (List RuleId) (List AlertRule)

/-- A step of a call of `get_matching_rules` or of a write to the rules, or an eviction. -/
abbrev RuleCacheEvent := CacheEvent AlertsDb LatestTelemetry MatchingKey

/-- The state after some events, from an empty cache. -/
def RuleCache.after (db : AlertsDb) (w : List RuleCacheEvent) : RuleCache :=
  run (CacheState.step ruleMemo) (CacheState.start db) w

/-- **Cached matching is fresh matching.**  A call that starts after the bumps of the rule
writes that have committed, and before whose query no other rule write commits, returns the
list that the uncached query gives, sorted by specificity. -/
theorem matching_rules_fresh (db : AlertsDb) (u v : List RuleCacheEvent) (i : ℕ)
    (latest : LatestTelemetry) (hbumps : (RuleCache.after db u).Settled)
    (hcall : ∀ e ∈ v, ∀ other, e ≠ .call i other)
    (hwrites : Along (CacheState.step ruleMemo) (CacheState.QuietFor i)
      (RuleCache.after db (u ++ [.call i latest])) v)
    {latest' : LatestTelemetry} {rules : List AlertRule}
    (hreturned : (RuleCache.after db (u ++ .call i latest :: v)).readers i =
      .returned latest' rules) :
    rules = getMatchingRules (RuleCache.after db u).db latest none := by
  have hconsistent : (RuleCache.after db u).Consistent ruleMemo :=
    CacheState.consistent_run db u
  unfold RuleCache.after at hwrites hreturned
  rw [run_concat] at hwrites
  rw [run_append, run_cons] at hreturned
  exact CacheState.answer_of_run hconsistent hbumps hcall hwrites hreturned

/-! ### A write between two calls -/

namespace AlertsDb

/-- The server room before it has any rule. -/
def noRules : AlertsDb :=
  .quiet serverRoom.hierarchy .empty (.ofRows [temperature]) .empty .empty

/-- A call fills the cache while there is no rule, then the rule of the server room commits. -/
def ruleCommitted : List RuleCacheEvent :=
  .call 0 hotRow :: List.replicate 6 (.read 0) ++ [.commit serverRoom 0, .bump 0, .bump 0]

/-- The next call does not find the empty list that the first one has left. -/
theorem matching_rules_fresh_serverRoom :
    [tooHot] = getMatchingRules (RuleCache.after noRules ruleCommitted).db hotRow none := by
  have hbumps : (RuleCache.after noRules ruleCommitted).Settled := by
    unfold CacheState.Settled
    decide
  refine matching_rules_fresh noRules ruleCommitted (List.replicate 4 (.read 0)) 0 hotRow hbumps
    ?_ ?_ rfl
  · simp
  · simp [List.replicate, Along, CacheState.QuietFor]

end AlertsDb

end DcimBackend
