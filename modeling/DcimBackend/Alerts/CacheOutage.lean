import DcimBackend.Alerts.Orphans
import DcimBackend.Alerts.RuleCache
import DcimBackend.Library.Connection

/-!
# Evaluation without a cache

`evaluate_latest` when calls of the cache raise.  The version is looked up under a handler
(`apps/alerts/services/cache.py`), which falls back on a namespace of its own; the two calls of
`get_matching_rules` (`apps/alerts/services/engine.py`) on the entry itself have none.  Any of the
four calls may raise, in any evaluation.  Between the evaluations other transactions commit, the
version is bumped or fails to be, and entries expire.

`Alerts.RuleCache` is about a cache that answers, whose readers and writers interleave.

An outage is given for one evaluation, call by call, so a cache may fail at the version and answer
at the entry, or the other way round.  Entries are lists of keys; the rules are fetched by these
keys afterwards, which is why an entry that is out of date shows in the result only as far as it
lists other rules than those that match (`ListsMatching`).
-/

namespace DcimBackend

open Library

/-- The cache, as far as the matching rules go. -/
structure MatchCache where
  version : Option String := none
  entries : String → MatchingKey → Option (List RuleId) := fun _ _ => none

/-- What a call of the cache raises. -/
inductive CacheError
  | unavailable
deriving DecidableEq

/-- The calls that raise during an evaluation. -/
structure Outage where
  getVersion : Bool := false
  setVersion : Bool := false
  getEntry : Bool := false
  setEntry : Bool := false
deriving DecidableEq

namespace MatchCache

/-! ### The calls -/

/-- A call of the cache. -/
def call {α : Type} (raises : Bool) (x : Tx CacheError MatchCache α) : Tx CacheError MatchCache α :=
  if raises then Tx.raise .unavailable else x

def setVersion (version : String) (cache : MatchCache) : MatchCache :=
  { cache with version := some version }

def setEntry (version : String) (key : MatchingKey) (ids : List RuleId) (cache : MatchCache) :
    MatchCache :=
  { cache with
    entries := Function.update cache.entries version
      (Function.update (cache.entries version) key (some ids)) }

theorem entries_setEntry (version version' : String) (key key' : MatchingKey) (ids : List RuleId)
    (cache : MatchCache) :
    (cache.setEntry version key ids).entries version' key' =
      if version' = version ∧ key' = key then some ids else cache.entries version' key' := by
  by_cases hversion : version' = version
  · subst hversion
    simp [setEntry, Function.update_apply]
  · simp [setEntry, hversion]

/-- `if version:`. -/
def truthy (version : Option String) : Option String := version.filter (· ≠ "")

/-- `get_alert_rule_match_cache_version`, which may generate `uuid`. -/
def getAlertRuleMatchCacheVersion (outage : Outage) (uuid : String) :
    Tx CacheError MatchCache String :=
  Tx.handle (do
    let version ← call outage.getVersion (Tx.read version)
    match truthy version with
    | some version => return version
    | none =>
        call outage.setVersion (Tx.modify (setVersion uuid))
        return uuid) fun _ => return "cache-unavailable"

/-- What the cache replies to `get_matching_rules`.  A reply of nothing is followed by the entry
for the rules that the query then returns. -/
def reply (outage : Outage) (uuid : String) (db : AlertsDb) (latest : LatestTelemetry) :
    Tx CacheError MatchCache (Option (List RuleId)) := do
  let version ← getAlertRuleMatchCacheVersion outage uuid
  let cached ← call outage.getEntry
    (Tx.read fun cache => cache.entries version (matchingRuleCacheKey latest))
  if cached.isNone then
    call outage.setEntry (Tx.modify (setEntry version (matchingRuleCacheKey latest)
      ((getMatchingRules db latest none).map AlertRule.id)))
  return cached

/-- `get_matching_rules`. -/
def matchingRules (outage : Outage) (uuid : String) (db : AlertsDb) (latest : LatestTelemetry) :
    Tx CacheError MatchCache (List AlertRule) := do
  return getMatchingRules db latest (← reply outage uuid db latest)

end MatchCache

/-- What `evaluate_latest` raises. -/
inductive EvaluationError
  | cache (e : CacheError)
  | engine (e : EngineError)
deriving DecidableEq

/-- The alerts, with the cache. -/
structure CachedAlerts where
  db : AlertsDb
  cache : MatchCache

/-- What happens to the alerts and to the cache. -/
inductive CachedOperation
  | evaluateLatest (latest : LatestTelemetry) (outage : Outage) (uuid : String)
    (clock : ℕ → ℕ → Instant)
  /-- Any other transaction commits. -/
  | commit (db : AlertsDb)
  /-- `invalidate_alert_rule_match_cache`, whose exceptions are caught. -/
  | invalidate (raises : Bool) (uuid : String)
  | evictVersion
  /-- An entry is evicted, or expires after 60 seconds. -/
  | evict (version : String) (key : MatchingKey)

namespace CachedAlerts

/-- `evaluate_latest`, with the cache. -/
def evaluateLatest (py : PyText) (latest : LatestTelemetry) (outage : Outage) (uuid : String)
    (clock : ℕ → ℕ → Instant) (s : CachedAlerts) :
    Except EvaluationError (List AlertEvent) × CachedAlerts :=
  match MatchCache.reply outage uuid s.db latest s.cache with
  | (.error e, cache) => (.error (.cache e), { s with cache := cache })
  | (.ok cached, cache) =>
      let (result, db) := DcimBackend.evaluateLatest py latest cached clock s.db
      (result.mapError .engine, { db := db, cache := cache })

def step (py : PyText) (s : CachedAlerts) : CachedOperation → CachedAlerts
  | .evaluateLatest latest outage uuid clock => (s.evaluateLatest py latest outage uuid clock).2
  | .commit db => { s with db := db }
  | .invalidate raises uuid =>
      if raises then s else { s with cache := s.cache.setVersion uuid }
  | .evictVersion => { s with cache := { s.cache with version := none } }
  | .evict version key =>
      { s with
        cache := { s.cache with
          entries := Function.update s.cache.entries version
            (Function.update (s.cache.entries version) key none) } }

/-- The evaluation completes as without a cache: it gets the rules that the query returns, sorted
by specificity, and has the same result and leaves the same alerts. -/
structure Survives (py : PyText) (s : CachedAlerts) (latest : LatestTelemetry) (outage : Outage)
    (uuid : String) (clock : ℕ → ℕ → Instant) : Prop where
  rules : (MatchCache.matchingRules outage uuid s.db latest s.cache).1 =
    .ok (getMatchingRules s.db latest none)
  result : (s.evaluateLatest py latest outage uuid clock).1 =
    (DcimBackend.evaluateLatest py latest none clock s.db).1.mapError .engine
  alerts : (s.evaluateLatest py latest outage uuid clock).2.db =
    (DcimBackend.evaluateLatest py latest none clock s.db).2

/-- Every evaluation of a run completes as without a cache. -/
def SurvivesAt (py : PyText) (s : CachedAlerts) : CachedOperation → CachedAlerts → Prop
  | .evaluateLatest latest outage uuid clock, _ => s.Survives py latest outage uuid clock
  | _, _ => True

end CachedAlerts

/-! ### What the cache replies -/

/-- The namespace of an evaluation. -/
def MatchCache.namespaceFor (outage : Outage) (uuid : String) (cache : MatchCache) : String :=
  if outage.getVersion then "cache-unavailable"
  else (truthy cache.version).getD (if outage.setVersion then "cache-unavailable" else uuid)

/-- The keys of an entry that still match a row are those of the matching rules, by specificity. -/
def ListsMatching (db : AlertsDb) (latest : LatestTelemetry) (ids : List RuleId) : Prop :=
  ids.filter (fun id => id ∈ (matchingRuleQueryset db latest).map AlertRule.id) =
    (getMatchingRules db latest none).map AlertRule.id

instance (db : AlertsDb) (latest : LatestTelemetry) (ids : List RuleId) :
    Decidable (ListsMatching db latest ids) := inferInstanceAs (Decidable (_ = _))

/-- The entry can be read, and is not out of date; if there is none, one can be written. -/
structure CachedAlerts.Served (s : CachedAlerts) (latest : LatestTelemetry) (outage : Outage)
    (uuid : String) : Prop where
  read : outage.getEntry = false
  found : ∀ ids, s.cache.entries (s.cache.namespaceFor outage uuid) (matchingRuleCacheKey latest) =
    some ids → ListsMatching s.db latest ids
  written : s.cache.entries (s.cache.namespaceFor outage uuid) (matchingRuleCacheKey latest) =
    none → outage.setEntry = false

def CachedAlerts.ServedAt (s : CachedAlerts) : CachedOperation → CachedAlerts → Prop
  | .evaluateLatest latest outage uuid _, _ => s.Served latest outage uuid
  | _, _ => True

section Reply

variable {db : AlertsDb} {latest : LatestTelemetry} {outage : Outage} {uuid : String}
variable {cache : MatchCache} {ids : List RuleId}

/-- What a hit returns, by its keys. -/
theorem map_id_getMatchingRules (ids : List RuleId) :
    (getMatchingRules db latest (some ids)).map AlertRule.id =
      ids.filter fun id => id ∈ (matchingRuleQueryset db latest).map AlertRule.id := by
  unfold getMatchingRules
  dsimp only
  induction ids with
  | nil => rfl
  | cons id ids ih =>
      rw [List.filterMap_cons]
      cases hfind : (matchingRuleQueryset db latest).find? fun rule => rule.id = id with
      | none =>
          have hnot : id ∉ (matchingRuleQueryset db latest).map AlertRule.id := by
            intro hmem
            obtain ⟨rule, hrule, hid⟩ := List.mem_map.mp hmem
            have hnone := List.find?_eq_none.mp hfind rule hrule
            simp [hid] at hnone
          rw [List.filter_cons_of_neg (by simpa using hnot)]
          exact ih
      | some rule =>
          have hid : rule.id = id := by simpa using List.find?_some hfind
          have hmem : id ∈ (matchingRuleQueryset db latest).map AlertRule.id :=
            List.mem_map.mpr ⟨rule, List.mem_of_find?_eq_some hfind, hid⟩
          rw [List.filter_cons_of_pos (by simpa using hmem), List.map_cons, hid, ih]

/-- **A hit is fresh exactly if the entry lists the matching rules.** -/
theorem getMatchingRules_eq_iff :
    getMatchingRules db latest (some ids) = getMatchingRules db latest none ↔
      ListsMatching db latest ids := by
  rw [ListsMatching, ← map_id_getMatchingRules]
  constructor
  · intro h
    rw [h]
  · intro h
    have hhit : getMatchingRules db latest
        (some ((getMatchingRules db latest (some ids)).map AlertRule.id)) =
          getMatchingRules db latest (some ids) :=
      getMatchingRules_map_id fun _ hrule => mem_matchingRuleQueryset_of_mem hrule
    rw [← hhit, h, getMatchingRules_cached]

/-- The version is looked up, whatever raises, and no entry changes. -/
theorem MatchCache.version_spec (outage : Outage) (uuid : String) (cache : MatchCache) :
    ∃ cache', getAlertRuleMatchCacheVersion outage uuid cache =
        (.ok (cache.namespaceFor outage uuid), cache') ∧ cache'.entries = cache.entries := by
  unfold getAlertRuleMatchCacheVersion namespaceFor call
  cases hget : outage.getVersion with
  | true => exact ⟨cache, rfl, rfl⟩
  | false =>
      cases hversion : truthy cache.version with
      | some version => exact ⟨cache, by simp [Tx.handle, hversion], rfl⟩
      | none =>
          cases hset : outage.setVersion with
          | true => exact ⟨cache, by simp [Tx.handle, hversion], rfl⟩
          | false => exact ⟨cache.setVersion uuid, by simp [Tx.handle, hversion], rfl⟩

/-- An entry is replied if there is one, and written if there is none. -/
theorem MatchCache.reply_spec (outage : Outage) (uuid : String) (db : AlertsDb)
    (latest : LatestTelemetry) (cache : MatchCache) :
    ∃ cache', cache'.entries = cache.entries ∧ reply outage uuid db latest cache =
      if outage.getEntry then (.error .unavailable, cache')
      else (cache.entries (cache.namespaceFor outage uuid) (matchingRuleCacheKey latest)).elim
        (if outage.setEntry then (.error .unavailable, cache')
          else (.ok none, cache'.setEntry (cache.namespaceFor outage uuid)
            (matchingRuleCacheKey latest) ((getMatchingRules db latest none).map AlertRule.id)))
        fun ids => (.ok (some ids), cache') := by
  obtain ⟨cache', hversion, hentries⟩ := version_spec outage uuid cache
  refine ⟨cache', hentries, ?_⟩
  rw [reply, Tx.bind_of_ok hversion]
  unfold call
  cases outage.getEntry with
  | true => rfl
  | false =>
      simp only [Bool.false_eq_true, if_false]
      rw [Tx.bind_of_ok (Tx.read_apply ..), hentries]
      cases cache.entries (cache.namespaceFor outage uuid) (matchingRuleCacheKey latest) with
      | some ids => rfl
      | none => cases outage.setEntry <;> rfl

end Reply

/-! ### Evaluations -/

namespace CachedAlerts

section Evaluation

variable {py : PyText} {s : CachedAlerts} {latest : LatestTelemetry} {outage : Outage}
variable {uuid : String} {clock : ℕ → ℕ → Instant}

theorem survives_of_reply {cached : Option (List RuleId)} {cache : MatchCache}
    (hreply : MatchCache.reply outage uuid s.db latest s.cache = (.ok cached, cache))
    (hrules : getMatchingRules s.db latest cached = getMatchingRules s.db latest none) :
    s.Survives py latest outage uuid clock := by
  have hsame : DcimBackend.evaluateLatest py latest cached clock s.db =
      DcimBackend.evaluateLatest py latest none clock s.db := by
    rw [DcimBackend.evaluateLatest, DcimBackend.evaluateLatest,
      Tx.bind_of_ok (Tx.read_apply ..), Tx.bind_of_ok (Tx.read_apply ..), hrules]
  refine ⟨?_, ?_, ?_⟩
  · rw [MatchCache.matchingRules, Tx.bind_of_ok hreply, hrules]
    rfl
  · simp only [evaluateLatest, hreply, hsame]
  · simp only [evaluateLatest, hreply, hsame]

theorem not_survives_of_error {e : CacheError} {cache : MatchCache}
    (hreply : MatchCache.reply outage uuid s.db latest s.cache = (.error e, cache)) :
    ¬s.Survives py latest outage uuid clock := by
  intro h
  have hrules := h.rules
  rw [MatchCache.matchingRules, Tx.bind_of_error hreply] at hrules
  cases hrules

/-- **An evaluation completes as without a cache exactly if it is served.** -/
theorem survives_iff : s.Survives py latest outage uuid clock ↔ s.Served latest outage uuid := by
  obtain ⟨cache', -, hreply⟩ := MatchCache.reply_spec outage uuid s.db latest s.cache
  constructor
  · intro h
    have hread : outage.getEntry = false := by
      by_contra hraises
      rw [Bool.not_eq_false] at hraises
      rw [hraises, if_pos rfl] at hreply
      exact not_survives_of_error hreply h
    rw [hread, if_neg Bool.false_ne_true] at hreply
    refine ⟨hread, fun ids hentry => ?_, fun hentry => ?_⟩
    · rw [hentry, Option.elim_some] at hreply
      have hrules := h.rules
      rw [MatchCache.matchingRules, Tx.bind_of_ok hreply] at hrules
      exact getMatchingRules_eq_iff.mp (Except.ok.inj hrules)
    · by_contra hraises
      rw [Bool.not_eq_false] at hraises
      rw [hentry, Option.elim_none, hraises, if_pos rfl] at hreply
      exact not_survives_of_error hreply h
  · rintro ⟨hread, hfound, hwritten⟩
    rw [hread, if_neg Bool.false_ne_true] at hreply
    cases hentry : s.cache.entries (s.cache.namespaceFor outage uuid)
      (matchingRuleCacheKey latest) with
    | some ids =>
        rw [hentry] at hreply
        exact survives_of_reply hreply (getMatchingRules_eq_iff.mpr (hfound ids hentry))
    | none =>
        rw [hentry, Option.elim_none, hwritten hentry, if_neg Bool.false_ne_true] at hreply
        exact survives_of_reply hreply rfl

end Evaluation

/-- **In a run, every evaluation completes as without a cache exactly if every one is served.** -/
theorem survives_run_iff (py : PyText) (s : CachedAlerts) (w : List CachedOperation) :
    Along (step py) (SurvivesAt py) s w ↔ Along (step py) ServedAt s w := by
  refine along_congr (G := fun _ _ _ => True) (fun s e _ => ?_)
    (along_of_forall (fun _ _ => trivial) s w)
  cases e with
  | evaluateLatest latest outage uuid clock => exact survives_iff
  | commit | invalidate | evictVersion | evict => exact Iff.rfl

/-! ### Runs in which the rules stay the same -/

/-- Every entry, in whatever namespace, has the keys of the matching rules. -/
def Fresh (s : CachedAlerts) : Prop :=
  ∀ version latest ids, s.cache.entries version (matchingRuleCacheKey latest) = some ids →
    ids = (getMatchingRules s.db latest none).map AlertRule.id

/-- No commit changes a rule. -/
def KeepsRules (s : CachedAlerts) : CachedOperation → CachedAlerts → Prop
  | .commit db, _ => db.rules = s.db.rules
  | _, _ => True

/-- The calls on the entry do not raise. -/
def AnswersAt (s : CachedAlerts) : CachedOperation → CachedAlerts → Prop
  | .evaluateLatest latest outage uuid _, _ => outage.getEntry = false ∧
      (s.cache.entries (s.cache.namespaceFor outage uuid) (matchingRuleCacheKey latest) = none →
        outage.setEntry = false)
  | _, _ => True

section SameRules

variable {py : PyText} {s s' : CachedAlerts} {latest : LatestTelemetry} {outage : Outage}
variable {uuid : String} {clock : ℕ → ℕ → Instant}

theorem getMatchingRules_of_rules {db db' : AlertsDb} (h : db'.rules = db.rules)
    (cached : Option (List RuleId)) :
    getMatchingRules db' latest cached = getMatchingRules db latest cached := by
  unfold getMatchingRules matchingRuleQueryset
  rw [h]

/-- Entries that are kept, for rules that are kept. -/
theorem Fresh.of_le (h : s.Fresh) (hrules : s'.db.rules = s.db.rules)
    (hentries : ∀ version key ids, s'.cache.entries version key = some ids →
      s.cache.entries version key = some ids) : s'.Fresh := by
  intro version latest ids hids
  rw [getMatchingRules_of_rules hrules]
  exact h version latest ids (hentries version _ ids hids)

/-- The entry of an evaluation. -/
theorem Fresh.setEntry (h : s.Fresh) (version : String) (latest : LatestTelemetry) :
    Fresh { s with
      cache := s.cache.setEntry version (matchingRuleCacheKey latest)
        ((getMatchingRules s.db latest none).map AlertRule.id) } := by
  intro version' latest' ids hids
  rw [MatchCache.entries_setEntry] at hids
  split at hids
  · rename_i hsame
    rw [← Option.some.inj hids]
    exact congrArg (List.map AlertRule.id) (ruleMemo.compute_congr s.db _ _ hsame.2.symm)
  · exact h version' latest' ids hids

/-- The entries after the calls of an evaluation. -/
theorem Fresh.reply (h : s.Fresh) :
    Fresh { s with cache := (MatchCache.reply outage uuid s.db latest s.cache).2 } := by
  obtain ⟨cache', hentries, hreply⟩ := MatchCache.reply_spec outage uuid s.db latest s.cache
  have hkept : Fresh { s with cache := cache' } :=
    h.of_le rfl fun version key ids hids => by rwa [← hentries]
  rw [hreply]
  cases outage.getEntry with
  | true => exact hkept
  | false =>
      cases s.cache.entries (s.cache.namespaceFor outage uuid) (matchingRuleCacheKey latest) with
      | some ids => exact hkept
      | none =>
          cases outage.setEntry with
          | true => exact hkept
          | false => exact hkept.setEntry _ latest

/-- What one step keeps. -/
theorem Fresh.step (h : s.Fresh) {e : CachedOperation} (he : s.KeepsRules e s') :
    (s.step py e).Fresh := by
  cases e with
  | evaluateLatest latest outage uuid clock =>
      have hreply : Fresh { s with
          cache := (MatchCache.reply outage uuid s.db latest s.cache).2 } := h.reply
      change (s.evaluateLatest py latest outage uuid clock).2.Fresh
      unfold evaluateLatest
      rcases hcached : MatchCache.reply outage uuid s.db latest s.cache with ⟨e | cached, cache⟩
      · rwa [hcached] at hreply
      · rw [hcached] at hreply
        have hrules : (DcimBackend.evaluateLatest py latest cached clock s.db).2.rules =
            s.db.rules := (AlertsDb.sameSetup_evaluateLatest s.db).rules
        exact hreply.of_le hrules fun _ _ _ hids => hids
  | commit db => exact h.of_le he fun _ _ _ hids => hids
  | invalidate raises uuid =>
      cases raises with
      | true => exact h
      | false => exact h.of_le rfl fun _ _ _ hids => hids
  | evictVersion => exact h.of_le rfl fun _ _ _ hids => hids
  | evict version key =>
      refine h.of_le rfl fun version' key' ids hids => ?_
      change Function.update s.cache.entries version
        (Function.update (s.cache.entries version) key none) version' key' = some ids at hids
      by_cases hversion : version' = version
      · subst hversion
        rw [Function.update_self] at hids
        by_cases hkey : key' = key
        · subst hkey
          rw [Function.update_self] at hids
          cases hids
        · rwa [Function.update_of_ne hkey] at hids
      · rwa [Function.update_of_ne hversion] at hids

/-- A fresh entry is not out of date. -/
theorem Fresh.servedAt_iff (h : s.Fresh) (e : CachedOperation) :
    s.ServedAt e s' ↔ s.AnswersAt e s' := by
  cases e with
  | evaluateLatest latest outage uuid clock =>
      have hlists : ∀ ids,
          s.cache.entries (s.cache.namespaceFor outage uuid) (matchingRuleCacheKey latest) =
            some ids → ListsMatching s.db latest ids := by
        intro ids hids
        rw [h _ latest ids hids]
        exact getMatchingRules_eq_iff.mp (getMatchingRules_cached s.db latest)
      constructor
      · exact fun hserved => ⟨hserved.read, hserved.written⟩
      · exact fun hanswers => ⟨hanswers.1, hlists, hanswers.2⟩
  | commit | invalidate | evictVersion | evict => exact Iff.rfl

/-- **From an empty cache, as long as no commit changes a rule, every evaluation is served exactly
if the calls on the entries do not raise**, whichever namespaces the evaluations use. -/
theorem served_run_iff (db : AlertsDb) {w : List CachedOperation}
    (hrules : Along (CachedAlerts.step py) KeepsRules ⟨db, {}⟩ w) :
    Along (CachedAlerts.step py) ServedAt ⟨db, {}⟩ w ↔
      Along (CachedAlerts.step py) AnswersAt ⟨db, {}⟩ w := by
  have hempty : Fresh ⟨db, {}⟩ := by
    intro version latest ids hids
    cases hids
  generalize (⟨db, {}⟩ : CachedAlerts) = s at hempty hrules
  induction w generalizing s with
  | nil => exact Iff.rfl
  | cons e w ih =>
      exact and_congr (hempty.servedAt_iff e) (ih _ (hempty.step hrules.1) hrules.2)

end SameRules

end CachedAlerts

/-! ### A rule that commits between two outages -/

namespace AlertsDb

/-- While the version cannot be read, an evaluation keeps that there is no rule; then the rule of
the server room commits, and the version is bumped. -/
def ruleCommittedInOutage : List CachedOperation :=
  [.evaluateLatest hotRow { getVersion := true } "1" fun _ _ => 0, .commit serverRoom,
    .invalidate false "2"]

/-- If the entry cannot be read, the server room is not evaluated; and if the version cannot be
read again, its rule is not found. -/
theorem outage_stops_alerting :
    ¬CachedAlerts.Survives plainText ⟨serverRoom, {}⟩ hotRow { getEntry := true } "1"
        (fun _ _ => 0) ∧
      ¬(run (CachedAlerts.step plainText) ⟨noRules, {}⟩ ruleCommittedInOutage).Survives plainText
        hotRow { getVersion := true } "3" fun _ _ => 0 := by
  constructor
  · exact CachedAlerts.not_survives_of_error rfl
  · intro h
    exact absurd ((CachedAlerts.survives_iff.mp h).found [] rfl) (by decide)

end AlertsDb

end DcimBackend
