import DcimBackend.Alerts.Models
import DcimBackend.Library.Accumulate
import DcimBackend.Library.Firsts
import Mathlib.Data.Finset.Insert

/-!
# The metrics of a telemetry report

`_resolve_telemetry_metrics` of `apps/reports/services/generator.py`: the metrics that a report is
asked for by their codes, or by the names that older reports use for them.

`MetricDefinitions.resolved` says what one requested code stands for.  The function looks all codes
up at once, refuses the request if one of them stands for nothing, and then walks through the
codes, leaving out what it has seen; `resolveTelemetryMetrics_spec` says what comes out.

A text may be the code of a metric and an older name of another one; then the metric with that
code is meant.  Two texts may stand for one metric, which is listed once, at the first of them.
So what comes out is compared with the codes as a list: complete, in the order of the request, and
without duplicates.
-/

namespace DcimBackend

open Library

/-- The table `metric_definitions`, in which every code is the code of one row. -/
structure MetricDefinitions where
  table : Table MetricDefinition
  nodup_code : (table.rows.map MetricDefinition.code).Nodup

/-- What the resolution raises. -/
inductive MetricsError
  | valueError (message : String)
  | keyError (key : String)
deriving DecidableEq

/-- `TELEMETRY_METRIC_CODE_ALIASES`. -/
def telemetryMetricCodeAliases : List (String × String) :=
  [("room_temperature", "pac_room_temperature"),
   ("room_humidity", "pac_room_humidity"),
   ("roomTemp", "pac_room_temperature"),
   ("roomRH", "pac_room_humidity")]

namespace MetricDefinitions

variable (db : MetricDefinitions)

/-! ### The code -/

/-- `{metric.code: metric for metric in MetricDefinition.objects.filter(code__in=codes)}`.  No two
rows have one code, so no key is assigned twice. -/
def byCode (codes : List String) : List (String × MetricDefinition) :=
  (db.table.select fun metric => metric.code ∈ codes).map fun metric => (metric.code, metric)

/-- The code that a requested one is taken for: itself if there is such a metric, or else
`target or code`. -/
def canonicalCode (exactMetrics : List (String × MetricDefinition)) (code : String) : String :=
  if (exactMetrics.lookup code).isSome then code
  else
    match telemetryMetricCodeAliases.lookup code with
    -- an empty target would count as none
    | some target => if target = "" then code else target
    | none => code

/-- `canonical_codes`, after the first loop. -/
def canonicalCodes (metricCodes : List String) : List String :=
  metricCodes.map (canonicalCode (db.byCode metricCodes))

/-- `metrics_by_code`. -/
def metricsByCode (metricCodes : List String) : List (String × MetricDefinition) :=
  db.byCode (db.canonicalCodes metricCodes)

/-- What the last loop has seen, and the metrics so far. -/
structure Selection where
  seen : Finset String
  orderedMetrics : List MetricDefinition

/-- The body of the last loop. -/
def select (metricsByCode : List (String × MetricDefinition)) (selection : Selection)
    (canonical : String) : Except MetricsError Selection :=
  if canonical ∈ selection.seen then .ok selection
  else
    match metricsByCode.lookup canonical with
    | some metric =>
        .ok ⟨insert canonical selection.seen, selection.orderedMetrics ++ [metric]⟩
    | none => .error (.keyError canonical)

/-- The message about codes without a metric. -/
def missingMessage (missingCodes : List String) : String :=
  "Invalid metric_codes value: " ++ ", ".intercalate missingCodes ++ "."

/-- `_resolve_telemetry_metrics`: the canonical codes, and the metrics. -/
def resolveTelemetryMetrics (metricCodes : List String) :
    Except MetricsError (List String × List MetricDefinition) :=
  let missingCodes := ((metricCodes.zip (db.canonicalCodes metricCodes)).filter fun pair =>
    ((db.metricsByCode metricCodes).lookup pair.2).isNone).map Prod.fst
  if missingCodes ≠ [] then .error (.valueError (missingMessage missingCodes))
  else do
    let selection ←
      (db.canonicalCodes metricCodes).foldlM (select (db.metricsByCode metricCodes)) ⟨∅, []⟩
    return (db.canonicalCodes metricCodes, selection.orderedMetrics)

/-! ### What a code stands for -/

/-- The metric with a code. -/
def withCode (code : String) : Option MetricDefinition :=
  db.table.rows.find? fun metric => metric.code = code

/-- The metric that a requested code stands for: the one with the code, or else the one with the
code that the name is an alias of. -/
def resolved (code : String) : Option MetricDefinition :=
  (db.withCode code).or ((telemetryMetricCodeAliases.lookup code).bind db.withCode)

section Lookup

variable {db} {codes : List String} {code : String} {metric : MetricDefinition}

/-- A query by codes finds the metric of each of them. -/
theorem lookup_byCode (hcode : code ∈ codes) :
    (db.byCode codes).lookup code = db.withCode code := by
  unfold byCode Table.select withCode
  rw [lookup_map_key, List.find?_filter]
  congr
  funext metric
  by_cases heq : metric.code = code
  · simp [heq, hcode]
  · simp [heq]

/-- The canonical code is the code of the metric that is meant. -/
theorem withCode_canonicalCode (hcode : code ∈ codes) :
    db.withCode (canonicalCode (db.byCode codes) code) = db.resolved code := by
  have htargets : ∀ pair ∈ telemetryMetricCodeAliases, pair.2 ≠ "" := by decide
  unfold canonicalCode resolved
  rw [lookup_byCode hcode]
  cases hexact : db.withCode code with
  | some metric => simp [hexact]
  | none =>
      cases halias : telemetryMetricCodeAliases.lookup code with
      | none => simpa using hexact
      | some target =>
          obtain ⟨_, _, hsplit, -⟩ := List.lookup_eq_some_iff.mp halias
          have hmem : (code, target) ∈ telemetryMetricCodeAliases := by
            rw [hsplit]
            simp
          simp [htargets _ hmem]

end Lookup

/-! ### The loop -/

section Loop

variable {metricsByCode : List (String × MetricDefinition)} {read : List String}
  {selection : Selection} {code : String}

/-- What the loop keeps up: it has seen what it has read, and its metrics are those of the codes
read, in the order of their first occurrences. -/
structure Selection.Holds (metricsByCode : List (String × MetricDefinition)) (read : List String)
    (selection : Selection) : Prop where
  seen : ∀ code, code ∈ selection.seen ↔ code ∈ read
  ordered : Firsts (read.map fun code => metricsByCode.lookup code) (selection.orderedMetrics.map some)

theorem Selection.holds_nil : Selection.Holds metricsByCode [] ⟨∅, []⟩ where
  seen code := by simp
  ordered := .nil

/-- One more code: its metric is added if the code is new.  Different codes have different metrics,
so the metric is new then, too. -/
theorem Selection.Holds.select
    (hkeys : ∀ code metric, metricsByCode.lookup code = some metric → metric.code = code)
    (hcode : (metricsByCode.lookup code).isSome) (h : selection.Holds metricsByCode read) :
    ∃ next, MetricDefinitions.select metricsByCode selection code = .ok next ∧
      next.Holds metricsByCode (read ++ [code]) := by
  obtain ⟨metric, hmetric⟩ := Option.isSome_iff_exists.mp hcode
  have hmem : (metricsByCode.lookup code ∈ read.map fun code => metricsByCode.lookup code) ↔
      code ∈ read := by
    rw [List.mem_map]
    constructor
    · rintro ⟨other, hother, heq⟩
      rw [hmetric] at heq
      rwa [← hkeys _ _ hmetric, hkeys _ _ heq]
    · exact fun hread => ⟨code, hread, rfl⟩
  unfold MetricDefinitions.select
  by_cases hseen : code ∈ selection.seen
  · rw [if_pos hseen]
    have hread := (h.seen code).mp hseen
    refine ⟨selection, rfl, ?_, ?_⟩
    · intro other
      rw [h.seen, List.mem_append, List.mem_singleton]
      constructor
      · exact Or.inl
      · rintro (hother | rfl)
        · exact hother
        · exact hread
    · rw [List.map_append, List.map_singleton]
      exact h.ordered.concat_of_mem (hmem.mpr hread)
  · -- a code that is not seen is not read, and neither is its metric
    rw [if_neg hseen, hmetric]
    have hnew : code ∉ read := fun hread => hseen ((h.seen code).mpr hread)
    refine ⟨_, rfl, ?_, ?_⟩
    · intro other
      rw [Finset.mem_insert, h.seen, List.mem_append, List.mem_singleton, or_comm]
    · rw [List.map_append, List.map_append, List.map_singleton, List.map_singleton, ← hmetric]
      exact h.ordered.concat_of_notMem fun hread => hnew (hmem.mp hread)

/-- The loop ends well if every code has a metric. -/
theorem exists_selection
    (hkeys : ∀ code metric, metricsByCode.lookup code = some metric → metric.code = code)
    {codes : List String} (hcodes : ∀ code ∈ codes, (metricsByCode.lookup code).isSome) :
    ∃ selection, codes.foldlM (select metricsByCode) ⟨∅, []⟩ = .ok selection ∧
      selection.Holds metricsByCode codes :=
  exists_foldlM_eq_ok (fun _ _ code hcode h => h.select hkeys (hcodes code hcode))
    Selection.holds_nil

end Loop

/-! ### The whole resolution -/

section Resolution

variable {db} {codes : List String} {code : String}

/-- The dictionary of the metrics, at the canonical code of a requested one. -/
theorem lookup_metricsByCode (hcode : code ∈ codes) :
    (db.metricsByCode codes).lookup (canonicalCode (db.byCode codes) code) =
      db.resolved code := by
  unfold metricsByCode canonicalCodes
  rw [lookup_byCode (List.mem_map_of_mem hcode), withCode_canonicalCode hcode]

theorem map_lookup_canonicalCodes :
    ((db.canonicalCodes codes).map fun code => (db.metricsByCode codes).lookup code) =
      codes.map db.resolved := by
  unfold canonicalCodes
  rw [List.map_map]
  exact List.map_congr_left fun code hcode => lookup_metricsByCode hcode

theorem code_of_lookup {metric : MetricDefinition}
    (h : (db.metricsByCode codes).lookup code = some metric) : metric.code = code := by
  unfold metricsByCode byCode at h
  rw [lookup_map_key] at h
  simpa using List.find?_some h

theorem map_filter_zip_map {α β : Type*} (xs : List α) (f : α → β) (p : β → Bool) :
    ((xs.zip (xs.map f)).filter fun pair => p pair.2).map Prod.fst =
      xs.filter fun x => p (f x) := by
  induction xs with
  | nil => rfl
  | cons x xs ih =>
      rw [List.map_cons, List.zip_cons_cons, List.filter_cons, List.filter_cons]
      cases p (f x) with
      | true => simp [ih]
      | false => simpa using ih

/-- The codes that the message names are those that stand for nothing. -/
theorem missingCodes_eq :
    ((codes.zip (db.canonicalCodes codes)).filter fun pair =>
        ((db.metricsByCode codes).lookup pair.2).isNone).map Prod.fst =
      codes.filter fun code => (db.resolved code).isNone := by
  refine (map_filter_zip_map codes _ fun canonical =>
    ((db.metricsByCode codes).lookup canonical).isNone).trans ?_
  exact List.filter_congr fun code hcode => by rw [lookup_metricsByCode hcode]

theorem resolveTelemetryMetrics_of_missing (h : ∃ code ∈ codes, db.resolved code = none) :
    db.resolveTelemetryMetrics codes = .error (.valueError
      (missingMessage (codes.filter fun code => (db.resolved code).isNone))) := by
  obtain ⟨code, hcode, hnone⟩ := h
  have hmissing : (codes.filter fun code => (db.resolved code).isNone) ≠ [] :=
    List.ne_nil_of_mem (List.mem_filter.mpr ⟨hcode, by rw [hnone]; rfl⟩)
  unfold resolveTelemetryMetrics
  dsimp only
  rw [missingCodes_eq, if_pos hmissing]

/-- If every code stands for a metric, the metrics come in the order of their first codes. -/
theorem exists_resolveTelemetryMetrics (h : ∀ code ∈ codes, db.resolved code ≠ none) :
    ∃ metrics, db.resolveTelemetryMetrics codes = .ok (db.canonicalCodes codes, metrics) ∧
      Firsts (codes.map db.resolved) (metrics.map some) := by
  have hmissing : ¬(codes.filter fun code => (db.resolved code).isNone) ≠ [] := by
    rw [not_not, List.filter_eq_nil_iff]
    intro code hcode
    rw [Option.isNone_iff_eq_none]
    exact h code hcode
  have hcodes : ∀ canonical ∈ db.canonicalCodes codes,
      ((db.metricsByCode codes).lookup canonical).isSome := by
    intro canonical hcanonical
    obtain ⟨code, hcode, rfl⟩ := List.mem_map.mp hcanonical
    rw [lookup_metricsByCode hcode, Option.isSome_iff_ne_none]
    exact h code hcode
  obtain ⟨selection, hloop, hholds⟩ :=
    exists_selection (fun _ _ hlookup => code_of_lookup hlookup) hcodes
  refine ⟨selection.orderedMetrics, ?_, ?_⟩
  · unfold resolveTelemetryMetrics
    dsimp only
    rw [missingCodes_eq, if_neg hmissing, hloop]
    rfl
  · rw [← map_lookup_canonicalCodes]
    exact hholds.ordered

/-- **The resolution is complete, ordered and without duplicates.** -/
theorem resolveTelemetryMetrics_spec (codes : List String) :
    ((∃ e, db.resolveTelemetryMetrics codes = .error e) ↔
        ∃ code ∈ codes, db.resolved code = none) ∧
      (∀ e, db.resolveTelemetryMetrics codes = .error e → e = .valueError
        (missingMessage (codes.filter fun code => (db.resolved code).isNone))) ∧
      ∀ canonicalCodes metrics,
        db.resolveTelemetryMetrics codes = .ok (canonicalCodes, metrics) →
          metrics.Nodup ∧
          (∀ code ∈ codes, ∃ metric ∈ metrics, db.resolved code = some metric) ∧
          (∀ metric ∈ metrics, ∃ code ∈ codes, db.resolved code = some metric) ∧
          metrics.Pairwise fun a b => Before (codes.map db.resolved) (some a) (some b) := by
  by_cases hmissing : ∃ code ∈ codes, db.resolved code = none
  · rw [resolveTelemetryMetrics_of_missing hmissing]
    refine ⟨iff_of_true ⟨_, rfl⟩ hmissing, fun e he => (Except.error.inj he).symm, ?_⟩
    intro _ _ hok
    cases hok
  · have hresolved : ∀ code ∈ codes, db.resolved code ≠ none :=
      fun code hcode hnone => hmissing ⟨code, hcode, hnone⟩
    obtain ⟨metrics, hok, hfirsts⟩ := exists_resolveTelemetryMetrics hresolved
    rw [hok]
    refine ⟨iff_of_false ?_ hmissing, ?_, ?_⟩
    · rintro ⟨e, he⟩
      cases he
    · intro e he
      cases he
    · intro canonicalCodes metrics' hpair
      obtain ⟨rfl, rfl⟩ := Prod.mk.inj (Except.ok.inj hpair)
      have hmem : ∀ metric, metric ∈ metrics ↔ some metric ∈ codes.map db.resolved := by
        intro metric
        rw [← hfirsts.mem_iff, List.mem_map]
        simp
      refine ⟨List.Nodup.of_map _ hfirsts.nodup, ?_, ?_, List.pairwise_map.mp hfirsts.ordered⟩
      · intro code hcode
        obtain ⟨metric, hmetric⟩ := Option.ne_none_iff_exists'.mp (hresolved code hcode)
        refine ⟨metric, (hmem metric).mpr ?_, hmetric⟩
        rw [← hmetric]
        exact List.mem_map_of_mem hcode
      · intro metric hmetric
        exact List.mem_map.mp ((hmem metric).mp hmetric)

end Resolution

end MetricDefinitions

/-! ### Two aliases of one metric -/

/-- The temperature of a room. -/
def pacRoomTemperature : MetricDefinition := { id := 1, code := "pac_room_temperature" }

/-- The humidity of a room. -/
def pacRoomHumidity : MetricDefinition := { id := 2, code := "pac_room_humidity" }

theorem nodup_pacMetrics :
    ((Table.ofRows [pacRoomTemperature, pacRoomHumidity]).rows.map
      MetricDefinition.code).Nodup := by
  decide

/-- The two metrics that have aliases. -/
def pacMetrics : MetricDefinitions :=
  ⟨.ofRows [pacRoomTemperature, pacRoomHumidity], nodup_pacMetrics⟩

theorem resolveTelemetryMetrics_spec_aliases :
    pacMetrics.resolveTelemetryMetrics ["roomTemp", "pac_room_humidity", "room_temperature"] =
        .ok (["pac_room_temperature", "pac_room_humidity", "pac_room_temperature"],
          [pacRoomTemperature, pacRoomHumidity]) ∧
      [pacRoomTemperature, pacRoomHumidity].Nodup ∧
      ∃ e, pacMetrics.resolveTelemetryMetrics ["roomTemp", "fan_speed"] = .error e := by
  have hok : pacMetrics.resolveTelemetryMetrics
      ["roomTemp", "pac_room_humidity", "room_temperature"] =
        .ok (["pac_room_temperature", "pac_room_humidity", "pac_room_temperature"],
          [pacRoomTemperature, pacRoomHumidity]) := by decide
  have hmissing : ∃ code ∈ ["roomTemp", "fan_speed"], pacMetrics.resolved code = none := by
    decide
  exact ⟨hok, ((pacMetrics.resolveTelemetryMetrics_spec _).2.2 _ _ hok).1,
    (pacMetrics.resolveTelemetryMetrics_spec _).1.mpr hmissing⟩

end DcimBackend
