import DcimBackend.Alerts.Models
import DcimBackend.Reports.Ranges

/-!
# The range of a history query

`TelemetryPointHistoryQuerySerializer.validate` (`apps/telemetry/serializers.py`).  Its
`_parse_history_datetime` is a second parser beside that of the reports, and like that one moves
an end to the end of its day only where `parse_datetime` refuses the text.

`dateOnly_ranges` says what both make of a date alone.

The errors keep the classes apart that Django tells apart: a message by field ends in an answer,
and what no handler expects in none.  Their order is that of the source, so the first check that
fails decides.
-/

namespace DcimBackend

open Library

/-- The attributes of a query, after the checks of its fields. -/
structure HistoryQuery where
  device : DeviceId
  metric : Option String := none
  metricCode : Option String := none
  dateFrom : Option String := none
  dateTo : Option String := none
  timeGte : Option String := none
  timeLte : Option String := none

/-- What `validate` adds to the attributes. -/
structure HistoryRange where
  metric : MetricDefinition
  startDt : DateTime
  endDt : DateTime

/-- Why there is no answer to a query. -/
inductive HistoryError
  /-- `serializers.ValidationError`. -/
  | invalid (errors : FieldErrors)
  /-- `ValueError` of `parse_datetime` and `parse_date`. -/
  | value (message : String)
  /-- `OverflowError`: a date leaves the years 1 to 9999. -/
  | overflow
  /-- `serializers.ValidationError` of a field that is written, with its messages alone. -/
  | detail (messages : List String)

/-- A message about the query as a whole. -/
def HistoryError.nonField (message : String) : HistoryError :=
  .invalid [("non_field_errors", [message])]

/-- Where a query is validated.  A text that is no key raises. -/
structure HistorySetup where
  parser : DateParser
  metrics : Table MetricDefinition
  metricKey : String → Option MetricId

/-- `a or b`, of texts. -/
def orText (a b : Option String) : Option String := (a.filter (· ≠ "")).or b

namespace HistorySetup

variable (setup : HistorySetup)

/-- The result of a parser. -/
def parsed {α : Type} : Except String α → Except HistoryError α
  | .ok value => .ok value
  | .error message => .error (.value message)

/-- `_parse_history_datetime`. -/
def parseHistoryDatetime (raw : Option String) (endOfDay : Bool) :
    Except HistoryError (Option DateTime) :=
  match raw with
  | none | some "" => .ok none
  | some text => do
      match ← parsed (setup.parser.parseDatetime text) with
      | some value => return some (makeAware value)
      | none =>
          match ← parsed (setup.parser.parseDate text) with
          | some value => return some (makeAware (combineRange value endOfDay))
          | none =>
              throw (.nonField
                ("Invalid datetime value: " ++ setup.parser.repr (.scalar (.text text))))

/-- The metric of a query, by its code or else by its key. -/
def findMetric (value : String) : Except HistoryError MetricDefinition :=
  match setup.metrics.rows.find? fun metric => metric.code = value with
  | some metric => .ok metric
  | none =>
      match setup.metricKey value with
      | none => .error (.nonField ("“" ++ value ++ "” is not a valid UUID."))
      | some id =>
          match setup.metrics.find id with
          | some metric => .ok metric
          | none => .error (.invalid [("metric", ["Unknown telemetry metric."])])

/-- `now - timedelta(hours=24)`. -/
def dayBefore (now : DateTime) : Except HistoryError DateTime :=
  match now.date.prev with
  | some date => .ok { now with date := date }
  | none => .error .overflow

/-- The two ends of a query, by default the last day. -/
def endsOf (now : DateTime) : Option DateTime → Option DateTime →
    Except HistoryError (DateTime × DateTime)
  | none, none => do return (← dayBefore now, now)
  | some startDt, some endDt => .ok (startDt, endDt)
  | _, _ =>
      .error (.nonField "Both date_from and date_to are required when range is not provided.")

/-- `validate`. -/
def validate (query : HistoryQuery) (now : DateTime) : Except HistoryError HistoryRange := do
  let metricValue := (orText query.metricCode (orText query.metric none)).getD "ups_load_percent"
  let metric ← setup.findMetric (pyStrip metricValue)
  let startDt ← setup.parseHistoryDatetime (orText query.dateFrom query.timeGte) false
  let endDt ← setup.parseHistoryDatetime (orText query.dateTo query.timeLte) true
  let ends ← endsOf now startDt endDt
  if ends.2.instant < ends.1.instant then
    throw (.nonField "date_from must be earlier than or equal to date_to.")
  return { metric := metric, startDt := ends.1, endDt := ends.2 }

/-! ### Accepted queries -/

variable {setup} {query : HistoryQuery} {now : DateTime} {range : HistoryRange} {d : Date}

/-- What an accepted query is made of. -/
theorem validate_ok (h : setup.validate query now = .ok range) :
    ∃ startDt endDt,
      setup.parseHistoryDatetime (orText query.dateFrom query.timeGte) false = .ok startDt ∧
      setup.parseHistoryDatetime (orText query.dateTo query.timeLte) true = .ok endDt ∧
      (startDt = none ∧ endDt = none ∨
        startDt = some range.startDt ∧ endDt = some range.endDt) ∧
      range.startDt.instant ≤ range.endDt.instant := by
  obtain ⟨metric, hmetric, h⟩ := bind_eq_ok_iff.mp h
  obtain ⟨startDt, hstart, h⟩ := bind_eq_ok_iff.mp h
  obtain ⟨endDt, hend, h⟩ := bind_eq_ok_iff.mp h
  obtain ⟨ends, hends, h⟩ := bind_eq_ok_iff.mp h
  refine ⟨startDt, endDt, hstart, hend, ?_⟩
  split at h
  · cases h
  · rename_i hordered
    obtain rfl := Except.ok.inj h
    refine ⟨?_, not_lt.mp hordered⟩
    unfold endsOf at hends
    split at hends
    · exact Or.inl ⟨rfl, rfl⟩
    · obtain rfl := Except.ok.inj hends
      exact Or.inr ⟨rfl, rfl⟩
    · cases hends

theorem isoformat_ne_empty : d.isoformat ≠ "" := by
  intro h
  have hread := readDate_isoformat d
  rw [h] at hread
  cases hread

/-- A date alone is a midnight, at either end. -/
theorem parseHistoryDatetime_isoformat (hparser : setup.parser.Documented) (endOfDay : Bool) :
    setup.parseHistoryDatetime (some d.isoformat) endOfDay = .ok (some (midnight d)) := by
  unfold parseHistoryDatetime
  split
  · rename_i hnone
    cases hnone
  · rename_i hempty
    exact absurd (Option.some.inj hempty) isoformat_ne_empty
  · rename_i text _ htext
    obtain rfl := Option.some.inj htext
    rw [hparser d]
    rfl

theorem orText_isoformat (b : Option String) :
    orText (some d.isoformat) b = some d.isoformat := by
  unfold orText
  rw [Option.filter_some_pos (by simpa using isoformat_ne_empty)]
  rfl

theorem end_of_isoformat (hparser : setup.parser.Documented)
    (hvalue : query.dateTo = some d.isoformat) (h : setup.validate query now = .ok range) :
    range.endDt = midnight d := by
  obtain ⟨startDt, endDt, -, hend, hgiven, -⟩ := validate_ok h
  rw [hvalue, orText_isoformat, parseHistoryDatetime_isoformat hparser] at hend
  obtain rfl := Except.ok.inj hend
  rcases hgiven with ⟨-, hnone⟩ | ⟨-, hsome⟩
  · cases hnone
  · exact (Option.some.inj hsome).symm

theorem start_of_isoformat (hparser : setup.parser.Documented)
    (hvalue : query.dateFrom = some d.isoformat) (h : setup.validate query now = .ok range) :
    range.startDt = midnight d := by
  obtain ⟨startDt, endDt, hstart, -, hgiven, -⟩ := validate_ok h
  rw [hvalue, orText_isoformat, parseHistoryDatetime_isoformat hparser] at hstart
  obtain rfl := Except.ok.inj hstart
  rcases hgiven with ⟨hnone, -⟩ | ⟨hsome, -⟩
  · cases hnone
  · exact (Option.some.inj hsome).symm

end HistorySetup

/-! ### Dates alone, in both parsers -/

/-- **A date alone never covers its day as an end**, and always does as a start: in the parameters
of a report and in a history query. -/
theorem dateOnly_ranges {setup : HistorySetup} (hparser : setup.parser.Documented) (d : Date) :
    (∀ parameters required range,
      getParameterValue parameters ["date_to", "end_date"] =
          some (.scalar (.text d.isoformat)) →
        setup.parser.parseReportDateRange parameters required = .ok range →
          ∃ e, range.2 = some e ∧ ¬CoversEnd d e) ∧
      (∀ parameters required range,
        getParameterValue parameters ["date_from", "start_date"] =
            some (.scalar (.text d.isoformat)) →
          setup.parser.parseReportDateRange parameters required = .ok range →
            ∃ s, range.1 = some s ∧ CoversStart d s) ∧
      (∀ query now range, query.dateTo = some d.isoformat →
        setup.validate query now = .ok range → ¬CoversEnd d range.endDt) ∧
      ∀ query now range, query.dateFrom = some d.isoformat →
        setup.validate query now = .ok range → CoversStart d range.startDt := by
  refine ⟨?_, ?_, ?_, ?_⟩
  · intro parameters required range hvalue h
    exact ⟨midnight d, DateParser.end_of_isoformat hparser hvalue h, not_coversEnd_midnight⟩
  · intro parameters required range hvalue h
    exact ⟨midnight d, DateParser.start_of_isoformat hparser hvalue h, coversStart_midnight⟩
  · intro query now range hvalue h
    rw [HistorySetup.end_of_isoformat hparser hvalue h]
    exact not_coversEnd_midnight
  · intro query now range hvalue h
    rw [HistorySetup.start_of_isoformat hparser hvalue h]
    exact coversStart_midnight

/-- The parser of dates, and one metric. -/
def isoSetup : HistorySetup where
  parser := isoParser
  metrics := .ofRows [{ id := 1, code := "ups_load_percent" }]
  metricKey _ := none

/-- The last of January 2024. -/
def january31 : Date := ⟨2024, 1, 31, by decide⟩

theorem dateOnly_ranges_january31 :
    (∀ parameters required range,
      getParameterValue parameters ["date_to", "end_date"] =
          some (.scalar (.text january31.isoformat)) →
        isoSetup.parser.parseReportDateRange parameters required = .ok range →
          ∃ e, range.2 = some e ∧ ¬CoversEnd january31 e) ∧
      (∀ parameters required range,
        getParameterValue parameters ["date_from", "start_date"] =
            some (.scalar (.text january31.isoformat)) →
          isoSetup.parser.parseReportDateRange parameters required = .ok range →
            ∃ s, range.1 = some s ∧ CoversStart january31 s) ∧
      (∀ query now range, query.dateTo = some january31.isoformat →
        isoSetup.validate query now = .ok range → ¬CoversEnd january31 range.endDt) ∧
      ∀ query now range, query.dateFrom = some january31.isoformat →
        isoSetup.validate query now = .ok range → CoversStart january31 range.startDt :=
  dateOnly_ranges documented_isoParser january31

/-- A report to the last of January ends as that day begins. -/
theorem january31_not_covered :
    ¬∀ e, isoParser.parseReportDateRange
        [("date_to", .scalar (.text january31.isoformat))] = .ok (none, some e) →
      CoversEnd january31 e := by
  intro h
  exact not_coversEnd_midnight (h (midnight january31) rfl)

end DcimBackend
