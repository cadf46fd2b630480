import DcimBackend.Reports.Schedule

/-!
# Date ranges

`parse_report_date_range` (`apps/reports/services/generator.py`): the range of a report, from the
texts of its parameters.

A text is read by Django's `parse_datetime`, and by `parse_date` only if that refuses it; the end
of a range is moved to the end of the day in the second case only.  What is documented of
`parse_datetime` is that it begins with `datetime.fromisoformat`, which reads a date alone as its
midnight.
-/

namespace DcimBackend

open Library

/-! ### Dates as texts -/

/-- `time.min`. -/
def TimeOfDay.min : TimeOfDay := ⟨0, by decide⟩

/-- `time.max`. -/
def TimeOfDay.max : TimeOfDay := ⟨dayMicros - 1, by decide⟩

/-- Two digits. -/
def twoDigits (n : ℕ) : List Char := [Nat.digitChar (n / 10), Nat.digitChar (n % 10)]

/-- `date.isoformat()`. -/
def Library.Date.isoformat (d : Date) : String :=
  String.ofList (twoDigits (d.year.toNat / 100) ++ twoDigits (d.year.toNat % 100) ++
    '-' :: twoDigits d.month.toNat ++ '-' :: twoDigits d.day.toNat)

/-- `django.utils.dateparse`, which raises `ValueError` for a text that is well formatted and
means no date, and `repr`. -/
structure DateParser where
  parseDatetime : String → Except String (Option PyDateTime)
  parseDate : String → Except String (Option Date)
  repr : Json → String

/-- What is documented of `parse_datetime`: a date alone is read as its midnight. -/
def DateParser.Documented (parser : DateParser) : Prop :=
  ∀ d : Date, parser.parseDatetime d.isoformat = .ok (some (.naive ⟨d, .min⟩))

/-! ### `parse_report_date_range` -/

/-- What `_parse_range_value` may be given. -/
inductive RangeValue
  | datetime (value : PyDateTime)
  | date (value : Date)
  | json (value : Json)

/-- `datetime.combine(value, time.max if is_end else time.min)`. -/
def combineRange (d : Date) (isEnd : Bool) : PyDateTime :=
  .naive ⟨d, if isEnd then .max else .min⟩

/-- `_get_parameter_value`. -/
def getParameterValue (parameters : Dict) (keys : List String) : Option Json :=
  keys.findSome? fun key =>
    match parameters.lookup key with
    | none | some (.scalar .none) | some (.scalar (.text "")) => none
    | some value => some value

namespace DateParser

variable (parser : DateParser)

/-- `_parse_range_value`. -/
def parseRangeValue (raw : RangeValue) (isEnd : Bool) : Except String DateTime :=
  match raw with
  | .datetime value => .ok (makeAware value)
  | .date value => .ok (makeAware (combineRange value isEnd))
  | .json (.scalar (.text text)) => do
      match ← parser.parseDatetime text with
      | some value => return makeAware value
      | none =>
          match ← parser.parseDate text with
          | some value => return makeAware (combineRange value isEnd)
          | none => throw ("Invalid date value: " ++ parser.repr (.scalar (.text text)))
  | .json value => throw ("Invalid date value: " ++ parser.repr value)

/-- An end of a range, if it is given. -/
def parseRangeValue? (raw : Option Json) (isEnd : Bool) : Except String (Option DateTime) :=
  match raw with
  | some value => do return some (← parser.parseRangeValue (.json value) isEnd)
  | none => .ok none

/-- `parse_report_date_range`. -/
def parseReportDateRange (parameters : Dict) (required : Bool := false) :
    Except String (Option DateTime × Option DateTime) := do
  let startValue := getParameterValue parameters ["date_from", "start_date"]
  let endValue := getParameterValue parameters ["date_to", "end_date"]
  if startValue.isNone && endValue.isNone then
    if required then throw "date_from and date_to are required."
    return (none, none)
  if required && (startValue.isNone || endValue.isNone) then
    throw "date_from and date_to are required."
  let startDt ← parser.parseRangeValue? startValue false
  let endDt ← parser.parseRangeValue? endValue true
  if startDt.any fun s => endDt.any fun e => e.instant < s.instant then
    throw "Invalid date range: date_from/start_date must be earlier than date_to/end_date."
  return (startDt, endDt)

/-- `_apply_date_range`, on rows with a time. -/
def applyDateRange {ρ : Type} (time : ρ → ℤ) (rows : List ρ) (parameters : Dict) :
    Except String (List ρ) := do
  let (startDt, endDt) ← parser.parseReportDateRange parameters
  let rows := rows.filter fun row => startDt.all fun s => s.instant ≤ time row
  return rows.filter fun row => endDt.all fun e => time row ≤ e.instant

end DateParser

/-! ### Dates alone -/

/-- The midnight that begins a date. -/
def midnight (d : Date) : DateTime := makeAware (.naive ⟨d, .min⟩)

/-- The instants of a date, in the current time zone. -/
def OnDay (d : Date) (t : ℤ) : Prop :=
  (midnight d).instant ≤ t ∧ t < (midnight d).instant + dayMicros

/-- Nothing of the date is after an end. -/
def CoversEnd (d : Date) (e : DateTime) : Prop := ∀ t, OnDay d t → t ≤ e.instant

/-- Nothing of the date is before a start. -/
def CoversStart (d : Date) (s : DateTime) : Prop := ∀ t, OnDay d t → s.instant ≤ t

variable {d : Date} {parser : DateParser}

theorem coversStart_midnight : CoversStart d (midnight d) := fun _ h => h.1

/-- All of a date but its first instant is after its midnight. -/
theorem not_coversEnd_midnight : ¬CoversEnd d (midnight d) := by
  intro h
  have hday : OnDay d ((midnight d).instant + 1) := by
    unfold OnDay dayMicros
    omega
  have hle := h _ hday
  omega

namespace DateParser

/-- A date alone is a midnight, at either end of a range. -/
theorem parseRangeValue_isoformat (hparser : parser.Documented) (isEnd : Bool) :
    parser.parseRangeValue (.json (.scalar (.text d.isoformat))) isEnd = .ok (midnight d) := by
  unfold parseRangeValue
  simp only [hparser d]
  rfl

theorem parseRangeValue?_isoformat (hparser : parser.Documented) {isEnd : Bool}
    {value : Option DateTime}
    (h : parser.parseRangeValue? (some (.scalar (.text d.isoformat))) isEnd = .ok value) :
    value = some (midnight d) := by
  unfold parseRangeValue? at h
  simp only [parseRangeValue_isoformat hparser] at h
  exact (Except.ok.inj h).symm

/-- What an accepted range is made of. -/
theorem parseReportDateRange_ok {parameters : Dict} {required : Bool}
    {startDt endDt : Option DateTime}
    (h : parser.parseReportDateRange parameters required = .ok (startDt, endDt)) :
    parser.parseRangeValue? (getParameterValue parameters ["date_from", "start_date"]) false =
        .ok startDt ∧
      parser.parseRangeValue? (getParameterValue parameters ["date_to", "end_date"]) true =
        .ok endDt := by
  unfold parseReportDateRange at h
  generalize getParameterValue parameters ["date_from", "start_date"] = startValue at h ⊢
  generalize getParameterValue parameters ["date_to", "end_date"] = endValue at h ⊢
  dsimp only at h
  split at h
  · -- neither end is given
    rename_i hnone
    simp only [Bool.and_eq_true, Option.isNone_iff_eq_none] at hnone
    obtain ⟨rfl, rfl⟩ := hnone
    split at h
    · cases h
    · obtain ⟨rfl, rfl⟩ := Prod.mk.inj (Except.ok.inj h)
      exact ⟨rfl, rfl⟩
  · split at h
    · cases h
    · obtain ⟨readStart, hstart, h⟩ := bind_eq_ok_iff.mp h
      obtain ⟨readEnd, hend, h⟩ := bind_eq_ok_iff.mp h
      split at h
      · cases h
      · obtain ⟨rfl, rfl⟩ := Prod.mk.inj (Except.ok.inj h)
        exact ⟨hstart, hend⟩

/-- A range that ends on a date alone ends with its midnight. -/
theorem end_of_isoformat (hparser : parser.Documented) {parameters : Dict} {required : Bool}
    {range : Option DateTime × Option DateTime}
    (hvalue : getParameterValue parameters ["date_to", "end_date"] =
      some (.scalar (.text d.isoformat)))
    (h : parser.parseReportDateRange parameters required = .ok range) :
    range.2 = some (midnight d) := by
  have hend := (parseReportDateRange_ok h).2
  rw [hvalue] at hend
  exact parseRangeValue?_isoformat hparser hend

/-- A range that starts on a date alone starts with its midnight. -/
theorem start_of_isoformat (hparser : parser.Documented) {parameters : Dict} {required : Bool}
    {range : Option DateTime × Option DateTime}
    (hvalue : getParameterValue parameters ["date_from", "start_date"] =
      some (.scalar (.text d.isoformat)))
    (h : parser.parseReportDateRange parameters required = .ok range) :
    range.1 = some (midnight d) := by
  have hstart := (parseReportDateRange_ok h).1
  rw [hvalue] at hstart
  exact parseRangeValue?_isoformat hparser hstart

end DateParser

/-! ### A parser of dates -/

/-- The number of two digits. -/
def readTwo (tens ones : Char) : Option ℕ :=
  if tens.isDigit && ones.isDigit then some (10 * (tens.toNat - 48) + (ones.toNat - 48)) else none

/-- A date alone. -/
def readDate (text : String) : Option Date :=
  match text.toList with
  | [a, b, c, d, '-', e, f, '-', g, h] => do
      let century ← readTwo a b
      let year ← readTwo c d
      let month ← readTwo e f
      let day ← readTwo g h
      Date.mk? (100 * century + year) month day
  | _ => none

/-- The parser that reads dates alone. -/
def isoParser : DateParser where
  parseDatetime text := .ok ((readDate text).map fun d => .naive ⟨d, .min⟩)
  parseDate text := .ok (readDate text)
  repr _ := ""

theorem readTwo_twoDigits : ∀ n < 100, readTwo (Nat.digitChar (n / 10)) (Nat.digitChar (n % 10)) =
    some n := by
  decide

theorem readDate_isoformat (d : Date) : readDate d.isoformat = some d := by
  have hyear := d.isDate.year_bounds
  have hmonth := d.isDate.month_bounds
  have hday := d.isDate.day_bounds
  have hlong := (daysInMonth_bounds d.year d.month).2
  unfold readDate Date.isoformat
  rw [String.toList_ofList]
  simp only [twoDigits, List.cons_append, List.nil_append]
  rw [readTwo_twoDigits _ (by omega), readTwo_twoDigits _ (by omega),
    readTwo_twoDigits _ (by omega), readTwo_twoDigits _ (by omega)]
  have hnumber : (100 * (d.year.toNat / 100 : ℕ) + (d.year.toNat % 100 : ℕ) : ℤ) = d.year := by
    omega
  show Date.mk? (100 * (d.year.toNat / 100 : ℕ) + (d.year.toNat % 100 : ℕ)) d.month.toNat
    d.day.toNat = some d
  rw [hnumber, Int.toNat_of_nonneg (by omega), Int.toNat_of_nonneg (by omega), Date.mk?,
    dif_pos d.isDate]

theorem documented_isoParser : isoParser.Documented := by
  intro d
  show Except.ok ((readDate d.isoformat).map _) = _
  rw [readDate_isoformat]
  rfl

end DcimBackend
