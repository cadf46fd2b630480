import DcimBackend.Alerts.Models
import DcimBackend.Reports.Models
import DcimBackend.Reports.Ranges

/-!
# The parameters of a report

How `apps/reports/services/generator.py` reads the parameters of a job and the configuration of
its template: lists of texts, choices of an enumeration, booleans, and the length of a range of
dates.  A parameter that is missing, `None` or empty is not given.

What is raised is its text: it becomes the error message of the job, whatever its class.
-/

namespace DcimBackend

open Library

/-- What the reports use of Python, Django and PostgreSQL. -/
structure ReportEnv where
  py : PyText
  parser : DateParser
  /-- `UUIDField.to_python`: the key that a value stands for, or the text of the
  `ValidationError`. -/
  readKey : Json → Except String ℕ
  /-- `str` of a key. -/
  keyText : ℕ → String
  /-- The addresses that equal a text as addresses, or the text of the error in the database. -/
  matchAddress : String → Except String (String → Bool)
  /-- The order of texts in the database. -/
  collate : String → String → Bool
  /-- `timezone.localtime(value).strftime("%Y-%m-%d %H:%M")`, unless it raises. -/
  strftime : Instant → Option String
  /-- `value.isoformat(timespec="minutes")`, unless it raises. -/
  isoMinutes : Instant → Option String
  /-- `str` of a `datetime`. -/
  strTime : Instant → String

/-- `d.get(key)`. -/
def Dict.get (d : Dict) (key : String) : Json := (d.lookup key).getD (.scalar .none)

/-- `value if isinstance(value, dict) else {}`. -/
def Json.orEmpty : Json → Dict
  | .object fields => fields
  | _ => []

namespace ReportEnv

variable (env : ReportEnv)

/-- `str(value)`. -/
def str : Json → String
  | .scalar value => env.py.str value
  | value => env.parser.repr value

/-- `int(value)`, or nothing for what raises `TypeError` or `ValueError`.  A JSON column holds no
infinity. -/
def int : Json → Option ℤ
  | .scalar (.bool value) => some (if value then 1 else 0)
  | .scalar (.int value) => some value
  | .scalar (.float (.finite value)) => some (value.num.tdiv value.den)
  | .scalar (.text text) => env.py.int text
  | _ => none

/-- `normalize_key`. -/
def normalizeKey (value : Json) : String :=
  DcimBackend.normalizeKey env.py.lower (if value.truthy then env.str value else "")

/-- `str(value).replace(";", ",").split(",")`. -/
def splitList (text : String) : List String :=
  ((text.toList.map fun c => if c = ';' then ',' else c).splitOn ',').map String.ofList

/-- `_normalize_list`. -/
def normalizeList (value : Json) : List String :=
  let rawValues :=
    match value with
    | .scalar .none | .scalar (.text "") => []
    | .array items => items.map env.str
    | value => splitList (env.str value)
  ((rawValues.map pyStrip).filter fun item => item ≠ "").eraseDups

/-- The choice that a value stands for: the last one with its key, as in a `dict`. -/
def lookupChoice (choices : List String) (value : String) : Option String :=
  choices.reverse.find? fun choice =>
    env.normalizeKey (.scalar (.text choice)) = env.normalizeKey (.scalar (.text value))

/-- The loop of `_normalize_choice_values`. -/
def chooseValues (choices : List String) (fieldName : String) :
    List String → List String → Except String (List String)
  | [], normalized => .ok normalized
  | value :: values, normalized =>
      match env.lookupChoice choices value with
      | some choice =>
          if choice = "" then .error ("Invalid " ++ fieldName ++ " value: " ++ value)
          else
            chooseValues choices fieldName values
              (if choice ∈ normalized then normalized else normalized ++ [choice])
      | none => .error ("Invalid " ++ fieldName ++ " value: " ++ value)

/-- `_normalize_choice_values`. -/
def normalizeChoiceValues (value : Json) (choices : List String) (fieldName : String) :
    Except String (List String) :=
  env.chooseValues choices fieldName (env.normalizeList value) []

/-- `_normalize_bool`. -/
def normalizeBool (value : Json) (fieldName : String) : Except String (Option Bool) :=
  let invalid := .error ("Invalid " ++ fieldName ++ " value: " ++ env.str value)
  match value with
  | .scalar .none | .scalar (.text "") => .ok none
  | .scalar (.bool value) => .ok (some value)
  | .scalar (.int value) =>
      if value = 0 then .ok (some false) else if value = 1 then .ok (some true) else invalid
  | .scalar (.float value) =>
      if value = .finite 0 then .ok (some false)
      else if value = .finite 1 then .ok (some true)
      else invalid
  | .scalar (.text text) =>
      let normalized := env.py.lower (pyStrip text)
      if normalized ∈ ["true", "1", "yes", "y", "on"] then .ok (some true)
      else if normalized ∈ ["false", "0", "no", "n", "off"] then .ok (some false)
      else invalid
  | _ => invalid

/-- `timedelta(days=days)`, in microseconds.  `days` is positive. -/
def timedeltaDays (days : ℤ) : Except String ℤ :=
  if 2147483647 < days then .error "Python int too large to convert to C int"
  else if 999999999 < days then
    .error ("days=" ++ toString days ++ "; must have magnitude <= 999999999")
  else .ok (days * dayMicros)

/-- `validate_max_date_range`. -/
def validateMaxDateRange (range : Option DateTime × Option DateTime) (templateConfig : Dict)
    (defaultDays : ℤ := 90) : Except String Unit :=
  match range with
  | (some dateFrom, some dateTo) =>
      let maxDays :=
        match templateConfig.lookup "max_date_range_days" with
        | some value => (env.int value).getD defaultDays
        | none => defaultDays
      if maxDays ≤ 0 then .ok ()
      else do
        let longest ← timedeltaDays maxDays
        if longest < dateTo.instant - dateFrom.instant then
          throw ("Date range cannot exceed " ++ toString maxDays ++ " days.")
  | _ => .ok ()

/-- `_resolve_metric_codes`. -/
def resolveMetricCodes (parameters : Dict) (required : Bool := false) :
    Except String (List String) := do
  let codes := env.normalizeList (parameters.get "metric_codes")
  if required && codes.isEmpty then throw "metric_codes is required."
  return codes

/-- The codes in a list: `str(code).strip()` of each, unless it is empty. -/
def listedCodes : Json → List String
  | .array items => (items.map fun item => pyStrip (env.str item)).filter fun code => code ≠ ""
  | _ => []

end ReportEnv

end DcimBackend
