import DcimBackend.Collectors.Normalization
import DcimBackend.Library.Fallible
import DcimBackend.Telemetry.Latest

/-!
# The columns of a stored value

`store_value_by_metric_type` sets one column: that of the metric, or the text where the value does
not convert.  `_quality_for_metric` stands twice in the code, in the SNMP collector and in the
bulk writer, and reads the metric's column.

`StoredAs` has one case for each metric type and one for what does not convert, so that a reader
sees the whole function at once: which column, which rounding, which quality.  The two copies of
`_quality_for_metric` are compared on every reading that the function makes.
-/

namespace DcimBackend

open Library

/-- The four columns of a value. -/
inductive ValueColumn
  | float
  | integer
  | boolean
  | text
deriving DecidableEq

namespace Reading

variable (payload : Reading)

/-- The column has a value. -/
def IsSet : ValueColumn → Prop
  | .float => payload.valueFloat.isSome
  | .integer => payload.valueInteger.isSome
  | .boolean => payload.valueBoolean.isSome
  | .text => payload.valueText.isSome

/-- Exactly this column has a value. -/
def SetsExactly (column : ValueColumn) : Prop := ∀ other, payload.IsSet other ↔ other = column

end Reading

/-- The column of a metric. -/
def MetricDataType.column : MetricDataType → ValueColumn
  | .float => .float
  | .integer => .integer
  | .boolean => .boolean
  | .text => .text

/-- `_quality_for_metric` of `collectors/snmp_collector/services.py`. -/
def snmpQualityForMetric (metricDataType : MetricDataType) (payload : Reading) :
    TelemetryQuality :=
  if metricDataType = .float ∧ payload.valueFloat = none then .bad
  else if metricDataType = .integer ∧ payload.valueInteger = none then .bad
  else if metricDataType = .boolean ∧ payload.valueBoolean = none then .bad
  else if metricDataType = .text ∧
      (payload.valueText = none ∨ payload.valueText = some "") then .bad
  else .good

/-- The value converts to no value of the metric's column. -/
def FinalValue.NotConvertible (py : PyStrings) (finalValue : FinalValue) :
    MetricDataType → Prop
  | .float => ∀ x, finalValue.toFloat py ≠ .ok x
  | .integer => ∀ q, finalValue.toDecimal py = .ok (.finite q) → 10 ^ 28 ≤ |halfUp q|
  | .boolean | .text => False

section Columns

variable {py : PyStrings} {finalValue : FinalValue} {metricDataType : MetricDataType}
  {payload : Reading}

/-! ### Rounding to the column of integers -/

/-- What `quantize` and `int` make of a decimal. -/
def PyDecimal.rounded : PyDecimal → Except NumberError ℤ
  | .finite q => if |halfUp q| < 10 ^ 28 then .ok (halfUp q) else .error .invalidOperation
  | .nan => .error .valueError
  | .infinity _ | .snan => .error .invalidOperation

theorem storedInteger_eq :
    storedInteger py finalValue = finalValue.toDecimal py >>= PyDecimal.rounded := by
  unfold storedInteger
  rcases finalValue.toDecimal py with e | numeric
  · rfl
  · cases numeric with
    | finite q =>
        show (do (← PyDecimal.quantize (.finite q)).toInt) = PyDecimal.rounded (.finite q)
        by_cases hq : |halfUp q| < 10 ^ 28
        · simp only [PyDecimal.quantize, PyDecimal.rounded, if_pos hq]
          exact congrArg Except.ok truncate_intCast
        · simp only [PyDecimal.quantize, PyDecimal.rounded, if_neg hq]
          rfl
    | infinity negative => rfl
    | nan => rfl
    | snan => rfl

theorem rounded_ok_iff {numeric : PyDecimal} {n : ℤ} :
    numeric.rounded = .ok n ↔
      ∃ q, numeric = .finite q ∧ |halfUp q| < 10 ^ 28 ∧ halfUp q = n := by
  cases numeric with
  | finite q =>
      by_cases hq : |halfUp q| < 10 ^ 28
      · simp only [PyDecimal.rounded, if_pos hq]
        constructor
        · intro h
          exact ⟨q, rfl, hq, Except.ok.inj h⟩
        · rintro ⟨_, ⟨rfl⟩, -, rfl⟩
          rfl
      · simp only [PyDecimal.rounded, if_neg hq]
        refine iff_of_false (by simp) ?_
        rintro ⟨_, ⟨rfl⟩, hlt, -⟩
        exact hq hlt
  | infinity negative => simp [PyDecimal.rounded]
  | nan => simp [PyDecimal.rounded]
  | snan => simp [PyDecimal.rounded]

theorem storedInteger_ok_iff {n : ℤ} :
    storedInteger py finalValue = .ok n ↔
      ∃ q, finalValue.toDecimal py = .ok (.finite q) ∧ |halfUp q| < 10 ^ 28 ∧ halfUp q = n := by
  rw [storedInteger_eq, bind_eq_ok_iff]
  constructor
  · rintro ⟨numeric, hdecimal, hrounded⟩
    obtain ⟨q, rfl, hq⟩ := rounded_ok_iff.mp hrounded
    exact ⟨q, hdecimal, hq⟩
  · rintro ⟨q, hdecimal, hq⟩
    exact ⟨.finite q, hdecimal, rounded_ok_iff.mpr ⟨q, rfl, hq⟩⟩

theorem storedText_ok_iff :
    storedText py finalValue = .ok payload ↔
      ∃ text, finalValue.str py = .ok text ∧ payload = { valueText := some text } := by
  unfold storedText
  rw [bind_eq_ok_iff]
  exact exists_congr fun text => and_congr_right fun _ => ⟨fun h => (Except.ok.inj h).symm,
    fun h => congrArg Except.ok h.symm⟩

/-! ### What is stored -/

/-- A value is stored in the column of the metric, or as a text where it does not convert. -/
inductive StoredAs (py : PyStrings) (finalValue : FinalValue) : MetricDataType → Reading → Prop
  | float {x : PyFloat} (h : finalValue.toFloat py = .ok x) :
      StoredAs py finalValue .float { valueFloat := some x }
  | integer {q : ℚ} (h : finalValue.toDecimal py = .ok (.finite q)) (hlt : |halfUp q| < 10 ^ 28) :
      StoredAs py finalValue .integer { valueInteger := some (halfUp q) }
  | boolean (value : Bool) : StoredAs py finalValue .boolean { valueBoolean := some value }
  | text (text : String) : StoredAs py finalValue .text { valueText := some text }
  | fallback {metricDataType : MetricDataType} (text : String)
      (h : finalValue.NotConvertible py metricDataType) :
      StoredAs py finalValue metricDataType { valueText := some text }

theorem storedAs_of_ok (hvalue : finalValue ≠ .scalar .none)
    (h : storeValueByMetricType py metricDataType finalValue = .ok payload) :
    StoredAs py finalValue metricDataType payload := by
  unfold storeValueByMetricType at h
  rw [if_neg hvalue] at h
  cases metricDataType with
  | float =>
      dsimp only at h
      split at h
      · rename_i x hx
        obtain rfl := Except.ok.inj h
        exact .float hx
      · rename_i hx
        obtain ⟨text, -, rfl⟩ := storedText_ok_iff.mp h
        refine .fallback text fun x hok => ?_
        rw [hx] at hok
        cases hok
      · cases h
  | integer =>
      dsimp only at h
      split at h
      · rename_i n hn
        obtain rfl := Except.ok.inj h
        obtain ⟨q, hdecimal, hlt, rfl⟩ := storedInteger_ok_iff.mp hn
        exact .integer hdecimal hlt
      · rename_i e he
        split at h
        · obtain ⟨text, -, rfl⟩ := storedText_ok_iff.mp h
          refine .fallback text fun q hdecimal => not_lt.mp fun hlt => ?_
          rw [storedInteger_ok_iff.mpr ⟨q, hdecimal, hlt, rfl⟩] at he
          cases he
        · cases h
  | boolean =>
      obtain rfl := Except.ok.inj h
      exact .boolean _
  | text =>
      obtain ⟨text, -, rfl⟩ := storedText_ok_iff.mp h
      exact .text text

theorem setsExactly_float (x : PyFloat) :
    ({ valueFloat := some x } : Reading).SetsExactly .float := by
  intro other
  cases other <;> simp [Reading.IsSet]

theorem setsExactly_integer (n : ℤ) :
    ({ valueInteger := some n } : Reading).SetsExactly .integer := by
  intro other
  cases other <;> simp [Reading.IsSet]

theorem setsExactly_boolean (value : Bool) :
    ({ valueBoolean := some value } : Reading).SetsExactly .boolean := by
  intro other
  cases other <;> simp [Reading.IsSet]

theorem setsExactly_text (text : String) :
    ({ valueText := some text } : Reading).SetsExactly .text := by
  intro other
  cases other <;> simp [Reading.IsSet]

/-- The two functions are one. -/
theorem snmpQualityForMetric_eq :
    snmpQualityForMetric metricDataType payload = qualityForMetric metricDataType payload .good := by
  unfold snmpQualityForMetric qualityForMetric
  cases metricDataType with
  | float => cases payload.valueFloat <;> simp
  | integer => cases payload.valueInteger <;> simp
  | boolean => cases payload.valueBoolean <;> simp
  | text => cases payload.valueText <;> simp

/-- A quality is good if the metric's column is set, and not empty for a text. -/
theorem snmpQualityForMetric_eq_good_iff :
    snmpQualityForMetric metricDataType payload = .good ↔
      payload.IsSet metricDataType.column ∧
        (metricDataType = .text → payload.valueText ≠ some "") := by
  unfold snmpQualityForMetric MetricDataType.column Reading.IsSet
  cases metricDataType with
  | float => cases payload.valueFloat <;> simp
  | integer => cases payload.valueInteger <;> simp
  | boolean => cases payload.valueBoolean <;> simp
  | text => cases payload.valueText <;> simp

/-- **A value is stored in one column**: that of the metric, or the text where it does not
convert.  An integer is the nearest one, ties away from zero, and the two qualities agree: they
are good if the metric's column is set, and not empty for a text. -/
theorem storeValueByMetricType_columns (hvalue : finalValue ≠ .scalar .none)
    (h : storeValueByMetricType py metricDataType finalValue = .ok payload) :
    (¬finalValue.NotConvertible py metricDataType →
        payload.SetsExactly metricDataType.column) ∧
      (finalValue.NotConvertible py metricDataType → payload.SetsExactly .text) ∧
      (metricDataType = .integer → ∀ n, payload.valueInteger = some n →
        ∃ q, finalValue.toDecimal py = .ok (.finite q) ∧ IsNearestAway q n) ∧
      snmpQualityForMetric metricDataType payload =
        qualityForMetric metricDataType payload .good ∧
      (snmpQualityForMetric metricDataType payload = .good ↔
        payload.IsSet metricDataType.column ∧
          (metricDataType = .text → payload.valueText ≠ some "")) := by
  have hstored := storedAs_of_ok hvalue h
  refine ⟨?_, ?_, ?_, snmpQualityForMetric_eq, snmpQualityForMetric_eq_good_iff⟩
  · intro hconvertible
    cases hstored with
    | float hx => exact setsExactly_float _
    | integer hdecimal hlt => exact setsExactly_integer _
    | boolean value => exact setsExactly_boolean value
    | text text => exact setsExactly_text text
    | fallback text hnot => exact absurd hnot hconvertible
  · intro hnot
    cases hstored with
    | float hx => exact absurd hx (hnot _)
    | integer hdecimal hlt => exact absurd hlt (not_lt.mpr (hnot _ hdecimal))
    | boolean value => exact hnot.elim
    | text text => exact hnot.elim
    | fallback text hnot => exact setsExactly_text text
  · rintro rfl n hn
    cases hstored with
    | integer hdecimal hlt =>
        obtain rfl := Option.some.inj hn
        exact ⟨_, hdecimal, isNearestAway_halfUp⟩
    | fallback text hnot => cases hn

/-- The decimal 2.5 is stored as the integer 3. -/
theorem storeValueByMetricType_columns_tie :
    ({ valueInteger := some 3 } : Reading).SetsExactly .integer ∧
      ∃ q, (FinalValue.decimal (.finite (5 / 2)) "2.5").toDecimal asciiStrings = .ok (.finite q) ∧
        IsNearestAway q 3 := by
  have hround : halfUp (5 / 2 : ℚ) = 3 := by
    rw [halfUp, if_pos (by norm_num), Int.floor_eq_iff]
    norm_num
  have hstored : storedInteger asciiStrings (.decimal (.finite (5 / 2)) "2.5") = .ok 3 :=
    storedInteger_ok_iff.mpr ⟨5 / 2, rfl, by rw [hround]; norm_num, hround⟩
  have hcolumns := @storeValueByMetricType_columns asciiStrings
    (.decimal (.finite (5 / 2)) "2.5") .integer { valueInteger := some 3 } (by simp) (by
      unfold storeValueByMetricType
      rw [if_neg (by simp)]
      simp only [hstored])
  refine ⟨hcolumns.1 fun hnot => ?_, hcolumns.2.2.1 rfl 3 rfl⟩
  have hlarge := hnot (5 / 2) rfl
  rw [hround] at hlarge
  norm_num at hlarge

end Columns

end DcimBackend
