import DcimBackend.Alerts.Models
import DcimBackend.Common.Decimal

/-!
# From a raw value to its columns

`collectors/common/snmp_normalization.py` and `normalize_value` of
`collectors/common/value_converter.py`.

A raw SNMP text becomes a value by the data type of its mapping, is scaled, and is stored in
the column of its metric.  The three functions have an `except` clause each, and none of them
names what `int` of an infinity, `float` of a large integer or an overflow of the decimal
context raises.

An exception is a value of `NumberError`, so an `except` clause is a test on it
(`NumberError.isCaught`), and what it does not name goes on to the caller, as in the source.
-/

namespace DcimBackend

/-- Python's texts, with `str.upper` and `float(text)`, where `none` is `ValueError`. -/
structure PyStrings extends PyText where
  strUpper : String → String
  float : String → Option PyFloat

/-- A value in front of its column: a scalar, or a decimal and its text. -/
inductive FinalValue
  | scalar (value : PyValue)
  | decimal (value : PyDecimal) (text : String)
deriving DecidableEq

/-- `InvalidOperation`, `TypeError` and `ValueError`. -/
def NumberError.isCaught : NumberError → Bool
  | .invalidOperation | .valueError => true
  | .overflow | .overflowError => false

/-- `Decimal(text)`. -/
def decimalOfText (text : String) : Except NumberError PyDecimal :=
  match PyDecimal.ofText text with
  | some numeric => .ok numeric
  | none => .error .invalidOperation

/-- `int(value)` if it is integral, and else `float(value)`. -/
def PyDecimal.intOrFloat (value : PyDecimal) : Except NumberError PyValue := do
  if ← value.eq (← value.toIntegralValue) then
    return .int (← value.toInt)
  return .float (← value.toFloat)

section Values

variable (py : PyStrings)

namespace FinalValue

/-- `str(value)`. -/
def str : FinalValue → Except NumberError String
  | .decimal _ text => .ok text
  | .scalar (.int n) =>
      if n.natAbs < 10 ^ intMaxStrDigits then .ok (py.str (.int n)) else .error .valueError
  | .scalar value => .ok (py.str value)

/-- `_to_decimal`. -/
def toDecimal : FinalValue → Except NumberError PyDecimal
  | .decimal value _ => .ok value
  | .scalar (.bool value) => .ok (.finite (if value then 1 else 0))
  | .scalar value => do decimalOfText (← (FinalValue.scalar value).str py)

/-- `float(value)`. -/
def toFloat : FinalValue → Except NumberError PyFloat
  | .decimal value _ => value.toFloat
  | .scalar (.float value) => .ok value
  | .scalar (.int n) => PyFloat.ofInt n
  | .scalar (.bool value) => .ok (.finite (if value then 1 else 0))
  | .scalar (.text text) =>
      match py.float text with
      | some value => .ok value
      | none => .error .valueError
  | .scalar .none => .error .valueError

end FinalValue

/-! ### The mapping -/

/-- `_normalize_type_label`. -/
def normalizeTypeLabel (value : String) : String := py.strUpper (pyStrip value)

/-- `_NUMERIC_MAPPING_TYPES`. -/
def numericMappingTypes : List String :=
  ["FLOAT", "FLOAT32", "FLOAT64", "INTEGER", "INT", "COUNTER", "GAUGE", "UINT16", "UINT32",
    "INT16", "INT32", "UINT64", "INT64"]

/-- The numeric types whose values are integers. -/
def integerMappingTypes : List String :=
  ["INTEGER", "INT", "COUNTER", "GAUGE", "UINT16", "UINT32", "INT16", "INT32", "UINT64", "INT64"]

/-- `_TEXT_MAPPING_TYPES`. -/
def textMappingTypes : List String := ["TEXT", "STRING", "STR"]

/-- `_BOOL_MAPPING_TYPES`. -/
def boolMappingTypes : List String := ["BOOLEAN", "BOOL"]

/-- `_TRUE_VALUES`. -/
def trueValues : List String := ["1", "true", "yes", "on", "online", "ok", "active"]

/-- `_FALSE_VALUES`. -/
def falseValues : List String := ["0", "false", "no", "off", "offline", "inactive"]

/-- `_coerce_bool`. -/
def coerceBool : FinalValue → Bool
  | .decimal value _ => value.truthy
  | .scalar (.bool value) => value
  | .scalar (.int n) => n ≠ 0
  | .scalar (.float value) => (PyValue.float value).truthy
  | .scalar (.text text) => ofText text
  | .scalar .none => ofText ""
where
  /-- The boolean of a text. -/
  ofText (text : String) : Bool :=
    let text := py.lower (pyStrip text)
    if text ∈ trueValues then true else if text ∈ falseValues then false else text ≠ ""

/-- `parse_snmp_raw_value`. -/
def parseSnmpRawValue (rawText mappingDataType : String) : Except NumberError PyValue :=
  let dataType := normalizeTypeLabel py mappingDataType
  if dataType = "" ∨ dataType ∈ textMappingTypes then .ok (.text rawText)
  else if dataType ∈ boolMappingTypes then .ok (.bool (coerceBool py (.scalar (.text rawText))))
  else if dataType ∈ numericMappingTypes then
    match PyDecimal.ofText rawText with
    | none => .ok (.text rawText)
    | some numeric =>
        if dataType ∈ integerMappingTypes then numeric.intOrFloat
        else .float <$> numeric.toFloat
  else .ok (.text rawText)

/-- `value * scale_factor + offset_value`. -/
def PyDecimal.scaled (value scaleFactor offsetValue : PyDecimal) :
    Except NumberError PyDecimal := do
  (← value.mul scaleFactor).add offsetValue

/-- `apply_scale_offset`. -/
def applyScaleOffset (parsedValue : PyValue) (scaleFactor offsetValue : PyDecimal) :
    Except NumberError PyValue :=
  match parsedValue with
  | .none => .ok .none
  | .bool value => do
      if ← scaleFactor.eq (.finite 1) then
        if ← offsetValue.eq (.finite 0) then
          return .bool value
      (← (PyDecimal.finite (if value then 1 else 0)).scaled scaleFactor offsetValue).intOrFloat
  | .int _ | .float _ =>
      match (do ((← (FinalValue.scalar parsedValue).toDecimal py).scaled scaleFactor offsetValue :
        Except NumberError PyDecimal)) with
      | .ok value => value.intOrFloat
      | .error e => if e.isCaught then .ok parsedValue else .error e
  | .text text => .ok (.text text)

/-! ### The columns -/

/-- The integer that `store_value_by_metric_type` stores. -/
def storedInteger (finalValue : FinalValue) : Except NumberError ℤ := do
  let numeric ← finalValue.toDecimal py
  -- the comparison decides on a warning only
  let _ ← numeric.eq (← numeric.toIntegralValue)
  (← numeric.quantize).toInt

/-- `value_fields["value_text"] = str(final_value)`. -/
def storedText (finalValue : FinalValue) : Except NumberError Reading := do
  return { valueText := some (← finalValue.str py) }

/-- `store_value_by_metric_type`, without a target. -/
def storeValueByMetricType (metricDataType : MetricDataType) (finalValue : FinalValue) :
    Except NumberError Reading :=
  if finalValue = .scalar .none then .ok {}
  else
    match metricDataType with
    | .float =>
        match finalValue.toFloat py with
        | .ok value => .ok { valueFloat := some value }
        | .error .valueError => storedText py finalValue
        | .error e => .error e
    | .integer =>
        match storedInteger py finalValue with
        | .ok value => .ok { valueInteger := some value }
        | .error e => if e.isCaught then storedText py finalValue else .error e
    | .boolean => .ok { valueBoolean := some (coerceBool py finalValue) }
    | .text => storedText py finalValue

/-- What `poll_snmp_device` makes of a raw text. -/
def snmpPayload (rawText mappingDataType : String) (scaleFactor offsetValue : PyDecimal)
    (metricDataType : MetricDataType) : Except NumberError Reading := do
  let parsedValue ← parseSnmpRawValue py rawText mappingDataType
  let finalValue ← applyScaleOffset py parsedValue scaleFactor offsetValue
  storeValueByMetricType py metricDataType (.scalar finalValue)

/-! ### The Modbus path -/

/-- The numeric types of `normalize_value`. -/
def modbusNumericTypes : List String :=
  ["float", "float32", "float64", "integer", "int", "uint16", "int16", "uint32", "int32",
    "counter", "gauge"]

/-- The types of `normalize_value` whose values are integers. -/
def modbusIntegerTypes : List String :=
  ["integer", "int", "uint16", "int16", "uint32", "int32", "counter", "gauge"]

/-- A number in `normalize_value`. -/
def normalizeNumber (rawValue : PyValue) (dataType : String)
    (scaleFactor offsetValue : PyDecimal) : Except NumberError PyValue := do
  let numeric ← decimalOfText (← (FinalValue.scalar rawValue).str py)
  let value ← numeric.scaled scaleFactor offsetValue
  if dataType ∈ modbusIntegerTypes then
    return .int (← value.toInt)
  return .float (← value.toFloat)

/-- `normalize_value`. -/
def normalizeValue (rawValue : PyValue) (dataType : String)
    (scaleFactor offsetValue : PyDecimal) : Except NumberError PyValue :=
  let dataType := py.lower (if dataType = "" then "float" else dataType)
  if rawValue = .none then .ok .none
  else if dataType ∈ modbusNumericTypes then
    match normalizeNumber py rawValue dataType scaleFactor offsetValue with
    | .ok value => .ok value
    | .error e => if e.isCaught then .ok .none else .error e
  else if dataType ∈ ["bool", "boolean"] then
    match rawValue with
    | .text text => .ok (.bool (py.lower (pyStrip text) ∈ trueValues))
    | value => .ok (.bool value.truthy)
  else .text <$> (FinalValue.scalar rawValue).str py

/-- What `poll_modbus_device` makes of a raw value. -/
def modbusPayload (rawValue : PyValue) (mappingDataType : String)
    (scaleFactor offsetValue : PyDecimal) (metricDataType : MetricDataType) :
    Except NumberError Reading := do
  let value ← normalizeValue py rawValue mappingDataType scaleFactor offsetValue
  storeValueByMetricType py metricDataType (.scalar value)

end Values

/-- Python's texts for ASCII. -/
def asciiStrings : PyStrings :=
  { asciiText with
    strUpper := fun text => String.ofList (text.toList.map Char.toUpper)
    float := fun text => (PyDecimal.ofText text).bind fun numeric => numeric.toFloat.toOption }

end DcimBackend
