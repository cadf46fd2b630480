import DcimBackend.Collectors.Columns

/-!
# When a raw text becomes a value

`parse_snmp_raw_value` and `apply_scale_offset` return a value with a property exactly if
`Normalizes` holds of the raw text, the mapping and the property: the conditions of the branches,
on the decimal that the raw text is and on its scaled one, without the exceptions.

With it, `snmpPayload_ok_iff` says which raw texts come to their columns.

The conditions are about the rational number that a decimal is, and not about the text or the
exponent with which it is written, so that the exceptions of `decimal`, of `int` and of `float`
can be told apart by size alone.  NaNs and infinities are cases of their own: they pass some
branches, and raise in others.

`Normalizes` is stated for an arbitrary property of the value, since a text may be read and still
not come to its column: `snmpPayload_ok_iff` takes `Storable` for it, and `Collectors.Integers`
`PyValue.RoundsToBigint`.
-/

namespace DcimBackend

open Library

/-- How a mapping reads a raw text. -/
inductive MappingKind
  | text
  | boolean
  | integer
  | float
deriving DecidableEq

/-- The kind of a data type. -/
def mappingKind (py : PyStrings) (mappingDataType : String) : MappingKind :=
  let dataType := normalizeTypeLabel py mappingDataType
  if dataType = "" ∨ dataType ∈ textMappingTypes then .text
  else if dataType ∈ boolMappingTypes then .boolean
  else if dataType ∈ numericMappingTypes then
    if dataType ∈ integerMappingTypes then .integer else .float
  else .text

/-- An integer if the number is one, and else its nearest float. -/
def PyValue.ofRat (q : ℚ) : PyValue := if q.den = 1 then .int q.num else .float (.ofRat q)

/-- A decimal becomes an integer or a float with the property. -/
def PyDecimal.Converts (P : PyValue → Prop) : PyDecimal → Prop
  | .finite q => P (.ofRat q)
  | .nan => P (.float .nan)
  | .infinity _ | .snan => False

section Conversions

variable (py : PyStrings) (P : PyValue → Prop)

/-- A raw text is read as a value with the property. -/
def RawConverts (rawText : String) : MappingKind → Prop
  | .text => P (.text rawText)
  | .boolean => P (.bool (coerceBool py (.scalar (.text rawText))))
  | .integer =>
      match PyDecimal.ofText rawText with
      | none => P (.text rawText)
      | some numeric => numeric.Converts P
  | .float =>
      match PyDecimal.ofText rawText with
      | none => P (.text rawText)
      | some numeric => ∃ x, numeric.toFloat = .ok x ∧ P (.float x)

/-- A value is scaled to one with the property.  A boolean is one under the identity, and else
a number, for which nothing is caught. -/
def ScaleConverts (scaleFactor offsetValue : PyDecimal) (value : PyValue) : Prop :=
  match value with
  | .none | .text _ => P value
  | .bool b =>
      if scaleFactor = .finite 1 ∧ offsetValue = .finite 0 then P value
      else ∃ numeric, (PyDecimal.finite (if b then 1 else 0)).scaled scaleFactor offsetValue =
        .ok numeric ∧ numeric.Converts P
  | .int _ | .float _ =>
      match (FinalValue.scalar value).toDecimal py >>= fun numeric =>
        numeric.scaled scaleFactor offsetValue with
      | .ok numeric => numeric.Converts P
      | .error e => e.isCaught ∧ P value

/-- A raw text comes to a final value with the property. -/
def Normalizes (rawText mappingDataType : String) (scaleFactor offsetValue : PyDecimal) : Prop :=
  RawConverts py (ScaleConverts py P scaleFactor offsetValue) rawText
    (mappingKind py mappingDataType)

end Conversions

section Rules

variable {py : PyStrings} {P : PyValue → Prop} {rawText mappingDataType : String}
  {scaleFactor offsetValue numeric : PyDecimal} {value : PyValue}

/-! ### Integers and floats -/

theorem halfEven_eq_iff {q : ℚ} : (halfEven q : ℚ) = q ↔ q.den = 1 := by
  constructor
  · intro h
    rw [← h]
    exact Rat.den_intCast _
  · intro h
    rw [← (Rat.den_eq_one_iff q).mp h, halfEven_intCast]

theorem PyValue.ofRat_intCast {n : ℤ} : PyValue.ofRat n = .int n := by
  rw [PyValue.ofRat, if_pos (Rat.den_intCast n), Rat.num_intCast]

theorem intOrFloat_finite {q : ℚ} : (PyDecimal.finite q).intOrFloat = .ok (.ofRat q) := by
  have hif : (PyDecimal.finite q).intOrFloat =
      if decide (PyDecimal.finite q = .finite (halfEven q)) then .ok (.int (truncate q))
      else .ok (.float (.ofRat q)) := rfl
  rw [hif, PyValue.ofRat]
  by_cases hq : q.den = 1
  · have hnum : (q.num : ℚ) = q := (Rat.den_eq_one_iff q).mp hq
    rw [if_pos hq, if_pos (decide_eq_true (by rw [halfEven_eq_iff.mpr hq]))]
    nth_rewrite 1 [← hnum]
    rw [truncate_intCast]
  · rw [if_neg hq, if_neg]
    rw [decide_eq_true_eq]
    intro heq
    exact hq (halfEven_eq_iff.mp (PyDecimal.finite.inj heq).symm)

theorem exists_intOrFloat_iff :
    (∃ value, numeric.intOrFloat = .ok value ∧ P value) ↔ numeric.Converts P := by
  cases numeric with
  | finite q => simp [intOrFloat_finite, PyDecimal.Converts]
  | nan =>
      have hnan : PyDecimal.nan.intOrFloat = .ok (.float .nan) := rfl
      simp [hnan, PyDecimal.Converts]
  | infinity negative =>
      have hraises : (PyDecimal.infinity negative).intOrFloat = .error .overflowError := by
        cases negative <;> rfl
      simp [hraises, PyDecimal.Converts]
  | snan =>
      have hraises : PyDecimal.snan.intOrFloat = .error .invalidOperation := rfl
      simp [hraises, PyDecimal.Converts]

/-! ### The two steps -/

theorem exists_parse_iff :
    (∃ value, parseSnmpRawValue py rawText mappingDataType = .ok value ∧ P value) ↔
      RawConverts py P rawText (mappingKind py mappingDataType) := by
  unfold parseSnmpRawValue mappingKind
  dsimp only
  split
  · simp [RawConverts]
  split
  · simp [RawConverts]
  split
  · cases htext : PyDecimal.ofText rawText with
    | none =>
        dsimp only
        split <;> simp [RawConverts, htext]
    | some numeric =>
        dsimp only
        split
        · simp only [RawConverts, htext]
          exact exists_intOrFloat_iff
        · simp only [RawConverts, htext]
          cases numeric.toFloat <;> simp
  · simp [RawConverts]

/-- The text of a finite decimal under an integer mapping. -/
theorem parseSnmpRawValue_integer {q : ℚ} (hkind : mappingKind py mappingDataType = .integer)
    (htext : PyDecimal.ofText rawText = some (.finite q)) :
    parseSnmpRawValue py rawText mappingDataType = .ok (.ofRat q) := by
  have hparse := @exists_parse_iff py (· = .ofRat q) rawText mappingDataType
  simp only [hkind, RawConverts, htext, PyDecimal.Converts] at hparse
  obtain ⟨value, hvalue, rfl⟩ := hparse.mpr trivial
  exact hvalue

/-- The text of a finite decimal under a float mapping. -/
theorem parseSnmpRawValue_float {q : ℚ} (hkind : mappingKind py mappingDataType = .float)
    (htext : PyDecimal.ofText rawText = some (.finite q)) :
    parseSnmpRawValue py rawText mappingDataType = .ok (.float (.ofRat q)) := by
  have hparse := @exists_parse_iff py (· = .float (.ofRat q)) rawText mappingDataType
  simp only [hkind, RawConverts, htext] at hparse
  obtain ⟨value, hvalue, rfl⟩ := hparse.mpr ⟨.ofRat q, rfl, rfl⟩
  exact hvalue

/-- What follows a decimal that is computed. -/
theorem exists_bind_intOrFloat_iff {x : Except NumberError PyDecimal} :
    (∃ value, (x >>= PyDecimal.intOrFloat) = .ok value ∧ P value) ↔
      ∃ numeric, x = .ok numeric ∧ numeric.Converts P := by
  simp only [bind_eq_ok_iff, ← exists_intOrFloat_iff]
  constructor
  · rintro ⟨value, ⟨numeric, hnumeric, hvalue⟩, hP⟩
    exact ⟨numeric, hnumeric, value, hvalue, hP⟩
  · rintro ⟨numeric, hnumeric, value, hvalue, hP⟩
    exact ⟨value, ⟨numeric, hnumeric, hvalue⟩, hP⟩

/-- Only a signalling NaN is not to be compared with a number. -/
theorem eq_finite {q : ℚ} (h : numeric ≠ .snan) :
    numeric.eq (.finite q) = .ok (decide (numeric = .finite q)) := by
  cases numeric with
  | snan => exact absurd rfl h
  | nan => simp [PyDecimal.eq]
  | _ => rfl

theorem scaled_snan_left {offset : PyDecimal} :
    numeric.scaled .snan offset = .error .invalidOperation := by
  cases numeric <;> rfl

theorem scaled_snan_right {scale : PyDecimal} {result : PyDecimal} :
    numeric.scaled scale .snan ≠ .ok result := by
  intro h
  obtain ⟨product, -, hsum⟩ := bind_eq_ok_iff.mp h
  cases product <;> cases hsum

theorem exists_applyScaleOffset_iff :
    (∃ final, applyScaleOffset py value scaleFactor offsetValue = .ok final ∧ P final) ↔
      ScaleConverts py P scaleFactor offsetValue value := by
  unfold applyScaleOffset ScaleConverts
  split
  case h_1 => simp
  case h_2 b =>
    dsimp only
    generalize PyDecimal.finite (if b then 1 else 0) = bit
    by_cases hscale : scaleFactor = .snan
    · subst hscale
      rw [if_neg (by simp), scaled_snan_left]
      simp [PyDecimal.eq, bind, Except.bind]
    rw [eq_finite hscale]
    by_cases hone : scaleFactor = .finite 1
    · by_cases hoffset : offsetValue = .snan
      · subst hoffset
        rw [if_neg (by simp)]
        refine iff_of_false ?_ fun ⟨_, hscaled, _⟩ => scaled_snan_right hscaled
        simp [hone, PyDecimal.eq, bind, Except.bind]
      rw [eq_finite hoffset]
      by_cases hzero : offsetValue = .finite 0
      · rw [if_pos ⟨hone, hzero⟩]
        simp [hone, hzero, bind, Except.bind, pure, Except.pure]
      · rw [if_neg fun h => hzero h.2, decide_eq_true hone, decide_eq_false hzero]
        exact exists_bind_intOrFloat_iff
    · rw [if_neg fun h => hone h.1, decide_eq_false hone]
      exact exists_bind_intOrFloat_iff
  -- integers and floats
  case h_3 | h_4 =>
    generalize ((FinalValue.scalar _).toDecimal py >>= fun numeric =>
      numeric.scaled scaleFactor offsetValue) = x
    cases x with
    | ok numeric => exact exists_intOrFloat_iff
    | error e => cases hcaught : e.isCaught <;> simp [hcaught]
  case h_5 => simp

/-- A number whose decimal is scaled to a finite one. -/
theorem applyScaleOffset_of_scaled {q : ℚ} (hvalue : (∃ n, value = .int n) ∨ ∃ x, value = .float x)
    (hdecimal : (FinalValue.scalar value).toDecimal py = .ok numeric)
    (hscaled : numeric.scaled scaleFactor offsetValue = .ok (.finite q)) :
    applyScaleOffset py value scaleFactor offsetValue = .ok (.ofRat q) := by
  have hfinal : ∃ final, applyScaleOffset py value scaleFactor offsetValue = .ok final ∧
      final = .ofRat q := by
    rw [exists_applyScaleOffset_iff]
    rcases hvalue with ⟨n, rfl⟩ | ⟨x, rfl⟩
    · simp only [ScaleConverts, hdecimal, bind, Except.bind, hscaled]
      rfl
    · simp only [ScaleConverts, hdecimal, bind, Except.bind, hscaled]
      rfl
  obtain ⟨final, hfinal, rfl⟩ := hfinal
  exact hfinal

/-- `parse_snmp_raw_value` and `apply_scale_offset` come to a value with the property. -/
theorem exists_final_iff :
    (∃ final, (parseSnmpRawValue py rawText mappingDataType >>= fun parsedValue =>
        applyScaleOffset py parsedValue scaleFactor offsetValue) = .ok final ∧ P final) ↔
      Normalizes py P rawText mappingDataType scaleFactor offsetValue := by
  unfold Normalizes
  rw [← exists_parse_iff]
  simp only [bind_eq_ok_iff, ← exists_applyScaleOffset_iff]
  constructor
  · rintro ⟨final, ⟨parsed, hparsed, hfinal⟩, hP⟩
    exact ⟨parsed, hparsed, final, hfinal, hP⟩
  · rintro ⟨parsed, hparsed, final, hfinal, hP⟩
    exact ⟨final, ⟨parsed, hparsed, hfinal⟩, hP⟩

theorem normalizes_iff_of_final {final : PyValue}
    (h : (parseSnmpRawValue py rawText mappingDataType >>= fun parsedValue =>
      applyScaleOffset py parsedValue scaleFactor offsetValue) = .ok final) :
    Normalizes py P rawText mappingDataType scaleFactor offsetValue ↔ P final := by
  rw [← exists_final_iff, h]
  simp

/-! ### No missing value -/

theorem ofRat_ne_none {q : ℚ} : PyValue.ofRat q ≠ .none := by
  unfold PyValue.ofRat
  split <;> simp

theorem not_converts_none : ¬numeric.Converts (· = .none) := by
  intro h
  cases numeric with
  | finite q => exact ofRat_ne_none h
  | nan => cases h
  | infinity negative => exact h
  | snan => exact h

/-- A raw text is read as some value. -/
theorem parseSnmpRawValue_ne_none
    (h : parseSnmpRawValue py rawText mappingDataType = .ok value) : value ≠ .none := by
  intro hnone
  have hread := (exists_parse_iff (P := (· = .none))).mp ⟨value, h, hnone⟩
  generalize mappingKind py mappingDataType = kind at hread
  cases kind with
  | text => cases hread
  | boolean => cases hread
  | integer =>
      simp only [RawConverts] at hread
      split at hread
      · cases hread
      · exact not_converts_none hread
  | float =>
      simp only [RawConverts] at hread
      split at hread
      · cases hread
      · obtain ⟨_, -, hfloat⟩ := hread
        cases hfloat

/-- A value is scaled to some value. -/
theorem applyScaleOffset_ne_none {final : PyValue} (hvalue : value ≠ .none)
    (h : applyScaleOffset py value scaleFactor offsetValue = .ok final) : final ≠ .none := by
  intro hnone
  have hscaled := (exists_applyScaleOffset_iff (P := (· = .none))).mp ⟨final, h, hnone⟩
  cases value with
  | none => exact hvalue rfl
  | text text => cases hscaled
  | bool b =>
      simp only [ScaleConverts] at hscaled
      split at hscaled
      · cases hscaled
      · obtain ⟨_, -, hconverts⟩ := hscaled
        exact not_converts_none hconverts
  | int _ | float _ =>
      simp only [ScaleConverts] at hscaled
      split at hscaled
      · exact not_converts_none hscaled
      · cases hscaled.2

/-! ### What reaches its column -/

/-- The value can be stored for the metric: an integer may be too large for a float, and for a
text. -/
def Storable : MetricDataType → PyValue → Prop
  | .float, .int n => |(n : ℚ)| < 2 ^ 1024 - 2 ^ 970
  | .integer, .int n | .text, .int n => n.natAbs < 10 ^ intMaxStrDigits
  | _, _ => True

theorem str_int_ok {n : ℤ} (hn : n.natAbs < 10 ^ intMaxStrDigits) :
    (FinalValue.scalar (.int n)).str py = .ok (py.str (.int n)) := by
  simp only [FinalValue.str, if_pos hn]

theorem str_int_error {n : ℤ} (hn : ¬n.natAbs < 10 ^ intMaxStrDigits) :
    (FinalValue.scalar (.int n)).str py = .error .valueError := by
  simp only [FinalValue.str, if_neg hn]

/-- `Decimal(str(n))`. -/
theorem toDecimal_int (hpy : py.Documented) {n : ℤ} (hn : n.natAbs < 10 ^ intMaxStrDigits) :
    (FinalValue.scalar (.int n)).toDecimal py = .ok (.finite n) := by
  have hstr : (FinalValue.scalar (.int n)).str py = .ok (toString n) := by
    rw [str_int_ok hn, hpy.str_int]
  simp only [FinalValue.toDecimal, hstr, bind, Except.bind, decimalOfText, ofText_toString hn]

/-- Only the text of an integer is limited. -/
theorem exists_storedText_iff :
    (∃ payload, storedText py (.scalar value) = .ok payload) ↔ Storable .text value := by
  have htext : (∃ payload, storedText py (.scalar value) = .ok payload) ↔
      ∃ text, (FinalValue.scalar value).str py = .ok text := by
    simp only [storedText_ok_iff]
    exact ⟨fun ⟨_, text, htext, _⟩ => ⟨text, htext⟩, fun ⟨text, htext⟩ => ⟨_, text, htext, rfl⟩⟩
  rw [htext]
  cases value with
  | int n =>
      by_cases hn : n.natAbs < 10 ^ intMaxStrDigits
      · exact iff_of_true ⟨_, str_int_ok hn⟩ hn
      · refine iff_of_false ?_ hn
        rintro ⟨text, htext⟩
        rw [str_int_error hn] at htext
        cases htext
  | _ => exact iff_of_true ⟨_, rfl⟩ trivial

theorem isCaught_str {finalValue : FinalValue} {e : NumberError}
    (h : finalValue.str py = .error e) : e.isCaught := by
  unfold FinalValue.str at h
  split at h
  · cases h
  · split at h
    · cases h
    · obtain rfl := Except.error.inj h
      rfl
  · cases h

theorem isCaught_decimalOfText {text : String} {e : NumberError}
    (h : decimalOfText text = .error e) : e.isCaught := by
  unfold decimalOfText at h
  split at h
  · cases h
  · obtain rfl := Except.error.inj h
    rfl

/-- What the conversion to a decimal raises is caught. -/
theorem isCaught_toDecimal {finalValue : FinalValue} {e : NumberError}
    (h : finalValue.toDecimal py = .error e) : e.isCaught := by
  unfold FinalValue.toDecimal at h
  split at h
  · cases h
  · cases h
  · obtain hstr | ⟨text, -, h⟩ := bind_eq_error_iff.mp h
    · exact isCaught_str hstr
    · exact isCaught_decimalOfText h

/-- What rounding to an integer raises is caught. -/
theorem isCaught_storedInteger {finalValue : FinalValue} {e : NumberError}
    (h : storedInteger py finalValue = .error e) : e.isCaught := by
  rw [storedInteger_eq] at h
  obtain hdecimal | ⟨numeric, -, hrounded⟩ := bind_eq_error_iff.mp h
  · exact isCaught_toDecimal hdecimal
  · unfold PyDecimal.rounded at hrounded
    split at hrounded
    · split at hrounded
      · cases hrounded
      · obtain rfl := Except.error.inj hrounded
        rfl
    all_goals
      obtain rfl := Except.error.inj hrounded
      rfl

/-- An integer with too many digits has no decimal. -/
theorem storable_of_storedInteger {n : ℤ} (h : storedInteger py (.scalar value) = .ok n) :
    Storable .text value := by
  obtain ⟨q, hdecimal, -⟩ := storedInteger_ok_iff.mp h
  cases value with
  | int m =>
      refine not_not.mp fun hm => ?_
      obtain ⟨text, hstr, -⟩ := bind_eq_ok_iff.mp hdecimal
      rw [str_int_error hm] at hstr
      cases hstr
  | _ => exact trivial

theorem exists_store_iff {metricDataType : MetricDataType} :
    (∃ payload, storeValueByMetricType py metricDataType (.scalar value) = .ok payload) ↔
      Storable metricDataType value := by
  unfold storeValueByMetricType
  by_cases hnone : FinalValue.scalar value = .scalar .none
  · rw [if_pos hnone]
    obtain rfl := FinalValue.scalar.inj hnone
    exact iff_of_true ⟨_, rfl⟩ (by cases metricDataType <;> trivial)
  rw [if_neg hnone]
  cases metricDataType with
  | boolean => exact iff_of_true ⟨_, rfl⟩ (by cases value <;> trivial)
  | text => exact exists_storedText_iff
  | integer =>
      have hsame : Storable .integer value ↔ Storable .text value := by cases value <;> rfl
      rw [hsame]
      dsimp only
      cases hstored : storedInteger py (.scalar value) with
      | ok n => exact iff_of_true ⟨_, rfl⟩ (storable_of_storedInteger hstored)
      | error e =>
          simp only [isCaught_storedInteger hstored, if_true]
          exact exists_storedText_iff
  | float =>
      dsimp only
      cases value with
      | int n =>
          have hfinite := PyFloat.isFinite_ofRat_iff (q := n)
          by_cases hn : (PyFloat.ofRat n).isFinite
          · simp only [FinalValue.toFloat, PyFloat.ofInt, if_pos hn]
            exact iff_of_true ⟨_, rfl⟩ (hfinite.mp hn)
          · simp only [FinalValue.toFloat, PyFloat.ofInt, if_neg hn]
            exact iff_of_false (by simp) fun hlt => hn (hfinite.mpr hlt)
      | text text =>
          cases hparse : py.float text with
          | some x =>
              simp only [FinalValue.toFloat, hparse]
              exact iff_of_true ⟨_, rfl⟩ trivial
          | none =>
              simp only [FinalValue.toFloat, hparse]
              exact exists_storedText_iff
      | bool b => exact iff_of_true ⟨_, rfl⟩ trivial
      | float x => exact iff_of_true ⟨_, rfl⟩ trivial
      | none => exact absurd rfl hnone

/-- **A raw text is normalised without an exception** exactly if the conversions of its branch go
through: no signalling NaN, no infinity where an integer is made, no overflow of the context, and
no integer that is too large for the metric. -/
theorem snmpPayload_ok_iff (py : PyStrings) (rawText mappingDataType : String)
    (scaleFactor offsetValue : PyDecimal) (metricDataType : MetricDataType) :
    (∃ payload, snmpPayload py rawText mappingDataType scaleFactor offsetValue metricDataType =
        .ok payload) ↔
      Normalizes py (Storable metricDataType) rawText mappingDataType scaleFactor offsetValue := by
  rw [← exists_final_iff]
  simp only [snmpPayload, bind_eq_ok_iff, ← @exists_store_iff py]
  constructor
  · rintro ⟨payload, parsed, hparsed, final, hfinal, hstored⟩
    exact ⟨final, ⟨parsed, hparsed, hfinal⟩, payload, hstored⟩
  · rintro ⟨final, ⟨parsed, hparsed, hfinal⟩, payload, hstored⟩
    exact ⟨payload, parsed, hparsed, final, hfinal, hstored⟩

/-- An infinity under an integer mapping is not. -/
theorem infinity_raises :
    ¬∀ (rawText mappingDataType : String) (scaleFactor offsetValue : PyDecimal)
      (metricDataType : MetricDataType), ∃ payload,
        snmpPayload asciiStrings rawText mappingDataType scaleFactor offsetValue metricDataType =
          .ok payload := by
  intro hall
  obtain ⟨payload, hpayload⟩ := hall "Infinity" "INTEGER" (.finite 1) (.finite 0) .float
  have hraises : parseSnmpRawValue asciiStrings "Infinity" "INTEGER" = .error .overflowError := by
    decide
  rw [snmpPayload, hraises] at hpayload
  cases hpayload

end Rules

end DcimBackend
