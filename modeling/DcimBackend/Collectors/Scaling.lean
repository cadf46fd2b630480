import DcimBackend.Collectors.Integers
import DcimBackend.Collectors.Registers
import Mathlib

/-!
# Two scalings of a register

A raw register value is scaled by `normalize_value` on the Modbus path, and by
`parse_snmp_raw_value` and `apply_scale_offset` on the SNMP path.  Both compute
`raw * scale + offset` in decimal arithmetic, but `normalize_value` takes `int` of the result for
the integer data types.

Both paths compute in the same context, so a scaled decimal that is rounded is rounded alike.
They part at the `int` of the Modbus path.  What it cuts off is compared as the column keeps it,
by the nearest floats: a fraction that is too small for a float is lost on the other path as well.
-/

namespace DcimBackend

open Library

/-- What is documented of Python's texts, with those of upper cases and of integral floats. -/
structure PyStrings.AreDocumented (py : PyStrings) : Prop where
  documented : py.toPyText.Documented
  strUpper_ascii : ∀ text : String, (∀ c ∈ text.toList, c.toNat < 128) →
    py.strUpper text = String.ofList (text.toList.map Char.toUpper)
  /-- A float has an exponent in its text from `1e16`. -/
  str_integral : ∀ n : ℤ, |n| < 10 ^ 16 → py.str (.float (.finite n)) = toString n ++ ".0"

theorem areDocumented_asciiStrings : asciiStrings.AreDocumented where
  documented := documented_asciiText
  strUpper_ascii _ _ := rfl
  str_integral n _ := by
    show toString (n : ℚ).num ++ ".0" = toString n ++ ".0"
    rw [Rat.num_intCast]

/-- The float types of `normalize_value`. -/
def modbusFloatTypes : List String := ["float", "float32", "float64"]

/-- **Both paths store the scaled decimal**, as its nearest float. -/
def ScaleAlike (py : PyStrings) (raw : ℤ) (mappingDataType : String)
    (scaleFactor offsetValue : ℚ) : Prop :=
  ∃ v : ℚ,
    (PyDecimal.finite raw).scaled (.finite scaleFactor) (.finite offsetValue) = .ok (.finite v) ∧
    modbusPayload py (.int raw) mappingDataType (.finite scaleFactor) (.finite offsetValue) .float =
      .ok { valueFloat := some (.ofRat v) } ∧
    snmpPayload py (toString raw) mappingDataType (.finite scaleFactor) (.finite offsetValue)
      .float = .ok { valueFloat := some (.ofRat v) }

section Scaling

variable {py : PyStrings} {raw : ℤ} {mappingDataType : String} {scaleFactor offsetValue v : ℚ}

/-! ### The data type -/

/-- A type that both collectors accept is an ASCII text without spaces. -/
theorem of_asciiLower_mem (htype : asciiLower mappingDataType ∈ modbusNumericTypes) :
    ∀ c ∈ mappingDataType.toList, c.toNat < 128 ∧ pyStrip.isSpace c = false := by
  intro c hc
  have halnum : c.isAlphanum := by
    by_cases hupper : c.isUpper
    · simp [Char.isAlphanum, Char.isAlpha, hupper]
    · have hlower : c.toLower ∈ (asciiLower mappingDataType).toList := by
        rw [asciiLower, String.toList_ofList]
        exact List.mem_map_of_mem hc
      rw [Char.toLower_eq_of_not_isUpper hupper] at hlower
      have htypes : modbusNumericTypes.all fun t => t.toList.all Char.isAlphanum := by decide
      exact List.all_eq_true.mp (List.all_eq_true.mp htypes _ htype) c hlower
  have hrange : 48 ≤ c.toNat ∧ c.toNat ≤ 122 := by
    simp [Char.isAlphanum, Char.isAlpha, Char.isUpper, Char.isLower, Char.isDigit,
      UInt32.le_iff_toNat_le] at halnum
    omega
  refine ⟨by omega, ?_⟩
  simp only [pyStrip.isSpace, decide_eq_false_iff_not, List.mem_cons, List.not_mem_nil, or_false]
  omega

theorem lower_eq (hpy : py.AreDocumented)
    (htype : asciiLower mappingDataType ∈ modbusNumericTypes) :
    py.lower mappingDataType = asciiLower mappingDataType :=
  hpy.documented.lower_ascii _ fun c hc => (of_asciiLower_mem htype c hc).1

/-- The SNMP path reads the type in upper case. -/
theorem normalizeTypeLabel_eq (hpy : py.AreDocumented)
    (htype : asciiLower mappingDataType ∈ modbusNumericTypes) :
    normalizeTypeLabel py mappingDataType =
      String.ofList ((asciiLower mappingDataType).toList.map Char.toUpper) := by
  have hascii := of_asciiLower_mem htype
  rw [normalizeTypeLabel, pyStrip_eq_self fun c hc => (hascii c hc).2,
    hpy.strUpper_ascii _ fun c hc => (hascii c hc).1, asciiLower, String.toList_ofList,
    List.map_map]
  congr 2
  funext c
  exact c.toUpper_toLower_eq_toUpper.symm

theorem mappingKind_eq (hpy : py.AreDocumented)
    (htype : asciiLower mappingDataType ∈ modbusNumericTypes) :
    mappingKind py mappingDataType =
      if asciiLower mappingDataType ∈ modbusFloatTypes then .float else .integer := by
  unfold mappingKind
  rw [normalizeTypeLabel_eq hpy htype]
  generalize asciiLower mappingDataType = t at htype
  revert t
  decide

/-! ### The register -/

/-- A register value that is an integer has at most 32 bits. -/
theorem abs_lt_of_decodeRegisters {dataType : String} {registers : List (BitVec 16)}
    (h : Collectors.decodeRegisters dataType registers = .ok (.int raw)) : |raw| < 2 ^ 32 := by
  rw [abs_lt]
  unfold Collectors.decodeRegisters at h
  split at h
  · obtain ⟨word, -, hword⟩ := bind_eq_ok_iff.mp h
    obtain rfl := PyValue.int.inj (Except.ok.inj hword)
    omega
  split at h
  · obtain ⟨word, -, hword⟩ := bind_eq_ok_iff.mp h
    obtain rfl := PyValue.int.inj (Except.ok.inj hword)
    split <;> omega
  split at h
  · split at h
    · rename_i high low _
      have hraw : high.toNat <<< 16 + low.toNat < 2 ^ 32 := by
        rw [Nat.shiftLeft_eq]
        omega
      dsimp only at h
      split at h
      · cases h
      · obtain rfl := PyValue.int.inj (Except.ok.inj h)
        split <;> omega
    · cases h
  · obtain ⟨word, -, hword⟩ := bind_eq_ok_iff.mp h
    obtain rfl := PyValue.int.inj (Except.ok.inj hword)
    omega

/-- A number of the format with at most 32 bits in front of its point is a float. -/
theorem ofRat_of_small {q : ℚ} (h : binary64.Contains q) (hq : |q| < 2 ^ 32) :
    PyFloat.ofRat q = .finite q := by
  refine PyFloat.ofRat_of_contains h ?_
  calc |q| < (binary64.base : ℚ) ^ (32 : ℤ) := by exact_mod_cast hq
    _ ≤ binary64.bound :=
        zpow_le_zpow_right₀ (Nat.one_le_cast.mpr binary64.one_lt_base.le) (by decide)

theorem ofRat_intCast (hraw : |raw| < 2 ^ 32) : PyFloat.ofRat raw = .finite raw := by
  have hprecision : |raw| < (binary64.base : ℤ) ^ binary64.precision :=
    hraw.trans (by norm_num [binary64])
  exact ofRat_of_small (FloatFormat.contains_intCast hprecision (by decide)) (by exact_mod_cast hraw)

/-- The number that the SNMP path reads has the decimal of the register. -/
theorem exists_parse (hpy : py.AreDocumented) (hraw : |raw| < 2 ^ 32)
    (htype : asciiLower mappingDataType ∈ modbusNumericTypes) :
    ∃ value, parseSnmpRawValue py (toString raw) mappingDataType = .ok value ∧
      ((∃ n, value = .int n) ∨ ∃ x, value = .float x) ∧
      (FinalValue.scalar value).toDecimal py = .ok (.finite raw) := by
  have hdigits := natAbs_lt_of_abs_lt (hraw.trans (by norm_num))
  have htext := ofText_toString hdigits
  have hkind := mappingKind_eq hpy htype
  by_cases hfloat : asciiLower mappingDataType ∈ modbusFloatTypes
  · rw [if_pos hfloat] at hkind
    refine ⟨_, parseSnmpRawValue_float hkind htext, .inr ⟨_, rfl⟩, ?_⟩
    rw [ofRat_intCast hraw]
    simp only [FinalValue.toDecimal, FinalValue.str, hpy.str_integral _ (hraw.trans (by norm_num)),
      bind, Except.bind, decimalOfText, ofText_toString_point hdigits]
  · rw [if_neg hfloat] at hkind
    refine ⟨_, parseSnmpRawValue_integer hkind htext, .inl ⟨raw, PyValue.ofRat_intCast⟩, ?_⟩
    rw [PyValue.ofRat_intCast]
    exact toDecimal_int hpy.documented hdigits

/-! ### What each path stores -/

theorem storeFloat_int_iff {n : ℤ} {payload : Reading} :
    storeValueByMetricType py .float (.scalar (.int n)) = .ok payload ↔
      (PyFloat.ofRat n).isFinite ∧ payload = { valueFloat := some (.ofRat n) } := by
  unfold storeValueByMetricType
  rw [if_neg (by simp)]
  by_cases hfinite : (PyFloat.ofRat n).isFinite
  · simp only [FinalValue.toFloat, PyFloat.ofInt, if_pos hfinite]
    rw [and_iff_right hfinite, Except.ok.injEq, eq_comm]
  · simp only [FinalValue.toFloat, PyFloat.ofInt, if_neg hfinite]
    exact iff_of_false (by simp) fun h => hfinite h.1

/-- What is scaled is a result of the context. -/
theorem exists_ofContext (hscaled : (PyDecimal.finite raw).scaled (.finite scaleFactor)
    (.finite offsetValue) = .ok (.finite v)) : ∃ q, PyDecimal.ofContext q = .ok (.finite v) := by
  obtain ⟨product, hproduct, hsum⟩ := bind_eq_ok_iff.mp hscaled
  obtain ⟨-, rfl⟩ := PyDecimal.ofContext_eq_ok_iff.mp hproduct
  exact ⟨_, hsum⟩

/-- The SNMP path stores the scaled decimal, where that is a float. -/
theorem snmpPayload_eq_iff (hpy : py.AreDocumented) (hraw : |raw| < 2 ^ 32)
    (htype : asciiLower mappingDataType ∈ modbusNumericTypes)
    (hscaled : (PyDecimal.finite raw).scaled (.finite scaleFactor) (.finite offsetValue) =
      .ok (.finite v)) :
    snmpPayload py (toString raw) mappingDataType (.finite scaleFactor) (.finite offsetValue)
        .float = .ok { valueFloat := some (.ofRat v) } ↔ (PyFloat.ofRat v).isFinite := by
  obtain ⟨value, hparse, hnumber, hdecimal⟩ := exists_parse hpy hraw htype
  have hfinal := applyScaleOffset_of_scaled hnumber hdecimal hscaled
  have hpayload : snmpPayload py (toString raw) mappingDataType (.finite scaleFactor)
      (.finite offsetValue) .float =
        storeValueByMetricType py .float (.scalar (.ofRat v)) := by
    simp only [snmpPayload, hparse, hfinal, bind, Except.bind]
  rw [hpayload]
  by_cases hv : v.den = 1
  · obtain ⟨n, rfl⟩ : ∃ n : ℤ, v = n := ⟨v.num, ((Rat.den_eq_one_iff v).mp hv).symm⟩
    rw [PyValue.ofRat_intCast, storeFloat_int_iff, and_iff_left rfl]
  · obtain ⟨q, hq⟩ := exists_ofContext hscaled
    rw [PyValue.ofRat, if_neg hv]
    exact iff_of_true rfl (PyDecimal.isFinite_of_ofContext hq hv)

/-- The Modbus path truncates the scaled decimal for the integer types. -/
theorem normalizeValue_eq (hpy : py.AreDocumented) (hraw : |raw| < 2 ^ 32)
    (htype : asciiLower mappingDataType ∈ modbusNumericTypes)
    (hscaled : (PyDecimal.finite raw).scaled (.finite scaleFactor) (.finite offsetValue) =
      .ok (.finite v)) :
    normalizeValue py (.int raw) mappingDataType (.finite scaleFactor) (.finite offsetValue) =
      .ok (if asciiLower mappingDataType ∈ modbusFloatTypes then .float (.ofRat v)
        else .int (truncate v)) := by
  have hdigits := natAbs_lt_of_abs_lt (hraw.trans (by norm_num))
  have hstr : (FinalValue.scalar (.int raw)).str py = .ok (toString raw) := by
    rw [str_int_ok hdigits, hpy.documented.str_int]
  have hlower : py.lower (if mappingDataType = "" then "float" else mappingDataType) =
      asciiLower mappingDataType := by
    rw [if_neg, lower_eq hpy htype]
    rintro rfl
    exact absurd htype (by decide)
  have hkind : asciiLower mappingDataType ∈ modbusIntegerTypes ↔
      asciiLower mappingDataType ∉ modbusFloatTypes := by
    generalize asciiLower mappingDataType = t at htype
    revert t
    decide
  have hnumber : normalizeNumber py (.int raw) (asciiLower mappingDataType) (.finite scaleFactor)
      (.finite offsetValue) =
        .ok (if asciiLower mappingDataType ∈ modbusFloatTypes then .float (.ofRat v)
          else .int (truncate v)) := by
    simp only [normalizeNumber, hstr, decimalOfText, ofText_toString hdigits, hscaled, bind,
      Except.bind]
    by_cases hfloat : asciiLower mappingDataType ∈ modbusFloatTypes
    · rw [if_neg fun h => hkind.mp h hfloat, if_pos hfloat]
      rfl
    · rw [if_pos (hkind.mpr hfloat), if_neg hfloat]
      rfl
  unfold normalizeValue
  rw [hlower]
  dsimp only
  rw [if_neg (by simp), if_pos htype, hnumber]

theorem modbusPayload_eq_iff (hpy : py.AreDocumented) (hraw : |raw| < 2 ^ 32)
    (htype : asciiLower mappingDataType ∈ modbusNumericTypes)
    (hscaled : (PyDecimal.finite raw).scaled (.finite scaleFactor) (.finite offsetValue) =
      .ok (.finite v)) (hfinite : (PyFloat.ofRat v).isFinite) :
    modbusPayload py (.int raw) mappingDataType (.finite scaleFactor) (.finite offsetValue)
        .float = .ok { valueFloat := some (.ofRat v) } ↔
      asciiLower mappingDataType ∈ modbusFloatTypes ∨
        PyFloat.ofRat (truncate v) = PyFloat.ofRat v := by
  have hpayload : modbusPayload py (.int raw) mappingDataType (.finite scaleFactor)
      (.finite offsetValue) .float =
        storeValueByMetricType py .float (.scalar
          (if asciiLower mappingDataType ∈ modbusFloatTypes then .float (.ofRat v)
            else .int (truncate v))) := by
    simp only [modbusPayload, normalizeValue_eq hpy hraw htype hscaled, bind, Except.bind]
  rw [hpayload]
  by_cases hfloat : asciiLower mappingDataType ∈ modbusFloatTypes
  · rw [if_pos hfloat]
    exact iff_of_true rfl (.inl hfloat)
  · rw [if_neg hfloat, storeFloat_int_iff, or_iff_right hfloat]
    constructor
    · rintro ⟨-, hsame⟩
      exact (Option.some.inj (congrArg Reading.valueFloat hsame)).symm
    · intro hsame
      exact ⟨hsame ▸ hfinite, by rw [hsame]⟩

/-- Of the scaled decimal, both paths store the nearest float for the float types, and where
truncation does not change that float. -/
theorem scaleAlike_iff_of_lt (hpy : py.AreDocumented) (hraw : |raw| < 2 ^ 32)
    (htype : asciiLower mappingDataType ∈ modbusNumericTypes) :
    ScaleAlike py raw mappingDataType scaleFactor offsetValue ↔
      ∃ v : ℚ,
        (PyDecimal.finite raw).scaled (.finite scaleFactor) (.finite offsetValue) =
          .ok (.finite v) ∧
        (PyFloat.ofRat v).isFinite ∧
        (asciiLower mappingDataType ∈ modbusFloatTypes ∨
          PyFloat.ofRat (truncate v) = PyFloat.ofRat v) := by
  refine exists_congr fun v => and_congr_right fun hscaled => ?_
  rw [snmpPayload_eq_iff hpy hraw htype hscaled, and_comm]
  exact and_congr_right fun hfinite => modbusPayload_eq_iff hpy hraw htype hscaled hfinite

/-! ### The columns of a mapping -/

/-- The decimals of `DecimalField(max_digits=18, decimal_places=6)`. -/
def IsColumnDecimal (q : ℚ) : Prop := ∃ k : ℤ, q = k * 10 ^ (-6 : ℤ) ∧ |k| < 10 ^ 18

/-- With six decimals, a coefficient of 28 digits is not rounded. -/
theorem ofContext_micro {k : ℤ} (hk : |k| < 10 ^ 28) :
    PyDecimal.ofContext (k * 10 ^ (-6 : ℤ)) = .ok (.finite (k * 10 ^ (-6 : ℤ))) ∧
      |(k : ℚ) * 10 ^ (-6 : ℤ)| < 10 ^ 28 := by
  have hcast : |(k : ℚ)| < 10 ^ 28 := by exact_mod_cast hk
  have hsmall : |(k : ℚ) * 10 ^ (-6 : ℤ)| < 10 ^ 28 := by
    rw [abs_mul, abs_of_pos (a := (10 : ℚ) ^ (-6 : ℤ)) (by positivity)]
    refine lt_of_le_of_lt ?_ hcast
    exact mul_le_of_le_one_right (abs_nonneg _) (by norm_num)
  exact ⟨PyDecimal.ofContext_of_contains ⟨k, -6, rfl, hk, by decide⟩ hsmall, hsmall⟩

/-- A register is scaled by the decimals of a mapping without rounding. -/
theorem scaled_column (hraw : |raw| < 2 ^ 32) (hscale : IsColumnDecimal scaleFactor)
    (hoffset : IsColumnDecimal offsetValue) :
    (PyDecimal.finite raw).scaled (.finite scaleFactor) (.finite offsetValue) =
        .ok (.finite (raw * scaleFactor + offsetValue)) ∧
      (PyFloat.ofRat (raw * scaleFactor + offsetValue)).isFinite := by
  obtain ⟨j, rfl, hj⟩ := hscale
  obtain ⟨k, rfl, hk⟩ := hoffset
  have hbound : |raw * j| < 2 ^ 32 * 10 ^ 18 := by
    rw [abs_mul]
    exact mul_lt_mul'' hraw hj (abs_nonneg _) (abs_nonneg _)
  have hproduct : (raw : ℚ) * (j * 10 ^ (-6 : ℤ)) = ((raw * j : ℤ) : ℚ) * 10 ^ (-6 : ℤ) := by
    push_cast
    ring
  have hsum : ((raw * j : ℤ) : ℚ) * 10 ^ (-6 : ℤ) + k * 10 ^ (-6 : ℤ) =
      ((raw * j + k : ℤ) : ℚ) * 10 ^ (-6 : ℤ) := by
    push_cast
    ring
  have hfirst := (ofContext_micro (k := raw * j) (by omega)).1
  obtain ⟨hsecond, hsmall⟩ := ofContext_micro (k := raw * j + k) (by
    have := abs_add_le (raw * j) k
    omega)
  rw [hproduct, hsum, PyFloat.isFinite_ofRat_iff]
  refine ⟨?_, hsmall.trans pow_28_lt_largest⟩
  simp only [PyDecimal.scaled, PyDecimal.mul, PyDecimal.add, hproduct, hfirst, hsum, hsecond, bind,
    Except.bind]

/-- For the decimals of a mapping, the two paths scale alike exactly for the float types, and
where truncation does not change the float that is stored. -/
theorem scaleAlike_column_iff (hpy : py.AreDocumented) (hraw : |raw| < 2 ^ 32)
    (htype : asciiLower mappingDataType ∈ modbusNumericTypes)
    (hscale : IsColumnDecimal scaleFactor) (hoffset : IsColumnDecimal offsetValue) :
    ScaleAlike py raw mappingDataType scaleFactor offsetValue ↔
      asciiLower mappingDataType ∈ modbusFloatTypes ∨
        PyFloat.ofRat (truncate (raw * scaleFactor + offsetValue)) =
          PyFloat.ofRat (raw * scaleFactor + offsetValue) := by
  obtain ⟨hscaled, hfinite⟩ := scaled_column hraw hscale hoffset
  rw [scaleAlike_iff_of_lt hpy hraw htype]
  constructor
  · rintro ⟨v, hv, -, halike⟩
    rw [hscaled] at hv
    obtain rfl := PyDecimal.finite.inj (Except.ok.inj hv)
    exact halike
  · intro halike
    exact ⟨_, hscaled, hfinite, halike⟩

/-- **A register is scaled alike on both paths** exactly if its scaled decimal is a finite float,
and either the type is a float type or truncation does not change that float. -/
theorem scaleAlike_register_iff (hpy : py.AreDocumented) {registerType : String}
    {registers : List (BitVec 16)}
    (hregisters : Collectors.decodeRegisters registerType registers = .ok (.int raw))
    (htype : asciiLower mappingDataType ∈ modbusNumericTypes) :
    ScaleAlike py raw mappingDataType scaleFactor offsetValue ↔
      ∃ v : ℚ,
        (PyDecimal.finite raw).scaled (.finite scaleFactor) (.finite offsetValue) =
          .ok (.finite v) ∧
        (PyFloat.ofRat v).isFinite ∧
        (asciiLower mappingDataType ∈ modbusFloatTypes ∨
          PyFloat.ofRat (truncate v) = PyFloat.ofRat v) :=
  scaleAlike_iff_of_lt hpy (abs_lt_of_decodeRegisters hregisters) htype

theorem isColumnDecimal_intCast {n : ℤ} (hn : |n| < 10 ^ 12) : IsColumnDecimal n := by
  refine ⟨n * 10 ^ 6, ?_, ?_⟩
  · push_cast
    norm_num
    ring
  · rw [abs_mul, abs_of_pos (a := (10 ^ 6 : ℤ)) (by norm_num)]
    omega

/-- A register of 215 with a factor of 0.1 and an offset of 0.5 is: the decimal is 22. -/
theorem scaleAlike_register_iff_tenth :
    ScaleAlike asciiStrings 215 "UINT16" (1 / 10) (1 / 2) := by
  have hregisters : Collectors.decodeRegisters "uint16" [215] = .ok (.int 215) := rfl
  obtain ⟨hscaled, hfinite⟩ := @scaled_column 215 (1 / 10) (1 / 2) (by norm_num)
    ⟨10 ^ 5, by norm_num, by norm_num⟩ ⟨5 * 10 ^ 5, by norm_num, by norm_num⟩
  have hvalue : ((215 : ℤ) : ℚ) * (1 / 10) + 1 / 2 = ((22 : ℤ) : ℚ) := by norm_num
  refine (scaleAlike_register_iff areDocumented_asciiStrings hregisters (by decide)).mpr
    ⟨_, hscaled, hfinite, .inr ?_⟩
  rw [hvalue, truncate_intCast]

/-- A register of 215 with a factor of 0.1 is stored as 21 on the Modbus path. -/
theorem register_tenth_truncated :
    ¬∀ (registerType mappingDataType : String) (registers : List (BitVec 16)) (raw : ℤ)
      (scaleFactor offsetValue : ℚ),
        Collectors.decodeRegisters registerType registers = .ok (.int raw) →
        asciiLower mappingDataType ∈ modbusNumericTypes →
        IsColumnDecimal scaleFactor → IsColumnDecimal offsetValue →
          ScaleAlike asciiStrings raw mappingDataType scaleFactor offsetValue := by
  intro hall
  have htenth : IsColumnDecimal (1 / 10) := ⟨10 ^ 5, by norm_num, by norm_num⟩
  have hzero : IsColumnDecimal 0 := by
    exact_mod_cast isColumnDecimal_intCast (n := 0) (by norm_num)
  have halike := hall "uint16" "uint16" [215] 215 (1 / 10) 0 rfl (by decide) htenth hzero
  rw [scaleAlike_column_iff areDocumented_asciiStrings (by norm_num) (by decide) htenth hzero]
    at halike
  rcases halike with hfloat | hsame
  · exact absurd hfloat (by decide)
  · have hvalue : ((215 : ℤ) : ℚ) * (1 / 10) + 0 = 43 / 2 := by norm_num
    have htruncate : truncate (43 / 2 : ℚ) = 21 := by
      rw [truncate, if_pos (by norm_num), Int.floor_eq_iff]
      norm_num
    have hhalf : PyFloat.ofRat (43 / 2) = .finite (43 / 2) :=
      ofRat_of_small ⟨43, -1, by norm_num [binary64], by decide, by decide⟩ (by norm_num)
    rw [hvalue, htruncate, ofRat_intCast (by norm_num), hhalf, PyFloat.finite.injEq] at hsame
    norm_num at hsame

end Scaling

end DcimBackend
