import DcimBackend.Collectors.Conversions

/-!
# Stored integers and their column

`value_integer` of `TelemetryPoint` and of `LatestTelemetry` is a `BigIntegerField`, and what
`store_value_by_metric_type` sets it to is any integer of at most 28 digits.

Nothing in the source compares a value with the bounds of the column, so one beyond them is
refused by the insert.  The halves in `RoundsToBigint` are those of `ROUND_HALF_UP`: a number that
is half beyond a bound is rounded away from it.
-/

namespace DcimBackend

open Library

/-- The integers of a `BigIntegerField`. -/
def InBigintRange (n : ℤ) : Prop := -2 ^ 63 ≤ n ∧ n ≤ 2 ^ 63 - 1

/-- A number is not rounded to an integer outside the column: it rounds to one of the range, or
has too many digits to be rounded. -/
def RoundsToBigint (q : ℚ) : Prop :=
  (-2 ^ 63 - 1 / 2 < q ∧ q < 2 ^ 63 - 1 / 2) ∨ 10 ^ 28 - 1 / 2 ≤ |q|

/-- The decimal of a value, where it has a finite one, rounds to no integer outside the column. -/
def PyValue.RoundsToBigint (py : PyStrings) (value : PyValue) : Prop :=
  ∀ q, (FinalValue.scalar value).toDecimal py = .ok (.finite q) → DcimBackend.RoundsToBigint q

section Integers

variable {py : PyStrings} {rawText mappingDataType : String} {scaleFactor offsetValue : PyDecimal}
  {payload : Reading} {value : PyValue} {q : ℚ}

theorem inBigintRange_halfUp_iff :
    InBigintRange (halfUp q) ↔ -2 ^ 63 - 1 / 2 < q ∧ q < 2 ^ 63 - 1 / 2 := by
  have hhigh : halfUp q ≤ 2 ^ 63 - 1 ↔ q < 2 ^ 63 - 1 / 2 := by
    have hreach := le_halfUp_iff (x := q) (n := (2 ^ 63 : ℤ)) (by norm_num)
    rw [Int.cast_pow, Int.cast_ofNat] at hreach
    rw [← not_le (b := q), ← hreach]
    omega
  have hlow : -2 ^ 63 ≤ halfUp q ↔ -2 ^ 63 - 1 / 2 < q := by
    have hreach := le_halfUp_iff (x := -q) (n := (2 ^ 63 + 1 : ℤ)) (by norm_num)
    rw [Int.cast_add, Int.cast_one, Int.cast_pow, Int.cast_ofNat] at hreach
    have hneg : -2 ^ 63 - 1 / 2 < q ↔ ¬(2 ^ 63 + 1 : ℚ) - 1 / 2 ≤ -q := by
      rw [not_le]
      constructor <;> intro h <;> linarith
    rw [hneg, ← hreach, halfUp_neg]
    omega
  rw [InBigintRange, hlow, hhigh]

theorem abs_halfUp_lt_iff : |halfUp q| < 10 ^ 28 ↔ |q| < 10 ^ 28 - 1 / 2 := by
  have hreach := le_halfUp_iff (x := |q|) (n := (10 ^ 28 : ℤ)) (by norm_num)
  rw [Int.cast_pow, Int.cast_ofNat] at hreach
  rw [abs_halfUp, ← not_le, hreach, not_le]

/-- Of a number that is rounded, the integer is in the range. -/
theorem roundsToBigint_iff :
    RoundsToBigint q ↔ (|halfUp q| < 10 ^ 28 → InBigintRange (halfUp q)) := by
  rw [RoundsToBigint, ← inBigintRange_halfUp_iff, ← not_lt, ← abs_halfUp_lt_iff, or_comm,
    ← imp_iff_not_or]

/-- The integer of a value for an integer metric is the one that its decimal is rounded to. -/
theorem valueInteger_eq_some_iff {n : ℤ} (hvalue : value ≠ .none)
    (h : storeValueByMetricType py .integer (.scalar value) = .ok payload) :
    payload.valueInteger = some n ↔
      ∃ q, (FinalValue.scalar value).toDecimal py = .ok (.finite q) ∧ |halfUp q| < 10 ^ 28 ∧
        halfUp q = n := by
  have hstored := storedAs_of_ok (fun hnone => hvalue (FinalValue.scalar.inj hnone)) h
  cases hstored with
  | @integer q hdecimal hlt =>
      constructor
      · intro hn
        exact ⟨q, hdecimal, hlt, Option.some.inj hn⟩
      · rintro ⟨p, hp, -, rfl⟩
        rw [hdecimal] at hp
        obtain rfl := PyDecimal.finite.inj (Except.ok.inj hp)
        rfl
  | fallback text hnot =>
      refine iff_of_false (by simp) ?_
      rintro ⟨q, hdecimal, hlt, -⟩
      exact absurd hlt (not_lt.mpr (hnot q hdecimal))

/-- The text of an integer with at most 28 digits is stored as that integer. -/
theorem snmpPayload_toString (hpy : py.Documented) {n : ℤ} (hn : |n| < 10 ^ 28)
    (hkind : mappingKind py mappingDataType = .integer) :
    snmpPayload py (toString n) mappingDataType (.finite 1) (.finite 0) .integer =
      .ok { valueInteger := some n } := by
  have hdigits := natAbs_lt_of_abs_lt hn
  have hdecimal := toDecimal_int hpy hdigits
  have hscaled : (PyDecimal.finite n).scaled (.finite 1) (.finite 0) = .ok (.finite n) := by
    simp only [PyDecimal.scaled, PyDecimal.mul, PyDecimal.add, mul_one, add_zero,
      PyDecimal.ofContext_intCast hn, bind, Except.bind]
  have hparsed := parseSnmpRawValue_integer hkind (ofText_toString hdigits)
  have hfinal := applyScaleOffset_of_scaled (.inl ⟨n, rfl⟩) hdecimal hscaled
  have hstored : storedInteger py (.scalar (.int n)) = .ok n :=
    storedInteger_ok_iff.mpr ⟨n, hdecimal, by rwa [halfUp_intCast], halfUp_intCast⟩
  rw [PyValue.ofRat_intCast] at hparsed hfinal
  simp only [snmpPayload, hparsed, hfinal, bind, Except.bind, storeValueByMetricType, hstored]
  rfl

/-- **A stored integer fits its column** exactly if the decimal in front of it rounds to no
integer outside the range, which the code does not ask for. -/
theorem valueInteger_inBigintRange_iff
    (h : snmpPayload py rawText mappingDataType scaleFactor offsetValue .integer = .ok payload) :
    (∀ n, payload.valueInteger = some n → InBigintRange n) ↔
      Normalizes py (PyValue.RoundsToBigint py) rawText mappingDataType scaleFactor
        offsetValue := by
  obtain ⟨parsed, hparsed, hrest⟩ := bind_eq_ok_iff.mp h
  obtain ⟨final, hfinal, hstored⟩ := bind_eq_ok_iff.mp hrest
  have hsome := applyScaleOffset_ne_none (parseSnmpRawValue_ne_none hparsed) hfinal
  rw [normalizes_iff_of_final (bind_eq_ok_iff.mpr ⟨parsed, hparsed, hfinal⟩),
    PyValue.RoundsToBigint]
  simp only [valueInteger_eq_some_iff hsome hstored, roundsToBigint_iff]
  constructor
  · intro hall q hdecimal hlt
    exact hall _ ⟨q, hdecimal, hlt, rfl⟩
  · rintro hall _ ⟨q, hdecimal, hlt, rfl⟩
    exact hall q hdecimal hlt

/-- The text "230" comes to a number that fits. -/
theorem valueInteger_inBigintRange_iff_small :
    Normalizes asciiStrings (PyValue.RoundsToBigint asciiStrings) (toString (230 : ℤ)) "UINT16"
      (.finite 1) (.finite 0) := by
  have hpayload := @snmpPayload_toString asciiStrings "UINT16" documented_asciiText 230
    (by norm_num) (by decide)
  refine (valueInteger_inBigintRange_iff hpayload).mp ?_
  rintro _ ⟨rfl⟩
  constructor <;> norm_num

/-- The largest number of an unsigned counter is not. -/
theorem counter_outside_bigint :
    ¬∀ (rawText mappingDataType : String) (scaleFactor offsetValue : PyDecimal)
      (payload : Reading),
        snmpPayload asciiStrings rawText mappingDataType scaleFactor offsetValue .integer =
            .ok payload →
          ∀ n, payload.valueInteger = some n → InBigintRange n := by
  intro hall
  have hpayload := @snmpPayload_toString asciiStrings "UINT64" documented_asciiText (2 ^ 64 - 1)
    (by norm_num) (by decide)
  have hrange := hall _ _ _ _ _ hpayload _ rfl
  exact absurd hrange.2 (by norm_num)

end Integers

end DcimBackend
