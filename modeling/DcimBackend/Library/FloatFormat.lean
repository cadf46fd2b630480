import DcimBackend.Library.Rounding
import Mathlib.Data.Int.Log

/-!
# Floating-point formats

A format has the numbers `m * base ^ e` with fewer than `precision` digits in `m` and an exponent
from `minExponent` to `maxExponent`.  `nearest` is rounding to nearest, ties to even, in a format
without a largest exponent, and a number overflows when that leaves the format.

The numbers of a format are rationals.  NaNs, infinities and the sign of zero are left to the
types that are built on it, and so is what happens on overflow, since `nearest` has a value in any
case.
-/

namespace DcimBackend.Library

/-- A format: its base, the number of its digits, and the exponents of its last digit. -/
structure FloatFormat where
  base : ℕ
  precision : ℕ
  minExponent : ℤ
  maxExponent : ℤ
  one_lt_base : 1 < base
  minExponent_le : minExponent ≤ maxExponent

namespace FloatFormat

variable (F : FloatFormat) {K : Type*} [Field K]

/-- The numbers of the format, and those behind its largest ones. -/
def Contains (x : K) : Prop :=
  ∃ m e : ℤ, x = m * (F.base : K) ^ e ∧ |m| < (F.base : ℤ) ^ F.precision ∧ F.minExponent ≤ e

/-- The first number behind the largest one. -/
def bound : K := (F.base : K) ^ (F.maxExponent + F.precision)

variable {F} in
/-- An integer with few digits is in the format. -/
theorem contains_intCast {n : ℤ} (h : |n| < (F.base : ℤ) ^ F.precision) (hmin : F.minExponent ≤ 0) :
    F.Contains (n : K) :=
  ⟨n, 0, by rw [zpow_zero, mul_one], h, hmin⟩

variable [LinearOrder K] [FloorRing K]

/-- The exponent of the last digit of a number. -/
def lastExponent (x : K) : ℤ := max (Int.log F.base |x| + 1 - F.precision) F.minExponent

/-- The nearest number with as many digits, of two the one with an even last digit. -/
def nearest (x : K) : K :=
  halfEven (x / (F.base : K) ^ F.lastExponent x) * (F.base : K) ^ F.lastExponent x

variable [IsStrictOrderedRing K] {F} {x : K}

omit [FloorRing K] in
theorem base_pos : 0 < (F.base : K) := Nat.cast_pos.mpr (zero_lt_one.trans F.one_lt_base)

theorem zpow_base_pos (e : ℤ) : 0 < (F.base : K) ^ e := zpow_pos base_pos e

theorem zpow_base_lt_iff {d e : ℤ} : (F.base : K) ^ d < (F.base : K) ^ e ↔ d < e :=
  zpow_lt_zpow_iff_right₀ (Nat.one_lt_cast.mpr F.one_lt_base)

/-- A number has at most `precision` digits in front of its last exponent. -/
theorem abs_lt_of_lastExponent (x : K) :
    |x| < (F.base : K) ^ (F.lastExponent x + F.precision) := by
  have hlog : Int.log F.base |x| < F.lastExponent x + F.precision := by
    unfold lastExponent
    omega
  calc |x| < (F.base : K) ^ (Int.log F.base |x| + 1) := Int.lt_zpow_succ_log_self F.one_lt_base _
    _ ≤ (F.base : K) ^ (F.lastExponent x + F.precision) :=
      zpow_le_zpow_right₀ (Nat.one_le_cast.mpr F.one_lt_base.le) hlog

/-- The last exponent is as small as the number and the format allow. -/
theorem lastExponent_le {e : ℤ} (he : F.minExponent ≤ e) (hx : x ≠ 0)
    (h : |x| < (F.base : K) ^ (e + F.precision)) : F.lastExponent x ≤ e := by
  have hlog : (F.base : K) ^ Int.log F.base |x| < (F.base : K) ^ (e + F.precision) :=
    lt_of_le_of_lt (Int.zpow_log_le_self F.one_lt_base (abs_pos.mpr hx)) h
  rw [zpow_base_lt_iff] at hlog
  unfold lastExponent
  omega

@[simp] theorem nearest_zero : F.nearest (0 : K) = 0 := by
  have hzero : halfEven (0 : K) = 0 := by simpa using halfEven_intCast (K := K) (n := 0)
  rw [nearest, zero_div, hzero, Int.cast_zero, zero_mul]

theorem nearest_neg : F.nearest (-x) = -F.nearest x := by
  unfold nearest lastExponent
  rw [abs_neg, neg_div, halfEven_neg, Int.cast_neg, neg_mul]

/-- Rounding leaves the numbers of the format as they are. -/
theorem nearest_of_contains (h : F.Contains x) : F.nearest x = x := by
  obtain ⟨m, e, rfl, hm, he⟩ := h
  by_cases hx : (m : K) * (F.base : K) ^ e = 0
  · rw [hx, nearest_zero]
  have hlast : F.lastExponent ((m : K) * (F.base : K) ^ e) ≤ e := by
    refine lastExponent_le he hx ?_
    rw [abs_mul, abs_of_pos (zpow_base_pos (K := K) e), add_comm, zpow_add₀ base_pos.ne', zpow_natCast]
    refine mul_lt_mul_of_pos_right ?_ (zpow_base_pos e)
    exact_mod_cast hm
  set d := F.lastExponent ((m : K) * (F.base : K) ^ e)
  -- the quotient is an integer
  have hquotient : (m : K) * (F.base : K) ^ e / (F.base : K) ^ d =
      ((m * (F.base : ℤ) ^ (e - d).toNat : ℤ) : K) := by
    push_cast
    rw [mul_div_assoc, ← zpow_sub₀ base_pos.ne', ← zpow_natCast, Int.toNat_of_nonneg (by omega)]
  rw [nearest, hquotient, halfEven_intCast, ← hquotient, div_mul_cancel₀ _ (zpow_base_pos d).ne']

/-- What is rounded is an integer, or has fewer digits than the format in front of its point. -/
theorem nearest_eq_intCast_or_lt (x : K) :
    (∃ n : ℤ, F.nearest x = n) ∨ |F.nearest x| < (F.base : K) ^ F.precision := by
  set e := F.lastExponent x with he
  have hnearest : F.nearest x = halfEven (x / (F.base : K) ^ e) * (F.base : K) ^ e := rfl
  rcases le_or_gt 0 e with hnonneg | hneg
  · refine .inl ⟨halfEven (x / (F.base : K) ^ e) * (F.base : ℤ) ^ e.toNat, ?_⟩
    rw [hnearest]
    push_cast
    rw [← zpow_natCast, Int.toNat_of_nonneg hnonneg]
  · have hunit : (0 : K) < (F.base : K) ^ e := zpow_base_pos e
    have hquotient : |x / (F.base : K) ^ e| < (((F.base : ℤ) ^ F.precision : ℤ) : K) := by
      rw [abs_div, abs_of_pos hunit, div_lt_iff₀ hunit, Int.cast_pow, Int.cast_natCast,
        ← zpow_natCast, ← zpow_add₀ base_pos.ne', add_comm]
      exact abs_lt_of_lastExponent x
    have hrounded : |halfEven (x / (F.base : K) ^ e)| ≤ (F.base : ℤ) ^ F.precision := by
      rw [abs_lt, ← Int.cast_neg] at hquotient
      exact abs_le.mpr ⟨le_halfEven_of_le hquotient.1.le, halfEven_le_of_lt hquotient.2⟩
    right
    calc |F.nearest x| = (|halfEven (x / (F.base : K) ^ e)| : ℤ) * (F.base : K) ^ e := by
          rw [hnearest, abs_mul, abs_of_pos hunit, Int.cast_abs]
      _ ≤ (F.base : K) ^ F.precision * (F.base : K) ^ e := by
          refine mul_le_mul_of_nonneg_right ?_ hunit.le
          exact_mod_cast hrounded
      _ < (F.base : K) ^ F.precision * 1 := by
          refine mul_lt_mul_of_pos_left ?_ (pow_pos base_pos _)
          exact zpow_lt_one_of_neg₀ (Nat.one_lt_cast.mpr F.one_lt_base) hneg
      _ = (F.base : K) ^ F.precision := mul_one _

/-- What needs no more than the smaller exponents of the format stays a power below the bound. -/
theorem two_mul_zpow_le_bound {d : ℤ} (hd : d < F.maxExponent) :
    2 * (F.base : K) ^ (d + F.precision) ≤ F.bound := by
  have hbase : (2 : K) ≤ F.base := Nat.ofNat_le_cast.mpr F.one_lt_base
  calc 2 * (F.base : K) ^ (d + F.precision)
      ≤ F.base * (F.base : K) ^ (d + F.precision) :=
        mul_le_mul_of_nonneg_right hbase (zpow_base_pos _).le
    _ = (F.base : K) ^ (d + F.precision + 1) := by
        rw [zpow_add_one₀ base_pos.ne', mul_comm]
    _ ≤ F.bound := zpow_le_zpow_right₀ (Nat.one_le_cast.mpr F.one_lt_base.le) (by omega)

/-- A number overflows from half a unit below the bound. -/
theorem bound_le_abs_nearest_iff (hprecision : 0 < F.precision) (heven : Even F.base) :
    F.bound ≤ |F.nearest x| ↔ F.bound - (F.base : K) ^ F.maxExponent / 2 ≤ |x| := by
  wlog hx : 0 ≤ x generalizing x
  · rw [← abs_neg x, ← abs_neg (F.nearest x), ← nearest_neg]
    exact this (by linarith)
  have hone : (1 : K) ≤ F.base := Nat.one_le_cast.mpr F.one_lt_base.le
  have hunit : (0 : K) < (F.base : K) ^ F.maxExponent := zpow_base_pos _
  have hle : (F.base : K) ^ F.maxExponent ≤ F.bound := zpow_le_zpow_right₀ hone (by omega)
  by_cases hzero : x = 0
  · rw [hzero, nearest_zero, abs_zero]
    constructor <;> intro h <;> linarith
  set d := F.lastExponent x with hd
  have hlast : (0 : K) < (F.base : K) ^ d := zpow_base_pos d
  have hlt : x < (F.base : K) ^ (d + F.precision) := abs_of_nonneg hx ▸ abs_lt_of_lastExponent x
  have hsplit : ∀ e : ℤ, (F.base : K) ^ (e + F.precision) =
      (((F.base : ℤ) ^ F.precision : ℤ) : K) * (F.base : K) ^ e := by
    intro e
    rw [zpow_add₀ base_pos.ne', mul_comm]
    push_cast
    rw [zpow_natCast]
  have hfloor : (0 : ℤ) ≤ halfEven (x / (F.base : K) ^ d) :=
    le_halfEven_of_le (by simpa using div_nonneg hx hlast.le)
  have hnearest : F.nearest x = halfEven (x / (F.base : K) ^ d) * (F.base : K) ^ d := rfl
  rw [abs_of_nonneg hx, hnearest, abs_of_nonneg (mul_nonneg (Int.cast_nonneg hfloor) hlast.le)]
  rcases lt_trichotomy d F.maxExponent with hsmall | hsame | hlarge
  · -- the number is far below the bound, and so is what it is rounded to
    have hdouble := two_mul_zpow_le_bound (K := K) hsmall
    have hround : (halfEven (x / (F.base : K) ^ d) : K) * (F.base : K) ^ d ≤
        (F.base : K) ^ (d + F.precision) := by
      rw [hsplit]
      refine mul_le_mul_of_nonneg_right (Int.cast_le.mpr (halfEven_le_of_lt ?_)) hlast.le
      rwa [div_lt_iff₀ hlast, ← hsplit]
    constructor <;> intro h <;> linarith
  · -- the multiples of the last unit below the bound are all in the format
    rw [hsame] at hlast ⊢
    rw [bound, hsplit, mul_le_mul_iff_left₀ hlast, Int.cast_le,
      le_halfEven_iff ((Int.even_coe_nat _).mpr heven |>.pow_of_ne_zero hprecision.ne'),
      le_div_iff₀ hlast, sub_mul, one_div, ← div_eq_inv_mul]
  · -- the number has reached the bound
    have hlog : Int.log F.base |x| = ((F.precision - 1 : ℕ) : ℤ) + d := by
      have hmin := F.minExponent_le
      unfold lastExponent at hd
      omega
    have hreach : (((F.base : ℤ) ^ (F.precision - 1) : ℤ) : K) * (F.base : K) ^ d ≤ x := by
      have hself := Int.zpow_log_le_self F.one_lt_base (abs_pos.mpr hzero)
      rw [hlog, zpow_add₀ base_pos.ne', zpow_natCast, abs_of_nonneg hx] at hself
      push_cast
      exact hself
    have hbound : F.bound ≤ (((F.base : ℤ) ^ (F.precision - 1) : ℤ) : K) * (F.base : K) ^ d := by
      push_cast
      rw [← zpow_natCast, ← zpow_add₀ base_pos.ne']
      exact zpow_le_zpow_right₀ hone (by omega)
    refine iff_of_true (hbound.trans ?_) (by linarith)
    refine mul_le_mul_of_nonneg_right (Int.cast_le.mpr (le_halfEven_of_le ?_)) hlast.le
    rwa [le_div_iff₀ hlast]

end FloatFormat

end DcimBackend.Library
