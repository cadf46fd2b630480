import Mathlib.Algebra.Order.Round
import Mathlib.Tactic.Ring

/-!
# Rounding to integers

Three roundings of a number to an integer: towards zero, to the nearest one with ties to the even
one, and to the nearest one with ties away from zero.

Each of them is characterised by bounds, so that a proof about a rounded number compares and never
unfolds a floor: `le_halfUp_iff` and `le_halfEven_iff` say which numbers round to an integer or
beyond, and `IsNearestAway` is the definition of the third one by what it is for.
-/

namespace DcimBackend.Library

variable {K : Type*} [Field K] [LinearOrder K] [FloorRing K]

/-- No integer is nearer to the number, and none that is as near is farther from zero. -/
structure IsNearestAway (x : K) (n : ℤ) : Prop where
  nearest : ∀ m : ℤ, |x - n| ≤ |x - m|
  away : ∀ m : ℤ, |x - m| = |x - n| → |m| ≤ |n|

/-- The integer in front of the number, towards zero. -/
def truncate (x : K) : ℤ := if 0 ≤ x then ⌊x⌋ else ⌈x⌉

/-- The nearest integer, and of two the even one. -/
def halfEven (x : K) : ℤ :=
  if Int.fract x < 1 / 2 then ⌊x⌋
  else if 1 / 2 < Int.fract x then ⌊x⌋ + 1
  else if Even ⌊x⌋ then ⌊x⌋ else ⌊x⌋ + 1

/-- The nearest integer, and of two the one that is farther from zero. -/
def halfUp (x : K) : ℤ := if 0 ≤ x then ⌊x + 1 / 2⌋ else ⌈x - 1 / 2⌉

variable {x : K} {n : ℤ}

theorem floor_le_halfEven : ⌊x⌋ ≤ halfEven x := by
  unfold halfEven
  split_ifs <;> omega

theorem halfEven_le : halfEven x ≤ ⌊x⌋ + 1 := by
  unfold halfEven
  split_ifs <;> omega

theorem halfEven_le_of_lt (h : x < n) : halfEven x ≤ n :=
  halfEven_le.trans (Int.add_one_le_of_lt (Int.floor_lt.mpr h))

theorem le_halfEven_of_le (h : (n : K) ≤ x) : n ≤ halfEven x :=
  (Int.le_floor.mpr h).trans floor_le_halfEven

variable [IsStrictOrderedRing K]

@[simp] theorem truncate_intCast : truncate (n : K) = n := by
  unfold truncate
  split <;> simp

@[simp] theorem halfEven_intCast : halfEven (n : K) = n := by
  simp [halfEven]

@[simp] theorem halfUp_intCast : halfUp (n : K) = n := by
  have hfloor : ⌊(n : K) + 1 / 2⌋ = n := by
    rw [Int.floor_eq_iff]
    constructor <;> linarith
  have hceil : ⌈(n : K) - 1 / 2⌉ = n := by
    rw [Int.ceil_eq_iff]
    constructor <;> linarith
  unfold halfUp
  split
  · exact hfloor
  · exact hceil

/-! ### To the even integer -/

/-- Rounding to even reaches an even integer from half below it. -/
theorem le_halfEven_iff (hn : Even n) : n ≤ halfEven x ↔ (n : K) - 1 / 2 ≤ x := by
  have hsum : (⌊x⌋ : K) + Int.fract x = x := Int.floor_add_fract x
  have hfract := Int.fract_lt_one x
  have hnonneg := Int.fract_nonneg x
  constructor
  · intro hle
    have hup := @halfEven_le _ _ _ _ x
    rcases le_or_gt n ⌊x⌋ with hfloor | hfloor
    · have : (n : K) ≤ ⌊x⌋ := Int.cast_le.mpr hfloor
      linarith
    · -- the number is rounded up to `n`
      obtain rfl : n = ⌊x⌋ + 1 := by omega
      unfold halfEven at hle
      split at hle
      · omega
      · rename_i hhalf
        push_cast
        linarith
  · intro hle
    rcases le_or_gt n ⌊x⌋ with hfloor | hfloor
    · exact hfloor.trans floor_le_halfEven
    · have hnext : n = ⌊x⌋ + 1 := by
        have hlt : (n : K) < ((⌊x⌋ + 2 : ℤ) : K) := by
          push_cast
          linarith
        have := Int.cast_lt.mp hlt
        omega
      subst hnext
      push_cast at hle
      have hodd : ¬Even ⌊x⌋ := Int.even_add_one.mp hn
      unfold halfEven
      rw [if_neg (by linarith), if_neg hodd, ite_self]

theorem halfEven_neg : halfEven (-x) = -halfEven x := by
  by_cases hx : Int.fract x = 0
  · obtain ⟨n, rfl⟩ : ∃ n : ℤ, x = n := ⟨⌊x⌋, by linarith [Int.floor_add_fract x]⟩
    rw [← Int.cast_neg, halfEven_intCast, halfEven_intCast]
  · have hfract : Int.fract (-x) = 1 - Int.fract x := Int.fract_neg hx
    have hfloor : ⌊-x⌋ = -⌊x⌋ - 1 := by
      have hcast : (⌊-x⌋ : K) = ((-⌊x⌋ - 1 : ℤ) : K) := by
        push_cast
        linarith [Int.floor_add_fract x, Int.floor_add_fract (-x)]
      exact Int.cast_injective hcast
    unfold halfEven
    rw [hfract, hfloor]
    rcases lt_trichotomy (Int.fract x) (1 / 2) with hlt | htie | hgt
    · rw [if_neg (by linarith), if_pos (by linarith), if_pos hlt]
      omega
    · -- one of the two neighbours is even
      have hparity : Even (-⌊x⌋ - 1) ↔ ¬Even ⌊x⌋ := by rw [Int.even_sub_one, even_neg]
      rw [htie, sub_half, if_neg (lt_irrefl _), if_neg (lt_irrefl _), if_neg (lt_irrefl _),
        if_neg (lt_irrefl _), if_congr hparity rfl rfl]
      split_ifs <;> omega
    · rw [if_pos (by linarith), if_neg (by linarith), if_pos hgt]
      omega

/-! ### Away from zero -/

theorem halfUp_neg : halfUp (-x) = -halfUp x := by
  unfold halfUp
  rcases lt_trichotomy x 0 with hlt | rfl | hgt
  · rw [if_pos (by linarith), if_neg (by linarith), ← Int.floor_neg]
    congr 1
    ring
  · rw [neg_zero, if_pos le_rfl, Int.floor_eq_zero_iff.mpr ⟨by linarith, by norm_num⟩, neg_zero]
  · rw [if_neg (by linarith), if_pos hgt.le, ← Int.ceil_neg]
    congr 1
    ring

/-- A number is rounded up to a positive integer from half below it. -/
theorem le_halfUp_iff (hn : 0 < n) : n ≤ halfUp x ↔ (n : K) - 1 / 2 ≤ x := by
  have hone : (1 : K) ≤ n := by exact_mod_cast Int.add_one_le_of_lt hn
  unfold halfUp
  split
  · rw [Int.le_floor, sub_le_iff_le_add]
  · rename_i hx
    refine iff_of_false (not_le.mpr ?_) (by linarith)
    refine lt_of_le_of_lt ?_ hn
    rw [Int.ceil_le, Int.cast_zero]
    linarith

theorem abs_halfUp : |halfUp x| = halfUp |x| := by
  have hnonneg : ∀ {y : K}, 0 ≤ y → 0 ≤ halfUp y := by
    intro y hy
    rw [halfUp, if_pos hy, Int.floor_nonneg]
    linarith
  rcases le_total 0 x with hx | hx
  · rw [abs_of_nonneg hx, abs_of_nonneg (hnonneg hx)]
  · rw [abs_of_nonpos hx, halfUp_neg, abs_of_nonpos]
    have := hnonneg (neg_nonneg.mpr hx)
    rw [halfUp_neg] at this
    omega

/-- The rounded number is a nearest integer. -/
theorem abs_sub_halfUp_le : |x - halfUp x| ≤ 1 / 2 := by
  unfold halfUp
  rw [abs_le]
  split
  · have hle := Int.floor_le (x + 1 / 2)
    have hlt := Int.lt_floor_add_one (x + 1 / 2)
    constructor <;> linarith
  · have hle := Int.le_ceil (x - 1 / 2)
    have hlt := Int.ceil_lt_add_one (x - 1 / 2)
    constructor <;> linarith

/-- Of two nearest integers, it is the one that is farther from zero. -/
theorem abs_lt_abs_halfUp (h : |x - halfUp x| = 1 / 2) : |x| < |(halfUp x : K)| := by
  unfold halfUp at h ⊢
  split at h
  · rename_i hx
    have hle := Int.floor_le (x + 1 / 2)
    have hlt := Int.lt_floor_add_one (x + 1 / 2)
    rw [if_pos hx, abs_of_nonneg hx]
    refine lt_of_lt_of_le ?_ (le_abs_self _)
    rcases abs_eq (by norm_num) |>.mp h with hcase | hcase <;> linarith
  · rename_i hx
    have hle := Int.le_ceil (x - 1 / 2)
    have hlt := Int.ceil_lt_add_one (x - 1 / 2)
    rw [if_neg hx, abs_of_neg (not_le.mp hx)]
    refine lt_of_lt_of_le ?_ (neg_le_abs _)
    rcases abs_eq (by norm_num) |>.mp h with hcase | hcase <;> linarith

theorem isNearestAway_halfUp : IsNearestAway x (halfUp x) := by
  have hhalf := abs_sub_halfUp_le (x := x)
  have hother : ∀ m : ℤ, m ≠ halfUp x → 1 ≤ |x - m| + |x - halfUp x| := by
    intro m hm
    have hone : (1 : K) ≤ |(m : K) - halfUp x| := by
      have hint : 1 ≤ |m - halfUp x| := Int.one_le_abs (sub_ne_zero.mpr hm)
      exact_mod_cast hint
    calc (1 : K) ≤ |(m : K) - halfUp x| := hone
      _ ≤ |(m : K) - x| + |x - halfUp x| := abs_sub_le _ _ _
      _ = |x - m| + |x - halfUp x| := by rw [abs_sub_comm]
  constructor
  · intro m
    rcases eq_or_ne m (halfUp x) with rfl | hm
    · exact le_rfl
    · linarith [hother m hm]
  · intro m hsame
    rcases eq_or_ne m (halfUp x) with rfl | hm
    · exact le_rfl
    · -- a tie: both are half away
      have hbetween := hother m hm
      have htie : |x - halfUp x| = 1 / 2 := by linarith
      have haway := abs_lt_abs_halfUp htie
      rw [htie] at hsame
      have hle : |(m : K)| ≤ |x| + 1 / 2 := by
        have := abs_sub_abs_le_abs_sub (m : K) x
        rw [abs_sub_comm (m : K) x, hsame] at this
        linarith
      have hlt : |m| < |halfUp x| + 1 := by
        have hcast : ((|m| : ℤ) : K) < ((|halfUp x| + 1 : ℤ) : K) := by
          push_cast
          linarith
        exact Int.cast_lt.mp hcast
      omega

end DcimBackend.Library
