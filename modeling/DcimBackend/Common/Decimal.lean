import DcimBackend.Common.Text
import DcimBackend.Library.FloatFormat
import Mathlib.Data.Rat.Floor

/-!
# Floats and decimals

Python's `float` is binary64, and `decimal` computes in the default context: 28 digits, rounded
half even, exponents up to 999999, and traps for an invalid operation and for overflow.  A
decimal is infinite, a NaN of either kind, or finite, and then its value is exact: no operation
below depends on the exponent with which a value is written.

`PyDecimal.ofText` is `Decimal(text)`.

The rationals are enough for finite values, since every operation of the source is one of `+`,
`*`, comparison, and rounding to an integer or to a float.  What is kept of the context is which
numbers it can hold: `decimalContext` and `binary64` are two instances of `Library.FloatFormat`,
with its rounding.

Signals are errors: `InvalidOperation` for a signalling NaN, or a result that is none, and
`Overflow` for a number beyond the largest exponent.
-/

namespace DcimBackend

open Library

/-- What conversions of numbers raise: `decimal.InvalidOperation`, `decimal.Overflow`,
`OverflowError` and `ValueError`. -/
inductive NumberError
  | invalidOperation
  | overflow
  | overflowError
  | valueError
deriving DecidableEq

/-! ### Floats -/

/-- The numbers of `float`. -/
def binary64 : FloatFormat where
  base := 2
  precision := 53
  minExponent := -1074
  maxExponent := 971
  one_lt_base := by decide
  minExponent_le := by decide

/-- The float that is nearest to a number, infinite behind the largest ones. -/
def PyFloat.ofRat (q : ℚ) : PyFloat :=
  if |binary64.nearest q| < binary64.bound then .finite (binary64.nearest q)
  else if 0 < q then .posInf else .negInf

/-- `float(n)` of an integer. -/
def PyFloat.ofInt (n : ℤ) : Except NumberError PyFloat :=
  if (PyFloat.ofRat n).isFinite then .ok (.ofRat n) else .error .overflowError

theorem PyFloat.isFinite_ofRat_iff {q : ℚ} :
    (PyFloat.ofRat q).isFinite ↔ |q| < 2 ^ 1024 - 2 ^ 970 := by
  have hbound : (binary64.bound : ℚ) - (binary64.base : ℚ) ^ binary64.maxExponent / 2 =
      2 ^ 1024 - 2 ^ 970 := by
    have hhalf : (2 : ℚ) ^ 971 / 2 = 2 ^ 970 := by
      rw [pow_succ, mul_div_cancel_right₀ _ two_ne_zero]
    rw [← hhalf]
    rfl
  have hiff := FloatFormat.bound_le_abs_nearest_iff (F := binary64) (x := q) (by decide) (by decide)
  rw [hbound] at hiff
  rw [← not_le, ← hiff, not_le]
  unfold PyFloat.ofRat
  split
  · rename_i hlt
    exact iff_of_true rfl hlt
  · rename_i hge
    refine iff_of_false ?_ hge
    split <;> decide

theorem pow_28_lt_largest : (10 : ℚ) ^ 28 < 2 ^ 1024 - 2 ^ 970 := by
  have hsmall : (10 : ℚ) ^ 28 < 2 ^ 970 := by
    calc (10 : ℚ) ^ 28 < 2 ^ 94 := by norm_num
      _ ≤ 2 ^ 970 := pow_le_pow_right₀ one_le_two (by decide)
  have hdouble : (2 : ℚ) ^ 970 + 2 ^ 970 ≤ 2 ^ 1024 := by
    rw [← two_mul, ← pow_succ']
    exact pow_le_pow_right₀ one_le_two (by decide)
  exact hsmall.trans_le (le_sub_iff_add_le.mpr hdouble)

/-- A number of the format is its own nearest float. -/
theorem PyFloat.ofRat_of_contains {q : ℚ} (h : binary64.Contains q)
    (hq : |q| < binary64.bound) : PyFloat.ofRat q = .finite q := by
  rw [PyFloat.ofRat, FloatFormat.nearest_of_contains h, if_pos hq]

/-! ### Decimals -/

/-- The numbers of the default context. -/
def decimalContext : FloatFormat where
  base := 10
  precision := 28
  minExponent := -1000026
  maxExponent := 999972
  one_lt_base := by decide
  minExponent_le := by decide

/-- A `decimal.Decimal`. -/
inductive PyDecimal
  | finite (value : ℚ)
  | infinity (negative : Bool)
  | nan
  | snan
deriving DecidableEq

namespace PyDecimal

/-- A result in the context. -/
def ofContext (q : ℚ) : Except NumberError PyDecimal :=
  if |decimalContext.nearest q| < decimalContext.bound then
    .ok (.finite (decimalContext.nearest q))
  else .error .overflow

theorem ofContext_eq_ok_iff {q : ℚ} {result : PyDecimal} :
    ofContext q = .ok result ↔
      |decimalContext.nearest q| < decimalContext.bound ∧
        result = .finite (decimalContext.nearest q) := by
  unfold ofContext
  split
  · rename_i hlt
    rw [Except.ok.injEq, eq_comm]
    exact (and_iff_right hlt).symm
  · rename_i hge
    exact iff_of_false (by simp) fun h => hge h.1

/-- A small number of the context is not rounded. -/
theorem ofContext_of_contains {q : ℚ} (h : decimalContext.Contains q) (hq : |q| < 10 ^ 28) :
    ofContext q = .ok (.finite q) := by
  have hnearest : decimalContext.nearest q = q := FloatFormat.nearest_of_contains h
  have hbound : |q| < decimalContext.bound := by
    calc |q| < (decimalContext.base : ℚ) ^ (28 : ℤ) := by exact_mod_cast hq
      _ ≤ decimalContext.bound :=
          zpow_le_zpow_right₀ (Nat.one_le_cast.mpr decimalContext.one_lt_base.le) (by decide)
  exact ofContext_eq_ok_iff.mpr ⟨by rwa [hnearest], by rw [hnearest]⟩

/-- An integer with at most 28 digits is not rounded. -/
theorem ofContext_intCast {n : ℤ} (hn : |n| < 10 ^ 28) : ofContext n = .ok (.finite n) := by
  have hcast : ((|n| : ℤ) : ℚ) < ((10 ^ 28 : ℤ) : ℚ) := Int.cast_lt.mpr hn
  rw [Int.cast_abs, Int.cast_pow, Int.cast_ofNat] at hcast
  exact ofContext_of_contains (FloatFormat.contains_intCast hn (by decide)) hcast

/-- A result that is no integer is a finite float. -/
theorem isFinite_of_ofContext {q v : ℚ} (h : ofContext q = .ok (.finite v)) (hv : v.den ≠ 1) :
    (PyFloat.ofRat v).isFinite := by
  obtain ⟨-, hresult⟩ := ofContext_eq_ok_iff.mp h
  obtain rfl := PyDecimal.finite.inj hresult
  rw [PyFloat.isFinite_ofRat_iff]
  rcases FloatFormat.nearest_eq_intCast_or_lt (F := decimalContext) q with ⟨n, hn⟩ | hlt
  · exact absurd (by rw [hn, Rat.den_intCast]) hv
  · refine lt_trans ?_ pow_28_lt_largest
    exact_mod_cast hlt

/-- `a * b`. -/
def mul (a b : PyDecimal) : Except NumberError PyDecimal :=
  match a, b with
  | .snan, _ | _, .snan => .error .invalidOperation
  | .nan, _ | _, .nan => .ok .nan
  | .infinity s, .infinity t => .ok (.infinity (s ^^ t))
  | .infinity s, .finite q | .finite q, .infinity s =>
      if q = 0 then .error .invalidOperation else .ok (.infinity (s ^^ decide (q < 0)))
  | .finite p, .finite q => ofContext (p * q)

/-- `a + b`. -/
def add (a b : PyDecimal) : Except NumberError PyDecimal :=
  match a, b with
  | .snan, _ | _, .snan => .error .invalidOperation
  | .nan, _ | _, .nan => .ok .nan
  | .infinity s, .infinity t => if s = t then .ok (.infinity s) else .error .invalidOperation
  | .infinity s, .finite _ | .finite _, .infinity s => .ok (.infinity s)
  | .finite p, .finite q => ofContext (p + q)

/-- `a == b`. -/
def eq (a b : PyDecimal) : Except NumberError Bool :=
  match a, b with
  | .snan, _ | _, .snan => .error .invalidOperation
  | .nan, _ | _, .nan => .ok false
  | a, b => .ok (a = b)

/-- `a.to_integral_value()`. -/
def toIntegralValue : PyDecimal → Except NumberError PyDecimal
  | .snan => .error .invalidOperation
  | .finite q => .ok (.finite (halfEven q))
  | a => .ok a

/-- `a.quantize(Decimal("1"), rounding=ROUND_HALF_UP)`. -/
def quantize : PyDecimal → Except NumberError PyDecimal
  | .snan | .infinity _ => .error .invalidOperation
  | .nan => .ok .nan
  | .finite q =>
      if |halfUp q| < 10 ^ 28 then .ok (.finite (halfUp q)) else .error .invalidOperation

/-- `int(a)`. -/
def toInt : PyDecimal → Except NumberError ℤ
  | .nan | .snan => .error .valueError
  | .infinity _ => .error .overflowError
  | .finite q => .ok (truncate q)

/-- `float(a)`. -/
def toFloat : PyDecimal → Except NumberError PyFloat
  | .snan => .error .valueError
  | .nan => .ok .nan
  | .infinity negative => .ok (if negative then .negInf else .posInf)
  | .finite q => .ok (.ofRat q)

/-- `bool(a)`. -/
def truthy : PyDecimal → Bool
  | .finite q => q ≠ 0
  | _ => true

end PyDecimal

/-! ### The text of a decimal -/

/-- The zeros of Unicode, each in front of the nine digits of its script. -/
def unicodeZeros : List ℕ :=
  [48, 1632, 1776, 1984, 2406, 2534, 2662, 2790, 2918, 3046, 3174, 3302, 3430, 3558, 3664, 3792,
    3872, 4160, 4240, 6112, 6160, 6470, 6608, 6784, 6800, 6992, 7088, 7232, 7248, 42528, 43216,
    43264, 43472, 43504, 43600, 44016, 65296, 66720, 68912, 69734, 69872, 69942, 70096, 70384,
    70736, 70864, 71248, 71360, 71472, 71904, 72016, 72784, 73040, 73120, 92768, 92864, 93008,
    120782, 120792, 120802, 120812, 120822, 123200, 123632, 125264, 130032]

/-- `unicodedata.decimal(c)`. -/
def unicodeDecimal (c : Char) : Option ℕ :=
  (unicodeZeros.find? fun first => first ≤ c.toNat ∧ c.toNat < first + 10).map (c.toNat - ·)

/-- The digits at the front of a text, and the rest. -/
def takeDigits : List Char → List ℕ × List Char
  | [] => ([], [])
  | c :: cs =>
      match unicodeDecimal c with
      | some digit => (digit :: (takeDigits cs).1, (takeDigits cs).2)
      | none => ([], c :: cs)

/-- The number of a list of digits. -/
def ofDigits (digits : List ℕ) : ℕ := digits.foldl (fun n digit => n * 10 + digit) 0

/-- A sign at the front of a text: whether it is a minus, and the rest. -/
def takeSign : List Char → Bool × List Char
  | '-' :: cs => (true, cs)
  | '+' :: cs => (false, cs)
  | cs => (false, cs)

/-- The exponent behind the digits of a number, where the text is at its end with it. -/
def readExponent : List Char → Option ℤ
  | [] => some 0
  | c :: cs =>
      let (negative, cs) := takeSign cs
      match takeDigits cs with
      | (digit :: digits, []) =>
          if c ∈ ['e', 'E'] then
            some ((if negative then -1 else 1) * ofDigits (digit :: digits))
          else none
      | _ => none

/-- The coefficient and the exponent of a number without a sign. -/
def readNumber (cs : List Char) : Option (ℕ × ℤ) :=
  let (whole, cs) := takeDigits cs
  let (fraction, cs) :=
    match cs with
    | '.' :: cs => takeDigits cs
    | cs => ([], cs)
  if whole = [] ∧ fraction = [] then none
  else
    (readExponent cs).map fun exponent =>
      (ofDigits (whole ++ fraction), exponent - fraction.length)

/-- Whether a text is a word, in either case, with no more than digits behind it. -/
def isWord (word : String) (cs : List Char) : Bool :=
  (cs.take word.length).map Char.toLower = word.toList &&
    (takeDigits (cs.drop word.length)).2.isEmpty

/-- The exponents of a decimal, of its first digit and of its last one, are in the limits of
`decimal`. -/
def inLimits (coefficient : ℕ) (exponent : ℤ) : Bool :=
  -1999999999999999997 ≤ exponent && exponent + Nat.log 10 coefficient ≤ 999999999999999999

/-- `Decimal(text)`, where `none` is `decimal.InvalidOperation`. -/
def PyDecimal.ofText (text : String) : Option PyDecimal :=
  let (negative, cs) := takeSign ((pyStrip text).toList.filter (· ≠ '_'))
  if cs.map Char.toLower ∈ ["inf".toList, "infinity".toList] then some (.infinity negative)
  else if isWord "nan" cs then some .nan
  else if isWord "snan" cs then some .snan
  else
    match readNumber cs with
    | some (coefficient, exponent) =>
        if inLimits coefficient exponent then
          some (.finite ((if negative then -1 else 1) * coefficient * 10 ^ exponent))
        else none
    | none => none

/-! ### The text of an integer -/

theorem unicodeDecimal_of_isDigit {c : Char} (h : c.isDigit) :
    unicodeDecimal c = some (c.toNat - 48) := by
  simp only [Char.isDigit, Bool.and_eq_true, decide_eq_true_eq] at h
  have hlow : 48 ≤ c.toNat := h.1
  have hhigh : c.toNat ≤ 57 := h.2
  unfold unicodeDecimal unicodeZeros
  rw [List.find?_cons_of_pos (by simp; omega)]
  rfl

/-- Digits in front of something else are taken. -/
theorem takeDigits_append {cs rest : List Char} (hcs : ∀ c ∈ cs, c.isDigit)
    (hrest : takeDigits rest = ([], rest)) :
    takeDigits (cs ++ rest) = (cs.map fun c => c.toNat - 48, rest) := by
  induction cs with
  | nil => exact hrest
  | cons c cs ih =>
      rw [List.forall_mem_cons] at hcs
      rw [List.cons_append, takeDigits, unicodeDecimal_of_isDigit hcs.1, ih hcs.2]
      rfl

theorem ofDigits_repr {n : ℕ} : ofDigits (n.repr.toList.map fun c => c.toNat - 48) = n := by
  have hfold : ∀ (cs : List Char) (m : ℕ),
      (cs.map fun c => c.toNat - 48).foldl (fun m digit => m * 10 + digit) m =
        Nat.ofDigitChars 10 cs m := by
    intro cs
    induction cs with
    | nil => exact fun _ => rfl
    | cons c cs ih =>
        intro m
        rw [List.map_cons, List.foldl_cons, ih, Nat.ofDigitChars_cons, mul_comm]
        rfl
  rw [ofDigits, hfold, Nat.toList_repr, Nat.ofDigitChars_ten_toDigits]

/-- The characters of numerals make no word with another character. -/
theorem map_toLower_ne {cs word : List Char} (hcs : ∀ c ∈ cs, isNumeral c)
    (hword : word.any fun c => !isNumeral c) : cs.map Char.toLower ≠ word := by
  rw [(List.map_congr_left fun c hc => (toLower_of_isNumeral (hcs c hc)).1).trans (List.map_id' _)]
  rintro rfl
  obtain ⟨c, hc, hnot⟩ := List.any_eq_true.mp hword
  rw [hcs c hc] at hnot
  cases hnot

theorem isWord_of_numerals {word : String} {cs : List Char} (hcs : ∀ c ∈ cs, isNumeral c)
    (hword : word.toList.any fun c => !isNumeral c) : isWord word cs = false := by
  rw [isWord, decide_eq_false (map_toLower_ne (fun c hc => hcs c (List.mem_of_mem_take hc)) hword),
    Bool.false_and]

theorem mem_of_mem_takeSign {c : Char} {cs : List Char} (h : c ∈ (takeSign cs).2) : c ∈ cs := by
  unfold takeSign at h
  split at h
  · exact List.mem_cons_of_mem _ h
  · exact List.mem_cons_of_mem _ h
  · exact h

/-- The decimal of a number with its sign. -/
theorem ofText_of_numerals {text : String} {negative : Bool} {cs : List Char} {coefficient : ℕ}
    {exponent : ℤ} (htext : ∀ c ∈ text.toList, isNumeral c)
    (hsign : takeSign text.toList = (negative, cs))
    (hnumber : readNumber cs = some (coefficient, exponent))
    (hlimits : inLimits coefficient exponent) :
    PyDecimal.ofText text =
      some (.finite ((if negative then -1 else 1) * coefficient * 10 ^ exponent)) := by
  have hcs : ∀ c ∈ cs, isNumeral c := fun c hc =>
    htext c (mem_of_mem_takeSign (by rw [hsign]; exact hc))
  have hkeep : text.toList.filter (· ≠ '_') = text.toList := by
    refine List.filter_eq_self.mpr fun c hc => decide_eq_true ?_
    rintro rfl
    exact absurd (htext _ hc) (by decide)
  have hwords : cs.map Char.toLower ∉ ["inf".toList, "infinity".toList] := by
    rw [List.mem_pair]
    rintro (hword | hword)
    · exact map_toLower_ne hcs (by decide) hword
    · exact map_toLower_ne hcs (by decide) hword
  rw [PyDecimal.ofText, pyStrip_eq_self fun c hc => isSpace_of_isNumeral (htext c hc), hkeep, hsign]
  dsimp only
  rw [if_neg hwords, isWord_of_numerals hcs (by decide), isWord_of_numerals hcs (by decide),
    hnumber]
  dsimp only
  rw [if_pos hlimits]
  rfl

/-- The sign of an integer's text. -/
theorem takeSign_toString {n : ℤ} {rest : List Char} :
    takeSign ((toString n).toList ++ rest) = (decide (n < 0), n.natAbs.repr.toList ++ rest) := by
  rw [toList_toString]
  split
  · rename_i hn
    rw [decide_eq_false (by omega)]
    cases hdigits : n.natAbs.repr.toList with
    | nil => exact absurd hdigits (by simp [Nat.toList_repr])
    | cons c cs =>
        have hdigit : c.isDigit := isDigit_of_mem_repr (hdigits ▸ List.mem_cons_self)
        unfold takeSign
        split
        · rename_i heq
          obtain ⟨rfl, -⟩ := List.cons.inj heq
          cases hdigit
        · rename_i heq
          obtain ⟨rfl, -⟩ := List.cons.inj heq
          cases hdigit
        · rfl
  · rename_i hn
    rw [decide_eq_true (by omega)]
    rfl

/-- A coefficient with fewer digits than the largest exponent is in the limits. -/
theorem inLimits_of_lt {n k : ℕ} {exponent : ℤ} (hn : n < 10 ^ k) (hk : k ≤ 10 ^ 5)
    (hlow : -1 ≤ exponent) (hhigh : exponent ≤ 0) : inLimits n exponent := by
  have hlog : Nat.log 10 n ≤ k := by
    rcases eq_or_ne n 0 with rfl | hzero
    · rw [Nat.log_zero_right]
      exact Nat.zero_le k
    · exact (Nat.log_lt_of_lt_pow hzero hn).le
  clear hn
  simp only [inLimits, Bool.and_eq_true, decide_eq_true_eq]
  omega

theorem sign_mul_natAbs {n : ℤ} :
    (if decide (n < 0) then -1 else 1 : ℚ) * (n.natAbs : ℚ) = n := by
  rw [Nat.cast_natAbs]
  split
  · rename_i hn
    rw [abs_of_neg (of_decide_eq_true hn), Int.cast_neg, neg_one_mul, neg_neg]
  · rename_i hn
    rw [abs_of_nonneg (by simpa using hn), one_mul]

/-- The most digits of an integer that `str` renders. -/
@[irreducible] def intMaxStrDigits : ℕ := 4300

theorem intMaxStrDigits_lt : intMaxStrDigits < 10 ^ 5 := by
  unfold intMaxStrDigits
  decide

/-- An integer of at most 28 digits has a text. -/
theorem natAbs_lt_of_abs_lt {n : ℤ} (hn : |n| < 10 ^ 28) : n.natAbs < 10 ^ intMaxStrDigits := by
  have hnat : n.natAbs < 10 ^ 28 := by
    rw [Int.abs_eq_natAbs] at hn
    exact_mod_cast hn
  have hle : 28 ≤ intMaxStrDigits := by
    unfold intMaxStrDigits
    decide
  exact hnat.trans_le (Nat.pow_le_pow_right (by decide) hle)

theorem readNumber_repr {n : ℕ} : readNumber n.repr.toList = some (n, 0) := by
  have hdigits := @takeDigits_append n.repr.toList [] (fun _ => isDigit_of_mem_repr) rfl
  have hnonempty : n.repr.toList ≠ [] := by simp [Nat.toList_repr]
  rw [List.append_nil] at hdigits
  rw [readNumber, hdigits]
  dsimp only
  rw [if_neg fun h => hnonempty (List.map_eq_nil_iff.mp h.1), List.append_nil, ofDigits_repr]
  rfl

theorem readNumber_repr_point {n : ℕ} :
    readNumber (n.repr.toList ++ ['.', '0']) = some (n * 10, -1) := by
  have hdigits := @takeDigits_append n.repr.toList ['.', '0'] (fun _ => isDigit_of_mem_repr)
    (by decide)
  have hfraction : takeDigits ['0'] = ([0], []) := by decide
  have hlast : ofDigits ((n.repr.toList.map fun c => c.toNat - 48) ++ [0]) = n * 10 := by
    rw [ofDigits, List.foldl_append, ← ofDigits, ofDigits_repr]
    rfl
  simp only [readNumber, hdigits, hfraction]
  rw [if_neg (by simp), hlast]
  rfl

/-- `Decimal(str(n))`. -/
theorem ofText_toString {n : ℤ} (hn : n.natAbs < 10 ^ intMaxStrDigits) :
    PyDecimal.ofText (toString n) = some (.finite n) := by
  have hsign := @takeSign_toString n []
  rw [List.append_nil, List.append_nil] at hsign
  rw [ofText_of_numerals (fun _ => isNumeral_of_mem_toString) hsign readNumber_repr
    (inLimits_of_lt hn intMaxStrDigits_lt.le (by decide) le_rfl), sign_mul_natAbs, zpow_zero, mul_one]

/-- `Decimal(str(x))` of a float that is an integer and written without an exponent. -/
theorem ofText_toString_point {n : ℤ} (hn : n.natAbs < 10 ^ intMaxStrDigits) :
    PyDecimal.ofText (toString n ++ ".0") = some (.finite n) := by
  have htext : ∀ c ∈ (toString n ++ ".0").toList, isNumeral c := by
    intro c hc
    rw [String.toList_append] at hc
    rcases List.mem_append.mp hc with hc | hc
    · exact isNumeral_of_mem_toString hc
    · rcases List.mem_pair.mp hc with rfl | rfl <;> rfl
  have hsign : takeSign (toString n ++ ".0").toList =
      (decide (n < 0), n.natAbs.repr.toList ++ ['.', '0']) := by
    rw [String.toList_append]
    exact takeSign_toString
  have hlimit : n.natAbs * 10 < 10 ^ (intMaxStrDigits + 1) := by
    rw [pow_succ]
    exact Nat.mul_lt_mul_of_pos_right hn (by decide)
  rw [ofText_of_numerals htext hsign readNumber_repr_point
    (inLimits_of_lt hlimit intMaxStrDigits_lt le_rfl (by decide))]
  push_cast
  rw [mul_assoc, mul_assoc, zpow_neg_one, mul_inv_cancel₀ (by decide), mul_one, sign_mul_natAbs]

end DcimBackend
