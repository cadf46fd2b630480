import DcimBackend.Common.Value
import Mathlib.Data.Nat.Digits.Defs

/-!
# The texts of values

`PyText.Documented` is what Python documents of `str` and `str.lower`: the texts of
booleans, integers and floats, and that on ASCII `lower` is the lower case of ASCII.  A
number's text has no space and no upper-case letter, so `strip` and `lower` leave it as it
is.
-/

namespace DcimBackend

/-- A character of a finite number's text. -/
def isNumeral (c : Char) : Bool := c.isDigit || c ∈ ['.', 'e', '+', '-']

/-- What is documented of `str` and `str.lower`. -/
structure PyText.Documented (py : PyText) : Prop where
  str_bool : ∀ value, py.str (.bool value) = if value then "True" else "False"
  str_int : ∀ value, py.str (.int value) = toString value
  str_nan : py.str (.float .nan) = "nan"
  str_posInf : py.str (.float .posInf) = "inf"
  str_negInf : py.str (.float .negInf) = "-inf"
  /-- The text of a float has a point or an exponent, which that of an integer has not. -/
  str_finite : ∀ value, (∀ c ∈ (py.str (.float (.finite value))).toList, isNumeral c) ∧
    ∃ c ∈ (py.str (.float (.finite value))).toList, c = '.' ∨ c = 'e'
  str_text : ∀ text, py.str (.text text) = text
  lower_ascii : ∀ text : String, (∀ c ∈ text.toList, c.toNat < 128) →
    py.lower text = String.ofList (text.toList.map Char.toLower)

/-! ### Digits -/

theorem isDigit_of_mem_repr {n : ℕ} {c : Char} (h : c ∈ n.repr.toList) : c.isDigit := by
  rw [Nat.toList_repr] at h
  exact Nat.isDigit_of_mem_toDigits (by omega) (by omega) h

/-- The digits of an integer, behind its sign. -/
theorem toList_toString (n : ℤ) :
    (toString n).toList = if 0 ≤ n then n.natAbs.repr.toList else '-' :: n.natAbs.repr.toList := by
  rw [Int.toString_eq_repr, Int.repr_eq_if]
  split
  · rw [show n.toNat = n.natAbs by omega]
  · rw [show (-n).toNat = n.natAbs by omega, String.toList_append]
    rfl

theorem isNumeral_of_mem_toString {n : ℤ} {c : Char} (h : c ∈ (toString n).toList) :
    isNumeral c := by
  rw [toList_toString] at h
  unfold isNumeral
  split at h
  · rw [isDigit_of_mem_repr h]
    rfl
  · rcases List.mem_cons.mp h with rfl | h
    · rfl
    · rw [isDigit_of_mem_repr h]
      rfl

/-- Zeros are the digits of zero. -/
theorem repr_zeros_iff {n : ℕ} : (∀ c ∈ n.repr.toList, c = '0') ↔ n = 0 := by
  constructor
  · intro h
    have hzeros : ∀ cs : List Char, (∀ c ∈ cs, c = '0') → Nat.ofDigitChars 10 cs 0 = 0 := by
      intro cs
      induction cs with
      | nil => intro _; rfl
      | cons c cs ih =>
          intro hcs
          rw [List.forall_mem_cons] at hcs
          obtain ⟨rfl, hcs⟩ := hcs
          exact ih hcs
    rw [Nat.toList_repr] at h
    rw [← @Nat.ofDigitChars_ten_toDigits n]
    exact hzeros _ h
  · rintro rfl
    simp [Nat.toList_repr]

/-! ### Texts without spaces -/

theorem isSpace_of_isNumeral {c : Char} (h : isNumeral c) : pyStrip.isSpace c = false := by
  simp only [isNumeral, Bool.or_eq_true, decide_eq_true_eq, List.mem_cons, List.not_mem_nil,
    or_false] at h
  rcases h with h | rfl | rfl | rfl | rfl
  · simp only [Char.isDigit, Bool.and_eq_true, decide_eq_true_eq] at h
    have hlow : 48 ≤ c.toNat := h.1
    have hhigh : c.toNat ≤ 57 := h.2
    simp only [pyStrip.isSpace, decide_eq_false_iff_not, List.mem_cons, List.not_mem_nil,
      or_false]
    omega
  all_goals decide

theorem toLower_of_isNumeral {c : Char} (h : isNumeral c) : c.toLower = c ∧ c.toNat < 128 := by
  simp only [isNumeral, Bool.or_eq_true, decide_eq_true_eq, List.mem_cons, List.not_mem_nil,
    or_false] at h
  rcases h with h | rfl | rfl | rfl | rfl
  · simp only [Char.isDigit, Bool.and_eq_true, decide_eq_true_eq] at h
    have hhigh : c.toNat ≤ 57 := h.2
    have hupper : ¬(c.val ≥ 65 ∧ c.val ≤ 90) := fun hcase => by
      have : 65 ≤ c.toNat := hcase.1
      omega
    exact ⟨dif_neg hupper, by omega⟩
  all_goals decide

theorem pyStrip_eq_self {text : String} (h : ∀ c ∈ text.toList, pyStrip.isSpace c = false) :
    pyStrip text = text := by
  have hdrop : ∀ cs : List Char, (∀ c ∈ cs, pyStrip.isSpace c = false) →
      cs.dropWhile pyStrip.isSpace = cs := by
    intro cs hcs
    cases cs with
    | nil => rfl
    | cons c cs => rw [List.dropWhile_cons_of_neg]; simp [hcs c List.mem_cons_self]
  rw [pyStrip, hdrop _ h, hdrop _ fun c hc => h c (List.mem_reverse.mp hc), List.reverse_reverse,
    String.ofList_toList]

namespace PyText.Documented

variable {py : PyText} (hpy : py.Documented)

include hpy

/-- `strip` and `lower` leave a number's text as it is. -/
theorem lower_strip_numeral {text : String} (h : ∀ c ∈ text.toList, isNumeral c) :
    py.lower (pyStrip text) = text := by
  rw [pyStrip_eq_self fun c hc => isSpace_of_isNumeral (h c hc),
    hpy.lower_ascii text fun c hc => (toLower_of_isNumeral (h c hc)).2,
    (List.map_congr_left fun c hc => (toLower_of_isNumeral (h c hc)).1).trans (List.map_id' _),
    String.ofList_toList]

end PyText.Documented

/-! ### ASCII -/

/-- `str.lower` on ASCII. -/
def asciiLower (s : String) : String := String.ofList (s.toList.map Char.toLower)

/-- Python's texts for ASCII, for floats that are integral, and at the epoch. -/
def asciiText : PyText where
  str
    | .none => "None"
    | .bool value => if value then "True" else "False"
    | .int value => toString value
    | .float (.finite value) => toString value.num ++ ".0"
    | .float .nan => "nan"
    | .float .posInf => "inf"
    | .float .negInf => "-inf"
    | .text value => value
  lower text := String.ofList (text.toList.map Char.toLower)
  int text := text.toInt?
  isoformat _ := "1970-01-01T00:00:00+00:00"
  upper text := String.ofList (text.toList.map Char.toUpper)

theorem documented_asciiText : asciiText.Documented where
  str_bool _ := rfl
  str_int _ := rfl
  str_nan := rfl
  str_posInf := rfl
  str_negInf := rfl
  str_finite value := by
    have htext : (asciiText.str (.float (.finite value))).toList =
        (toString value.num).toList ++ ['.', '0'] := by
      rw [show asciiText.str (.float (.finite value)) = toString value.num ++ ".0" from rfl,
        String.toList_append]
      rfl
    rw [htext]
    refine ⟨fun c hc => ?_, '.', by simp, Or.inl rfl⟩
    rcases List.mem_append.mp hc with hc | hc
    · exact isNumeral_of_mem_toString hc
    · simp only [List.mem_cons, List.not_mem_nil, or_false] at hc
      rcases hc with rfl | rfl <;> rfl
  str_text _ := rfl
  lower_ascii _ _ := rfl

/-! ### Prefixes -/

/-- `text.startswith(start)`. -/
def pyStartsWith (text start : String) : Bool := start.toList.isPrefixOf text.toList

theorem pyStartsWith_iff {text start : String} :
    pyStartsWith text start = true ↔ ∃ rest, text = start ++ rest := by
  unfold pyStartsWith
  rw [List.isPrefixOf_iff_prefix]
  constructor
  · rintro ⟨rest, hrest⟩
    exact ⟨String.ofList rest, by simp [← String.toList_inj, hrest]⟩
  · rintro ⟨rest, rfl⟩
    exact ⟨rest.toList, by simp⟩

@[simp] theorem pyStartsWith_append (start rest : String) :
    pyStartsWith (start ++ rest) start = true :=
  pyStartsWith_iff.mpr ⟨rest, rfl⟩

end DcimBackend
