import Mathlib.Algebra.Order.Ring.Int
import Mathlib.Tactic.Linarith
import Mathlib.Tactic.Ring

/-!
# Numbers in words

Unsigned and two's-complement numbers in words of 16 bits, the high word first, and the other
orders of the bytes in a word and of the words.

`value_eq_iff` is the round trip in both directions: words have the value of a number that fits
them exactly if they are the words of the number.
-/

namespace DcimBackend.Library

/-- The order of the bytes of a word, or of the words of a number. -/
inductive Endian
  | big
  | little
deriving DecidableEq

/-- A word with its bytes exchanged. -/
def swapBytes (w : BitVec 16) : BitVec 16 := w.extractLsb' 0 8 ++ w.extractLsb' 8 8

/-- Words of high order first and with the high byte first, in other orders. -/
def arranged (bytes words : Endian) (ws : List (BitVec 16)) : List (BitVec 16) :=
  let ws := match words with
    | .big => ws
    | .little => ws.reverse
  match bytes with
  | .big => ws
  | .little => ws.map swapBytes

/-- The number of an unsigned number's words. -/
def ofWords : List (BitVec 16) → ℕ
  | [] => 0
  | w :: ws => w.toNat * 2 ^ (16 * ws.length) + ofWords ws

/-- The `n` words of a number. -/
def toWords : ℕ → ℤ → List (BitVec 16)
  | 0, _ => []
  | n + 1, v => BitVec.ofInt 16 (v / 2 ^ (16 * n)) :: toWords n v

/-- The number that words hold, in two's complement if they are `signed`. -/
def wordsValue (signed : Bool) (ws : List (BitVec 16)) : ℤ :=
  if signed ∧ 2 ^ (16 * ws.length) ≤ 2 * ofWords ws then ofWords ws - 2 ^ (16 * ws.length)
  else ofWords ws

/-- A number has a form in `n` words. -/
def FitsWords (signed : Bool) (n : ℕ) (v : ℤ) : Prop :=
  if signed then -2 ^ (16 * n) ≤ 2 * v ∧ 2 * v < 2 ^ (16 * n) else 0 ≤ v ∧ v < 2 ^ (16 * n)

variable {signed : Bool} {n : ℕ} {v : ℤ} {ws : List (BitVec 16)}

instance : Decidable (FitsWords signed n v) := by
  unfold FitsWords
  infer_instance

@[simp] theorem arranged_big_big : arranged .big .big ws = ws := rfl

@[simp] theorem length_arranged (bytes words : Endian) :
    (arranged bytes words ws).length = ws.length := by
  cases bytes <;> cases words <;> simp [arranged]

@[simp] theorem length_toWords : (toWords n v).length = n := by
  induction n with
  | zero => rfl
  | succ n ih => rw [toWords, List.length_cons, ih]

theorem ofWords_lt : ofWords ws < 2 ^ (16 * ws.length) := by
  induction ws with
  | nil => exact Nat.one_pos
  | cons w ws ih =>
      have hw : w.toNat + 1 ≤ 2 ^ 16 := w.isLt
      calc w.toNat * 2 ^ (16 * ws.length) + ofWords ws
          < w.toNat * 2 ^ (16 * ws.length) + 2 ^ (16 * ws.length) := Nat.add_lt_add_left ih _
        _ = (w.toNat + 1) * 2 ^ (16 * ws.length) := (Nat.succ_mul _ _).symm
        _ ≤ 2 ^ 16 * 2 ^ (16 * ws.length) := Nat.mul_le_mul_right _ hw
        _ = 2 ^ (16 * (w :: ws).length) := by
            rw [← Nat.pow_add, List.length_cons, Nat.mul_succ, Nat.add_comm]

/-- The high digit of a number. -/
theorem mul_add_div_of_lt {d r : ℕ} (q : ℕ) (hr : r < d) : (q * d + r) / d = q := by
  rw [Nat.mul_comm, Nat.mul_add_div (Nat.zero_lt_of_lt hr), Nat.div_eq_of_lt hr, Nat.add_zero]

/-- Numbers of as many words are equal only if their words are. -/
theorem eq_of_ofWords_eq {us : List (BitVec 16)} (hlength : us.length = ws.length)
    (h : ofWords us = ofWords ws) : us = ws := by
  induction us generalizing ws with
  | nil => exact (List.eq_nil_of_length_eq_zero hlength.symm).symm
  | cons u us ih =>
      obtain _ | ⟨w, ws⟩ := ws
      · cases hlength
      have hlength : us.length = ws.length := Nat.succ.inj hlength
      rw [ofWords, ofWords, hlength] at h
      have hus : ofWords us < 2 ^ (16 * ws.length) := hlength ▸ ofWords_lt
      have hhigh : u.toNat = w.toNat := by
        rw [← mul_add_div_of_lt u.toNat hus, h, mul_add_div_of_lt w.toNat ofWords_lt]
      have hlow : ofWords us = ofWords ws := by
        rw [hhigh] at h
        exact Nat.add_left_cancel h
      rw [BitVec.eq_of_toNat_eq hhigh, ih hlength hlow]

/-- The words of a number have its remainder. -/
theorem ofWords_toWords : (ofWords (toWords n v) : ℤ) = v % 2 ^ (16 * n) := by
  induction n with
  | zero => simp [toWords, ofWords]
  | succ n ih =>
      have hword : ((BitVec.ofInt 16 (v / 2 ^ (16 * n))).toNat : ℤ) =
          v / 2 ^ (16 * n) % 2 ^ 16 := by
        rw [BitVec.toNat_ofInt]
        exact Int.toNat_of_nonneg (Int.emod_nonneg _ (by decide))
      have hpow : (2 : ℤ) ^ (16 * (n + 1)) = 2 ^ (16 * n) * 2 ^ 16 := by
        rw [← pow_add, Nat.mul_succ]
      have hquotient : v / (2 ^ (16 * n) * 2 ^ 16) = v / 2 ^ (16 * n) / 2 ^ 16 :=
        (Int.ediv_ediv_of_nonneg (by positivity)).symm
      rw [toWords, ofWords, length_toWords, Nat.cast_add, Nat.cast_mul, hword, ih, hpow,
        Int.emod_def, Int.emod_def v, Int.emod_def v, hquotient]
      push_cast
      ring

/-- The remainder of a number that fits: a negative one is moved up. -/
theorem emod_of_fitsWords (hv : FitsWords signed n v) :
    v % 2 ^ (16 * n) = if v < 0 then v + 2 ^ (16 * n) else v := by
  have hpos : (0 : ℤ) < 2 ^ (16 * n) := by positivity
  have hlower : -2 ^ (16 * n) ≤ v := by
    unfold FitsWords at hv
    split at hv <;> omega
  have hupper : v < 2 ^ (16 * n) := by
    unfold FitsWords at hv
    split at hv <;> omega
  split
  · rw [← Int.add_emod_right, Int.emod_eq_of_lt (by omega) (by omega)]
  · exact Int.emod_eq_of_lt (by omega) hupper

/-- **Words hold a number that fits them** exactly if they are the words of the number. -/
theorem wordsValue_eq_iff (hlength : ws.length = n) (hv : FitsWords signed n v) :
    wordsValue signed ws = v ↔ ws = toWords n v := by
  have hwords : ws = toWords n v ↔ (ofWords ws : ℤ) = v % 2 ^ (16 * n) := by
    constructor
    · intro h
      rw [← ofWords_toWords, ← h]
    · intro h
      rw [← ofWords_toWords] at h
      exact eq_of_ofWords_eq (hlength.trans length_toWords.symm) (Int.ofNat.inj h)
  have hlt : ofWords ws < 2 ^ (16 * n) := hlength ▸ ofWords_lt
  rw [hwords, emod_of_fitsWords hv, wordsValue, hlength]
  have hcast : (2 : ℤ) ^ (16 * n) = ((2 ^ (16 * n) : ℕ) : ℤ) := by push_cast; rfl
  unfold FitsWords at hv
  rw [hcast] at hv ⊢
  clear hwords
  generalize 2 ^ (16 * n) = m at hv hlt ⊢
  cases signed with
  | false =>
      simp only [Bool.false_eq_true, false_and, if_false] at hv ⊢
      rw [if_neg (by omega)]
  | true =>
      simp only [true_and, if_true] at hv ⊢
      split_ifs <;> omega

end DcimBackend.Library
