import Mathlib.Data.List.Basic

/-!
# Texts that are joined by a separator

A part without the separator can be cut off a joined list at either end, so what is joined
from such parts determines them.  Decimals are parts of this kind.
-/

namespace DcimBackend.Library

variable {α : Type*} {sep : α} {a b x y : List α}

/-- Two parts in front end at the first separator. -/
theorem append_sep_inj (ha : sep ∉ a) (hb : sep ∉ b) :
    a ++ sep :: x = b ++ sep :: y ↔ a = b ∧ x = y := by
  refine ⟨fun h => ?_, fun ⟨h, h'⟩ => by rw [h, h']⟩
  induction a generalizing b with
  | nil =>
      cases b with
      | nil => exact ⟨rfl, (List.cons.inj h).2⟩
      | cons c b => exact absurd (by rw [(List.cons.inj h).1]; exact List.mem_cons_self) hb
  | cons c a ih =>
      cases b with
      | nil => exact absurd (by rw [← (List.cons.inj h).1]; exact List.mem_cons_self) ha
      | cons d b =>
          obtain ⟨rfl, htail⟩ := List.cons.inj h
          obtain ⟨rfl, hrest⟩ := ih (List.not_mem_of_not_mem_cons ha)
            (List.not_mem_of_not_mem_cons hb) htail
          exact ⟨rfl, hrest⟩

/-- Two parts at the end begin behind the last separator. -/
theorem sep_append_inj (ha : sep ∉ a) (hb : sep ∉ b) :
    x ++ sep :: a = y ++ sep :: b ↔ x = y ∧ a = b := by
  have hreversed := @append_sep_inj α sep a.reverse b.reverse x.reverse y.reverse
    (by simpa) (by simpa)
  rw [← List.reverse_inj, ← @List.reverse_inj _ x, ← @List.reverse_inj _ a, and_comm,
    ← hreversed]
  simp

/-- A decimal determines its number. -/
theorem toString_nat_inj {m n : ℕ} : toString m = toString n ↔ m = n := by
  refine ⟨fun h => ?_, congrArg _⟩
  have hdigits : Nat.toDigits 10 m = Nat.toDigits 10 n := by
    rw [← Nat.toList_repr, ← Nat.toList_repr]
    exact congrArg String.toList h
  rw [← @Nat.ofDigitChars_ten_toDigits m, hdigits, Nat.ofDigitChars_ten_toDigits]

/-- What is no digit is in no decimal. -/
theorem notMem_toString_nat {c : Char} {n : ℕ} (hc : c.isDigit = false) :
    c ∉ (toString n).toList := by
  intro h
  have hdigits : c ∈ Nat.toDigits 10 n := Nat.toList_repr ▸ h
  have hdigit := Nat.isDigit_of_mem_toDigits (by decide) (Nat.le_refl 10) hdigits
  rw [hc] at hdigit
  cases hdigit

end DcimBackend.Library
