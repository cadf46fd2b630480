import DcimBackend.Common.Decimal
import DcimBackend.Common.Text

/-!
# Phone numbers of the SMS gateway

`_normalize_bangladesh_mobile` keeps the digits of a text and looks at how many there are and how
they begin.  Its `\D` is that of Unicode, so the digits of every script are kept, and a text with
twelve digits is cut down to ten.

`writtenForms` lists the digits with which a number may be written: the national form, and behind
the code of the country with or without its zero; what stands between them is not kept.  The
Unicode digits matter because the result is sent to a gateway as it is.
-/

namespace DcimBackend

/-- `re.sub(r"\D+", "", phone)`. -/
def phoneDigits (phone : String) : List Char :=
  phone.toList.filter fun c => (unicodeDecimal c).isSome

/-- `_normalize_bangladesh_mobile`, with the message of its `ValueError`. -/
def normalizeBangladeshMobile (phone : String) : Except String String :=
  let digits := phoneDigits phone
  if digits.length = 11 ∧ "01".toList.isPrefixOf digits then
    .ok (String.ofList digits)
  else if digits.length = 13 ∧ "880".toList.isPrefixOf digits ∧ digits[3]? = some '1' then
    .ok (String.ofList (digits.drop 2))
  else if digits.length = 12 ∧ "88".toList.isPrefixOf digits ∧ digits[2]? = some '0' ∧
      digits[3]? = some '1' then
    .ok (String.ofList (digits.drop 2))
  else
    .error "Recipient phone/mobile must be a valid 11-digit Bangladeshi mobile number."

/-! ### National numbers -/

/-- A national number: eleven ASCII digits that begin with `01`. -/
structure IsNational (number : String) : Prop where
  length_eq : number.toList.length = 11
  isDigit : ∀ c ∈ number.toList, c.isDigit = true
  starts : "01".toList <+: number.toList

/-- The digits of a number as it may be written: national, behind `88` or behind `880`, with its
zero or without. -/
def writtenForms (number : String) : List (List Char) :=
  let digits := number.toList
  [digits, "88".toList ++ digits, "880".toList ++ digits, "880".toList ++ digits.drop 1]

variable {phone result number : String}

theorem phoneDigits_of_isDigit {digits : List Char} (h : ∀ c ∈ digits, c.isDigit = true) :
    phoneDigits (String.ofList digits) = digits := by
  unfold phoneDigits
  rw [String.toList_ofList, List.filter_eq_self]
  intro c hc
  rw [unicodeDecimal_of_isDigit (h c hc)]
  rfl

/-- What is accepted: nine digits behind `01`, or nine or eight behind `8801`. -/
theorem normalizeBangladeshMobile_ok_iff :
    normalizeBangladeshMobile phone = .ok result ↔
      ∃ rest, result = String.ofList ('0' :: '1' :: rest) ∧
        (phoneDigits phone = '0' :: '1' :: rest ∧ rest.length = 9 ∨
          phoneDigits phone = '8' :: '8' :: '0' :: '1' :: rest ∧
            (rest.length = 9 ∨ rest.length = 8)) := by
  unfold normalizeBangladeshMobile
  dsimp only
  generalize phoneDigits phone = digits
  constructor
  · intro h
    split at h
    · rename_i hnational
      obtain ⟨hlength, hprefix⟩ := hnational
      obtain ⟨rest, rfl⟩ := List.isPrefixOf_iff_prefix.mp hprefix
      simp at hlength
      exact ⟨rest, (Except.ok.inj h).symm, Or.inl ⟨rfl, by omega⟩⟩
    split at h
    · rename_i hlong
      obtain ⟨hlength, hprefix, hthird⟩ := hlong
      obtain ⟨rest, rfl⟩ := List.isPrefixOf_iff_prefix.mp hprefix
      obtain ⟨rest, rfl⟩ : ∃ rest', rest = '1' :: rest' := by
        rcases rest with _ | ⟨c, rest⟩
        · cases hthird
        · exact ⟨rest, congrArg (· :: rest) (Option.some.inj hthird)⟩
      simp at hlength
      exact ⟨rest, (Except.ok.inj h).symm, Or.inr ⟨rfl, Or.inl (by omega)⟩⟩
    split at h
    · rename_i hshort
      obtain ⟨hlength, hprefix, hsecond, hthird⟩ := hshort
      obtain ⟨rest, rfl⟩ := List.isPrefixOf_iff_prefix.mp hprefix
      obtain ⟨rest, rfl⟩ : ∃ rest', rest = '0' :: '1' :: rest' := by
        rcases rest with _ | ⟨c, _ | ⟨d, rest⟩⟩
        · cases hsecond
        · cases hthird
        · obtain rfl := Option.some.inj hsecond
          obtain rfl := Option.some.inj hthird
          exact ⟨rest, rfl⟩
      simp at hlength
      exact ⟨rest, (Except.ok.inj h).symm, Or.inr ⟨rfl, Or.inr (by omega)⟩⟩
    · cases h
  · rintro ⟨rest, rfl, ⟨rfl, hlength⟩ | ⟨rfl, hlength | hlength⟩⟩
    · exact if_pos ⟨by simp [hlength], rfl⟩
    · rw [if_neg (by simp [hlength]), if_pos ⟨by simp [hlength], rfl, rfl⟩]
      rfl
    · rw [if_neg (by simp [hlength]), if_neg (by simp [hlength]),
        if_pos ⟨by simp [hlength], rfl, rfl, rfl⟩]
      rfl

theorem isNational_cons_iff {rest : List Char} :
    IsNational (String.ofList ('0' :: '1' :: rest)) ↔
      rest.length = 9 ∧ ∀ c ∈ rest, c.isDigit = true := by
  constructor
  · rintro ⟨hlength, hascii, -⟩
    rw [String.toList_ofList] at hlength hascii
    refine ⟨by simpa using hlength, fun c hc => hascii c ?_⟩
    exact List.mem_cons_of_mem _ (List.mem_cons_of_mem _ hc)
  · rintro ⟨hlength, hascii⟩
    constructor
    · rw [String.toList_ofList]
      simp [hlength]
    · rw [String.toList_ofList, List.forall_mem_cons, List.forall_mem_cons]
      exact ⟨rfl, rfl, hascii⟩
    · exact ⟨rest, (String.toList_ofList ..).symm⟩

theorem IsNational.exists_eq (h : IsNational number) :
    ∃ rest, number.toList = '0' :: '1' :: rest ∧ rest.length = 9 := by
  obtain ⟨rest, hrest⟩ := h.starts
  have hlength := h.length_eq
  rw [← hrest] at hlength
  exact ⟨rest, hrest.symm, by simpa using hlength⟩

/-- A result is a national number exactly if the digits were ASCII, and not twelve. -/
theorem isNational_iff (h : normalizeBangladeshMobile phone = .ok result) :
    IsNational result ↔
      (phoneDigits phone).length ≠ 12 ∧ ∀ c ∈ phoneDigits phone, c.isDigit = true := by
  obtain ⟨rest, rfl, hdigits⟩ := normalizeBangladeshMobile_ok_iff.mp h
  rw [isNational_cons_iff]
  rcases hdigits with ⟨hdigits, hlength⟩ | ⟨hdigits, hlength⟩ <;> rw [hdigits]
  · simp [hlength]
  · simp only [List.length_cons, List.forall_mem_cons]
    constructor
    · rintro ⟨hnine, hascii⟩
      exact ⟨by omega, rfl, rfl, rfl, rfl, hascii⟩
    · rintro ⟨htwelve, -, -, -, -, hascii⟩
      exact ⟨by omega, hascii⟩

/-- A national number is normal. -/
theorem IsNational.normalizes (h : IsNational number) :
    normalizeBangladeshMobile number = .ok number := by
  obtain ⟨rest, hnumber, hlength⟩ := h.exists_eq
  have hdigits : phoneDigits number = number.toList := by
    have hascii := phoneDigits_of_isDigit h.isDigit
    rwa [String.ofList_toList] at hascii
  refine normalizeBangladeshMobile_ok_iff.mpr ⟨rest, ?_, Or.inl ⟨hdigits.trans hnumber, hlength⟩⟩
  rw [← hnumber, String.ofList_toList]

/-- However a national number is written, it is the result if there is one. -/
theorem result_of_mem_writtenForms (h : normalizeBangladeshMobile phone = .ok result)
    (hnumber : IsNational number) (hform : phoneDigits phone ∈ writtenForms number) :
    result = number := by
  obtain ⟨rest, rfl, hdigits⟩ := normalizeBangladeshMobile_ok_iff.mp h
  obtain ⟨rest', hnumber, hlength'⟩ := hnumber.exists_eq
  rw [← String.toList_inj, String.toList_ofList, hnumber]
  simp only [writtenForms, hnumber, List.mem_cons, List.not_mem_nil, or_false] at hform
  rcases hdigits with ⟨hdigits, hlength⟩ | ⟨hdigits, hlength⟩ <;> rw [hdigits] at hform
  · -- eleven digits are the number itself
    rcases hform with hform | hform | hform | hform
    · exact hform
    all_goals simp at hform
  · rcases hform with hform | hform | hform | hform
    · simp at hform
    · exact (List.cons.inj (List.cons.inj hform).2).2
    · -- the zero stands behind `880` once more, and there are fourteen digits
      have hcount := congrArg List.length hform
      simp [hlength'] at hcount
      omega
    · exact (List.cons.inj (List.cons.inj hform).2).2

/-! ### The number of a phone -/

/-- The number behind the code `88` of the country, if a phone is written with it. -/
structure IsNumberOf (number phone : String) : Prop where
  starts : "01".toList <+: number.toList
  digits : phoneDigits phone = number.toList ∨ phoneDigits phone = "88".toList ++ number.toList

theorem isNumberOf_of_normalizes (h : normalizeBangladeshMobile phone = .ok result) :
    IsNumberOf result phone := by
  obtain ⟨rest, rfl, hdigits⟩ := normalizeBangladeshMobile_ok_iff.mp h
  refine ⟨⟨rest, (String.toList_ofList ..).symm⟩, ?_⟩
  rw [String.toList_ofList]
  exact hdigits.imp And.left And.left

/-- No space is a digit. -/
theorem unicodeDecimal_of_isSpace {c : Char} (h : pyStrip.isSpace c = true) :
    unicodeDecimal c = none := by
  unfold unicodeDecimal
  rw [Option.map_eq_none_iff, List.find?_eq_none]
  have hspace := of_decide_eq_true h
  generalize c.toNat = code at hspace
  revert code
  decide

theorem filter_dropWhile_isSpace (cs : List Char) :
    (cs.dropWhile pyStrip.isSpace).filter (fun c => (unicodeDecimal c).isSome) =
      cs.filter fun c => (unicodeDecimal c).isSome := by
  induction cs with
  | nil => rfl
  | cons c cs ih =>
      rw [List.dropWhile_cons]
      split
      · rename_i hspace
        rw [ih, List.filter_cons, unicodeDecimal_of_isSpace hspace]
        rfl
      · rfl

/-- The blanks around a phone hold no digits. -/
theorem phoneDigits_pyStrip (phone : String) : phoneDigits (pyStrip phone) = phoneDigits phone := by
  unfold phoneDigits pyStrip
  rw [String.toList_ofList, List.filter_reverse, filter_dropWhile_isSpace, List.filter_reverse,
    filter_dropWhile_isSpace, List.reverse_reverse]

/-- **Phone numbers are normalized** exactly if the digits are ASCII, and not twelve. -/
theorem normalizes_iff (h : normalizeBangladeshMobile phone = .ok result) :
    (IsNational result ∧ normalizeBangladeshMobile result = .ok result ∧
      ∀ number, IsNational number → phoneDigits phone ∈ writtenForms number → result = number) ↔
      (phoneDigits phone).length ≠ 12 ∧ ∀ c ∈ phoneDigits phone, c.isDigit = true := by
  rw [← isNational_iff h]
  constructor
  · rintro ⟨hresult, -, -⟩
    exact hresult
  · intro hresult
    exact ⟨hresult, hresult.normalizes, fun number hnumber => result_of_mem_writtenForms h hnumber⟩

theorem normalizes_iff_international :
    (IsNational "01712345678" ∧ normalizeBangladeshMobile "01712345678" = .ok "01712345678" ∧
      ∀ number, IsNational number → phoneDigits "+880 1712-345678" ∈ writtenForms number →
        "01712345678" = number) ↔
      (phoneDigits "+880 1712-345678").length ≠ 12 ∧
        ∀ c ∈ phoneDigits "+880 1712-345678", c.isDigit = true :=
  normalizes_iff (by decide)

/-- Twelve digits are accepted, and ten of them sent to the gateway. -/
theorem twelveDigits_not_national :
    ¬∀ phone result, normalizeBangladeshMobile phone = .ok result → IsNational result := by
  intro h
  have hnational : IsNational "0171234567" := h "+880 171234567" "0171234567" (by decide)
  exact absurd hnational.length_eq (by decide)

end DcimBackend
