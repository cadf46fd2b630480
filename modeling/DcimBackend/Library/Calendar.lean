import Mathlib.Data.Int.Basic
import Mathlib.Tactic.IntervalCases
import Mathlib.Tactic.Linarith
import Mathlib.Tactic.Ring

/-!
# The proleptic Gregorian calendar

Dates from year 1 to year 9999, as a date type of a standard library has them,
with the day count (`toOrdinal`, day 1 being 0001-01-01) and the two kinds of
arithmetic: by days and by months.

Months are counted linearly: `monthIndex` numbers them through the years, and
`monthStart` is the day count of the first of a month.  One fact about the
calendar, `monthStart_succ`, carries everything: the next month starts after as
many days as the month has.

A date carries the proof that it exists (`IsDate`), so arithmetic either arrives at a date of the
calendar or overflows.  A day that a month does not have is clipped by `addMonths`, and nowhere
else.
-/

namespace DcimBackend.Library

/-- Leap years. -/
def isLeap (year : ℤ) : Prop := year % 4 = 0 ∧ (year % 100 ≠ 0 ∨ year % 400 = 0)

instance (year : ℤ) : Decidable (isLeap year) := inferInstanceAs (Decidable (_ ∧ _))

/-- The number of days of a month. -/
def daysInMonth (year month : ℤ) : ℤ :=
  if month = 2 then (if isLeap year then 29 else 28)
  else if month = 4 ∨ month = 6 ∨ month = 9 ∨ month = 11 then 30
  else 31

theorem daysInMonth_bounds (year month : ℤ) :
    28 ≤ daysInMonth year month ∧ daysInMonth year month ≤ 31 := by
  unfold daysInMonth
  split <;> split <;> omega

/-- Days before the first of January. -/
def daysBeforeYear (year : ℤ) : ℤ :=
  (year - 1) * 365 + (year - 1) / 4 - (year - 1) / 100 + (year - 1) / 400

/-- Days before the first of a month, within its year. -/
def daysBeforeMonth (year month : ℤ) : ℤ :=
  let leapDay := if isLeap year then 1 else 0
  if month = 1 then 0
  else if month = 2 then 31
  else if month = 3 then 59 + leapDay
  else if month = 4 then 90 + leapDay
  else if month = 5 then 120 + leapDay
  else if month = 6 then 151 + leapDay
  else if month = 7 then 181 + leapDay
  else if month = 8 then 212 + leapDay
  else if month = 9 then 243 + leapDay
  else if month = 10 then 273 + leapDay
  else if month = 11 then 304 + leapDay
  else 334 + leapDay

/-- The year of a linear month index. -/
def yearOf (index : ℤ) : ℤ := index / 12

/-- The month, 1 to 12, of a linear month index. -/
def monthOf (index : ℤ) : ℤ := index % 12 + 1

/-- The day count of the first of a month. -/
def monthStart (index : ℤ) : ℤ :=
  daysBeforeYear (yearOf index) + daysBeforeMonth (yearOf index) (monthOf index) + 1

theorem daysBeforeMonth_succ (year : ℤ) {month : ℤ} (hlow : 1 ≤ month)
    (hhigh : month ≤ 11) :
    daysBeforeMonth year (month + 1) =
      daysBeforeMonth year month + daysInMonth year month := by
  unfold daysBeforeMonth daysInMonth
  by_cases hleap : isLeap year <;>
    simp only [hleap, if_true, if_false] <;> interval_cases month <;> rfl

/-- A year has 365 days, and one more in a leap year. -/
theorem daysBeforeYear_succ (year : ℤ) :
    daysBeforeYear (year + 1) =
      daysBeforeYear year + daysBeforeMonth year 12 + daysInMonth year 12 := by
  have hbefore : daysBeforeMonth year 12 = 334 + if isLeap year then 1 else 0 := rfl
  have hdecember : daysInMonth year 12 = 31 := rfl
  rw [hbefore, hdecember]
  unfold daysBeforeYear
  split <;> rename_i hleap <;> unfold isLeap at hleap <;> omega

/-- **The next month starts after as many days as the month has.** -/
theorem monthStart_succ (index : ℤ) :
    monthStart (index + 1) =
      monthStart index + daysInMonth (yearOf index) (monthOf index) := by
  unfold monthStart
  by_cases hlast : monthOf index = 12
  · -- from December into the next year
    have hyear : yearOf (index + 1) = yearOf index + 1 := by
      unfold yearOf monthOf at *
      omega
    have hmonth : monthOf (index + 1) = 1 := by
      unfold monthOf at *
      omega
    have hfirst : daysBeforeMonth (yearOf index + 1) 1 = 0 := rfl
    rw [hyear, hmonth, hlast, daysBeforeYear_succ, hfirst]
    ring
  · have hyear : yearOf (index + 1) = yearOf index := by
      unfold yearOf monthOf at *
      omega
    have hmonth : monthOf (index + 1) = monthOf index + 1 := by
      unfold monthOf at *
      omega
    rw [hyear, hmonth, daysBeforeMonth_succ (yearOf index)
      (by unfold monthOf; omega) (by unfold monthOf at *; omega)]
    ring

/-- Going up `k` months adds at least 28 days for each. -/
theorem monthStart_add (index : ℤ) (k : ℕ) :
    monthStart index + 28 * k ≤ monthStart (index + k) := by
  induction k with
  | zero => simp
  | succ k ih =>
      have hstep := monthStart_succ (index + k)
      have hdays := (daysInMonth_bounds (yearOf (index + k)) (monthOf (index + k))).1
      have hindex : index + ((k + 1 : ℕ) : ℤ) = index + k + 1 := by push_cast; ring
      rw [hindex, hstep]
      push_cast
      linarith

theorem monthStart_le {i j : ℤ} (h : i ≤ j) : monthStart i ≤ monthStart j := by
  obtain ⟨k, rfl⟩ := Int.le.dest h
  have hadd := monthStart_add i k
  omega

/-! ### Dates -/

/-- Year, month and day name a date: the years are those a date type supports. -/
structure IsDate (year month day : ℤ) : Prop where
  year_bounds : 1 ≤ year ∧ year ≤ 9999
  month_bounds : 1 ≤ month ∧ month ≤ 12
  day_bounds : 1 ≤ day ∧ day ≤ daysInMonth year month

instance (year month day : ℤ) : Decidable (IsDate year month day) :=
  decidable_of_iff
    ((1 ≤ year ∧ year ≤ 9999) ∧ (1 ≤ month ∧ month ≤ 12) ∧
      (1 ≤ day ∧ day ≤ daysInMonth year month))
    ⟨fun h => ⟨h.1, h.2.1, h.2.2⟩, fun h => ⟨h.1, h.2, h.3⟩⟩

/-- A date. -/
structure Date where
  year : ℤ
  month : ℤ
  day : ℤ
  isDate : IsDate year month day
deriving DecidableEq

namespace Date

/-- The date of a year, month and day, if there is one. -/
def mk? (year month day : ℤ) : Option Date :=
  if h : IsDate year month day then some ⟨year, month, day, h⟩ else none

/-- The linear index of the month of a date. -/
def monthIndex (d : Date) : ℤ := d.year * 12 + (d.month - 1)

theorem yearOf_monthIndex (d : Date) : yearOf d.monthIndex = d.year := by
  have := d.isDate.month_bounds
  unfold yearOf monthIndex
  omega

theorem monthOf_monthIndex (d : Date) : monthOf d.monthIndex = d.month := by
  have := d.isDate.month_bounds
  unfold monthOf monthIndex
  omega

/-- The day count: 0001-01-01 is day 1. -/
def toOrdinal (d : Date) : ℤ :=
  daysBeforeYear d.year + daysBeforeMonth d.year d.month + d.day

theorem toOrdinal_eq (d : Date) : d.toOrdinal = monthStart d.monthIndex + (d.day - 1) := by
  rw [toOrdinal, monthStart, yearOf_monthIndex, monthOf_monthIndex]
  ring

/-- The day of a month, by its linear index. -/
def ofMonthIndex (index day : ℤ) : Option Date := mk? (yearOf index) (monthOf index) day

theorem toOrdinal_ofMonthIndex {index day : ℤ} {d : Date}
    (h : ofMonthIndex index day = some d) : d.toOrdinal = monthStart index + (day - 1) := by
  unfold ofMonthIndex mk? at h
  split at h
  · obtain rfl := Option.some.inj h
    rw [toOrdinal, monthStart]
    ring
  · cases h

theorem ofMonthIndex_eq_some_iff {index day : ℤ} {d : Date} :
    ofMonthIndex index day = some d ↔ d.monthIndex = index ∧ d.day = day := by
  unfold ofMonthIndex mk?
  constructor
  · intro h
    split at h
    · obtain rfl := Option.some.inj h
      refine ⟨?_, rfl⟩
      show yearOf index * 12 + (monthOf index - 1) = index
      unfold yearOf monthOf
      omega
    · cases h
  · rintro ⟨rfl, rfl⟩
    rw [yearOf_monthIndex, monthOf_monthIndex, dif_pos d.isDate]

theorem isSome_ofMonthIndex {index day : ℤ} (hfirst : 12 ≤ index) (hlast : index < 120000)
    (hday : 1 ≤ day ∧ day ≤ daysInMonth (yearOf index) (monthOf index)) :
    (ofMonthIndex index day).isSome := by
  have hdate : IsDate (yearOf index) (monthOf index) day := by
    refine ⟨?_, ?_, hday⟩
    · unfold yearOf
      omega
    · unfold monthOf
      omega
  rw [ofMonthIndex, mk?, dif_pos hdate]
  rfl

theorem monthIndex_bounds (d : Date) : 12 ≤ d.monthIndex ∧ d.monthIndex < 120000 := by
  have hyear := d.isDate.year_bounds
  have hmonth := d.isDate.month_bounds
  unfold monthIndex
  omega

/-- A date is in its month. -/
theorem toOrdinal_bounds (d : Date) :
    monthStart d.monthIndex ≤ d.toOrdinal ∧ d.toOrdinal < monthStart (d.monthIndex + 1) := by
  have hday := d.isDate.day_bounds
  rw [monthStart_succ, yearOf_monthIndex, monthOf_monthIndex, toOrdinal_eq]
  omega

theorem monthIndex_le {d e : Date} (h : d.toOrdinal ≤ e.toOrdinal) :
    d.monthIndex ≤ e.monthIndex := by
  by_contra hlt
  have hstart : monthStart (e.monthIndex + 1) ≤ monthStart d.monthIndex :=
    monthStart_le (by omega)
  have hd := d.toOrdinal_bounds
  have he := e.toOrdinal_bounds
  omega

/-- The day count names the date. -/
theorem toOrdinal_injective : Function.Injective toOrdinal := by
  intro d e h
  have hindex : d.monthIndex = e.monthIndex :=
    le_antisymm (monthIndex_le h.le) (monthIndex_le h.ge)
  have hday : d.day = e.day := by
    rw [toOrdinal_eq, toOrdinal_eq, hindex] at h
    omega
  have hdate : some d = some e := by
    rw [← ofMonthIndex_eq_some_iff.mpr ⟨rfl, rfl⟩, ← ofMonthIndex_eq_some_iff.mpr ⟨rfl, rfl⟩,
      hindex, hday]
  exact Option.some.inj hdate

/-- Dates are ordered by their months, and within a month by their days. -/
theorem toOrdinal_le_iff {d e : Date} :
    d.toOrdinal ≤ e.toOrdinal ↔
      d.monthIndex < e.monthIndex ∨ (d.monthIndex = e.monthIndex ∧ d.day ≤ e.day) := by
  constructor
  · intro h
    rcases lt_or_eq_of_le (monthIndex_le h) with hlt | heq
    · exact Or.inl hlt
    · rw [toOrdinal_eq, toOrdinal_eq, heq] at h
      exact Or.inr ⟨heq, by omega⟩
  · rintro (hlt | ⟨heq, hday⟩)
    · have hstart : monthStart (d.monthIndex + 1) ≤ monthStart e.monthIndex :=
        monthStart_le (by omega)
      have hd := d.toOrdinal_bounds
      have he := e.toOrdinal_bounds
      omega
    · rw [toOrdinal_eq, toOrdinal_eq, heq]
      omega

/-! ### Days -/

/-- The day after. -/
def next (d : Date) : Option Date :=
  if d.day < daysInMonth d.year d.month then ofMonthIndex d.monthIndex (d.day + 1)
  else ofMonthIndex (d.monthIndex + 1) 1

/-- The day before. -/
def prev (d : Date) : Option Date :=
  if 1 < d.day then ofMonthIndex d.monthIndex (d.day - 1)
  else
    let index := d.monthIndex - 1
    ofMonthIndex index (daysInMonth (yearOf index) (monthOf index))

theorem toOrdinal_next {d e : Date} (h : d.next = some e) :
    e.toOrdinal = d.toOrdinal + 1 := by
  unfold next at h
  split at h
  · rw [toOrdinal_ofMonthIndex h, toOrdinal_eq]
    ring
  · -- the last day of its month
    have hday := d.isDate.day_bounds
    rw [toOrdinal_ofMonthIndex h, toOrdinal_eq, monthStart_succ, yearOf_monthIndex,
      monthOf_monthIndex]
    omega

theorem toOrdinal_prev {d e : Date} (h : d.prev = some e) :
    e.toOrdinal = d.toOrdinal - 1 := by
  unfold prev at h
  split at h
  · rw [toOrdinal_ofMonthIndex h, toOrdinal_eq]
    ring
  · -- the first day of its month
    have hday := d.isDate.day_bounds
    have hstart := monthStart_succ (d.monthIndex - 1)
    rw [sub_add_cancel] at hstart
    rw [toOrdinal_ofMonthIndex h, toOrdinal_eq]
    omega

/-- `n` days on, unless the calendar ends before. -/
def addDaysNat (d : Date) : ℕ → Option Date
  | 0 => some d
  | n + 1 => (d.addDaysNat n).bind next

/-- `n` days back, unless the calendar starts after. -/
def subDaysNat (d : Date) : ℕ → Option Date
  | 0 => some d
  | n + 1 => (d.subDaysNat n).bind prev

/-- Add a number of days, or raise an overflow. -/
def addDays (d : Date) : ℤ → Option Date
  | .ofNat n => d.addDaysNat n
  | .negSucc n => d.subDaysNat (n + 1)

theorem toOrdinal_addDays {d e : Date} {days : ℤ} (h : d.addDays days = some e) :
    e.toOrdinal = d.toOrdinal + days := by
  cases days with
  | ofNat n =>
      change d.addDaysNat n = some e at h
      induction n generalizing e with
      | zero =>
          obtain rfl := Option.some.inj h
          simp
      | succ n ih =>
          obtain ⟨c, hc, hnext⟩ := Option.bind_eq_some_iff.mp h
          rw [toOrdinal_next hnext, ih hc]
          simp only [Int.ofNat_eq_natCast]
          push_cast
          ring
  | negSucc n =>
      change d.subDaysNat (n + 1) = some e at h
      have hsub : ∀ (m : ℕ) {e : Date}, d.subDaysNat m = some e →
          e.toOrdinal = d.toOrdinal - m := by
        intro m
        induction m with
        | zero =>
            rintro e hm
            obtain rfl := Option.some.inj hm
            simp
        | succ m ih =>
            intro e hm
            obtain ⟨c, hc, hprev⟩ := Option.bind_eq_some_iff.mp hm
            rw [toOrdinal_prev hprev, ih hc]
            push_cast
            ring
      rw [hsub (n + 1) h, Int.negSucc_eq]
      push_cast
      ring

/-- A date with another one after it has a next day. -/
theorem isSome_next {d e : Date} (h : d.toOrdinal < e.toOrdinal) : d.next.isSome := by
  have hbounds := d.monthIndex_bounds
  have hday := d.isDate.day_bounds
  unfold next
  split
  · refine isSome_ofMonthIndex hbounds.1 hbounds.2 ?_
    rw [yearOf_monthIndex, monthOf_monthIndex]
    omega
  · -- the last day of its month, so the later date is in a later month
    have hindex := monthIndex_le h.le
    have hnext : d.monthIndex + 1 ≤ e.monthIndex := by
      by_contra hsame
      have heq : e.monthIndex = d.monthIndex := by omega
      have he := e.toOrdinal_bounds.2
      rw [heq, monthStart_succ, yearOf_monthIndex, monthOf_monthIndex] at he
      rw [toOrdinal_eq] at h
      omega
    have hlast := e.monthIndex_bounds
    have hone := daysInMonth_bounds (yearOf (d.monthIndex + 1)) (monthOf (d.monthIndex + 1))
    exact isSome_ofMonthIndex (by omega) (by omega) (by omega)

/-- Going up reaches every later date. -/
theorem addDaysNat_eq_some_iff {d e : Date} {n : ℕ} :
    d.addDaysNat n = some e ↔ e.toOrdinal = d.toOrdinal + n := by
  constructor
  · exact @toOrdinal_addDays d e n
  · intro h
    have hreach : ∀ m ≤ n, ∃ c, d.addDaysNat m = some c := by
      intro m
      induction m with
      | zero => exact fun _ => ⟨d, rfl⟩
      | succ m ih =>
          intro hm
          obtain ⟨c, hc⟩ := ih (Nat.le_of_succ_le hm)
          have hordinal := @toOrdinal_addDays d c m hc
          have hlt : c.toOrdinal < e.toOrdinal := by
            rw [hordinal, h]
            omega
          obtain ⟨f, hf⟩ := Option.isSome_iff_exists.mp (isSome_next hlt)
          exact ⟨f, by rw [addDaysNat, hc]; exact hf⟩
    obtain ⟨c, hc⟩ := hreach n le_rfl
    have hordinal := @toOrdinal_addDays d c n hc
    rw [hc, toOrdinal_injective (hordinal.trans h.symm)]

/-! ### Months -/

/-- Add a number of months, clipping the day to the month arrived at, or raise an
overflow. -/
def addMonths (d : Date) (months : ℤ) : Option Date :=
  let index := d.monthIndex + months
  ofMonthIndex index (min d.day (daysInMonth (yearOf index) (monthOf index)))

/-- Months go up by the index, and the day is clipped. -/
theorem addMonths_eq_some_iff {d e : Date} {months : ℤ} :
    d.addMonths months = some e ↔ e.monthIndex = d.monthIndex + months ∧
      e.day = min d.day (daysInMonth e.year e.month) := by
  rw [addMonths, ofMonthIndex_eq_some_iff]
  refine and_congr_right fun hindex => ?_
  rw [← hindex, yearOf_monthIndex, monthOf_monthIndex]

/-- The months that can be added are those that stay within the years of the calendar. -/
theorem isSome_addMonths_iff {d : Date} {months : ℤ} :
    (d.addMonths months).isSome ↔
      1 ≤ yearOf (d.monthIndex + months) ∧ yearOf (d.monthIndex + months) ≤ 9999 := by
  constructor
  · intro h
    obtain ⟨e, he⟩ := Option.isSome_iff_exists.mp h
    rw [← (addMonths_eq_some_iff.mp he).1, yearOf_monthIndex]
    exact e.isDate.year_bounds
  · rintro ⟨hfirst, hlast⟩
    have hday := d.isDate.day_bounds
    have hdays := daysInMonth_bounds (yearOf (d.monthIndex + months))
      (monthOf (d.monthIndex + months))
    unfold yearOf at hfirst hlast
    apply isSome_ofMonthIndex
    · omega
    · omega
    · omega

/-- Adding a number of months keeps the order of two dates. -/
theorem toOrdinal_addMonths_le {d e d' e' : Date} {months : ℤ}
    (hle : d.toOrdinal ≤ e.toOrdinal) (hd : d.addMonths months = some d')
    (he : e.addMonths months = some e') : d'.toOrdinal ≤ e'.toOrdinal := by
  obtain ⟨hindexd, hdayd⟩ := addMonths_eq_some_iff.mp hd
  obtain ⟨hindexe, hdaye⟩ := addMonths_eq_some_iff.mp he
  rw [toOrdinal_le_iff] at hle ⊢
  rcases hle with hlt | ⟨heq, hday⟩
  · exact Or.inl (by omega)
  · -- in one month, both days are clipped alike
    have hsame : d'.monthIndex = e'.monthIndex := by omega
    have hyear : d'.year = e'.year := by
      rw [← yearOf_monthIndex, hsame, yearOf_monthIndex]
    have hmonth : d'.month = e'.month := by
      rw [← monthOf_monthIndex, hsame, monthOf_monthIndex]
    refine Or.inr ⟨hsame, ?_⟩
    rw [hdayd, hdaye, hyear, hmonth]
    exact min_le_min_right _ hday

/-- A number of months is taken back, unless the day has been clipped. -/
theorem addMonths_neg {d e : Date} {months : ℤ} (h : d.addMonths months = some e)
    (hday : d.day ≤ daysInMonth e.year e.month) : e.addMonths (-months) = some d := by
  obtain ⟨hindex, hclipped⟩ := addMonths_eq_some_iff.mp h
  rw [min_eq_left hday] at hclipped
  rw [addMonths_eq_some_iff]
  constructor
  · rw [hindex]
    ring
  · rw [hclipped, min_eq_left d.isDate.day_bounds.2]

/-- Going up at least one month is going up at least 28 days. -/
theorem toOrdinal_addMonths {d e : Date} {months : ℕ} (hmonths : 1 ≤ months)
    (h : d.addMonths months = some e) : d.toOrdinal + 28 ≤ e.toOrdinal := by
  have he := toOrdinal_ofMonthIndex h
  have hday := d.isDate.day_bounds
  have hdays := daysInMonth_bounds (yearOf (d.monthIndex + months))
    (monthOf (d.monthIndex + months))
  have hnext := monthStart_succ d.monthIndex
  rw [yearOf_monthIndex, monthOf_monthIndex] at hnext
  have hown := daysInMonth_bounds d.year d.month
  -- the months after the first are at least 28 days each
  have hrest : monthStart (d.monthIndex + 1) ≤ monthStart (d.monthIndex + months) := by
    obtain ⟨k, rfl⟩ : ∃ k, months = k + 1 := ⟨months - 1, by omega⟩
    have := monthStart_add (d.monthIndex + 1) k
    have hindex : d.monthIndex + ((k + 1 : ℕ) : ℤ) = d.monthIndex + 1 + k := by
      push_cast
      ring
    rw [hindex]
    omega
  rw [he, toOrdinal_eq]
  omega

end Date

end DcimBackend.Library
