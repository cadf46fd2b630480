import DcimBackend.Reports.Periods

/-!
# Month arithmetic

`apps/reports/models.py`, `ReportSchedule._add_months`, which shifts the runs and the windows of
monthly and quarterly schedules.  It works on any `datetime`, with or without a zone, and forwards
as well as backwards; `addMonths_exact` says what it returns as long as the year stays within the
calendar.  The windows of `Reports.Periods` shift dates with an offset: `shiftByFrequency_months`
says that this is the same function, so what `addMonths_exact` says of it holds of the windows.
-/

namespace DcimBackend

open Library

/-- A `datetime`: its `tzinfo`, if it has one, and its `fold`. -/
structure ZonedDateTime (ζ : Type*) extends LocalDateTime where
  tzinfo : Option ζ := none
  fold : Bool := false
deriving DecidableEq

/-- A `datetime` whose zone is an offset from UTC. -/
def DateTime.zoned (value : DateTime) : ZonedDateTime UtcOffset :=
  { value.toLocalDateTime with tzinfo := some value.offset }

namespace ReportSchedule

variable {ζ : Type*}

/-- `_add_months`.  `replace` refuses a date that the calendar does not have. -/
def addMonths (value : ZonedDateTime ζ) (months : ℤ) :
    Except ScheduleError (ZonedDateTime ζ) :=
  let monthIndex := value.date.month - 1 + months
  -- `//` and `%` round down in Python, as `/` and `%` by a positive number do here
  let year := value.date.year + monthIndex / 12
  let month := monthIndex % 12 + 1
  let day := min value.date.day (daysInMonth year month)
  match Date.mk? year month day with
  | some date => .ok { value with date := date }
  | none => .error .overflow

/-! ### What is asked of it -/

/-- The year that so many months lead to. -/
def targetYear (value : ZonedDateTime ζ) (months : ℤ) : ℤ :=
  value.date.year + (value.date.month - 1 + months) / 12

/-- The months do not lead out of the calendar. -/
def InCalendar (value : ZonedDateTime ζ) (months : ℤ) : Prop :=
  1 ≤ targetYear value months ∧ targetYear value months ≤ 9999

instance (value : ZonedDateTime ζ) (months : ℤ) : Decidable (InCalendar value months) :=
  inferInstanceAs (Decidable (_ ∧ _))

/-- So many months later, on the same day or else the last one of the month, at the same time in
the same zone. -/
structure MonthsLater (value : ZonedDateTime ζ) (months : ℤ) (result : ZonedDateTime ζ) :
    Prop where
  months : result.date.year * 12 + result.date.month =
    value.date.year * 12 + value.date.month + months
  day : result.date.day = min value.date.day (daysInMonth result.date.year result.date.month)
  time : result.time = value.time
  tzinfo : result.tzinfo = value.tzinfo
  fold : result.fold = value.fold

/-! ### What it returns -/

section Months

variable {value result : ZonedDateTime ζ} {months : ℤ}

theorem targetYear_eq :
    targetYear value months = yearOf (value.date.monthIndex + months) := by
  unfold targetYear yearOf Date.monthIndex
  omega

/-- The date is the one of the calendar's own month arithmetic. -/
theorem mk?_eq_addMonths (date : Date) (months : ℤ) :
    Date.mk? (date.year + (date.month - 1 + months) / 12) ((date.month - 1 + months) % 12 + 1)
        (min date.day (daysInMonth (date.year + (date.month - 1 + months) / 12)
          ((date.month - 1 + months) % 12 + 1))) =
      date.addMonths months := by
  have hyear : date.year + (date.month - 1 + months) / 12 =
      yearOf (date.monthIndex + months) := by
    unfold yearOf Date.monthIndex
    omega
  have hmonth : (date.month - 1 + months) % 12 + 1 = monthOf (date.monthIndex + months) := by
    unfold monthOf Date.monthIndex
    omega
  rw [hyear, hmonth]
  rfl

theorem addMonths_of_some {date : Date} (h : value.date.addMonths months = some date) :
    addMonths value months = .ok { value with date := date } := by
  rw [← mk?_eq_addMonths] at h
  unfold addMonths
  dsimp only
  rw [h]

theorem addMonths_of_none (h : value.date.addMonths months = none) :
    addMonths value months = .error .overflow := by
  rw [← mk?_eq_addMonths] at h
  unfold addMonths
  dsimp only
  rw [h]

/-- The result is the date that the calendar counts to, and the rest of the value. -/
theorem addMonths_eq_ok_iff :
    addMonths value months = .ok result ↔
      ∃ date, value.date.addMonths months = some date ∧ result = { value with date := date } := by
  cases hdate : value.date.addMonths months with
  | none =>
      rw [addMonths_of_none hdate]
      simp
  | some date =>
      rw [addMonths_of_some hdate]
      simp [eq_comm]

theorem monthsLater_iff : MonthsLater value months result ↔
    addMonths value months = .ok result := by
  rw [addMonths_eq_ok_iff]
  simp only [Date.addMonths_eq_some_iff]
  constructor
  · intro h
    refine ⟨result.date, ⟨?_, h.day⟩, ?_⟩
    · have hmonths := h.months
      unfold Date.monthIndex
      omega
    · obtain ⟨⟨date, time⟩, tzinfo, fold⟩ := result
      obtain ⟨-, -, rfl, rfl, rfl⟩ := h
      rfl
  · rintro ⟨date, ⟨hindex, hday⟩, rfl⟩
    refine ⟨?_, hday, rfl, rfl, rfl⟩
    unfold Date.monthIndex at hindex
    dsimp only
    omega

/-- It returns exactly as long as the year is one of the calendar. -/
theorem exists_addMonths_iff :
    (∃ result, addMonths value months = .ok result) ↔ InCalendar value months := by
  unfold InCalendar
  rw [targetYear_eq, ← Date.isSome_addMonths_iff, Option.isSome_iff_exists]
  simp only [addMonths_eq_ok_iff]
  constructor
  · rintro ⟨result, date, hdate, -⟩
    exact ⟨date, hdate⟩
  · rintro ⟨date, hdate⟩
    exact ⟨_, date, hdate, rfl⟩

/-- Later values are shifted to later ones. -/
theorem addMonths_le {later result' : ZonedDateTime ζ}
    (hle : value.date.toOrdinal ≤ later.date.toOrdinal)
    (hresult : addMonths value months = .ok result)
    (hresult' : addMonths later months = .ok result') :
    result.date.toOrdinal ≤ result'.date.toOrdinal := by
  obtain ⟨date, hdate, rfl⟩ := addMonths_eq_ok_iff.mp hresult
  obtain ⟨date', hdate', rfl⟩ := addMonths_eq_ok_iff.mp hresult'
  exact Date.toOrdinal_addMonths_le hle hdate hdate'

/-- The same number of months backwards leads back, unless the day has been clipped. -/
theorem addMonths_back (hresult : addMonths value months = .ok result)
    (hday : value.date.day ≤ daysInMonth result.date.year result.date.month) :
    addMonths result (-months) = .ok value := by
  obtain ⟨date, hdate, rfl⟩ := addMonths_eq_ok_iff.mp hresult
  exact addMonths_of_some (Date.addMonths_neg hdate hday)

end Months

/-- **Month arithmetic is exact.** -/
theorem addMonths_exact (value : ZonedDateTime ζ) (months : ℤ)
    (hyear : InCalendar value months) :
    ∃ result, addMonths value months = .ok result ∧ MonthsLater value months result ∧
      (∀ later : ZonedDateTime ζ, value.date.toOrdinal ≤ later.date.toOrdinal →
        ∀ result', addMonths later months = .ok result' →
          result.date.toOrdinal ≤ result'.date.toOrdinal) ∧
      (value.date.day ≤ daysInMonth result.date.year result.date.month →
        addMonths result (-months) = .ok value) := by
  obtain ⟨result, hresult⟩ := exists_addMonths_iff.mpr hyear
  exact ⟨result, hresult, monthsLater_iff.mpr hresult,
    fun _ hle _ hresult' => addMonths_le hle hresult hresult', addMonths_back hresult⟩

/-! ### Schedules that count in months -/

section Schedule

variable {s : ReportSchedule}

/-- Monthly and quarterly schedules shift by `_add_months`, in either direction. -/
theorem shiftByFrequency_months
    (hmonths : s.frequency = "MONTHLY" ∨ s.frequency = "QUARTERLY") (value : DateTime)
    (steps : ℤ) :
    (s.shiftByFrequency value steps).map DateTime.zoned =
      addMonths value.zoned (s.periodMonths * steps) := by
  unfold shiftByFrequency
  rw [shiftDate_months hmonths]
  cases hdate : value.date.addMonths (s.periodMonths * steps) with
  | none =>
      have hzoned : value.zoned.date.addMonths (s.periodMonths * steps) = none := hdate
      rw [addMonths_of_none hzoned]
      rfl
  | some date =>
      have hzoned : value.zoned.date.addMonths (s.periodMonths * steps) = some date := hdate
      rw [addMonths_of_some hzoned]
      rfl

end Schedule

end ReportSchedule

/-! ### Back into a February -/

theorem isDate_endOfMarch : IsDate 2024 3 31 := by decide

theorem isDate_endOfFebruary : IsDate 2023 2 28 := by decide

/-- The last day of March in 2024, in the current time zone. -/
def endOfMarch : ZonedDateTime UtcOffset where
  date := ⟨2024, 3, 31, isDate_endOfMarch⟩
  time := dawnReport.deliveryTime
  tzinfo := some currentTimeZone

/-- The last day of February in 2023, at the same time. -/
def endOfFebruary : ZonedDateTime UtcOffset :=
  { endOfMarch with date := ⟨2023, 2, 28, isDate_endOfFebruary⟩ }

theorem addMonths_exact_endOfMarch :
    ReportSchedule.addMonths endOfMarch (-13) = .ok endOfFebruary ∧
      ReportSchedule.MonthsLater endOfMarch (-13) endOfFebruary := by
  obtain ⟨result, hresult, hlater, -⟩ :=
    ReportSchedule.addMonths_exact endOfMarch (-13) (by decide)
  have heval : ReportSchedule.addMonths endOfMarch (-13) = .ok endOfFebruary := by decide
  obtain rfl := Except.ok.inj (hresult.symm.trans heval)
  exact ⟨hresult, hlater⟩

end DcimBackend
