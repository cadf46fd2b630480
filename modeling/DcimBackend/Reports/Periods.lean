import DcimBackend.Reports.Schedule

/-!
# The periods of a schedule

A claim sets the next run from its own time, and not from the time at which the schedule was due:
it takes the delivery time of its own date if that is still to come, and goes up one period from
there if it has passed.

So the weekday of a weekly report and the day of the month of the others are those of the last
claim.  `keepsPeriod_iff` says when the next run is still whole periods after the one that was
due.

`InPhase` is a condition on two dates, and runs no part of the schedule.  The date of a claim is
the one of its own clock, which need not be that of the schedule: shortly before midnight in UTC
it is already tomorrow in Dhaka.
-/

namespace DcimBackend.ReportSchedule

open Library

variable (s : ReportSchedule)

/-- The delivery time on a date. -/
def deliveryAt (date : Date) : DateTime :=
  makeAware (.naive { date := date, time := s.deliveryTime })

/-- At the reference, the delivery time of its own date has passed. -/
def Passed (reference : DateTime) : Prop :=
  (s.deliveryAt reference.date).instant ≤ reference.instant

instance (reference : DateTime) : Decidable (s.Passed reference) :=
  inferInstanceAs (Decidable (_ ≤ _))

/-- The months of a period that is counted in months. -/
def periodMonths : ℕ := if s.frequency = "QUARTERLY" then 3 else 1

/-- The month of the next run, for a period in months. -/
def nextMonth (reference : DateTime) : ℤ :=
  reference.date.monthIndex + if s.Passed reference then s.periodMonths else 0

/-- The date of the claim is whole periods from the date at which the schedule was due: weeks from
it, or months from it that lead to a later month, in which both days of the month are the
same. -/
def InPhase (due : Date) (now : DateTime) : Prop :=
  if s.frequency = "WEEKLY" then 7 ∣ now.date.toOrdinal - due.toOrdinal
  else
    let days := daysInMonth (yearOf (s.nextMonth now)) (monthOf (s.nextMonth now))
    (s.periodMonths : ℤ) ∣ now.date.monthIndex - due.monthIndex ∧
      due.monthIndex < s.nextMonth now ∧ min due.day days = min now.date.day days

instance (due : Date) (now : DateTime) : Decidable (s.InPhase due now) := by
  unfold InPhase
  infer_instance

/-- The next run is at the delivery time, on the date that was due or on one that is whole periods
after it. -/
def KeepsPeriod (due : Date) (next : Option DateTime) : Prop :=
  ∃ k : ℕ, 1 ≤ k ∧ ∃ date, s.shiftDate due k = some date ∧ next = some (s.deliveryAt date)

variable {s} {h : Hierarchy} {lower : String → String} {now p : DateTime} {due date : Date}
  {row : ReportSchedule} {window : DateTime × DateTime}

theorem instant_deliveryAt : (s.deliveryAt date).instant =
    date.toOrdinal * dayMicros + s.deliveryTime.micros - currentTimeZone.micros := rfl

theorem deliveryAt_injective {d e : Date} (heq : s.deliveryAt d = s.deliveryAt e) : d = e :=
  congrArg (fun value : DateTime => value.date) heq

/-! ### The date of the next run -/

/-- What a claim makes of its own date. -/
theorem exists_nextRunAt (hclaim : s.claim h lower now = .ok (row, window)) :
    ∃ date, row.nextRunAt = some (s.deliveryAt date) ∧
      (s.Passed now → s.shiftDate now.date 1 = some date) ∧
      (¬s.Passed now → date = now.date) := by
  obtain ⟨next, hnext, rfl, -, -⟩ := claim_ok hclaim
  rw [calculateNextRunAt_aware] at hnext
  by_cases hpassed : s.Passed now
  · rw [if_pos (show (s.deliveryOn now).instant ≤ now.instant from hpassed)] at hnext
    unfold shiftByFrequency at hnext
    split at hnext
    · rename_i date hdate
      obtain rfl := Except.ok.inj hnext
      exact ⟨date, rfl, fun _ => hdate, fun hnot => absurd hpassed hnot⟩
    · cases hnext
  · rw [if_neg (show ¬(s.deliveryOn now).instant ≤ now.instant from hpassed)] at hnext
    obtain rfl := Except.ok.inj hnext
    exact ⟨now.date, rfl, fun h => absurd h hpassed, fun _ => rfl⟩

/-- A date is not more than two days behind, whatever the zone of the claim. -/
theorem toOrdinal_le_of_due (hle : (s.deliveryAt due).instant ≤ now.instant) :
    due.toOrdinal ≤ now.date.toOrdinal + 2 := by
  have hdelivery := s.deliveryTime.bounds
  have htime := now.time.bounds
  have hoffset := now.offset.bounds
  rw [instant_deliveryAt, DateTime.instant] at hle
  unfold currentTimeZone at hle
  unfold dayMicros hourMicros at *
  dsimp only at hle
  omega

/-- As long as the delivery time of the claim's date is to come, the date is a later one. -/
theorem toOrdinal_lt_of_not_passed (hle : (s.deliveryAt due).instant ≤ now.instant)
    (hpassed : ¬s.Passed now) : due.toOrdinal < now.date.toOrdinal := by
  have hlt : (s.deliveryAt due).instant < (s.deliveryAt now.date).instant :=
    lt_of_le_of_lt hle (not_le.mp hpassed)
  rw [instant_deliveryAt, instant_deliveryAt] at hlt
  unfold dayMicros at hlt
  omega

/-! ### Weeks -/

theorem shiftDate_weekly (hweekly : s.frequency = "WEEKLY") (steps : ℤ) :
    s.shiftDate date steps = date.addDays (7 * steps) := by
  simp [shiftDate, hweekly]

/-- Whole weeks after the date that was due. -/
theorem exists_weeks_iff (hweekly : s.frequency = "WEEKLY") :
    (∃ k : ℕ, 1 ≤ k ∧ s.shiftDate due k = some date) ↔
      7 ∣ date.toOrdinal - due.toOrdinal ∧ due.toOrdinal < date.toOrdinal := by
  have hshift : ∀ k : ℕ, s.shiftDate due k = some date ↔
      date.toOrdinal = due.toOrdinal + 7 * k := by
    intro k
    rw [shiftDate_weekly hweekly]
    exact Date.addDaysNat_eq_some_iff (n := 7 * k)
  simp only [hshift]
  constructor
  · rintro ⟨k, hk, heq⟩
    omega
  · rintro ⟨⟨k, hk⟩, hlt⟩
    exact ⟨k.toNat, by omega, by omega⟩

/-! ### Months -/

theorem shiftDate_months (hmonths : s.frequency = "MONTHLY" ∨ s.frequency = "QUARTERLY")
    (steps : ℤ) : s.shiftDate date steps = date.addMonths (s.periodMonths * steps) := by
  rcases hmonths with h | h <;> simp [shiftDate, periodMonths, h, mul_comm]

/-- Whole periods of months after the date that was due. -/
theorem exists_months_iff (hmonths : s.frequency = "MONTHLY" ∨ s.frequency = "QUARTERLY") :
    (∃ k : ℕ, 1 ≤ k ∧ s.shiftDate due k = some date) ↔
      (s.periodMonths : ℤ) ∣ date.monthIndex - due.monthIndex ∧
        due.monthIndex < date.monthIndex ∧
        date.day = min due.day (daysInMonth date.year date.month) := by
  have hperiod : 1 ≤ s.periodMonths := by
    unfold periodMonths
    split <;> decide
  simp only [shiftDate_months hmonths, Date.addMonths_eq_some_iff]
  constructor
  · rintro ⟨k, hk, hindex, hday⟩
    refine ⟨⟨k, by omega⟩, ?_, hday⟩
    have hpos : 0 < s.periodMonths * k := Nat.mul_pos hperiod hk
    have hcast : ((s.periodMonths * k : ℕ) : ℤ) = s.periodMonths * k := by push_cast; rfl
    omega
  · rintro ⟨⟨k, hk⟩, hlt, hday⟩
    have hpos : 0 < k := by
      by_contra hneg
      have hle : (s.periodMonths : ℤ) * k ≤ 0 :=
        mul_nonpos_of_nonneg_of_nonpos (by omega) (not_lt.mp hneg)
      omega
    refine ⟨k.toNat, by omega, ?_, hday⟩
    rw [Int.toNat_of_nonneg hpos.le, ← hk]
    ring

/-! ### What a claim keeps -/

theorem keepsPeriod_iff_exists (hnext : row.nextRunAt = some (s.deliveryAt date)) :
    s.KeepsPeriod due row.nextRunAt ↔ ∃ k : ℕ, 1 ≤ k ∧ s.shiftDate due k = some date := by
  rw [hnext]
  refine exists_congr fun k => and_congr_right fun _ => ?_
  constructor
  · rintro ⟨other, hother, heq⟩
    rw [deliveryAt_injective (Option.some.inj heq)]
    exact hother
  · exact fun hdate => ⟨date, hdate, rfl⟩

/-- The month and the day of the next run, in periods of months. -/
theorem nextMonth_eq (hmonths : s.frequency = "MONTHLY" ∨ s.frequency = "QUARTERLY")
    (hlate : s.Passed now → s.shiftDate now.date 1 = some date)
    (hearly : ¬s.Passed now → date = now.date) :
    date.monthIndex = s.nextMonth now ∧
      date.day = min now.date.day (daysInMonth date.year date.month) := by
  unfold nextMonth
  by_cases hpassed : s.Passed now
  · have hdate := hlate hpassed
    rw [shiftDate_months hmonths, mul_one, Date.addMonths_eq_some_iff] at hdate
    rw [if_pos hpassed]
    exact hdate
  · obtain rfl := hearly hpassed
    rw [if_neg hpassed, min_eq_left now.date.isDate.day_bounds.2]
    exact ⟨(Int.add_zero _).symm, rfl⟩

/-- The month of the next run is as far from another one as the month of the claim, up to
periods. -/
theorem dvd_nextMonth_iff {month : ℤ} :
    (s.periodMonths : ℤ) ∣ s.nextMonth now - month ↔
      (s.periodMonths : ℤ) ∣ now.date.monthIndex - month := by
  unfold nextMonth
  split
  · rw [add_sub_right_comm, Int.dvd_add_left (Int.dvd_refl _)]
  · rw [Nat.cast_zero, add_zero]

/-- **Exactly when a claim keeps the period**: its date, in its own zone, is in phase with the date
at which the schedule was due. -/
theorem keepsPeriod_iff (hperiod : s.frequency ∈ ["WEEKLY", "MONTHLY", "QUARTERLY"])
    (hnext : s.nextRunAt = some p) (hp : p.instant = (s.deliveryAt due).instant)
    (hdue : s.isDue now) (hclaim : s.claim h lower now = .ok (row, window)) :
    s.KeepsPeriod due row.nextRunAt ↔ s.InPhase due now := by
  have hle : (s.deliveryAt due).instant ≤ now.instant := by
    obtain ⟨-, next, hsome, hle⟩ := s.isDue_iff.mp hdue
    obtain rfl := Option.some.inj (hnext.symm.trans hsome)
    rwa [hp] at hle
  obtain ⟨date, hrow, hlate, hearly⟩ := exists_nextRunAt hclaim
  rw [keepsPeriod_iff_exists hrow]
  by_cases hweekly : s.frequency = "WEEKLY"
  · rw [exists_weeks_iff hweekly, InPhase, if_pos hweekly]
    by_cases hpassed : s.Passed now
    · have hordinal : date.toOrdinal = now.date.toOrdinal + 7 := by
        have hdate := hlate hpassed
        rw [shiftDate_weekly hweekly] at hdate
        exact Date.toOrdinal_addDays hdate
      have htwo := toOrdinal_le_of_due hle
      omega
    · have hlt := toOrdinal_lt_of_not_passed hle hpassed
      rw [hearly hpassed, and_iff_left hlt]
  · have hmonths : s.frequency = "MONTHLY" ∨ s.frequency = "QUARTERLY" := by
      simpa [hweekly] using hperiod
    obtain ⟨hindex, hday⟩ := nextMonth_eq hmonths hlate hearly
    have hdays : daysInMonth (yearOf (s.nextMonth now)) (monthOf (s.nextMonth now)) =
        daysInMonth date.year date.month := by
      rw [← hindex, Date.yearOf_monthIndex, Date.monthOf_monthIndex]
    rw [exists_months_iff hmonths, InPhase, if_neg hweekly, hdays, hday, hindex,
      dvd_nextMonth_iff, eq_comm (a := min now.date.day _)]

end DcimBackend.ReportSchedule

namespace DcimBackend

open Library

/-! ### A weekly report -/

/-- The dawn report, each week, due on Tuesday the 2nd. -/
def weeklyReport : ReportSchedule :=
  { dawnReport with frequency := "WEEKLY", nextRunAt := some dawnDelivery }

/-- Five minutes after the delivery time, in UTC: eleven in the evening of Monday. -/
def minutesLater : DateTime :=
  { lateEvening with time := ⟨23 * hourMicros + hourMicros / 12, by decide⟩ }

/-- At one in the afternoon of Tuesday, in Dhaka. -/
def hoursLater : DateTime where
  date := dawnDelivery.date
  time := ⟨7 * hourMicros, by decide⟩
  offset := utc

/-- What a claim stores that makes this the next run. -/
def claimedReport (now : DateTime) (date : Date) : ReportSchedule :=
  weeklyReport.claimed now (weeklyReport.deliveryAt date)

/-- The window of a first claim. -/
def weekBefore (now : DateTime) (date : Date) : DateTime × DateTime :=
  ({ now with date := date }, now)

/-- Claimed in the afternoon, the report is due again on the Tuesday after. -/
theorem keepsPeriod_iff_hoursLater :
    weeklyReport.KeepsPeriod dawnDelivery.date
        (claimedReport hoursLater ⟨2024, 1, 9, by decide⟩).nextRunAt ↔
      weeklyReport.InPhase dawnDelivery.date hoursLater := by
  have hclaim : weeklyReport.claim twoSites asciiLower hoursLater =
      .ok (claimedReport hoursLater ⟨2024, 1, 9, by decide⟩,
        weekBefore hoursLater ⟨2023, 12, 26, by decide⟩) := by decide
  exact ReportSchedule.keepsPeriod_iff (p := dawnDelivery) (by decide) rfl rfl (by decide) hclaim

/-- Claimed within minutes, the report is due again on Monday. -/
theorem minutesLater_not_keepsPeriod :
    weeklyReport.isDue minutesLater ∧
      weeklyReport.claim twoSites asciiLower minutesLater =
        .ok (claimedReport minutesLater ⟨2024, 1, 8, by decide⟩,
          weekBefore minutesLater ⟨2023, 12, 25, by decide⟩) ∧
      ¬weeklyReport.KeepsPeriod dawnDelivery.date
        (claimedReport minutesLater ⟨2024, 1, 8, by decide⟩).nextRunAt := by
  refine ⟨by decide, by decide, ?_⟩
  rw [ReportSchedule.keepsPeriod_iff_exists rfl, ReportSchedule.exists_weeks_iff rfl]
  decide

end DcimBackend
