import DcimBackend.Library.Transaction
import DcimBackend.Reports.Schedule
import Mathlib.Data.List.Sort

/-!
# Claiming the due schedules

`claim_due_report_schedules` of `apps/reports/services/schedules.py`: all due schedules in
one transaction and one loop, in which every save validates its whole row.

A refused row raises out of the loop, and the transaction takes back the claims before it.
`others_claimed_iff` says what this means for the other schedules: they are claimed if and
only if there is no refused row, or nothing else to claim.

Rows that another transaction has locked are skipped; here there is none.

A refused row is a matter of the whole loop, and a saved row one of the row alone: the proof looks
at the loop as a list of saves, of which the first that raises decides about all.
-/

namespace DcimBackend

open Library

/-- A stored schedule, with the column that orders equal next runs. -/
structure StoredSchedule extends ReportSchedule where
  createdAt : ℤ
deriving DecidableEq

instance : Keyed StoredSchedule := ⟨fun s => s.id⟩

/-- `ClaimedSchedule`, with the start and the end of the window. -/
structure ClaimedSchedule where
  scheduleId : ℕ
  window : DateTime × DateTime
deriving DecidableEq

/-- What claiming works on. -/
structure ReportsDb where
  hierarchy : Hierarchy
  schedules : Table StoredSchedule

namespace ReportsDb

variable (db : ReportsDb) (lower : String → String) (now : DateTime)

/-- The order of `order_by("next_run_at", "created_at")`.  A due schedule has a next run. -/
def claimedBefore (a b : StoredSchedule) : Bool :=
  let next := fun s : StoredSchedule => s.nextRunAt.elim 0 DateTime.instant
  next a < next b || next a = next b && a.createdAt ≤ b.createdAt

/-- The due schedules, in the order in which they are claimed. -/
def dueSchedules : List StoredSchedule :=
  (db.schedules.select fun s => s.isDue now).insertionSort fun a b => claimedBefore a b

/-- The row of a schedule is saved. -/
def putSchedule (s : StoredSchedule) : ReportsDb :=
  { db with schedules := db.schedules.save s }

end ReportsDb

section Claims

variable (lower : String → String) (now : DateTime)

/-- One round of the loop: the row is validated and saved, or raises. -/
def claimSchedule (s : StoredSchedule) : Tx ScheduleError ReportsDb ClaimedSchedule := fun db =>
  match s.claim db.hierarchy lower now with
  | .ok (row, window) =>
      (.ok ⟨s.id, window⟩, db.putSchedule { s with toReportSchedule := row })
  | .error e => (.error e, db)

/-- The loop. -/
def claimSchedules : List StoredSchedule → Tx ScheduleError ReportsDb (List ClaimedSchedule)
  | [] => return []
  | s :: schedules => do
      let claimed ← claimSchedule lower now s
      let others ← claimSchedules schedules
      return claimed :: others

/-- `claim_due_report_schedules`. -/
def claimDueReportSchedules (limit : ℕ) : Tx ScheduleError ReportsDb (List ClaimedSchedule) :=
  Tx.atomic do
    let due ← Tx.read fun db => (db.dueSchedules now).take limit
    claimSchedules lower now due

end Claims

namespace ReportsDb

variable {db db' : ReportsDb} {lower : String → String} {now : DateTime} {s : StoredSchedule}

/-- Saving the schedule, claimed at `now`, does not raise. -/
def Saves (db : ReportsDb) (lower : String → String) (now : DateTime) (s : StoredSchedule) :
    Prop :=
  (s.claim db.hierarchy lower now).isOk

instance : Decidable (Saves db lower now s) := inferInstanceAs (Decidable (_ = true))

/-- The call has claimed the schedule: its last run is now, its next run not before, and
it is in the list that is returned. -/
def Claimed (now : DateTime) (s : StoredSchedule)
    (outcome : Except ScheduleError (List ClaimedSchedule) × ReportsDb) : Prop :=
  (∃ row ∈ outcome.2.schedules, row.id = s.id ∧ row.lastRunAt = some now ∧
      row.nextRunAt.any fun next => now.instant ≤ next.instant) ∧
    ∃ claimed ∈ outcome.1.toOption.getD [], claimed.scheduleId = s.id

instance (outcome : Except ScheduleError (List ClaimedSchedule) × ReportsDb) :
    Decidable (Claimed now s outcome) :=
  inferInstanceAs (Decidable (_ ∧ _))

/-- A call of `claim_due_report_schedules` claims every due schedule that can be saved. -/
def ClaimsEveryOther (db : ReportsDb) (lower : String → String) (now : DateTime) (limit : ℕ) :
    Prop :=
  ∀ s ∈ db.dueSchedules now, Saves db lower now s →
    Claimed now s (claimDueReportSchedules lower now limit db)

instance (limit : ℕ) : Decidable (ClaimsEveryOther db lower now limit) :=
  inferInstanceAs (Decidable (∀ s ∈ _, _))

/-- No schedule is due twice. -/
theorem nodup_pk_dueSchedules : ((db.dueSchedules now).map pk).Nodup := by
  have hselect : ((db.schedules.select fun s => s.isDue now).map pk).Nodup :=
    (List.filter_sublist.map pk).nodup db.schedules.nodup_pk
  exact ((List.perm_insertionSort _ _).map pk).nodup_iff.mpr hselect

/-! ### One round -/

/-- A claim that saves stores the claimed row, and reports the schedule. -/
theorem claimSchedule_of_saves (hsaves : Saves db lower now s) :
    ∃ next window, now.instant ≤ next.instant ∧
      claimSchedule lower now s db =
        (.ok ⟨s.id, window⟩,
          db.putSchedule { s with toReportSchedule := s.claimed now next }) := by
  rcases hclaim : s.claim db.hierarchy lower now with e | ⟨row, window⟩
  · rw [Saves, hclaim] at hsaves
    cases hsaves
  · obtain ⟨next, -, rfl, hle, -⟩ := ReportSchedule.claim_ok hclaim
    refine ⟨next, window, hle, ?_⟩
    simp only [claimSchedule, hclaim]

/-- A claim that does not save raises. -/
theorem claimSchedule_of_not_saves (hsaves : ¬Saves db lower now s) :
    ∃ e, claimSchedule lower now s db = (.error e, db) := by
  rcases hclaim : s.claim db.hierarchy lower now with e | ⟨row, window⟩
  · exact ⟨e, by simp only [claimSchedule, hclaim]⟩
  · rw [Saves, hclaim] at hsaves
    exact absurd rfl hsaves

/-! ### The loop -/

/-- If every schedule saves, the loop claims them all and leaves other rows alone. -/
theorem claimSchedules_of_saves {schedules : List StoredSchedule}
    (hnodup : (schedules.map pk).Nodup) (hsaves : ∀ s ∈ schedules, Saves db lower now s) :
    ∃ claimed after, claimSchedules lower now schedules db = (.ok claimed, after) ∧
      (∀ s ∈ schedules, Claimed now s (.ok claimed, after)) ∧
      ∀ row ∈ db.schedules, pk row ∉ schedules.map pk → row ∈ after.schedules := by
  induction schedules generalizing db with
  | nil => exact ⟨[], db, rfl, by simp, fun row hrow _ => hrow⟩
  | cons s schedules ih =>
      rw [List.map_cons, List.nodup_cons] at hnodup
      obtain ⟨hfresh, hnodup⟩ := hnodup
      obtain ⟨next, window, hle, hfirst⟩ := claimSchedule_of_saves (hsaves s List.mem_cons_self)
      -- saving `s` changes no hierarchy, so the others still save
      have hrest : ∀ other ∈ schedules,
          Saves (db.putSchedule { s with toReportSchedule := s.claimed now next }) lower now other :=
        fun other hother => hsaves other (List.mem_cons_of_mem _ hother)
      obtain ⟨claimed, after, hothers, hclaimed, hkept⟩ := ih hnodup hrest
      refine ⟨⟨s.id, window⟩ :: claimed, after, ?_, ?_, ?_⟩
      · refine Tx.bind_eq_ok_iff.mpr ⟨_, _, hfirst, ?_⟩
        exact Tx.bind_eq_ok_iff.mpr ⟨_, _, hothers, rfl⟩
      · intro other hother
        rcases List.mem_cons.mp hother with rfl | hother
        · refine ⟨⟨{ other with toReportSchedule := other.claimed now next }, ?_, rfl, rfl,
            decide_eq_true hle⟩, _, List.mem_cons_self, rfl⟩
          exact hkept _ (Table.mem_save.mpr (Or.inl rfl)) hfresh
        · obtain ⟨hrow, entry, hentry, hid⟩ := hclaimed other hother
          exact ⟨hrow, entry, List.mem_cons_of_mem _ hentry, hid⟩
      · intro row hrow hnot
        rw [List.map_cons, List.mem_cons, not_or] at hnot
        exact hkept row (Table.mem_save.mpr (Or.inr ⟨hrow, hnot.1⟩)) hnot.2

/-- One schedule that does not save ends the loop with an error. -/
theorem claimSchedules_of_not_saves {schedules : List StoredSchedule}
    (hbad : ∃ s ∈ schedules, ¬Saves db lower now s) :
    ∃ e after, claimSchedules lower now schedules db = (.error e, after) := by
  induction schedules generalizing db with
  | nil => simp at hbad
  | cons s schedules ih =>
      by_cases hsaves : Saves db lower now s
      · obtain ⟨next, window, -, hfirst⟩ := claimSchedule_of_saves hsaves
        obtain ⟨bad, hmem, hbad⟩ := hbad
        rcases List.mem_cons.mp hmem with rfl | hmem
        · exact absurd hsaves hbad
        have hrest : ∃ bad ∈ schedules,
            ¬Saves (db.putSchedule { s with toReportSchedule := s.claimed now next }) lower now
              bad := ⟨bad, hmem, hbad⟩
        obtain ⟨e, after, hothers⟩ := ih hrest
        refine ⟨e, after, (Tx.bind_of_ok hfirst).trans ?_⟩
        exact Tx.bind_of_error hothers
      · obtain ⟨e, hfirst⟩ := claimSchedule_of_not_saves hsaves
        exact ⟨e, db, Tx.bind_of_error hfirst⟩

/-! ### The call -/

/-- **One bad schedule stops the others.**  A call that takes all due schedules claims each
of them that saves exactly when all of them save, or none does. -/
theorem others_claimed_iff (db : ReportsDb) (lower : String → String) (now : DateTime)
    (limit : ℕ) (hlimit : (db.dueSchedules now).length ≤ limit) :
    ClaimsEveryOther db lower now limit ↔
      ¬((∃ bad ∈ db.dueSchedules now, ¬Saves db lower now bad) ∧
        ∃ good ∈ db.dueSchedules now, Saves db lower now good) := by
  have hcall : claimDueReportSchedules lower now limit db =
      Tx.atomic (claimSchedules lower now (db.dueSchedules now)) db := by
    refine Tx.atomic_congr ?_
    refine (Tx.bind_of_ok (Tx.read_apply _ _)).trans ?_
    rw [List.take_of_length_le hlimit]
  unfold ClaimsEveryOther
  rw [hcall]
  constructor
  · rintro hall ⟨⟨bad, hbad, hraises⟩, good, hgood, hsaves⟩
    -- the call raises, so it returns no list at all
    obtain ⟨e, after, hloop⟩ := claimSchedules_of_not_saves ⟨bad, hbad, hraises⟩
    have herror : Tx.atomic (claimSchedules lower now (db.dueSchedules now)) db =
        (.error e, db) := Tx.atomic_eq_error_iff.mpr ⟨by rw [hloop], rfl⟩
    obtain ⟨-, entry, hentry, -⟩ := hall good hgood hsaves
    rw [herror] at hentry
    simp [Except.toOption] at hentry
  · intro hnot s hs hsave
    have hsaves : ∀ other ∈ db.dueSchedules now, Saves db lower now other := by
      intro other hother
      by_contra hraises
      exact hnot ⟨⟨other, hother, hraises⟩, s, hs, hsave⟩
    obtain ⟨claimed, after, hloop, hclaimed, -⟩ :=
      claimSchedules_of_saves nodup_pk_dueSchedules hsaves
    rw [Tx.atomic_eq_ok_iff.mpr hloop]
    exact hclaimed s hs

end ReportsDb

/-- The dawn report, due in the late evening, and one of every week, due as well. -/
def eveningReports : ReportsDb where
  hierarchy := twoSites
  schedules := .ofRows [
    { dawnReport with nextRunAt := some lateEvening, createdAt := 1 },
    { dawnReport with
        id := 2, frequency := "WEEKLY", nextRunAt := some lateEvening, createdAt := 2 }]

namespace ReportsDb

theorem others_claimed_iff_eveningReports :
    ClaimsEveryOther eveningReports asciiLower lateEvening 100 ↔
      ¬((∃ bad ∈ eveningReports.dueSchedules lateEvening,
          ¬Saves eveningReports asciiLower lateEvening bad) ∧
        ∃ good ∈ eveningReports.dueSchedules lateEvening,
          Saves eveningReports asciiLower lateEvening good) :=
  others_claimed_iff eveningReports asciiLower lateEvening 100 (by decide)

/-- The weekly report saves, but it is not claimed: the dawn report is refused first. -/
theorem weeklyReport_not_claimed :
    (∃ bad ∈ eveningReports.dueSchedules lateEvening,
        ¬Saves eveningReports asciiLower lateEvening bad) ∧
      ¬ClaimsEveryOther eveningReports asciiLower lateEvening 100 := by
  decide

end ReportsDb

end DcimBackend
