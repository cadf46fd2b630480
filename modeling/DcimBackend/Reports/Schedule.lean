import DcimBackend.Access.Scope
import DcimBackend.Common.Text
import DcimBackend.Common.Validation
import DcimBackend.Common.Value
import DcimBackend.Library.Calendar
import DcimBackend.Library.Fallible

/-!
# Report schedules

`apps/reports/models.py`, `ReportSchedule`: the next run of a schedule, the
validation of its row, and the claim of a due one
(`apps/reports/services/schedules.py`).

Points in time are local readings with an offset from UTC, the way the source
handles them: `calculate_next_run_at` takes the calendar date of its argument in
the argument's own zone and combines it with the delivery time in the current
time zone.  `DateTime.instant` is the point in time itself, in microseconds;
all comparisons are between instants.

Python's `str.lower` is a parameter, `lower`.

`save` may rewrite the row before it stores it: a changed delivery time, a changed frequency or a
new activity sets the next run, and an active row without one is given one.  `full_clean` then
refuses clocks that are out of order.  A claim saves through it as well, so a claim can be
refused.

The date arithmetic is that of `Library.Calendar`, in which a shift may leave the years of the
calendar; it is an error of the source, and one here.
-/

namespace DcimBackend

open Library

/-! ### Date and time -/

/-- Microseconds of a day. -/
def dayMicros : ℤ := 86400000000

/-- Microseconds of an hour. -/
def hourMicros : ℤ := 3600000000

/-- A time of day, in microseconds since midnight. -/
structure TimeOfDay where
  micros : ℤ
  bounds : 0 ≤ micros ∧ micros < dayMicros
deriving DecidableEq

/-- An offset from UTC, less than a day either way. -/
structure UtcOffset where
  micros : ℤ
  bounds : -dayMicros < micros ∧ micros < dayMicros
deriving DecidableEq

/-- A naive `datetime`. -/
structure LocalDateTime where
  date : Date
  time : TimeOfDay
deriving DecidableEq

/-- An aware `datetime`: a local reading and the offset of its zone. -/
structure DateTime extends LocalDateTime where
  offset : UtcOffset
deriving DecidableEq

/-- The point in time. -/
def DateTime.instant (d : DateTime) : ℤ :=
  d.date.toOrdinal * dayMicros + d.time.micros - d.offset.micros

/-- `TIME_ZONE`: Asia/Dhaka, six hours ahead of UTC. -/
def currentTimeZone : UtcOffset := ⟨6 * hourMicros, by decide⟩

/-- A `datetime`, naive or aware. -/
inductive PyDateTime
  | naive (value : LocalDateTime)
  | aware (value : DateTime)

/-- `_make_aware`. -/
def makeAware : PyDateTime → DateTime
  | .naive value => { value with offset := currentTimeZone }
  | .aware value => value

/-! ### Constants -/

/-- `normalize_key`: runs of other characters than `a-z0-9` become one
underscore, and none is left at either end. -/
def normalizeKey (lower : String → String) (value : String) : String :=
  let chars := (lower (pyStrip value)).toList
  let words := (chars.splitOnP fun c => !keyChar c).filter fun word => word ≠ []
  String.intercalate "_" (words.map String.ofList)
where
  /-- `[a-z0-9]`. -/
  keyChar (c : Char) : Bool := ('a' ≤ c && c ≤ 'z') || ('0' ≤ c && c ≤ '9')

/-- `REPORT_TYPE_LABELS`. -/
def reportTypeLabels : List (String × String) :=
  [("alert_summary", "Alert Summary"),
   ("notification_delivery", "Notification Delivery"),
   ("device_inventory", "Device Inventory"),
   ("alert_export", "Alert Export"),
   ("audit_export", "Audit Export"),
   ("telemetry_export", "Telemetry Export"),
   ("room_environment", "Environmental Trends Report")]

/-- `REPORT_TYPE_ALIASES`, with the keys as `normalize_key` leaves them. -/
def reportTypeAliases : List (String × String) :=
  [("alert_summary", "alert_summary"),
   ("alert_summary_report", "alert_summary"),
   ("notification_delivery", "notification_delivery"),
   ("notification_delivery_report", "notification_delivery"),
   ("device_inventory", "device_inventory"),
   ("device_inventory_report", "device_inventory"),
   ("environmental_trends_report", "room_environment"),
   ("room_temperature_and_humidity_report", "room_environment"),
   ("room_environment_report", "room_environment"),
   ("room_environment", "room_environment"),
   ("alert_export", "alert_export"),
   ("audit_export", "audit_export"),
   ("telemetry_export", "telemetry_export")]

/-- `normalize_report_type`. -/
def normalizeReportType (lower : String → String) (value : String) : Option String :=
  let key := normalizeKey lower value
  if key = "" then none
  else
    match reportTypeAliases.lookup key with
    | some reportType => some reportType
    | none => if (reportTypeLabels.lookup key).isSome then some key else none

/-- `normalize_report_frequency`: a key is in lower case, so the declared
frequencies are found through their aliases. -/
def normalizeReportFrequency (lower : String → String) (value : String) :
    Option String :=
  [("daily", "DAILY"), ("weekly", "WEEKLY"), ("monthly", "MONTHLY"),
    ("quarterly", "QUARTERLY")].lookup (normalizeKey lower value)

/-- `normalize_report_format`. -/
def normalizeReportFormat (lower : String → String) (value : String) : Option String :=
  [("csv", "CSV"), ("pdf", "PDF"), ("pdf_csv", "PDF_CSV"),
    ("pdf_and_csv", "PDF_CSV")].lookup (normalizeKey lower value)

/-! ### The row -/

/-- A JSON value where a list of recipients belongs: a list, each entry as `str`
shows it, or something else, of which only its truth value matters. -/
inductive Recipients
  | list (entries : List String)
  | other (truthy : Bool)
deriving DecidableEq

/-- `bool(value)`. -/
def Recipients.truthy : Recipients → Bool
  | .list entries => entries ≠ []
  | .other truthy => truthy

/-- `value if isinstance(value, list) else []`. -/
def Recipients.entries : Recipients → List String
  | .list entries => entries
  | .other _ => []

/-- `ReportSchedule`, with what its scheduling and its validation read. -/
structure ReportSchedule where
  id : ℕ
  organization : Option OrganizationId
  dataCenter : Option DataCenterId := none
  name : String
  reportType : String
  frequency : String := "DAILY"
  deliveryTime : TimeOfDay := ⟨6 * hourMicros, by decide⟩
  outputFormat : String := "PDF_CSV"
  recipients : Recipients := .list []
  sendSms : Bool := false
  smsRecipients : Recipients := .list []
  isActive : Bool := true
  nextRunAt : Option DateTime := none
  lastRunAt : Option DateTime := none
  lastDeliveryStatus : Option String := some "PENDING"
  lastErrorMessage : Option String := none
deriving DecidableEq

instance : Keyed ReportSchedule := ⟨ReportSchedule.id⟩

/-- What an operation on a schedule raises. -/
inductive ScheduleError
  /-- A date leaves the years 1 to 9999. -/
  | overflow
  /-- `clean` raised these messages. -/
  | invalid (errors : FieldErrors)
deriving DecidableEq

namespace ReportSchedule

variable (s : ReportSchedule)

/-- `_shift_by_frequency`, on the date: the time of day and the zone stay. -/
def shiftDate (date : Date) (steps : ℤ) : Option Date :=
  if s.frequency = "DAILY" then date.addDays steps
  else if s.frequency = "WEEKLY" then date.addDays (7 * steps)
  else if s.frequency = "MONTHLY" then date.addMonths steps
  else if s.frequency = "QUARTERLY" then date.addMonths (steps * 3)
  else date.addDays steps

/-- `_shift_by_frequency`. -/
def shiftByFrequency (value : DateTime) (steps : ℤ) : Except ScheduleError DateTime :=
  match s.shiftDate value.date steps with
  | some date => .ok { value with date := date }
  | none => .error .overflow

/-- The delivery time on the calendar date of the reference, in the current time
zone. -/
def deliveryOn (reference : DateTime) : DateTime :=
  makeAware (.naive { date := reference.date, time := s.deliveryTime })

/-- `calculate_next_run_at`, for a given reference. -/
def calculateNextRunAt (reference : PyDateTime) : Except ScheduleError DateTime :=
  let reference := makeAware reference
  let run := s.deliveryOn reference
  if run.instant ≤ reference.instant then s.shiftByFrequency run 1 else .ok run

/-- `calculate_execution_window`, for a given reference. -/
def calculateExecutionWindow (reference : PyDateTime) :
    Except ScheduleError (DateTime × DateTime) :=
  let last := makeAware reference
  match s.lastRunAt with
  | some first => .ok (first, last)
  | none => do
      let first ← s.shiftByFrequency last (-1)
      return (first, last)

/-! ### Validation -/

/-- `normalize_recipients`. -/
def normalizeRecipients (lower : String → String) (s : ReportSchedule) : List String :=
  ((s.recipients.entries.map fun entry => lower (pyStrip entry)).filter
    fun entry => entry ≠ "").eraseDups

/-- The SMS recipients as `clean` keeps them. -/
def normalizeSmsRecipients (s : ReportSchedule) : List String :=
  ((s.smsRecipients.entries.map pyStrip).filter fun entry => entry ≠ "").eraseDups

/-- Whether an address is `local@domain` with both parts. -/
def validRecipient (recipient : String) : Bool :=
  let chars := recipient.toList
  chars.count '@' = 1 && chars.takeWhile (· ≠ '@') ≠ [] &&
    (chars.dropWhile (· ≠ '@')).drop 1 ≠ []

/-- The checks of the recipients, on a list of them. -/
def recipientErrors (lower : String → String) (s : ReportSchedule) (errors : FieldErrors) :
    FieldErrors :=
  let recipients := s.normalizeRecipients lower
  let errors := errors.check
    (recipients = [] ∧ ¬(s.sendSms ∧ s.normalizeSmsRecipients ≠ []))
    "recipients" "At least one recipient email is required."
  recipients.foldl (fun errors recipient =>
    errors.check (validRecipient recipient = false) "recipients"
      ("Invalid recipient email: " ++ recipient)) errors

/-- `clean` up to the scheduling fields: the normalized row and the messages so
far. -/
def cleanFields (h : Hierarchy) (lower : String → String) (s : ReportSchedule) :
    ReportSchedule × FieldErrors :=
  let errors := FieldErrors.check [] (s.organization = none) "organization"
    "Organization is required."
  let errors := errors.check (s.name = "") "name" "Name is required."
  let reportType := normalizeReportType lower s.reportType
  let errors := errors.check (reportType = none) "report_type" "Unsupported report type."
  let frequency := normalizeReportFrequency lower s.frequency
  let errors := errors.check (frequency = none) "frequency" "Unsupported frequency."
  let outputFormat := normalizeReportFormat lower s.outputFormat
  let errors := errors.check (outputFormat = none) "output_format"
    "Unsupported report format."
  let errors := errors.check (h.dataCenterElsewhere s.dataCenter s.organization)
    "data_center" "Data center must belong to the selected organization."
  let s' : ReportSchedule :=
    { s with
      reportType := reportType.getD s.reportType
      frequency := frequency.getD s.frequency
      outputFormat := outputFormat.getD s.outputFormat }
  match s.recipients with
  | .other _ =>
      let errors := errors.append "recipients" "Recipients must be a list of email addresses."
      (s', errors.check (s.sendSms ∧ s.smsRecipients.truthy = false) "sms_recipients"
        "At least one SMS recipient is required when SMS is enabled.")
  | .list _ =>
      let errors := s.recipientErrors lower errors
      ({ s' with
          recipients := .list (s.normalizeRecipients lower)
          smsRecipients := .list s.normalizeSmsRecipients },
        errors.check (s.sendSms ∧ s.normalizeSmsRecipients = []) "sms_recipients"
          "At least one SMS recipient is required when SMS is enabled.")

/-- The last check of `clean`: `last_run_at > next_run_at`. -/
def runsBackwards (s : ReportSchedule) : Bool :=
  match s.lastRunAt, s.nextRunAt with
  | some last, some next => next.instant < last.instant
  | _, _ => false

/-- `ReportSchedule.clean` at the time `now`. -/
def clean (h : Hierarchy) (lower : String → String) (now : DateTime) (s : ReportSchedule) :
    Except ScheduleError ReportSchedule := do
  let cleaned := s.cleanFields h lower
  let s := cleaned.1
  let s ←
    if s.isActive ∧ s.nextRunAt = none then do
      let next ← s.calculateNextRunAt (.aware now)
      pure { s with nextRunAt := some next }
    else pure s
  let errors := cleaned.2.check s.runsBackwards "next_run_at"
    "Next run time must be after the last run time."
  if errors = [] then pure s else throw (.invalid errors)

/-- `clean_fields`: what the columns of the model accept.  The foreign keys of a stored
row refer to rows. -/
def fieldErrors (s : ReportSchedule) : FieldErrors :=
  let errors := FieldErrors.check [] (s.organization = none) "organization"
    "This field cannot be null."
  let errors :=
    if s.name = "" then errors.append "name" "This field cannot be blank."
    else errors.maxLength 255 "name" s.name
  let errors := errors.choice (reportTypeLabels.map Prod.fst) "report_type" s.reportType
  let errors := errors.choice ["DAILY", "WEEKLY", "MONTHLY", "QUARTERLY"] "frequency" s.frequency
  let errors := errors.choice ["CSV", "PDF", "PDF_CSV"] "output_format" s.outputFormat
  errors.maxLength 30 "last_delivery_status" (s.lastDeliveryStatus.getD "")

/-- `full_clean` at the time `now`, which `save` calls. -/
def fullClean (h : Hierarchy) (lower : String → String) (now : DateTime) (s : ReportSchedule) :
    Except ScheduleError ReportSchedule :=
  match s.clean h lower now with
  | .ok row => if s.fieldErrors = [] then .ok row else .error (.invalid s.fieldErrors)
  | .error .overflow => .error .overflow
  | .error (.invalid errors) => .error (.invalid (s.fieldErrors.merge errors))

/-- `save` of a copy at the time `now`, up to the statement, when the row is stored as
`previous`: another delivery time or frequency, or a new activity, sets the next run, and
then the copy is validated. -/
def save (h : Hierarchy) (lower : String → String) (now : DateTime)
    (previous s : ReportSchedule) : Except ScheduleError ReportSchedule := do
  let s ←
    if previous.deliveryTime ≠ s.deliveryTime ∨ previous.frequency ≠ s.frequency ∨
        (s.isActive ∧ ¬previous.isActive) then do
      let next ← s.calculateNextRunAt (.aware now)
      pure { s with nextRunAt := some next }
    else pure s
  s.fullClean h lower now

/-- The stored row after the statement, for the `update_fields` of claims and executions
that are modelled here: the two clocks, the status and its message. -/
def writeRun (copy stored : ReportSchedule) : ReportSchedule :=
  { stored with
    lastRunAt := copy.lastRunAt
    nextRunAt := copy.nextRunAt
    lastDeliveryStatus := copy.lastDeliveryStatus
    lastErrorMessage := copy.lastErrorMessage }

/-! ### Claiming a due schedule -/

/-- `filter(is_active=True, next_run_at__lte=now)`. -/
def isDue (s : ReportSchedule) (now : DateTime) : Bool :=
  s.isActive && s.nextRunAt.any fun next => next.instant ≤ now.instant

/-- The columns that `claim_due_report_schedules` assigns. -/
def claimed (s : ReportSchedule) (now next : DateTime) : ReportSchedule :=
  { s with
    lastRunAt := some now
    nextRunAt := some next
    lastDeliveryStatus := some "PENDING"
    lastErrorMessage := some "" }

/-- One round of `claim_due_report_schedules` on a row that is read under its lock: the
row that it stores, and the window to execute. -/
def claim (h : Hierarchy) (lower : String → String) (now : DateTime) (s : ReportSchedule) :
    Except ScheduleError (ReportSchedule × DateTime × DateTime) := do
  let window ← s.calculateExecutionWindow (.aware now)
  let next ← s.calculateNextRunAt (.aware now)
  let copy ← save h lower now s (s.claimed now next)
  return (copy.writeRun s, window)

/-! ### When the next run is in the future -/

/-- Microseconds from midnight in Dhaka of the reference's own calendar date to
the reference. -/
def sinceMidnight (reference : DateTime) : ℤ :=
  reference.time.micros - reference.offset.micros + currentTimeZone.micros

theorem instant_eq (reference : DateTime) :
    reference.instant =
      reference.date.toOrdinal * dayMicros - currentTimeZone.micros +
        sinceMidnight reference := by
  unfold DateTime.instant sinceMidnight
  ring

theorem instant_deliveryOn (reference : DateTime) :
    (s.deliveryOn reference).instant =
      reference.date.toOrdinal * dayMicros - currentTimeZone.micros +
        s.deliveryTime.micros := by
  unfold DateTime.instant deliveryOn makeAware
  ring

/-- Shifting moves the instant by whole days: one, seven, or at least 28. -/
theorem instant_shiftByFrequency {value next : DateTime}
    (h : s.shiftByFrequency value 1 = .ok next) :
    ∃ days : ℤ, next.instant = value.instant + days * dayMicros ∧
      (s.frequency ∈ ["WEEKLY", "MONTHLY", "QUARTERLY"] → 7 ≤ days) ∧
      (s.frequency ∉ ["WEEKLY", "MONTHLY", "QUARTERLY"] → days = 1) := by
  unfold shiftByFrequency at h
  split at h
  swap
  · cases h
  rename_i date hdate
  obtain rfl := Except.ok.inj h
  refine ⟨date.toOrdinal - value.date.toOrdinal, ?_, ?_, ?_⟩
  · unfold DateTime.instant
    ring
  · intro hlong
    unfold shiftDate at hdate
    split at hdate
    · rename_i hdaily
      simp [hdaily] at hlong
    split at hdate
    · rw [Date.toOrdinal_addDays hdate]
      omega
    split at hdate
    · have := Date.toOrdinal_addMonths (le_refl 1) hdate
      omega
    split at hdate
    · have := Date.toOrdinal_addMonths (show 1 ≤ 3 by omega) hdate
      omega
    · simp_all
  · intro hshort
    have hdays : value.date.addDays 1 = some date := by
      simp only [List.mem_cons, List.not_mem_nil, or_false, not_or] at hshort
      simpa [shiftDate, hshort] using hdate
    rw [Date.toOrdinal_addDays hdays]
    ring

/-- A reference is less than 54 hours past the midnight of its own date in
Dhaka. -/
theorem sinceMidnight_lt (reference : DateTime) :
    sinceMidnight reference < 2 * dayMicros + 6 * hourMicros := by
  have htime := reference.time.bounds
  have hoffset := reference.offset.bounds
  unfold sinceMidnight currentTimeZone
  dsimp only
  omega

/-- The next run lies after the reference. -/
def NextRunInFuture (s : ReportSchedule) (reference : DateTime) : Prop :=
  ∃ next, s.calculateNextRunAt (.aware reference) = .ok next ∧
    reference.instant < next.instant

/-- Where the delivery time of the reference's date has passed, the shifted date
is one the calendar has. -/
def ShiftFits (s : ReportSchedule) (reference : DateTime) : Prop :=
  s.deliveryTime.micros ≤ sinceMidnight reference → (s.shiftDate reference.date 1).isSome

theorem calculateNextRunAt_aware (reference : DateTime) :
    s.calculateNextRunAt (.aware reference) =
      if (s.deliveryOn reference).instant ≤ reference.instant then
        s.shiftByFrequency (s.deliveryOn reference) 1
      else .ok (s.deliveryOn reference) := rfl

theorem nextRunInFuture_of_early {reference : DateTime}
    (h : sinceMidnight reference < s.deliveryTime.micros) :
    s.NextRunInFuture reference := by
  have hrun := s.instant_deliveryOn reference
  have href := instant_eq reference
  have hlt : reference.instant < (s.deliveryOn reference).instant := by omega
  refine ⟨s.deliveryOn reference, ?_, hlt⟩
  rw [calculateNextRunAt_aware, if_neg (not_le.mpr hlt)]

/-- Once the delivery time has passed, the run is shifted, and lands after the
reference unless a single day does not get it there. -/
theorem nextRunInFuture_iff_of_late {reference : DateTime}
    (h : s.deliveryTime.micros ≤ sinceMidnight reference) :
    s.NextRunInFuture reference ↔
      (s.shiftDate reference.date 1).isSome ∧
        (s.frequency ∈ ["WEEKLY", "MONTHLY", "QUARTERLY"] ∨
          sinceMidnight reference < s.deliveryTime.micros + dayMicros) := by
  have hrun := s.instant_deliveryOn reference
  have href := instant_eq reference
  have hle : (s.deliveryOn reference).instant ≤ reference.instant := by omega
  have hcalc : s.calculateNextRunAt (.aware reference) =
      s.shiftByFrequency (s.deliveryOn reference) 1 := by
    rw [calculateNextRunAt_aware, if_pos hle]
  have hlast := sinceMidnight_lt reference
  have htime := s.deliveryTime.bounds
  unfold NextRunInFuture
  rw [hcalc]
  constructor
  · rintro ⟨next, hnext, hlt⟩
    obtain ⟨days, hinstant, -, hshort⟩ := s.instant_shiftByFrequency hnext
    constructor
    · unfold shiftByFrequency at hnext
      split at hnext
      · rename_i date hdate
        rw [show reference.date = (s.deliveryOn reference).date from rfl, hdate]
        rfl
      · cases hnext
    · by_cases hlong : s.frequency ∈ ["WEEKLY", "MONTHLY", "QUARTERLY"]
      · exact Or.inl hlong
      · obtain rfl := hshort hlong
        exact Or.inr (by omega)
  · rintro ⟨hfits, hcond⟩
    obtain ⟨date, hdate⟩ := Option.isSome_iff_exists.mp hfits
    have hnext : s.shiftByFrequency (s.deliveryOn reference) 1 =
        .ok { s.deliveryOn reference with date := date } := by
      unfold shiftByFrequency
      rw [show (s.deliveryOn reference).date = reference.date from rfl, hdate]
    obtain ⟨days, hinstant, hlong, hshort⟩ := s.instant_shiftByFrequency hnext
    refine ⟨_, hnext, ?_⟩
    have hday : dayMicros = 24 * hourMicros := rfl
    have hpos : 0 < hourMicros := by decide
    by_cases hfrequency : s.frequency ∈ ["WEEKLY", "MONTHLY", "QUARTERLY"]
    · have := hlong hfrequency
      nlinarith
    · rw [hshort hfrequency] at hinstant
      have := hcond.resolve_left hfrequency
      omega

/-! ### What `clean` says of a claimed row -/

/-- The checks before the scheduling ones do not look at the claimed columns. -/
theorem cleanFields_claimed (h : Hierarchy) (lower : String → String)
    (s : ReportSchedule) (now next : DateTime) :
    (s.claimed now next).cleanFields h lower =
      ((s.cleanFields h lower).1.claimed now next, (s.cleanFields h lower).2) := by
  obtain ⟨id, organization, dataCenter, name, reportType, frequency, deliveryTime,
    outputFormat, recipients, sendSms, smsRecipients, isActive, nextRunAt, lastRunAt,
    lastDeliveryStatus, lastErrorMessage⟩ := s
  cases recipients <;> rfl

/-- The end of `clean`. -/
theorem checked_ok {errors : FieldErrors} {s row : ReportSchedule}
    (hchecked : (if errors.check s.runsBackwards "next_run_at"
        "Next run time must be after the last run time." = [] then pure s
      else throw (.invalid (errors.check s.runsBackwards "next_run_at"
        "Next run time must be after the last run time.")) : Except ScheduleError ReportSchedule) =
      .ok row) :
    errors = [] ∧ s.runsBackwards = false ∧ row = s := by
  split at hchecked
  · rename_i herrors
    obtain ⟨hnone, hbackwards⟩ := FieldErrors.check_eq_nil_iff.mp herrors
    exact ⟨hnone, by simpa using hbackwards, (Except.ok.inj hchecked).symm⟩
  · cases hchecked

/-- A row with a next run that `clean` accepts has it after the last run, and what is
stored of the cleaned row is what is stored of the row itself. -/
theorem clean_ok {h : Hierarchy} {lower : String → String} {now : DateTime}
    {s row : ReportSchedule} (hclean : s.clean h lower now = .ok row)
    (hnext : s.nextRunAt ≠ none) (stored : ReportSchedule) :
    s.runsBackwards = false ∧ row.writeRun stored = s.writeRun stored := by
  have hwrite : (s.cleanFields h lower).1.writeRun stored = s.writeRun stored := by
    unfold cleanFields
    cases s.recipients <;> rfl
  have hbackwards : (s.cleanFields h lower).1.runsBackwards = s.runsBackwards := by
    unfold cleanFields
    cases s.recipients <;> rfl
  have hnext' : (s.cleanFields h lower).1.nextRunAt = s.nextRunAt := by
    unfold cleanFields
    cases s.recipients <;> rfl
  simp only [clean] at hclean
  split at hclean
  · rename_i hmissing
    rw [hnext'] at hmissing
    exact absurd hmissing.2 hnext
  · obtain ⟨-, hchecked, rfl⟩ := checked_ok hclean
    exact ⟨hbackwards.symm.trans hchecked, hwrite⟩

/-- `full_clean` accepts what `clean` accepts, of what the columns accept. -/
theorem fullClean_ok {h : Hierarchy} {lower : String → String} {now : DateTime}
    {s row : ReportSchedule} (hclean : s.fullClean h lower now = .ok row) :
    s.clean h lower now = .ok row ∧ s.fieldErrors = [] := by
  unfold fullClean at hclean
  split at hclean
  · rename_i cleaned heq
    split at hclean
    · rename_i hfields
      obtain rfl := Except.ok.inj hclean
      exact ⟨heq, hfields⟩
    · cases hclean
  · cases hclean
  · cases hclean

theorem isDue_iff {now : DateTime} :
    s.isDue now ↔ s.isActive ∧ ∃ next, s.nextRunAt = some next ∧ next.instant ≤ now.instant := by
  unfold isDue
  cases s.nextRunAt with
  | none => simp
  | some next => simp

/-- What a schedule is set to: the row without what claims and executions write. -/
def settings (s : ReportSchedule) : ReportSchedule :=
  { s with
    lastRunAt := none, nextRunAt := none, lastDeliveryStatus := none, lastErrorMessage := none }

@[simp] theorem settings_claimed (now next : DateTime) :
    (s.claimed now next).settings = s.settings := rfl

@[simp] theorem settings_writeRun (copy : ReportSchedule) :
    (copy.writeRun s).settings = s.settings := rfl

/-- A copy with the settings of the row, and a next run, is saved with the clocks that it
has, which run forward. -/
theorem save_ok {h : Hierarchy} {lower : String → String} {now : DateTime}
    {previous copy row : ReportSchedule} (hsave : save h lower now previous copy = .ok row)
    (hsettings : copy.settings = previous.settings) (hnext : copy.nextRunAt ≠ none) :
    copy.runsBackwards = false ∧ row.writeRun previous = copy.writeRun previous := by
  have hsame : ¬(previous.deliveryTime ≠ copy.deliveryTime ∨
      previous.frequency ≠ copy.frequency ∨ (copy.isActive ∧ ¬previous.isActive)) := by
    have htime : copy.settings.deliveryTime = previous.settings.deliveryTime := by rw [hsettings]
    have hfrequency : copy.settings.frequency = previous.settings.frequency := by rw [hsettings]
    have hactive : copy.settings.isActive = previous.settings.isActive := by rw [hsettings]
    dsimp only [settings] at htime hfrequency hactive
    simp [htime, hfrequency, hactive]
  simp only [save, if_neg hsame, pure_bind] at hsave
  exact clean_ok (fullClean_ok hsave).1 hnext previous

/-- A claim that succeeds writes its own time and the next run, which is not before. -/
theorem claim_ok {h : Hierarchy} {lower : String → String} {now : DateTime}
    {s row : ReportSchedule} {window : DateTime × DateTime}
    (hclaim : s.claim h lower now = .ok (row, window)) :
    ∃ next, s.calculateNextRunAt (.aware now) = .ok next ∧ row = s.claimed now next ∧
      now.instant ≤ next.instant ∧ s.calculateExecutionWindow (.aware now) = .ok window := by
  obtain ⟨window', hwindow, hclaim⟩ := bind_eq_ok_iff.mp hclaim
  obtain ⟨next, hnext, hclaim⟩ := bind_eq_ok_iff.mp hclaim
  obtain ⟨copy, hsave, hclaim⟩ := bind_eq_ok_iff.mp hclaim
  obtain ⟨rfl, rfl⟩ := Prod.mk.inj (Except.ok.inj hclaim)
  obtain ⟨hbackwards, hwrite⟩ := save_ok hsave rfl (Option.some_ne_none next)
  refine ⟨next, hnext, hwrite, ?_, hwindow⟩
  simpa [runsBackwards, claimed] using hbackwards

/-- A claimed row whose other checks pass is accepted exactly when its next run
is not before the claim. -/
theorem clean_claimed_iff {h : Hierarchy} {lower : String → String} {s : ReportSchedule}
    (hfields : (s.cleanFields h lower).2 = []) {now next clock : DateTime} :
    (∃ row, (s.claimed now next).clean h lower clock = .ok row) ↔
      now.instant ≤ next.instant := by
  have hbackwards : ((s.cleanFields h lower).1.claimed now next).runsBackwards =
      decide (next.instant < now.instant) := rfl
  have hactive : ¬(((s.cleanFields h lower).1.claimed now next).isActive ∧
      ((s.cleanFields h lower).1.claimed now next).nextRunAt = none) := by
    simp [claimed]
  unfold clean
  simp only [cleanFields_claimed, hfields, if_neg hactive, pure_bind,
    FieldErrors.check_eq_nil_iff, hbackwards, decide_eq_true_eq, true_and, not_lt]
  split
  · rename_i hle
    simp [hle, pure, Except.pure]
  · rename_i hlt
    simp [hlt, throw, throwThe, MonadExceptOf.throw]

/-- A claim moves the schedule into the future, and is accepted, exactly when the
shifted date exists and either the period is longer than a day or the reference
is less than a day past the delivery time of its own date in Dhaka. -/
theorem claimed_in_future_iff {h : Hierarchy} {lower : String → String}
    {s : ReportSchedule} (hfields : (s.cleanFields h lower).2 = [])
    (reference : DateTime) :
    (∃ next, s.calculateNextRunAt (.aware reference) = .ok next ∧
        reference.instant < next.instant ∧
        ∃ row, (s.claimed reference next).clean h lower reference = .ok row) ↔
      s.ShiftFits reference ∧
        (s.frequency ∈ ["WEEKLY", "MONTHLY", "QUARTERLY"] ∨
          sinceMidnight reference < s.deliveryTime.micros + dayMicros) := by
  -- a run in the future is always accepted
  have haccepted : (∃ next, s.calculateNextRunAt (.aware reference) = .ok next ∧
      reference.instant < next.instant ∧
      ∃ row, (s.claimed reference next).clean h lower reference = .ok row) ↔
      s.NextRunInFuture reference := by
    constructor
    · rintro ⟨next, hnext, hlt, -⟩
      exact ⟨next, hnext, hlt⟩
    · rintro ⟨next, hnext, hlt⟩
      exact ⟨next, hnext, hlt, (clean_claimed_iff hfields).mpr hlt.le⟩
  rw [haccepted]
  by_cases hlate : s.deliveryTime.micros ≤ sinceMidnight reference
  · rw [s.nextRunInFuture_iff_of_late hlate]
    exact and_congr_left fun _ => ⟨fun hfits _ => hfits, fun hfits => hfits hlate⟩
  · have hearly := not_le.mp hlate
    have hday : 0 < dayMicros := by decide
    exact iff_of_true (s.nextRunInFuture_of_early hearly)
      ⟨fun h => absurd h hlate, Or.inr (by omega)⟩

end ReportSchedule

/-- UTC. -/
def utc : UtcOffset := ⟨0, by decide⟩

/-- A daily report at five in the morning, Dhaka time. -/
def dawnReport : ReportSchedule where
  id := 1
  organization := some 1
  name := "Dawn report"
  reportType := "alert_summary"
  deliveryTime := ⟨5 * hourMicros, by decide⟩
  recipients := .list ["ops@bank"]

/-- Half past eleven in the evening, UTC: half past five in Dhaka, a date on. -/
def lateEvening : DateTime where
  date := ⟨2024, 1, 1, by decide⟩
  time := ⟨23 * hourMicros + hourMicros / 2, by decide⟩
  offset := utc

/-- Five in the morning in Dhaka. -/
def dawnDelivery : DateTime where
  date := ⟨2024, 1, 2, by decide⟩
  time := ⟨5 * hourMicros, by decide⟩
  offset := currentTimeZone

theorem claimed_in_future_iff_dawnReport :
    (∃ next, dawnReport.calculateNextRunAt (.aware lateEvening) = .ok next ∧
        lateEvening.instant < next.instant ∧
        ∃ row, (dawnReport.claimed lateEvening next).clean twoSites asciiLower lateEvening
          = .ok row) ↔
      dawnReport.ShiftFits lateEvening ∧
        (dawnReport.frequency ∈ ["WEEKLY", "MONTHLY", "QUARTERLY"] ∨
          ReportSchedule.sinceMidnight lateEvening <
            dawnReport.deliveryTime.micros + dayMicros) := by
  have hfields : (dawnReport.cleanFields twoSites asciiLower).2 = [] := by decide
  exact ReportSchedule.claimed_in_future_iff hfields lateEvening

/-- Claimed in the late evening, the report is scheduled for half an hour ago, and
the claimed row is refused. -/
theorem dawnReport_scheduled_in_past :
    dawnReport.calculateNextRunAt (.aware lateEvening) = .ok dawnDelivery ∧
      ¬lateEvening.instant < dawnDelivery.instant ∧
      (dawnReport.claimed lateEvening dawnDelivery).clean twoSites asciiLower lateEvening =
        .error (.invalid
          [("next_run_at", ["Next run time must be after the last run time."])]) := by
  refine ⟨by decide, by decide, by decide⟩

end DcimBackend
