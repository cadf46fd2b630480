import DcimBackend.Library.Tally
import DcimBackend.Reports.Rendering

/-!
# Counts that agree

The summary of the alerts and their export read the same parameters, check after check in another
order, and select the same alerts: `alertSummaryRows_eq` computes the summary of a job from the
rows of its export.  Within a report of counts, the parts add up to the totals.

The two builders check their parameters one after another, in different orders, and the first
check that fails decides the message.  `Checked` is the conjunction of the checks, in no order: it
says which jobs have a report, and is what both builders are reduced to before anything is
counted.

The choices of severities, statuses and channels are open, since the columns take any text.  So a
part of a report adds up to its total only as far as the rows have declared choices, and the
structures `AlertsBalance` and `NotificationsBalance` say how much is missing.
-/

namespace DcimBackend

open Library

namespace ReportDb

variable {env : ReportEnv} {db : ReportDb} {job : ReportJob}

/-! ### Filters in another order -/

/-- Both ends of the range are given. -/
def RangeGiven (parameters : Dict) : Prop :=
  getParameterValue parameters ["date_from", "start_date"] ≠ none ∧
    getParameterValue parameters ["date_to", "end_date"] ≠ none

/-- A range that is given is read whether it has to be given or not. -/
theorem parseReportDateRange_required {parser : DateParser} {parameters : Dict}
    (hgiven : RangeGiven parameters) :
    parser.parseReportDateRange parameters true = parser.parseReportDateRange parameters := by
  unfold DateParser.parseReportDateRange
  obtain ⟨start, hstart⟩ := Option.ne_none_iff_exists'.mp hgiven.1
  obtain ⟨stop, hstop⟩ := Option.ne_none_iff_exists'.mp hgiven.2
  rw [hstart, hstop]
  rfl

/-- What the checks of a report on alerts let through. -/
structure AlertSelection where
  range : Option DateTime × Option DateTime
  dataCenter : Option DataCenter
  condition : Device → Bool
  metricCodes : List String
  severities : List String
  statuses : List String

namespace AlertSelection

variable (env : ReportEnv) (db : ReportDb) (job : ReportJob) (s : AlertSelection)

/-- The checks of a job, in no order. -/
structure Checked : Prop where
  range_eq : env.parser.parseReportDateRange job.parameters.orEmpty = .ok s.range
  length : ∃ templateConfig, db.getReportConfig job = .ok templateConfig ∧
    env.validateMaxDateRange s.range templateConfig = .ok ()
  dataCenter_eq : db.resolveDataCenterScope env job job.parameters.orEmpty = .ok s.dataCenter
  condition_eq :
    db.deviceConditions env job job.parameters.orEmpty s.dataCenter = .ok s.condition
  metricCodes_eq : env.resolveMetricCodes job.parameters.orEmpty = .ok s.metricCodes
  severities_eq : env.normalizeChoiceValues (job.parameters.orEmpty.get "severity")
    (AlertSeverity.values.map AlertSeverity.value) "severity" = .ok s.severities
  statuses_eq : env.normalizeChoiceValues (job.parameters.orEmpty.get "status")
    (AlertStatus.values.map AlertStatus.value) "status" = .ok s.statuses

/-- All filters as one condition on an alert. -/
def selects (alert : AlertEvent) : Bool :=
  alert.organization = job.organization &&
    (s.dataCenter.all fun selected => alert.dataCenter = selected.id) &&
    (s.range.1.all fun start => start.instant ≤ alert.triggeredAt) &&
    (s.range.2.all fun stop => alert.triggeredAt ≤ stop.instant) &&
    (s.metricCodes = [] ||
      (db.metricCode alert.metric).any fun value => value ∈ s.metricCodes) &&
    (s.severities = [] || decide (alert.severity.value ∈ s.severities)) &&
    (s.statuses = [] || decide (alert.status.value ∈ s.statuses)) &&
    db.onDevice s.condition alert.device

end AlertSelection

theorem summarizedAlerts_eq_ok_iff {qs : List AlertEvent} :
    db.summarizedAlerts env job = .ok qs ↔
      ∃ s : AlertSelection, s.Checked env db job ∧ qs = db.alerts.select (s.selects db job) := by
  have hfilters : ∀ s : AlertSelection,
      (amongValues s.statuses (fun alert => some alert.status.value)
        (amongValues s.severities (fun alert => some alert.severity.value)
          (amongValues s.metricCodes (fun alert => db.metricCode alert.metric)
            (inRange s.range AlertEvent.triggeredAt
              (inDataCenter s.dataCenter AlertEvent.dataCenter
                (db.alerts.select fun alert => alert.organization = job.organization)))))).filter
          (fun alert => db.onDevice s.condition alert.device) =
        db.alerts.select (s.selects db job) := by
    intro s
    simp only [amongValues_eq, inRange, inDataCenter, Table.select, List.filter_filter]
    refine List.filter_congr fun alert _ => ?_
    unfold AlertSelection.selects
    simp only [Option.any_some]
    ac_rfl
  unfold summarizedAlerts
  constructor
  · intro h
    obtain ⟨templateConfig, hconfig, h⟩ := bind_eq_ok_iff.mp h
    obtain ⟨range, hrange, h⟩ := bind_eq_ok_iff.mp h
    obtain ⟨_, hlength, h⟩ := bind_eq_ok_iff.mp h
    obtain ⟨dataCenter, hdataCenter, h⟩ := bind_eq_ok_iff.mp h
    obtain ⟨metricCodes, hmetricCodes, h⟩ := bind_eq_ok_iff.mp h
    obtain ⟨severities, hseverities, h⟩ := bind_eq_ok_iff.mp h
    obtain ⟨statuses, hstatuses, h⟩ := bind_eq_ok_iff.mp h
    obtain ⟨condition, hcondition, h⟩ := bind_eq_ok_iff.mp h
    obtain rfl := Except.ok.inj h
    let s : AlertSelection := ⟨range, dataCenter, condition, metricCodes, severities, statuses⟩
    exact ⟨s, ⟨hrange, ⟨templateConfig, hconfig, hlength⟩, hdataCenter, hcondition, hmetricCodes,
      hseverities, hstatuses⟩, hfilters s⟩
  · rintro ⟨s, ⟨hrange, ⟨templateConfig, hconfig, hlength⟩, hdataCenter, hcondition, hmetricCodes,
      hseverities, hstatuses⟩, rfl⟩
    refine bind_eq_ok_iff.mpr ⟨_, hconfig, bind_eq_ok_iff.mpr ⟨_, hrange, ?_⟩⟩
    refine bind_eq_ok_iff.mpr ⟨_, hlength, bind_eq_ok_iff.mpr ⟨_, hdataCenter, ?_⟩⟩
    refine bind_eq_ok_iff.mpr ⟨_, hmetricCodes, bind_eq_ok_iff.mpr ⟨_, hseverities, ?_⟩⟩
    refine bind_eq_ok_iff.mpr ⟨_, hstatuses, bind_eq_ok_iff.mpr ⟨_, hcondition, ?_⟩⟩
    exact congrArg Except.ok (hfilters s)

theorem exportedAlerts_eq_ok_iff (hgiven : RangeGiven job.parameters.orEmpty)
    (hsource : env.normalizeList (job.parameters.orEmpty.get "source") = [])
    {alerts : List AlertEvent} :
    db.exportedAlerts env job = .ok alerts ↔
      ∃ s : AlertSelection, s.Checked env db job ∧
        alerts = (db.alerts.select (s.selects db job)).mergeSort alertOrder := by
  have hfilters : ∀ s : AlertSelection,
      amongValues s.statuses (fun alert => some alert.status.value)
        (amongValues s.severities (fun alert => some alert.severity.value)
          (amongValues s.metricCodes (fun alert => db.metricCode alert.metric)
            ((inRange s.range AlertEvent.triggeredAt
              (inDataCenter s.dataCenter AlertEvent.dataCenter
                (db.alerts.select fun alert => alert.organization = job.organization))).filter
              fun alert => db.onDevice s.condition alert.device))) =
        db.alerts.select (s.selects db job) := by
    intro s
    simp only [amongValues_eq, inRange, inDataCenter, Table.select, List.filter_filter]
    refine List.filter_congr fun alert _ => ?_
    unfold AlertSelection.selects
    simp only [Option.any_some]
    ac_rfl
  unfold exportedAlerts
  dsimp only
  rw [parseReportDateRange_required hgiven, hsource]
  constructor
  · intro h
    obtain ⟨templateConfig, hconfig, h⟩ := bind_eq_ok_iff.mp h
    obtain ⟨range, hrange, h⟩ := bind_eq_ok_iff.mp h
    obtain ⟨_, hlength, h⟩ := bind_eq_ok_iff.mp h
    obtain ⟨dataCenter, hdataCenter, h⟩ := bind_eq_ok_iff.mp h
    obtain ⟨condition, hcondition, h⟩ := bind_eq_ok_iff.mp h
    obtain ⟨metricCodes, hmetricCodes, h⟩ := bind_eq_ok_iff.mp h
    obtain ⟨severities, hseverities, h⟩ := bind_eq_ok_iff.mp h
    obtain ⟨statuses, hstatuses, h⟩ := bind_eq_ok_iff.mp h
    obtain rfl := Except.ok.inj h
    let s : AlertSelection := ⟨range, dataCenter, condition, metricCodes, severities, statuses⟩
    exact ⟨s, ⟨hrange, ⟨templateConfig, hconfig, hlength⟩, hdataCenter, hcondition, hmetricCodes,
      hseverities, hstatuses⟩, congrArg (List.mergeSort · alertOrder) (hfilters s)⟩
  · rintro ⟨s, ⟨hrange, ⟨templateConfig, hconfig, hlength⟩, hdataCenter, hcondition, hmetricCodes,
      hseverities, hstatuses⟩, rfl⟩
    refine bind_eq_ok_iff.mpr ⟨_, hconfig, bind_eq_ok_iff.mpr ⟨_, hrange, ?_⟩⟩
    refine bind_eq_ok_iff.mpr ⟨_, hlength, bind_eq_ok_iff.mpr ⟨_, hdataCenter, ?_⟩⟩
    refine bind_eq_ok_iff.mpr ⟨_, hcondition, bind_eq_ok_iff.mpr ⟨_, hmetricCodes, ?_⟩⟩
    refine bind_eq_ok_iff.mpr ⟨_, hseverities, bind_eq_ok_iff.mpr ⟨_, hstatuses, ?_⟩⟩
    exact congrArg (fun qs => Except.ok (List.mergeSort qs alertOrder)) (hfilters s)

/-! ### The summary of an export -/

/-- A row of an export has a severity. -/
def severityIs (severity : AlertSeverity) (row : ReportRow) : Bool :=
  row.value "severity" = .text severity.value

/-- A row of an export has a status. -/
def statusIs (status : AlertStatus) (row : ReportRow) : Bool :=
  row.value "status" = .text status.value

/-- The counts of a summary, from the rows of an export. -/
def countsOfExport (rows : List ReportRow) : List ReportRow :=
  let activeRows := rows.filter fun row => statusIs .open row || statusIs .acknowledged row
  [countRow "summary" "total_alerts" rows.length,
    countRow "summary" "open_total" activeRows.length,
    countRow "summary" "critical_open" (activeRows.countP (severityIs .critical)),
    countRow "summary" "warning_open" (activeRows.countP (severityIs .warning)),
    countRow "summary" "acknowledged_total" (rows.countP (statusIs .acknowledged)),
    countRow "summary" "resolved_total" (rows.countP (statusIs .resolved)),
    countRow "summary" "unacknowledged_critical"
      (rows.countP fun row => statusIs .open row && severityIs .critical row)] ++
    countRows "severity" AlertSeverity.values AlertSeverity.value severityIs rows ++
    countRows "status" AlertStatus.values AlertStatus.value statusIs rows

@[simp] theorem severityIs_alertRow (severity : AlertSeverity) (alert : AlertEvent) :
    severityIs severity (db.alertRow env alert) = decide (alert.severity = severity) := by
  show decide (PyValue.text alert.severity.value = .text severity.value) = _
  rw [decide_eq_decide, PyValue.text.injEq]
  exact AlertSeverity.value_injective.eq_iff

@[simp] theorem statusIs_alertRow (status : AlertStatus) (alert : AlertEvent) :
    statusIs status (db.alertRow env alert) = decide (alert.status = status) := by
  show decide (PyValue.text alert.status.value = .text status.value) = _
  rw [decide_eq_decide, PyValue.text.injEq]
  exact AlertStatus.value_injective.eq_iff

/-- Counts of rows are counts of alerts. -/
theorem countsOfExport_map (alerts : List AlertEvent) :
    countsOfExport (alerts.map (db.alertRow env)) = alertCounts alerts := by
  unfold countsOfExport alertCounts countRows
  simp only [List.length_map, List.filter_map, List.countP_map, Function.comp_def,
    severityIs_alertRow, statusIs_alertRow]

/-- The order of the alerts does not count. -/
theorem alertCounts_perm {alerts qs : List AlertEvent} (h : alerts.Perm qs) :
    alertCounts alerts = alertCounts qs := by
  unfold alertCounts countRows
  simp only [h.length_eq, (h.filter _).length_eq, h.countP_eq, (h.filter _).countP_eq]

/-- **The summary agrees with the export**: of a job with a range of dates and no source, the
summary says what counting the exported rows says, and there is one exactly if there is the
other. -/
theorem alertSummaryRows_eq (hgiven : RangeGiven job.parameters.orEmpty)
    (hsource : env.normalizeList (job.parameters.orEmpty.get "source") = []) :
    (db.alertSummaryRows env job).toOption =
      (db.alertExportRows env job).toOption.map fun report =>
        (countHeaders, countsOfExport report.2) := by
  ext report
  rw [toOption_eq_some_iff, Option.map_eq_some_iff]
  constructor
  · intro h
    obtain ⟨qs, hqs, h⟩ := bind_eq_ok_iff.mp h
    obtain ⟨s, hs, rfl⟩ := summarizedAlerts_eq_ok_iff.mp hqs
    have hexport := (exportedAlerts_eq_ok_iff hgiven hsource).mpr ⟨s, hs, rfl⟩
    refine ⟨_, toOption_eq_some_iff.mpr (bind_eq_ok_iff.mpr ⟨_, hexport, rfl⟩), ?_⟩
    obtain rfl := Except.ok.inj h
    rw [countsOfExport_map, alertCounts_perm (List.mergeSort_perm _ _)]
  · rintro ⟨report, h, rfl⟩
    obtain ⟨alerts, halerts, h⟩ := bind_eq_ok_iff.mp (toOption_eq_some_iff.mp h)
    obtain ⟨s, hs, rfl⟩ := (exportedAlerts_eq_ok_iff hgiven hsource).mp halerts
    have hsummary := summarizedAlerts_eq_ok_iff.mpr ⟨s, hs, rfl⟩
    obtain rfl := Except.ok.inj h
    rw [countsOfExport_map, alertCounts_perm (List.mergeSort_perm _ _)]
    exact bind_eq_ok_iff.mpr ⟨_, hsummary, rfl⟩

theorem alertSummaryRows_eq_bankReportDb :
    (bankReportDb.alertExportRows asciiReports bankAlertsJob).isOk = true ∧
      (bankReportDb.alertSummaryRows asciiReports bankAlertsJob).toOption =
        (bankReportDb.alertExportRows asciiReports bankAlertsJob).toOption.map fun report =>
          (countHeaders, countsOfExport report.2) :=
  ⟨rfl, alertSummaryRows_eq ⟨nofun, nofun⟩ rfl⟩

/-! ### Parts and totals -/

/-- The number in a row of counts. -/
def countIn (row : ReportRow) : ℤ :=
  match row.value "value" with
  | .int count => count
  | _ => 0

/-- The sum of a part of a report of counts. -/
def partSum (part : String) (rows : List ReportRow) : ℤ :=
  ((rows.filter fun row => row.value "section" = .text part).map countIn).sum

/-- The count under a label. -/
def countAt (part label : String) (rows : List ReportRow) : ℤ :=
  ((rows.filter fun row =>
    row.value "section" = .text part && row.value "label" = .text label).map countIn).sum

section Parts

variable {part label other name : String} {count : ℕ} {rows : List ReportRow}

@[simp] theorem partSum_nil : partSum part [] = 0 := rfl

@[simp] theorem partSum_cons : partSum part (countRow other name count :: rows) =
    (if other = part then (count : ℤ) else 0) + partSum part rows := by
  have hsection : ((countRow other name count).value "section" = .text part) ↔ other = part := by
    show PyValue.text other = .text part ↔ _
    rw [PyValue.text.injEq]
  unfold partSum
  rw [List.filter_cons]
  simp only [hsection, decide_eq_true_eq]
  split
  · rw [List.map_cons, List.sum_cons]
    rfl
  · rw [zero_add]

@[simp] theorem countAt_nil : countAt part label [] = 0 := rfl

@[simp] theorem countAt_cons : countAt part label (countRow other name count :: rows) =
    (if other = part ∧ name = label then (count : ℤ) else 0) + countAt part label rows := by
  have hlabel : ((countRow other name count).value "section" = .text part ∧
      (countRow other name count).value "label" = .text label) ↔ other = part ∧ name = label := by
    show PyValue.text other = .text part ∧ PyValue.text name = .text label ↔ _
    rw [PyValue.text.injEq, PyValue.text.injEq]
  unfold countAt
  rw [List.filter_cons]
  simp only [Bool.and_eq_true, decide_eq_true_eq, hlabel]
  split
  · rw [List.map_cons, List.sum_cons]
    rfl
  · rw [zero_add]

end Parts

/-- A report on alerts whose counts fit together.  Only alerts of a declared severity are in a part
of the severities. -/
structure AlertsBalance (qs : List AlertEvent) (rows : List ReportRow) : Prop where
  severities : partSum "severity" rows ≤ countAt "summary" "total_alerts" rows
  severities_iff : partSum "severity" rows = countAt "summary" "total_alerts" rows ↔
    ∀ alert ∈ qs, alert.severity ∈ AlertSeverity.values
  statuses : partSum "status" rows = countAt "summary" "total_alerts" rows
  active : countAt "summary" "open_total" rows =
    countAt "status" "OPEN" rows + countAt "status" "ACKNOWLEDGED" rows
  finished : countAt "summary" "total_alerts" rows = countAt "summary" "open_total" rows +
    countAt "summary" "resolved_total" rows + countAt "status" "SUPPRESSED" rows
  severe : countAt "summary" "critical_open" rows + countAt "summary" "warning_open" rows ≤
    countAt "summary" "open_total" rows
  unacknowledged : countAt "summary" "unacknowledged_critical" rows ≤
    countAt "summary" "critical_open" rows
  critical : countAt "summary" "critical_open" rows ≤ countAt "severity" "CRITICAL" rows

/-- The alerts with one of two statuses. -/
theorem length_filter_active (qs : List AlertEvent) :
    (qs.filter fun alert => alert.status = .open || alert.status = .acknowledged).length =
      qs.countP (fun alert => alert.status = .open) +
        qs.countP fun alert => alert.status = .acknowledged := by
  have hsum := sum_countP_eq (fun alert : AlertEvent => alert.status) qs
    (show [AlertStatus.open, .acknowledged].Nodup by decide)
  simp only [List.map_cons, List.map_nil, List.sum_cons, List.sum_nil, Nat.add_zero] at hsum
  rw [hsum, List.countP_eq_length_filter]
  simp

/-- The alerts with one of two severities. -/
theorem countP_severe_le (qs : List AlertEvent) :
    qs.countP (fun alert => alert.severity = .critical) +
      qs.countP (fun alert => alert.severity = .warning) ≤ qs.length := by
  have hsum := sum_countP_eq (fun alert : AlertEvent => alert.severity) qs
    (show [AlertSeverity.critical, .warning].Nodup by decide)
  simp only [List.map_cons, List.map_nil, List.sum_cons, List.sum_nil, Nat.add_zero] at hsum
  rw [hsum]
  exact List.countP_le_length

theorem alertsBalance_alertCounts (qs : List AlertEvent) : AlertsBalance qs (alertCounts qs) := by
  have hseverities := sum_countP_eq (fun alert : AlertEvent => alert.severity) qs
    (show AlertSeverity.values.Nodup by decide)
  have hle : qs.countP (fun alert => decide (alert.severity ∈ AlertSeverity.values)) ≤
      qs.length := List.countP_le_length
  have hiff : qs.countP (fun alert => decide (alert.severity ∈ AlertSeverity.values)) =
      qs.length ↔ ∀ alert ∈ qs, alert.severity ∈ AlertSeverity.values := by
    simp only [List.countP_eq_length, decide_eq_true_eq]
  rw [← hseverities] at hle hiff
  have hstatuses := sum_countP_eq_length (fun alert : AlertEvent => alert.status) qs
    (show AlertStatus.values.Nodup by decide) (by intro s; cases s <;> decide)
  have hactive := length_filter_active qs
  simp only [AlertSeverity.values, AlertStatus.values, List.map_cons, List.map_nil,
    List.sum_cons, List.sum_nil] at hle hiff hstatuses
  constructor
  all_goals
    simp only [alertCounts, countRows, AlertSeverity.values, AlertStatus.values,
      AlertSeverity.value, AlertStatus.value, List.map_cons, List.map_nil, List.cons_append,
      List.nil_append, partSum_cons, partSum_nil, countAt_cons, countAt_nil, String.reduceEq,
      if_true, if_false, and_true, and_false, zero_add, add_zero]
  case severities => omega
  case severities_iff =>
    rw [← hiff]
    omega
  case statuses => omega
  case active => omega
  case finished => omega
  case severe => exact_mod_cast countP_severe_le _
  case unacknowledged =>
    rw [List.countP_filter]
    norm_cast
    refine List.countP_mono_left fun alert _ => ?_
    simp only [Bool.and_eq_true, Bool.or_eq_true]
    rintro ⟨hopen, hcritical⟩
    exact ⟨hcritical, Or.inl hopen⟩
  case critical => exact_mod_cast List.Sublist.countP_le List.filter_sublist

/-- A report on notifications whose counts fit together.  Only notifications of a declared channel
are in a part of the channels. -/
structure NotificationsBalance (qs : List ReportNotification) (rows : List ReportRow) : Prop where
  statuses : partSum "status" rows = countAt "summary" "total" rows
  summary : countAt "summary" "total" rows = countAt "summary" "pending" rows +
    countAt "summary" "delivering" rows + countAt "summary" "sent" rows +
    countAt "summary" "failed" rows
  channels : partSum "channel" rows ≤ countAt "summary" "total" rows
  channels_iff : partSum "channel" rows = countAt "summary" "total" rows ↔
    ∀ row ∈ qs, row.channel ∈ NotificationChannel.values
  read : countAt "summary" "read_count" rows ≤ countAt "summary" "total" rows

theorem notificationsBalance_notificationCounts (qs : List ReportNotification) :
    NotificationsBalance qs (notificationCounts qs) := by
  have hstatuses := sum_countP_eq_length (fun row : ReportNotification => row.status) qs
    (show NotificationStatus.values.Nodup by decide) (by intro s; cases s <;> decide)
  have hchannels := sum_countP_eq (fun row : ReportNotification => row.channel) qs
    (show NotificationChannel.values.Nodup by decide)
  have hle : qs.countP (fun row => decide (row.channel ∈ NotificationChannel.values)) ≤
      qs.length := List.countP_le_length
  have hiff : qs.countP (fun row => decide (row.channel ∈ NotificationChannel.values)) =
      qs.length ↔ ∀ row ∈ qs, row.channel ∈ NotificationChannel.values := by
    simp only [List.countP_eq_length, decide_eq_true_eq]
  rw [← hchannels] at hle hiff
  simp only [NotificationStatus.values, NotificationChannel.values, List.map_cons, List.map_nil,
    List.sum_cons, List.sum_nil] at hstatuses hle hiff
  constructor
  all_goals
    simp only [notificationCounts, countRows, NotificationStatus.values,
      NotificationChannel.values, NotificationStatus.value, NotificationChannel.value,
      List.map_cons, List.map_nil, List.cons_append, List.nil_append, partSum_cons, partSum_nil,
      countAt_cons, countAt_nil, String.reduceEq, if_true, if_false, and_true, and_false,
      zero_add, add_zero]
  case statuses => omega
  case summary => omega
  case channels => omega
  case channels_iff =>
    rw [← hiff]
    omega
  case read => exact_mod_cast List.countP_le_length

/-- **The counts balance**: in a summary of alerts and in a report on notifications, the parts add
up to the totals. -/
theorem counts_balance {headers : List String} {rows : List ReportRow} :
    (db.alertSummaryRows env job = .ok (headers, rows) →
        ∃ qs, db.summarizedAlerts env job = .ok qs ∧ AlertsBalance qs rows) ∧
      (db.notificationDeliveryRows env job = .ok (headers, rows) →
        ∃ qs, db.countedNotifications env job = .ok qs ∧ NotificationsBalance qs rows) := by
  constructor
  · intro h
    obtain ⟨qs, hqs, h⟩ := bind_eq_ok_iff.mp h
    obtain ⟨rfl, rfl⟩ := Prod.mk.inj (Except.ok.inj h)
    exact ⟨qs, hqs, alertsBalance_alertCounts qs⟩
  · intro h
    obtain ⟨qs, hqs, h⟩ := bind_eq_ok_iff.mp h
    obtain ⟨rfl, rfl⟩ := Prod.mk.inj (Except.ok.inj h)
    exact ⟨qs, hqs, notificationsBalance_notificationCounts qs⟩

/-- An alert that is critical, and one of a trap whose mapping has a severity of its own. -/
def recoveryAlerts : Table AlertEvent :=
  .ofRows ((([(1, .critical), (2, .unsupported "Recovery" (by decide))] :
      List (ℕ × AlertSeverity))).map fun alert =>
    { id := alert.1
      organization := 1
      dataCenter := 1
      device := 1
      metric := none
      alertRule := none
      severity := alert.2
      message := "Outlet overload"
      triggeredAt := 700000 * dayMicros
      createdAt := 700000 * dayMicros })

/-- A notification that is sent, and one of a channel that is not declared. -/
def recoveryNotifications : Table ReportNotification :=
  .ofRows ((([(1, .web, .sent), (2, .unsupported "PUSH", .pending)] :
      List (ℕ × NotificationChannel × NotificationStatus))).map fun row =>
    { id := row.1
      organization := 1
      recipient := none
      channel := row.2.1
      status := row.2.2
      dedupeKey := none
      subject := none
      message := "Outlet overload"
      createdAt := 700000 * dayMicros
      updatedAt := 700000 * dayMicros })

/-- The first bank, with alerts and notifications of its own and of no declared choice. -/
def recoveryReportDb : ReportDb :=
  { bankReportDb with
    alerts := recoveryAlerts
    notifications := recoveryNotifications
    alert_device := by decide }

theorem counts_balance_recoveryReportDb :
    (∃ qs, recoveryReportDb.summarizedAlerts asciiReports bankAlertsJob = .ok qs ∧
        AlertsBalance qs (alertCounts recoveryAlerts.rows)) ∧
      ∃ qs, recoveryReportDb.countedNotifications asciiReports bankAlertsJob = .ok qs ∧
        NotificationsBalance qs (notificationCounts recoveryNotifications.rows) :=
  ⟨(@counts_balance asciiReports recoveryReportDb bankAlertsJob countHeaders _).1 rfl,
    (@counts_balance asciiReports recoveryReportDb bankAlertsJob countHeaders _).2 rfl⟩

end ReportDb

end DcimBackend
