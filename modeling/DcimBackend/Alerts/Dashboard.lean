import DcimBackend.Library.Arrangement
import DcimBackend.Library.TimeZone
import DcimBackend.Alerts.Recipients
import DcimBackend.Reports.Totals

/-!
# The alert dashboard

`apps/alerts/services/summary.py`, and the choice of its time zone in `apps/alerts/views.py`: the
counts of the alerts that a user sees, by severity, status, data center and type of device, the
devices with the most alerts, and the latest alerts.

A name is all that the dictionaries by data center and by type of device show, so data centers of
one name share an entry.  The severity of an alert may be any text, since a trap brings that of its
mapping, and then it has an entry of its own, where the summary report has none.

What the database does not promise is a parameter: a `DashboardOrder` may order rows that tie in any
way, and texts by any collation.  `DashboardOrder.ofLe` is one for each collation.

`resolved_today` is about a calendar day of one time zone, whose offset from UTC may change in the
middle of it.  The day begins at the midnight of the wall clock, with the offset in front of a change
where the clocks skip or repeat it (`TimeZone.midnight`).

The results compare sums: what the parts of a payload add up to, what the summary report counts,
and the alerts that are resolved on the days of a period.  They hold for every `DashboardOrder`,
since an arrangement leaves nothing out.
-/

namespace DcimBackend

open Library

/-! ### Days -/

/-- `_day_bounds_in_timezone`, of a day.  A day is added to the wall clock, so the end is the
beginning of the next day. -/
def dayBoundsInTimezone (zone : TimeZone) (today : ℤ) : Instant × Instant :=
  (zone.midnight today, zone.midnight (today + 1))

/-- `status=AlertStatus.RESOLVED, resolved_at__gte=start_of_day, resolved_at__lt=end_of_day`. -/
def resolvedOn (zone : TimeZone) (today : ℤ) (alert : AlertEvent) : Bool :=
  let (start, stop) := dayBoundsInTimezone zone today
  alert.status = .resolved && alert.resolvedAt.any fun t => decide (start ≤ t) && decide (t < stop)

/-! ### The queries -/

/-- What the queries read of the rows that an alert refers to. -/
structure AlertLabels where
  dataCenterName : DataCenterId → String
  dataCenterTimezone : DataCenterId → String
  deviceName : DeviceId → String
  deviceCode : DeviceId → String
  deviceTypeName : DeviceId → String

/-- A row of `build_top_devices`.  The key `"device__name"` repeats the name, and `"total"` the
number of alerts. -/
structure TopDevice where
  deviceId : DeviceId
  deviceName : String
  deviceCode : String
  alertCount : ℕ
  criticalCount : ℕ
  total : ℕ
deriving DecidableEq

/-- `order_by("-alert_count", "-critical_count", "device__name")`, by a collation. -/
def TopDevice.before (le : String → String → Bool) : TopDevice → TopDevice → Bool :=
  orderBy (fun a b => decide (b ≤ a)) TopDevice.alertCount <|
    orderBy (fun a b => decide (b ≤ a)) TopDevice.criticalCount fun a b =>
      le a.deviceName b.deviceName

/-- `order_by("-triggered_at")`. -/
def AlertEvent.latestFirst (a b : AlertEvent) : Bool := decide (b.triggeredAt ≤ a.triggeredAt)

/-- How the database orders what the dashboard asks for: texts by its collation, and rows that tie
in any way. -/
structure DashboardOrder where
  le : String → String → Bool
  texts : Arrangement fun a b => le a b = true
  devices : Arrangement fun a b => TopDevice.before le a b = true
  latest : Arrangement fun a b => AlertEvent.latestFirst a b = true
  /-- `distinct()` of a query without an order. -/
  distinct : Arrangement fun _ _ : String => True

namespace DashboardOrder

/-- An order by a collation, in which what ties stays as it is. -/
def ofLe (le : String → String → Bool)
    (htrans : ∀ a b c, le a b = true → le b c = true → le a c = true)
    (htotal : ∀ a b, (le a b || le b a) = true) : DashboardOrder where
  le := le
  texts := .ofLe le htrans htotal
  devices :=
    .ofLe (TopDevice.before le)
      (orderBy_trans (by simp only [decide_eq_true_eq]; omega)
        (by simp only [decide_eq_true_eq]; omega)
        (orderBy_trans (by simp only [decide_eq_true_eq]; omega)
          (by simp only [decide_eq_true_eq]; omega)
          fun a b c => htrans a.deviceName b.deviceName c.deviceName))
      (orderBy_total (by simp only [Bool.or_eq_true, decide_eq_true_eq]; omega)
        (orderBy_total (by simp only [Bool.or_eq_true, decide_eq_true_eq]; omega)
          fun a b => htotal a.deviceName b.deviceName))
  latest :=
    .ofLe AlertEvent.latestFirst
      (fun _ _ _ hab hbc => decide_eq_true ((of_decide_eq_true hbc).trans (of_decide_eq_true hab)))
      fun a b => by simpa [AlertEvent.latestFirst] using le_total b.triggeredAt a.triggeredAt
  distinct := ⟨id, fun _ => .refl _, fun _ => List.pairwise_of_forall fun _ _ => trivial⟩

end DashboardOrder

/-- The counts of `build_alert_summary`. -/
structure AlertSummary where
  openTotal : ℕ
  criticalOpen : ℕ
  warningOpen : ℕ
  acknowledgedTotal : ℕ
  resolvedToday : ℕ
  unacknowledgedCritical : ℕ
  bySeverity : List (String × ℕ)
  byStatus : List (String × ℕ)
deriving DecidableEq

/-- `build_dashboard_payload`. -/
structure DashboardPayload extends AlertSummary where
  byDataCenter : List (String × ℕ)
  byDeviceType : List (String × ℕ)
deriving DecidableEq

/-- `_active_queryset`. -/
def activeQueryset (queryset : List AlertEvent) : List AlertEvent :=
  queryset.filter fun alert => alert.status = .open || alert.status = .acknowledged

namespace DashboardOrder

variable (order : DashboardOrder) (labels : AlertLabels) (queryset : List AlertEvent)

/-- `_severity_dict`, and the rows of `build_active_by_severity`. -/
def severityDict : List (String × ℕ) :=
  counts order.texts (fun alert => alert.severity.value) queryset

/-- `_status_dict`. -/
def statusDict : List (String × ℕ) :=
  counts order.texts (fun alert => alert.status.value) queryset

/-- `build_alert_summary`, on a day of the business time zone. -/
def buildAlertSummary (zone : TimeZone) (today : ℤ) : AlertSummary :=
  let activeQs := activeQueryset queryset
  { openTotal := activeQs.length
    criticalOpen := activeQs.countP fun alert => alert.severity = .critical
    warningOpen := activeQs.countP fun alert => alert.severity = .warning
    acknowledgedTotal := queryset.countP fun alert => alert.status = .acknowledged
    resolvedToday := queryset.countP (resolvedOn zone today)
    unacknowledgedCritical := queryset.countP fun alert =>
      alert.status = .open && alert.severity = .critical
    bySeverity := order.severityDict activeQs
    byStatus := order.statusDict queryset }

/-- `build_active_by_severity`. -/
def buildActiveBySeverity : List (String × ℕ) := order.severityDict (activeQueryset queryset)

/-- The row of a device in `build_top_devices`. -/
def topDevice (activeQs : List AlertEvent) (device : DeviceId) : TopDevice :=
  let alertCount := activeQs.countP fun alert => alert.device = device
  { deviceId := device
    deviceName := labels.deviceName device
    deviceCode := labels.deviceCode device
    alertCount := alertCount
    criticalCount := activeQs.countP fun alert =>
      alert.device = device && alert.severity = .critical
    total := alertCount }

/-- `build_top_devices`.  The device of an alert is not null. -/
def buildTopDevices (limit : ℕ) : List TopDevice :=
  let activeQs := activeQueryset queryset
  (order.devices.arrange ((groups AlertEvent.device activeQs).map (topDevice labels activeQs))).take
    limit

/-- The alerts of `build_recent_alerts`. -/
def buildRecentAlerts (limit : ℕ) : List AlertEvent := (order.latest.arrange queryset).take limit

/-- `_summary_timezone_for_queryset`.  `ZoneInfo` may not know a name. -/
def summaryTimezoneForQueryset (zoneInfo : String → Option TimeZone) : Option TimeZone :=
  let timezoneNames := (order.distinct.arrange
    (groups (fun alert => labels.dataCenterTimezone alert.dataCenter) queryset)).take 2
  match timezoneNames.filter fun name => name ≠ "" with
  | [name] => zoneInfo name
  | _ => none

/-- `build_dashboard_payload`, on a day of the business time zone. -/
def buildDashboardPayload (zone : TimeZone) (today : ℤ) : DashboardPayload :=
  let activeQs := activeQueryset queryset
  { toAlertSummary := order.buildAlertSummary queryset zone today
    byDataCenter := counts order.texts
      (fun alert => labels.dataCenterName alert.dataCenter) activeQs
    byDeviceType := counts order.texts
      (fun alert => labels.deviceTypeName alert.device) activeQs }

/-- `AlertEventViewSet.summary`, of the alerts that the user sees: the current time zone stands in
where the alerts do not name one. -/
def summary (zoneInfo : String → Option TimeZone) (currentTimezone : TimeZone) (now : Instant) :
    DashboardPayload :=
  let zone := (order.summaryTimezoneForQueryset labels queryset zoneInfo).getD currentTimezone
  order.buildDashboardPayload labels queryset zone (zone.localDate now)

/-- The zone of Bangladesh, whose clocks were an hour ahead in the second half of 2009. -/
def dhaka : TimeZone :=
  .ofNear 21600000000 [(1245430800000000, 25200000000), (1262278800000000, 21600000000)]
    (by decide)

/-- Texts by their characters, and what ties as it is. -/
def asciiOrder : DashboardOrder :=
  .ofLe (fun a b => decide (a ≤ b))
    (fun _ _ _ hab hbc =>
      decide_eq_true (String.le_trans (of_decide_eq_true hab) (of_decide_eq_true hbc)))
    fun a b => by simpa using String.le_total a b

/-- Everything has the name of its kind. -/
def kindLabels : AlertLabels where
  dataCenterName _ := "DC"
  dataCenterTimezone _ := "Asia/Dhaka"
  deviceName _ := "UPS"
  deviceCode _ := "ups"
  deviceTypeName _ := "UPS"

/-- A critical alert, one of a severity of its own, and one that was resolved when the clocks had
been put forward. -/
def dhakaAlerts : List AlertEvent :=
  ReportDb.recoveryAlerts.rows ++
    [{ firstBankAlert with status := .resolved, resolvedAt := some 1245441600000000 }]

/-! ### The counts fit together -/

/-- A dashboard whose counts fit together, of these alerts. -/
structure Balances (le : String → String → Bool) (queryset : List AlertEvent)
    (payload : DashboardPayload) : Prop where
  severities : (payload.bySeverity.map Prod.snd).sum = payload.openTotal
  dataCenters : (payload.byDataCenter.map Prod.snd).sum = payload.openTotal
  deviceTypes : (payload.byDeviceType.map Prod.snd).sum = payload.openTotal
  statuses : (payload.byStatus.map Prod.snd).sum = queryset.length
  active : countOf payload.byStatus "OPEN" + countOf payload.byStatus "ACKNOWLEDGED" =
    payload.openTotal
  acknowledged : countOf payload.byStatus "ACKNOWLEDGED" = payload.acknowledgedTotal
  critical : countOf payload.bySeverity "CRITICAL" = payload.criticalOpen
  warning : countOf payload.bySeverity "WARNING" = payload.warningOpen
  unacknowledged : payload.unacknowledgedCritical ≤ payload.criticalOpen
  resolved : payload.resolvedToday ≤ countOf payload.byStatus "RESOLVED"
  entries : ∀ d ∈ [payload.bySeverity, payload.byStatus, payload.byDataCenter,
    payload.byDeviceType], (d.map Prod.fst).Nodup ∧
      d.Pairwise (fun a b => le a.1 b.1 = true) ∧ ∀ entry ∈ d, 0 < entry.2

variable {order labels queryset}

theorem countOf_severityDict (severity : AlertSeverity) :
    countOf (order.severityDict queryset) severity.value =
      queryset.countP fun alert => alert.severity = severity := by
  simp only [severityDict, countOf_counts, AlertSeverity.value_injective.eq_iff]

theorem countOf_statusDict (status : AlertStatus) :
    countOf (order.statusDict queryset) status.value =
      queryset.countP fun alert => alert.status = status := by
  simp only [statusDict, countOf_counts, AlertStatus.value_injective.eq_iff]

/-- The entries of a dictionary of counts. -/
theorem entries_counts {α : Type} (key : α → String) (xs : List α) :
    ((counts order.texts key xs).map Prod.fst).Nodup ∧
      (counts order.texts key xs).Pairwise (fun a b => order.le a.1 b.1 = true) ∧
      ∀ entry ∈ counts order.texts key xs, 0 < entry.2 :=
  ⟨nodup_counts order.texts key xs, sorted_counts order.texts key xs, fun _ hentry =>
    counts_pos order.texts key xs hentry⟩

theorem balances_buildDashboardPayload (zone : TimeZone) (today : ℤ) :
    Balances order.le queryset (order.buildDashboardPayload labels queryset zone today) where
  severities := sum_counts ..
  dataCenters := sum_counts ..
  deviceTypes := sum_counts ..
  statuses := sum_counts ..
  active := by
    show countOf (order.statusDict queryset) AlertStatus.open.value +
      countOf (order.statusDict queryset) AlertStatus.acknowledged.value = _
    rw [countOf_statusDict, countOf_statusDict]
    exact (ReportDb.length_filter_active queryset).symm
  acknowledged := countOf_statusDict .acknowledged
  critical := countOf_severityDict .critical
  warning := countOf_severityDict .warning
  unacknowledged := by
    show _ ≤ List.countP _ (activeQueryset queryset)
    rw [activeQueryset, List.countP_filter]
    refine List.countP_mono_left fun alert _ => ?_
    simp only [Bool.and_eq_true, Bool.or_eq_true]
    rintro ⟨hopen, hcritical⟩
    exact ⟨hcritical, Or.inl hopen⟩
  resolved := by
    show _ ≤ countOf (order.statusDict queryset) AlertStatus.resolved.value
    rw [countOf_statusDict]
    refine List.countP_mono_left fun alert _ => ?_
    unfold resolvedOn
    rw [Bool.and_eq_true]
    exact And.left
  entries := by
    simp only [List.forall_mem_cons, List.not_mem_nil, false_implies, implies_true, and_true]
    exact ⟨entries_counts .., entries_counts .., entries_counts .., entries_counts ..⟩

/-- **The active alerts by severity**: a row for each severity that there is, in their order, with
its active alerts. -/
theorem buildActiveBySeverity_spec :
    ((order.buildActiveBySeverity queryset).map Prod.fst).Nodup ∧
      (order.buildActiveBySeverity queryset).Pairwise (fun a b => order.le a.1 b.1 = true) ∧
      (∀ row ∈ order.buildActiveBySeverity queryset, 0 < row.2) ∧
      ∀ severity : AlertSeverity, countOf (order.buildActiveBySeverity queryset) severity.value =
        (activeQueryset queryset).countP fun alert => alert.severity = severity := by
  obtain ⟨hnodup, hsorted, hpos⟩ :=
    @entries_counts order AlertEvent (fun alert => alert.severity.value) (activeQueryset queryset)
  exact ⟨hnodup, hsorted, hpos, fun severity => countOf_severityDict severity⟩

/-- The dashboard and the summary report on these alerts say the same, wherever they use the same
label for the same thing.  By severity the report counts all alerts, and the dashboard the active
ones. -/
structure AgreesWithReport (queryset : List AlertEvent) (payload : DashboardPayload)
    (rows : List ReportRow) : Prop where
  openTotal : ReportDb.countAt "summary" "open_total" rows = payload.openTotal
  criticalOpen : ReportDb.countAt "summary" "critical_open" rows = payload.criticalOpen
  warningOpen : ReportDb.countAt "summary" "warning_open" rows = payload.warningOpen
  acknowledgedTotal :
    ReportDb.countAt "summary" "acknowledged_total" rows = payload.acknowledgedTotal
  unacknowledgedCritical :
    ReportDb.countAt "summary" "unacknowledged_critical" rows = payload.unacknowledgedCritical
  statuses : ∀ status : AlertStatus,
    ReportDb.countAt "status" status.value rows = countOf payload.byStatus status.value
  severities : ∀ severity ∈ AlertSeverity.values,
    ReportDb.countAt "severity" severity.value rows =
      countOf payload.bySeverity severity.value +
        queryset.countP fun alert => !alert.status.isActive && alert.severity = severity

/-- The alerts of a severity are active, or not. -/
theorem countP_severity_split (severity : AlertSeverity) :
    (queryset.countP fun alert => alert.severity = severity) =
      (activeQueryset queryset).countP (fun alert => alert.severity = severity) +
        queryset.countP fun alert => !alert.status.isActive && alert.severity = severity := by
  have hactive : activeQueryset queryset = queryset.filter fun alert => alert.status.isActive := by
    refine List.filter_congr fun alert _ => ?_
    cases alert.status <;> rfl
  rw [hactive, List.countP_eq_countP_filter_add queryset _ fun alert => alert.status.isActive]
  congr 1
  rw [List.countP_filter]
  exact List.countP_congr fun alert _ => by rw [Bool.and_comm]

/-- The part of the summary report by severity. -/
theorem countAt_severity {severity : AlertSeverity} (hdeclared : severity ∈ AlertSeverity.values) :
    ReportDb.countAt "severity" severity.value (alertCounts queryset) =
      (queryset.countP fun alert => alert.severity = severity : ℕ) := by
  simp only [AlertSeverity.values, List.mem_cons, List.not_mem_nil, or_false] at hdeclared
  rcases hdeclared with rfl | rfl | rfl | rfl <;> simp [alertCounts, countRows,
    AlertSeverity.values, AlertStatus.values, AlertSeverity.value, AlertStatus.value]

theorem agreesWithReport_alertCounts (zone : TimeZone) (today : ℤ) :
    AgreesWithReport queryset (order.buildDashboardPayload labels queryset zone today)
      (alertCounts queryset) := by
  have hstatus (status : AlertStatus) : countOf
      (order.buildDashboardPayload labels queryset zone today).byStatus status.value = _ :=
    countOf_statusDict status
  have hseverity (severity : AlertSeverity) : countOf
      (order.buildDashboardPayload labels queryset zone today).bySeverity severity.value = _ :=
    countOf_severityDict severity
  constructor
  case statuses =>
    intro status
    rw [hstatus]
    cases status <;> simp [alertCounts, countRows, AlertSeverity.values, AlertStatus.values,
      AlertSeverity.value, AlertStatus.value]
  case severities =>
    intro severity hdeclared
    rw [hseverity, ← Nat.cast_add, ← countP_severity_split, countAt_severity hdeclared]
  all_goals
    simp [alertCounts, countRows, AlertSeverity.values, AlertStatus.values, AlertSeverity.value,
      AlertStatus.value, buildDashboardPayload, buildAlertSummary, activeQueryset]

/-! ### The devices with the most alerts -/

/-- The devices that have an active alert. -/
def alertingDevices (queryset : List AlertEvent) : List DeviceId :=
  groups AlertEvent.device (activeQueryset queryset)

/-- The rows are the devices with the most active alerts, and say how many each has. -/
structure TopOfAll (le : String → String → Bool) (labels : AlertLabels)
    (queryset : List AlertEvent) (limit : ℕ) (rows : List TopDevice) : Prop where
  exact_row : ∀ row ∈ rows, row = topDevice labels (activeQueryset queryset) row.deviceId
  alerting : ∀ row ∈ rows, 0 < row.alertCount
  nodup : (rows.map TopDevice.deviceId).Nodup
  sorted : rows.Pairwise fun a b => TopDevice.before le a b = true
  length : rows.length = min limit (alertingDevices queryset).length
  outranked : ∀ device ∈ alertingDevices queryset, device ∉ rows.map TopDevice.deviceId →
    rows.length = limit ∧ ∀ row ∈ rows,
      TopDevice.before le row (topDevice labels (activeQueryset queryset) device) = true
  total_le : (rows.map TopDevice.alertCount).sum ≤ (activeQueryset queryset).length
  total_eq_iff : (rows.map TopDevice.alertCount).sum = (activeQueryset queryset).length ↔
    (alertingDevices queryset).length ≤ limit

theorem topOfAll_buildTopDevices (limit : ℕ) :
    TopOfAll order.le labels queryset limit (order.buildTopDevices labels queryset limit) := by
  have hid : TopDevice.deviceId ∘ topDevice labels (activeQueryset queryset) = id := rfl
  have hperm := order.devices.perm
    ((alertingDevices queryset).map (topDevice labels (activeQueryset queryset)))
  have hmem : ∀ row ∈ order.buildTopDevices labels queryset limit,
      ∃ device ∈ alertingDevices queryset,
        row = topDevice labels (activeQueryset queryset) device := by
    intro row hrow
    obtain ⟨device, hdevice, rfl⟩ := List.mem_map.mp (hperm.mem_iff.mp (List.mem_of_mem_take hrow))
    exact ⟨device, hdevice, rfl⟩
  have htotal : ((order.devices.arrange ((alertingDevices queryset).map
      (topDevice labels (activeQueryset queryset)))).map TopDevice.alertCount).sum =
        (activeQueryset queryset).length := by
    rw [(hperm.map TopDevice.alertCount).sum_eq, List.map_map]
    exact sum_groups AlertEvent.device (activeQueryset queryset)
  have hcounts : (order.buildTopDevices labels queryset limit).map TopDevice.alertCount =
      ((order.devices.arrange ((alertingDevices queryset).map
        (topDevice labels (activeQueryset queryset)))).map TopDevice.alertCount).take limit :=
    List.map_take
  have hpos : ∀ n ∈ (order.devices.arrange ((alertingDevices queryset).map
      (topDevice labels (activeQueryset queryset)))).map TopDevice.alertCount, 0 < n := by
    intro n hn
    obtain ⟨row, hrow, rfl⟩ := List.mem_map.mp hn
    obtain ⟨device, hdevice, rfl⟩ := List.mem_map.mp (hperm.mem_iff.mp hrow)
    exact countP_pos_of_mem_groups _ _ hdevice
  constructor
  case exact_row =>
    intro row hrow
    obtain ⟨device, -, rfl⟩ := hmem row hrow
    rfl
  case alerting =>
    intro row hrow
    obtain ⟨device, hdevice, rfl⟩ := hmem row hrow
    exact countP_pos_of_mem_groups _ _ hdevice
  case nodup =>
    refine List.Nodup.sublist ((List.take_sublist limit _).map TopDevice.deviceId) ?_
    refine (hperm.map TopDevice.deviceId).nodup_iff.mpr ?_
    rw [List.map_map, hid, List.map_id]
    exact nodup_groups _ _
  case sorted => exact (order.devices.sorted _).sublist (List.take_sublist limit _)
  case length =>
    show ((order.devices.arrange _).take limit).length = _
    rw [List.length_take, order.devices.length_arrange, List.length_map]
    rfl
  case outranked =>
    intro device hdevice hnot
    refine order.devices.take_of_notMem (List.mem_map_of_mem hdevice) fun hrow => hnot ?_
    exact List.mem_map.mpr ⟨_, hrow, rfl⟩
  case total_le =>
    rw [← htotal, hcounts]
    exact sum_take_le
  case total_eq_iff =>
    rw [← htotal, hcounts, sum_take_eq_iff hpos]
    simp

theorem topOfAll_dhaka : TopOfAll asciiOrder.le kindLabels dhakaAlerts 1
    (asciiOrder.buildTopDevices kindLabels dhakaAlerts 1) :=
  topOfAll_buildTopDevices 1

/-! ### The day of the dashboard -/

/-- **The dashboard is consistent**: its counts fit together, and are those of the summary report
on the same alerts. -/
theorem summary_consistent (zoneInfo : String → Option TimeZone) (currentTimezone : TimeZone)
    (now : Instant) :
    Balances order.le queryset (order.summary labels queryset zoneInfo currentTimezone now) ∧
      AgreesWithReport queryset (order.summary labels queryset zoneInfo currentTimezone now)
        (alertCounts queryset) :=
  ⟨balances_buildDashboardPayload _ _, agreesWithReport_alertCounts _ _⟩

theorem summary_consistent_dhaka :
    Balances asciiOrder.le dhakaAlerts
        (asciiOrder.summary kindLabels dhakaAlerts (fun _ => some dhaka) (.fixed 0) 0) ∧
      AgreesWithReport dhakaAlerts
        (asciiOrder.summary kindLabels dhakaAlerts (fun _ => some dhaka) (.fixed 0) 0)
        (alertCounts dhakaAlerts) :=
  summary_consistent (fun _ => some dhaka) (.fixed 0) 0

/-! ### Recent alerts -/

/-- The rows are the latest alerts. -/
structure LatestOfAll (queryset : List AlertEvent) (limit : ℕ) (rows : List AlertEvent) : Prop where
  listed : ∀ alert ∈ rows, alert ∈ queryset
  sorted : rows.Pairwise fun a b => AlertEvent.latestFirst a b = true
  length : rows.length = min limit queryset.length
  outranked : ∀ alert ∈ queryset, alert ∉ rows →
    rows.length = limit ∧ ∀ row ∈ rows, AlertEvent.latestFirst row alert = true

theorem latestOfAll_buildRecentAlerts (limit : ℕ) :
    LatestOfAll queryset limit (order.buildRecentAlerts queryset limit) where
  listed _ halert := order.latest.mem_arrange.mp (List.mem_of_mem_take halert)
  sorted := (order.latest.sorted _).sublist (List.take_sublist limit _)
  length := by
    unfold buildRecentAlerts
    rw [List.length_take, order.latest.length_arrange]
  outranked _ halert hcut := order.latest.take_of_notMem halert hcut

/-! ### Resolutions -/

/-- The alert was resolved between two instants. -/
def resolvedBetween (start stop : Instant) (alert : AlertEvent) : Bool :=
  alert.status = .resolved && alert.resolvedAt.any fun t => decide (start ≤ t) && decide (t < stop)

/-- Between two instants, and from then on to a third one. -/
theorem countP_resolvedBetween_add {start middle stop : Instant} (hstart : start ≤ middle)
    (hstop : middle ≤ stop) :
    queryset.countP (resolvedBetween start stop) =
      queryset.countP (resolvedBetween start middle) +
        queryset.countP (resolvedBetween middle stop) := by
  rw [← countP_or]
  · congr 1
    funext alert
    rw [Bool.eq_iff_iff]
    cases hat : alert.resolvedAt with
    | none => simp [resolvedBetween, hat]
    | some t =>
        simp only [resolvedBetween, hat, Option.any_some, Bool.and_eq_true, Bool.or_eq_true,
          decide_eq_true_eq, ← and_or_left]
        refine and_congr_right fun _ => ⟨?_, ?_⟩
        · rintro ⟨hafter, hbefore⟩
          rcases lt_or_ge t middle with hlt | hge
          · exact Or.inl ⟨hafter, hlt⟩
          · exact Or.inr ⟨hge, hbefore⟩
        · rintro (⟨hafter, hbefore⟩ | ⟨hafter, hbefore⟩)
          · exact ⟨hafter, hbefore.trans_le hstop⟩
          · exact ⟨hstart.trans hafter, hbefore⟩
  · intro alert _ hbefore
    rw [Bool.eq_false_iff]
    intro hafter
    cases hat : alert.resolvedAt with
    | none => simp [resolvedBetween, hat] at hbefore
    | some t =>
        simp only [resolvedBetween, hat, Option.any_some, Bool.and_eq_true,
          decide_eq_true_eq] at hbefore hafter
        exact absurd hbefore.2.2 (not_lt.mpr hafter.2.1)

/-- A resolution is on a day if it is between its midnights. -/
theorem resolvedOn_iff {zone : TimeZone} {day : ℤ} {alert : AlertEvent} {t : Instant}
    (hstatus : alert.status = .resolved) (hat : alert.resolvedAt = some t) :
    resolvedOn zone day alert = true ↔ zone.midnight day ≤ t ∧ t < zone.midnight (day + 1) := by
  unfold resolvedOn
  rw [hstatus, hat]
  simp only [decide_true, Bool.true_and, Option.any_some, Bool.and_eq_true]
  exact and_congr decide_eq_true_iff decide_eq_true_iff

/-- The counts of consecutive days add up. -/
theorem sum_resolvedToday (zone : TimeZone) (first : ℤ) (days : ℕ) :
    ((List.range days).map fun n : ℕ =>
      (order.buildAlertSummary queryset zone (first + (n : ℤ))).resolvedToday).sum =
      queryset.countP (resolvedBetween (zone.midnight first) (zone.midnight (first + days))) := by
  induction days with
  | zero =>
      rw [List.range_zero, List.map_nil, List.sum_nil, eq_comm, List.countP_eq_zero]
      intro alert _
      cases hat : alert.resolvedAt with
      | none => simp [resolvedBetween, hat]
      | some t => simp [resolvedBetween, hat]
  | succ days ih =>
      have hfirst : zone.midnight first ≤ zone.midnight (first + days) :=
        zone.midnight_mono (by omega)
      have hlast : zone.midnight (first + days) ≤ zone.midnight (first + days + 1) :=
        zone.midnight_mono (by omega)
      rw [List.range_succ, List.map_append, List.sum_append, ih, List.map_singleton,
        List.sum_singleton, Nat.cast_add, Nat.cast_one, ← add_assoc,
        countP_resolvedBetween_add hfirst hlast]
      rfl

/-- **Every resolution is on one day**, whatever the clocks do: there is exactly one day that counts
it, and the counts of consecutive days add up to the alerts that were resolved between the beginning
of the first one and the end of the last. -/
theorem resolvedToday_accounted (zone : TimeZone) :
    (∀ alert ∈ queryset, alert.status = .resolved → alert.resolvedAt ≠ none →
        ∃! day, resolvedOn zone day alert = true) ∧
      ∀ (first : ℤ) (days : ℕ), ((List.range days).map fun n : ℕ =>
          (order.buildAlertSummary queryset zone (first + (n : ℤ))).resolvedToday).sum =
        queryset.countP
          (resolvedBetween (zone.midnight first) (zone.midnight (first + days))) := by
  refine ⟨fun alert _ hstatus hresolved => ?_, sum_resolvedToday zone⟩
  obtain ⟨t, hat⟩ := Option.ne_none_iff_exists'.mp hresolved
  simp only [resolvedOn_iff hstatus hat]
  exact zone.existsUnique_day t

theorem resolvedToday_accounted_dhaka :
    (∀ alert ∈ dhakaAlerts, alert.status = .resolved → alert.resolvedAt ≠ none →
        ∃! day, resolvedOn dhaka day alert = true) ∧
      ∀ (first : ℤ) (days : ℕ), ((List.range days).map fun n : ℕ =>
          (asciiOrder.buildAlertSummary dhakaAlerts dhaka (first + (n : ℤ))).resolvedToday).sum =
        dhakaAlerts.countP
          (resolvedBetween (dhaka.midnight first) (dhaka.midnight (first + days))) :=
  resolvedToday_accounted dhaka

end DashboardOrder

end DcimBackend
