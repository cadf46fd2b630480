import DcimBackend.Telemetry.HistoryQuery
import Mathlib.Algebra.BigOperators.Group.List.Basic
import Mathlib.Algebra.Field.Rat

/-!
# The buckets of a history

`TelemetryPointViewSet.history` (`apps/telemetry/views.py`).  The database truncates the times of
the points in the current time zone and averages the points of each bucket.  The view counts
buckets from the start of the range, floored in the zone that the client has sent, and looks up
their averages by equality.

The answer is written by a serializer whose `DateTimeField` reads every time in the current zone,
and refuses one that has no date there.

`losesNothing_iff` is the exact line: unless the calendar ends first, every numeric point is in
its bucket if and only if the floored start is where the current zone begins a bucket, and no point
is truncated beyond the floored end.

A history reads three clocks: the offset that the client has sent, the current time zone, and UTC
behind both.  All times are instants with an offset, so an equality of bucket times is one of
instants, like in Python, and the offset is kept for what is written.

Averages are those of rationals; how the database adds up floats does not decide which points are
in a bucket.
-/

namespace DcimBackend

open Library

/-- `telemetry.TelemetryPoint`, with what a history reads of it.  Floats are the numbers they
are. -/
structure HistoryPoint where
  device : DeviceId
  metric : MetricId
  /-- In microseconds. -/
  time : ℤ
  valueFloat : Option ℚ := none
  valueInteger : Option ℤ := none

/-- `Coalesce("value_float", Cast("value_integer", FloatField()))`. -/
def HistoryPoint.numericValue (p : HistoryPoint) : Option ℚ :=
  p.valueFloat.or (p.valueInteger.map fun n => (n : ℚ))

/-- `Avg`: there is no average of no values. -/
def average (values : List ℚ) : Option ℚ :=
  if values = [] then none else some (values.sum / values.length)

/-! ### Buckets -/

/-- The two sizes of buckets. -/
inductive BucketDelta
  | hour
  | day
deriving DecidableEq

/-- The size of a bucket. -/
def BucketDelta.micros : BucketDelta → ℤ
  | .hour => hourMicros
  | .day => dayMicros

/-- `_floor_bucket_datetime`. -/
def floorBucketDatetime (value : DateTime) : BucketDelta → DateTime
  | .hour =>
      { value with
        time := ⟨value.time.micros - value.time.micros % hourMicros, by
          have hbounds := value.time.bounds
          unfold hourMicros dayMicros at *
          omega⟩ }
  | .day => { value with time := .min }

/-- `_history_bucket_spec`. -/
def historyBucketSpec (startDt endDt : DateTime) : BucketDelta :=
  if endDt.instant - startDt.instant ≤ dayMicros then .hour else .day

/-- `TruncHour` and `TruncDay`, in the current time zone. -/
def bucketTrunc (delta : BucketDelta) (t : ℤ) : ℤ :=
  t - (t + currentTimeZone.micros) % delta.micros

/-- `value + delta`, or an `OverflowError`. -/
def DateTime.addDelta (value : DateTime) : BucketDelta → Option DateTime
  | .hour =>
      if h : value.time.micros + hourMicros < dayMicros then
        some
          { value with
            time := ⟨value.time.micros + hourMicros, by
              have hbounds := value.time.bounds
              unfold hourMicros at *
              omega⟩ }
      else
        value.date.next.map fun date =>
          { value with
            date := date
            time := ⟨value.time.micros + hourMicros - dayMicros, by
              have hbounds := value.time.bounds
              unfold hourMicros dayMicros at *
              omega⟩ }
  | .day => value.date.next.map fun date => { value with date := date }

theorem DateTime.addDelta_eq_some {value next : DateTime} {delta : BucketDelta}
    (h : value.addDelta delta = some next) :
    next.instant = value.instant + delta.micros ∧ next.offset = value.offset := by
  unfold addDelta at h
  cases delta with
  | hour =>
      dsimp only at h
      split at h
      · obtain rfl := Option.some.inj h
        refine ⟨?_, rfl⟩
        simp only [instant, BucketDelta.micros]
        omega
      · obtain ⟨date, hdate, rfl⟩ := Option.map_eq_some_iff.mp h
        refine ⟨?_, rfl⟩
        simp only [instant, BucketDelta.micros, Date.toOrdinal_next hdate]
        ring
  | day =>
      obtain ⟨date, hdate, rfl⟩ := Option.map_eq_some_iff.mp h
      refine ⟨?_, rfl⟩
      simp only [instant, BucketDelta.micros, Date.toOrdinal_next hdate]
      ring

theorem BucketDelta.micros_pos (delta : BucketDelta) : 0 < delta.micros := by
  cases delta <;> decide

/-- `_build_bucket_sequence`, from `current` on. -/
def buildBucketSequence (delta : BucketDelta) (endBucket : DateTime) (current : DateTime) :
    Except HistoryError (List DateTime) :=
  if current.instant ≤ endBucket.instant then
    match _h : current.addDelta delta with
    | some next => do return current :: (← buildBucketSequence delta endBucket next)
    | none => .error .overflow
  else .ok []
-- in a pair, the measure is not evaluated where the equation of the definition is proved
termination_by ((endBucket.instant + 1 - current.instant).toNat, 0)
decreasing_by
  apply Prod.Lex.left
  have hnext := (DateTime.addDelta_eq_some _h).1
  have hpos := delta.micros_pos
  omega

/-! ### The times of an answer -/

/-- The first date. -/
def firstDate : Date := ⟨1, 1, 1, by decide⟩

/-- The last date. -/
def lastDate : Date := ⟨9999, 12, 31, by decide⟩

/-- The first instant that a zone cannot read. -/
def calendarEnd (offset : UtcOffset) : ℤ :=
  (lastDate.toOrdinal + 1) * dayMicros - offset.micros

/-- `astimezone` of an instant that is read at an offset has a result.  What is in the current
zone stays as it is; the rest goes through UTC, which has to be able to read it, to the current
zone. -/
def HasLocalTime (offset : UtcOffset) (t : ℤ) : Prop :=
  offset = currentTimeZone ∨ firstDate.toOrdinal * dayMicros ≤ t ∧ t < calendarEnd currentTimeZone

instance (offset : UtcOffset) (t : ℤ) : Decidable (HasLocalTime offset t) :=
  inferInstanceAs (Decidable (_ ∨ _))

/-- `DateTimeField.to_representation` of the times of a list, which are written in the current
zone.  They remain the instants that they are. -/
def enforceTimezone (times : List DateTime) : Except HistoryError (List DateTime) :=
  if ∀ value ∈ times, HasLocalTime value.offset value.instant then .ok times
  else .error (.detail ["Datetime value out of range."])

/-! ### `history` -/

/-- A bucket of a history. -/
structure HistoryRow where
  time : DateTime
  metricCode : String
  quality : String := "BUCKETED"
  source : Option String := some "bucketed"
  value : Option ℚ

/-- The time is in the interval of a row. -/
def HistoryRow.contains (row : HistoryRow) (delta : BucketDelta) (t : ℤ) : Bool :=
  row.time.instant ≤ t && t < row.time.instant + delta.micros

/-- The answer to a history query. -/
structure HistoryResponse where
  device : DeviceId
  metric : String
  dateFrom : DateTime
  dateTo : DateTime
  count : ℕ
  results : List HistoryRow

namespace HistoryRange

variable (range : HistoryRange)

/-- The size of the buckets. -/
def delta : BucketDelta := historyBucketSpec range.startDt range.endDt

/-- The first bucket. -/
def startBucket : DateTime := floorBucketDatetime range.startDt range.delta

/-- The last bucket. -/
def endBucket : DateTime := floorBucketDatetime range.endDt range.delta

/-- The points of a query: what the user may see of the device and the metric, in the range. -/
def points (device : DeviceId) (visible : List HistoryPoint) : List HistoryPoint :=
  visible.filter fun p => p.device = device && p.metric = range.metric.id &&
    range.startDt.instant ≤ p.time && p.time ≤ range.endDt.instant

/-- `bucket_map.get(bucket_time)`: the average of the points that are truncated to the bucket. -/
def bucketValue (qs : List HistoryPoint) (bucketTime : DateTime) : Option ℚ :=
  average ((qs.filter fun p => bucketTrunc range.delta p.time = bucketTime.instant).filterMap
    HistoryPoint.numericValue)

/-- The rows of a history. -/
def historyRows (qs : List HistoryPoint) : Except HistoryError (List HistoryRow) :=
  if qs = [] then .ok []
  else do
    let buckets ← buildBucketSequence range.delta range.endBucket range.startBucket
    let times ← enforceTimezone buckets
    return times.map fun bucketTime =>
      { time := bucketTime
        metricCode := range.metric.code
        value := range.bucketValue qs bucketTime }

end HistoryRange

/-- `TelemetryPointViewSet.history`, of the points that the user may see. -/
def HistorySetup.history (setup : HistorySetup) (visible : List HistoryPoint)
    (query : HistoryQuery) (now : DateTime) : Except HistoryError HistoryResponse := do
  let range ← setup.validate query now
  let rows ← range.historyRows (range.points query.device visible)
  return {
    device := query.device
    metric := range.metric.code
    dateFrom := range.startDt
    dateTo := range.endDt
    count := rows.length
    results := rows }

/-! ### The end of the calendar -/

theorem toOrdinal_le_lastDate (d : Date) : d.toOrdinal ≤ lastDate.toOrdinal := by
  have hmonth := d.toOrdinal_bounds.2
  have hlast : monthStart 120000 = lastDate.toOrdinal + 1 := by decide
  have hle : monthStart (d.monthIndex + 1) ≤ monthStart 120000 :=
    monthStart_le (by have := d.monthIndex_bounds; omega)
  omega

theorem next_eq_none_iff {d : Date} : d.next = none ↔ d.toOrdinal = lastDate.toOrdinal := by
  constructor
  · intro hnone
    by_contra hne
    have hlt : d.toOrdinal < lastDate.toOrdinal :=
      lt_of_le_of_ne (toOrdinal_le_lastDate d) hne
    have hsome := Date.isSome_next hlt
    rw [hnone] at hsome
    cases hsome
  · intro hlast
    rcases hnext : d.next with _ | e
    · rfl
    · have hle := toOrdinal_le_lastDate e
      rw [Date.toOrdinal_next hnext] at hle
      omega

theorem DateTime.addDelta_eq_none_iff {value : DateTime} {delta : BucketDelta} :
    value.addDelta delta = none ↔ calendarEnd value.offset ≤ value.instant + delta.micros := by
  have hlast := toOrdinal_le_lastDate value.date
  have hbounds := value.time.bounds
  unfold addDelta calendarEnd DateTime.instant
  cases delta with
  | hour =>
      dsimp only [BucketDelta.micros]
      unfold dayMicros hourMicros at *
      split
      · rename_i hroom
        refine iff_of_false (by simp) ?_
        omega
      · rw [Option.map_eq_none_iff, next_eq_none_iff]
        omega
  | day =>
      dsimp only [BucketDelta.micros]
      rw [Option.map_eq_none_iff, next_eq_none_iff]
      unfold dayMicros at *
      omega

/-! ### The sequence of buckets -/

variable {delta : BucketDelta} {first last : DateTime}

/-- The bucket times up to the last one, and the one after it, are before the end of the
calendar. -/
def FitsCalendar (delta : BucketDelta) (last first : DateTime) : Prop :=
  first.instant ≤ last.instant →
    first.instant + delta.micros * ((last.instant - first.instant) / delta.micros + 1) <
      calendarEnd first.offset

/-- One bucket more or less makes no difference to what the sequence needs. -/
theorem fitsCalendar_next {next : DateTime} (hle : first.instant ≤ last.instant)
    (hnext : next.instant = first.instant + delta.micros) (hoffset : next.offset = first.offset)
    (hfits : next.instant < calendarEnd first.offset) :
    FitsCalendar delta last first ↔ FitsCalendar delta last next := by
  unfold FitsCalendar
  rw [hoffset]
  generalize calendarEnd first.offset = limit at *
  cases delta <;> simp only [BucketDelta.micros, dayMicros, hourMicros] at * <;> omega

theorem buildBucketSequence_of_some {next : DateTime} (hle : first.instant ≤ last.instant)
    (hnext : first.addDelta delta = some next) :
    buildBucketSequence delta last first =
      do return first :: (← buildBucketSequence delta last next) := by
  rw [buildBucketSequence, if_pos hle]
  split
  · rename_i next' hnext'
    obtain rfl := Option.some.inj (hnext.symm.trans hnext')
    rfl
  · rename_i hnone
    rw [hnext] at hnone
    cases hnone

theorem buildBucketSequence_of_none (hle : first.instant ≤ last.instant)
    (hnone : first.addDelta delta = none) :
    buildBucketSequence delta last first = .error .overflow := by
  rw [buildBucketSequence, if_pos hle]
  split
  · rename_i next hnext
    rw [hnone] at hnext
    cases hnext
  · rfl

/-- The instants of a sequence, from the second one on. -/
theorem bucket_after_iff {f x : ℤ} (hfirst : f ≤ last.instant) :
    (x = f ∨ f + delta.micros ≤ x ∧ x ≤ last.instant ∧
      (x - (f + delta.micros)) % delta.micros = 0) ↔
      f ≤ x ∧ x ≤ last.instant ∧ (x - f) % delta.micros = 0 := by
  cases delta <;> simp only [BucketDelta.micros, dayMicros, hourMicros] <;> omega

/-- **The sequence of buckets** ends before the calendar does, or raises. -/
theorem buildBucketSequence_spec (delta : BucketDelta) (last first : DateTime) :
    (FitsCalendar delta last first ∧ ∃ buckets,
      buildBucketSequence delta last first = .ok buckets ∧
        buckets.Pairwise (fun a b => a.instant + delta.micros ≤ b.instant) ∧
        (∀ b ∈ buckets, b.offset = first.offset) ∧
        ∀ x, (∃ b ∈ buckets, b.instant = x) ↔
          first.instant ≤ x ∧ x ≤ last.instant ∧ (x - first.instant) % delta.micros = 0) ∨
    (¬FitsCalendar delta last first ∧ buildBucketSequence delta last first = .error .overflow) := by
  have hpos := delta.micros_pos
  induction first using buildBucketSequence.induct delta last with
  | case1 current hle next hnext ih =>
      obtain ⟨hinstant, hoffset⟩ := DateTime.addDelta_eq_some hnext
      have hlimit : next.instant < calendarEnd current.offset := by
        by_contra hge
        rw [hinstant, not_lt, ← DateTime.addDelta_eq_none_iff, hnext] at hge
        cases hge
      rw [fitsCalendar_next hle hinstant hoffset hlimit, buildBucketSequence_of_some hle hnext]
      rcases ih with ⟨hfits, buckets, hbuckets, hsorted, hoffsets, hmem⟩ | ⟨hfits, hraises⟩
      · rw [hinstant] at hmem
        refine Or.inl ⟨hfits, current :: buckets, by rw [hbuckets]; rfl, ?_, ?_, fun x => ?_⟩
        · rw [List.pairwise_cons]
          exact ⟨fun b hb => ((hmem b.instant).mp ⟨b, hb, rfl⟩).1, hsorted⟩
        · rw [List.forall_mem_cons]
          exact ⟨rfl, fun b hb => (hoffsets b hb).trans hoffset⟩
        · rw [← bucket_after_iff hle, ← hmem x]
          simp [eq_comm]
      · exact Or.inr ⟨hfits, by rw [hraises]; rfl⟩
  | case2 current hle hnext =>
      refine Or.inr ⟨fun hfits => ?_, buildBucketSequence_of_none hle hnext⟩
      have hend := DateTime.addDelta_eq_none_iff.mp hnext
      have hlt := hfits hle
      have hcount : 0 ≤ (last.instant - current.instant) / delta.micros :=
        Int.ediv_nonneg (by omega) hpos.le
      nlinarith
  | case3 current hgt =>
      refine Or.inl ⟨fun hle => absurd hle hgt, [], ?_, List.Pairwise.nil, by simp, fun x => ?_⟩
      · rw [buildBucketSequence, if_neg hgt]
      · refine iff_of_false (by simp) ?_
        rintro ⟨hfirst, hlast, -⟩
        exact hgt (hfirst.trans hlast)

/-! ### Truncation -/

theorem instant_floorBucketDatetime (value : DateTime) (delta : BucketDelta) :
    (floorBucketDatetime value delta).instant =
      value.instant - (value.instant + value.offset.micros) % delta.micros := by
  have hbounds := value.time.bounds
  unfold DateTime.instant
  cases delta with
  | hour =>
      simp only [floorBucketDatetime, BucketDelta.micros, dayMicros, hourMicros]
      omega
  | day =>
      simp only [floorBucketDatetime, BucketDelta.micros, TimeOfDay.min, dayMicros] at *
      omega

/-- The current zone begins a bucket here. -/
def OnGrid (delta : BucketDelta) (x : ℤ) : Prop :=
  (x + currentTimeZone.micros) % delta.micros = 0

variable {x y t : ℤ}

theorem onGrid_bucketTrunc (delta : BucketDelta) (t : ℤ) :
    OnGrid delta (bucketTrunc delta t) := by
  unfold OnGrid bucketTrunc currentTimeZone
  cases delta <;> simp only [BucketDelta.micros, dayMicros, hourMicros] <;> omega

/-- A time is truncated to the bucket of the current zone that it is in. -/
theorem bucketTrunc_eq_iff (hx : OnGrid delta x) :
    bucketTrunc delta t = x ↔ x ≤ t ∧ t < x + delta.micros := by
  unfold OnGrid bucketTrunc currentTimeZone at *
  cases delta <;> simp only [BucketDelta.micros, dayMicros, hourMicros] at * <;> omega

theorem onGrid_iff_of_steps (h : (x - y) % delta.micros = 0) : OnGrid delta x ↔ OnGrid delta y := by
  unfold OnGrid currentTimeZone
  cases delta <;> simp only [BucketDelta.micros, dayMicros, hourMicros] at * <;> omega

theorem steps_of_onGrid (hx : OnGrid delta x) (hy : OnGrid delta y) :
    (x - y) % delta.micros = 0 := by
  unfold OnGrid currentTimeZone at *
  cases delta <;> simp only [BucketDelta.micros, dayMicros, hourMicros] at * <;> omega

/-- Nothing that begins a bucket before a time is after its truncation. -/
theorem le_bucketTrunc (hx : OnGrid delta x) (hle : x ≤ t) : x ≤ bucketTrunc delta t := by
  unfold OnGrid bucketTrunc currentTimeZone at *
  cases delta <;> simp only [BucketDelta.micros, dayMicros, hourMicros] at * <;> omega

namespace HistoryRange

variable {range : HistoryRange} {qs : List HistoryPoint} {p : HistoryPoint}

/-- The zone of the start agrees with the current one on where buckets begin: for hours, its
offset is a number of hours, and for days that of the current zone. -/
def Aligned (range : HistoryRange) : Prop :=
  range.startDt.offset.micros % range.delta.micros =
    currentTimeZone.micros % range.delta.micros

instance : Decidable range.Aligned := inferInstanceAs (Decidable (_ = _))

theorem onGrid_startBucket_iff : OnGrid range.delta range.startBucket.instant ↔ range.Aligned := by
  unfold OnGrid Aligned startBucket
  rw [instant_floorBucketDatetime]
  generalize range.startDt.offset.micros = offset
  generalize range.startDt.instant = t
  cases range.delta <;> simp only [BucketDelta.micros, dayMicros, hourMicros] <;> omega

theorem offset_startBucket : range.startBucket.offset = range.startDt.offset := by
  unfold startBucket floorBucketDatetime
  cases range.delta <;> rfl

theorem startBucket_le : range.startBucket.instant ≤ range.startDt.instant := by
  unfold startBucket
  rw [instant_floorBucketDatetime]
  have hmod := Int.emod_nonneg (range.startDt.instant + range.startDt.offset.micros)
    range.delta.micros_pos.ne'
  omega

/-! ### Which points are kept -/

/-- The average of the numeric points in the interval of a row. -/
def rowAverage (range : HistoryRange) (qs : List HistoryPoint) (row : HistoryRow) : Option ℚ :=
  average ((qs.filter fun q => row.contains range.delta q.time).filterMap
    HistoryPoint.numericValue)

/-- Exactly one row is for the time of a point, and its value is the average there. -/
def KeepsPoint (range : HistoryRange) (qs : List HistoryPoint) (rows : List HistoryRow)
    (p : HistoryPoint) : Prop :=
  ∃ row, rows.filter (fun row => row.contains range.delta p.time) = [row] ∧
    row.value = range.rowAverage qs row

/-- A list of rows is returned, and it keeps every numeric point. -/
def LosesNothing (range : HistoryRange) (qs : List HistoryPoint)
    (result : Except HistoryError (List HistoryRow)) : Prop :=
  ∃ rows, result = .ok rows ∧
    ∀ p ∈ qs, p.numericValue.isSome → range.KeepsPoint qs rows p

end HistoryRange

/-- There is an average of some values. -/
theorem isSome_average_iff {qs : List HistoryPoint} :
    (average (qs.filterMap HistoryPoint.numericValue)).isSome ↔
      ∃ q ∈ qs, q.numericValue.isSome := by
  unfold average
  split
  · rename_i hnil
    rw [List.filterMap_eq_nil_iff] at hnil
    refine iff_of_false (by simp) ?_
    rintro ⟨q, hq, hsome⟩
    rw [hnil q hq] at hsome
    cases hsome
  · rename_i hne
    refine iff_of_true rfl ?_
    obtain ⟨value, hvalue⟩ := List.exists_mem_of_ne_nil _ hne
    obtain ⟨q, hq, hnumeric⟩ := List.mem_filterMap.mp hvalue
    exact ⟨q, hq, by rw [hnumeric]; rfl⟩

/-- What at most one element has is kept of one that has it. -/
theorem filter_eq_singleton {α : Type*} {xs : List α} {p : α → Bool} {a : α}
    (hxs : xs.Pairwise fun x y => ¬(p x = true ∧ p y = true)) (ha : a ∈ xs) (hp : p a = true) :
    xs.filter p = [a] := by
  induction xs with
  | nil => cases ha
  | cons x xs ih =>
      obtain ⟨hhead, htail⟩ := List.pairwise_cons.mp hxs
      rcases List.mem_cons.mp ha with rfl | hmem
      · have hrest : xs.filter p = [] := by
          rw [List.filter_eq_nil_iff]
          exact fun y hy hpy => hhead y hy ⟨hp, hpy⟩
        rw [List.filter_cons_of_pos hp, hrest]
      · rw [List.filter_cons_of_neg fun hpx => hhead a hmem ⟨hpx, hp⟩, ih htail hmem]

namespace HistoryRange

variable {range : HistoryRange} {qs : List HistoryPoint} {p : HistoryPoint}

/-- The row of a bucket. -/
def bucketRow (range : HistoryRange) (qs : List HistoryPoint) (bucketTime : DateTime) :
    HistoryRow where
  time := bucketTime
  metricCode := range.metric.code
  value := range.bucketValue qs bucketTime

theorem contains_bucketRow_iff {b : DateTime} {t : ℤ} :
    (range.bucketRow qs b).contains range.delta t = true ↔
      b.instant ≤ t ∧ t < b.instant + range.delta.micros := by
  unfold HistoryRow.contains
  rw [Bool.and_eq_true, decide_eq_true_eq, decide_eq_true_eq]
  rfl

/-- Where the current zone begins a bucket, its value is the average of the bucket. -/
theorem value_bucketRow {b : DateTime} (hgrid : OnGrid range.delta b.instant) :
    (range.bucketRow qs b).value = range.rowAverage qs (range.bucketRow qs b) := by
  have hfilter : (qs.filter fun q => bucketTrunc range.delta q.time = b.instant) =
      qs.filter fun q => (range.bucketRow qs b).contains range.delta q.time := by
    refine List.filter_congr fun q _ => ?_
    rw [Bool.eq_iff_iff, decide_eq_true_eq, bucketTrunc_eq_iff hgrid, contains_bucketRow_iff]
  show average _ = average _
  rw [hfilter]

/-- A bucket that has a value is where the current zone begins one. -/
theorem onGrid_of_isSome_bucketValue {b : DateTime} (h : (range.bucketValue qs b).isSome) :
    OnGrid range.delta b.instant := by
  obtain ⟨q, hq, -⟩ := isSome_average_iff.mp h
  have htrunc := (List.mem_filter.mp hq).2
  rw [← of_decide_eq_true htrunc]
  exact onGrid_bucketTrunc range.delta q.time

/-- **A numeric point is kept** exactly if the buckets begin where they do in the current zone,
and the last one is not before that of the point. -/
theorem keepsPoint_iff {buckets : List DateTime}
    (hsorted : buckets.Pairwise fun a b => a.instant + range.delta.micros ≤ b.instant)
    (hmem : ∀ x, (∃ b ∈ buckets, b.instant = x) ↔ range.startBucket.instant ≤ x ∧
      x ≤ range.endBucket.instant ∧ (x - range.startBucket.instant) % range.delta.micros = 0)
    (hp : p ∈ qs) (hnumeric : p.numericValue.isSome) (hstart : range.startDt.instant ≤ p.time) :
    range.KeepsPoint qs (buckets.map (range.bucketRow qs)) p ↔
      range.Aligned ∧ bucketTrunc range.delta p.time ≤ range.endBucket.instant := by
  constructor
  · rintro ⟨row, hrow, hvalue⟩
    have hkept : row ∈ (buckets.map (range.bucketRow qs)).filter fun row =>
        row.contains range.delta p.time := by
      rw [hrow]
      exact List.mem_singleton.mpr rfl
    obtain ⟨hrows, hcontains⟩ := List.mem_filter.mp hkept
    obtain ⟨b, hb, rfl⟩ := List.mem_map.mp hrows
    -- the point is in the average, so the bucket has a value
    have hsome : (range.bucketValue qs b).isSome := by
      have hsame : range.bucketValue qs b = range.rowAverage qs (range.bucketRow qs b) := hvalue
      rw [hsame]
      exact isSome_average_iff.mpr ⟨p, List.mem_filter.mpr ⟨hp, hcontains⟩, hnumeric⟩
    have hgrid := onGrid_of_isSome_bucketValue hsome
    obtain ⟨hfirst, hlast, hsteps⟩ := (hmem b.instant).mp ⟨b, hb, rfl⟩
    refine ⟨onGrid_startBucket_iff.mp ((onGrid_iff_of_steps hsteps).mp hgrid), ?_⟩
    rw [(bucketTrunc_eq_iff hgrid).mpr (contains_bucketRow_iff.mp hcontains)]
    exact hlast
  · rintro ⟨haligned, hend⟩
    have hgrid := onGrid_startBucket_iff.mpr haligned
    have htrunc := onGrid_bucketTrunc range.delta p.time
    obtain ⟨b, hb, hinstant⟩ := (hmem (bucketTrunc range.delta p.time)).mpr
      ⟨le_bucketTrunc hgrid (startBucket_le.trans hstart), hend, steps_of_onGrid htrunc hgrid⟩
    rw [← hinstant] at htrunc
    refine ⟨range.bucketRow qs b, filter_eq_singleton ?_ (List.mem_map_of_mem hb) ?_,
      value_bucketRow htrunc⟩
    · rw [List.pairwise_map]
      refine hsorted.imp fun {a c} hle hboth => ?_
      have ha := contains_bucketRow_iff.mp hboth.1
      have hc := contains_bucketRow_iff.mp hboth.2
      omega
    · rw [contains_bucketRow_iff, ← bucketTrunc_eq_iff htrunc, hinstant]

/-- The condition under which a history keeps the points of a query. -/
structure Lossless (range : HistoryRange) (qs : List HistoryPoint) : Prop where
  /-- Where there are points, the buckets end before the calendar does. -/
  fits : qs ≠ [] → FitsCalendar range.delta range.endBucket range.startBucket
  /-- Where there are points, the current zone can read the times from the floored start up to
  the floored end, in steps of a bucket. -/
  readable : qs ≠ [] → ∀ x, range.startBucket.instant ≤ x → x ≤ range.endBucket.instant →
    (x - range.startBucket.instant) % range.delta.micros = 0 →
      HasLocalTime range.startDt.offset x
  /-- Where there is a numeric point, buckets begin where they do in the current zone. -/
  aligned : ∀ p ∈ qs, p.numericValue.isSome → range.Aligned
  /-- No numeric point is truncated beyond the last bucket. -/
  covered : ∀ p ∈ qs, p.numericValue.isSome →
    bucketTrunc range.delta p.time ≤ range.endBucket.instant

theorem losesNothing_historyRows_iff (hstart : ∀ p ∈ qs, range.startDt.instant ≤ p.time) :
    range.LosesNothing qs (range.historyRows qs) ↔ range.Lossless qs := by
  unfold historyRows
  by_cases hqs : qs = []
  · subst hqs
    refine iff_of_true ⟨[], rfl, fun p hp => absurd hp List.not_mem_nil⟩ ?_
    exact ⟨fun h => absurd rfl h, fun h => absurd rfl h,
      fun p hp => absurd hp List.not_mem_nil, fun p hp => absurd hp List.not_mem_nil⟩
  rw [if_neg hqs]
  rcases buildBucketSequence_spec range.delta range.endBucket range.startBucket with
    ⟨hfits, buckets, hbuckets, hsorted, hoffsets, hmem⟩ | ⟨hfits, hraises⟩
  · rw [hbuckets]
    have hreadable : (∀ b ∈ buckets, HasLocalTime b.offset b.instant) ↔
        ∀ x, range.startBucket.instant ≤ x → x ≤ range.endBucket.instant →
          (x - range.startBucket.instant) % range.delta.micros = 0 →
            HasLocalTime range.startDt.offset x := by
      rw [← offset_startBucket]
      constructor
      · intro hall x hfirst hlast hsteps
        obtain ⟨b, hb, rfl⟩ := (hmem x).mpr ⟨hfirst, hlast, hsteps⟩
        exact hoffsets b hb ▸ hall b hb
      · intro hall b hb
        obtain ⟨hfirst, hlast, hsteps⟩ := (hmem b.instant).mp ⟨b, hb, rfl⟩
        exact hoffsets b hb ▸ hall b.instant hfirst hlast hsteps
    by_cases hlocal : ∀ b ∈ buckets, HasLocalTime b.offset b.instant
    swap
    · -- the answer cannot be written
      refine iff_of_false ?_ fun h => hlocal (hreadable.mpr (h.readable hqs))
      rintro ⟨rows, hrows, -⟩
      have hraises : enforceTimezone buckets =
          .error (.detail ["Datetime value out of range."]) := if_neg hlocal
      change (enforceTimezone buckets >>= _) = .ok rows at hrows
      rw [hraises] at hrows
      cases hrows
    have hwritten : enforceTimezone buckets = .ok buckets := if_pos hlocal
    change range.LosesNothing qs (enforceTimezone buckets >>= _) ↔ _
    rw [hwritten]
    have hkeeps := fun p hp hnumeric => @keepsPoint_iff range qs p buckets hsorted hmem hp hnumeric
      (hstart p hp)
    constructor
    · rintro ⟨rows, hrows, hkept⟩
      obtain rfl := Except.ok.inj hrows
      exact ⟨fun _ => hfits, fun _ => hreadable.mp hlocal,
        fun p hp hnumeric => ((hkeeps p hp hnumeric).mp (hkept p hp hnumeric)).1,
        fun p hp hnumeric => ((hkeeps p hp hnumeric).mp (hkept p hp hnumeric)).2⟩
    · rintro ⟨-, -, haligned, hcovered⟩
      exact ⟨_, rfl, fun p hp hnumeric =>
        (hkeeps p hp hnumeric).mpr ⟨haligned p hp hnumeric, hcovered p hp hnumeric⟩⟩
  · rw [hraises]
    refine iff_of_false ?_ fun h => hfits (h.fits hqs)
    rintro ⟨rows, hrows, -⟩
    cases hrows

end HistoryRange

namespace HistorySetup

variable {setup : HistorySetup} {visible : List HistoryPoint} {query : HistoryQuery}
  {now : DateTime} {range : HistoryRange}

theorem results_history (h : setup.validate query now = .ok range) :
    (setup.history visible query now).map HistoryResponse.results =
      range.historyRows (range.points query.device visible) := by
  unfold history
  rw [h]
  show Except.map HistoryResponse.results (range.historyRows _ >>= _) = _
  rcases range.historyRows (range.points query.device visible) with error | rows <;> rfl

theorem start_le_of_mem_points {p : HistoryPoint} (hp : p ∈ range.points query.device visible) :
    range.startDt.instant ≤ p.time := by
  have hkept := (List.mem_filter.mp hp).2
  simp only [Bool.and_eq_true, decide_eq_true_eq] at hkept
  exact hkept.1.2

/-- The parser that reads dates, and midnights of UTC. -/
def utcParser : DateParser where
  parseDatetime text :=
    .ok (if text.toList.drop 10 = "T00:00:00Z".toList then
      (readDate (String.ofList (text.toList.take 10))).map fun d => .aware ⟨⟨d, .min⟩, utc⟩
    else (readDate text).map fun d => .naive ⟨d, .min⟩)
  parseDate text := .ok (readDate text)
  repr _ := ""

/-- A temperature of 21 and a half degrees, at six in the morning of the second of January. -/
def reading : HistoryPoint where
  device := 1
  metric := 1
  time := 63839836800000000
  valueFloat := some (43 / 2)

/-- The first two days of 2024, as a browser in UTC asks for them. -/
def twoDays : HistoryQuery where
  device := 1
  dateFrom := some "2024-01-01T00:00:00Z"
  dateTo := some "2024-01-03T00:00:00Z"

theorem isDate_first : IsDate 2024 1 1 := by decide

theorem isDate_third : IsDate 2024 1 3 := by decide

/-- The range of `twoDays`. -/
def twoDaysRange : HistoryRange where
  metric := { id := 1, code := "ups_load_percent" }
  startDt := ⟨⟨⟨2024, 1, 1, isDate_first⟩, .min⟩, utc⟩
  endDt := ⟨⟨⟨2024, 1, 3, isDate_third⟩, .min⟩, utc⟩

/-- A parser that knows UTC, and one metric. -/
def utcSetup : HistorySetup where
  parser := utcParser
  metrics := isoSetup.metrics
  metricKey _ := none

theorem validate_twoDays (now : DateTime) :
    utcSetup.validate twoDays now = .ok twoDaysRange :=
  rfl

end HistorySetup

end DcimBackend
