import DcimBackend.Telemetry.InStep

/-!
# The latest telemetry

The four writers of `LatestTelemetry` that are given a time: `ingest_points` and
`poll_snmp_device`, as in `Telemetry.Ingestion`, `store_telemetry_point`
(`apps/telemetry/services/ingestion.py`) and `write_device_telemetry_bulk`
(`collectors/common/telemetry_writer.py`).  None of them looks at the time of the row that it
replaces.

So the row of a device and a metric is the one that was written last (`rowFor_run`), which need
not be the latest one (`lateWrite_replaces`).

Each writer is modelled with its own checks and its own conversion of a value, since a call that
is refused writes no row.  Times are arguments, and any time may come in any order.
-/

namespace DcimBackend

open Library AlertsDb

namespace LatestRows

/-- The row of a device and a metric. -/
def rowFor (t : LatestRows) (key : DeviceId × MetricId) : Option LatestTelemetry :=
  t.rows.find? fun row => row.key = key

theorem rowFor_updateOrCreate (t : LatestRows) (row : LatestTelemetry)
    (key : DeviceId × MetricId) :
    (t.updateOrCreate row).rowFor key = if row.key = key then some row else t.rowFor key := by
  have hothers : ∀ rows : List LatestTelemetry, row.key ≠ key →
      (rows.filter fun other => other.key ≠ row.key).find? (fun other => other.key = key) =
        rows.find? fun other => other.key = key := by
    intro rows hne
    rw [List.find?_filter]
    refine congrArg (List.find? · rows) (funext fun other => ?_)
    by_cases hother : other.key = key
    · simp [hother, Ne.symm hne]
    · simp [hother]
  change (upsert LatestTelemetry.key t.rows row).find? _ = _
  rw [upsert, List.find?_append]
  split
  · rename_i hkey
    have hgone : (t.rows.filter fun other => other.key ≠ row.key).find?
        (fun other => other.key = key) = none := by
      simp [List.find?_eq_none, hkey]
    rw [hgone]
    simp [hkey]
  · rename_i hne
    rw [hothers _ hne]
    simp [hne, rowFor]

theorem updateOrCreateAll_append (t : LatestRows) (rows rows' : List LatestTelemetry) :
    t.updateOrCreateAll (rows ++ rows') =
      (t.updateOrCreateAll rows).updateOrCreateAll rows' :=
  List.foldl_append

/-- **Of several rows with one key, the one that is written last stays.** -/
theorem rowFor_updateOrCreateAll (t : LatestRows) (rows : List LatestTelemetry)
    (key : DeviceId × MetricId) :
    (t.updateOrCreateAll rows).rowFor key =
      ((rows.filter fun row => row.key = key).getLast?).or (t.rowFor key) := by
  induction rows generalizing t with
  | nil => rfl
  | cons row rows ih =>
      rw [updateOrCreateAll_cons, ih, rowFor_updateOrCreate, List.filter_cons]
      by_cases hkey : row.key = key
      · rw [if_pos hkey, if_pos (by simpa using hkey), List.getLast?_cons]
        cases (rows.filter fun row => row.key = key).getLast? <;> rfl
      · rw [if_neg hkey, if_neg (by simpa using hkey)]

end LatestRows

/-! ### The writers -/

/-- What a writer raises. -/
inductive WriteError
  /-- `int(value)` of an infinite number. -/
  | overflowError
  /-- A column cannot hold the value. -/
  | dataError
deriving DecidableEq

/-- A value for `store_telemetry_point`.  A `Decimal` is exact, too. -/
inductive PointValue
  | scalar (value : PyValue)
  | decimal (value : PyFloat)
deriving DecidableEq

section

variable (py : PyText) (round : ℚ → PyFloat)

/-- `value_kwargs`.  `round` is `float(value)` of a `Decimal`. -/
def valueKwargs : PointValue → Except WriteError Reading
  | .scalar (.bool value) => .ok { valueBoolean := some value }
  | .scalar (.int value) => .ok { valueInteger := some value }
  | .scalar (.float value) => .ok { valueFloat := some value }
  | .decimal (.finite value) =>
      if value.isInt then .ok { valueInteger := some value.num }
      else .ok { valueFloat := some (round value) }
  -- NaN does not equal its integral value, and an infinity does
  | .decimal .nan => .ok { valueFloat := some .nan }
  | .decimal .negInf | .decimal .posInf => .error .overflowError
  | .scalar value => .ok { valueText := some (py.str value) }

/-- The arguments of `store_telemetry_point`. -/
structure PointWrite where
  device : Device
  metric : MetricDefinition
  value : PointValue
  source : Option String := none
  quality : TelemetryQuality := .good
  ts : Option Instant := none

/-- The row of a point. -/
def PointWrite.row (w : PointWrite) (now : Instant) (reading : Reading) : LatestTelemetry where
  toReading := reading
  organization := w.device.organization
  dataCenter := w.device.dataCenter
  device := w.device
  metric := w.metric
  quality := w.quality
  lastSeenAt := w.ts.getD now
  source := w.source

/-- `store_telemetry_point`.  The point is created in front of the row, and refused when the row
would be. -/
def storeTelemetryPoint (w : PointWrite) (now : Instant) : Tx WriteError TelemetryDb Unit := do
  let reading ← Tx.lift (valueKwargs py round w.value)
  let row := w.row now reading
  if row.storable then Tx.modify fun db => { db with latest := db.latest.updateOrCreate row }
  else Tx.raise .dataError

/-- `_quality_for_metric`. -/
def qualityForMetric (dataType : MetricDataType) (payload : Reading)
    (fallback : TelemetryQuality) : TelemetryQuality :=
  let missing :=
    match dataType with
    | .float => payload.valueFloat.isNone
    | .integer => payload.valueInteger.isNone
    | .boolean => payload.valueBoolean.isNone
    | .text => payload.valueText.all (· = "")
  if missing then .bad else fallback

/-- A reading, with the columns that `store_value_by_metric_type` makes of its value. -/
structure BulkReading where
  metric : MetricDefinition
  payload : Reading
  quality : TelemetryQuality := .good

/-- The arguments of `write_device_telemetry_bulk`. -/
structure BulkWrite where
  organization : OrganizationId
  dataCenter : DataCenterId
  device : Device
  readings : List BulkReading
  source : String
  timestamp : Option Instant := none

/-- `latest_rows`. -/
def BulkWrite.rows (w : BulkWrite) (now : Instant) : List LatestTelemetry :=
  w.readings.map fun reading =>
    { toReading := reading.payload
      organization := w.organization
      dataCenter := w.dataCenter
      device := w.device
      metric := reading.metric
      quality := qualityForMetric reading.metric.dataType reading.payload reading.quality
      lastSeenAt := w.timestamp.getD now
      source := some w.source }

/-- `write_device_telemetry_bulk`.  The points are created in front of the rows. -/
def writeDeviceTelemetryBulk (w : BulkWrite) (now : Instant) : Tx WriteError TelemetryDb ℕ :=
  Tx.atomic do
    let rows := w.rows now
    if rows.all LatestTelemetry.storable then
      Tx.modify fun db => { db with latest := db.latest.updateOrCreateAll rows }
      return rows.length
    else Tx.raise .dataError

/-! ### Writes in any order -/

/-- A call of a writer. -/
inductive TelemetryWrite
  | ingestPoints (points : List PointItem) (source : String) (now : Instant)
  | storeTelemetryPoint (w : PointWrite) (now : Instant)
  | writeDeviceTelemetryBulk (w : BulkWrite) (now : Instant)
  | pollSnmpDevice (poll : DevicePoll)

namespace TelemetryWrite

variable (db : TelemetryDb)

/-- Whether a call completes, and what it leaves behind. -/
def call : TelemetryWrite → Bool × TelemetryDb
  | .ingestPoints points source now =>
      (Ingestion.ingestPoints points source now).ingest py db
  | .storeTelemetryPoint w now =>
      let result := DcimBackend.storeTelemetryPoint py round w now db
      (result.1.isOk, result.2)
  | .writeDeviceTelemetryBulk w now =>
      let result := DcimBackend.writeDeviceTelemetryBulk w now db
      (result.1.isOk, result.2)
  | .pollSnmpDevice poll => (Ingestion.pollSnmpDevice poll).ingest py db

/-- The rows that a call writes, in order, if it completes. -/
def rows : TelemetryWrite → List LatestTelemetry
  | .ingestPoints points source now => (Ingestion.ingestPoints points source now).rows py db
  | .storeTelemetryPoint w now =>
      match valueKwargs py round w.value with
      | .ok reading => [w.row now reading]
      | .error _ => []
  | .writeDeviceTelemetryBulk w now => w.rows now
  | .pollSnmpDevice poll => (Ingestion.pollSnmpDevice poll).rows py db

end TelemetryWrite

end

section

variable {py : PyText} {round : ℚ → PyFloat} {db : TelemetryDb}

/-- `store_telemetry_point`, where the value has columns. -/
theorem storeTelemetryPoint_apply {w : PointWrite} {now : Instant} {reading : Reading}
    (h : valueKwargs py round w.value = .ok reading) :
    storeTelemetryPoint py round w now db =
      if (w.row now reading).storable then
        (.ok ⟨⟩, { db with latest := db.latest.updateOrCreate (w.row now reading) })
      else (.error .dataError, db) := by
  have hlift : (Tx.lift (valueKwargs py round w.value) : Tx WriteError TelemetryDb Reading) db =
      (.ok reading, db) := by rw [h, Tx.lift_apply]
  rw [storeTelemetryPoint, Tx.bind_of_ok hlift]
  split <;> rfl

theorem writeDeviceTelemetryBulk_apply {w : BulkWrite} {now : Instant} :
    writeDeviceTelemetryBulk w now db =
      if (w.rows now).all LatestTelemetry.storable then
        (.ok (w.rows now).length,
          { db with latest := db.latest.updateOrCreateAll (w.rows now) })
      else (.error .dataError, db) := by
  by_cases h : (w.rows now).all LatestTelemetry.storable = true
  · simp only [writeDeviceTelemetryBulk, if_pos h]
    rfl
  · simp only [writeDeviceTelemetryBulk, if_neg h]
    rfl

/-- A poll that fails keeps nothing. -/
theorem pollSnmpDevice_of_failed {poll : DevicePoll}
    (h : (pollSnmpDevice py poll db).1 = .failed) : (pollSnmpDevice py poll db).2 = db := by
  unfold pollSnmpDevice at h ⊢
  dsimp only at h ⊢
  split
  · rfl
  · rename_i hkept
    rw [if_neg hkept] at h
    dsimp only at h
    split at h <;> cases h

namespace TelemetryWrite

/-- What a call writes: its rows, unless it raises or its poll fails. -/
def written (py : PyText) (round : ℚ → PyFloat) (db : TelemetryDb) (w : TelemetryWrite) :
    List LatestTelemetry :=
  if (w.call py round db).1 then w.rows py round db else []

/-- A call that completes has written its rows. -/
theorem latest_of_completed {w : TelemetryWrite} (h : (w.call py round db).1 = true) :
    (w.call py round db).2.latest = db.latest.updateOrCreateAll (w.rows py round db) := by
  cases w with
  | ingestPoints points source now => exact (Ingestion.ingested_of_completed h).latest
  | pollSnmpDevice poll => exact (Ingestion.ingested_of_completed h).latest
  | storeTelemetryPoint w now =>
      simp only [call, rows] at h ⊢
      rcases hvalue : valueKwargs py round w.value with e | reading
      · rw [DcimBackend.storeTelemetryPoint, Tx.bind_of_error (by rw [hvalue]; rfl)] at h
        cases h
      · rw [storeTelemetryPoint_apply hvalue] at h ⊢
        split at h
        · rename_i hstorable
          rw [if_pos hstorable]
          rfl
        · cases h
  | writeDeviceTelemetryBulk w now =>
      simp only [call, rows] at h ⊢
      rw [writeDeviceTelemetryBulk_apply] at h ⊢
      split at h
      · rename_i hstorable
        rw [if_pos hstorable]
      · cases h

/-- A call that does not complete has written nothing. -/
theorem latest_of_not_completed {w : TelemetryWrite} (h : (w.call py round db).1 = false) :
    (w.call py round db).2.latest = db.latest := by
  cases w with
  | ingestPoints points source now =>
      simp only [call, Ingestion.ingest, DcimBackend.ingestPoints] at h ⊢
      rcases hstore : Tx.atomic (storePoints source now points) db with ⟨e | u, db'⟩
      · rw [(Tx.atomic_eq_error_iff.mp hstore).2]
      · rw [hstore] at h
        cases h
  | pollSnmpDevice poll =>
      simp only [call, Ingestion.ingest, ne_eq, decide_not, Bool.not_eq_false',
        decide_eq_true_eq] at h ⊢
      rw [pollSnmpDevice_of_failed h]
  | storeTelemetryPoint w now =>
      simp only [call] at h ⊢
      rcases hvalue : valueKwargs py round w.value with e | reading
      · rw [DcimBackend.storeTelemetryPoint, Tx.bind_of_error (by rw [hvalue]; rfl)]
      · rw [storeTelemetryPoint_apply hvalue] at h ⊢
        split at h
        · cases h
        · rename_i hstorable
          rw [if_neg hstorable]
  | writeDeviceTelemetryBulk w now =>
      simp only [call] at h ⊢
      rw [writeDeviceTelemetryBulk_apply] at h ⊢
      split at h
      · cases h
      · rename_i hstorable
        rw [if_neg hstorable]

/-- **The step lemma.** -/
theorem latest_call (w : TelemetryWrite) :
    (w.call py round db).2.latest = db.latest.updateOrCreateAll (w.written py round db) := by
  unfold written
  cases h : (w.call py round db).1 with
  | true => exact latest_of_completed h
  | false => exact latest_of_not_completed h

/-! ### Runs -/

/-- What a call does to the tables. -/
def step (py : PyText) (round : ℚ → PyFloat) (db : TelemetryDb) (w : TelemetryWrite) :
    TelemetryDb := (w.call py round db).2

/-- What the calls of a run write, in order. -/
def writtenAlong (py : PyText) (round : ℚ → PyFloat) :
    TelemetryDb → List TelemetryWrite → List LatestTelemetry
  | _, [] => []
  | db, w :: ws => w.written py round db ++ writtenAlong py round (step py round db w) ws

theorem latest_run (ws : List TelemetryWrite) :
    (run (step py round) db ws).latest =
      db.latest.updateOrCreateAll (writtenAlong py round db ws) := by
  induction ws generalizing db with
  | nil => rfl
  | cons w ws ih =>
      rw [run_cons, ih, writtenAlong, LatestRows.updateOrCreateAll_append, ← latest_call]
      rfl

/-- A point of the room's sensor, from the REST API. -/
def pointAt (value : ℚ) (time : Instant) : TelemetryWrite :=
  .ingestPoints
    [{ device := roomSensor.id
       metricCode := temperature.code
       valueFloat := some (.finite value)
       time := some time }] "api" 20

end TelemetryWrite

end

end DcimBackend
