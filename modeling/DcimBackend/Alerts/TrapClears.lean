import DcimBackend.Alerts.Isolation
import DcimBackend.Common.Text
import Mathlib.Data.Bool.AllAny

/-!
# What clears the traps of a UPS

`_is_ups_abnormal_condition_cleared` and `_resolve_ups_trap_alert_if_needed` of
`apps/alerts/services/engine.py`, behind the turns of `evaluate_latest`.

`LatestTelemetry.DenotesNormal` says when a row means the normal condition, whichever column
holds its number, and `ReadsNormal` what the code reads in it: it renders the value of the one
metric as a text, in which the float zero is "0.0", and truncates that of the other.  And it
resolves one alert only.  `clearsExactly_iff` is what follows.

The code compares texts: the value of the row as Python's `str` shows it, stripped and in lower
case, against the words for "normal" and against zeros.  So the column in which a number arrives
decides what is read, and the model keeps the four columns apart up to the comparison.
-/

namespace DcimBackend

open Library

/-- A clear word, or zeros. -/
def isClearText (text : String) : Bool :=
  text ∈ ["0", "false", "normal", "restored", "clear", "cleared"] ||
    (text ≠ "" && text.toList.all (· = '0'))

namespace PyValue

/-- The number zero, or a text of zeros or a clear word. -/
def IsClear (py : PyText) : PyValue → Prop
  | .text s => isClearText (py.lower (pyStrip s))
  | value => value.number? = some (.finite 0)

/-- The value is this number. -/
def IsNumber (value : PyValue) (n : ℤ) : Prop := value.number? = some (.finite n)

/-- `int(value)` is this number: a float is truncated, and a text parsed. -/
def TruncatesTo (py : PyText) (n : ℤ) : PyValue → Prop
  | .none => False
  | .bool value => (if value then 1 else 0) = n
  | .int value => value = n
  | .float (.finite value) => (if 0 ≤ value then value.floor else value.ceil) = n
  | .float _ => False
  | .text s => py.int s = some n

end PyValue

namespace LatestTelemetry

variable (py : PyText) (latest : LatestTelemetry)

/-- The row denotes the normal condition of the UPS. -/
def DenotesNormal : Prop :=
  if latest.metric.code = "ups_abnormal_conditions" then
    (valueFromLatest latest.toReading).IsClear py
  else ∃ code ∈ upsOutputStatusNormalCodes, (valueFromLatest latest.toReading).IsNumber code

/-- The code reads the normal condition in the row: no float is clear, and a status may have
a fraction, or be a text. -/
def ReadsNormal : Prop :=
  if latest.metric.code = "ups_abnormal_conditions" then
    (valueFromLatest latest.toReading).IsClear py ∧
      ∀ value, valueFromLatest latest.toReading ≠ .float value
  else ∃ code ∈ upsOutputStatusNormalCodes,
    (valueFromLatest latest.toReading).TruncatesTo py code

end LatestTelemetry

/-! ### What the code reads -/

/-- Of the texts of numerals, zeros are clear. -/
theorem isClearText_numerals {text : String} (h : ∀ c ∈ text.toList, isNumeral c) :
    isClearText text ↔ text ≠ "" ∧ ∀ c ∈ text.toList, c = '0' := by
  simp only [isClearText, Bool.or_eq_true, Bool.and_eq_true, decide_eq_true_eq, List.all_eq_true]
  refine or_iff_right_of_imp fun hword => ?_
  simp only [List.mem_cons, List.not_mem_nil, or_false] at hword
  -- the other words have letters
  rcases hword with rfl | rfl | rfl | rfl | rfl | rfl
  · exact ⟨by decide, List.all_iff_forall_prop.mp (by decide)⟩
  all_goals exact absurd (List.all_iff_forall_prop.mpr h) (by decide)

namespace PyText.Documented

variable {py : PyText} (hpy : py.Documented)

include hpy

theorem isClearText_int {n : ℤ} : isClearText (py.lower (pyStrip (py.str (.int n)))) ↔ n = 0 := by
  have hnumerals : ∀ c ∈ (toString n).toList, isNumeral c := fun _ => isNumeral_of_mem_toString
  rw [hpy.str_int, hpy.lower_strip_numeral hnumerals, isClearText_numerals hnumerals]
  constructor
  · rintro ⟨-, hzeros⟩
    rw [toList_toString] at hzeros
    split at hzeros
    · have := repr_zeros_iff.mp hzeros
      omega
    · exact absurd (hzeros '-' List.mem_cons_self) (by decide)
  · rintro rfl
    exact ⟨by decide, List.all_iff_forall_prop.mp (by decide)⟩

theorem lower_strip_ascii {text : String}
    (h : text.toList.all fun c => pyStrip.isSpace c = false ∧ c.toNat < 128) :
    py.lower (pyStrip text) = String.ofList (text.toList.map Char.toLower) := by
  have hchars := List.all_iff_forall_prop.mp h
  rw [pyStrip_eq_self fun c hc => (hchars c hc).1,
    hpy.lower_ascii text fun c hc => (hchars c hc).2]

/-- The text of a float is never clear. -/
theorem not_isClearText_float {value : PyFloat} :
    ¬isClearText (py.lower (pyStrip (py.str (.float value)))) := by
  cases value with
  | nan =>
      rw [hpy.str_nan, hpy.lower_strip_ascii (by decide)]
      decide
  | posInf =>
      rw [hpy.str_posInf, hpy.lower_strip_ascii (by decide)]
      decide
  | negInf =>
      rw [hpy.str_negInf, hpy.lower_strip_ascii (by decide)]
      decide
  | finite value =>
      obtain ⟨hnumerals, c, hc, hpoint⟩ := hpy.str_finite value
      rw [hpy.lower_strip_numeral hnumerals, isClearText_numerals hnumerals]
      rintro ⟨-, hzeros⟩
      rw [hzeros c hc] at hpoint
      exact absurd hpoint (by decide)

theorem isClearText_bool {value : Bool} :
    isClearText (py.lower (pyStrip (py.str (.bool value)))) ↔ value = false := by
  rw [hpy.str_bool]
  cases value with
  | true =>
      rw [if_pos rfl, hpy.lower_strip_ascii (by decide)]
      decide
  | false =>
      rw [if_neg (by decide), hpy.lower_strip_ascii (by decide)]
      decide

/-- What the code takes for clear is clear, and no float is. -/
theorem isClearText_iff {value : PyValue} (hvalue : value ≠ .none) :
    isClearText (py.lower (pyStrip (py.str value))) ↔
      value.IsClear py ∧ ∀ x, value ≠ .float x := by
  cases value with
  | none => exact absurd rfl hvalue
  | bool value =>
      rw [hpy.isClearText_bool]
      cases value <;> simp [PyValue.IsClear, PyValue.number?]
  | int n =>
      rw [hpy.isClearText_int]
      simp [PyValue.IsClear, PyValue.number?]
  | float x => exact iff_of_false hpy.not_isClearText_float fun h => h.2 x rfl
  | text text =>
      rw [hpy.str_text]
      simp [PyValue.IsClear]

end PyText.Documented

section Reads

variable {py : PyText} {latest : LatestTelemetry}

theorem isUpsOutputStatusNormal_iff {value : PyValue} :
    isUpsOutputStatusNormal py value = .ok true ↔
      ∃ code ∈ upsOutputStatusNormalCodes, value.TruncatesTo py code := by
  cases value with
  | none => simp [isUpsOutputStatusNormal, PyValue.TruncatesTo]
  | bool value => simp [isUpsOutputStatusNormal, PyValue.TruncatesTo]
  | int n => simp [isUpsOutputStatusNormal, PyValue.TruncatesTo]
  | float x => cases x <;> simp [isUpsOutputStatusNormal, PyValue.TruncatesTo]
  | text s =>
      simp only [isUpsOutputStatusNormal, PyValue.TruncatesTo, Except.ok.injEq, Option.any_eq_true,
        decide_eq_true_eq]
      exact exists_congr fun code => and_comm

/-- `ReadsNormal` is what the code computes. -/
theorem isUpsAbnormalConditionCleared_iff (hpy : py.Documented)
    (hcode : latest.metric.code = "ups_abnormal_conditions" ∨
      latest.metric.code = "ups_output_status") :
    isUpsAbnormalConditionCleared py latest = .ok true ↔ latest.ReadsNormal py := by
  unfold isUpsAbnormalConditionCleared LatestTelemetry.ReadsNormal
  rcases hcode with hcode | hcode
  · simp only [if_pos hcode]
    split
    · rename_i hnone
      simp [hnone, PyValue.IsClear, PyValue.number?]
    · rename_i hvalue
      rw [Except.ok.injEq]
      exact hpy.isClearText_iff hvalue
  · simp only [hcode, String.reduceEq, if_false, if_true]
    exact isUpsOutputStatusNormal_iff

end Reads

/-! ### What the evaluation resolves -/

/-- An alert of the trap `ups_abnormal_condition` on a device. -/
def AlertEvent.IsUpsTrap (device : DeviceId) (alert : AlertEvent) : Prop :=
  alert.device = device ∧ alert.metric = none ∧ alert.alertRule = none ∧
    Dict.hasText alert.metadata "trap_event_code" "ups_abnormal_condition"

instance {device : DeviceId} {alert : AlertEvent} : Decidable (alert.IsUpsTrap device) :=
  inferInstanceAs (Decidable (_ ∧ _))

namespace AlertsDb

/-- The active alerts of the trap on a device. -/
def upsTrapIds (db : AlertsDb) (device : DeviceId) : Set AlertId :=
  db.activeWhere (AlertEvent.IsUpsTrap device)

/-- The alert that the trap step takes. -/
def newestUpsTrap (py : PyText) (latest : LatestTelemetry) (db : AlertsDb) : Option AlertEvent :=
  latestAlert (db.alerts.select (isUpsTrapAlert py latest))

/-- A normal row clears all alerts of the trap on its device, and another one none. -/
def ClearsExactly (py : PyText) (latest : LatestTelemetry) (db db' : AlertsDb) : Prop :=
  (latest.DenotesNormal py → db'.upsTrapIds latest.device.id = ∅) ∧
    (¬latest.DenotesNormal py →
      db.upsTrapIds latest.device.id ⊆ db'.upsTrapIds latest.device.id)

section Clears

variable {py : PyText} {latest : LatestTelemetry} {db db' : AlertsDb}
  {clock : ℕ → ℕ → Instant} {cached : Option (List RuleId)}

/-- The alerts without a rule. -/
def ruleless (alert : AlertEvent) : Bool := alert.alertRule = none

theorem fixedColumns_ruleless : FixedColumns ruleless := ⟨fun _ _ _ => rfl, fun _ _ => rfl⟩

/-- The turns of the rules leave them alone. -/
theorem ruleless_ruleTurns {rules : List AlertRule} :
    Tx.Respects (SameWhere ruleless) (ruleTurns py latest rules clock) :=
  respects_ruleTurns fun _ _ => sameWhere_ruleTurn fixedColumns_ruleless fun alert hkey => by
    refine decide_eq_false fun hnone => ?_
    exact AlertEvent.not_hasKey_of_none hnone _ hkey

theorem upsTrapIds_eq_of_ruleless {device : DeviceId} (h : SameWhere ruleless db db') :
    db'.upsTrapIds device = db.upsTrapIds device := by
  have hids : ∀ db : AlertsDb, db.upsTrapIds device = {id | ∃ alert ∈ db.alerts.select ruleless,
      alert.id = id ∧ alert.status.isActive ∧ alert.IsUpsTrap device} := by
    intro db
    ext id
    constructor
    · rintro ⟨alert, halert, hid, hactive, htrap⟩
      exact ⟨alert, Table.mem_select.mpr ⟨halert, decide_eq_true htrap.2.2.1⟩, hid, hactive,
        htrap⟩
    · rintro ⟨alert, hmem, hid, hactive, htrap⟩
      exact ⟨alert, (Table.mem_select.mp hmem).1, hid, hactive, htrap⟩
  rw [hids, hids, show db'.alerts.select ruleless = db.alerts.select ruleless from h]

theorem newestUpsTrap_eq_of_ruleless (h : SameWhere ruleless db db') :
    db'.newestUpsTrap py latest = db.newestUpsTrap py latest := by
  have hselect : ∀ db : AlertsDb, db.alerts.select (isUpsTrapAlert py latest) =
      (db.alerts.select ruleless).filter (isUpsTrapAlert py latest) := by
    intro db
    rw [Table.select, Table.select, List.filter_filter]
    refine List.filter_congr fun alert _ => ?_
    rw [Bool.eq_iff_iff, Bool.and_eq_true]
    refine (and_iff_left_of_imp fun htrap => ?_).symm
    simp only [isUpsTrapAlert, Bool.and_eq_true, decide_eq_true_eq] at htrap
    exact decide_eq_true htrap.1.1.2
  rw [newestUpsTrap, newestUpsTrap, hselect, hselect,
    show db'.alerts.select ruleless = db.alerts.select ruleless from h]

/-- The trap step resolves the newest alert, if it reads the normal condition. -/
theorem upsTrapIds_of_trapStep {result : Option AlertEvent} {clock : ℕ → Instant}
    {device : DeviceId}
    (h : resolveUpsTrapAlertIfNeeded py latest clock db = (.ok result, db')) :
    db'.upsTrapIds device = db.upsTrapIds device \
      {id | isUpsAbnormalConditionCleared py latest = .ok true ∧
        ∃ top, db.newestUpsTrap py latest = some top ∧ top.id = id} := by
  unfold resolveUpsTrapAlertIfNeeded at h
  rcases hcleared : isUpsAbnormalConditionCleared py latest with e | _ | _
  · rw [hcleared] at h
    cases (Prod.mk.inj h).1
  · rw [hcleared] at h
    obtain rfl := (Prod.mk.inj h).2
    simp
  · rw [hcleared] at h
    obtain ⟨found, db₁, hread, h⟩ := Tx.bind_eq_ok_iff.mp h
    obtain ⟨hfound, rfl⟩ := Prod.mk.inj hread
    have hnewest : db.newestUpsTrap py latest = found := Except.ok.inj hfound
    simp only [hnewest, true_and]
    cases found with
    | none =>
        obtain rfl := (Prod.mk.inj h).2
        simp
    | some top =>
        obtain ⟨copy, hresolve, -⟩ := map_eq_ok_iff.mp h
        obtain ⟨hid, hstatus, hsaved⟩ := resolveAlert_ok hresolve
        rw [upsTrapIds, hsaved.activeWhere_closed (by simp) (by rw [hstatus]; rfl), hid]
        simp [upsTrapIds]

/-- An evaluation that raises resolves no alert of the trap. -/
theorem upsTrapIds_of_error {e : EngineError} {device : DeviceId}
    (h : evaluateLatest py latest cached clock db = (.error e, db')) :
    db'.upsTrapIds device = db.upsTrapIds device := by
  obtain hread | ⟨rules, db₁, hread, h⟩ := Tx.bind_eq_error_iff.mp h
  · cases (Prod.mk.inj hread).1
  obtain ⟨-, rfl⟩ := Prod.mk.inj hread
  obtain hturns | ⟨turnAlerts, db₂, hturns, h⟩ := Tx.bind_eq_error_iff.mp h
  · exact upsTrapIds_eq_of_ruleless (ruleless_ruleTurns.of_eq hturns)
  -- the trap step is a transaction
  obtain htrap | ⟨_, _, -, hreturn⟩ := Tx.bind_eq_error_iff.mp h
  · obtain ⟨-, rfl⟩ := Tx.atomic_eq_error_iff.mp htrap
    exact upsTrapIds_eq_of_ruleless (ruleless_ruleTurns.of_eq hturns)
  · cases (Prod.mk.inj hreturn).1

/-- **The traps of a UPS clear exactly on a normal row** if and only if a normal row is read as
one and meets no alert but the newest, and no other row is read as normal in front of one. -/
theorem clearsExactly_iff (hpy : py.Documented)
    (hcode : latest.metric.code = "ups_abnormal_conditions" ∨
      latest.metric.code = "ups_output_status") {alerts : List AlertEvent}
    (h : evaluateLatest py latest cached clock db = (.ok alerts, db')) :
    ClearsExactly py latest db db' ↔
      (latest.DenotesNormal py → ∀ id ∈ db.upsTrapIds latest.device.id,
        latest.ReadsNormal py ∧ ∃ top, db.newestUpsTrap py latest = some top ∧ top.id = id) ∧
      (¬latest.DenotesNormal py → latest.ReadsNormal py → ∀ top,
        db.newestUpsTrap py latest = some top → top.id ∉ db.upsTrapIds latest.device.id) := by
  obtain ⟨turnAlerts, trapAlert, db₁, hturns, htrap, -⟩ := evaluateLatest_ok h
  have hsame : SameWhere ruleless db db₁ := ruleless_ruleTurns.of_eq hturns
  have hids := @upsTrapIds_of_trapStep _ _ _ _ _ _ latest.device.id htrap
  rw [upsTrapIds_eq_of_ruleless hsame, newestUpsTrap_eq_of_ruleless hsame,
    isUpsAbnormalConditionCleared_iff hpy hcode] at hids
  unfold ClearsExactly
  rw [hids, Set.sdiff_eq_empty]
  refine and_congr Iff.rfl (imp_congr_right fun _ => ?_)
  constructor
  · rintro hkept hreads top htop hmem
    exact (hkept hmem).2 ⟨hreads, top, htop, rfl⟩
  · rintro hfree id hmem
    refine ⟨hmem, ?_⟩
    rintro ⟨hreads, top, htop, rfl⟩
    exact hfree hreads top htop hmem

end Clears

/-! ### The UPS of a server room -/

/-- The trap of a UPS. -/
def upsTrap : Trap :=
  { device := roomSensor, eventCode := some "ups_abnormal_condition"
    eventName := some "UPS abnormal condition", severity := .critical
    message := "UPS abnormal condition", triggeredAt := 0
    trapOid := "1.3.6.1.4.1.318.0.77" }

/-- The server room after the trap. -/
def trappedServerRoom : AlertsDb := (createOrUpdateTrapAlert upsTrap 0 serverRoom).2

/-- A row of the metric `ups_abnormal_conditions`. -/
def upsRow (reading : Reading) : LatestTelemetry :=
  { sensorRow reading .good with metric := { id := 2, code := "ups_abnormal_conditions" } }

theorem denotesNormal_upsRow (py : PyText) (reading : Reading) :
    (upsRow reading).DenotesNormal py ↔ (valueFromLatest reading).IsClear py :=
  iff_of_eq (if_pos rfl)

theorem readsNormal_upsRow (py : PyText) (reading : Reading) :
    (upsRow reading).ReadsNormal py ↔
      (valueFromLatest reading).IsClear py ∧ ∀ value, valueFromLatest reading ≠ .float value :=
  iff_of_eq (if_pos rfl)

theorem mem_upsTrapIds_trappedServerRoom {id : AlertId}
    (h : id ∈ trappedServerRoom.upsTrapIds 1) : id = 0 := by
  obtain ⟨alert, halert, rfl, -⟩ := h
  have hall : ∀ alert ∈ trappedServerRoom.alerts.rows, alert.id = 0 := by decide
  exact hall alert halert

/-- The integer zero clears the trap, which is the only one. -/
theorem clearsExactly_iff_integerZero :
    ∃ alerts db', evaluateLatest asciiText (upsRow { valueInteger := some 0 }) none
      (fun _ _ => 0) trappedServerRoom = (.ok alerts, db') ∧
      ClearsExactly asciiText (upsRow { valueInteger := some 0 }) trappedServerRoom db' := by
  rcases h : evaluateLatest asciiText (upsRow { valueInteger := some 0 }) none (fun _ _ => 0)
    trappedServerRoom with ⟨e | alerts, db'⟩
  · have hok : (evaluateLatest asciiText (upsRow { valueInteger := some 0 }) none
        (fun _ _ => 0) trappedServerRoom).1.isOk = true := by decide
    rw [h] at hok
    cases hok
  have hnormal : (upsRow { valueInteger := some 0 }).DenotesNormal asciiText :=
    (denotesNormal_upsRow asciiText _).mpr rfl
  have hreads : (upsRow { valueInteger := some 0 }).ReadsNormal asciiText :=
    (readsNormal_upsRow asciiText _).mpr ⟨rfl, fun _ hfloat => by cases hfloat⟩
  obtain ⟨top, htop, hid⟩ := Option.map_eq_some_iff.mp
    (show (trappedServerRoom.newestUpsTrap asciiText (upsRow { valueInteger := some 0 })).map
      AlertEvent.id = some 0 by decide)
  refine ⟨alerts, db', rfl, (clearsExactly_iff documented_asciiText (Or.inl rfl) h).mpr
    ⟨fun _ id hmem => ⟨hreads, top, htop, ?_⟩, fun hnot => absurd hnormal hnot⟩⟩
  rw [hid, mem_upsTrapIds_trappedServerRoom hmem]

/-- The float zero is normal, and clears nothing. -/
theorem floatZero_not_clearsExactly :
    ∃ alerts db', evaluateLatest asciiText (upsRow { valueFloat := some (.finite 0) }) none
      (fun _ _ => 0) trappedServerRoom = (.ok alerts, db') ∧
      ¬ClearsExactly asciiText (upsRow { valueFloat := some (.finite 0) }) trappedServerRoom
        db' := by
  rcases h : evaluateLatest asciiText (upsRow { valueFloat := some (.finite 0) }) none
    (fun _ _ => 0) trappedServerRoom with ⟨e | alerts, db'⟩
  · have hok : (evaluateLatest asciiText (upsRow { valueFloat := some (.finite 0) }) none
        (fun _ _ => 0) trappedServerRoom).1.isOk = true := by decide
    rw [h] at hok
    cases hok
  refine ⟨alerts, db', rfl, fun hclears => ?_⟩
  have hempty := hclears.1 ((denotesNormal_upsRow asciiText _).mpr rfl)
  have hleft : (0 : AlertId) ∈ db'.upsTrapIds 1 := by
    have hany : (evaluateLatest asciiText (upsRow { valueFloat := some (.finite 0) }) none
        (fun _ _ => 0) trappedServerRoom).2.alerts.rows.any (fun alert => alert.id = 0 ∧
          alert.status.isActive ∧ alert.IsUpsTrap 1) = true := by decide
    rw [h] at hany
    obtain ⟨alert, halert, hleft⟩ := List.any_eq_true.mp hany
    exact ⟨alert, halert, of_decide_eq_true hleft⟩
  exact Set.notMem_empty _ (hempty ▸ hleft)

end AlertsDb

end DcimBackend
