import DcimBackend.Collectors.Polls
import DcimBackend.Library.Choice
import Mathlib.Data.List.MinMax
import Mathlib.Data.Prod.Lex

/-!
# The mappings of a device

`get_device_snmp_runtime` (`collectors/snmp_collector/services.py`): the protocol config, the
credential and the OID mappings that a device is polled with.

Two querysets are joined by `|`, of which only the first one asks for the type of the device; and
a filter for a foreign key that equals `None` is a filter for rows without one.  So the generic
mappings of all types are candidates for a device without a model.  `exact_iff` says when the
selection is right all the same.

The query has no order of its own, so the tables carry the order in which the database returns the
mappings, and the loop that removes duplicates by metric keeps the first one.  What the device
should be polled with (`Eligible`) is said without that order.
-/

namespace DcimBackend

open Library

abbrev DeviceModelId := ℕ

/-- `devices.Device`, with its model. -/
structure PolledDevice extends Device where
  deviceModel : Option DeviceModelId := none

/-- `devices.SNMPOIDMapping`, with what the selection reads. -/
structure SnmpOidMapping where
  id : ℕ
  deviceType : DeviceTypeId
  deviceModel : Option DeviceModelId := none
  metric : MetricId
  isActive : Bool := true
deriving DecidableEq

/-- `devices.DeviceProtocolConfig`, likewise. -/
structure DeviceProtocolConfig where
  device : DeviceId
  protocol : String
  isEnabled : Bool := true
  isPrimary : Bool := false
  createdAt : Instant

/-- `devices.DeviceCredential`, likewise. -/
structure DeviceCredential where
  device : DeviceId
  protocol : String
  isActive : Bool := true
  updatedAt : Instant

/-- What `get_device_snmp_runtime` reads.  The mappings are in the order in which the database
returns them. -/
structure RuntimeTables where
  protocolConfigs : List DeviceProtocolConfig
  credentials : List DeviceCredential
  mappings : List SnmpOidMapping

/-- `SNMPConfigurationError` and `SNMPCredentialError`. -/
inductive RuntimeError
  | configuration (message : String)
  | credential (message : String)
deriving DecidableEq

/-- Instants are compared by computing. -/
local instance : Preorder Instant := Int.instLinearOrder.toPreorder

namespace Collectors

/-- The two querysets and their union. -/
def candidate (device : PolledDevice) (m : SnmpOidMapping) : Bool :=
  (m.deviceType = device.deviceType && m.isActive && m.deviceModel.isNone) ||
    (m.deviceModel = device.deviceModel && m.isActive)

/-- `deduped`, of a list of mappings. -/
def deduped (mappings : List SnmpOidMapping) : List (MetricId × SnmpOidMapping) :=
  chosen SnmpOidMapping.metric (fun m => m.deviceModel.isSome) mappings

/-- `get_device_snmp_runtime`. -/
def getDeviceSnmpRuntime (db : RuntimeTables) (device : PolledDevice) :
    Except RuntimeError (DeviceProtocolConfig × DeviceCredential × List SnmpOidMapping) := do
  let protocolConfig := (db.protocolConfigs.filter fun c =>
    c.device = device.id && c.protocol = "SNMP" && c.isEnabled).argmin
      fun c => toLex (!c.isPrimary, c.createdAt)
  let some protocolConfig := protocolConfig
    | throw (.configuration "SNMP protocol config is missing or disabled")
  let credential := (db.credentials.filter fun c =>
    c.device = device.id && c.protocol = "SNMP" && c.isActive).argmax DeviceCredential.updatedAt
  let some credential := credential
    | throw (.credential "Active SNMP credential is missing")
  let mappings := (deduped (db.mappings.filter (candidate device))).map Prod.snd
  if mappings.isEmpty then
    throw (.configuration "No active SNMP OID mappings found for this device type/model")
  return (protocolConfig, credential, mappings)

variable {db : RuntimeTables} {device : PolledDevice} {m : SnmpOidMapping}
  {mappings : List SnmpOidMapping}

/-- A mapping that a device is to be polled with: a generic one for its type, or one for its
model. -/
def Eligible (device : PolledDevice) (m : SnmpOidMapping) : Prop :=
  m.isActive = true ∧ (m.deviceModel = none ∧ m.deviceType = device.deviceType ∨
    m.deviceModel.isSome ∧ m.deviceModel = device.deviceModel)

/-- The selection is exact. -/
structure Exact (db : RuntimeTables) (device : PolledDevice) (selected : List SnmpOidMapping) :
    Prop where
  eligible : ∀ m ∈ selected, m ∈ db.mappings ∧ Eligible device m
  oneEach : (selected.map SnmpOidMapping.metric).Nodup
  specific : ∀ m ∈ db.mappings, Eligible device m → m.deviceModel.isSome →
    ∃ s ∈ selected, s.metric = m.metric ∧ s.deviceModel.isSome
  complete : ∀ m ∈ db.mappings, Eligible device m → ∃ s ∈ selected, s.metric = m.metric

/-- A device with a model has the eligible mappings for candidates. -/
theorem candidate_iff_of_model (hmodel : device.deviceModel.isSome) :
    candidate device m ↔ Eligible device m := by
  unfold candidate Eligible
  cases hm : m.deviceModel with
  | none =>
      have hne : none ≠ device.deviceModel := by
        intro hnone
        rw [← hnone] at hmodel
        cases hmodel
      simp [hne, and_comm]
  | some model => simp [and_comm]

/-- A device without a model has the generic mappings of every type for candidates. -/
theorem candidate_iff_of_no_model (hmodel : device.deviceModel = none) :
    candidate device m ↔ m.isActive = true ∧ m.deviceModel = none := by
  unfold candidate
  cases hm : m.deviceModel with
  | none =>
      simp only [hmodel, decide_true, Option.isNone_none, Bool.and_true, Bool.true_and,
        Bool.or_eq_true, Bool.and_eq_true, decide_eq_true_eq, and_true]
      exact ⟨fun h => h.elim And.right id, Or.inr⟩
  | some model => simp [hmodel]

/-- An eligible mapping is a candidate. -/
theorem candidate_of_eligible (h : Eligible device m) : candidate device m = true := by
  obtain ⟨hactive, ⟨hnone, htype⟩ | ⟨-, hmodel⟩⟩ := h
  · simp [candidate, hactive, hnone, htype]
  · simp [candidate, hactive, hmodel]

/-! ### What is selected -/

/-- The active generic mappings of a metric, of all types. -/
def genericFor (db : RuntimeTables) (metric : MetricId) : List SnmpOidMapping :=
  db.mappings.filter fun m => m.isActive && m.deviceModel.isNone && m.metric = metric

/-- What is selected. -/
def selection (db : RuntimeTables) (device : PolledDevice) : List SnmpOidMapping :=
  (deduped (db.mappings.filter (candidate device))).map Prod.snd

/-- The candidates for a metric decide what is selected for it. -/
theorem mem_selection_iff : m ∈ selection db device ↔
    (((db.mappings.filter (candidate device)).filter fun n => n.metric = m.metric).filter
        fun n => n.deviceModel.isSome).getLast?.or
      ((db.mappings.filter (candidate device)).filter fun n => n.metric = m.metric).head? =
        some m := by
  unfold selection deduped
  rw [mem_chosen_iff, lookup_chosen]

theorem mem_of_mem_selection (h : m ∈ selection db device) :
    m ∈ db.mappings ∧ candidate device m = true := by
  rw [mem_selection_iff, Option.or_eq_some_iff] at h
  rcases h with h | ⟨-, h⟩
  · have hmem := List.mem_of_getLast? h
    simp only [List.mem_filter, decide_eq_true_eq] at hmem
    exact hmem.1.1
  · have hmem := List.mem_of_head? h
    simp only [List.mem_filter, decide_eq_true_eq] at hmem
    exact hmem.1

theorem nodup_selection : ((selection db device).map SnmpOidMapping.metric).Nodup := by
  unfold selection deduped
  rw [map_key_chosen]
  exact nodup_chosen

/-- A candidate for a model stands for its metric, or another one for a model does. -/
theorem exists_specific (hm : m ∈ db.mappings) (hcandidate : candidate device m = true)
    (hspecific : m.deviceModel.isSome) :
    ∃ s ∈ selection db device, s.metric = m.metric ∧ s.deviceModel.isSome := by
  set specific := ((db.mappings.filter (candidate device)).filter fun n =>
    n.metric = m.metric).filter fun n => n.deviceModel.isSome with hset
  have hmem : m ∈ specific := by
    simp [hset, List.mem_filter, hm, hcandidate, hspecific]
  obtain ⟨s, hs⟩ : ∃ s, specific.getLast? = some s :=
    ⟨_, List.getLast?_eq_some_getLast (List.ne_nil_of_mem hmem)⟩
  have hin := List.mem_of_getLast? hs
  rw [hset] at hin
  simp only [List.mem_filter, decide_eq_true_eq] at hin
  refine ⟨s, mem_selection_iff.mpr ?_, hin.1.2, hin.2⟩
  rw [hin.1.2, ← hset, hs]
  rfl

/-- A candidate stands for its metric, or another one does. -/
theorem exists_selected (hm : m ∈ db.mappings) (hcandidate : candidate device m = true) :
    ∃ s ∈ selection db device, s.metric = m.metric := by
  by_cases hspecific : ∃ n ∈ db.mappings, candidate device n = true ∧ n.metric = m.metric ∧
      n.deviceModel.isSome
  · obtain ⟨n, hn, hcandidate, hmetric, hspecific⟩ := hspecific
    obtain ⟨s, hs, hsmetric, -⟩ := exists_specific hn hcandidate hspecific
    exact ⟨s, hs, hsmetric.trans hmetric⟩
  · set same := (db.mappings.filter (candidate device)).filter fun n => n.metric = m.metric with hset
    have hmem : m ∈ same := by
      simp [hset, List.mem_filter, hm, hcandidate]
    obtain ⟨s, hs⟩ : ∃ s, same.head? = some s :=
      ⟨_, List.head?_eq_some_head (List.ne_nil_of_mem hmem)⟩
    have hin := List.mem_of_head? hs
    rw [hset] at hin
    simp only [List.mem_filter, decide_eq_true_eq] at hin
    have hnone : same.filter (fun n => n.deviceModel.isSome) = [] := by
      rw [List.filter_eq_nil_iff]
      intro n hn hsome
      rw [hset] at hn
      simp only [List.mem_filter, decide_eq_true_eq] at hn
      exact hspecific ⟨n, hn.1.1, hn.1.2, hn.2, hsome⟩
    refine ⟨s, mem_selection_iff.mpr ?_, hin.2⟩
    rw [hin.2, ← hset, hnone, hs]
    rfl

/-- Without a model, the first generic mapping of a metric is selected. -/
theorem mem_selection_iff_of_no_model (hmodel : device.deviceModel = none) :
    m ∈ selection db device ↔ (genericFor db m.metric).head? = some m := by
  have hsame : (db.mappings.filter (candidate device)).filter (fun n => n.metric = m.metric) =
      genericFor db m.metric := by
    rw [List.filter_filter, genericFor]
    refine List.filter_congr fun n _ => ?_
    rw [Bool.eq_iff_iff, Bool.and_eq_true, Bool.and_eq_true, Bool.and_eq_true,
      candidate_iff_of_no_model hmodel, Option.isNone_iff_eq_none]
    exact and_comm
  have hnone : (genericFor db m.metric).filter (fun n => n.deviceModel.isSome) = [] := by
    rw [List.filter_eq_nil_iff]
    intro n hn hsome
    simp only [genericFor, List.mem_filter, Bool.and_eq_true, Option.isNone_iff_eq_none] at hn
    rw [hn.2.1.2] at hsome
    cases hsome
  rw [mem_selection_iff, hsame, hnone]
  rfl

/-- What is right of every selection, and what is left to be shown. -/
theorem exact_selection_iff :
    Exact db device (selection db device) ↔ ∀ m ∈ selection db device, Eligible device m := by
  constructor
  · exact fun h m hm => (h.eligible m hm).2
  · intro h
    refine ⟨fun m hm => ⟨(mem_of_mem_selection hm).1, h m hm⟩, nodup_selection, ?_, ?_⟩
    · exact fun m hm heligible => exists_specific hm (candidate_of_eligible heligible)
    · exact fun m hm heligible => exists_selected hm (candidate_of_eligible heligible)

/-- What `get_device_snmp_runtime` returns. -/
theorem selected_eq {protocolConfig : DeviceProtocolConfig} {credential : DeviceCredential}
    {selected : List SnmpOidMapping}
    (h : getDeviceSnmpRuntime db device = .ok (protocolConfig, credential, selected)) :
    selected = selection db device := by
  unfold getDeviceSnmpRuntime at h
  dsimp only at h
  split at h
  swap
  · cases h
  split at h
  swap
  · cases h
  split at h
  · cases h
  · cases h
    rfl

/-- **Exactly when the selection is exact**: the device has a model, or the first active generic
mapping of every metric is one for the type of the device. -/
theorem exact_iff {protocolConfig : DeviceProtocolConfig} {credential : DeviceCredential}
    {selected : List SnmpOidMapping}
    (h : getDeviceSnmpRuntime db device = .ok (protocolConfig, credential, selected)) :
    Exact db device selected ↔ device.deviceModel.isSome ∨
      ∀ metric, ∀ m ∈ (genericFor db metric).head?, m.deviceType = device.deviceType := by
  rw [selected_eq h, exact_selection_iff]
  cases hmodel : device.deviceModel with
  | some model =>
      refine iff_of_true (fun m hm => ?_) (.inl rfl)
      rw [← candidate_iff_of_model (by rw [hmodel]; rfl)]
      exact (mem_of_mem_selection hm).2
  | none =>
      have hgeneric : ∀ m ∈ selection db device, Eligible device m ↔
          m.deviceType = device.deviceType := by
        intro m hm
        have hcandidate := (candidate_iff_of_no_model hmodel).mp (mem_of_mem_selection hm).2
        simp [Eligible, hcandidate]
      constructor
      · refine fun hall => .inr fun metric m hm => ?_
        have hmetric : m.metric = metric := by
          have hin := List.mem_of_head? hm
          simp only [genericFor, List.mem_filter, Bool.and_eq_true, decide_eq_true_eq] at hin
          exact hin.2.2
        have hselected : m ∈ selection db device := by
          rw [mem_selection_iff_of_no_model hmodel, hmetric]
          exact hm
        exact (hgeneric m hselected).mp (hall m hselected)
      · rintro (hsome | hfirst) m hm
        · cases hsome
        · refine (hgeneric m hm).mpr (hfirst m.metric m ?_)
          exact (mem_selection_iff_of_no_model hmodel).mp hm

/-! ### A generic mapping of another type -/

/-- One generic mapping, for another type than that of the sensor of the server room. -/
def strayTables : RuntimeTables where
  protocolConfigs := [{ device := AlertsDb.roomSensor.id, protocol := "SNMP", createdAt := 0 }]
  credentials := [{ device := AlertsDb.roomSensor.id, protocol := "SNMP", updatedAt := 0 }]
  mappings := [{ id := 1, deviceType := AlertsDb.roomSensor.deviceType + 1, metric := 1 }]

/-- The sensor has a model, which has a mapping of its own. -/
def modelTables : RuntimeTables :=
  { strayTables with
    mappings := { id := 2, deviceType := AlertsDb.roomSensor.deviceType, deviceModel := some 3,
                  metric := 1 } :: strayTables.mappings }

/-- The sensor with its model has its own mapping alone. -/
theorem exact_iff_modelTables :
    Exact modelTables { AlertsDb.roomSensor with deviceModel := some 3 }
        [{ id := 2, deviceType := AlertsDb.roomSensor.deviceType, deviceModel := some 3,
           metric := 1 }] ↔
      (some 3 : Option DeviceModelId).isSome ∨ ∀ metric, ∀ m ∈ (genericFor modelTables metric).head?,
        m.deviceType = AlertsDb.roomSensor.deviceType :=
  @exact_iff modelTables { AlertsDb.roomSensor with deviceModel := some 3 } _ _ _ rfl

/-- Without a model, the sensor is polled with the mapping of the other type. -/
theorem strayTables_not_exact :
    getDeviceSnmpRuntime strayTables { AlertsDb.roomSensor with } =
      .ok ({ device := AlertsDb.roomSensor.id, protocol := "SNMP", createdAt := 0 },
        { device := AlertsDb.roomSensor.id, protocol := "SNMP", updatedAt := 0 },
        strayTables.mappings) ∧
    ¬Exact strayTables { AlertsDb.roomSensor with } strayTables.mappings := by
  refine ⟨rfl, fun h => ?_⟩
  obtain ⟨-, -, hgeneric | hspecific⟩ := h.eligible _ List.mem_cons_self
  · exact absurd hgeneric.2 (by decide)
  · cases hspecific.1

end Collectors

end DcimBackend
