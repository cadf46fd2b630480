import DcimBackend.Alerts.Traps
import DcimBackend.Collectors.Mappings

/-!
# Traps and their mappings

`process_snmp_trap` (`collectors/snmp_trap_receiver/services.py`): the device behind an address,
the mapping of the trap's OID, and what is written of it.

A mapping is for one model or for all devices of a type, and the query orders the mappings by
`-device_model` and takes the first.  PostgreSQL puts null first in descending order, so it is a
generic mapping wherever there is one.

The rows of each table are in the order in which the database returns them, which decides between
mappings that the query does not order.  The place of a trap is that of its source, even where the
source names no device, unless the device is found by its address.

The severity of a mapping is any text, since the seed scripts store some that are not declared.
-/

namespace DcimBackend

open Library

/-! ### Rows -/

/-- `traps.SNMPTrapSource`. -/
structure SnmpTrapSource where
  id : ℕ
  organization : OrganizationId
  dataCenter : DataCenterId
  device : Option DeviceId := none
  sourceIp : String
  isEnabled : Bool := true

/-- `TrapSeverity`.  The seed scripts store mappings with other texts. -/
inductive TrapSeverity
  | info
  | warning
  | critical
  | unsupported (text : String) (htext : text ∉ ["INFO", "WARNING", "CRITICAL"])
deriving DecidableEq

/-- The value of a severity in its column. -/
def TrapSeverity.value : TrapSeverity → String
  | .info => "INFO"
  | .warning => "WARNING"
  | .critical => "CRITICAL"
  | .unsupported text _ => text

/-- The severity of an alert with the same value. -/
def TrapSeverity.toAlert (severity : TrapSeverity) : AlertSeverity := .ofValue severity.value

/-- `traps.SNMPTrapOIDMapping`. -/
structure SnmpTrapOidMapping where
  id : ℕ
  deviceType : DeviceTypeId
  deviceModel : Option DeviceModelId := none
  trapOid : String
  eventCode : String
  eventName : String
  severity : TrapSeverity := .info
  messageTemplate : Option String := none
  createAlert : Bool := true
  isActive : Bool := true
deriving DecidableEq

/-- `traps.SNMPTrapEvent`. -/
structure SnmpTrapEvent where
  organization : Option OrganizationId
  dataCenter : Option DataCenterId
  device : Option DeviceId
  sourceIp : String
  trapOid : String
  eventCode : Option String
  eventName : Option String
  severity : TrapSeverity
  rawVarbinds : Dict
  message : String
  receivedAt : Instant
  isMapped : Bool
  isProcessed : Bool

/-- `telemetry.DeviceEvent`. -/
structure DeviceEvent where
  organization : OrganizationId
  dataCenter : DataCenterId
  device : DeviceId
  eventCode : String
  eventName : String
  severity : TrapSeverity
  message : String
  occurredAt : Instant
  rawPayload : Dict

/-- `devices.Device`, with its address. -/
structure TrapDevice extends PolledDevice where
  ipAddress : Option String := none
  isActive : Bool := true

/-- What `process_snmp_trap` reads.  The rows are in the order in which the database returns
them. -/
structure TrapTables where
  sources : List SnmpTrapSource
  devices : List TrapDevice
  deviceTypes : Table DeviceType
  mappings : List SnmpTrapOidMapping

/-- The arguments of `process_snmp_trap`, and the clock. -/
structure ReceivedTrap where
  sourceIp : String
  trapOid : Option String
  rawVarbinds : Option Dict := none
  receivedAt : Instant

/-- What `process_snmp_trap` writes, and the mapping that it takes it from. -/
structure TrapOutcome where
  mapping : Option SnmpTrapOidMapping
  event : SnmpTrapEvent
  deviceEvent : Option DeviceEvent
  /-- The argument of `create_or_update_trap_alert`, if it is called. -/
  alert : Option Trap
  /-- The device and the code of `process_pac_trap_alarm_confirmation_task`, if it is queued. -/
  confirmation : Option (DeviceId × String)

namespace TrapTables

variable (db : TrapTables)

/-! ### The device -/

/-- The source of an address: `first` orders by the key. -/
def trapSource (sourceIp : String) : Option SnmpTrapSource :=
  (db.sources.filter fun source => source.sourceIp = sourceIp && source.isEnabled).argmin
    SnmpTrapSource.id

/-- The device that a source names. -/
def sourceDevice (source : SnmpTrapSource) : Option TrapDevice :=
  source.device.bind fun id => db.devices.find? fun device => device.id = id

/-- The active device of an address. -/
def addressDevice (sourceIp : String) : Option TrapDevice :=
  (db.devices.filter fun device => device.ipAddress = some sourceIp && device.isActive).argmin
    fun device => device.id

/-- The device of a trap. -/
def trapDevice (sourceIp : String) : Option TrapDevice :=
  ((db.trapSource sourceIp).bind db.sourceDevice).or (db.addressDevice sourceIp)

/-- The organization and the data center of a trap: those of the source, unless only the address
leads to a device. -/
def trapPlace (sourceIp : String) : Option OrganizationId × Option DataCenterId :=
  let source := db.trapSource sourceIp
  match source.bind db.sourceDevice, db.addressDevice sourceIp with
  | none, some device => (some device.organization, some device.dataCenter)
  | _, _ => (source.map SnmpTrapSource.organization, source.map SnmpTrapSource.dataCenter)

/-! ### The mapping -/

/-- The mappings among which the query looks. -/
def trapCandidate (device : TrapDevice) (trapOid : Option String) (m : SnmpTrapOidMapping) :
    Bool :=
  m.deviceType = device.deviceType && some m.trapOid = trapOid && m.isActive &&
    (m.deviceModel = device.deviceModel || m.deviceModel.isNone)

/-- What `-device_model` orders by: in descending order null is first. -/
def modelKey (m : SnmpTrapOidMapping) : WithTop DeviceModelId := m.deviceModel

/-- The mapping of a trap: `.order_by("-device_model").first()`. -/
def trapMapping (device : TrapDevice) (trapOid : Option String) : Option SnmpTrapOidMapping :=
  (db.mappings.filter (trapCandidate device trapOid)).argmax modelKey

/-! ### What is written -/

/-- `is_pac_device`, with Python's `str.upper`. -/
def isPacDevice (upper : String → String) (device : TrapDevice) : Bool :=
  (db.deviceTypes.find device.deviceType).any fun deviceType =>
    upper (pyStrip deviceType.code) = "PAC" ||
      "PAC".toList <:+: (upper (pyStrip deviceType.name)).toList

/-- `is_pac_confirmation_trap`. -/
def isPacConfirmationTrap (upper : String → String) (eventCode : String) : Bool :=
  upper (pyStrip eventCode) ∈ ["PAC_ALARM_FIRED", "PAC_ALARM_RESTORED"]

/-- The message of a trap. -/
def trapMessage : Option SnmpTrapOidMapping → String
  | none => "Unmapped SNMP trap received"
  | some m =>
      match m.messageTemplate with
      | some template => if template = "" then m.eventName else template
      | none => m.eventName

/-- The row of a trap. -/
def trapEvent (trap : ReceivedTrap) (device : Option TrapDevice)
    (mapping : Option SnmpTrapOidMapping) : SnmpTrapEvent where
  organization := (db.trapPlace trap.sourceIp).1
  dataCenter := (db.trapPlace trap.sourceIp).2
  device := device.map fun device => device.id
  sourceIp := trap.sourceIp
  trapOid := (trap.trapOid.filter (· ≠ "")).getD "UNKNOWN"
  eventCode := mapping.map SnmpTrapOidMapping.eventCode
  eventName := mapping.map SnmpTrapOidMapping.eventName
  severity := mapping.elim .info SnmpTrapOidMapping.severity
  rawVarbinds := trap.rawVarbinds.getD []
  message := trapMessage mapping
  receivedAt := trap.receivedAt
  isMapped := mapping.isSome
  isProcessed := true

/-- `process_snmp_trap`. -/
def processSnmpTrap (upper : String → String) (trap : ReceivedTrap) : TrapOutcome :=
  let device := db.trapDevice trap.sourceIp
  let mapping := device.bind fun device => db.trapMapping device trap.trapOid
  let event := db.trapEvent trap device mapping
  match device, mapping with
  | some device, some m =>
      let isPacConfirmation :=
        db.isPacDevice upper device && isPacConfirmationTrap upper m.eventCode
      { mapping := mapping
        event := event
        deviceEvent := some
          { organization := device.organization
            dataCenter := device.dataCenter
            device := device.id
            eventCode := m.eventCode
            eventName := m.eventName
            severity := m.severity
            message := event.message
            occurredAt := trap.receivedAt
            rawPayload := trap.rawVarbinds.getD [] }
        alert :=
          if m.createAlert && !isPacConfirmation then
            some
              { device := device.toDevice
                eventCode := some m.eventCode
                eventName := some m.eventName
                severity := m.severity.toAlert
                message := event.message
                triggeredAt := trap.receivedAt
                trapOid := m.trapOid
                rawPayload := trap.rawVarbinds.getD [] }
          else none
        confirmation := if isPacConfirmation then some (device.id, m.eventCode) else none }
  | _, _ =>
      { mapping := mapping
        event := event
        deviceEvent := none
        alert := none
        confirmation := none }

/-! ### Which mapping is used -/

variable {db} {upper : String → String} {trap : ReceivedTrap} {device : TrapDevice}
  {trapOid : Option String} {m : SnmpTrapOidMapping}

theorem mem_candidates_iff :
    m ∈ db.mappings.filter (trapCandidate device trapOid) ↔
      m ∈ db.mappings ∧ trapCandidate device trapOid m = true :=
  List.mem_filter

/-- What is first among the candidates is one of them, and no candidate is before it. -/
theorem trapMapping_spec (hm : m ∈ db.mappings) (hcandidate : trapCandidate device trapOid m) :
    ∃ first ∈ db.mappings, trapCandidate device trapOid first = true ∧
      modelKey m ≤ modelKey first ∧ db.trapMapping device trapOid = some first := by
  have hmem := mem_candidates_iff.mpr ⟨hm, hcandidate⟩
  rcases hfirst : db.trapMapping device trapOid with _ | first
  · rw [trapMapping, List.argmax_eq_none] at hfirst
    rw [hfirst] at hmem
    cases hmem
  · obtain ⟨hstored, hcandidate⟩ := mem_candidates_iff.mp (List.argmax_mem hfirst)
    exact ⟨first, hstored, hcandidate, List.le_of_mem_argmax hmem hfirst, rfl⟩

/-- The trap is written from a mapping for the model. -/
def PrefersModel (outcome : TrapOutcome) : Prop :=
  ∃ m, outcome.mapping = some m ∧ m.deviceModel.isSome

theorem mapping_processSnmpTrap (hdevice : db.trapDevice trap.sourceIp = some device) :
    (db.processSnmpTrap upper trap).mapping = db.trapMapping device trap.trapOid := by
  unfold processSnmpTrap
  simp only [hdevice, Option.bind_some]
  rcases db.trapMapping device trap.trapOid with _ | m <;> rfl

/-- A mapping for the model is used exactly if no generic one is there. -/
theorem prefersModel_iff (hdevice : db.trapDevice trap.sourceIp = some device)
    (hspecific : ∃ m ∈ db.mappings,
      trapCandidate device trap.trapOid m = true ∧ m.deviceModel.isSome) :
    PrefersModel (db.processSnmpTrap upper trap) ↔
      ∀ m ∈ db.mappings, trapCandidate device trap.trapOid m = true → m.deviceModel ≠ none := by
  unfold PrefersModel
  rw [mapping_processSnmpTrap hdevice]
  constructor
  · rintro ⟨used, hused, hmodel⟩ m hm hcandidate hgeneric
    obtain ⟨first, -, -, hle, hfirst⟩ := trapMapping_spec hm hcandidate
    obtain rfl : used = first := Option.some.inj (hused.symm.trans hfirst)
    have htop : modelKey m = ⊤ := hgeneric
    rw [htop, top_le_iff] at hle
    have hnone : used.deviceModel = none := hle
    rw [hnone] at hmodel
    cases hmodel
  · intro hnone
    obtain ⟨m, hm, hcandidate, -⟩ := hspecific
    obtain ⟨first, hstored, hfirstCandidate, -, hfirst⟩ := trapMapping_spec hm hcandidate
    exact ⟨first, hfirst, Option.isSome_iff_ne_none.mpr (hnone first hstored hfirstCandidate)⟩

/-- A table with a mapping for the model of a device and a generic one, both for the trap. -/
structure Mixed (db : TrapTables) (device : TrapDevice) (trapOid : Option String) : Prop where
  specific : ∃ m ∈ db.mappings, trapCandidate device trapOid m = true ∧ m.deviceModel.isSome
  generic : ∃ m ∈ db.mappings, trapCandidate device trapOid m = true ∧ m.deviceModel = none

/-- **The model is never preferred.** -/
theorem not_prefersModel_of_mixed (hdevice : db.trapDevice trap.sourceIp = some device)
    (hmixed : Mixed db device trap.trapOid) :
    ¬PrefersModel (db.processSnmpTrap upper trap) := by
  rw [prefersModel_iff hdevice hmixed.specific]
  obtain ⟨m, hm, hcandidate, hgeneric⟩ := hmixed.generic
  exact fun h => h m hm hcandidate hgeneric

/-- A device with a model. -/
def coolingUnit : TrapDevice where
  id := 1
  organization := 1
  dataCenter := 1
  deviceType := 1
  name := "CRAC-1"
  deviceModel := some 7
  ipAddress := some "10.0.0.5"

/-- For one OID, a critical event for the model of the cooling unit, and one to be recorded
only for the other models. -/
def coolingMappings : TrapTables where
  sources := []
  devices := [coolingUnit]
  deviceTypes := .empty
  mappings :=
    [{ id := 1, deviceType := 1, deviceModel := some 7, trapOid := "1.3.6.1.4.1.1",
       eventCode := "WATER_LEAK", eventName := "Water leak", severity := .critical },
     { id := 2, deviceType := 1, trapOid := "1.3.6.1.4.1.1", eventCode := "TRAP",
       eventName := "Trap", createAlert := false }]

/-- A trap of the cooling unit. -/
def coolingTrap : ReceivedTrap where
  sourceIp := "10.0.0.5"
  trapOid := some "1.3.6.1.4.1.1"
  receivedAt := 0

theorem mixed_coolingMappings : Mixed coolingMappings coolingUnit coolingTrap.trapOid where
  specific := ⟨_, List.mem_cons_self, by decide, rfl⟩
  generic := ⟨_, List.mem_cons_of_mem _ List.mem_cons_self, by decide, rfl⟩

theorem trapDevice_coolingMappings :
    coolingMappings.trapDevice coolingTrap.sourceIp = some coolingUnit := by
  rfl

theorem not_prefersModel_coolingMappings :
    ¬PrefersModel (coolingMappings.processSnmpTrap String.toUpper coolingTrap) :=
  not_prefersModel_of_mixed trapDevice_coolingMappings mixed_coolingMappings

/-- The water leak is recorded as any other trap. -/
theorem coolingMappings_uses_generic :
    ¬∀ (db : TrapTables) (device : TrapDevice) (trap : ReceivedTrap),
      db.trapDevice trap.sourceIp = some device → Mixed db device trap.trapOid →
        PrefersModel (db.processSnmpTrap String.toUpper trap) := by
  intro h
  have hprefers := h coolingMappings coolingUnit coolingTrap trapDevice_coolingMappings
    mixed_coolingMappings
  rw [prefersModel_iff trapDevice_coolingMappings mixed_coolingMappings.specific] at hprefers
  obtain ⟨m, hm, hcandidate, hgeneric⟩ := mixed_coolingMappings.generic
  exact hprefers m hm hcandidate hgeneric

end TrapTables

end DcimBackend
