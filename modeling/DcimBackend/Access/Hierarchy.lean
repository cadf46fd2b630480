import DcimBackend.Library.Table
import Mathlib.Logic.Relation

/-!
# The resource hierarchy

The five levels of resources (`apps/organizations/models.py`,
`apps/datacenters/models.py`, `apps/devices/models.py`) as tables of rows that
hold foreign keys: DataCenter → Organization, Room → DataCenter,
Rack → DataCenter and (nullable) Room, Device → Organization, DataCenter and
(nullable) Room and Rack.

`Hierarchy` carries the database's foreign-key constraints as fields, and
nothing else: no constraint of the models ties `Device.organization` to the
organization of `Device.data_center`, or a room or rack to the device's data
center.

Two relations say what the hierarchy means, independently of any code that
walks it:

* `Parent` — one foreign key upwards; `Above` is its reflexive-transitive
  closure;
* `Holds` — one level-skipping step downwards: which resources a resource
  contains.
-/

namespace DcimBackend

open Library

abbrev OrganizationId := ℕ
abbrev DataCenterId := ℕ
abbrev RoomId := ℕ
abbrev RackId := ℕ
abbrev DeviceId := ℕ
abbrev DeviceTypeId := ℕ

/-- `organizations.Organization`. -/
structure Organization where
  id : OrganizationId
deriving DecidableEq

/-- `datacenters.DataCenter`. -/
structure DataCenter where
  id : DataCenterId
  organization : OrganizationId
deriving DecidableEq

/-- `datacenters.Room`. -/
structure Room where
  id : RoomId
  dataCenter : DataCenterId
deriving DecidableEq

/-- `datacenters.Rack`.  The room is nullable (`on_delete=SET_NULL`). -/
structure Rack where
  id : RackId
  dataCenter : DataCenterId
  room : Option RoomId := none
deriving DecidableEq

/-- `devices.Device`. -/
structure Device where
  id : DeviceId
  organization : OrganizationId
  dataCenter : DataCenterId
  room : Option RoomId := none
  rack : Option RackId := none
  deviceType : DeviceTypeId
  name : String
deriving DecidableEq

instance : Keyed Organization := ⟨Organization.id⟩
instance : Keyed DataCenter := ⟨DataCenter.id⟩
instance : Keyed Room := ⟨Room.id⟩
instance : Keyed Rack := ⟨Rack.id⟩
instance : Keyed Device := ⟨Device.id⟩

/-- The levels an access scope speaks about. -/
inductive Level
  | organization
  | dataCenter
  | room
  | rack
  | device
deriving DecidableEq

/-- The name a level has as a model field. -/
def Level.fieldName : Level → String
  | .organization => "organization"
  | .dataCenter => "data_center"
  | .room => "room"
  | .rack => "rack"
  | .device => "device"

/-- A resource: a level and the primary key of a row at that level. -/
structure Resource where
  level : Level
  id : ℕ
deriving DecidableEq

/-- The foreign key of a device at a level, and the device itself at its own. -/
def Device.key (device : Device) : Level → Option ℕ
  | .organization => some device.organization
  | .dataCenter => some device.dataCenter
  | .room => device.room
  | .rack => device.rack
  | .device => some device.id

/-- The resource tables with their foreign-key constraints. -/
structure Hierarchy where
  organizations : Table Organization
  dataCenters : Table DataCenter
  rooms : Table Room
  racks : Table Rack
  devices : Table Device
  dataCenter_organization :
    ∀ dataCenter ∈ dataCenters.rows,
      (organizations.find dataCenter.organization).isSome
  room_dataCenter :
    ∀ room ∈ rooms.rows, (dataCenters.find room.dataCenter).isSome
  rack_dataCenter :
    ∀ rack ∈ racks.rows, (dataCenters.find rack.dataCenter).isSome
  rack_room :
    ∀ rack ∈ racks.rows, ∀ room ∈ rack.room, (rooms.find room).isSome
  device_organization :
    ∀ device ∈ devices.rows, (organizations.find device.organization).isSome
  device_dataCenter :
    ∀ device ∈ devices.rows, (dataCenters.find device.dataCenter).isSome
  device_room :
    ∀ device ∈ devices.rows, ∀ room ∈ device.room, (rooms.find room).isSome
  device_rack :
    ∀ device ∈ devices.rows, ∀ rack ∈ device.rack, (racks.find rack).isSome

namespace Hierarchy

/-- The foreign keys of a hierarchy without rooms and racks. -/
def flatKeys (organizations : Table Organization) (dataCenters : Table DataCenter)
    (devices : Table Device) : Bool :=
  dataCenters.rows.all (fun dataCenter =>
    (organizations.find dataCenter.organization).isSome) &&
    devices.rows.all fun device =>
      (organizations.find device.organization).isSome &&
        (dataCenters.find device.dataCenter).isSome && device.room.isNone && device.rack.isNone

/-- A hierarchy without rooms and racks. -/
def flat (organizations : Table Organization) (dataCenters : Table DataCenter)
    (devices : Table Device) (hkeys : flatKeys organizations dataCenters devices = true) :
    Hierarchy where
  organizations := organizations
  dataCenters := dataCenters
  rooms := .empty
  racks := .empty
  devices := devices
  dataCenter_organization := by simp_all [flatKeys]
  room_dataCenter := by simp [Table.empty]
  rack_dataCenter := by simp [Table.empty]
  rack_room := by simp [Table.empty]
  device_organization := by simp_all [flatKeys]
  device_dataCenter := by simp_all [flatKeys]
  device_room := by simp_all [flatKeys]
  device_rack := by simp_all [flatKeys]

/-- The foreign keys of a hierarchy. -/
def tableKeys (organizations : Table Organization) (dataCenters : Table DataCenter)
    (rooms : Table Room) (racks : Table Rack) (devices : Table Device) : Bool :=
  dataCenters.rows.all (fun dataCenter =>
    (organizations.find dataCenter.organization).isSome) &&
    rooms.rows.all (fun room => (dataCenters.find room.dataCenter).isSome) &&
    racks.rows.all (fun rack => (dataCenters.find rack.dataCenter).isSome &&
      rack.room.all fun room => (rooms.find room).isSome) &&
    devices.rows.all fun device =>
      (organizations.find device.organization).isSome &&
        (dataCenters.find device.dataCenter).isSome &&
        device.room.all (fun room => (rooms.find room).isSome) &&
        device.rack.all fun rack => (racks.find rack).isSome

theorem tableKeys_iff {organizations : Table Organization} {dataCenters : Table DataCenter}
    {rooms : Table Room} {racks : Table Rack} {devices : Table Device} :
    tableKeys organizations dataCenters rooms racks devices = true ↔
      (((∀ dataCenter ∈ dataCenters.rows, (organizations.find dataCenter.organization).isSome) ∧
        ∀ room ∈ rooms.rows, (dataCenters.find room.dataCenter).isSome) ∧
        ∀ rack ∈ racks.rows, (dataCenters.find rack.dataCenter).isSome ∧
          ∀ room, rack.room = some room → (rooms.find room).isSome) ∧
        ∀ device ∈ devices.rows, (((organizations.find device.organization).isSome ∧
          (dataCenters.find device.dataCenter).isSome) ∧
            ∀ room, device.room = some room → (rooms.find room).isSome) ∧
              ∀ rack, device.rack = some rack → (racks.find rack).isSome := by
  simp [tableKeys, Option.all_eq_true]

/-- The hierarchy of some tables. -/
def ofTables (organizations : Table Organization) (dataCenters : Table DataCenter)
    (rooms : Table Room) (racks : Table Rack) (devices : Table Device)
    (hkeys : tableKeys organizations dataCenters rooms racks devices = true) : Hierarchy where
  organizations := organizations
  dataCenters := dataCenters
  rooms := rooms
  racks := racks
  devices := devices
  dataCenter_organization := (tableKeys_iff.mp hkeys).1.1.1
  room_dataCenter := (tableKeys_iff.mp hkeys).1.1.2
  rack_dataCenter rack hrack := ((tableKeys_iff.mp hkeys).1.2 rack hrack).1
  rack_room rack hrack := ((tableKeys_iff.mp hkeys).1.2 rack hrack).2
  device_organization device hdevice := ((tableKeys_iff.mp hkeys).2 device hdevice).1.1.1
  device_dataCenter device hdevice := ((tableKeys_iff.mp hkeys).2 device hdevice).1.1.2
  device_room device hdevice := ((tableKeys_iff.mp hkeys).2 device hdevice).1.2
  device_rack device hdevice := ((tableKeys_iff.mp hkeys).2 device hdevice).2

variable (h : Hierarchy)

/-- Whether a resource exists. -/
def exists? : Resource → Bool
  | ⟨.organization, id⟩ => (h.organizations.find id).isSome
  | ⟨.dataCenter, id⟩ => (h.dataCenters.find id).isSome
  | ⟨.room, id⟩ => (h.rooms.find id).isSome
  | ⟨.rack, id⟩ => (h.racks.find id).isSome
  | ⟨.device, id⟩ => (h.devices.find id).isSome

theorem exists_of_device_key {device : Device} (hmem : device ∈ h.devices)
    {level : Level} {id : ℕ} (hkey : device.key level = some id) :
    h.exists? ⟨level, id⟩ := by
  cases level with
  | organization =>
      obtain rfl : device.organization = id := by simpa [Device.key] using hkey
      exact h.device_organization device hmem
  | dataCenter =>
      obtain rfl : device.dataCenter = id := by simpa [Device.key] using hkey
      exact h.device_dataCenter device hmem
  | room => exact h.device_room device hmem id hkey
  | rack => exact h.device_rack device hmem id hkey
  | device =>
      obtain rfl : device.id = id := by simpa [Device.key] using hkey
      exact Table.isSome_find_iff.mpr ⟨device, hmem, rfl⟩

/-- One foreign key upwards. -/
inductive Parent : Resource → Resource → Prop
  | dataCenterOrganization {dataCenter : DataCenter} :
      dataCenter ∈ h.dataCenters →
      Parent ⟨.dataCenter, dataCenter.id⟩ ⟨.organization, dataCenter.organization⟩
  | roomDataCenter {room : Room} :
      room ∈ h.rooms → Parent ⟨.room, room.id⟩ ⟨.dataCenter, room.dataCenter⟩
  | rackRoom {rack : Rack} {room : RoomId} :
      rack ∈ h.racks → rack.room = some room → Parent ⟨.rack, rack.id⟩ ⟨.room, room⟩
  | rackDataCenter {rack : Rack} :
      rack ∈ h.racks → Parent ⟨.rack, rack.id⟩ ⟨.dataCenter, rack.dataCenter⟩
  | deviceRack {device : Device} {rack : RackId} :
      device ∈ h.devices → device.rack = some rack →
      Parent ⟨.device, device.id⟩ ⟨.rack, rack⟩
  | deviceRoom {device : Device} {room : RoomId} :
      device ∈ h.devices → device.room = some room →
      Parent ⟨.device, device.id⟩ ⟨.room, room⟩
  | deviceDataCenter {device : Device} :
      device ∈ h.devices →
      Parent ⟨.device, device.id⟩ ⟨.dataCenter, device.dataCenter⟩
  | deviceOrganization {device : Device} :
      device ∈ h.devices →
      Parent ⟨.device, device.id⟩ ⟨.organization, device.organization⟩

/-- Upwards along any number of foreign keys, the resource itself included. -/
def Above : Resource → Resource → Prop := Relation.ReflTransGen h.Parent

/-- Which resources a resource contains.  A resource contains itself; a data
center contains its rooms, racks and devices by their own `data_center` key, and
so on: containment follows one foreign key per level, as the queries do. -/
inductive Holds : Resource → Resource → Prop
  | self {x : Resource} : h.exists? x → Holds x x
  | organizationDevice {device : Device} :
      device ∈ h.devices →
      Holds ⟨.organization, device.organization⟩ ⟨.device, device.id⟩
  | organizationDataCenter {dataCenter : DataCenter} :
      dataCenter ∈ h.dataCenters →
      Holds ⟨.organization, dataCenter.organization⟩ ⟨.dataCenter, dataCenter.id⟩
  | organizationRoom {dataCenter : DataCenter} {room : Room} :
      dataCenter ∈ h.dataCenters → room ∈ h.rooms →
      room.dataCenter = dataCenter.id →
      Holds ⟨.organization, dataCenter.organization⟩ ⟨.room, room.id⟩
  | organizationRack {dataCenter : DataCenter} {rack : Rack} :
      dataCenter ∈ h.dataCenters → rack ∈ h.racks →
      rack.dataCenter = dataCenter.id →
      Holds ⟨.organization, dataCenter.organization⟩ ⟨.rack, rack.id⟩
  | dataCenterRoom {room : Room} :
      room ∈ h.rooms → Holds ⟨.dataCenter, room.dataCenter⟩ ⟨.room, room.id⟩
  | dataCenterRack {rack : Rack} :
      rack ∈ h.racks → Holds ⟨.dataCenter, rack.dataCenter⟩ ⟨.rack, rack.id⟩
  | dataCenterDevice {device : Device} :
      device ∈ h.devices →
      Holds ⟨.dataCenter, device.dataCenter⟩ ⟨.device, device.id⟩
  | roomRack {rack : Rack} {room : RoomId} :
      rack ∈ h.racks → rack.room = some room → Holds ⟨.room, room⟩ ⟨.rack, rack.id⟩
  | roomDevice {device : Device} {room : RoomId} :
      device ∈ h.devices → device.room = some room →
      Holds ⟨.room, room⟩ ⟨.device, device.id⟩
  | rackDevice {device : Device} {rack : RackId} :
      device ∈ h.devices → device.rack = some rack →
      Holds ⟨.rack, rack⟩ ⟨.device, device.id⟩

/-- What a grant on `x` reaches: something `x` holds, and everything above it. -/
def Reaches (x r : Resource) : Prop := ∃ y, h.Holds x y ∧ h.Above y r

variable {h}

/-! ### Upwards, level by level

Each level's closure is the resource itself together with the closures of the
rows its foreign keys name. -/

/-- The first step upwards: nothing, or one foreign key and on from there. -/
theorem above_iff {x r : Resource} :
    h.Above x r ↔ r = x ∨ ∃ y, h.Parent x y ∧ h.Above y r := by
  rw [Above, Relation.ReflTransGen.cases_head_iff]
  exact or_congr_left eq_comm

theorem above_organization {id : OrganizationId} {r : Resource} :
    h.Above ⟨.organization, id⟩ r ↔ r = ⟨.organization, id⟩ := by
  rw [above_iff]
  constructor
  · rintro (rfl | ⟨y, hy, -⟩)
    · rfl
    · cases hy
  · exact Or.inl

theorem above_dataCenter {dataCenter : DataCenter} (hmem : dataCenter ∈ h.dataCenters)
    {r : Resource} :
    h.Above ⟨.dataCenter, dataCenter.id⟩ r ↔
      r = ⟨.dataCenter, dataCenter.id⟩ ∨
        h.Above ⟨.organization, dataCenter.organization⟩ r := by
  rw [above_iff]
  refine or_congr_right ⟨?_, fun hup => ⟨_, .dataCenterOrganization hmem, hup⟩⟩
  rintro ⟨y, hy, hup⟩
  generalize hx : (⟨.dataCenter, dataCenter.id⟩ : Resource) = x at hy
  cases hy with
  | dataCenterOrganization hother =>
      rw [h.dataCenters.eq_of_pk_eq hmem hother (Resource.mk.inj hx).2]
      exact hup
  | _ => simp at hx

theorem above_room {room : Room} (hmem : room ∈ h.rooms) {r : Resource} :
    h.Above ⟨.room, room.id⟩ r ↔
      r = ⟨.room, room.id⟩ ∨ h.Above ⟨.dataCenter, room.dataCenter⟩ r := by
  rw [above_iff]
  refine or_congr_right ⟨?_, fun hup => ⟨_, .roomDataCenter hmem, hup⟩⟩
  rintro ⟨y, hy, hup⟩
  generalize hx : (⟨.room, room.id⟩ : Resource) = x at hy
  cases hy with
  | roomDataCenter hother =>
      rw [h.rooms.eq_of_pk_eq hmem hother (Resource.mk.inj hx).2]
      exact hup
  | _ => simp at hx

theorem above_rack {rack : Rack} (hmem : rack ∈ h.racks) {r : Resource} :
    h.Above ⟨.rack, rack.id⟩ r ↔
      r = ⟨.rack, rack.id⟩ ∨ (∃ room ∈ rack.room, h.Above ⟨.room, room⟩ r) ∨
        h.Above ⟨.dataCenter, rack.dataCenter⟩ r := by
  rw [above_iff]
  refine or_congr_right ⟨?_, ?_⟩
  · rintro ⟨y, hy, hup⟩
    generalize hx : (⟨.rack, rack.id⟩ : Resource) = x at hy
    cases hy with
    | rackRoom hother hroom =>
        rw [h.racks.eq_of_pk_eq hmem hother (Resource.mk.inj hx).2]
        exact Or.inl ⟨_, hroom, hup⟩
    | rackDataCenter hother =>
        rw [h.racks.eq_of_pk_eq hmem hother (Resource.mk.inj hx).2]
        exact Or.inr hup
    | _ => simp at hx
  · rintro (⟨room, hroom, hup⟩ | hup)
    · exact ⟨_, .rackRoom hmem hroom, hup⟩
    · exact ⟨_, .rackDataCenter hmem, hup⟩

theorem above_device {device : Device} (hmem : device ∈ h.devices) {r : Resource} :
    h.Above ⟨.device, device.id⟩ r ↔
      r = ⟨.device, device.id⟩ ∨ (∃ rack ∈ device.rack, h.Above ⟨.rack, rack⟩ r) ∨
        (∃ room ∈ device.room, h.Above ⟨.room, room⟩ r) ∨
        h.Above ⟨.dataCenter, device.dataCenter⟩ r ∨
        h.Above ⟨.organization, device.organization⟩ r := by
  rw [above_iff]
  refine or_congr_right ⟨?_, ?_⟩
  · rintro ⟨y, hy, hup⟩
    generalize hx : (⟨.device, device.id⟩ : Resource) = x at hy
    cases hy with
    | deviceRack hother hrack =>
        rw [h.devices.eq_of_pk_eq hmem hother (Resource.mk.inj hx).2]
        exact Or.inl ⟨_, hrack, hup⟩
    | deviceRoom hother hroom =>
        rw [h.devices.eq_of_pk_eq hmem hother (Resource.mk.inj hx).2]
        exact Or.inr (Or.inl ⟨_, hroom, hup⟩)
    | deviceDataCenter hother =>
        rw [h.devices.eq_of_pk_eq hmem hother (Resource.mk.inj hx).2]
        exact Or.inr (Or.inr (Or.inl hup))
    | deviceOrganization hother =>
        rw [h.devices.eq_of_pk_eq hmem hother (Resource.mk.inj hx).2]
        exact Or.inr (Or.inr (Or.inr hup))
    | _ => simp at hx
  · rintro (⟨rack, hrack, hup⟩ | ⟨room, hroom, hup⟩ | hup | hup)
    · exact ⟨_, .deviceRack hmem hrack, hup⟩
    · exact ⟨_, .deviceRoom hmem hroom, hup⟩
    · exact ⟨_, .deviceDataCenter hmem, hup⟩
    · exact ⟨_, .deviceOrganization hmem, hup⟩

/-- A device is above nothing but itself. -/
theorem above_device_level {x : Resource} {device : DeviceId}
    (hup : h.Above x ⟨.device, device⟩) : x = ⟨.device, device⟩ := by
  induction hup using Relation.ReflTransGen.head_induction_on with
  | refl => rfl
  | head hparent _ ih =>
      subst ih
      cases hparent

/-! ### Downwards, level by level

What a grant reaches, with one disjunct for each query of the expansion. -/

theorem reaches_organization {id : OrganizationId}
    (hid : h.exists? ⟨.organization, id⟩) {r : Resource} :
    h.Reaches ⟨.organization, id⟩ r ↔
      h.Above ⟨.organization, id⟩ r ∨
      (∃ device ∈ h.devices, device.organization = id ∧
        h.Above ⟨.device, device.id⟩ r) ∨
      ∃ dataCenter ∈ h.dataCenters, dataCenter.organization = id ∧
        (h.Above ⟨.dataCenter, dataCenter.id⟩ r ∨
          (∃ room ∈ h.rooms, room.dataCenter = dataCenter.id ∧
            h.Above ⟨.room, room.id⟩ r) ∨
          ∃ rack ∈ h.racks, rack.dataCenter = dataCenter.id ∧
            h.Above ⟨.rack, rack.id⟩ r) := by
  constructor
  · rintro ⟨y, hy, hup⟩
    cases hy with
    | self => exact Or.inl hup
    | organizationDevice hmem => exact Or.inr (Or.inl ⟨_, hmem, rfl, hup⟩)
    | organizationDataCenter hmem =>
        exact Or.inr (Or.inr ⟨_, hmem, rfl, Or.inl hup⟩)
    | organizationRoom hmem hroom hin =>
        exact Or.inr (Or.inr ⟨_, hmem, rfl, Or.inr (Or.inl ⟨_, hroom, hin, hup⟩)⟩)
    | organizationRack hmem hrack hin =>
        exact Or.inr (Or.inr ⟨_, hmem, rfl, Or.inr (Or.inr ⟨_, hrack, hin, hup⟩)⟩)
  · rintro (hup | ⟨device, hmem, rfl, hup⟩ | ⟨dataCenter, hmem, rfl, hup⟩)
    · exact ⟨_, .self hid, hup⟩
    · exact ⟨_, .organizationDevice hmem, hup⟩
    · rcases hup with hup | ⟨room, hroom, hin, hup⟩ | ⟨rack, hrack, hin, hup⟩
      · exact ⟨_, .organizationDataCenter hmem, hup⟩
      · exact ⟨_, .organizationRoom hmem hroom hin, hup⟩
      · exact ⟨_, .organizationRack hmem hrack hin, hup⟩

theorem reaches_dataCenter {id : DataCenterId}
    (hid : h.exists? ⟨.dataCenter, id⟩) {r : Resource} :
    h.Reaches ⟨.dataCenter, id⟩ r ↔
      h.Above ⟨.dataCenter, id⟩ r ∨
      (∃ room ∈ h.rooms, room.dataCenter = id ∧ h.Above ⟨.room, room.id⟩ r) ∨
      (∃ rack ∈ h.racks, rack.dataCenter = id ∧ h.Above ⟨.rack, rack.id⟩ r) ∨
      ∃ device ∈ h.devices, device.dataCenter = id ∧
        h.Above ⟨.device, device.id⟩ r := by
  constructor
  · rintro ⟨y, hy, hup⟩
    cases hy with
    | self => exact Or.inl hup
    | dataCenterRoom hmem => exact Or.inr (Or.inl ⟨_, hmem, rfl, hup⟩)
    | dataCenterRack hmem => exact Or.inr (Or.inr (Or.inl ⟨_, hmem, rfl, hup⟩))
    | dataCenterDevice hmem => exact Or.inr (Or.inr (Or.inr ⟨_, hmem, rfl, hup⟩))
  · rintro (hup | ⟨room, hmem, rfl, hup⟩ | ⟨rack, hmem, rfl, hup⟩ |
      ⟨device, hmem, rfl, hup⟩)
    · exact ⟨_, .self hid, hup⟩
    · exact ⟨_, .dataCenterRoom hmem, hup⟩
    · exact ⟨_, .dataCenterRack hmem, hup⟩
    · exact ⟨_, .dataCenterDevice hmem, hup⟩

theorem reaches_room {id : RoomId} (hid : h.exists? ⟨.room, id⟩) {r : Resource} :
    h.Reaches ⟨.room, id⟩ r ↔
      h.Above ⟨.room, id⟩ r ∨
      (∃ rack ∈ h.racks, rack.room = some id ∧ h.Above ⟨.rack, rack.id⟩ r) ∨
      ∃ device ∈ h.devices, device.room = some id ∧
        h.Above ⟨.device, device.id⟩ r := by
  constructor
  · rintro ⟨y, hy, hup⟩
    cases hy with
    | self => exact Or.inl hup
    | roomRack hmem hroom => exact Or.inr (Or.inl ⟨_, hmem, hroom, hup⟩)
    | roomDevice hmem hroom => exact Or.inr (Or.inr ⟨_, hmem, hroom, hup⟩)
  · rintro (hup | ⟨rack, hmem, hroom, hup⟩ | ⟨device, hmem, hroom, hup⟩)
    · exact ⟨_, .self hid, hup⟩
    · exact ⟨_, .roomRack hmem hroom, hup⟩
    · exact ⟨_, .roomDevice hmem hroom, hup⟩

theorem reaches_rack {id : RackId} (hid : h.exists? ⟨.rack, id⟩) {r : Resource} :
    h.Reaches ⟨.rack, id⟩ r ↔
      h.Above ⟨.rack, id⟩ r ∨
      ∃ device ∈ h.devices, device.rack = some id ∧
        h.Above ⟨.device, device.id⟩ r := by
  constructor
  · rintro ⟨y, hy, hup⟩
    cases hy with
    | self => exact Or.inl hup
    | rackDevice hmem hrack => exact Or.inr ⟨_, hmem, hrack, hup⟩
  · rintro (hup | ⟨device, hmem, hrack, hup⟩)
    · exact ⟨_, .self hid, hup⟩
    · exact ⟨_, .rackDevice hmem hrack, hup⟩

theorem reaches_device {id : DeviceId} (hid : h.exists? ⟨.device, id⟩)
    {r : Resource} : h.Reaches ⟨.device, id⟩ r ↔ h.Above ⟨.device, id⟩ r := by
  constructor
  · rintro ⟨y, hy, hup⟩
    cases hy with
    | self => exact hup
  · exact fun hup => ⟨_, .self hid, hup⟩

/-- The devices an organization reaches are the devices that name it: what is
above a room or a rack is never a device. -/
theorem reaches_organization_device {id : OrganizationId} {device : DeviceId} :
    h.Reaches ⟨.organization, id⟩ ⟨.device, device⟩ ↔
      ∃ row ∈ h.devices, row.organization = id ∧ row.id = device := by
  constructor
  · rintro ⟨y, hy, hup⟩
    obtain rfl := above_device_level hup
    generalize hx : (⟨.device, device⟩ : Resource) = x at hy
    cases hy with
    | organizationDevice hmem => exact ⟨_, hmem, rfl, (Resource.mk.inj hx).2.symm⟩
    | _ => simp at hx
  · rintro ⟨row, hmem, rfl, rfl⟩
    exact ⟨_, .organizationDevice hmem, .refl⟩

/-- A device that a resource reaches has the resource for its key at that level. -/
theorem key_of_reaches_device {x : Resource} {id : DeviceId}
    (hreaches : h.Reaches x ⟨.device, id⟩) :
    ∃ device ∈ h.devices, device.id = id ∧ device.key x.level = some x.id := by
  obtain ⟨y, hholds, hup⟩ := hreaches
  obtain rfl := above_device_level hup
  generalize hy : (⟨.device, id⟩ : Resource) = y at hholds
  cases hholds with
  | self hexists =>
      subst hy
      obtain ⟨device, hdevice, hid⟩ := Table.isSome_find_iff.mp hexists
      exact ⟨device, hdevice, hid, congrArg some hid⟩
  | organizationDevice hmem => exact ⟨_, hmem, (Resource.mk.inj hy).2.symm, rfl⟩
  | dataCenterDevice hmem => exact ⟨_, hmem, (Resource.mk.inj hy).2.symm, rfl⟩
  | roomDevice hmem hroom => exact ⟨_, hmem, (Resource.mk.inj hy).2.symm, hroom⟩
  | rackDevice hmem hrack => exact ⟨_, hmem, (Resource.mk.inj hy).2.symm, hrack⟩
  | _ => simp at hy

end Hierarchy

end DcimBackend
