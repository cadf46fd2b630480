import DcimBackend.Access.Models

/-!
# Access rows as chains of resources

An access row names a resource at up to five levels.  `Nested` says that the named resources
lie in one another, as far as the foreign keys of the models say so, and `Consistent` that,
moreover, a row with a device names just the resources of that device.

`UserResourceAccess.clean` makes every row that it accepts a nested one.  It compares the
levels of a selected device one by one, and leaves a level out at which the device has no
resource: there the row keeps what it names.

Blank levels are allowed in a chain, so neighbours are not enough: `Nested` compares a rack with a
room, and with a data center as well.
-/

namespace DcimBackend

open Library

/-! ### Foreign keys, looked up -/

namespace Hierarchy

variable {h : Hierarchy} {id key : ℕ}

theorem parent_dataCenter_iff :
    h.Parent ⟨.dataCenter, id⟩ ⟨.organization, key⟩ ↔
      (h.dataCenters.find id).map DataCenter.organization = some key := by
  simp only [Option.map_eq_some_iff, Table.find_eq_some_iff]
  constructor
  · intro hparent
    cases hparent with
    | dataCenterOrganization hmem => exact ⟨_, ⟨hmem, rfl⟩, rfl⟩
  · rintro ⟨dataCenter, ⟨hmem, rfl⟩, rfl⟩
    exact .dataCenterOrganization hmem

theorem parent_room_iff :
    h.Parent ⟨.room, id⟩ ⟨.dataCenter, key⟩ ↔
      (h.rooms.find id).map Room.dataCenter = some key := by
  simp only [Option.map_eq_some_iff, Table.find_eq_some_iff]
  constructor
  · intro hparent
    cases hparent with
    | roomDataCenter hmem => exact ⟨_, ⟨hmem, rfl⟩, rfl⟩
  · rintro ⟨room, ⟨hmem, rfl⟩, rfl⟩
    exact .roomDataCenter hmem

theorem parent_rack_iff :
    h.Parent ⟨.rack, id⟩ ⟨.room, key⟩ ↔ (h.racks.find id).bind Rack.room = some key := by
  simp only [Option.bind_eq_some_iff, Table.find_eq_some_iff]
  constructor
  · intro hparent
    cases hparent with
    | rackRoom hmem hroom => exact ⟨_, ⟨hmem, rfl⟩, hroom⟩
  · rintro ⟨rack, ⟨hmem, rfl⟩, hroom⟩
    exact .rackRoom hmem hroom

theorem parent_rack_dataCenter_iff :
    h.Parent ⟨.rack, id⟩ ⟨.dataCenter, key⟩ ↔
      (h.racks.find id).map Rack.dataCenter = some key := by
  simp only [Option.map_eq_some_iff, Table.find_eq_some_iff]
  constructor
  · intro hparent
    cases hparent with
    | rackDataCenter hmem => exact ⟨_, ⟨hmem, rfl⟩, rfl⟩
  · rintro ⟨rack, ⟨hmem, rfl⟩, rfl⟩
    exact .rackDataCenter hmem

/-- The resources of a device are above it. -/
theorem above_of_device_key {device : Device} (hmem : device ∈ h.devices) {level : Level}
    (hkey : device.key level = some id) : h.Above ⟨.device, device.id⟩ ⟨level, id⟩ := by
  cases level with
  | organization =>
      obtain rfl := Option.some.inj hkey
      exact .single (.deviceOrganization hmem)
  | dataCenter =>
      obtain rfl := Option.some.inj hkey
      exact .single (.deviceDataCenter hmem)
  | room => exact .single (.deviceRoom hmem hkey)
  | rack => exact .single (.deviceRack hmem hkey)
  | device =>
      obtain rfl := Option.some.inj hkey
      exact .refl

end Hierarchy

namespace UserResourceAccess

/-! ### What a row should be -/

/-- The resources that the row names lie in one another. -/
structure Nested (h : Hierarchy) (row : UserResourceAccess) : Prop where
  rack_room : ∀ rack room, row.rack = some rack → row.room = some room →
    h.Parent ⟨.rack, rack⟩ ⟨.room, room⟩
  rack_dataCenter : ∀ rack dataCenter, row.rack = some rack →
    row.dataCenter = some dataCenter → h.Parent ⟨.rack, rack⟩ ⟨.dataCenter, dataCenter⟩
  room_dataCenter : ∀ room dataCenter, row.room = some room →
    row.dataCenter = some dataCenter → h.Parent ⟨.room, room⟩ ⟨.dataCenter, dataCenter⟩
  dataCenter_organization : ∀ dataCenter organization, row.dataCenter = some dataCenter →
    row.organization = some organization →
      h.Parent ⟨.dataCenter, dataCenter⟩ ⟨.organization, organization⟩

/-- The row names just the resources of its device, if it has one. -/
def MatchesDevice (h : Hierarchy) (row : UserResourceAccess) : Prop :=
  ∀ id, row.device = some id →
    ∃ device ∈ h.devices, device.id = id ∧ ∀ level, row.key level = device.key level

/-- The row names one chain of resources. -/
def Consistent (h : Hierarchy) (row : UserResourceAccess) : Prop :=
  row.MatchesDevice h ∧ row.Nested h

/-- Where the selected device has no resource, the row names none. -/
def BlankBesides (h : Hierarchy) (row : UserResourceAccess) : Prop :=
  ∀ device, row.device.bind h.devices.find = some device →
    ∀ level, device.key level = none → row.key level = none

/-- Of a row with a device, everything that it names is above the device. -/
theorem MatchesDevice.above {h : Hierarchy} {row : UserResourceAccess}
    (hrow : row.MatchesDevice h) {id key : ℕ} {level : Level} (hdevice : row.device = some id)
    (hkey : row.key level = some key) : h.Above ⟨.device, id⟩ ⟨level, key⟩ := by
  obtain ⟨device, hmem, rfl, hkeys⟩ := hrow id hdevice
  exact Hierarchy.above_of_device_key hmem ((hkeys level).symm.trans hkey)

/-! ### What the checks accept -/

section Checks

variable {h : Hierarchy} {raw row : UserResourceAccess} {errors : ErrorDict}

/-- A field passes the comparison with the device if it then has the device's value, or the
device has none. -/
theorem matchDevice_eq_nil_iff {level : Level} {own device : Option ℕ} :
    (matchDevice level own device errors).2 = [] ↔
      errors = [] ∧ (device.isSome → own.or device = device) := by
  unfold matchDevice
  cases device with
  | none => simp
  | some key =>
      cases own with
      | none => simp
      | some own =>
          by_cases heq : own = key
          · simp [heq]
          · simp [heq]

/-- The comparison with a device passes if the row then has the device's key at every level
where the device has one. -/
theorem backfill_eq_nil_iff {device : Device}
    (hdevice : raw.device.bind h.devices.find = some device) :
    (raw.backfill h errors).2 = [] ↔
      errors = [] ∧ ∀ level, (device.key level).isSome →
        (raw.backfill h errors).1.key level = device.key level := by
  have hown := (selected_eq_some_iff.mp hdevice).2
  have hlevels : (∀ level, (device.key level).isSome →
      (raw.backfill h errors).1.key level = device.key level) ↔
        ∀ level ∈ [Level.organization, .dataCenter, .room, .rack], (device.key level).isSome →
          (raw.key level).or (device.key level) = device.key level := by
    simp only [backfill_key hdevice]
    constructor
    · exact fun hall level _ => hall level
    · intro hall level
      cases level with
      | device =>
          -- the device itself is not compared
          intro _
          rw [key, hown]
          rfl
      | _ => exact hall _ (by decide)
  rw [hlevels]
  unfold backfill
  rw [hdevice]
  simp only [matchDevice_eq_nil_iff, List.forall_mem_cons, List.not_mem_nil, false_implies,
    implies_true, and_true, and_assoc]
  rfl

theorem ite_set_eq_nil_iff {p : Prop} [Decidable p] {field message : String} :
    (if p then errors else errors.set field message) = [] ↔ errors = [] ∧ p := by
  split
  · rename_i hp
    simp [hp]
  · rename_i hp
    simp [hp]

theorem nested_iff :
    row.Nested h ↔
      (∀ room dataCenter, row.room = some room → row.dataCenter = some dataCenter →
        (h.rooms.find room).map Room.dataCenter = some dataCenter) ∧
      (∀ rack room, row.rack = some rack → row.room = some room →
        (h.racks.find rack).bind Rack.room = some room) ∧
      (∀ rack dataCenter, row.rack = some rack → row.dataCenter = some dataCenter →
        (h.racks.find rack).map Rack.dataCenter = some dataCenter) ∧
      ∀ dataCenter organization, row.dataCenter = some dataCenter →
        row.organization = some organization →
          (h.dataCenters.find dataCenter).map DataCenter.organization = some organization := by
  simp only [← Hierarchy.parent_room_iff, ← Hierarchy.parent_rack_iff,
    ← Hierarchy.parent_rack_dataCenter_iff, ← Hierarchy.parent_dataCenter_iff]
  exact ⟨fun hrow => ⟨hrow.3, hrow.1, hrow.2, hrow.4⟩,
    fun hrow => ⟨hrow.2.1, hrow.2.2.1, hrow.1, hrow.2.2.2⟩⟩

/-- A level of a row whose keys exist is blank, or refers to a row that is found. -/
theorem find_of_keysExist {ρ : Type} [Keyed ρ] {t : Table ρ} {own : Option ℕ}
    (hown : ∀ id, own = some id → (t.find id).isSome) :
    (own = none ∧ own.bind t.find = none) ∨
      ∃ found, own = some (pk found) ∧ t.find (pk found) = some found := by
  cases own with
  | none => exact Or.inl ⟨rfl, rfl⟩
  | some id =>
      obtain ⟨found, -, rfl, hfound⟩ := Table.exists_mem_of_isSome (hown id rfl)
      exact Or.inr ⟨found, rfl, hfound⟩

/-- The closing comparisons pass if the row is nested. -/
theorem chainErrors_eq_nil_iff (hkeys : row.keysExist h) :
    row.chainErrors h errors = [] ↔ errors = [] ∧ row.Nested h := by
  have hexists := keysExist_iff.mp hkeys
  rw [nested_iff]
  unfold chainErrors
  -- every level is blank or refers to a row: then the checks that apply are the conditions
  obtain ⟨hroom, -⟩ | ⟨room, hroom, hfindRoom⟩ := find_of_keysExist (hexists .room) <;>
  obtain ⟨hrack, -⟩ | ⟨rack, hrack, hfindRack⟩ := find_of_keysExist (hexists .rack) <;>
  obtain ⟨hcenter, -⟩ | ⟨center, hcenter, hfindCenter⟩ :=
    find_of_keysExist (hexists .dataCenter) <;>
  cases horganization : row.organization <;>
  simp only [key] at hroom hrack hcenter <;>
  simp [*, ite_set_eq_nil_iff, and_assoc]

end Checks

/-! ### Accepted rows -/

section Clean

variable {db : Directory} {raw row : UserResourceAccess} {device : Device}

/-- A column of an accepted row: what was given, or else that of the device. -/
theorem key_eq_of_clean (hclean : raw.clean db = .ok row)
    (hdevice : raw.device.bind db.hierarchy.devices.find = some device) (level : Level) :
    row.key level = (raw.key level).or (device.key level) := by
  obtain ⟨role, -, -, rfl, -⟩ := clean_eq_ok_iff.mp hclean
  exact backfill_key hdevice _ level

/-- No check left an error on an accepted row. -/
theorem checks_of_clean (hclean : raw.clean db = .ok row) :
    row.Nested db.hierarchy ∧
      ∀ device, raw.device.bind db.hierarchy.devices.find = some device →
        ∀ level, (device.key level).isSome → row.key level = device.key level := by
  have hkeys := keysExist_of_clean hclean
  obtain ⟨role, -, -, rfl, herrors⟩ := clean_eq_ok_iff.mp hclean
  have hchain := not_imp_not.mp (fun hne => requiredErrors_ne_nil hne role.scope _) herrors
  obtain ⟨hbackfill, hnested⟩ := (chainErrors_eq_nil_iff hkeys).mp hchain
  refine ⟨hnested, fun device hdevice => ?_⟩
  exact ((backfill_eq_nil_iff hdevice).mp hbackfill).2

/-- **An accepted row names one chain of resources exactly if, where its device has no
resource, it was given none.** -/
theorem consistent_iff_blankBesides (hclean : raw.clean db = .ok row) :
    row.Consistent db.hierarchy ↔ raw.BlankBesides db.hierarchy := by
  obtain ⟨hnested, hmatches⟩ := checks_of_clean hclean
  have hsame : row.device = raw.device := (clean_unchanged hclean).2.2.1
  constructor
  · rintro ⟨hrow, -⟩ device hdevice level hnone
    obtain ⟨hmem, hown⟩ := selected_eq_some_iff.mp hdevice
    obtain ⟨other, hother, hpk, hkeys⟩ := hrow device.id (hsame.trans hown)
    obtain rfl := db.hierarchy.devices.eq_of_pk_eq hother hmem hpk
    have hkey := key_eq_of_clean hclean hdevice level
    rw [hkeys, hnone, Option.or_none] at hkey
    exact hkey.symm
  · refine fun hblank => ⟨fun id hid => ?_, hnested⟩
    obtain ⟨device, hmem, rfl, -⟩ := Table.exists_mem_of_isSome
      (exists_of_keysExist (keysExist_of_clean hclean) (show row.key .device = some id from hid))
    have hdevice := selected_eq_some_iff.mpr ⟨hmem, hsame.symm.trans hid⟩
    refine ⟨device, hmem, rfl, fun level => ?_⟩
    cases hkey : device.key level with
    | none =>
        -- the check skips the level, and the row keeps what it was given
        rw [key_eq_of_clean hclean hdevice, hblank device hdevice level hkey, hkey]
        rfl
    | some key =>
        rw [hmatches device hdevice level (by simp [hkey]), hkey]

end Clean

end UserResourceAccess

/-! ### A device without a room -/

/-- A data center with a room, and a device that stands in no room. -/
def unplacedDevice : Hierarchy :=
  .ofTables (.ofRows [⟨1⟩]) (.ofRows [⟨1, 1⟩]) (.ofRows [⟨1, 1⟩]) .empty
    (.ofRows [{ id := 1, organization := 1, dataCenter := 1, deviceType := 1, name := "Sensor" }])
    (.refl true)

/-- An access row with the device, and with the room. -/
def roomBesidesDevice : UserResourceAccess :=
  { id := 1, user := 1, room := some 1, device := some 1, role := 1 }

/-- The user, and a role for devices. -/
def unplacedDirectory : Directory :=
  .ofTables unplacedDevice (.ofRows [⟨1, false⟩]) (.ofRows [⟨1, .device⟩]) .empty .empty .empty
    (.refl true)

theorem clean_roomBesidesDevice :
    roomBesidesDevice.clean unplacedDirectory =
      .ok { roomBesidesDevice with organization := some 1, dataCenter := some 1 } := by
  decide

theorem consistent_iff_blankBesides_roomBesides :
    UserResourceAccess.Consistent unplacedDevice
        { roomBesidesDevice with organization := some 1, dataCenter := some 1 } ↔
      roomBesidesDevice.BlankBesides unplacedDevice :=
  UserResourceAccess.consistent_iff_blankBesides clean_roomBesidesDevice

/-- The row is accepted with its room, though its device is in none. -/
theorem roomBesidesDevice_not_consistent :
    ¬∀ (db : Directory) (raw row : UserResourceAccess),
      raw.clean db = .ok row → row.Consistent db.hierarchy := by
  intro hall
  obtain ⟨hmatches, -⟩ := hall _ _ _ clean_roomBesidesDevice
  obtain ⟨device, hdevice, -, hkeys⟩ := hmatches 1 rfl
  have hroom : ∀ device ∈ unplacedDevice.devices, device.room = none := by decide
  have hkey := hkeys .room
  rw [Device.key, hroom device hdevice] at hkey
  cases hkey

end DcimBackend
