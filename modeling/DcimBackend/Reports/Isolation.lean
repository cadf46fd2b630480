import DcimBackend.Library.Agreement
import DcimBackend.Reports.Builders

/-!
# Reports of one organization

A report is about the organization of its job.  `SameFor` says that two databases are the same as
far as one organization goes: they have the same rows of the organization, the same catalogue of
types, models and metrics, and the same accounts, and anything at all of other organizations.
`buildReport_isolated` is the isolation of the tenants: the reports of an organization are the
same in both, byte by byte, and a report fails in the one if and only if it fails in the other.

The rows of the organization have to refer to rows of the organization (`Contained`), which no
builder checks: an alert whose device belongs to another organization shows the name of the
device.  The text of a failure is left out: "Invalid device_id." and "device_id must belong to the
selected organization." tell whether a device exists elsewhere.

The proof goes through the builders as they are written.  `SameOnOwn` and `SameRows` are the two
relations between corresponding parts: conditions that agree on rows of the organization, and
lists that are equal and owned.  `Library.Agreement` composes them along the fallible steps of a
builder, so each builder needs one lemma, in the order of its own statements.
-/

namespace DcimBackend

open Library

namespace ReportDb

/-! ### What an organization owns -/

/-- The organization owns a resource. -/
def owns (db : ReportDb) (organization : OrganizationId) : Resource → Bool
  | ⟨.organization, id⟩ => id = organization
  | ⟨.dataCenter, id⟩ => db.ownsDataCenter organization id
  | ⟨.room, id⟩ =>
      (db.hierarchy.rooms.find id).any fun room => db.ownsDataCenter organization room.dataCenter
  | ⟨.rack, id⟩ =>
      (db.hierarchy.racks.find id).any fun rack => db.ownsDataCenter organization rack.dataCenter
  | ⟨.device, id⟩ =>
      (db.hierarchy.devices.find id).any fun device => device.organization = organization

/-- Two databases are the same as far as an organization goes. -/
structure SameFor (organization : OrganizationId) (db db' : ReportDb) : Prop where
  dataCenters : ∀ id,
    (db.hierarchy.dataCenters.find id).filter (fun row => row.organization = organization) =
      (db'.hierarchy.dataCenters.find id).filter fun row => row.organization = organization
  rooms : ∀ id,
    (db.hierarchy.rooms.find id).filter
        (fun room => db.ownsDataCenter organization room.dataCenter) =
      (db'.hierarchy.rooms.find id).filter
        fun room => db'.ownsDataCenter organization room.dataCenter
  racks : ∀ id,
    (db.hierarchy.racks.find id).filter
        (fun rack => db.ownsDataCenter organization rack.dataCenter) =
      (db'.hierarchy.racks.find id).filter
        fun rack => db'.ownsDataCenter organization rack.dataCenter
  devices : db.hierarchy.devices.select (fun device => device.organization = organization) =
    db'.hierarchy.devices.select fun device => device.organization = organization
  templates : ∀ id,
    (db.templates.find id).filter (fun template => template.organization = organization) =
      (db'.templates.find id).filter fun template => template.organization = organization
  name : ∀ r, db.owns organization r = true → db.name r = db'.name r
  roomCode : ∀ id, db.owns organization ⟨.room, id⟩ = true → db.roomCode id = db'.roomCode id
  deviceColumns : ∀ id, db.owns organization ⟨.device, id⟩ = true →
    db.deviceColumns id = db'.deviceColumns id
  alerts : db.alerts.select (fun alert => alert.organization = organization) =
    db'.alerts.select fun alert => alert.organization = organization
  notifications : db.notifications.select (fun row => row.organization = organization) =
    db'.notifications.select fun row => row.organization = organization
  auditLogs : db.auditLogs.select (fun log => log.organization = some organization) =
    db'.auditLogs.select fun log => log.organization = some organization
  points : db.points.filter (fun point => point.organization = organization) =
    db'.points.filter fun point => point.organization = organization
  deviceTypes : db.deviceTypes = db'.deviceTypes
  deviceModels : db.deviceModels = db'.deviceModels
  metrics : db.metrics = db'.metrics
  metricColumns : db.metricColumns = db'.metricColumns
  users : db.users = db'.users

/-- A device of the organization, with its place in the organization. -/
structure OwnDevice (db : ReportDb) (organization : OrganizationId) (device : Device) : Prop where
  mem : device ∈ db.hierarchy.devices
  organization_eq : device.organization = organization

/-- An alert of the organization, in a data center and on a device of it. -/
structure OwnAlert (db : ReportDb) (organization : OrganizationId) (alert : AlertEvent) : Prop where
  organization_eq : alert.organization = organization
  dataCenter : db.owns organization ⟨.dataCenter, alert.dataCenter⟩ = true
  device : db.owns organization ⟨.device, alert.device⟩ = true

/-- A point of the organization, likewise. -/
structure OwnPoint (db : ReportDb) (organization : OrganizationId) (point : ReportPoint) : Prop where
  organization_eq : point.organization = organization
  dataCenter : db.owns organization ⟨.dataCenter, point.dataCenter⟩ = true
  device : db.owns organization ⟨.device, point.device⟩ = true

/-- The rows of the organization refer to rows of the organization. -/
structure Contained (db : ReportDb) (organization : OrganizationId) : Prop where
  dataCenter : ∀ device, db.OwnDevice organization device →
    db.owns organization ⟨.dataCenter, device.dataCenter⟩ = true
  room : ∀ device, db.OwnDevice organization device → ∀ room, device.room = some room →
    db.owns organization ⟨.room, room⟩ = true
  rack : ∀ device, db.OwnDevice organization device → ∀ rack, device.rack = some rack →
    db.owns organization ⟨.rack, rack⟩ = true
  alert : ∀ alert ∈ db.alerts, alert.organization = organization → db.OwnAlert organization alert
  point : ∀ point ∈ db.points, point.organization = organization → db.OwnPoint organization point

/-- A job is on a data center and a template of its organization. -/
structure JobWithin (db : ReportDb) (job : ReportJob) : Prop where
  dataCenter : ∀ id, job.dataCenter = some id →
    db.owns job.organization ⟨.dataCenter, id⟩ = true
  template : ∀ id, job.template = some id →
    (db.templates.find id).any (fun template => template.organization = job.organization) = true

/-! ### Rows that are owned in both -/

section Rows

variable {ρ : Type} {x y : Option ρ} {p q : ρ → Bool}

/-- An owned row is found in both. -/
theorem eq_of_filter_eq (h : x.filter p = y.filter q) (hx : x.any p = true) : x = y := by
  cases x with
  | none => cases hx
  | some row =>
      rw [Option.any_some] at hx
      rw [Option.filter_some, if_pos hx] at h
      exact (Option.filter_eq_some_iff.mp h.symm).1.symm

theorem any_eq_of_filter_eq (h : x.filter p = y.filter q) : x.any p = y.any q := by
  have hany : ∀ (z : Option ρ) (r : ρ → Bool), z.any r = (z.filter r).isSome := by
    intro z r
    cases z with
    | none => rfl
    | some row => cases hrow : r row <;> simp [Option.filter, hrow]
  rw [hany, hany, h]

/-- A lookup that refuses a row that is not owned, as it refuses a missing one, agrees where the
owned rows are the same. -/
theorem agree_of_filter_eq {α β : Type} {R : α → β → Prop} {f : Option ρ → Except String α}
    {g : Option ρ → Except String β} (h : x.filter p = y.filter q)
    (hf : ∀ z, z.any p = false → ∃ e, f z = .error e)
    (hg : ∀ z, z.any q = false → ∃ e, g z = .error e)
    (hrow : ∀ row, p row = true → x = some row → y = some row → Agree R (f (some row)) (g (some row))) :
    Agree R (f x) (g y) := by
  cases hx : x.any p with
  | true =>
      obtain ⟨row, rfl, hp⟩ := (Option.any_eq_true p x).mp hx
      have hy := eq_of_filter_eq h hx
      rw [← hy]
      exact hrow row hp rfl hy.symm
  | false =>
      obtain ⟨d, hd⟩ := hf x hx
      obtain ⟨e, he⟩ := hg y ((any_eq_of_filter_eq h).symm.trans hx)
      rw [hd, he]
      exact .error

/-- Tables with the same owned rows have the same owned row under each key. -/
theorem filter_find_eq [Keyed ρ] {t t' : Table ρ} (h : t.select p = t'.select p) (id : ℕ) :
    (t.find id).filter p = (t'.find id).filter p := by
  have hiff : ∀ (table : Table ρ) (row : ρ), (table.find id).filter p = some row ↔
      row ∈ table.select p ∧ pk row = id := by
    intro table row
    rw [Option.filter_eq_some_iff, Table.find_eq_some_iff, Table.mem_select]
    tauto
  ext row
  rw [hiff, hiff, h]

/-- Two lists of rows are the same, and their rows are owned. -/
def SameRows (own : ρ → Prop) (qs qs' : List ρ) : Prop := qs = qs' ∧ ∀ row ∈ qs, own row

namespace SameRows

variable {own : ρ → Prop} {qs qs' : List ρ}

theorem filter {p p' : ρ → Bool} (h : SameRows own qs qs') (hp : ∀ row, own row → p row = p' row) :
    SameRows own (qs.filter p) (qs'.filter p') := by
  obtain ⟨rfl, hown⟩ := h
  exact ⟨List.filter_congr fun row hrow => hp row (hown row hrow),
    fun row hrow => hown row (List.mem_filter.mp hrow).1⟩

theorem amongValues {column column' : ρ → Option String} (h : SameRows own qs qs')
    (values : List String) (hcolumn : ∀ row, own row → column row = column' row) :
    SameRows own (amongValues values column qs) (DcimBackend.amongValues values column' qs') := by
  rw [amongValues_eq, amongValues_eq]
  exact h.filter fun row hrow => by rw [hcolumn row hrow]

theorem inRange (h : SameRows own qs qs') (range : Option DateTime × Option DateTime)
    (time : ρ → Instant) :
    SameRows own (inRange range time qs) (DcimBackend.inRange range time qs') :=
  (h.filter fun _ _ => rfl).filter fun _ _ => rfl

theorem inDataCenter (h : SameRows own qs qs') (dataCenter : Option DataCenter)
    (key : ρ → DataCenterId) :
    SameRows own (inDataCenter dataCenter key qs) (ReportDb.inDataCenter dataCenter key qs') :=
  h.filter fun _ _ => rfl

theorem mergeSort {le le' : ρ → ρ → Bool} (h : SameRows own qs qs')
    (hle : ∀ a b, own a → own b → le a b = le' a b) :
    SameRows own (qs.mergeSort le) (qs'.mergeSort le') := by
  obtain ⟨rfl, hown⟩ := h
  exact ⟨mergeSort_congr fun a ha b hb => hle a b (hown a ha) (hown b hb),
    fun row hrow => hown row ((List.mergeSort_perm _ _).mem_iff.mp hrow)⟩

theorem filterUnless {b : Prop} [Decidable b] {p : ρ → Bool} (h : SameRows own qs qs') :
    SameRows own (if b then qs else qs.filter p) (if b then qs' else qs'.filter p) := by
  split
  · exact h
  · exact h.filter fun _ _ => rfl

theorem map_eq {row row' : ρ → ReportRow} (h : SameRows own qs qs')
    (hrow : ∀ x, own x → row x = row' x) : qs.map row = qs'.map row' := by
  obtain ⟨rfl, hown⟩ := h
  exact List.map_congr_left fun x hx => hrow x (hown x hx)

theorem withText {env : ReportEnv} {parameters : Dict} {field : String}
    {own : DatedAuditLog → Prop} {column : DatedAuditLog → Option String}
    {qs qs' : List DatedAuditLog} (h : SameRows own qs qs') :
    SameRows own (withText env parameters field column qs)
      (ReportDb.withText env parameters field column qs') := by
  unfold ReportDb.withText
  split
  · exact h
  · exact h.filter fun _ _ => rfl

end SameRows

theorem agree_fromAddress {env : ReportEnv} {parameters : Dict} {own : DatedAuditLog → Prop}
    {qs qs' : List DatedAuditLog} (h : SameRows own qs qs') :
    Agree (SameRows own) (fromAddress env parameters qs) (fromAddress env parameters qs') := by
  unfold fromAddress
  split
  · exact .ok h
  · refine (Agree.refl (R := Eq) fun _ _ => rfl).bind ?_
    rintro equal _ rfl
    exact .ok (h.filter fun _ _ => rfl)

end Rows

section Same

variable {organization : OrganizationId} {db db' : ReportDb}

namespace SameFor

variable (h : SameFor organization db db')

include h

theorem filter_device (id : ℕ) :
    (db.hierarchy.devices.find id).filter (fun device => device.organization = organization) =
      (db'.hierarchy.devices.find id).filter fun device => device.organization = organization :=
  filter_find_eq h.devices id

theorem find_device {id : DeviceId} (howns : db.owns organization ⟨.device, id⟩ = true) :
    db.hierarchy.devices.find id = db'.hierarchy.devices.find id :=
  eq_of_filter_eq (h.filter_device id) howns

theorem metricCode (metric : Option MetricId) : db.metricCode metric = db'.metricCode metric := by
  unfold ReportDb.metricCode
  rw [h.metrics]

end SameFor

theorem OwnDevice.owns {device : Device} (h : db.OwnDevice organization device) :
    db.owns organization ⟨.device, device.id⟩ = true := by
  have hfind : db.hierarchy.devices.find device.id = some device := Table.find_pk h.mem
  show (db.hierarchy.devices.find device.id).any _ = true
  rw [hfind, Option.any_some, h.organization_eq]
  exact decide_eq_true rfl

/-- The device that an owned key names. -/
theorem exists_ownDevice {id : DeviceId} (howns : db.owns organization ⟨.device, id⟩ = true) :
    ∃ device, db.hierarchy.devices.find id = some device ∧ db.OwnDevice organization device := by
  obtain ⟨device, hfind, horganization⟩ := (Option.any_eq_true _ _).mp howns
  exact ⟨device, hfind, (Table.find_eq_some_iff.mp hfind).1, of_decide_eq_true horganization⟩

end Same

/-! ### Checks that agree -/

section Checks

variable {env : ReportEnv} {job : ReportJob} {db db' : ReportDb}

section

variable (h : SameFor job.organization db db') (hjob : db.JobWithin job)

include h hjob

theorem jobTemplate_eq : db.jobTemplate job = db'.jobTemplate job := by
  unfold jobTemplate
  cases htemplate : job.template with
  | none => rfl
  | some id =>
      dsimp only
      rw [eq_of_filter_eq (h.templates id) (hjob.template id htemplate)]

theorem getReportConfig_eq : db.getReportConfig job = db'.getReportConfig job := by
  unfold getReportConfig
  rw [jobTemplate_eq h hjob]

theorem resolveReportType_eq : db.resolveReportType env job = db'.resolveReportType env job := by
  unfold resolveReportType reportType
  rw [jobTemplate_eq h hjob]

theorem resolveOutputFormat_eq :
    db.resolveOutputFormat env job = db'.resolveOutputFormat env job := by
  unfold resolveOutputFormat
  rw [getReportConfig_eq h hjob]

theorem jobDataCenter_eq : db.jobDataCenter job = db'.jobDataCenter job := by
  unfold jobDataCenter
  cases hdataCenter : job.dataCenter with
  | none => rfl
  | some id =>
      dsimp only
      rw [eq_of_filter_eq (h.dataCenters id) (hjob.dataCenter id hdataCenter)]

/-- The data center that is selected.  Another organization's is refused, as is one that does not
exist. -/
theorem agree_resolveDataCenterScope (parameters : Dict) :
    Agree Eq (db.resolveDataCenterScope env job parameters)
      (db'.resolveDataCenterScope env job parameters) := by
  unfold resolveDataCenterScope
  rw [jobDataCenter_eq h hjob]
  refine (Agree.refl fun _ _ => rfl).bind ?_
  rintro jobDataCenter _ rfl
  split
  · exact Agree.of_eq rfl
  · refine (Agree.refl fun _ _ => rfl).bind ?_
    rintro id _ rfl
    have hrefused : ∀ z : Option DataCenter,
        z.any (fun row => row.organization = job.organization) = false →
        ∃ e, checkDataCenter job jobDataCenter z = .error e := by
      intro z hz
      cases z with
      | none => exact ⟨_, rfl⟩
      | some dataCenter =>
          have hne : dataCenter.organization ≠ job.organization := by simpa using hz
          refine ⟨"data_center_id must belong to the selected organization.", ?_⟩
          unfold checkDataCenter
          dsimp only
          rw [if_pos hne]
          rfl
    exact agree_of_filter_eq (h.dataCenters id) hrefused hrefused fun _ _ _ _ => Agree.of_eq rfl

end

/-- A row that is looked up by a parameter. -/
theorem agree_resolveOwned {ρ : Type} {find find' : ℕ → Option ρ} {owned owned' : ρ → Bool}
    (hfind : ∀ id, (find id).filter owned = (find' id).filter owned') (field : String)
    (value : Json) :
    Agree (fun row row' => row = row' ∧ ∃ id, find id = some row ∧ owned row = true)
      (resolveOwned env find owned field value) (resolveOwned env find' owned' field value) := by
  unfold resolveOwned
  refine (Agree.refl (R := Eq) fun _ _ => rfl).bind ?_
  rintro id _ rfl
  have hrefused : ∀ (p : ρ → Bool) (z : Option ρ), z.any p = false →
      ∃ e, ownedRow p field z = .error e := by
    intro p z hz
    cases z with
    | none => exact ⟨_, rfl⟩
    | some row =>
        rw [Option.any_some] at hz
        exact ⟨_, by rw [ownedRow, hz]; rfl⟩
  refine agree_of_filter_eq (hfind id) (hrefused owned) (hrefused owned')
    fun row hrow hx hy => ?_
  have hrow' : owned' row = true := by
    have hfilter := hfind id
    rw [hx, hy, Option.filter_some, if_pos hrow] at hfilter
    exact (Option.filter_eq_some_iff.mp hfilter.symm).2
  rw [ownedRow, ownedRow, if_pos hrow, if_pos hrow']
  exact .ok ⟨rfl, id, hx, hrow⟩

/-- Two conditions are the same on the devices of the organization. -/
def SameOnOwn (db : ReportDb) (organization : OrganizationId) (c c' : Device → Bool) : Prop :=
  ∀ device, db.OwnDevice organization device → c device = c' device

/-- A condition that a parameter asks for. -/
theorem agree_conditionOf {ρ : Type} (own : ρ → Prop) {parameters : Dict}
    {dataCenter : Option DataCenter} {field : String} {resolve resolve' : Json → Except String ρ}
    {place : ρ → Option DataCenterId} {holds holds' : ρ → Device → Bool}
    (hresolve : ∀ value, Agree (fun row row' => row = row' ∧ own row) (resolve value) (resolve' value))
    (hholds : ∀ row, own row → SameOnOwn db job.organization (holds row) (holds' row)) :
    Agree (SameOnOwn db job.organization)
      (conditionOf parameters dataCenter field resolve place holds)
      (conditionOf parameters dataCenter field resolve' place holds') := by
  unfold conditionOf
  split
  · exact .ok fun _ _ => rfl
  · refine (hresolve _).bind ?_
    rintro row _ ⟨rfl, hown⟩
    split
    · exact .error
    · exact .ok (hholds row hown)

section Conditions

variable (h : SameFor job.organization db db') (parameters : Dict) (dataCenter : Option DataCenter)

include h

theorem agree_deviceCondition : Agree (SameOnOwn db job.organization)
    (db.deviceCondition env job parameters dataCenter)
    (db'.deviceCondition env job parameters dataCenter) := by
  refine agree_conditionOf (fun _ => True) (fun value => ?_) fun _ _ _ _ => rfl
  exact (agree_resolveOwned h.filter_device _ _).mono fun _ _ hrow => ⟨hrow.1, trivial⟩

/-- The organization has a device with a property in both. -/
theorem any_ownDevice_eq {p p' : Device → Bool}
    (hp : SameOnOwn db job.organization p p') :
    (db.hierarchy.devices.rows.any fun device =>
        device.organization = job.organization && p device) =
      db'.hierarchy.devices.rows.any fun device =>
        device.organization = job.organization && p' device := by
  have hdevices := h.devices
  unfold Table.select at hdevices
  rw [← List.any_filter, ← List.any_filter, ← hdevices, Bool.eq_iff_iff, List.any_eq_true,
    List.any_eq_true]
  refine exists_congr fun device => and_congr_right fun hdevice => ?_
  obtain ⟨hmem, horganization⟩ := List.mem_filter.mp hdevice
  rw [hp device ⟨hmem, of_decide_eq_true horganization⟩]

theorem agree_deviceModelCondition : Agree (SameOnOwn db job.organization)
    (db.deviceModelCondition env job parameters dataCenter)
    (db'.deviceModelCondition env job parameters dataCenter) := by
  have hmodel : ∀ deviceModel : DeviceModel, SameOnOwn db job.organization
      (fun device => (db.deviceColumns device.id).deviceModel = some deviceModel.id)
      fun device => (db'.deviceColumns device.id).deviceModel = some deviceModel.id := by
    intro deviceModel device hdevice
    dsimp only
    rw [h.deviceColumns device.id hdevice.owns]
  refine agree_conditionOf (fun _ => True) (fun value => ?_)
    fun deviceModel _ => hmodel deviceModel
  refine (agree_resolveOwned (fun id => ?_) _ _).mono fun _ _ hrow => ⟨hrow.1, trivial⟩
  rw [h.deviceModels]
  congr
  funext deviceModel
  exact any_ownDevice_eq h (hmodel deviceModel)

theorem agree_deviceTypeCondition : Agree (SameOnOwn db job.organization)
    (db.deviceTypeCondition env job parameters dataCenter)
    (db'.deviceTypeCondition env job parameters dataCenter) := by
  refine agree_conditionOf (fun _ => True) (fun value => ?_) fun _ _ _ _ => rfl
  refine (agree_resolveOwned (fun id => ?_) _ _).mono fun _ _ hrow => ⟨hrow.1, trivial⟩
  rw [h.deviceTypes]
  congr
  funext deviceType
  exact any_ownDevice_eq h fun _ _ => rfl

theorem agree_roomCondition : Agree (SameOnOwn db job.organization)
    (db.roomCondition env job parameters dataCenter)
    (db'.roomCondition env job parameters dataCenter) := by
  refine agree_conditionOf (fun _ => True) (fun value => ?_) fun _ _ _ _ => rfl
  exact (agree_resolveOwned h.rooms _ _).mono fun _ _ hrow => ⟨hrow.1, trivial⟩

theorem agree_rackCondition : Agree (SameOnOwn db job.organization)
    (db.rackCondition env job parameters dataCenter)
    (db'.rackCondition env job parameters dataCenter) := by
  refine agree_conditionOf (fun _ => True) (fun value => ?_) fun _ _ _ _ => rfl
  exact (agree_resolveOwned h.racks _ _).mono fun _ _ hrow => ⟨hrow.1, trivial⟩

theorem agree_deviceConditions : Agree (SameOnOwn db job.organization)
    (db.deviceConditions env job parameters dataCenter)
    (db'.deviceConditions env job parameters dataCenter) := by
  unfold deviceConditions
  refine (agree_deviceCondition h parameters dataCenter).bind fun onDevice onDevice' hdevice => ?_
  refine (agree_deviceModelCondition h parameters dataCenter).bind fun onModel onModel' hmodel => ?_
  refine (agree_deviceTypeCondition h parameters dataCenter).bind fun onType onType' htype => ?_
  refine (agree_roomCondition h parameters dataCenter).bind fun inRoom inRoom' hroom => ?_
  refine (agree_rackCondition h parameters dataCenter).bind fun inRack inRack' hrack => ?_
  refine .ok fun device hown => ?_
  rw [hdevice device hown, hmodel device hown, htype device hown, hroom device hown,
    hrack device hown]

/-- A condition on the device of a row of the organization. -/
theorem onDevice_eq {condition condition' : Device → Bool}
    (hcondition : SameOnOwn db job.organization condition condition') {id : DeviceId}
    (howns : db.owns job.organization ⟨.device, id⟩ = true) :
    db.onDevice condition id = db'.onDevice condition' id := by
  obtain ⟨device, hfind, hown⟩ := exists_ownDevice howns
  unfold onDevice
  rw [← h.find_device howns, hfind, Option.any_some, Option.any_some, hcondition device hown]

end Conditions

end Checks

/-! ### Cells that agree -/

section Cells

variable {env : ReportEnv} {organization : OrganizationId} {db db' : ReportDb}
  (h : SameFor organization db db') (hwithin : db.Contained organization)

include hwithin in
/-- The room of an owned device is owned, … -/
theorem owns_room {id : DeviceId} (howns : db.owns organization ⟨.device, id⟩ = true) :
    ∀ room, (db.hierarchy.devices.find id).bind Device.room = some room →
      db.owns organization ⟨.room, room⟩ = true := by
  obtain ⟨device, hfind, hown⟩ := exists_ownDevice howns
  rw [hfind]
  exact hwithin.room device hown

include hwithin in
/-- … and so is its rack. -/
theorem owns_rack {id : DeviceId} (howns : db.owns organization ⟨.device, id⟩ = true) :
    ∀ rack, (db.hierarchy.devices.find id).bind Device.rack = some rack →
      db.owns organization ⟨.rack, rack⟩ = true := by
  obtain ⟨device, hfind, hown⟩ := exists_ownDevice howns
  rw [hfind]
  exact hwithin.rack device hown

include h

theorem resourceName_eq {level : Level} {id : Option ℕ}
    (howns : ∀ key, id = some key → db.owns organization ⟨level, key⟩ = true) :
    db.resourceName level id = db'.resourceName level id := by
  unfold resourceName
  cases id with
  | none => rfl
  | some key => rw [Option.map_some, Option.map_some, h.name _ (howns key rfl)]

theorem deviceModelName_eq {id : DeviceId} (howns : db.owns organization ⟨.device, id⟩ = true) :
    db.deviceModelName id = db'.deviceModelName id := by
  unfold deviceModelName
  rw [h.deviceColumns id howns, h.deviceModels]

theorem userLabel_eq (id : Option UserId) : db.userLabel env id = db'.userLabel env id := by
  unfold userLabel
  rw [h.users]

theorem auditRow_eq (log : DatedAuditLog) (hown : log.organization = some organization) :
    db.auditRow env log = db'.auditRow env log := by
  unfold auditRow
  rw [userLabel_eq h, resourceName_eq h fun key hkey => ?_]
  rw [hown] at hkey
  exact decide_eq_true (Option.some.inj hkey).symm

include hwithin

theorem alertRow_eq (alert : AlertEvent) (hown : db.OwnAlert organization alert) :
    db.alertRow env alert = db'.alertRow env alert := by
  unfold alertRow
  dsimp only
  rw [h.name ⟨.organization, alert.organization⟩ (decide_eq_true hown.organization_eq),
    h.name _ hown.dataCenter,
    resourceName_eq h (owns_room hwithin hown.device),
    resourceName_eq h (owns_rack hwithin hown.device),
    deviceModelName_eq h hown.device, h.metricCode, userLabel_eq h, userLabel_eq h,
    h.find_device hown.device]

theorem deviceRow_eq (device : Device) (hown : db.OwnDevice organization device) :
    db.deviceRow env device = db'.deviceRow env device := by
  unfold deviceRow
  dsimp only
  rw [h.name ⟨.organization, device.organization⟩ (decide_eq_true hown.organization_eq),
    h.name _ (hwithin.dataCenter device hown),
    resourceName_eq h (hwithin.room device hown),
    resourceName_eq h (hwithin.rack device hown),
    deviceModelName_eq h hown.owns, h.deviceColumns _ hown.owns, h.deviceTypes, h.deviceModels]

theorem telemetryExportRow_eq (point : ReportPoint) (hown : db.OwnPoint organization point) :
    db.telemetryExportRow env point = db'.telemetryExportRow env point := by
  unfold telemetryExportRow pointMetric
  dsimp only
  rw [h.name ⟨.organization, point.organization⟩ (decide_eq_true hown.organization_eq),
    h.name _ hown.dataCenter,
    resourceName_eq h (owns_room hwithin hown.device),
    resourceName_eq h (owns_rack hwithin hown.device),
    deviceModelName_eq h hown.device, h.metrics, h.metricColumns, h.deviceTypes,
    h.find_device hown.device]

/-- The name of the room of an owned device. -/
theorem roomName_eq {id : DeviceId} (howns : db.owns organization ⟨.device, id⟩ = true) :
    (((db.hierarchy.devices.find id).bind Device.room).map fun room => db.name ⟨.room, room⟩) =
      ((db'.hierarchy.devices.find id).bind Device.room).map fun room => db'.name ⟨.room, room⟩ := by
  rw [← h.find_device howns]
  refine Option.map_congr fun room hroom => ?_
  exact h.name _ (owns_room hwithin howns room hroom)

theorem roomEnvironmentRow_eq (point : ReportPoint) (hown : db.OwnPoint organization point) :
    db.roomEnvironmentRow env point = db'.roomEnvironmentRow env point := by
  have hcode : ((db.hierarchy.devices.find point.device).bind Device.room).map db.roomCode =
      ((db'.hierarchy.devices.find point.device).bind Device.room).map db'.roomCode := by
    rw [← h.find_device hown.device]
    refine Option.map_congr fun room hroom => ?_
    exact h.roomCode _ (owns_room hwithin hown.device room hroom)
  unfold roomEnvironmentRow pointMetric
  dsimp only
  rw [roomName_eq h hwithin hown.device, hcode, h.find_device hown.device,
    h.deviceColumns _ hown.device, h.metrics, h.metricColumns]

omit hwithin in
theorem deviceName_eq {point : ReportPoint} (hown : db.OwnPoint organization point) :
    (db.hierarchy.devices.find point.device).map Device.name =
      (db'.hierarchy.devices.find point.device).map Device.name := by
  rw [h.find_device hown.device]

omit hwithin in
theorem pointCode_eq :
    (fun point => (db.pointMetric point).map MetricDefinition.code) =
      fun point => (db'.pointMetric point).map MetricDefinition.code := by
  unfold pointMetric
  rw [h.metrics]

end Cells

/-! ### Builders that agree -/

section Builders

variable {env : ReportEnv} {job : ReportJob} {db db' : ReportDb}
  (h : SameFor job.organization db db') (hwithin : db.Contained job.organization)
  (hjob : db.JobWithin job)

include h

theorem agree_ofUser {ρ : Type} {own : ρ → Prop} {qs qs' : List ρ} (field : String)
    (user : ρ → Option UserId) (hqs : SameRows own qs qs') {parameters : Dict} :
    Agree (SameRows own) (db.ofUser env parameters field user qs)
      (db'.ofUser env parameters field user qs') := by
  unfold ofUser
  rw [h.users]
  split
  · exact .ok hqs
  · refine (Agree.refl (R := Eq) fun _ _ => rfl).bind ?_
    rintro id _ rfl
    split
    · exact .error
    · exact .ok (hqs.filter fun _ _ => rfl)

section

include hjob

theorem agree_inventoriedDevices : Agree (SameRows (db.OwnDevice job.organization))
    (db.inventoriedDevices env job) (db'.inventoriedDevices env job) := by
  have hdevices : SameRows (db.OwnDevice job.organization)
      (db.hierarchy.devices.select fun device => device.organization = job.organization)
      (db'.hierarchy.devices.select fun device => device.organization = job.organization) := by
    refine ⟨h.devices, fun device hdevice => ?_⟩
    obtain ⟨hmem, horganization⟩ := Table.mem_select.mp hdevice
    exact ⟨hmem, of_decide_eq_true horganization⟩
  have hcolumns : ∀ device, db.OwnDevice job.organization device →
      db.deviceColumns device.id = db'.deviceColumns device.id :=
    fun device hown => h.deviceColumns _ hown.owns
  unfold inventoriedDevices
  refine (agree_resolveDataCenterScope h hjob _).bind ?_
  rintro dataCenter _ rfl
  refine (agree_roomCondition h _ dataCenter).bind fun inRoom inRoom' hroom => ?_
  refine (agree_rackCondition h _ dataCenter).bind fun inRack inRack' hrack => ?_
  refine (agree_deviceCondition h _ dataCenter).bind fun onDevice onDevice' hdevice => ?_
  refine (agree_deviceModelCondition h _ dataCenter).bind fun onModel onModel' hmodel => ?_
  refine (agree_deviceTypeCondition h _ dataCenter).bind fun onType onType' htype => ?_
  refine (Agree.refl (R := Eq) fun _ _ => rfl).bind ?_
  rintro statuses _ rfl
  refine (Agree.refl (R := Eq) fun _ _ => rfl).bind ?_
  rintro isActive _ rfl
  refine .ok (SameRows.mergeSort ?_ fun a b ha hb => ?_)
  · refine SameRows.filter ?_ fun device hown => by rw [hcolumns device hown]
    refine SameRows.amongValues ?_ statuses fun device hown => by rw [hcolumns device hown]
    refine (hdevices.inDataCenter dataCenter _).filter fun device hown => ?_
    rw [hroom device hown, hrack device hown, hdevice device hown, hmodel device hown,
      htype device hown]
  · have hcode : ∀ device, db.OwnDevice job.organization device →
        (db.deviceColumns device.id).code = (db'.deviceColumns device.id).code :=
      fun device hown => by rw [hcolumns device hown]
    exact orderBy_congr rfl rfl (orderBy_congr (hcode a ha) (hcode b hb) rfl)

theorem agree_countedNotifications :
    Agree Eq (db.countedNotifications env job) (db'.countedNotifications env job) := by
  unfold countedNotifications inJobDataCenter ofUser
  rw [getReportConfig_eq h hjob, h.notifications, h.alerts, h.users]
  refine (Agree.refl (R := Eq) fun _ _ => rfl).bind ?_
  rintro range _ rfl
  refine (Agree.refl (R := Eq) fun _ _ => rfl).bind ?_
  rintro templateConfig _ rfl
  refine (Agree.refl (R := Eq) fun _ _ => rfl).bind fun _ _ _ => ?_
  refine (Agree.refl (R := Eq) fun _ _ => rfl).bind ?_
  rintro qs _ rfl
  refine (Agree.refl (R := Eq) fun _ _ => rfl).bind ?_
  rintro channels _ rfl
  refine (Agree.refl (R := Eq) fun _ _ => rfl).bind ?_
  rintro statuses _ rfl
  unfold aboutDevice
  split
  · exact .ok rfl
  · refine (agree_resolveOwned h.filter_device _ _).bind ?_
    rintro device _ ⟨rfl, -⟩
    exact .ok rfl

theorem agree_exportedAuditLogs :
    Agree (SameRows fun log => log.organization = some job.organization)
      (db.exportedAuditLogs env job) (db'.exportedAuditLogs env job) := by
  have hlogs : SameRows (fun log => log.organization = some job.organization)
      (db.auditLogs.select fun log => log.organization = some job.organization)
      (db'.auditLogs.select fun log => log.organization = some job.organization) :=
    ⟨h.auditLogs, fun log hlog => of_decide_eq_true (Table.mem_select.mp hlog).2⟩
  unfold exportedAuditLogs
  refine (Agree.of_eq (getReportConfig_eq h hjob)).bind ?_
  rintro templateConfig _ rfl
  refine (Agree.refl (R := Eq) fun _ _ => rfl).bind ?_
  rintro range _ rfl
  refine (Agree.refl (R := Eq) fun _ _ => rfl).bind fun _ _ _ => ?_
  refine (agree_ofUser h _ _ (hlogs.inRange range _)).bind fun qs qs' hqs => ?_
  refine (Agree.refl (R := Eq) fun _ _ => rfl).bind ?_
  rintro actions _ rfl
  refine (agree_fromAddress ?_).bind fun qs qs' hqs => .ok (hqs.mergeSort fun _ _ _ _ => rfl)
  exact ((hqs.amongValues actions fun _ _ => rfl).withText).withText

end
include hwithin

theorem sameRows_alerts : SameRows (db.OwnAlert job.organization)
    (db.alerts.select fun alert => alert.organization = job.organization)
    (db'.alerts.select fun alert => alert.organization = job.organization) := by
  refine ⟨h.alerts, fun alert halert => ?_⟩
  obtain ⟨hmem, horganization⟩ := Table.mem_select.mp halert
  exact hwithin.alert alert hmem (of_decide_eq_true horganization)

/-- The points of some metrics. -/
theorem sameRows_points (p : ReportPoint → Bool) : SameRows (db.OwnPoint job.organization)
    (db.points.filter fun point => point.organization = job.organization && p point)
    (db'.points.filter fun point => point.organization = job.organization && p point) := by
  have hsplit : ∀ points : List ReportPoint,
      (points.filter fun point => point.organization = job.organization && p point) =
        (points.filter fun point => point.organization = job.organization).filter p := by
    intro points
    rw [List.filter_filter]
    exact List.filter_congr fun point _ => Bool.and_comm _ _
  rw [hsplit, hsplit]
  refine SameRows.filter ⟨h.points, fun point hpoint => ?_⟩ fun _ _ => rfl
  obtain ⟨hmem, horganization⟩ := List.mem_filter.mp hpoint
  exact hwithin.point point hmem (of_decide_eq_true horganization)

include hjob

theorem agree_summarizedAlerts : Agree (SameRows (db.OwnAlert job.organization))
    (db.summarizedAlerts env job) (db'.summarizedAlerts env job) := by
  unfold summarizedAlerts
  refine (Agree.of_eq (getReportConfig_eq h hjob)).bind ?_
  rintro templateConfig _ rfl
  refine (Agree.refl (R := Eq) fun _ _ => rfl).bind ?_
  rintro range _ rfl
  refine (Agree.refl (R := Eq) fun _ _ => rfl).bind fun _ _ _ => ?_
  refine (agree_resolveDataCenterScope h hjob _).bind ?_
  rintro dataCenter _ rfl
  refine (Agree.refl (R := Eq) fun _ _ => rfl).bind ?_
  rintro metricCodes _ rfl
  refine (Agree.refl (R := Eq) fun _ _ => rfl).bind ?_
  rintro severities _ rfl
  refine (Agree.refl (R := Eq) fun _ _ => rfl).bind ?_
  rintro statuses _ rfl
  refine (agree_deviceConditions h _ dataCenter).bind fun condition condition' hcondition => ?_
  refine .ok (SameRows.filter ?_ fun alert hown => onDevice_eq h hcondition hown.device)
  refine SameRows.amongValues ?_ statuses fun _ _ => rfl
  refine SameRows.amongValues ?_ severities fun _ _ => rfl
  refine SameRows.amongValues ?_ metricCodes fun alert _ => h.metricCode alert.metric
  exact ((sameRows_alerts h hwithin).inDataCenter dataCenter _).inRange range _

theorem agree_exportedAlerts : Agree (SameRows (db.OwnAlert job.organization))
    (db.exportedAlerts env job) (db'.exportedAlerts env job) := by
  unfold exportedAlerts
  refine (Agree.of_eq (getReportConfig_eq h hjob)).bind ?_
  rintro templateConfig _ rfl
  refine (Agree.refl (R := Eq) fun _ _ => rfl).bind ?_
  rintro range _ rfl
  refine (Agree.refl (R := Eq) fun _ _ => rfl).bind fun _ _ _ => ?_
  refine (agree_resolveDataCenterScope h hjob _).bind ?_
  rintro dataCenter _ rfl
  refine (agree_deviceConditions h _ dataCenter).bind fun condition condition' hcondition => ?_
  refine (Agree.refl (R := Eq) fun _ _ => rfl).bind ?_
  rintro metricCodes _ rfl
  refine (Agree.refl (R := Eq) fun _ _ => rfl).bind ?_
  rintro severities _ rfl
  refine (Agree.refl (R := Eq) fun _ _ => rfl).bind ?_
  rintro statuses _ rfl
  refine .ok (SameRows.mergeSort (SameRows.filterUnless ?_) fun _ _ _ _ => rfl)
  refine SameRows.amongValues ?_ statuses fun _ _ => rfl
  refine SameRows.amongValues ?_ severities fun _ _ => rfl
  refine SameRows.amongValues ?_ metricCodes fun alert _ => h.metricCode alert.metric
  refine SameRows.filter ?_ fun alert hown => onDevice_eq h hcondition hown.device
  exact ((sameRows_alerts h hwithin).inDataCenter dataCenter _).inRange range _

theorem agree_exportedPoints : Agree (SameRows (db.OwnPoint job.organization))
    (db.exportedPoints env job) (db'.exportedPoints env job) := by
  unfold exportedPoints
  refine (Agree.of_eq (getReportConfig_eq h hjob)).bind ?_
  rintro templateConfig _ rfl
  refine (Agree.refl (R := Eq) fun _ _ => rfl).bind ?_
  rintro range _ rfl
  refine (Agree.refl (R := Eq) fun _ _ => rfl).bind fun _ _ _ => ?_
  refine (Agree.refl (R := Eq) fun _ _ => rfl).bind ?_
  rintro metricCodes _ rfl
  rw [h.metrics]
  refine (Agree.refl (R := Eq) fun _ _ => rfl).bind ?_
  rintro metrics _ rfl
  refine (agree_resolveDataCenterScope h hjob _).bind ?_
  rintro dataCenter _ rfl
  refine (agree_deviceConditions h _ dataCenter).bind fun condition condition' hcondition => ?_
  refine .ok (SameRows.mergeSort ?_ fun a b ha hb => ?_)
  · refine SameRows.filter ?_ fun point hown => onDevice_eq h hcondition hown.device
    exact ((sameRows_points h hwithin _).inDataCenter dataCenter _).inRange range _
  · exact orderBy_congr rfl rfl
      (orderBy_congr (deviceName_eq h ha) (deviceName_eq h hb) (by rw [pointCode_eq h]))

theorem agree_roomEnvironmentPoints : Agree (SameRows (db.OwnPoint job.organization))
    (db.roomEnvironmentPoints env job) (db'.roomEnvironmentPoints env job) := by
  unfold roomEnvironmentPoints roomEnvironmentCodes
  rw [jobTemplate_eq h hjob, h.metrics, h.metricColumns]
  refine (Agree.refl (R := Eq) fun _ _ => rfl).bind ?_
  rintro metricCodes _ rfl
  dsimp only
  split
  · exact .ok ⟨rfl, by simp⟩
  · unfold DateParser.applyDateRange
    refine Agree.bind (R := SameRows (db.OwnPoint job.organization)) ?_ fun qs qs' hqs => ?_
    · refine (Agree.refl (R := Eq) fun _ _ => rfl).bind ?_
      rintro range _ rfl
      exact .ok (((sameRows_points h hwithin _).filter fun _ _ => rfl).inRange range _)
    · refine .ok (hqs.mergeSort fun a b ha hb => ?_)
      exact orderBy_congr (roomName_eq h hwithin ha.device) (roomName_eq h hwithin hb.device)
        (orderBy_congr (deviceName_eq h ha) (deviceName_eq h hb)
          (orderBy_congr rfl rfl (by rw [pointCode_eq h])))

/-- The rows of a report, in either database. -/
theorem agree_reportRows (reportType : String) :
    Agree Eq (db.reportRows env job reportType) (db'.reportRows env job reportType) := by
  unfold reportRows
  split
  · refine (agree_summarizedAlerts h hwithin hjob).bind ?_
    rintro qs _ ⟨rfl, -⟩
    exact .ok rfl
  split
  · refine (agree_countedNotifications h hjob).bind ?_
    rintro qs _ rfl
    exact .ok rfl
  split
  · refine (agree_inventoriedDevices h hjob).bind fun qs qs' hqs => .ok ?_
    exact congrArg _ (hqs.map_eq fun device => deviceRow_eq h hwithin device)
  split
  · refine (agree_exportedAlerts h hwithin hjob).bind fun qs qs' hqs => .ok ?_
    exact congrArg _ (hqs.map_eq fun alert => alertRow_eq h hwithin alert)
  split
  · refine (agree_exportedAuditLogs h hjob).bind fun qs qs' hqs => .ok ?_
    exact congrArg _ (hqs.map_eq fun log => auditRow_eq h log)
  split
  · refine (agree_exportedPoints h hwithin hjob).bind fun qs qs' hqs => .ok ?_
    exact congrArg _ (hqs.map_eq fun point => telemetryExportRow_eq h hwithin point)
  split
  · refine (agree_roomEnvironmentPoints h hwithin hjob).bind fun qs qs' hqs => .ok ?_
    exact congrArg _ (hqs.map_eq fun point => roomEnvironmentRow_eq h hwithin point)
  · exact .error

/-- **Reports are isolated**: a job of an organization has the same report in two databases that
are the same as far as the organization goes, or fails in both. -/
theorem buildReport_isolated :
    (db.buildReport env job).toOption = (db'.buildReport env job).toOption := by
  refine Agree.toOption_eq ?_
  unfold buildReport
  refine (Agree.of_eq (resolveReportType_eq h hjob)).bind ?_
  rintro reportType _ rfl
  refine (Agree.of_eq (resolveOutputFormat_eq h hjob)).bind fun _ _ _ => ?_
  refine (agree_reportRows h hwithin hjob reportType).bind ?_
  rintro report _ rfl
  exact .ok rfl

end Builders

/-! ### One bank of two -/

/-- The database of two banks, in which the second has another name and no alert. -/
def quietBankReportDb : ReportDb :=
  { bankReportDb with
    name := fun r => if r = ⟨.organization, 2⟩ then "Second" else ""
    alerts := bankAlerts.filter fun alert => alert.organization = 1
    alert_device := by decide }

theorem sameFor_quietBankReportDb : SameFor 1 bankReportDb quietBankReportDb where
  dataCenters _ := rfl
  rooms _ := rfl
  racks _ := rfl
  devices := rfl
  templates _ := rfl
  name r howns := by
    refine (if_neg fun hr => ?_).symm
    rw [hr] at howns
    exact absurd howns (by decide)
  roomCode _ _ := rfl
  deviceColumns _ _ := rfl
  alerts := rfl
  notifications := rfl
  auditLogs := rfl
  points := rfl
  deviceTypes := rfl
  deviceModels := rfl
  metrics := rfl
  metricColumns := rfl
  users := rfl

theorem contained_bankReportDb : bankReportDb.Contained 1 where
  dataCenter device hown := by
    have hall : ∀ device ∈ bankDevices.devices.rows, device.organization = 1 →
        bankReportDb.owns 1 ⟨.dataCenter, device.dataCenter⟩ = true := by decide
    exact hall device hown.mem hown.organization_eq
  room device hown room hroom := by
    have hall : ∀ device ∈ bankDevices.devices.rows, device.room = none := by decide
    rw [hall device hown.mem] at hroom
    cases hroom
  rack device hown rack hrack := by
    have hall : ∀ device ∈ bankDevices.devices.rows, device.rack = none := by decide
    rw [hall device hown.mem] at hrack
    cases hrack
  alert alert halert horganization := by
    have hall : ∀ alert ∈ bankAlerts.rows, alert.organization = 1 →
        bankReportDb.owns 1 ⟨.dataCenter, alert.dataCenter⟩ = true ∧
          bankReportDb.owns 1 ⟨.device, alert.device⟩ = true := by decide
    obtain ⟨hdataCenter, hdevice⟩ := hall alert halert horganization
    exact ⟨horganization, hdataCenter, hdevice⟩
  point _ hpoint := by cases hpoint

theorem buildReport_isolated_bankReportDb :
    (bankReportDb.buildReport asciiReports bankAlertsJob).isOk = true ∧
      (bankReportDb.buildReport asciiReports bankAlertsJob).toOption =
        (quietBankReportDb.buildReport asciiReports bankAlertsJob).toOption :=
  ⟨rfl, buildReport_isolated sameFor_quietBankReportDb contained_bankReportDb ⟨nofun, nofun⟩⟩

end ReportDb

end DcimBackend
