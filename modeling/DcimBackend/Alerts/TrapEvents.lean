import DcimBackend.Alerts.Lifecycle

/-!
# Trap alerts by event

The traps of one device, one after another, with acknowledgements in between.  A trap is
meant to update the active alert of its OID and event code, and to open one only where
there is none.  The lookup selects by the OID alone and takes the newest alert that it
finds; the event code is compared afterwards.  So an alert behind a newer one of the same
OID is out of sight, and another trap of its event opens a second one.

`trapsUnique_run_iff` says when that happens: in a run, an event has at most one active
alert in every state if and only if no trap of the run is a duplicate.

A trap is `create_or_update_trap_alert` with a payload that the receiver has made.  The newest
alert is the one with the latest `triggered_at`, and of several the one that was created last
(`latestAlert`).  A trap is one step: the lookup locks the row that it finds.
-/

namespace DcimBackend

open Library

/-- The alert is about an event of a device. -/
def AlertEvent.Reports (alert : AlertEvent) (device : DeviceId) (trapOid eventCode : String) :
    Prop :=
  alert.device = device ∧ Dict.hasText alert.metadata "trap_oid" trapOid ∧
    Dict.hasText alert.metadata "trap_event_code" eventCode

instance (alert : AlertEvent) (device : DeviceId) (trapOid eventCode : String) :
    Decidable (alert.Reports device trapOid eventCode) :=
  inferInstanceAs (Decidable (_ ∧ _))

/-- The alert is stored where its device is, and has no metric and no rule. -/
structure AlertEvent.AtHome (alert : AlertEvent) (device : Device) : Prop where
  organization : alert.organization = device.organization
  dataCenter : alert.dataCenter = device.dataCenter
  metric : alert.metric = none
  alertRule : alert.alertRule = none

instance (alert : AlertEvent) (device : Device) : Decidable (alert.AtHome device) :=
  decidable_of_iff (alert.organization = device.organization ∧
    alert.dataCenter = device.dataCenter ∧ alert.metric = none ∧ alert.alertRule = none)
    ⟨fun ⟨h₁, h₂, h₃, h₄⟩ => ⟨h₁, h₂, h₃, h₄⟩, fun ⟨h₁, h₂, h₃, h₄⟩ => ⟨h₁, h₂, h₃, h₄⟩⟩

/-- A trap of the device with an event code, or an acknowledgement. -/
def AlertOperation.TrapOn (device : Device) : AlertOperation → Prop
  | .createOrUpdateTrapAlert trap _ => trap.device = device ∧ trap.eventCode ≠ none
  | .acknowledgeAlert _ _ _ _ => True
  | _ => False

namespace AlertsDb

variable (db : AlertsDb)

/-- The keys of the active alerts about an event of a device. -/
def trapIds (device : DeviceId) (trapOid eventCode : String) : Set AlertId :=
  db.activeWhere fun alert => alert.Reports device trapOid eventCode

instance (device : DeviceId) (trapOid eventCode : String) (id : AlertId) :
    Decidable (id ∈ db.trapIds device trapOid eventCode) :=
  inferInstanceAs (Decidable (∃ alert ∈ db.alerts.rows, _ ∧ _ ∧ _))

instance (device : DeviceId) (trapOid eventCode : String) :
    Decidable (db.trapIds device trapOid eventCode).Nonempty :=
  decidable_of_iff
    (∃ alert ∈ db.alerts.rows, alert.status.isActive ∧ alert.Reports device trapOid eventCode)
    ⟨fun ⟨alert, halert, h⟩ => ⟨alert.id, alert, halert, rfl, h⟩,
      fun ⟨_, alert, halert, _, h⟩ => ⟨alert, halert, h⟩⟩

/-- An event of the device has at most one active alert. -/
def TrapsUnique (device : Device) : Prop :=
  ∀ trapOid eventCode, (db.trapIds device.id trapOid eventCode).Subsingleton

/-- The active trap alerts of the device are stored where the device is. -/
def TrapsAtHome (device : Device) : Prop :=
  ∀ alert ∈ db.alerts, alert.status.isActive → alert.device = device.id →
    ∀ trapOid, Dict.hasText alert.metadata "trap_oid" trapOid → alert.AtHome device

/-- A trap whose event has an active alert, while the newest active alert of its OID is about
another event.  A payload that cannot be stored opens nothing. -/
def Duplicates : AlertOperation → Prop
  | .createOrUpdateTrapAlert trap _ =>
      trap.metadata.storable ∧ ∃ newest ∈ latestAlert (db.alerts.select trap.matchesAlert),
        ∃ eventCode ∈ trap.eventCode,
          Dict.hasText newest.metadata "trap_event_code" eventCode = false ∧
            (db.trapIds trap.device.id trap.trapOid eventCode).Nonempty
  | _ => False

instance : (op : AlertOperation) → Decidable (db.Duplicates op)
  | .createOrUpdateTrapAlert _ _ => inferInstanceAs (Decidable (_ ∧ ∃ _ ∈ (_ : Option _), _))
  | .evaluateLatest _ _ _ | .acknowledgeAlert _ _ _ _ | .manuallyResolveAlert _ _ _ _
  | .suppressAlert _ _ _ _ | .openOrUpdateExactAlert _ _ _ _ | .resolveExactAlert _ _ _
  | .saveRule _ | .deleteRule _ | .saveWindow _ => .isFalse not_false

end AlertsDb

/-! ### The metadata of a trap -/

theorem Trap.hasText_trapOid_iff {trap : Trap} {text : String} :
    Dict.hasText trap.metadata "trap_oid" text ↔ trap.trapOid = text := by
  show decide _ = true ↔ _
  exact decide_eq_true_iff

theorem Trap.hasText_eventCode_iff {trap : Trap} {code text : String}
    (hcode : trap.eventCode = some code) :
    Dict.hasText trap.metadata "trap_event_code" text ↔ code = text := by
  have hlookup : trap.metadata.lookup "trap_event_code" = some (.scalar (.text code)) := by
    show some (Json.scalar (trap.eventCode.elim .none .text)) = _
    rw [hcode]
    rfl
  rw [Dict.hasText, hlookup]
  exact decide_eq_true_iff

/-- A merge with the metadata of a trap takes over what the trap has. -/
theorem Trap.hasText_merge {trap : Trap} {d : Dict} {name text : String} {value : Json}
    (hlookup : trap.metadata.lookup name = some value) :
    Dict.hasText (Dict.merge d trap.metadata) name text = Dict.hasText trap.metadata name text := by
  rw [Dict.hasText, Dict.hasText, Dict.lookup_merge, hlookup]
  rfl

/-! ### What a trap does -/

section Effect

open AlertsDb

variable {db db' : AlertsDb} {trap : Trap} {createdAt : Instant} {code : String}
  {result : AlertEvent} {device : Device}

/-- What a trap with an event code has done: opened an alert, because the newest active
alert of its OID, if there is one, is about another event; updated that alert; or nothing,
because it was refused. -/
inductive TrapEffect (trap : Trap) (code : String) (db db' : AlertsDb) : Prop
  | opened (alert : AlertEvent) (hcreated : db.Created db' alert)
      (hactive : alert.status.isActive) (hdevice : alert.device = trap.device.id)
      (hhome : alert.AtHome trap.device) (hmetadata : alert.metadata = trap.metadata)
      (hstorable : trap.metadata.storable)
      (hother : ∀ newest ∈ latestAlert (db.alerts.select trap.matchesAlert),
        Dict.hasText newest.metadata "trap_event_code" code = false)
  | updated (existing copy : AlertEvent)
      (hnewest : existing ∈ latestAlert (db.alerts.select trap.matchesAlert))
      (hcode : Dict.hasText existing.metadata "trap_event_code" code)
      (hid : copy.id = existing.id)
      (hmetadata : copy.metadata = Dict.merge existing.metadata trap.metadata)
      (hsaved : db.Saved db' copy [.lastSeenAt, .message, .severity, .occurrenceCount, .metadata])
  | refused (h : db' = db)
      (hwhy : trap.metadata.storable →
        ∃ newest ∈ latestAlert (db.alerts.select trap.matchesAlert),
          Dict.hasText newest.metadata "trap_event_code" code)

theorem openTrapAlert_ok (h : openTrapAlert trap createdAt db = (.ok result, db')) :
    db.Created db' result ∧ result.status = .open ∧ result.device = trap.device.id ∧
      result.AtHome trap.device ∧ result.metadata = trap.metadata ∧ trap.metadata.storable := by
  obtain ⟨_, db₁, hcreate, h⟩ := Tx.bind_eq_ok_iff.mp h
  obtain ⟨_, db₂, hlog, h⟩ := Tx.bind_eq_ok_iff.mp h
  obtain ⟨⟨rfl⟩, rfl⟩ := Prod.mk.inj h
  obtain ⟨⟨-, hstorable⟩, rfl⟩ := createAlertLog_eq_ok_iff.mp hlog
  obtain ⟨rfl, hcreated⟩ := createAlert_ok hcreate
  exact ⟨hcreated, rfl, rfl, ⟨rfl, rfl, rfl, rfl⟩, rfl, hstorable⟩

/-- A payload that can be stored can be stored in a new alert. -/
theorem openTrapAlert_succeeds (hstorable : trap.metadata.storable) :
    ∃ result db', openTrapAlert trap createdAt db = (.ok result, db') := by
  refine Tx.bind_succeeds ?_ fun alert db₁ _ => Tx.bind_succeeds ?_ fun _ db₂ _ => ⟨_, _, rfl⟩
  · exact ⟨_, createAlert_of_storable (by simp [AlertEvent.storable, hstorable]) (by simp)⟩
  · exact ⟨⟨⟩, _, createAlertLog_eq_ok_iff.mpr ⟨⟨rfl, hstorable⟩, rfl⟩⟩

theorem updateTrapAlert_ok {existing : AlertEvent}
    (h : updateTrapAlert trap existing db = (.ok result, db')) :
    result.id = existing.id ∧ result.metadata = Dict.merge existing.metadata trap.metadata ∧
      db.Saved db' result [.lastSeenAt, .message, .severity, .occurrenceCount, .metadata] := by
  obtain ⟨_, db₁, hsave, h⟩ := Tx.bind_eq_ok_iff.mp h
  obtain ⟨_, db₂, hlog, h⟩ := Tx.bind_eq_ok_iff.mp h
  obtain ⟨⟨rfl⟩, rfl⟩ := Prod.mk.inj h
  obtain rfl := createAlertLog_ok hlog
  obtain ⟨stored, hfind, halerts⟩ := saveAlert_ok hsave
  exact ⟨rfl, rfl, stored, hfind, halerts⟩

/-- The body of the transaction, from what its lookup finds. -/
theorem createOrUpdateTrapAlert_of_code (hcode : trap.eventCode = some code) :
    createOrUpdateTrapAlert trap createdAt db = Tx.atomic
      (match latestAlert (db.alerts.select trap.matchesAlert) with
      | some existing =>
          if Dict.hasText existing.metadata "trap_event_code" code then
            updateTrapAlert trap existing
          else openTrapAlert trap createdAt
      | none => openTrapAlert trap createdAt) db := by
  refine Tx.atomic_congr ?_
  rw [Tx.bind_apply, Tx.read_apply, hcode]
  rfl

/-- **The spec of a trap**, whether it returns or raises. -/
theorem trapEffect (hcode : trap.eventCode = some code) :
    TrapEffect trap code db (createOrUpdateTrapAlert trap createdAt db).2 := by
  have hopens : ∀ {body : Engine AlertEvent}, body = openTrapAlert trap createdAt →
      (∀ newest ∈ latestAlert (db.alerts.select trap.matchesAlert),
        Dict.hasText newest.metadata "trap_event_code" code = false) →
      TrapEffect trap code db (Tx.atomic body db).2 := by
    rintro body rfl hother
    rcases h : Tx.atomic (openTrapAlert trap createdAt) db with ⟨e | result, db'⟩
    · obtain ⟨herror, rfl⟩ := Tx.atomic_eq_error_iff.mp h
      refine .refused rfl fun hstorable => ?_
      obtain ⟨result, db'', hok⟩ := @openTrapAlert_succeeds db' trap createdAt hstorable
      rw [hok] at herror
      cases herror
    · obtain ⟨hcreated, hopen, hdevice, hhome, hmetadata, hstorable⟩ :=
        openTrapAlert_ok (Tx.atomic_eq_ok_iff.mp h)
      exact .opened result hcreated (by rw [hopen]; rfl) hdevice hhome hmetadata hstorable hother
  rw [createOrUpdateTrapAlert_of_code hcode]
  cases hnewest : latestAlert (db.alerts.select trap.matchesAlert) with
  | none => exact hopens rfl (by simp [hnewest])
  | some existing =>
      dsimp only
      split
      · rename_i hsame
        rcases h : Tx.atomic (updateTrapAlert trap existing) db with ⟨e | result, db'⟩
        · obtain ⟨-, rfl⟩ := Tx.atomic_eq_error_iff.mp h
          exact .refused rfl fun _ => ⟨existing, hnewest, hsame⟩
        · obtain ⟨hid, hmetadata, hsaved⟩ := updateTrapAlert_ok (Tx.atomic_eq_ok_iff.mp h)
          exact .updated existing result hnewest hsame hid hmetadata hsaved
      · rename_i hother
        refine hopens rfl fun newest hfound => ?_
        obtain rfl : existing = newest := Option.some.inj (hnewest.symm.trans hfound)
        simpa using hother

/-- What the lookup finds is an active alert of the device, at home. -/
theorem newest_spec {newest : AlertEvent}
    (h : newest ∈ latestAlert (db.alerts.select trap.matchesAlert)) :
    newest ∈ db.alerts ∧ newest.status.isActive ∧ newest.device = trap.device.id ∧
      newest.AtHome trap.device ∧ Dict.hasText newest.metadata "trap_oid" trap.trapOid := by
  obtain ⟨hmem, hmatches⟩ := Table.mem_select.mp (List.argmax_mem h)
  simp only [Trap.matchesAlert, Bool.and_eq_true, decide_eq_true_eq] at hmatches
  obtain ⟨⟨⟨⟨⟨⟨horganization, hdataCenter⟩, hdevice⟩, hmetric⟩, hrule⟩, hactive⟩, hoid⟩ := hmatches
  exact ⟨hmem, hactive, hdevice, ⟨horganization, hdataCenter, hmetric, hrule⟩, hoid⟩

/-- Where an event has an active alert, the lookup finds one of its OID. -/
theorem exists_newest (hhome : db.TrapsAtHome trap.device)
    (h : (db.trapIds trap.device.id trap.trapOid code).Nonempty) :
    ∃ newest, newest ∈ latestAlert (db.alerts.select trap.matchesAlert) := by
  obtain ⟨id, alert, halert, -, hactive, hdevice, hoid, -⟩ := h
  obtain ⟨horganization, hdataCenter, hmetric, hrule⟩ := hhome alert halert hactive hdevice _ hoid
  cases hnewest : latestAlert (db.alerts.select trap.matchesAlert) with
  | some newest => exact ⟨newest, rfl⟩
  | none =>
      rw [latestAlert_eq_none_iff, List.eq_nil_iff_forall_not_mem] at hnewest
      refine absurd (Table.mem_select.mpr ⟨halert, ?_⟩) (hnewest alert)
      simp [Trap.matchesAlert, horganization, hdataCenter, hdevice, hmetric, hrule, hactive, hoid]

/-- An update leaves the alert with its event. -/
theorem reports_update {existing copy : AlertEvent} {columns : List AlertColumn}
    {id : DeviceId} {trapOid eventCode : String} (hcolumn : .metadata ∈ columns)
    (hmetadata : copy.metadata = Dict.merge existing.metadata trap.metadata)
    (hcode : trap.eventCode = some code)
    (hoid : Dict.hasText existing.metadata "trap_oid" trap.trapOid)
    (hsame : Dict.hasText existing.metadata "trap_event_code" code) :
    (AlertEvent.write columns copy existing).Reports id trapOid eventCode ↔
      existing.Reports id trapOid eventCode := by
  have hwritten : (AlertEvent.write columns copy existing).metadata =
      Dict.merge existing.metadata trap.metadata := by
    rw [← hmetadata]
    exact if_pos hcolumn
  have hlookup : trap.metadata.lookup "trap_event_code" = some (.scalar (.text code)) :=
    Dict.hasText_iff.mp ((Trap.hasText_eventCode_iff hcode).mpr rfl)
  refine and_congr Iff.rfl (and_congr ?_ ?_)
  · rw [hwritten, Trap.hasText_merge rfl, Trap.hasText_trapOid_iff, Dict.hasText_iff_eq hoid]
  · rw [hwritten, Trap.hasText_merge hlookup, Trap.hasText_eventCode_iff hcode,
      Dict.hasText_iff_eq hsame]

/-! ### What the calls do to the uniqueness -/

/-- A save leaves the traps at home, if the row that it writes was at home. -/
theorem AlertsDb.Saved.trapsAtHome {copy : AlertEvent} {columns : List AlertColumn}
    (h : db.Saved db' copy columns) (hhome : db.TrapsAtHome device)
    (hrow : ∀ stored, db.alerts.find copy.id = some stored →
      (AlertEvent.write columns copy stored).status.isActive → stored.device = device.id →
      ∀ trapOid, Dict.hasText (AlertEvent.write columns copy stored).metadata "trap_oid" trapOid →
        stored.AtHome device) :
    db'.TrapsAtHome device := by
  obtain ⟨stored, hfind, halerts⟩ := h
  intro alert halert hactive hdevice trapOid hoid
  rw [halerts] at halert
  rcases Table.mem_save.mp halert with rfl | ⟨hold, -⟩
  · obtain ⟨h₁, h₂, h₃, h₄⟩ := hrow stored hfind hactive hdevice trapOid hoid
    exact ⟨h₁, h₂, h₃, h₄⟩
  · exact hhome alert hold hactive hdevice trapOid hoid

/-- An acknowledgement of a fresh row writes nothing, or turns an open alert into an
acknowledged one. -/
theorem acknowledge_cases {id : AlertId} {user : Option UserId} {comment : Option String}
    {now : Instant} :
    (db.onAlert id fun alert => acknowledgeAlert alert user comment now).alerts = db.alerts ∨
      ∃ alert, db.alerts.find id = some alert ∧ alert.status = .open ∧
        db.Saved (db.onAlert id fun alert => acknowledgeAlert alert user comment now)
          (alert.asAcknowledged user comment now)
          [.status, .acknowledgedBy, .acknowledgedAt, .acknowledgeComment] := by
  unfold onAlert
  cases hfind : db.alerts.find id with
  | none => exact Or.inl rfl
  | some alert =>
      by_cases hopen : alert.status = .open
      swap
      · left
        simp only [acknowledgeAlert, if_pos hopen]
        rfl
      right
      obtain ⟨-, hid⟩ := Table.find_eq_some_iff.mp hfind
      have hfindCopy : db.alerts.find (alert.asAcknowledged user comment now).id =
          some alert := by
        rw [← hfind, ← hid]
        rfl
      obtain ⟨db₁, hsave, -, halerts⟩ := @saveAlert_of_find db _ _
        [.status, .acknowledgedBy, .acknowledgedAt, .acknowledgeComment] hfindCopy
        (by simp) (by simp)
      have hsame := @sameAlerts_acknowledgeAlert_after alert user comment now db hopen
      rw [hsave] at hsame
      exact ⟨alert, rfl, hopen, alert, hfindCopy, Eq.trans hsame halerts⟩

/-- An acknowledgement leaves every event with its active alerts. -/
theorem acknowledge_keeps {id : AlertId} {user : Option UserId} {comment : Option String}
    {now : Instant} {db' : AlertsDb}
    (h : db' = db.onAlert id fun alert => acknowledgeAlert alert user comment now) :
    (∀ device trapOid eventCode,
        db'.trapIds device trapOid eventCode = db.trapIds device trapOid eventCode) ∧
      (db.TrapsAtHome device → db'.TrapsAtHome device) := by
  obtain halerts | ⟨alert, hfind, hopen, hsaved⟩ := @acknowledge_cases db id user comment now
  · rw [← h] at halerts
    refine ⟨fun _ _ _ => activeWhere_eq_of_alerts_eq halerts, fun hhome alert halert => ?_⟩
    exact hhome alert (halerts ▸ halert)
  · rw [← h] at hsaved
    obtain ⟨hmem, rfl⟩ := Table.find_eq_some_iff.mp hfind
    -- the row behind the copy is the alert itself, open before and acknowledged after
    have hstored : ∀ stored, db.alerts.find (alert.asAcknowledged user comment now).id =
        some stored → stored = alert :=
      fun stored hstored => Option.some.inj (hstored.symm.trans (Table.find_pk hmem))
    refine ⟨fun device trapOid eventCode => hsaved.activeWhere_congr fun stored hfound => ?_,
      fun hhome => hsaved.trapsAtHome hhome fun stored hfound hactive hdevice trapOid hoid => ?_⟩
    · obtain rfl := hstored stored hfound
      refine and_congr (iff_of_true rfl ?_) Iff.rfl
      rw [hopen]
      rfl
    · obtain rfl := hstored stored hfound
      refine hhome stored hmem ?_ hdevice trapOid hoid
      rw [hopen]
      rfl

/-- An update leaves every event with its active alerts. -/
theorem update_keeps {existing copy : AlertEvent}
    (hnewest : existing ∈ latestAlert (db.alerts.select trap.matchesAlert))
    (hsame : Dict.hasText existing.metadata "trap_event_code" code)
    (hcode : trap.eventCode = some code) (hid : copy.id = existing.id)
    (hmetadata : copy.metadata = Dict.merge existing.metadata trap.metadata)
    (hsaved : db.Saved db' copy [.lastSeenAt, .message, .severity, .occurrenceCount, .metadata]) :
    (∀ device trapOid eventCode,
        db'.trapIds device trapOid eventCode = db.trapIds device trapOid eventCode) ∧
      (db.TrapsAtHome trap.device → db'.TrapsAtHome trap.device) := by
  obtain ⟨hmem, -, -, hexisting, hoid⟩ := newest_spec hnewest
  have hstored : ∀ stored, db.alerts.find copy.id = some stored → stored = existing := by
    intro stored hstored
    rw [hid] at hstored
    exact Option.some.inj (hstored.symm.trans (Table.find_pk hmem))
  refine ⟨fun device trapOid eventCode => ?_,
    fun hhome => hsaved.trapsAtHome hhome fun stored hfound _ _ _ _ => ?_⟩
  · refine hsaved.activeWhere_kept (by simp) fun stored hfound => ?_
    obtain rfl := hstored stored hfound
    exact reports_update (by simp) hmetadata hcode hoid hsame
  · obtain rfl := hstored stored hfound
    exact hexisting

/-- What the new alert of a trap is about. -/
theorem reports_opened_iff {alert : AlertEvent} {trapOid eventCode : String}
    (hcode : trap.eventCode = some code) (hdevice : alert.device = trap.device.id)
    (hmetadata : alert.metadata = trap.metadata) :
    alert.Reports trap.device.id trapOid eventCode ↔ trap.trapOid = trapOid ∧ code = eventCode := by
  rw [AlertEvent.Reports, hmetadata, Trap.hasText_trapOid_iff, Trap.hasText_eventCode_iff hcode]
  exact and_iff_right hdevice

/-- A new alert keeps its event unique exactly if the event had no active alert. -/
theorem trapsUnique_opened_iff {alert : AlertEvent} (hcode : trap.eventCode = some code)
    (hcreated : db.Created db' alert) (hactive : alert.status.isActive)
    (hdevice : alert.device = trap.device.id) (hmetadata : alert.metadata = trap.metadata)
    (hunique : db.TrapsUnique trap.device) :
    db'.TrapsUnique trap.device ↔ ¬(db.trapIds trap.device.id trap.trapOid code).Nonempty := by
  have hmem : ∀ trapOid eventCode id, id ∈ db'.trapIds trap.device.id trapOid eventCode ↔
      (id = alert.id ∧ trap.trapOid = trapOid ∧ code = eventCode) ∨
        id ∈ db.trapIds trap.device.id trapOid eventCode := by
    intro trapOid eventCode id
    refine hcreated.mem_activeWhere_iff.trans (or_congr_left ?_)
    rw [reports_opened_iff hcode hdevice hmetadata, and_iff_right hactive]
  constructor
  · rintro hafter ⟨id, hold⟩
    -- the key of the new alert is fresh, so it is not the one that was there
    have hsame : alert.id = id := hafter trap.trapOid code
      ((hmem _ _ _).mpr (Or.inl ⟨rfl, rfl, rfl⟩)) ((hmem _ _ _).mpr (Or.inr hold))
    obtain ⟨old, hstored, rfl, -⟩ := hold
    have hlt := db.alerts.pk_lt_nextPk old hstored
    rw [pk_alertEvent, ← hsame, hcreated.1] at hlt
    exact lt_irrefl _ hlt
  · intro hnone trapOid eventCode a ha b hb
    rcases (hmem _ _ _).mp ha with ⟨rfl, rfl, rfl⟩ | ha
    · rcases (hmem _ _ _).mp hb with ⟨rfl, -⟩ | hb
      · rfl
      · exact absurd ⟨b, hb⟩ hnone
    · rcases (hmem _ _ _).mp hb with ⟨rfl, rfl, rfl⟩ | hb
      · exact absurd ⟨a, ha⟩ hnone
      · exact hunique _ _ ha hb

/-- **The step lemma** of a trap: it keeps the traps at home, and its event unique exactly if
it is no duplicate. -/
theorem trap_step (hcode : trap.eventCode = some code) (hhome : db.TrapsAtHome trap.device)
    (hunique : db.TrapsUnique trap.device)
    (heffect : TrapEffect trap code db db') :
    db'.TrapsAtHome trap.device ∧
      (db'.TrapsUnique trap.device ↔ ¬db.Duplicates (.createOrUpdateTrapAlert trap createdAt)) := by
  -- the event code of a duplicate is the one of the trap
  have hduplicates : db.Duplicates (.createOrUpdateTrapAlert trap createdAt) ↔
      trap.metadata.storable ∧ ∃ newest ∈ latestAlert (db.alerts.select trap.matchesAlert),
        Dict.hasText newest.metadata "trap_event_code" code = false ∧
          (db.trapIds trap.device.id trap.trapOid code).Nonempty := by
    simp only [Duplicates, hcode, Option.mem_def, Option.some.injEq, exists_eq_left']
  rw [hduplicates]
  cases heffect with
  | opened alert hcreated hactive hdevice hnew hmetadata hstorable hother =>
      refine ⟨fun row hrow hrowActive hrowDevice trapOid hoid => ?_, ?_⟩
      · rcases hcreated.mem_alerts_iff.mp hrow with rfl | hold
        · exact hnew
        · exact hhome row hold hrowActive hrowDevice trapOid hoid
      · rw [trapsUnique_opened_iff hcode hcreated hactive hdevice hmetadata hunique]
        refine not_congr ⟨fun hsome => ⟨hstorable, ?_⟩, fun ⟨_, _, _, _, hsome⟩ => hsome⟩
        obtain ⟨newest, hnewest⟩ := exists_newest hhome hsome
        exact ⟨newest, hnewest, hother newest hnewest, hsome⟩
  | updated existing copy hnewest hsame hid hmetadata hsaved =>
      obtain ⟨hids, hkeeps⟩ := update_keeps hnewest hsame hcode hid hmetadata hsaved
      refine ⟨hkeeps hhome, iff_of_true (fun trapOid eventCode => ?_) ?_⟩
      · rw [hids]
        exact hunique trapOid eventCode
      · rintro ⟨-, newest, hfound, hother, -⟩
        obtain rfl : existing = newest := Option.some.inj (hnewest.symm.trans hfound)
        rw [hsame] at hother
        cases hother
  | refused hdb hwhy =>
      subst hdb
      refine ⟨hhome, iff_of_true hunique ?_⟩
      rintro ⟨hstorable, newest, hnewest, hother, -⟩
      obtain ⟨existing, hfound, hsame⟩ := hwhy hstorable
      obtain rfl : newest = existing := Option.some.inj (hnewest.symm.trans hfound)
      rw [hsame] at hother
      cases hother

end Effect

/-! ### Runs -/

namespace AlertsDb

variable {db : AlertsDb} {device : Device} {py : PyText} {op : AlertOperation}

/-- The step lemma: an operation of the run keeps the traps at home, and the events unique
exactly if it is no duplicate. -/
theorem trapOn_step (hop : op.TrapOn device) (hhome : db.TrapsAtHome device)
    (hunique : db.TrapsUnique device) :
    (db.operate py op).TrapsAtHome device ∧
      ((db.operate py op).TrapsUnique device ↔ ¬db.Duplicates op) := by
  cases op with
  | createOrUpdateTrapAlert trap createdAt =>
      obtain ⟨rfl, hcode⟩ := hop
      obtain ⟨code, hcode⟩ := Option.ne_none_iff_exists'.mp hcode
      exact trap_step hcode hhome hunique (trapEffect hcode)
  | acknowledgeAlert alert user comment now =>
      obtain ⟨hids, hkeeps⟩ :=
        @acknowledge_keeps db device alert user comment now _ rfl
      refine ⟨hkeeps hhome, iff_of_true (fun trapOid eventCode => ?_) not_false⟩
      exact (hids device.id trapOid eventCode).symm ▸ hunique trapOid eventCode
  | _ => exact hop.elim

/-- **Each event has at most one active alert** in every state of a run of traps and
acknowledgements exactly if no trap of the run is a duplicate: one whose event has an active
alert behind a newer one of the same OID. -/
theorem trapsUnique_run_iff (py : PyText) (device : Device) (db : AlertsDb)
    (w : List AlertOperation) (hhome : db.TrapsAtHome device) (hunique : db.TrapsUnique device)
    (hw : ∀ op ∈ w, op.TrapOn device) :
    (∀ u v, w = u ++ v → (run (operate py) db u).TrapsUnique device) ↔
      Along (operate py) (fun before op _ => ¬before.Duplicates op) db w :=
  always_iff_along (P := fun db => TrapsUnique db device) (I := fun db => TrapsAtHome db device)
    (fun _ op hop hhome hunique => (trapOn_step (hw op hop) hhome hunique).1)
    (fun _ op hop hhome hunique => (trapOn_step (hw op hop) hhome hunique).2) hhome hunique

/-- A trap of the door contact of the sensor. -/
def doorTrap (eventCode : String) (triggeredAt : Instant) : Trap where
  device := roomSensor
  eventCode := some eventCode
  eventName := none
  severity := .warning
  message := "Door"
  triggeredAt := triggeredAt
  trapOid := "1.3.6.1.4.1.99999.1.9"

/-- The door is opened, the alert is acknowledged, and the door is reported open again. -/
def doorOpenedTwice : List AlertOperation :=
  [.createOrUpdateTrapAlert (doorTrap "DOOR_OPEN" 0) 0, .acknowledgeAlert 0 (some 1) none 0,
    .createOrUpdateTrapAlert (doorTrap "DOOR_OPEN" 1) 1]

theorem trapsUnique_doorOpenedTwice :
    (run (operate plainText) serverRoom doorOpenedTwice).TrapsUnique roomSensor :=
  (trapsUnique_run_iff plainText roomSensor serverRoom doorOpenedTwice
    (fun _ halert => by cases halert) (fun _ _ _ ⟨_, halert, _⟩ => by cases halert)
    (by simp [doorOpenedTwice, AlertOperation.TrapOn, doorTrap])).mpr (by decide)
    doorOpenedTwice [] (List.append_nil _).symm

/-- The door is opened, closed, and opened again. -/
def doorOpenedAgain : List AlertOperation :=
  [.createOrUpdateTrapAlert (doorTrap "DOOR_OPEN" 0) 0,
    .createOrUpdateTrapAlert (doorTrap "DOOR_CLOSED" 1) 1,
    .createOrUpdateTrapAlert (doorTrap "DOOR_OPEN" 2) 2]

/-- The open door has two active alerts. -/
theorem doorOpenedAgain_duplicates :
    ¬∀ u v, doorOpenedAgain = u ++ v →
      (run (operate plainText) serverRoom u).TrapsUnique roomSensor := by
  intro h
  have hunique := h doorOpenedAgain [] rfl "1.3.6.1.4.1.99999.1.9" "DOOR_OPEN"
  have hsame : (0 : AlertId) = 2 := hunique (by decide) (by decide)
  cases hsame

end AlertsDb

end DcimBackend
