import DcimBackend.Alerts.Escalation
import DcimBackend.Alerts.Lifecycle

/-!
# Runs of the escalation

What a run that returns has done to the records: an alert that it has loaded is recorded
for the first policy that matches and whose trigger is met, whether that policy was
recorded before or not.  A policy behind it waits for a run in which it comes first itself.

The database returns alerts and policies in an order of its own, which may change from run to run:
neither table has an ordering.  So the order is part of a run, and "comes first" is said of it.
Everything that a run reads besides, the clock and what is refused, is part of the run as well.

A run that raises has recorded some of its alerts and not others; the statements here are about
runs that return (`Returns`), and `Alerts.EscalationFailures` is about those that do not.
Matching and triggers do not read the metadata, so a policy that is triggered in each of several
runs stays so while the runs write their records; the induction over the runs rests on this.
-/

namespace DcimBackend

open Library

/-! ### Notifications leave the alerts alone -/

namespace EscalationDb

/-- The alert tables are the same. -/
def SameAlerts (db db' : EscalationDb) : Prop := db'.alerts = db.alerts

instance : IsPreorder EscalationDb SameAlerts where
  refl _ := rfl
  trans _ _ _ h h' := Eq.trans h' h

/-- The stored alert records an escalation by the policy. -/
def Recorded (db : EscalationDb) (alert : AlertId) (policy : PolicyId) : Prop :=
  ∃ row ∈ db.alerts.alerts, row.id = alert ∧ RecordsPolicy row.metadata policy

instance (db : EscalationDb) (alert : AlertId) (policy : PolicyId) :
    Decidable (db.Recorded alert policy) :=
  inferInstanceAs (Decidable (∃ row ∈ db.alerts.alerts, _))

theorem recorded_iff {db : EscalationDb} {alert : AlertEvent} {policy : PolicyId}
    (halert : alert ∈ db.alerts.alerts) :
    db.Recorded alert.id policy ↔ RecordsPolicy alert.metadata policy := by
  constructor
  · rintro ⟨row, hrow, hid, hrecords⟩
    obtain rfl : row = alert := db.alerts.alerts.eq_of_pk_eq hrow halert hid
    exact hrecords
  · intro hrecords
    exact ⟨alert, halert, rfl, hrecords⟩

end EscalationDb

section SameAlerts

open EscalationDb

theorem Escalator.sameAlerts_onNotifications {α : Type}
    {x : Tx NotificationError NotificationsDb α} :
    Tx.Respects SameAlerts (Escalator.onNotifications x) := by
  intro db
  unfold Escalator.onNotifications
  rcases x db.notifications with ⟨e | a, notifications⟩ <;> rfl

theorem Escalator.respects_attempt {α : Type} {R : EscalationDb → EscalationDb → Prop}
    [IsPreorder EscalationDb R] {fails : EscalationPoint → Bool} {point : EscalationPoint}
    {x : Escalator α} (hx : Tx.Respects R x) :
    Tx.Respects R (Escalator.attempt fails point x) := by
  unfold Escalator.attempt
  split
  · exact Tx.respects_raise _
  · exact hx

namespace EscalationSetup

variable {setup : EscalationSetup} {fails : EscalationPoint → Bool} {alert : AlertEvent}
  {policy : AlertEscalationPolicy} {subject message : String} {now : Instant}

/-- A position respects what its statements do. -/
theorem respects_createEscalationNotification {R : EscalationDb → EscalationDb → Prop}
    [IsPreorder EscalationDb R] {notice : EscalationNotice}
    (hread : Tx.Respects R
      (Escalator.onNotifications (Tx.read fun db => db.findByKey notice.dedupeKey)))
    (hinsert : Tx.Respects R (Escalator.onNotifications
      (insertNotification (escalationRow alert notice subject message now)))) :
    Tx.Respects R (setup.createEscalationNotification fails alert notice subject message now) := by
  unfold createEscalationNotification
  split
  swap
  · exact Tx.respects_pure _
  refine Escalator.respects_attempt ?_
  refine Tx.respects_bind hread fun found => ?_
  cases found with
  | some row => exact Tx.respects_pure _
  | none =>
      refine Tx.respects_bind (Tx.respects_handle ?_ fun e => ?_) fun inserted => ?_
      · exact Tx.respects_bind hinsert fun _ => Tx.respects_pure _
      · split
        · exact Tx.respects_pure _
        · exact Tx.respects_raise _
      · cases inserted with
        | some row => exact Escalator.respects_attempt (Tx.respects_pure _)
        | none => exact Tx.respects_pure _

theorem sameAlerts_createEscalationNotification {notice : EscalationNotice} :
    Tx.Respects SameAlerts
      (setup.createEscalationNotification fails alert notice subject message now) :=
  respects_createEscalationNotification Escalator.sameAlerts_onNotifications
    Escalator.sameAlerts_onNotifications

/-- The loop respects what its positions do. -/
theorem respects_notifyEscalation {R : EscalationDb → EscalationDb → Prop}
    [IsPreorder EscalationDb R] {notices : List EscalationNotice}
    (h : ∀ notice ∈ notices, Tx.Respects R
      (setup.createEscalationNotification fails alert notice subject message now)) :
    Tx.Respects R (setup.notifyEscalation fails alert subject message now notices) := by
  induction notices with
  | nil => exact Tx.respects_pure _
  | cons notice notices ih =>
      obtain ⟨hhead, htail⟩ := List.forall_mem_cons.mp h
      exact Tx.respects_bind hhead fun _ => ih htail

/-- A position of the loop is about the alert and the policy. -/
theorem mem_escalationNotices {recipients : List Account} {notice : EscalationNotice} :
    notice ∈ escalationNotices alert policy recipients ↔
      (notice.alert = alert.id ∧ notice.policy = policy.id) ∧ notice.channel ∈ policy.channels ∧
        notice.user ∈ recipients.map fun user => user.id := by
  simp only [escalationNotices, List.mem_flatMap, List.mem_map]
  constructor
  · rintro ⟨user, huser, channel, hchannel, rfl⟩
    exact ⟨⟨rfl, rfl⟩, hchannel, user, huser, rfl⟩
  · rintro ⟨⟨halert, hpolicy⟩, hchannel, user, huser, hid⟩
    refine ⟨user, huser, notice.channel, hchannel, ?_⟩
    rw [← halert, ← hpolicy, hid]

/-- The notifications of an escalation respect what those about its alert and its policy
do. -/
theorem respects_createNotificationsForAlertEscalated
    {R : EscalationDb → EscalationDb → Prop} [IsPreorder EscalationDb R]
    (h : ∀ notice : EscalationNotice, notice.alert = alert.id → notice.policy = policy.id →
      ∀ subject message, Tx.Respects R
        (setup.createEscalationNotification fails alert notice subject message now)) :
    Tx.Respects R (setup.createNotificationsForAlertEscalated fails alert policy now) := by
  unfold createNotificationsForAlertEscalated
  split
  · exact Tx.respects_raise _
  · refine respects_notifyEscalation fun notice hnotice => ?_
    obtain ⟨⟨halert, hpolicy⟩, -⟩ := mem_escalationNotices.mp hnotice
    exact h notice halert hpolicy _ _

theorem sameAlerts_createNotificationsForAlertEscalated :
    Tx.Respects SameAlerts
      (setup.createNotificationsForAlertEscalated fails alert policy now) :=
  respects_createNotificationsForAlertEscalated fun _ _ _ _ _ =>
    sameAlerts_createEscalationNotification

end EscalationSetup

end SameAlerts

/-! ### What an escalation records -/

/-- What an escalation by a policy makes of the metadata, if it returns. -/
def RecordedAs (py : PyText) (metadata : Dict) (policy : PolicyId) (metadata' : Dict) : Prop :=
  (RecordsPolicy metadata policy ∧ metadata' = metadata) ∨
    ∃ now, escalationMetadata py metadata policy now = .ok (some metadata')

theorem RecordedAs.recordsPolicy_iff {py : PyText} {metadata metadata' : Dict}
    {policy other : PolicyId} (h : RecordedAs py metadata policy metadata') :
    RecordsPolicy metadata' other ↔ RecordsPolicy metadata other ∨ other = policy := by
  rcases h with ⟨hrecords, rfl⟩ | ⟨now, hnew⟩
  · constructor
    · exact Or.inl
    · rintro (h | rfl)
      · exact h
      · exact hrecords
  · exact (recordsPolicy_escalationMetadata hnew).2 other

namespace EscalationSetup

variable {setup : EscalationSetup} {fails : EscalationPoint → Bool} {alert : AlertEvent}
  {policy : AlertEscalationPolicy} {now : Instant} {db db' : EscalationDb} {run : EscalationRun}

/-- A stored alert, and the others. -/
theorem mem_iff_of_kept {row : AlertEvent} (halert : alert ∈ db.alerts.alerts) :
    row ∈ db.alerts.alerts ↔
      row = alert ∨ (row ∈ db.alerts.alerts ∧ row.id ≠ alert.id) := by
  constructor
  · intro hrow
    by_cases hid : row.id = alert.id
    · exact Or.inl (db.alerts.alerts.eq_of_pk_eq hrow halert hid)
    · exact Or.inr ⟨hrow, hid⟩
  · rintro (rfl | ⟨hrow, -⟩)
    · exact halert
    · exact hrow

/-- **An escalation that returns** has recorded the policy, and has written no other
alert. -/
theorem escalateAlert_ok {result : Option AlertEvent} (halert : alert ∈ db.alerts.alerts)
    (h : setup.escalateAlert fails alert policy now db = (.ok result, db')) :
    ∃ metadata, RecordedAs setup.py alert.metadata policy.id metadata ∧
      ∀ row, row ∈ db'.alerts.alerts ↔
        row = alert.withMetadata metadata ∨ (row ∈ db.alerts.alerts ∧ row.id ≠ alert.id) := by
  rcases hmetadata : escalationMetadata setup.py alert.metadata policy.id now with
    e | (_ | metadata)
  · rw [escalateAlert, hmetadata] at h
    cases (Prod.mk.inj h).1
  · have hrecords := escalationMetadata_none_iff.mp hmetadata
    rw [escalateAlert_of_recorded hrecords] at h
    obtain rfl := (Prod.mk.inj h).2
    exact ⟨alert.metadata, Or.inl ⟨hrecords, rfl⟩, fun _ => mem_iff_of_kept halert⟩
  · obtain ⟨saved, -, hsaved, -, heq⟩ :=
      @escalateAlert_of_new setup fails alert policy now db metadata halert hmetadata
    rw [heq] at h
    split at h
    · cases (Prod.mk.inj h).1
    split at h
    · cases (Prod.mk.inj h).1
    split at h
    · rename_i u db₁ hnotify
      obtain rfl := (Prod.mk.inj h).2
      have halerts : db₁.alerts.alerts = db.alerts.alerts.save (alert.withMetadata metadata) :=
        (congrArg AlertsDb.alerts
          (sameAlerts_createNotificationsForAlertEscalated.of_eq hnotify)).trans hsaved
      refine ⟨metadata, Or.inr ⟨now, hmetadata⟩, fun row => ?_⟩
      rw [halerts]
      exact Table.mem_save
    · cases (Prod.mk.inj h).1

variable (setup) in
/-- What a run makes of the metadata of an alert that it has loaded, if it returns. -/
def RunRecords (run : EscalationRun) (alert : AlertEvent) (metadata : Dict) : Prop :=
  match setup.firstTriggered run alert with
  | none => metadata = alert.metadata
  | some policy => RecordedAs setup.py alert.metadata policy.id metadata

/-- The turn of an alert records it, and writes no other. -/
theorem escalateFirst_ok {result : Option AlertEvent} (halert : alert ∈ db.alerts.alerts)
    (h : setup.escalateFirst run alert db = (.ok result, db')) :
    ∃ metadata, setup.RunRecords run alert metadata ∧
      ∀ row, row ∈ db'.alerts.alerts ↔
        row = alert.withMetadata metadata ∨ (row ∈ db.alerts.alerts ∧ row.id ≠ alert.id) := by
  unfold escalateFirst at h
  unfold RunRecords
  cases htriggered : setup.firstTriggered run alert with
  | none =>
      rw [htriggered] at h
      obtain rfl := (Prod.mk.inj h).2
      exact ⟨alert.metadata, rfl, fun _ => mem_iff_of_kept halert⟩
  | some policy =>
      rw [htriggered] at h
      exact escalateAlert_ok halert h

/-- **The outer loop** records each of its alerts, and writes no other. -/
theorem escalateAll_ok {alerts escalated : List AlertEvent}
    (halerts : ∀ alert ∈ alerts, alert ∈ db.alerts.alerts) (hnodup : (alerts.map pk).Nodup)
    (h : setup.escalateAll run alerts db = (.ok escalated, db')) :
    (∀ alert ∈ alerts, ∃ metadata, setup.RunRecords run alert metadata ∧
        alert.withMetadata metadata ∈ db'.alerts.alerts) ∧
      ∀ row ∈ db.alerts.alerts, row.id ∉ alerts.map pk → row ∈ db'.alerts.alerts := by
  induction alerts generalizing db escalated with
  | nil =>
      obtain rfl := (Prod.mk.inj h).2
      exact ⟨by simp, fun row hrow _ => hrow⟩
  | cons alert alerts ih =>
      obtain ⟨hfresh, hnodup⟩ := List.nodup_cons.mp hnodup
      obtain ⟨hhead, htail⟩ := List.forall_mem_cons.mp halerts
      obtain ⟨result, db₁, hturn, hrest⟩ := Tx.bind_eq_ok_iff.mp h
      obtain ⟨others, db₂, hloop, hreturn⟩ := Tx.bind_eq_ok_iff.mp hrest
      obtain rfl := (Prod.mk.inj hreturn).2
      obtain ⟨metadata, hrecords, hrows⟩ := escalateFirst_ok hhead hturn
      have hkept : ∀ other ∈ alerts, other ∈ db₁.alerts.alerts := by
        intro other hother
        refine (hrows other).mpr (Or.inr ⟨htail other hother, fun hid => ?_⟩)
        exact hfresh (List.mem_map.mpr ⟨other, hother, hid⟩)
      obtain ⟨hall, hunlisted⟩ := ih hkept hnodup hloop
      constructor
      · rintro other (_ | ⟨_, hother⟩)
        · refine ⟨metadata, hrecords, hunlisted _ ((hrows _).mpr (Or.inl rfl)) hfresh⟩
        · exact hall other hother
      · intro row hrow hid
        rw [List.map_cons, List.mem_cons, not_or] at hid
        exact hunlisted row ((hrows row).mpr (Or.inr ⟨hrow, hid.1⟩)) hid.2

/-! ### What a run records -/

variable (setup) in
/-- The run returns. -/
def Returns (run : EscalationRun) (db : EscalationDb) : Prop :=
  (setup.runAlertEscalationCheck run db).1.isOk

instance : Decidable (setup.Returns run db) := inferInstanceAs (Decidable (_ = _))

/-- The alerts that a run loads. -/
theorem mem_loaded_iff {alert : AlertEvent} :
    alert ∈ run.alertOrder.arrange (db.alerts.alerts.select fun alert => alert.status.isActive) ↔
      alert ∈ db.alerts.alerts ∧ alert.status.isActive :=
  ((run.alertOrder.perm _).mem_iff).trans Table.mem_select

theorem nodup_loaded : ((run.alertOrder.arrange
    (db.alerts.alerts.select fun alert => alert.status.isActive)).map pk).Nodup :=
  ((run.alertOrder.perm _).map pk).nodup_iff.mpr
    ((List.filter_sublist.map pk).nodup db.alerts.alerts.nodup_pk)

/-- **A run that returns** has recorded each active alert. -/
theorem check_records (h : setup.Returns run db) (halert : alert ∈ db.alerts.alerts)
    (hactive : alert.status.isActive) :
    ∃ metadata, setup.RunRecords run alert metadata ∧
      alert.withMetadata metadata ∈ (setup.check db run).alerts.alerts := by
  unfold Returns at h
  unfold check
  rcases hrun : setup.runAlertEscalationCheck run db with ⟨e | escalated, db'⟩
  · rw [hrun] at h
    cases h
  · obtain ⟨alerts, db₁, hread, hloop⟩ := Tx.bind_eq_ok_iff.mp hrun
    obtain ⟨⟨rfl⟩, rfl⟩ := Prod.mk.inj hread
    have hloaded := fun alert h => (@mem_loaded_iff db run alert).mp h
    exact (escalateAll_ok (fun alert h => (hloaded alert h).1) nodup_loaded hloop).1 alert
      (mem_loaded_iff.mpr ⟨halert, hactive⟩)

/-! ### Completeness -/

variable (setup) in
/-- In the order of the run, no other policy that matches and whose trigger is met stands
before the policy. -/
def ComesFirst (run : EscalationRun) (alert : AlertEvent) (policy : AlertEscalationPolicy) :
    Prop :=
  ∃ before after, run.policyOrder.arrange (setup.policies.select fun policy => policy.isActive) =
      before ++ policy :: after ∧
    ∀ other ∈ before, ¬(policyMatches alert other ∧ policyTriggerMet alert other run.now)

variable (setup) in
/-- The policy is one of the active policies that match an alert and whose triggers are met. -/
structure Triggered (run : EscalationRun) (alert : AlertEvent) (policy : AlertEscalationPolicy) :
    Prop where
  stored : policy ∈ setup.policies
  matching : policyMatches alert policy
  triggerMet : policyTriggerMet alert policy run.now

theorem Triggered.comesFirst_iff (h : setup.Triggered run alert policy) :
    setup.ComesFirst run alert policy ↔
      ∃ first, setup.firstTriggered run alert = some first ∧ policy.id = first.id := by
  have hfind : setup.firstTriggered run alert = some policy ↔
      setup.ComesFirst run alert policy := by
    rw [firstTriggered, List.find?_eq_some_iff_append, ComesFirst]
    simp only [h.matching, h.triggerMet, Bool.and_self, true_and, Bool.not_eq_true',
      Bool.and_eq_false_iff, not_and_or, Bool.not_eq_true]
  rw [← hfind]
  constructor
  · intro hpolicy
    exact ⟨policy, hpolicy, rfl⟩
  · rintro ⟨first, hfirst, hid⟩
    have hmem := (run.policyOrder.perm _).mem_iff.mp (List.mem_of_find?_eq_some hfirst)
    rw [setup.policies.eq_of_pk_eq h.stored (Table.mem_select.mp hmem).1 hid]
    exact hfirst

/-- A run records a policy for an alert exactly if the policy comes first. -/
theorem RunRecords.recordsPolicy_iff {metadata : Dict}
    (h : setup.RunRecords run alert metadata) (hpolicy : setup.Triggered run alert policy) :
    RecordsPolicy metadata policy.id ↔
      RecordsPolicy alert.metadata policy.id ∨ setup.ComesFirst run alert policy := by
  rw [hpolicy.comesFirst_iff]
  unfold RunRecords at h
  cases htriggered : setup.firstTriggered run alert with
  | none =>
      rw [htriggered] at h
      rw [h]
      simp
  | some first =>
      rw [htriggered] at h
      rw [h.recordsPolicy_iff]
      simp

/-- A policy that is triggered in every run is recorded in the end exactly if it was, or
comes first in one of the runs. -/
theorem recorded_run_iff {runs : List EscalationRun} (halert : alert ∈ db.alerts.alerts)
    (hactive : alert.status.isActive)
    (hreturns : Along setup.check (fun db run _ => setup.Returns run db) db runs)
    (hpolicy : ∀ run ∈ runs, setup.Triggered run alert policy) :
    (Library.run setup.check db runs).Recorded alert.id policy.id ↔
      RecordsPolicy alert.metadata policy.id ∨
        ∃ run ∈ runs, setup.ComesFirst run alert policy := by
  induction runs generalizing db alert with
  | nil =>
      rw [run_nil, EscalationDb.recorded_iff halert]
      simp
  | cons run runs ih =>
      obtain ⟨hfirst, hrest⟩ := List.forall_mem_cons.mp hpolicy
      obtain ⟨metadata, hrecords, hstored⟩ := check_records hreturns.1 halert hactive
      -- matching and triggers do not read the metadata
      have hlater : ∀ run ∈ runs, setup.Triggered run (alert.withMetadata metadata) policy :=
        fun run hrun => ⟨(hrest run hrun).1, (hrest run hrun).2, (hrest run hrun).3⟩
      rw [run_cons]
      refine (ih hstored hactive hreturns.2 hlater).trans ?_
      rw [AlertEvent.withMetadata, hrecords.recordsPolicy_iff hfirst, or_assoc]
      simp only [List.mem_cons, exists_eq_or_imp]
      exact Iff.rfl

/-- **Escalation is complete** exactly if each policy that is not recorded yet comes first
in one of the runs. -/
theorem recordsAll_run_iff {runs : List EscalationRun} {policies : List AlertEscalationPolicy}
    (halert : alert ∈ db.alerts.alerts) (hactive : alert.status.isActive)
    (hreturns : Along setup.check (fun db run _ => setup.Returns run db) db runs)
    (hpolicies : ∀ policy ∈ policies, ∀ run ∈ runs, setup.Triggered run alert policy) :
    (∀ policy ∈ policies, (Library.run setup.check db runs).Recorded alert.id policy.id) ↔
      ∀ policy ∈ policies, RecordsPolicy alert.metadata policy.id ∨
        ∃ run ∈ runs, setup.ComesFirst run alert policy :=
  forall₂_congr fun policy hpolicy =>
    recorded_run_iff halert hactive hreturns (hpolicies policy hpolicy)

/-! ### Two levels -/

/-- The alert of the first bank. -/
def firstBankDb : EscalationDb where
  alerts :=
    { AlertsDb.quiet firstBankDevice .empty .empty .empty .empty with
      alerts := .ofRows [firstBankAlert]
      alert_rule := by decide
      alert_storable := by decide }
  notifications := .empty

theorem firstBankAlert_mem : firstBankAlert ∈ firstBankDb.alerts.alerts :=
  List.mem_singleton.mpr rfl

/-- Nobody is told, by any policy. -/
def nobody (policies : List AlertEscalationPolicy) : EscalationSetup where
  py := AlertsDb.plainText
  directory := mixedRows
  accounts := .empty
  contact _ := {}
  collate a b := a ≤ b
  policies := .ofRows policies

/-- Critical alerts are escalated after 15 minutes. -/
def afterQuarter : AlertEscalationPolicy where
  id := 1
  severity := .critical
  ifNotAcknowledgedMinutes := some 15

/-- Critical alerts are escalated again after 30 minutes. -/
def afterHalf : AlertEscalationPolicy where
  id := 2
  severity := .critical
  ifNotAcknowledgedMinutes := some 30

/-- The time at which the trigger of both has been met for half an hour. -/
def afterHour : EscalationRun := .at 3600000000

theorem triggered_afterHour {policies : List AlertEscalationPolicy}
    (hpolicy : policy ∈ (nobody policies).policies) (h : policy ∈ [afterQuarter, afterHalf]) :
    (nobody policies).Triggered afterHour firstBankAlert policy := by
  rcases List.mem_pair.mp h with rfl | rfl
  · exact ⟨hpolicy, by decide, by decide⟩
  · exact ⟨hpolicy, by decide, by decide⟩

/-- The same, but the database returns the policies the other way round. -/
def afterHourReversed : EscalationRun :=
  { afterHour with policyOrder := ⟨List.reverse, List.reverse_perm⟩ }

/-- The database after these runs over both policies. -/
def afterRuns (runs : List EscalationRun) : EscalationDb :=
  Library.run (nobody [afterQuarter, afterHalf]).check firstBankDb runs

/-- Each level comes first in one of two runs, so both are recorded in the end. -/
theorem bothLevels_recorded :
    (afterRuns [afterHour, afterHourReversed]).Recorded 1 afterQuarter.id ∧
      (afterRuns [afterHour, afterHourReversed]).Recorded 1 afterHalf.id := by
  have htriggered : ∀ policy ∈ [afterQuarter, afterHalf], ∀ run ∈ [afterHour, afterHourReversed],
      (nobody [afterQuarter, afterHalf]).Triggered run firstBankAlert policy := by
    intro policy hpolicy run hrun
    have hstored : policy ∈ (nobody [afterQuarter, afterHalf]).policies := by
      rcases List.mem_pair.mp hpolicy with rfl | rfl
      · decide
      · decide
    obtain ⟨-, hmatching, hmet⟩ := triggered_afterHour hstored hpolicy
    rcases List.mem_pair.mp hrun with rfl | rfl
    · exact ⟨hstored, hmatching, hmet⟩
    · exact ⟨hstored, hmatching, hmet⟩
  have hall := (@recordsAll_run_iff (nobody [afterQuarter, afterHalf]) firstBankAlert firstBankDb
    [afterHour, afterHourReversed] [afterQuarter, afterHalf] firstBankAlert_mem rfl (by decide)
    htriggered).mpr fun policy hpolicy => .inr ?_
  · exact ⟨hall afterQuarter (by simp), hall afterHalf (by simp)⟩
  · rcases List.mem_pair.mp hpolicy with rfl | rfl
    · exact ⟨afterHour, List.mem_cons_self, [], [afterHalf], rfl, by simp⟩
    · exact ⟨afterHourReversed, List.mem_cons_of_mem _ List.mem_cons_self, [], [afterQuarter], rfl,
        by simp⟩

/-- The second level never comes first: two runs record the first level only. -/
theorem afterHalf_unrecorded :
    let setup := nobody [afterQuarter, afterHalf]
    let runs := [afterHour, afterHour]
    (firstBankAlert ∈ firstBankDb.alerts.alerts ∧ firstBankAlert.status.isActive) ∧
      Along setup.check (fun db run _ => setup.Returns run db) firstBankDb runs ∧
      (∀ policy ∈ [afterQuarter, afterHalf], ∀ run ∈ runs,
        setup.Triggered run firstBankAlert policy) ∧
      ¬∀ policy ∈ [afterQuarter, afterHalf],
        (Library.run setup.check firstBankDb runs).Recorded 1 policy.id := by
  refine ⟨⟨firstBankAlert_mem, rfl⟩, by decide, fun policy hpolicy run hrun => ?_, ?_⟩
  · obtain rfl : run = afterHour := by simpa using hrun
    refine triggered_afterHour ?_ hpolicy
    rcases List.mem_pair.mp hpolicy with rfl | rfl
    · decide
    · decide
  · intro hall
    exact absurd (hall afterHalf (by simp)) (by decide)

end EscalationSetup

end DcimBackend
