import DcimBackend.Notifications.Creation
import DcimBackend.Library.Run

/-!
# Escalation

`apps/alerts/services/escalation.py`, and the escalation part of
`apps/alerts/services/notifications.py`.  A run loads the active alerts and the active
policies, and escalates each alert by the first policy that matches and whose trigger is
met.  An escalation first records the policy in the metadata of the alert, then writes a
log row, then tells the recipients; the record is what keeps a later run from escalating
again.

Nothing here is in a transaction: every statement is committed on its own.  A statement
that the database or the broker refuses is a parameter, `fails`, since any of them may.

The texts are those of the source, since the database may refuse them by their length, and the log
and the notifications are found by them later.  `str.upper` is the one text function that is taken
from Python; it comes with the other texts of the engine.

A run is given by an `EscalationRun`: the clock, the order in which the database returns alerts
and policies, and `fails`.  `runAlertEscalationCheck` is a function of it, so runs one after
another are a run in the sense of `Library.Run`, and runs at the same time are
`Alerts.EscalationRaces`.
-/

namespace DcimBackend

open Library

abbrev PolicyId := ℕ

/-- `AlertEscalationPolicy`. -/
structure AlertEscalationPolicy where
  id : PolicyId
  organization : Option OrganizationId := none
  dataCenter : Option DataCenterId := none
  severity : AlertSeverity
  ifNotAcknowledgedMinutes : Option ℕ := none
  ifNotResolvedMinutes : Option ℕ := none
  targetRole : Option RoleId := none
  targetUsers : List UserId := []
  channel : NotificationChannel := .web
  isActive : Bool := true
deriving DecidableEq

instance : Keyed AlertEscalationPolicy := ⟨AlertEscalationPolicy.id⟩

@[simp] theorem pk_alertEscalationPolicy (policy : AlertEscalationPolicy) :
    pk policy = policy.id := rfl

/-! ### Which policy -/

/-- `_policy_matches`. -/
def policyMatches (alert : AlertEvent) (policy : AlertEscalationPolicy) : Bool :=
  policy.isActive && policy.severity = alert.severity &&
    policy.organization.all (· = alert.organization) &&
    policy.dataCenter.all (· = alert.dataCenter)

/-- At least so many minutes have passed. -/
def minutesPassed (since now : Instant) (minutes : ℕ) : Bool :=
  (minutes : ℤ) * 60000000 ≤ now - since

/-- `_policy_trigger_met`. -/
def policyTriggerMet (alert : AlertEvent) (policy : AlertEscalationPolicy) (now : Instant) :
    Bool :=
  (alert.status = .open &&
      policy.ifNotAcknowledgedMinutes.any (minutesPassed alert.triggeredAt now)) ||
    policy.ifNotResolvedMinutes.any
      (minutesPassed (alert.acknowledgedAt.getD alert.triggeredAt) now)

/-- `_escalation_reason`, the text of the log row. -/
def escalationReason (upper : String → String) (alert : AlertEvent)
    (policy : AlertEscalationPolicy) (deviceName : String) : String :=
  let start := "ESCALATION: " ++ alert.severity.label upper ++ " alert " ++ alert.message ++
    " on " ++ deviceName
  match if alert.status = .open then policy.ifNotAcknowledgedMinutes else none,
      policy.ifNotResolvedMinutes with
  | some minutes, _ =>
      start ++ " has not been acknowledged for " ++ toString minutes ++ " minutes."
  | none, some minutes => start ++ " has not been resolved for " ++ toString minutes ++ " minutes."
  | none, none => start ++ " requires attention."

/-- `_escalation_message`, the text of the notifications.  For an open alert the minutes are
those of the acknowledgement, also where the policy has none. -/
def escalationMessage (upper : String → String) (alert : AlertEvent)
    (policy : AlertEscalationPolicy) (deviceName : String) : String :=
  let start := "ESCALATION: " ++ alert.severity.label upper ++ " alert " ++ alert.message ++
    " on " ++ deviceName
  let minutes :=
    if alert.status = .open then policy.ifNotAcknowledgedMinutes else policy.ifNotResolvedMinutes
  if alert.status = .open ∧ policy.ifNotAcknowledgedMinutes.isSome then
    start ++ " has not been acknowledged for " ++ minutes.elim "None" toString ++ " minutes."
  else if policy.ifNotResolvedMinutes.isSome then
    start ++ " has not been resolved for " ++ minutes.elim "None" toString ++ " minutes."
  else start ++ " requires attention."

/-! ### The record -/

/-- `text in value`.  Only texts, lists and dictionaries support it. -/
def Json.contains? (text : String) : Json → Option Bool
  | .array items => some (items.any fun item => Json.eq (.scalar (.text text)) item)
  | .object fields => some (fields.lookup text).isSome
  | .scalar (.text value) => some (text.toList <:+: value.toList)
  | .scalar _ => none

/-- `metadata.get("escalated_policy_ids", [])`. -/
def escalatedPolicyIds (metadata : Dict) : Json :=
  (metadata.lookup "escalated_policy_ids").getD (.array [])

/-- The metadata records an escalation by the policy. -/
def RecordsPolicy (metadata : Dict) (policy : PolicyId) : Prop :=
  (escalatedPolicyIds metadata).contains? (toString policy) = some true

instance (metadata : Dict) (policy : PolicyId) : Decidable (RecordsPolicy metadata policy) :=
  inferInstanceAs (Decidable (_ = _))

/-- The metadata that `escalate_alert` saves, if the policy is not recorded yet. -/
def escalationMetadata (py : PyText) (metadata : Dict) (policy : PolicyId) (now : Instant) :
    Except EngineError (Option Dict) :=
  let ids := escalatedPolicyIds metadata
  match ids.contains? (toString policy) with
  | none => .error .typeError
  | some true => .ok none
  | some false =>
      match ids with
      | .array items =>
          .ok (some (Dict.merge metadata
            [scalarField "last_escalated_at" (.text (py.isoformat now)),
              scalarField "last_escalation_policy_id" (.text (toString policy)),
              ("escalated_policy_ids",
                .array (items ++ [.scalar (.text (toString policy))]))]))
      | _ => .error .attributeError

/-- The save of the record. -/
def saveEscalation (copy : AlertEvent) : Engine Unit := saveAlert copy [.metadata]

/-- The log row of an escalation. -/
def logEscalation (upper : String → String) (copy : AlertEvent) (policy : AlertEscalationPolicy)
    (deviceName : String) : Engine Unit :=
  createAlertLog
    { alertEvent := copy.id
      action := .escalated
      oldStatus := some copy.status
      newStatus := some copy.status
      message := some (escalationReason upper copy policy deviceName)
      metadata := [scalarField "policy_id" (.text (toString policy.id))] }

/-- A log row is that of an escalation of the alert by the policy. -/
def AlertEventLog.Escalates (log : AlertEventLog) (alert : AlertId) (policy : PolicyId) : Prop :=
  log.alertEvent = alert ∧ log.action = .escalated ∧
    Dict.hasText log.metadata "policy_id" (toString policy)

instance (log : AlertEventLog) (alert : AlertId) (policy : PolicyId) :
    Decidable (log.Escalates alert policy) :=
  inferInstanceAs (Decidable (_ ∧ _))

/-! ### The recipients -/

/-- A statement of an escalation that the database or the broker may refuse. -/
inductive EscalationPoint
  | saveMetadata
  | createLog
  | targetUsers
  | roleUsers
  | superusers
  /-- The access rows of a user. -/
  | accessRows (user : UserId)
  /-- The lookup or the insertion of a notification. -/
  | notification (channel : NotificationChannel) (user : UserId)
  /-- The queueing of its delivery. -/
  | queueDelivery (channel : NotificationChannel) (user : UserId)
deriving DecidableEq

/-- What an escalation raises. -/
inductive EscalationError
  | engine (e : EngineError)
  | notification (e : NotificationError)
  | refused (point : EscalationPoint)
deriving DecidableEq

/-- What escalations read and never write. -/
structure EscalationSetup where
  py : PyText
  directory : Directory
  accounts : Table Account
  contact : UserId → Contact
  /-- The database's order of texts. -/
  collate : String → String → Bool
  policies : Table AlertEscalationPolicy

namespace EscalationSetup

variable (setup : EscalationSetup)

/-- `alert.device.name`. -/
def deviceName (alert : AlertEvent) : String :=
  (setup.directory.hierarchy.devices.find alert.device).elim "unknown device" fun device =>
    device.name

/-- `.distinct().order_by("username", "id")`. -/
def ordered (users : List Account) : List Account :=
  users.dedup.insertionSort fun a b =>
    if a.username = b.username then a.id ≤ b.id else setup.collate a.username b.username

/-- `_has_alert_scope`. -/
def hasAlertScope (user : Account) (alert : AlertEvent) : Bool :=
  user.isActive &&
    (user.isSuperuser ||
      let scope := setup.directory.getAccessScope (some user.toUser)
      scope.globalAccess || Level.all.any fun level =>
        (alert.key setup.directory.hierarchy level).any fun id => id ∈ scope.ids level)

/-- The active users that `_alert_scope_condition` selects among some. -/
def scopedUsers (alert : AlertEvent) (users : List Account) : List Account :=
  setup.ordered (filterJoin setup.directory.dataCenterRoles
    (setup.directory.alertScopeCondition alert) (users.filter fun user => user.isActive))

/-- The target users of a policy. -/
def targetUsers (alert : AlertEvent) (policy : AlertEscalationPolicy) : List Account :=
  setup.scopedUsers alert (setup.accounts.select fun user => user.id ∈ policy.targetUsers)

/-- The users with an active row of a role. -/
def roleUsers (alert : AlertEvent) (role : RoleId) : List Account :=
  setup.scopedUsers alert (filterJoin setup.directory.dataCenterRoles
    (fun _ row => row.any fun row => row.isActive && row.role = role) setup.accounts.rows)

/-- The active superusers. -/
def superusers : List Account :=
  setup.ordered (setup.accounts.select fun user => user.isSuperuser && user.isActive)

variable (fails : EscalationPoint → Bool)

/-- `_append` for each of some users, until one raises.  The second component says whether
none did. -/
def appendUsers (alert : AlertEvent) :
    List Account → List Account → List Account × Bool
  | recipients, [] => (recipients, true)
  | recipients, user :: users =>
      if user.isActive = false ∨ user.id ∈ recipients.map (fun user => user.id) then
        appendUsers alert recipients users
      else if user.isSuperuser = false ∧ fails (.accessRows user.id) then (recipients, false)
      else if setup.hasAlertScope user alert then
        appendUsers alert (recipients ++ [user]) users
      else appendUsers alert recipients users

/-- `_append` for the users of a query that is not guarded. -/
def appendQuery (alert : AlertEvent) (point : EscalationPoint) (recipients users : List Account) :
    Except EscalationError (List Account) :=
  if fails point then .error (.refused point)
  else
    match setup.appendUsers fails alert recipients users with
    | (recipients, true) => .ok recipients
    | (_, false) => .error (.refused point)

/-- `get_escalation_recipients`.  What the target users raise is swallowed. -/
def getEscalationRecipients (alert : AlertEvent) (policy : AlertEscalationPolicy) :
    Except EscalationError (List Account) := do
  let recipients :=
    if fails .targetUsers then []
    else (setup.appendUsers fails alert [] (setup.targetUsers alert policy)).1
  let recipients ←
    match policy.targetRole with
    | some role =>
        setup.appendQuery fails alert .roleUsers recipients (setup.roleUsers alert role)
    | none => .ok recipients
  if recipients = [] then
    setup.appendQuery fails alert .superusers recipients setup.superusers
  else return recipients

end EscalationSetup

/-! ### The notifications -/

/-- What an escalation tells whom, and how. -/
structure EscalationNotice where
  alert : AlertId
  policy : PolicyId
  channel : NotificationChannel
  user : UserId
deriving DecidableEq

/-- The key of `_create_escalation_notification`. -/
def EscalationNotice.dedupeKey (notice : EscalationNotice) : String :=
  "alert:" ++ toString notice.alert ++ ":ESCALATED:" ++ toString notice.policy ++ ":" ++
    notice.channel.value ++ ":" ++ toString notice.user

/-- The channels of a policy. -/
def AlertEscalationPolicy.channels (policy : AlertEscalationPolicy) : List NotificationChannel :=
  if policy.channel.value ≠ "" ∧ policy.channel.value ≠ "WEB" then [.web, policy.channel]
  else [.web]

/-- The row of an escalation notification. -/
def escalationRow (alert : AlertEvent) (notice : EscalationNotice) (subject message : String)
    (now : Instant) : NotificationRow where
  organization := alert.organization
  recipient := some notice.user
  channel := notice.channel
  dedupeKey := some notice.dedupeKey
  subject := some subject
  message := message
  metadata := .object
    [scalarField "alert_event_id" (.text (toString notice.alert)),
      scalarField "alert_status" (.text alert.status.value),
      scalarField "severity" (.text alert.severity.value),
      scalarField "device_id" (.text (toString alert.device)),
      scalarField "metric_id" (alert.metric.elim .none fun id => .text (toString id)),
      scalarField "action" (.text "ESCALATED"),
      scalarField "policy_id" (.text (toString notice.policy))]
  createdAt := now
  updatedAt := now

/-- What an escalation writes. -/
structure EscalationDb where
  alerts : AlertsDb
  notifications : NotificationsDb

/-- A computation of the escalation. -/
abbrev Escalator := Tx EscalationError EscalationDb

/-- A computation on the alert tables. -/
def Escalator.onAlerts {α : Type} (x : Engine α) : Escalator α := fun db =>
  match x db.alerts with
  | (.ok a, alerts) => (.ok a, { db with alerts := alerts })
  | (.error e, alerts) => (.error (.engine e), { db with alerts := alerts })

/-- A computation on the notifications. -/
def Escalator.onNotifications {α : Type} (x : Tx NotificationError NotificationsDb α) :
    Escalator α := fun db =>
  match x db.notifications with
  | (.ok a, notifications) => (.ok a, { db with notifications := notifications })
  | (.error e, notifications) =>
      (.error (.notification e), { db with notifications := notifications })

/-- A statement that may be refused. -/
def Escalator.attempt {α : Type} (fails : EscalationPoint → Bool) (point : EscalationPoint)
    (x : Escalator α) : Escalator α :=
  if fails point then Tx.raise (.refused point) else x

namespace EscalationSetup

variable (setup : EscalationSetup) (fails : EscalationPoint → Bool)

/-- `_create_escalation_notification`, and the queueing of the delivery behind it.  A key
that is in use is not an error. -/
def createEscalationNotification (alert : AlertEvent) (notice : EscalationNotice)
    (subject message : String) (now : Instant) : Escalator Unit :=
  if (setup.contact notice.user).reaches notice.channel then
    Escalator.attempt fails (.notification notice.channel notice.user) do
      match ← Escalator.onNotifications
          (Tx.read fun db => db.findByKey notice.dedupeKey) with
      | some _ => return
      | none => do
          match ← Tx.handle
              (some <$> Escalator.onNotifications
                (insertNotification (escalationRow alert notice subject message now)))
              (fun
                | .notification .integrityError => return none
                | e => Tx.raise e) with
          | some _ =>
              Escalator.attempt fails (.queueDelivery notice.channel notice.user) (return)
          | none => return
  else return

/-- The positions of the loop, in its order. -/
def escalationNotices (alert : AlertEvent) (policy : AlertEscalationPolicy)
    (recipients : List Account) : List EscalationNotice :=
  recipients.flatMap fun user =>
    policy.channels.map fun channel => ⟨alert.id, policy.id, channel, user.id⟩

/-- The loop over recipients and channels. -/
def notifyEscalation (alert : AlertEvent) (subject message : String) (now : Instant) :
    List EscalationNotice → Escalator Unit
  | [] => return
  | notice :: notices => do
      setup.createEscalationNotification fails alert notice subject message now
      notifyEscalation alert subject message now notices

/-- The subject of the notifications. -/
def escalationSubject (alert : AlertEvent) : String :=
  "ALERT ESCALATED: " ++ setup.deviceName alert

/-- `create_notifications_for_alert_escalated`. -/
def createNotificationsForAlertEscalated (alert : AlertEvent) (policy : AlertEscalationPolicy)
    (now : Instant) : Escalator Unit :=
  match setup.getEscalationRecipients fails alert policy with
  | .error e => Tx.raise e
  | .ok recipients =>
      setup.notifyEscalation fails alert (setup.escalationSubject alert)
        (escalationMessage setup.py.upper alert policy (setup.deviceName alert)) now
        (escalationNotices alert policy recipients)

/-- `escalate_alert`. -/
def escalateAlert (alert : AlertEvent) (policy : AlertEscalationPolicy) (now : Instant) :
    Escalator (Option AlertEvent) :=
  match escalationMetadata setup.py alert.metadata policy.id now with
  | .error e => Tx.raise (.engine e)
  | .ok none => return none
  | .ok (some metadata) => do
      let copy := { alert with metadata := metadata }
      Escalator.attempt fails .saveMetadata (Escalator.onAlerts (saveEscalation copy))
      Escalator.attempt fails .createLog
        (Escalator.onAlerts (logEscalation setup.py.upper copy policy (setup.deviceName copy)))
      setup.createNotificationsForAlertEscalated fails copy policy now
      return some copy

end EscalationSetup

/-! ### A run -/

/-- An order in which PostgreSQL returns rows.  Neither table has one of its own. -/
structure RowOrder (α : Type) where
  arrange : List α → List α
  perm : ∀ rows, (arrange rows).Perm rows

/-- The rows as they are stored. -/
def RowOrder.stored {α : Type} : RowOrder α := ⟨id, fun rows => .refl rows⟩

/-- What the environment chooses of a run: the clock, the order of the rows, and what is
refused. -/
structure EscalationRun where
  now : Instant
  escalatedAt : AlertId → Instant
  alertOrder : RowOrder AlertEvent
  policyOrder : RowOrder AlertEscalationPolicy
  fails : EscalationPoint → Bool

/-- A run in which nothing is refused. -/
def EscalationRun.at (now : Instant) : EscalationRun where
  now := now
  escalatedAt _ := now
  alertOrder := .stored
  policyOrder := .stored
  fails _ := false

namespace EscalationSetup

variable (setup : EscalationSetup)

/-- The first policy that matches and whose trigger is met. -/
def firstTriggered (run : EscalationRun) (alert : AlertEvent) : Option AlertEscalationPolicy :=
  (run.policyOrder.arrange (setup.policies.select fun policy => policy.isActive)).find?
    fun policy => policyMatches alert policy && policyTriggerMet alert policy run.now

/-- The inner loop.  It ends at the first policy that is triggered, whether the policy was
recorded or not. -/
def escalateFirst (run : EscalationRun) (alert : AlertEvent) : Escalator (Option AlertEvent) :=
  match setup.firstTriggered run alert with
  | none => return none
  | some policy => setup.escalateAlert run.fails alert policy (run.escalatedAt alert.id)

/-- The outer loop, over the alerts that the run has loaded. -/
def escalateAll (run : EscalationRun) : List AlertEvent → Escalator (List AlertEvent)
  | [] => return []
  | alert :: alerts => do
      let result ← setup.escalateFirst run alert
      let others ← escalateAll run alerts
      return result.toList ++ others

/-- `run_alert_escalation_check`. -/
def runAlertEscalationCheck (run : EscalationRun) : Escalator (List AlertEvent) := do
  let alerts ← Tx.read fun db =>
    run.alertOrder.arrange (db.alerts.alerts.select fun alert => alert.status.isActive)
  setup.escalateAll run alerts

/-- The state after a run, whether it returned or raised. -/
def check (db : EscalationDb) (run : EscalationRun) : EscalationDb :=
  (setup.runAlertEscalationCheck run db).2

end EscalationSetup

/-! ### What the record says -/

/-- A list records one more policy after an append. -/
theorem Json.contains?_append {items : List Json} {text other : String} :
    (Json.array (items ++ [.scalar (.text text)])).contains? other = some true ↔
      (Json.array items).contains? other = some true ∨ other = text := by
  simp only [contains?, Option.some.injEq, List.any_append, Bool.or_eq_true, List.any_cons,
    List.any_nil, Bool.or_false]
  refine or_congr_right ?_
  simp [Json.eq, PyValue.eq, PyValue.number?]

theorem escalationMetadata_none_iff {py : PyText} {metadata : Dict} {policy : PolicyId}
    {now : Instant} :
    escalationMetadata py metadata policy now = .ok none ↔ RecordsPolicy metadata policy := by
  unfold escalationMetadata RecordsPolicy
  dsimp only
  split
  · rename_i hnone
    rw [hnone]
    exact iff_of_false (by simp) (by simp)
  · rename_i hsome
    exact iff_of_true rfl hsome
  · rename_i hfalse
    rw [hfalse]
    split
    · exact iff_of_false (by simp) (by simp)
    · exact iff_of_false (by simp) (by simp)

/-- **The record after an escalation** has the policy, which it had not before, and all
others that it had. -/
theorem recordsPolicy_escalationMetadata {py : PyText} {metadata metadata' : Dict}
    {policy : PolicyId} {now : Instant}
    (h : escalationMetadata py metadata policy now = .ok (some metadata')) :
    ¬RecordsPolicy metadata policy ∧
      ∀ other, RecordsPolicy metadata' other ↔ RecordsPolicy metadata other ∨ other = policy := by
  unfold escalationMetadata at h
  dsimp only at h
  split at h
  · cases h
  · cases h
  · rename_i hfalse
    refine ⟨fun hrecords => ?_, fun other => ?_⟩
    · rw [RecordsPolicy, hfalse] at hrecords
      cases hrecords
    · split at h
      · rename_i items hitems
        obtain rfl := Option.some.inj (Except.ok.inj h)
        have hids : escalatedPolicyIds (Dict.merge metadata
            [scalarField "last_escalated_at" (.text (py.isoformat now)),
              scalarField "last_escalation_policy_id" (.text (toString policy)),
              ("escalated_policy_ids",
                .array (items ++ [.scalar (.text (toString policy))]))]) =
            .array (items ++ [.scalar (.text (toString policy))]) := by
          rw [escalatedPolicyIds, Dict.lookup_merge]
          rfl
        rw [RecordsPolicy, hids, Json.contains?_append, RecordsPolicy, hitems, toString_nat_inj]
      · cases h

/-- A policy that is not recorded can be recorded exactly if the records are a list. -/
theorem exists_escalationMetadata_iff {py : PyText} {metadata : Dict} {policy : PolicyId}
    {now : Instant} (hnew : ¬RecordsPolicy metadata policy) :
    (∃ metadata', escalationMetadata py metadata policy now = .ok (some metadata')) ↔
      ∃ items, escalatedPolicyIds metadata = .array items := by
  unfold RecordsPolicy at hnew
  unfold escalationMetadata
  dsimp only
  constructor
  · rintro ⟨metadata', h⟩
    split at h
    · cases h
    · cases h
    · split at h
      · rename_i items hitems
        exact ⟨items, hitems⟩
      · cases h
  · rintro ⟨items, hitems⟩
    have hfalse : (Json.array items).contains? (toString policy) = some false := by
      rw [hitems, Json.contains?, Option.some.injEq, Bool.not_eq_true] at hnew
      rw [Json.contains?, hnew]
    rw [hitems, hfalse]
    exact ⟨_, rfl⟩

/-- An escalation writes three fields. -/
theorem lookup_escalationMetadata {py : PyText} {metadata metadata' : Dict} {policy : PolicyId}
    {now : Instant} (h : escalationMetadata py metadata policy now = .ok (some metadata'))
    {key : String} (hkey : key ∉ ["last_escalated_at", "last_escalation_policy_id",
      "escalated_policy_ids"]) :
    metadata'.lookup key = metadata.lookup key := by
  simp only [List.mem_cons, List.not_mem_nil, or_false, not_or] at hkey
  unfold escalationMetadata at h
  dsimp only at h
  split at h
  · cases h
  · cases h
  · split at h
    · obtain rfl := Option.some.inj (Except.ok.inj h)
      have hnone : ∀ a b c : Json, List.lookup key [("last_escalated_at", a),
          ("last_escalation_policy_id", b), ("escalated_policy_ids", c)] = none := by
        intro a b c
        simp only [List.lookup_cons, List.lookup_nil]
        rw [beq_false_of_ne hkey.1, beq_false_of_ne hkey.2.1, beq_false_of_ne hkey.2.2]
      rw [Dict.lookup_merge, scalarField, scalarField, hnone]
      rfl
    · cases h

/-- The record can be stored where the metadata before it was. -/
theorem storable_escalationMetadata {py : PyText} {metadata metadata' : Dict} {policy : PolicyId}
    {now : Instant} (h : escalationMetadata py metadata policy now = .ok (some metadata'))
    (hstorable : metadata.storable) : metadata'.storable := by
  unfold escalationMetadata at h
  dsimp only at h
  split at h
  · cases h
  · cases h
  · split at h
    · rename_i items hitems
      obtain rfl := Option.some.inj (Except.ok.inj h)
      have hids : (Json.array items).storable := by
        rw [← hitems, escalatedPolicyIds]
        cases hlookup : metadata.lookup "escalated_policy_ids" with
        | none => rfl
        | some value => exact Dict.storable_of_lookup hstorable hlookup
      have hnew : (Json.array (items ++ [.scalar (.text (toString policy))])).storable := by
        rw [Json.storable] at hids ⊢
        rw [Json.storableItems_append, hids]
        rfl
      refine Dict.storable_merge hstorable (Dict.storable_iff.mpr ?_)
      simp only [List.mem_cons, List.not_mem_nil, or_false]
      rintro field (rfl | rfl | rfl)
      · rfl
      · rfl
      · exact hnew
    · cases h

/-! ### What an escalation does -/

/-- The alert with other metadata. -/
def AlertEvent.withMetadata (alert : AlertEvent) (metadata : Dict) : AlertEvent :=
  { alert with metadata := metadata }

/-- The log row of an escalation. -/
def escalationLog (upper : String → String) (alert : AlertEvent) (policy : AlertEscalationPolicy)
    (deviceName : String) : AlertEventLog where
  alertEvent := alert.id
  action := .escalated
  oldStatus := some alert.status
  newStatus := some alert.status
  message := some (escalationReason upper alert policy deviceName)
  metadata := [scalarField "policy_id" (.text (toString policy.id))]

theorem escalates_escalationLog {upper : String → String} {alert : AlertEvent}
    {policy : AlertEscalationPolicy} {deviceName : String} {id : AlertId} {policyId : PolicyId} :
    (escalationLog upper alert policy deviceName).Escalates id policyId ↔
      alert.id = id ∧ policy.id = policyId := by
  have htext : Dict.hasText (escalationLog upper alert policy deviceName).metadata "policy_id"
      (toString policyId) ↔ policy.id = policyId := by
    rw [Dict.hasText_iff, ← @toString_nat_inj policy.id policyId]
    simp [escalationLog, scalarField]
  rw [AlertEventLog.Escalates, htext]
  simp [escalationLog]

theorem logEscalation_apply {upper : String → String} {alert : AlertEvent}
    {policy : AlertEscalationPolicy} {deviceName : String} {db : AlertsDb} :
    logEscalation upper alert policy deviceName db =
      (.ok ⟨⟩, db.putLog (escalationLog upper alert policy deviceName)) :=
  createAlertLog_eq_ok_iff.mpr ⟨⟨rfl, rfl⟩, rfl⟩

/-- The record of a stored row can be saved, and replaces its metadata. -/
theorem saveEscalation_spec {alert : AlertEvent} {metadata : Dict} {db : AlertsDb}
    (halert : alert ∈ db.alerts) (hstorable : metadata.storable) :
    ∃ db', saveEscalation (alert.withMetadata metadata) db = (.ok ⟨⟩, db') ∧
      db'.alerts = db.alerts.save (alert.withMetadata metadata) ∧ db'.logs = db.logs := by
  have hfind : db.alerts.find (alert.withMetadata metadata).id = some alert :=
    Table.find_pk halert
  have hwrite : AlertEvent.write [.metadata] (alert.withMetadata metadata) alert =
      alert.withMetadata metadata := rfl
  have hcount := db.alert_storable alert halert
  have hrow : (alert.withMetadata metadata).storable := by
    rw [AlertEvent.storable, Bool.and_eq_true] at hcount ⊢
    exact ⟨hstorable, hcount.2⟩
  refine ⟨db.putAlert _ hrow (db.alert_rule alert halert), ?_, rfl, rfl⟩
  simp only [saveEscalation, saveAlert, hfind, hwrite]
  exact saveAlertRow_apply hrow (db.alert_rule alert halert)

namespace EscalationSetup

variable {setup : EscalationSetup} {fails : EscalationPoint → Bool} {alert : AlertEvent}
  {policy : AlertEscalationPolicy} {now : Instant} {db : EscalationDb}

theorem escalateAlert_of_recorded (h : RecordsPolicy alert.metadata policy.id) :
    setup.escalateAlert fails alert policy now db = (.ok none, db) := by
  have hnone : escalationMetadata setup.py alert.metadata policy.id now = .ok none :=
    escalationMetadata_none_iff.mpr h
  rw [escalateAlert, hnone]
  rfl

/-- **An escalation** of a stored alert that is not recorded: the record, the log row, the
notifications, up to the first statement that is refused. -/
theorem escalateAlert_of_new {metadata : Dict} (halert : alert ∈ db.alerts.alerts)
    (hmetadata : escalationMetadata setup.py alert.metadata policy.id now = .ok (some metadata)) :
    ∃ saved, saveEscalation (alert.withMetadata metadata) db.alerts = (.ok ⟨⟩, saved) ∧
      saved.alerts = db.alerts.alerts.save (alert.withMetadata metadata) ∧
      saved.logs = db.alerts.logs ∧
      setup.escalateAlert fails alert policy now db =
        if fails .saveMetadata then (.error (.refused .saveMetadata), db)
        else if fails .createLog then
          (.error (.refused .createLog), { db with alerts := saved })
        else
          match setup.createNotificationsForAlertEscalated fails (alert.withMetadata metadata)
              policy now { db with
                alerts := saved.putLog
                  (escalationLog setup.py.upper alert policy (setup.deviceName alert)) } with
          | (.ok _, db') => (.ok (some (alert.withMetadata metadata)), db')
          | (.error e, db') => (.error e, db') := by
  have hstorable : metadata.storable := by
    refine storable_escalationMetadata hmetadata ?_
    have hrow := db.alerts.alert_storable alert halert
    rw [AlertEvent.storable, Bool.and_eq_true] at hrow
    exact hrow.1
  obtain ⟨saved, hsave, halerts, hlogs⟩ := saveEscalation_spec halert hstorable
  refine ⟨saved, hsave, halerts, hlogs, ?_⟩
  have honSave : Escalator.onAlerts (saveEscalation (alert.withMetadata metadata)) db =
      (.ok ⟨⟩, { db with alerts := saved }) := by
    rw [Escalator.onAlerts, hsave]
  have honLog : Escalator.onAlerts (logEscalation setup.py.upper (alert.withMetadata metadata)
      policy (setup.deviceName (alert.withMetadata metadata))) { db with alerts := saved } =
      (.ok ⟨⟩, { db with
        alerts := saved.putLog
          (escalationLog setup.py.upper alert policy (setup.deviceName alert)) }) := by
    rw [Escalator.onAlerts, logEscalation_apply]
    rfl
  rw [escalateAlert, hmetadata]
  dsimp only
  by_cases hsaves : fails .saveMetadata
  · rw [if_pos hsaves, Escalator.attempt, if_pos hsaves]
    rfl
  rw [if_neg hsaves, Escalator.attempt, if_neg hsaves]
  refine (Tx.bind_of_ok honSave).trans ?_
  by_cases hlog : fails .createLog
  · rw [if_pos hlog, Escalator.attempt, if_pos hlog]
    rfl
  rw [if_neg hlog, Escalator.attempt, if_neg hlog]
  refine (Tx.bind_of_ok honLog).trans ?_
  rcases hnotify : setup.createNotificationsForAlertEscalated fails (alert.withMetadata metadata)
      policy now { db with
        alerts := saved.putLog
          (escalationLog setup.py.upper alert policy (setup.deviceName alert)) } with
    ⟨e | u, db'⟩
  · exact Tx.bind_of_error hnotify
  · exact Tx.bind_of_ok hnotify

end EscalationSetup

end DcimBackend
