import DcimBackend.Access.ViewSets
import DcimBackend.Alerts.Statements
import DcimBackend.Library.Fallible

/-!
# Alert rules over the API

`AlertRuleSerializer` and `AlertRuleViewSet`.  The serializer validates nothing of its own:
which organization a rule may be given is not checked, only that the rest of the row agrees
with it (`AlertRule.clean`).

The lack of a check is a behaviour of the source and is kept; what follows from it for a user is
said in `Api.Writes`.  `below_of_fullClean` is what the rest of the row owes to `clean`.
-/

namespace DcimBackend

open Library

/-- The attributes a request sets on a rule; `none` leaves a column as it is. -/
structure AlertRuleAttrs where
  organization : Option OrganizationId := none
  dataCenter : Option (Option DataCenterId) := none
  deviceType : Option (Option DeviceTypeId) := none
  device : Option (Option DeviceId) := none
  metric : Option MetricId := none
  name : Option String := none
  operator : Option AlertOperator := none
  thresholdFloat : Option (Option PyFloat) := none
  thresholdInteger : Option (Option ℤ) := none
  thresholdBoolean : Option (Option Bool) := none
  thresholdText : Option (Option String) := none
  severity : Option AlertSeverity := none
  durationSeconds : Option ℕ := none
  isActive : Option Bool := none
  messageTemplate : Option (Option String) := none

namespace AlertRuleAttrs

variable (attrs : AlertRuleAttrs)

/-- `for attr, value in validated_data.items(): setattr(instance, attr, value)`. -/
def apply (rule : AlertRule) : AlertRule where
  id := rule.id
  organization := attrs.organization.getD rule.organization
  dataCenter := attrs.dataCenter.getD rule.dataCenter
  deviceType := attrs.deviceType.getD rule.deviceType
  device := attrs.device.getD rule.device
  metric := attrs.metric.getD rule.metric
  name := attrs.name.getD rule.name
  operator := attrs.operator.getD rule.operator
  thresholdFloat := attrs.thresholdFloat.getD rule.thresholdFloat
  thresholdInteger := attrs.thresholdInteger.getD rule.thresholdInteger
  thresholdBoolean := attrs.thresholdBoolean.getD rule.thresholdBoolean
  thresholdText := attrs.thresholdText.getD rule.thresholdText
  severity := attrs.severity.getD rule.severity
  durationSeconds := attrs.durationSeconds.getD rule.durationSeconds
  isActive := attrs.isActive.getD rule.isActive
  messageTemplate := attrs.messageTemplate.getD rule.messageTemplate
  createdAt := rule.createdAt

/-- The required fields that are not given. -/
def missing : FieldErrors :=
  missingFields
    [("organization", attrs.organization.isSome), ("metric", attrs.metric.isSome),
      ("name", attrs.name.isSome), ("operator", attrs.operator.isSome)]

end AlertRuleAttrs

namespace AlertsDb

variable (db : AlertsDb)

/-- The row of a rule that `save` validates. -/
def cleanedRule (rule : AlertRule) : Except RequestError AlertRule :=
  match rule.fullClean db with
  | .ok _ => .ok rule
  | .error .doesNotExist => .error .doesNotExist
  | .error (.invalid errors) => .error (.invalid errors)

/-- The rule that a `POST` creates. -/
def createdRule (attrs : AlertRuleAttrs) (now : Instant) : Except RequestError AlertRule :=
  match attrs.organization, attrs.metric, attrs.name, attrs.operator with
  | some organization, some metric, some name, some operator =>
      db.cleanedRule (attrs.apply
        { id := db.rules.nextPk
          organization := organization
          metric := metric
          name := name
          operator := operator
          createdAt := now })
  | _, _, _, _ => .error (.invalid attrs.missing)

/-- What an update makes of a rule. -/
def updatedRule (method : UpdateMethod) (rule : AlertRule) (attrs : AlertRuleAttrs) :
    Except RequestError AlertRule := do
  method.checkMissing attrs.missing
  db.cleanedRule (attrs.apply rule)

end AlertsDb

instance : Scoped AlertRule where
  model := .alertRule
  key rule level :=
    match level with
    | .organization => some rule.organization
    | .dataCenter => rule.dataCenter
    | .device => rule.device
    | .room | .rack => none

/-! ### What `clean` accepts -/

namespace AlertRule

variable {db : AlertsDb} {rule : AlertRule}

theorem proper_cleanErrors : (rule.cleanErrors db).Proper := by
  have hthresholds : ∀ (fields : List (String × Bool)) (errors : FieldErrors), errors.Proper →
      (fields.foldl (fun errors field => errors.append field.1
        "Exactly one threshold field must be set.") errors).Proper := by
    intro fields
    induction fields with
    | nil => exact fun errors h => h
    | cons field fields ih => exact fun errors h => ih _ h.append
  have hfirst : FieldErrors.Proper
      (if (rule.thresholdFields.filter fun field => field.2).length ≠ 1 then
        rule.thresholdFields.foldl (fun (errors : FieldErrors) field => errors.append field.1
          "Exactly one threshold field must be set.") []
      else []) := by
    split
    · exact hthresholds _ _ FieldErrors.proper_nil
    · exact FieldErrors.proper_nil
  unfold cleanErrors
  dsimp only
  refine .check (.check ?_)
  split
  · exact hfirst
  · exact hfirst.check.check.check

/-- What the check of the device and of the data center lets through. -/
theorem cleanErrors_eq_nil (h : rule.cleanErrors db = []) :
    db.hierarchy.dataCenterElsewhere rule.dataCenter (some rule.organization) = false ∧
      ∀ device, rule.device.bind db.hierarchy.devices.find = some device →
        device.organization = rule.organization := by
  unfold cleanErrors at h
  dsimp only at h
  have hscope := (FieldErrors.check_eq_nil_iff.mp h).1
  obtain ⟨hdevices, hhere⟩ := FieldErrors.check_eq_nil_iff.mp hscope
  refine ⟨by simpa using hhere, fun device hdevice => ?_⟩
  rw [hdevice] at hdevices
  simpa using
    (FieldErrors.check_eq_nil_iff.mp
      (FieldErrors.check_eq_nil_iff.mp (FieldErrors.check_eq_nil_iff.mp hdevices).1).1).2

/-- **A rule that `full_clean` accepts** lies below its organization. -/
theorem below_of_fullClean {u : Unit} (h : rule.fullClean db = .ok u) :
    Below db.hierarchy rule.organization rule := by
  unfold fullClean at h
  split at h
  · rename_i hkeys
    dsimp only at h
    split at h
    · rename_i herrors
      have hclean := (FieldErrors.merge_eq_nil_iff proper_cleanErrors).mp herrors
      obtain ⟨hhere, hdevices⟩ := cleanErrors_eq_nil hclean.2
      simp only [keysExist, Bool.and_eq_true, Option.all_eq_true] at hkeys
      obtain ⟨⟨⟨⟨-, hdataCenter⟩, -⟩, hdevice⟩, -⟩ := hkeys
      refine ⟨rfl, fun level id hkey => ?_⟩
      cases level with
      | organization =>
          obtain rfl : rule.organization = id := Option.some.inj hkey
          exact Relation.ReflTransGen.refl
      | dataCenter =>
          have hkey : rule.dataCenter = some id := hkey
          rw [hkey] at hhere
          exact above_of_not_dataCenterElsewhere (hdataCenter id hkey) hhere
      | device =>
          have hkey : rule.device = some id := hkey
          obtain ⟨device, hmem, hpk, hfind⟩ := Table.exists_mem_of_isSome (hdevice id hkey)
          have hsame := hdevices device (by rw [hkey]; exact hfind)
          obtain rfl : device.id = id := hpk
          rw [← hsame]
          exact Relation.ReflTransGen.single (.deviceOrganization hmem)
      | room => cases hkey
      | rack => cases hkey
    · cases h
  · cases h

end AlertRule

namespace AlertsDb

variable {db : AlertsDb} {rule row : AlertRule} {attrs : AlertRuleAttrs}

theorem cleanedRule_ok (h : db.cleanedRule rule = .ok row) :
    row = rule ∧ Below db.hierarchy row.organization row := by
  unfold cleanedRule at h
  split at h
  · rename_i hclean
    obtain rfl := Except.ok.inj h
    exact ⟨rfl, AlertRule.below_of_fullClean hclean⟩
  · cases h
  · cases h

/-- A created rule has the organization that the request names. -/
theorem createdRule_ok {now : Instant} (h : db.createdRule attrs now = .ok row) :
    attrs.organization = some row.organization ∧ Below db.hierarchy row.organization row := by
  unfold createdRule at h
  split at h
  · rename_i organization metric name operator horganization _ _ _
    obtain ⟨rfl, hbelow⟩ := cleanedRule_ok h
    refine ⟨?_, hbelow⟩
    simp [AlertRuleAttrs.apply, horganization]
  · cases h

/-- An updated rule has the organization that the request names, or else its own. -/
theorem updatedRule_ok {method : UpdateMethod} (h : db.updatedRule method rule attrs = .ok row) :
    row.id = rule.id ∧ row.organization = attrs.organization.getD rule.organization ∧
      Below db.hierarchy row.organization row := by
  obtain ⟨_, -, hclean⟩ := bind_eq_ok_iff.mp h
  obtain ⟨rfl, hbelow⟩ := cleanedRule_ok hclean
  exact ⟨rfl, rfl, hbelow⟩

end AlertsDb

end DcimBackend
