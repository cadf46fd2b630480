import DcimBackend.Alerts.Lifecycle
import DcimBackend.Library.Run
import Mathlib.Data.Set.Defs

/-!
# Suppression windows of one scope

`AlertSuppressionWindow.clean` refuses a window that overlaps another active one of its scope.
A save writes the whole row that `full_clean` has accepted, under its key, so it may move the
times of a window, change its scope and switch it on or off.

`WindowsDisjoint` is what the check is for, and `windowsDisjoint_run` that no sequence of saves
leaves it.

The scope is compared as it is stored, a null with a null, while a window with a null covers
everything there (`AlertSuppressionWindow.covers`).  So windows of different scopes may well cover
one row at a time, and the theorem is about those of one scope alone.
-/

namespace DcimBackend

open Library

namespace AlertSuppressionWindow

/-- The instants of a window, in `[starts_at, ends_at)`. -/
def interval (window : AlertSuppressionWindow) : Set Instant :=
  {t | (∃ starts ∈ window.startsAt, starts ≤ t) ∧ ∃ ends ∈ window.endsAt, t < ends}

/-- No instant is in both windows. -/
def Apart (window other : AlertSuppressionWindow) : Prop :=
  ∀ t ∈ window.interval, t ∉ other.interval

/-- The scope of a window: four columns, some of them null. -/
def scope (window : AlertSuppressionWindow) :
    Option OrganizationId × Option DataCenterId × Option DeviceId × Option MetricId :=
  (window.organization, window.dataCenter, window.device, window.metric)

/-- The window starts before it ends. -/
def Forward (window : AlertSuppressionWindow) : Prop :=
  ∃ starts ends, window.startsAt = some starts ∧ window.endsAt = some ends ∧ starts < ends

variable {db : AlertsDb} {window other : AlertSuppressionWindow} {starts ends : Instant}

theorem mem_interval_iff (hstarts : window.startsAt = some starts)
    (hends : window.endsAt = some ends) {t : Instant} :
    t ∈ window.interval ↔ starts ≤ t ∧ t < ends := by
  rw [interval, Set.mem_ofPred_eq, hstarts, hends]
  simp

theorem Apart.symm (h : window.Apart other) : other.Apart window := fun t ht ht' => h t ht' ht

theorem proper_cleanErrors : (window.cleanErrors db).Proper := by
  unfold cleanErrors
  dsimp only
  -- the checks of the columns, and then one for the device and one for the overlap, if any
  rcases window.device.bind db.hierarchy.devices.find with _ | device <;>
    rcases window.startsAt with _ | starts <;> rcases window.endsAt with _ | ends <;>
      repeat' first
        | exact FieldErrors.proper_nil
        | apply FieldErrors.Proper.check

theorem fieldErrors_eq_nil_iff :
    window.fieldErrors = [] ↔
      window.organization ≠ none ∧ window.startsAt ≠ none ∧ window.endsAt ≠ none := by
  simp [fieldErrors, and_assoc]

/-- What `clean` accepts starts before it ends, and overlaps no other active window of its
scope if it is active. -/
theorem cleanErrors_eq_nil (hstarts : window.startsAt = some starts)
    (hends : window.endsAt = some ends) (horganization : window.organization ≠ none)
    (h : window.cleanErrors db = []) :
    starts < ends ∧ (window.isActive = true →
      ∀ other ∈ db.windows, window.overlaps starts ends other = false) := by
  unfold cleanErrors at h
  simp only [hstarts, hends] at h
  obtain ⟨hscope, hfree⟩ := FieldErrors.check_eq_nil_iff.mp h
  constructor
  · rcases hdevice : window.device.bind db.hierarchy.devices.find with _ | device <;>
      simp only [hdevice, FieldErrors.check_eq_nil_iff, decide_eq_true_eq, not_le] at hscope
    · tauto
    · tauto
  · intro hactive other hother
    by_contra hoverlaps
    refine hfree ⟨hactive, Option.isSome_iff_ne_none.mpr horganization, ?_⟩
    rw [List.any_eq_true]
    exact ⟨other, hother, by simpa using hoverlaps⟩

/-- A window that `full_clean` accepts. -/
theorem fullClean_ok {u : Unit} (h : window.fullClean db = .ok u) :
    ∃ starts ends, window.startsAt = some starts ∧ window.endsAt = some ends ∧ starts < ends ∧
      (window.isActive = true →
        ∀ other ∈ db.windows, window.overlaps starts ends other = false) := by
  unfold fullClean at h
  split at h
  · dsimp only at h
    split at h
    · rename_i herrors
      obtain ⟨hfields, hclean⟩ := (FieldErrors.merge_eq_nil_iff proper_cleanErrors).mp herrors
      obtain ⟨horganization, hstarts, hends⟩ := fieldErrors_eq_nil_iff.mp hfields
      obtain ⟨starts, hstarts⟩ := Option.ne_none_iff_exists'.mp hstarts
      obtain ⟨ends, hends⟩ := Option.ne_none_iff_exists'.mp hends
      obtain ⟨hforward, hfree⟩ := cleanErrors_eq_nil hstarts hends horganization hclean
      exact ⟨starts, ends, hstarts, hends, hforward, hfree⟩
    · cases h
  · cases h

/-- **The overlap test** is right for every position of two windows. -/
theorem overlaps_eq_false_iff (hstarts : window.startsAt = some starts)
    (hends : window.endsAt = some ends) (hforward : starts < ends) (hother : other.Forward)
    (hactive : other.isActive = true) (hscope : other.scope = window.scope)
    (hid : other.id ≠ window.id) :
    window.overlaps starts ends other = false ↔ window.Apart other := by
  obtain ⟨starts', ends', hstarts', hends', hforward'⟩ := hother
  simp only [scope, Prod.mk.injEq] at hscope
  obtain ⟨horganization, hdataCenter, hdevice, hmetric⟩ := hscope
  have htest : window.overlaps starts ends other = (decide (starts' < ends) && starts < ends') := by
    simp [overlaps, hactive, horganization, hdataCenter, hdevice, hmetric, hid, hstarts', hends']
  rw [htest, Bool.and_eq_false_iff, decide_eq_false_iff_not, decide_eq_false_iff_not, not_lt,
    not_lt]
  constructor
  · intro hside t ht ht'
    rw [mem_interval_iff hstarts hends] at ht
    rw [mem_interval_iff hstarts' hends'] at ht'
    rcases hside with hbefore | hafter
    · exact absurd (lt_of_lt_of_le ht.2 (le_trans hbefore ht'.1)) (lt_irrefl t)
    · exact absurd (lt_of_lt_of_le ht'.2 (le_trans hafter ht.1)) (lt_irrefl t)
  · intro hapart
    by_contra hboth
    push Not at hboth
    -- the later of the two starts is in both
    rcases le_total starts starts' with hle | hle
    · exact hapart starts' ((mem_interval_iff hstarts hends).mpr ⟨hle, hboth.1⟩)
        ((mem_interval_iff hstarts' hends').mpr ⟨le_rfl, hforward'⟩)
    · exact hapart starts ((mem_interval_iff hstarts hends).mpr ⟨le_rfl, hforward⟩)
        ((mem_interval_iff hstarts' hends').mpr ⟨hle, hboth.2⟩)

end AlertSuppressionWindow

namespace AlertsDb

/-- Stored windows start before they end, and no two active ones of a scope overlap. -/
structure WindowsDisjoint (db : AlertsDb) : Prop where
  forward : ∀ window ∈ db.windows, window.Forward
  disjoint : ∀ window ∈ db.windows, ∀ other ∈ db.windows, window.id ≠ other.id →
    window.isActive = true → other.isActive = true → window.scope = other.scope →
      window.Apart other

variable {db : AlertsDb} {window : AlertSuppressionWindow}

theorem windowsDisjoint_empty : WindowsDisjoint { db with windows := .empty } where
  forward := fun _ hwindow => absurd hwindow List.not_mem_nil
  disjoint := fun _ hwindow => absurd hwindow List.not_mem_nil

/-- Saving a window that `full_clean` accepts. -/
theorem WindowsDisjoint.putWindow {u : Unit} (h : db.WindowsDisjoint)
    (hclean : window.fullClean db = .ok u) : (db.putWindow window).WindowsDisjoint := by
  obtain ⟨starts, ends, hstarts, hends, hforward, hfree⟩ :=
    AlertSuppressionWindow.fullClean_ok hclean
  -- the saved window and a row it does not replace
  have hnew : ∀ other ∈ db.windows, other.id ≠ window.id → window.isActive = true →
      other.isActive = true → other.scope = window.scope →
        window.Apart other := by
    intro other hother hid hactive hactive' hscope
    exact (AlertSuppressionWindow.overlaps_eq_false_iff hstarts hends hforward
      (h.forward other hother) hactive' hscope hid).mp (hfree hactive other hother)
  constructor
  · intro row hrow
    rcases Table.mem_save.mp hrow with rfl | ⟨hold, -⟩
    · exact ⟨starts, ends, hstarts, hends, hforward⟩
    · exact h.forward row hold
  · intro row hrow other hother hid hactive hactive' hscope
    rcases Table.mem_save.mp hrow with rfl | ⟨hold, hkept⟩ <;>
      rcases Table.mem_save.mp hother with rfl | ⟨hold', hkept'⟩
    · exact absurd rfl hid
    · exact hnew other hold' hkept' hactive hactive' hscope.symm
    · exact (hnew row hold hkept hactive' hactive hscope).symm
    · exact h.disjoint row hold other hold' hid hactive hactive' hscope

theorem WindowsDisjoint.saveWindow (h : db.WindowsDisjoint) (window : AlertSuppressionWindow) :
    (db.saveWindow window).WindowsDisjoint := by
  unfold AlertsDb.saveWindow
  split
  · rename_i hclean
    exact h.putWindow hclean
  · exact h

/-- **Windows of one scope never overlap**, whatever is saved. -/
theorem windowsDisjoint_run (db : AlertsDb) (saves : List AlertSuppressionWindow) :
    (run AlertsDb.saveWindow { db with windows := .empty } saves).WindowsDisjoint :=
  run_invariant (fun _ window h => h.saveWindow window) windowsDisjoint_empty saves

end AlertsDb

end DcimBackend
