import Mathlib.Data.Int.LeastGreatest
import Mathlib.Order.Basic
import Mathlib.Tactic.Linarith

/-!
# Time zones

A time zone is an offset from UTC that changes at some instants, as the time zone database lists
them.  Two questions are asked of it: what offset there is at an instant, and what offset belongs to
a time that a wall clock shows.  The second one has no answer for a time that the clocks skip, and
two for a time that they show twice; a time without a fold takes the offset in front of the change
in both cases, so that the change is passed when the wall clock has passed the later of its two
readings of it.

The beginning of a day is the instant of a midnight of the wall clock.  An offset that jumps by more
than a day could put a midnight in front of an earlier one.  A zone has a proof that it does not, so
its days follow each other, and every instant is between two midnights.

Instants and offsets are in microseconds, and days are counted from the day of the epoch.
-/

namespace DcimBackend.Library

/-- The microseconds of a day of 24 hours. -/
def dayLength : ℤ := 86400000000

/-- The offset at an instant: changes are pairs of an instant and the offset from then on. -/
def offsetAt (before : ℤ) : List (ℤ × ℤ) → ℤ → ℤ
  | [], _ => before
  | (time, after) :: changes, t => if t < time then before else offsetAt after changes t

/-- The offset of a time of the wall clock. -/
def offsetOfWall (before : ℤ) : List (ℤ × ℤ) → ℤ → ℤ
  | [], _ => before
  | (time, after) :: changes, wall =>
      if wall < time + max before after then before else offsetOfWall after changes wall

/-- A time zone: the first offset, and its changes in their order. -/
structure TimeZone where
  initial : ℤ
  changes : List (ℤ × ℤ)
  steady : ∀ wall, offsetOfWall initial changes (wall + dayLength) ≤
    offsetOfWall initial changes wall + dayLength

section Offsets

variable {before : ℤ} {changes : List (ℤ × ℤ)} {wall : ℤ}

theorem offsetOfWall_mem :
    offsetOfWall before changes wall ∈ before :: changes.map Prod.snd := by
  induction changes generalizing before with
  | nil => exact List.mem_cons_self
  | cons change changes ih =>
      unfold offsetOfWall
      split
      · exact List.mem_cons_self
      · exact List.mem_cons_of_mem _ ih

/-- Finitely many offsets are bounded. -/
theorem exists_abs_offsetOfWall_le (before : ℤ) (changes : List (ℤ × ℤ)) :
    ∃ bound, ∀ wall, |offsetOfWall before changes wall| ≤ bound := by
  induction changes generalizing before with
  | nil => exact ⟨|before|, fun _ => le_rfl⟩
  | cons change changes ih =>
      obtain ⟨bound, hbound⟩ := ih change.2
      refine ⟨max |before| bound, fun wall => ?_⟩
      unfold offsetOfWall
      split
      · exact le_max_left ..
      · exact (hbound wall).trans (le_max_right ..)

end Offsets

namespace TimeZone

/-- A zone whose offsets are all within a day of each other. -/
def ofNear (initial : ℤ) (changes : List (ℤ × ℤ))
    (hnear : ∀ a ∈ initial :: changes.map Prod.snd, ∀ b ∈ initial :: changes.map Prod.snd,
      a ≤ b + dayLength) : TimeZone where
  initial := initial
  changes := changes
  steady _ := hnear _ offsetOfWall_mem _ offsetOfWall_mem

/-- A zone with one offset. -/
def fixed (offset : ℤ) : TimeZone :=
  ofNear offset [] (by simp [dayLength])

variable (zone : TimeZone)

/-- The day that the wall clock shows at an instant. -/
def localDate (t : ℤ) : ℤ := (t + offsetAt zone.initial zone.changes t) / dayLength

/-- The instant at which a day begins. -/
def midnight (day : ℤ) : ℤ :=
  day * dayLength - offsetOfWall zone.initial zone.changes (day * dayLength)

theorem midnight_le_succ (day : ℤ) : zone.midnight day ≤ zone.midnight (day + 1) := by
  have hsteady := zone.steady (day * dayLength)
  unfold midnight
  rw [add_mul, one_mul]
  linarith

/-- No day begins before an earlier one. -/
theorem midnight_mono {a b : ℤ} (h : a ≤ b) : zone.midnight a ≤ zone.midnight b := by
  obtain ⟨days, rfl⟩ := Int.le.dest h
  clear h
  induction days with
  | zero => rw [Nat.cast_zero, add_zero]
  | succ days ih =>
      rw [Nat.cast_succ, ← add_assoc]
      exact ih.trans (zone.midnight_le_succ (a + days))

/-- Midnights go on and on, in both directions. -/
theorem exists_midnight_bounds :
    ∃ bound, ∀ day, day * dayLength - bound ≤ zone.midnight day ∧
      zone.midnight day ≤ day * dayLength + bound := by
  obtain ⟨bound, hbound⟩ := exists_abs_offsetOfWall_le zone.initial zone.changes
  refine ⟨bound, fun day => ?_⟩
  obtain ⟨hlow, hhigh⟩ := abs_le.mp (hbound (day * dayLength))
  unfold midnight
  constructor
  · linarith
  · linarith

/-- **Every instant is on one day**: it is between two midnights. -/
theorem existsUnique_day (t : ℤ) :
    ∃! day, zone.midnight day ≤ t ∧ t < zone.midnight (day + 1) := by
  obtain ⟨bound, hbound⟩ := zone.exists_midnight_bounds
  have hday : (0 : ℤ) < dayLength := by decide
  -- the last midnight that is not after the instant
  obtain ⟨day, hle, hgreatest⟩ :
      ∃ day, zone.midnight day ≤ t ∧ ∀ other, zone.midnight other ≤ t → other ≤ day := by
    refine Int.exists_greatest_of_bdd ⟨(t + bound) / dayLength, fun day hle => ?_⟩
      ⟨(t - bound) / dayLength, ?_⟩
    · have hlow := (hbound day).1
      exact (Int.le_ediv_iff_mul_le hday).mpr (by linarith)
    · have hhigh := (hbound ((t - bound) / dayLength)).2
      have hfloor := Int.ediv_mul_le (t - bound) hday.ne'
      linarith
  refine ⟨day, ⟨hle, ?_⟩, ?_⟩
  · by_contra hnot
    have hsucc := hgreatest (day + 1) (not_lt.mp hnot)
    omega
  · rintro other ⟨hother, hbefore⟩
    have hother_le := hgreatest other hother
    by_contra hne
    have hmono := zone.midnight_mono (show other + 1 ≤ day by omega)
    omega

end TimeZone

end DcimBackend.Library
