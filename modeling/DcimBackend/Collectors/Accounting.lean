import DcimBackend.Collectors.SnmpPoll

/-!
# The accounting of the SNMP poll

`poll_snmp_device` counts its successes in memory while its rows are in a transaction without
savepoints.  So a mapping that fails behind the insert of its point either leaves the point
behind, uncounted, or breaks the transaction, and with it the points that are counted.

Which readings a failure may discard is said against another run: `onlyFailing` is the same poll
in which only one mapping fails, so a reading that is stored there and not in the poll itself has
been discarded by the failure of another mapping.  A mapping that breaks the transaction, or that
is the only one of its poll, loses its own reading.

`honest_iff` is the exact condition: the counts agree and no reading is lost if and only if every
failure comes before the insert, or all mappings fail and none of them leaves its reading in a
whole transaction.

A mapping is tried in positions: it is read, converted, its point is inserted, its latest row is
updated, and its rules are evaluated.  `failsEarly` and `failsLate` divide them at the insert.
The poll does not distinguish the two, and counts either as a failure of the mapping; that is
where the counts and the rows part.

Exceptions outside of the mappings are excluded by `FailsInMappings`.  The positions there are
covered by `Collectors.SoftLimit` and `Collectors.Health`.
-/

namespace DcimBackend.Collectors

open Library

namespace SnmpPoll

variable (p : SnmpPoll)

/-! ### Where a mapping fails -/

/-- It fails in front of the insert of its point. -/
def failsEarly (i : ℕ) : Bool := (p.raises (.read i)).isSome || (p.raises (.convert i)).isSome

/-- Something is raised at the insert of its point, or behind it. -/
def failsLate (i : ℕ) : Bool :=
  (p.raises (.insert i)).isSome || (p.raises (.upsert i)).isSome ||
    p.evaluateAlerts && ((p.raises (.matching i)).isSome || (p.raises (.evaluate i)).isSome) ||
    (p.raises (.count i)).isSome

def fails (i : ℕ) : Bool := p.failsEarly i || p.failsLate i

/-- Nothing is raised up to the insert of its point, and by it. -/
def insertsPoint (i : ℕ) : Bool := !p.failsEarly i && (p.raises (.insert i)).isNone

/-- Its failure breaks the transaction: PostgreSQL refuses the insert, or the query for the
matching rules.  The upsert has a savepoint. -/
def breaksTransaction (i : ℕ) : Bool :=
  (p.raises (.insert i)).isSome ||
    p.evaluateAlerts && (p.raises (.upsert i)).isNone && (p.raises (.matching i)).isSome

/-- Nothing is raised but in the `try` blocks of the mappings. -/
def FailsInMappings : Prop := ∀ pos : SnmpPosition, pos.inMapping = false → p.raises pos = none

/-- The mapping in whose `try` block a position is. -/
def mappingOf : SnmpPosition → Option ℕ
  | .read i | .convert i | .insert i | .upsert i | .matching i | .notify i | .evaluate i
  | .count i => some i
  | _ => none

/-- The same poll, in which no mapping fails but one. -/
def onlyFailing (i : ℕ) : SnmpPoll :=
  { p with raises := fun pos => if (mappingOf pos).all (· = i) then p.raises pos else none }

/-- The points of the poll that are stored. -/
def stored (t : PollTables) : ℕ := t.points.countP fun point => point.ingestId = p.ingestId

variable {p} {i : ℕ} {m : MappingReading} {s s' : PollProcess}

theorem failsLate_of_breaksTransaction (h : p.breaksTransaction i = true) :
    p.failsLate i = true := by
  unfold breaksTransaction at h
  unfold failsLate
  grind

theorem breaksTransaction_of_not_fails (h : p.fails i = false) : p.breaksTransaction i = false := by
  by_contra hbreaks
  rw [fails, failsLate_of_breaksTransaction (by simpa using hbreaks), Bool.or_true] at h
  cases h

theorem fails_of_failsEarly (h : p.failsEarly i = true) : p.fails i = true := by
  rw [fails, h, Bool.true_or]

/-! ### One mapping -/

theorem storeMapping_of_broken (h : s.broken = true) :
    p.storeMapping i m s = (.error aborted, s) := by
  have hcreate : p.createPoint i m s = (.error aborted, s) := Tx.refuseIf_of_true h
  rw [storeMapping, Tx.bind_of_error hcreate]

/-- The point is created, or the block is broken. -/
theorem createPoint_spec (hs : s.broken = false) :
    (p.raises (.insert i) = none ∧ p.createPoint i m s =
      (.ok ⟨⟩, { s with tables := s.tables.insertPoints [p.point "snmp_worker" m] })) ∨
    ∃ e s', p.createPoint i m s = (.error e, s') ∧ (p.raises (.insert i)).isSome ∧
      s'.broken = true ∧ s'.locals.successCount = s.locals.successCount := by
  cases h : p.raises (.insert i) with
  | none =>
      refine .inl ⟨rfl, Process.execute_of_ok _ hs ?_⟩
      rw [Tx.bind_of_ok (reach_of_none h)]
      rfl
  | some e =>
      refine .inr ⟨e, _, Process.execute_of_error _ hs (Tx.bind_of_error (reach_of_some h)), rfl,
        rfl, rfl⟩

/-- The row is written, or nothing is. -/
theorem updateOrCreateLatest_spec (hs : s.broken = false) :
    (p.raises (.upsert i) = none ∧ p.updateOrCreateLatest i m s =
      (.ok ⟨⟩, { s with tables := s.tables.updateLatest [p.row "snmp_worker" m] })) ∨
    ∃ e s', p.updateOrCreateLatest i m s = (.error e, s') ∧ (p.raises (.upsert i)).isSome ∧
      s'.tables = s.tables ∧ s'.broken = s.broken ∧
      s'.locals.successCount = s.locals.successCount := by
  cases h : p.raises (.upsert i) with
  | none =>
      refine .inl ⟨rfl, ?_⟩
      have hwrite : Process.execute aborted (do
          reach p.raises (.upsert i)
          Process.write (PollTables.updateLatest [p.row "snmp_worker" m])) s =
          (.ok ⟨⟩, { s with tables := s.tables.updateLatest [p.row "snmp_worker" m] }) := by
        refine Process.execute_of_ok _ hs ?_
        rw [Tx.bind_of_ok (reach_of_none h)]
        rfl
      exact Process.atomic_of_ok hwrite hs
  | some e =>
      have hfail := Process.execute_of_error aborted hs
        (Tx.bind_of_error (f := fun _ =>
          Process.write (PollTables.updateLatest [p.row "snmp_worker" m])) (reach_of_some h))
      exact .inr ⟨e, _, Process.atomic_of_error hfail, rfl, rfl, rfl, rfl⟩

/-- What is raised around the notifications is only traced. -/
theorem handle_notify_spec : ∃ s', Tx.handle (reach p.raises (.notify i)) (fun _ => return) s =
    (.ok ⟨⟩, s') ∧ s'.tables = s.tables ∧ s'.broken = s.broken ∧
      s'.locals.successCount = s.locals.successCount := by
  cases h : p.raises (.notify i) with
  | none => exact ⟨s, Tx.handle_of_ok (reach_of_none h), rfl, rfl, rfl⟩
  | some e => exact ⟨_, Tx.handle_of_error (reach_of_some h), rfl, rfl, rfl⟩

/-- The rules are evaluated, or something is raised. -/
theorem evaluateMapping_spec (hs : s.broken = false) :
    ((p.evaluateAlerts = true → p.raises (.matching i) = none ∧ p.raises (.evaluate i) = none) ∧
      ∃ s', p.evaluateMapping i s = (.ok ⟨⟩, s') ∧ s'.tables = s.tables ∧ s'.broken = s.broken ∧
        s'.locals.successCount = s.locals.successCount) ∨
    ∃ e s', p.evaluateMapping i s = (.error e, s') ∧
      (p.evaluateAlerts && ((p.raises (.matching i)).isSome || (p.raises (.evaluate i)).isSome)) ∧
      s'.tables = s.tables ∧ s'.broken = (p.raises (.matching i)).isSome ∧
      s'.locals.successCount = s.locals.successCount := by
  unfold evaluateMapping
  cases hevaluate : p.evaluateAlerts with
  | false => exact .inl ⟨by simp, s, rfl, rfl, rfl, rfl⟩
  | true =>
      rw [if_pos rfl]
      cases hmatching : p.raises (.matching i) with
      | some e =>
          have hfail := Process.execute_of_error aborted hs (reach_of_some hmatching)
          exact .inr ⟨e, _, Tx.bind_of_error hfail, by simp, rfl, rfl, rfl⟩
      | none =>
          have hok := Process.execute_of_ok aborted hs (reach_of_none hmatching)
          obtain ⟨s', hnotify, ht, hb, hc⟩ := handle_notify_spec (p := p) (i := i) (s := s)
          rw [Tx.bind_of_ok hok, Tx.bind_of_ok hnotify]
          cases hturn : p.raises (.evaluate i) with
          | none => exact .inl ⟨by simp, s', reach_of_none hturn, ht, hb, hc⟩
          | some e => exact .inr ⟨e, _, reach_of_some hturn, by simp, ht, hb.trans hs, hc⟩

/-- In a whole block, a mapping whose value is read and converted is stored and counted, or it
fails: then it is not counted, and its point is stored or the block is broken. -/
theorem storeMapping_spec (hs : s.broken = false) :
    (p.failsLate i = false ∧ ∃ s', p.storeMapping i m s = (.ok ⟨⟩, s') ∧ s'.broken = false ∧
      s'.tables.points = s.tables.points ++ [p.point "snmp_worker" m] ∧
      s'.locals.successCount = s.locals.successCount + 1) ∨
    (p.failsLate i = true ∧ ∃ e s', p.storeMapping i m s = (.error e, s') ∧
      s'.locals.successCount = s.locals.successCount ∧ s'.broken = p.breaksTransaction i ∧
      (s'.broken = false → s'.tables.points = s.tables.points ++ [p.point "snmp_worker" m])) := by
  unfold storeMapping
  rcases createPoint_spec (p := p) (i := i) (m := m) hs with
    ⟨hinsert, hcreate⟩ | ⟨e, s', hfail, hraised, hb, hc⟩
  case inr =>
    have hbreaks : p.breaksTransaction i = true := by simp [breaksTransaction, hraised]
    refine .inr ⟨failsLate_of_breaksTransaction hbreaks, e, s', Tx.bind_of_error hfail, hc,
      hb.trans hbreaks.symm, ?_⟩
    intro hwhole
    rw [hb] at hwhole
    cases hwhole
  rw [Tx.bind_of_ok hcreate]
  set s₁ : PollProcess := { s with tables := s.tables.insertPoints [p.point "snmp_worker" m] }
  have hs₁ : s₁.broken = false := hs
  rcases updateOrCreateLatest_spec (p := p) (i := i) (m := m) hs₁ with
    ⟨hupsert, hupdate⟩ | ⟨e, s', hfail, hraised, ht, hb, hc⟩
  case inr =>
    have hbreaks : p.breaksTransaction i = false := by
      simp [breaksTransaction, hinsert, Option.isNone_eq_false_iff.mpr hraised]
    refine .inr ⟨by simp [failsLate, hraised], e, s', Tx.bind_of_error hfail, hc,
      (hb.trans hs₁).trans hbreaks.symm, fun _ => ?_⟩
    rw [ht]
    rfl
  rw [Tx.bind_of_ok hupdate]
  set s₂ : PollProcess := { s₁ with tables := s₁.tables.updateLatest [p.row "snmp_worker" m] }
  have hs₂ : s₂.broken = false := hs
  rcases evaluateMapping_spec (p := p) (i := i) hs₂ with
    ⟨hnone, s₃, hevaluate, ht₃, hb₃, hc₃⟩ | ⟨e, s', hfail, hraised, ht, hb, hc⟩
  case inr =>
    have hbreaks : p.breaksTransaction i = (p.raises (.matching i)).isSome := by
      simp [breaksTransaction, hinsert, hupsert, (Bool.and_eq_true_iff.mp hraised).1]
    refine .inr ⟨?_, e, s', Tx.bind_of_error hfail, hc, hb.trans hbreaks.symm, fun _ => ?_⟩
    · rw [failsLate, hraised]
      simp
    · rw [ht]
      rfl
  rw [Tx.bind_of_ok hevaluate]
  have hpoints : s₃.tables.points = s.tables.points ++ [p.point "snmp_worker" m] := by
    rw [ht₃]
    rfl
  have hbreaks : p.breaksTransaction i = false := by
    cases hevaluates : p.evaluateAlerts with
    | false => simp [breaksTransaction, hinsert, hevaluates]
    | true => simp [breaksTransaction, hinsert, hnone hevaluates]
  cases hcount : p.raises (.count i) with
  | some e =>
      exact .inr ⟨by simp [failsLate, hcount], e, _, Tx.bind_of_error (reach_of_some hcount), hc₃,
        (hb₃.trans hs).trans hbreaks.symm, fun _ => hpoints⟩
  | none =>
      rw [Tx.bind_of_ok (reach_of_none hcount)]
      refine .inl ⟨?_, _, rfl, hb₃.trans hs, hpoints, congrArg (· + 1) hc₃⟩
      cases hevaluates : p.evaluateAlerts with
      | false => simp [failsLate, hinsert, hupsert, hevaluates, hcount]
      | true => simp [failsLate, hinsert, hupsert, hnone hevaluates, hcount]

/-- What a mapping leaves behind, where nothing is raised outside of the mappings. -/
inductive Tried (p : SnmpPoll) (i : ℕ) (m : MappingReading) (s s' : PollProcess) : Prop
  | early (h : p.failsEarly i = true) (tables : s'.tables = s.tables) (broken : s'.broken = s.broken)
      (count : s'.locals.successCount = s.locals.successCount)
  | refused (h : p.failsEarly i = false) (hs : s.broken = true) (broken : s'.broken = true)
      (count : s'.locals.successCount = s.locals.successCount)
  | late (h : p.failsLate i = true) (he : p.failsEarly i = false) (hs : s.broken = false)
      (broken : s'.broken = p.breaksTransaction i)
      (points : s'.broken = false → s'.tables.points = s.tables.points ++ [p.point "snmp_worker" m])
      (count : s'.locals.successCount = s.locals.successCount)
  | stored (h : p.fails i = false) (hs : s.broken = false) (broken : s'.broken = false)
      (points : s'.tables.points = s.tables.points ++ [p.point "snmp_worker" m])
      (count : s'.locals.successCount = s.locals.successCount + 1)

/-- Reading and converting change nothing that is stored or counted. -/
theorem readMapping_spec :
    (p.failsEarly i = false ∧ ∃ s', p.readMapping i s = (.ok ⟨⟩, s') ∧
      s'.tables = s.tables ∧ s'.broken = s.broken ∧
      s'.locals.successCount = s.locals.successCount) ∨
    (p.failsEarly i = true ∧ ∃ e s', p.readMapping i s = (.error e, s') ∧
      s'.tables = s.tables ∧ s'.broken = s.broken ∧
      s'.locals.successCount = s.locals.successCount) := by
  unfold readMapping failsEarly
  rw [Tx.bind_of_ok (record_apply ..)]
  cases hread : p.raises (.read i) with
  | some e =>
      exact .inr ⟨rfl, e, _, Tx.bind_of_error (reach_of_some hread), rfl, rfl, rfl⟩
  | none =>
      rw [Tx.bind_of_ok (reach_of_none hread)]
      cases hconvert : p.raises (.convert i) with
      | some e => exact .inr ⟨rfl, e, _, reach_of_some hconvert, rfl, rfl, rfl⟩
      | none => exact .inl ⟨rfl, _, reach_of_none hconvert, rfl, rfl, rfl⟩

theorem catchMapping_apply (h : p.raises (.caught i) = none) :
    p.catchMapping i s = (.ok ⟨⟩, { s with locals := { s.locals with
      failureCount := s.locals.failureCount + 1 } }) := by
  rw [catchMapping, Tx.bind_of_ok (reach_of_none h)]
  rfl

/-- **One round of the loop.** -/
theorem tryMapping_spec (hcaught : p.raises (.caught i) = none) :
    ∃ s', p.tryMapping i m s = (.ok ⟨⟩, s') ∧ Tried p i m s s' := by
  unfold tryMapping
  rcases readMapping_spec (p := p) (i := i) (s := s) with
    ⟨hearly, s₁, hread, ht, hb, hc⟩ | ⟨hearly, e, s₁, hread, ht, hb, hc⟩
  case inr =>
    have hpoll : p.pollMapping i m s = (.error e, s₁) := Tx.bind_of_error hread
    rw [Tx.handle_of_error hpoll, catchMapping_apply hcaught]
    exact ⟨_, rfl, .early hearly ht hb hc⟩
  have hpoll : p.pollMapping i m s = p.storeMapping i m s₁ := Tx.bind_of_ok hread
  cases hs : s.broken with
  | true =>
      rw [Tx.handle_of_error (hpoll.trans (storeMapping_of_broken (hb.trans hs))),
        catchMapping_apply hcaught]
      exact ⟨_, rfl, .refused hearly hs (hb.trans hs) hc⟩
  | false =>
      rcases storeMapping_spec (p := p) (i := i) (m := m) (hb.trans hs) with
        ⟨hlate, s₂, hstore, hb₂, hpoints, hcount⟩ | ⟨hlate, e, s₂, hstore, hcount, hb₂, hpoints⟩
      · rw [Tx.handle_of_ok (hpoll.trans hstore)]
        refine ⟨_, rfl, .stored ?_ hs hb₂ (by rw [hpoints, ht]) (by rw [hcount, hc])⟩
        rw [fails, hearly, hlate]
        rfl
      · rw [Tx.handle_of_error (hpoll.trans hstore), catchMapping_apply hcaught]
        refine ⟨_, rfl, .late hlate hearly hs hb₂ (fun hwhole => ?_) (hcount.trans hc)⟩
        rw [hpoints hwhole, ht]

/-! ### The loop -/

/-- The loop leaves the transaction whole: no mapping breaks it that has not failed before. -/
def KeepsWhole (p : SnmpPoll) (i : ℕ) (ms : List MappingReading) : Prop :=
  ∀ q ∈ ms.zipIdx i, p.failsEarly q.2 = true ∨ p.breaksTransaction q.2 = false

/-- What the loop leaves behind. -/
structure Polled (p : SnmpPoll) (i : ℕ) (ms : List MappingReading) (s s' : PollProcess) : Prop where
  /-- Only mappings without a failure are counted. -/
  counted : (∀ q ∈ ms.zipIdx i, p.fails q.2 = true) →
    s'.locals.successCount = s.locals.successCount
  le : s.locals.successCount ≤ s'.locals.successCount
  /-- A broken block stays broken, and a point that is counted is stored. -/
  broken : s.broken = true → s'.broken = true
  points : s'.broken = false → s.tables.points ⊆ s'.tables.points ∧
    p.stored s.tables + s'.locals.successCount ≤ p.stored s'.tables + s.locals.successCount
  /-- A block that ends whole has not been broken. -/
  keepsWhole : s'.broken = false → KeepsWhole p i ms
  /-- Where nothing breaks the block, every point that is inserted is stored, and a mapping without
  a failure is counted. -/
  whole : s.broken = false → KeepsWhole p i ms → s'.broken = false ∧
    (∀ q ∈ ms.zipIdx i, p.failsEarly q.2 = false → p.point "snmp_worker" q.1 ∈ s'.tables.points) ∧
    ((∃ q ∈ ms.zipIdx i, p.fails q.2 = false) →
      s.locals.successCount < s'.locals.successCount)
  /-- If no mapping fails late, as many points are stored as are counted, … -/
  early : s.broken = false → (∀ q ∈ ms.zipIdx i, p.fails q.2 = true → p.failsEarly q.2 = true) →
    p.stored s'.tables + s.locals.successCount = p.stored s.tables + s'.locals.successCount
  /-- … and otherwise a point is stored without being counted, or the block is broken. -/
  late : (∃ q ∈ ms.zipIdx i, p.fails q.2 = true ∧ p.failsEarly q.2 = false) →
    s'.broken = false →
      p.stored s.tables + s'.locals.successCount < p.stored s'.tables + s.locals.successCount

/-- Failures in front of the insert leave the transaction whole. -/
theorem keepsWhole_of_early {ms : List MappingReading}
    (h : ∀ q ∈ ms.zipIdx i, p.fails q.2 = true → p.failsEarly q.2 = true) :
    KeepsWhole p i ms := by
  intro q hq
  cases hfails : p.fails q.2 with
  | true => exact .inl (h q hq hfails)
  | false => exact .inr (breaksTransaction_of_not_fails hfails)

theorem stored_of_points {t t' : PollTables}
    (h : t'.points = t.points ++ [p.point "snmp_worker" m]) : p.stored t' = p.stored t + 1 := by
  rw [stored, stored, h, List.countP_append]
  simp [PollArgs.point]

/-- A loop over one mapping. -/
theorem Tried.polled (h : Tried p i m s s') : Polled p i [m] s s' := by
  cases h with
  | early h ht hb hc =>
      -- nothing is stored and nothing is counted
      have hfails : p.fails i = true := fails_of_failsEarly h
      exact
        { counted := fun _ => hc
          le := hc.ge
          broken := hb.trans
          points := fun _ => by simp [ht, hc]
          keepsWhole := fun _ => by simp [KeepsWhole, h]
          whole := fun hs _ => ⟨hb.trans hs, by simp [h], by simp [hfails]⟩
          early := fun _ _ => by rw [ht, hc]
          late := by simp [h] }
  | refused h hs hb hc =>
      -- the block was broken before, and stays so
      exact
        { counted := fun _ => hc
          le := hc.ge
          broken := fun _ => hb
          points := by simp [hb]
          keepsWhole := by simp [hb]
          whole := by simp [hs]
          early := by simp [hs]
          late := by simp [hb] }
  | late h he hs hb hpoints hc =>
      -- the point is stored, if the block is whole, but not counted
      have hfails : p.fails i = true := by
        rw [fails, h, Bool.or_true]
      have hmore (hwhole : s'.broken = false) : p.stored s'.tables = p.stored s.tables + 1 :=
        stored_of_points (hpoints hwhole)
      have hbreaks (hkeeps : KeepsWhole p i [m]) : s'.broken = false := by
        simpa [KeepsWhole, he, ← hb] using hkeeps
      exact
        { counted := fun _ => hc
          le := hc.ge
          broken := by simp [hs]
          points := fun hwhole => by simp [hpoints hwhole, hmore hwhole, hc]
          keepsWhole := fun hwhole => by simp [KeepsWhole, ← hb, hwhole]
          whole := fun _ hkeeps =>
            ⟨hbreaks hkeeps, by simp [hpoints (hbreaks hkeeps)], by simp [hfails]⟩
          early := by simp [he, hfails]
          late := fun _ hwhole => by
            have := hmore hwhole
            omega }
  | stored h hs hb hpoints hc =>
      have hmore : p.stored s'.tables = p.stored s.tables + 1 := stored_of_points hpoints
      exact
        { counted := by simp [h]
          le := by omega
          broken := by simp [hs]
          points := fun _ => ⟨by simp [hpoints], by omega⟩
          keepsWhole := fun _ => by simp [KeepsWhole, breaksTransaction_of_not_fails h]
          whole := fun _ _ => ⟨hb, by simp [hpoints], fun _ => by omega⟩
          early := fun _ _ => by omega
          late := by simp [h] }

/-- A loop, and another one over the mappings that follow. -/
theorem Polled.trans {ms ms' : List MappingReading} {s'' : PollProcess}
    (h : Polled p i ms s s') (h' : Polled p (i + ms.length) ms' s' s'') :
    Polled p i (ms ++ ms') s s'' := by
  have hzip : (ms ++ ms').zipIdx i = ms.zipIdx i ++ ms'.zipIdx (i + ms.length) :=
    List.zipIdx_append
  have hkeeps : KeepsWhole p i (ms ++ ms') ↔
      KeepsWhole p i ms ∧ KeepsWhole p (i + ms.length) ms' := by
    unfold KeepsWhole
    rw [hzip, List.forall_mem_append]
  have hwhole : s''.broken = false → s'.broken = false := by
    intro hs''
    cases hs' : s'.broken with
    | false => rfl
    | true =>
        rw [h'.broken hs'] at hs''
        cases hs''
  refine ⟨fun hall => ?_, h.le.trans h'.le, fun hs => h'.broken (h.broken hs), fun hs'' => ?_,
    fun hs'' => ?_, fun hs hall => ?_, fun hs hall => ?_, ?_⟩
  · rw [hzip, List.forall_mem_append] at hall
    exact (h'.counted hall.2).trans (h.counted hall.1)
  · obtain ⟨hsub, hle⟩ := h.points (hwhole hs'')
    obtain ⟨hsub', hle'⟩ := h'.points hs''
    exact ⟨List.Subset.trans hsub hsub', by omega⟩
  · exact hkeeps.mpr ⟨h.keepsWhole (hwhole hs''), h'.keepsWhole hs''⟩
  · obtain ⟨hall, hall'⟩ := hkeeps.mp hall
    obtain ⟨hs', hpoints, hcount⟩ := h.whole hs hall
    obtain ⟨hs'', hpoints', hcount'⟩ := h'.whole hs' hall'
    rw [hzip, List.forall_mem_append]
    refine ⟨hs'', ⟨fun q hq hfree => (h'.points hs'').1 (hpoints q hq hfree), hpoints'⟩, ?_⟩
    rintro ⟨q, hq, hfree⟩
    rcases List.mem_append.mp hq with hq | hq
    · exact (hcount ⟨q, hq, hfree⟩).trans_le h'.le
    · exact h.le.trans_lt (hcount' ⟨q, hq, hfree⟩)
  · rw [hzip, List.forall_mem_append] at hall
    have hs' : s'.broken = false := (h.whole hs (keepsWhole_of_early hall.1)).1
    have heq := h.early hs hall.1
    have heq' := h'.early hs' hall.2
    omega
  · rintro ⟨q, hq, hlate⟩ hs''
    have hle := (h.points (hwhole hs'')).2
    have hle' := (h'.points hs'').2
    rw [hzip, List.mem_append] at hq
    rcases hq with hq | hq
    · have hlt := h.late ⟨q, hq, hlate⟩ (hwhole hs'')
      omega
    · have hlt := h'.late ⟨q, hq, hlate⟩ hs''
      omega

theorem pollMappings_spec (hin : p.FailsInMappings) (ms : List MappingReading) :
    ∃ s', p.pollMappings i ms s = (.ok ⟨⟩, s') ∧ Polled p i ms s s' := by
  induction ms generalizing i s with
  | nil =>
      refine ⟨s, rfl, ?_⟩
      exact ⟨by simp, by simp, by simp, by simp, by simp [KeepsWhole],
        fun hs _ => ⟨hs, by simp, by simp⟩, by simp, by simp⟩
  | cons m ms ih =>
      obtain ⟨s₁, htry, htried⟩ := tryMapping_spec (p := p) (m := m) (s := s) (hin (.caught i) rfl)
      obtain ⟨s', hrest, hpolled⟩ := ih (i := i + 1) (s := s₁)
      refine ⟨s', ?_, htried.polled.trans hpolled⟩
      rw [pollMappings, Tx.bind_of_ok (reach_of_none (hin (.loop i) rfl)), Tx.bind_of_ok htry,
        hrest]

/-! ### The poll -/

/-- How the loop ends decides what is kept of it. -/
def Kept (s' : PollProcess) : Prop := s'.broken = false ∧ s'.locals.successCount ≠ 0

/-- **The `try` block of the poll** keeps what the loop has stored, or nothing. -/
theorem body_spec (copy : DeviceHealth) (hin : p.FailsInMappings)
    (hzero : s.locals.successCount = 0) :
    ∃ s', Polled p 0 p.mappings s s' ∧
      ((Kept s' ∧ ∃ r t, p.body copy s = (.ok r, t) ∧ t.tables.points = s'.tables.points ∧
          t.tables.logs = s.tables.logs ∧ t.locals = s'.locals) ∨
        (¬Kept s' ∧ ∃ e t, p.body copy s = (.error e, t) ∧ t.tables = s.tables ∧
          t.locals = s'.locals)) := by
  obtain ⟨s', hloop, hpolled⟩ := pollMappings_spec (i := 0) (s := s) hin p.mappings
  by_cases hmappings : p.mappings = []
  · rw [hmappings] at hloop hpolled ⊢
    obtain rfl := (Prod.mk.inj hloop).2
    have hbody : p.body copy s =
        (.error (.error "No active SNMP OID mappings found for this device type/model"), s) := by
      rw [body, Tx.bind_of_ok (reach_of_none (hin .runtime rfl)), hmappings]
      rfl
    exact ⟨s, hpolled, .inr ⟨fun hkept => hkept.2 hzero, _, _, hbody, rfl, rfl⟩⟩
  refine ⟨s', hpolled, ?_⟩
  have hcheck := hin .check rfl
  have hbody : p.body copy s = (do
      p.transaction copy
      reach p.raises .status
      let failureCount ← Tx.read fun s => s.locals.failureCount
      return (if failureCount = 0 then .success else .partialSuccess, none) :
        Poll (OutcomeStatus × Option String)) s := by
    rw [body, Tx.bind_of_ok (reach_of_none (hin .runtime rfl)), if_neg (by simpa using hmappings)]
  rw [hbody]
  by_cases hsome : s'.locals.successCount = 0
  · refine .inr ⟨fun hkept => hkept.2 hsome, _, _,
      Tx.bind_of_error (transaction_of_zero hcheck hloop hsome), rfl, rfl⟩
  cases hwhole : s'.broken with
  | true =>
      refine .inr ⟨fun hkept => ?_, _, _,
        Tx.bind_of_error (transaction_of_broken hcheck hloop hsome hwhole), rfl, rfl⟩
      rw [hkept.1] at hwhole
      cases hwhole
  | false =>
      have hkept := transaction_of_whole copy hcheck (hin .markDevice rfl)
        (hin .markConfig rfl) (hin .commit rfl) hloop hsome hwhole
      rw [Tx.bind_of_ok hkept, Tx.bind_of_ok (reach_of_none (hin .status rfl))]
      have hlogs : s'.tables.logs = s.tables.logs := by
        have hkeeps : Process.Keeps PollTables.logs s (p.pollMappings 0 p.mappings s).2 :=
          keeps_pollMappings (fun _ _ => rfl) (fun _ _ => rfl) s
        rw [hloop] at hkeeps
        exact hkeeps
      refine .inl ⟨⟨hwhole, hsome⟩, _, _, rfl, ?_, ?_, rfl⟩
      · exact points_succeeded
      · exact logs_succeeded.trans hlogs

/-- **What a poll leaves behind**: it returns and is logged with what it has counted, and it keeps
the points of its loop, or none. -/
theorem pollSnmpDevice_spec (hin : p.FailsInMappings) (db : PollTables) :
    ∃ s', Polled p 0 p.mappings db.process s' ∧
      ∃ outcome log t, p.pollSnmpDevice db.process = (.ok outcome, t) ∧
        t.tables.logs = db.logs ++ [log] ∧ log.ingestId = p.ingestId ∧
        outcome.successCount = s'.locals.successCount ∧
        log.successCount = s'.locals.successCount ∧
        (Kept s' ∧ t.tables.points = s'.tables.points ∨
          ¬Kept s' ∧ t.tables.points = db.points) := by
  obtain ⟨s', hpolled, hbody⟩ := body_spec db.health (s := db.process) hin rfl
  refine ⟨s', hpolled, ?_⟩
  have hload := hin .load rfl
  have hlog := hin .log rfl
  rcases hbody with ⟨hkept, r, t, hbody, hpoints, hlogs, hlocals⟩ |
    ⟨hlost, e, t, hbody, htables, hlocals⟩
  · have hcount : t.locals.successCount = s'.locals.successCount := by rw [hlocals]
    exact ⟨_, _, _, pollSnmpDevice_of_ok (s := db.process) hload hlog hbody,
      congrArg (· ++ [_]) hlogs, rfl, hcount, hcount, .inl ⟨hkept, hpoints⟩⟩
  · have hcount : t.locals.successCount = s'.locals.successCount := by rw [hlocals]
    have hpoints : (p.failed db.health (failureMessage e) t.tables).points = db.points := by
      rw [points_failed, htables]
      rfl
    have hlogs : (p.failed db.health (failureMessage e) t.tables).logs = db.logs := by
      rw [logs_failed, htables]
      rfl
    exact ⟨_, _, _, pollSnmpDevice_of_error (s := db.process) hload (hin .failDevice rfl)
      (hin .failConfig rfl) hlog hbody, congrArg (· ++ [_]) hlogs, rfl, hcount, hcount,
      .inr ⟨hlost, hpoints⟩⟩

/-! ### Which points are stored -/

/-- The point of a mapping is among those that are stored after the poll. -/
def Stores (p : SnmpPoll) (db : PollTables) (m : MappingReading) : Prop :=
  p.point "snmp_worker" m ∈ (p.pollSnmpDevice db.process).2.tables.points

/-- A point that is inserted is stored exactly if the transaction stays whole, and some mapping
does not fail. -/
theorem stores_iff {db : PollTables} (hin : p.FailsInMappings)
    (hnew : ∀ point ∈ db.points, point.ingestId ≠ p.ingestId) {q : MappingReading × ℕ}
    (hq : q ∈ p.mappings.zipIdx) (hearly : p.failsEarly q.2 = false) :
    p.Stores db q.1 ↔
      KeepsWhole p 0 p.mappings ∧ ∃ q ∈ p.mappings.zipIdx, p.fails q.2 = false := by
  obtain ⟨s', hpolled, outcome, log, t, hpoll, -, -, -, -, hpoints⟩ := pollSnmpDevice_spec hin db
  unfold Stores
  rw [hpoll]
  constructor
  · intro hmem
    rcases hpoints with ⟨⟨hwhole, hsome⟩, -⟩ | ⟨-, hpoints⟩
    · refine ⟨hpolled.keepsWhole hwhole, ?_⟩
      by_contra hall
      push Not at hall
      exact hsome (hpolled.counted fun q hq => by simpa using hall q hq)
    · rw [hpoints] at hmem
      exact absurd rfl (hnew _ hmem)
  · rintro ⟨hkeeps, hfree⟩
    obtain ⟨hwhole, hstored, hcount⟩ := hpolled.whole rfl hkeeps
    have hkept : Kept s' := ⟨hwhole, (Nat.zero_lt_of_lt (hcount hfree)).ne'⟩
    rcases hpoints with ⟨-, hpoints⟩ | ⟨hlost, -⟩
    · rw [hpoints]
      exact hstored q hq hearly
    · exact absurd hkept hlost

/-! ### A poll with one failing mapping -/

theorem failsInMappings_onlyFailing (hin : p.FailsInMappings) (i : ℕ) :
    (p.onlyFailing i).FailsInMappings := by
  intro pos hpos
  show (if _ then p.raises pos else none) = none
  rw [hin pos hpos, ite_self]

@[simp] theorem failsEarly_onlyFailing : (p.onlyFailing i).failsEarly i = p.failsEarly i := by
  simp [failsEarly, onlyFailing, mappingOf]

@[simp] theorem breaksTransaction_onlyFailing :
    (p.onlyFailing i).breaksTransaction i = p.breaksTransaction i := by
  simp [breaksTransaction, onlyFailing, mappingOf]

@[simp] theorem fails_onlyFailing : (p.onlyFailing i).fails i = p.fails i := by
  simp [fails, failsEarly, failsLate, onlyFailing, mappingOf]

/-- The others do not fail. -/
theorem not_fails_onlyFailing {j : ℕ} (h : j ≠ i) : (p.onlyFailing i).fails j = false := by
  simp [fails, failsEarly, failsLate, onlyFailing, mappingOf, h]

/-- **Which readings a poll stores when no other mapping fails**: those whose own mapping does not
break the transaction, and does not leave the poll without a success. -/
theorem stores_onlyFailing_iff {db : PollTables} (hin : p.FailsInMappings)
    (hnew : ∀ point ∈ db.points, point.ingestId ≠ p.ingestId) {q : MappingReading × ℕ}
    (hq : q ∈ p.mappings.zipIdx) (hearly : p.failsEarly q.2 = false) :
    (p.onlyFailing q.2).Stores db q.1 ↔
      p.breaksTransaction q.2 = false ∧ (p.fails q.2 = false ∨ 1 < p.mappings.length) := by
  rw [stores_iff (failsInMappings_onlyFailing hin q.2) hnew hq
    (failsEarly_onlyFailing.trans hearly)]
  refine and_congr ⟨fun h => ?_, fun h other hother => ?_⟩ ⟨?_, ?_⟩
  · have hself := h q hq
    rwa [failsEarly_onlyFailing, breaksTransaction_onlyFailing, hearly, Bool.false_eq_true,
      false_or] at hself
  · by_cases hsame : other.2 = q.2
    · rw [hsame, breaksTransaction_onlyFailing]
      exact .inr h
    · exact .inr (breaksTransaction_of_not_fails (not_fails_onlyFailing hsame))
  · rintro ⟨other, hother, hfree⟩
    by_cases hsame : other.2 = q.2
    · rw [hsame, fails_onlyFailing] at hfree
      exact .inl hfree
    · have hself : q.2 < p.mappings.length + 0 := List.snd_lt_of_mem_zipIdx hq
      have hlt : other.2 < p.mappings.length + 0 := List.snd_lt_of_mem_zipIdx hother
      exact .inr (by omega)
  · rintro (hfree | hlength)
    · exact ⟨q, hq, fails_onlyFailing.trans hfree⟩
    · obtain ⟨j, hj, hne⟩ : ∃ j < p.mappings.length, j ≠ q.2 := by
        by_cases hzero : q.2 = 0
        · exact ⟨1, hlength, by omega⟩
        · exact ⟨0, by omega, by omega⟩
      exact ⟨(p.mappings[j], j), List.mem_zipIdx_iff_getElem?.mpr (List.getElem?_eq_getElem hj),
        not_fails_onlyFailing hne⟩

/-! ### Failures are local -/

/-- A reading that its mapping has inserted, and that the poll stores when no other mapping fails,
is stored whatever the others do. -/
def FailsLocally (p : SnmpPoll) (db : PollTables) : Prop :=
  ∀ q ∈ p.mappings.zipIdx, p.insertsPoint q.2 = true → (p.onlyFailing q.2).Stores db q.1 →
    p.Stores db q.1

theorem failsEarly_of_insertsPoint (h : p.insertsPoint i = true) : p.failsEarly i = false := by
  simpa using (Bool.and_eq_true_iff.mp h).1

/-- A reading that does not break the transaction has been inserted. -/
theorem insertsPoint_of_whole (hearly : p.failsEarly i = false)
    (hbreaks : p.breaksTransaction i = false) : p.insertsPoint i = true := by
  unfold breaksTransaction at hbreaks
  unfold insertsPoint
  grind

/-- The transaction of the poll is committed, or every reading that it loses is lost by its own
mapping. -/
theorem failsLocally_iff {db : PollTables} (hin : p.FailsInMappings)
    (hnew : ∀ point ∈ db.points, point.ingestId ≠ p.ingestId) :
    FailsLocally p db ↔
      (KeepsWhole p 0 p.mappings ∧ ∃ q ∈ p.mappings.zipIdx, p.fails q.2 = false) ∨
        ∀ q ∈ p.mappings.zipIdx, p.failsEarly q.2 = true ∨ p.breaksTransaction q.2 = true ∨
          p.fails q.2 = true ∧ p.mappings.length ≤ 1 := by
  constructor
  · intro hlocal
    rw [or_iff_not_imp_left]
    intro hlost q hq
    by_contra hkeeps
    simp only [not_or, not_and, not_le, Bool.not_eq_true] at hkeeps
    obtain ⟨hearly, hbreaks, hlength⟩ := hkeeps
    have hstores : (p.onlyFailing q.2).Stores db q.1 := by
      refine (stores_onlyFailing_iff hin hnew hq hearly).mpr ⟨hbreaks, ?_⟩
      cases hfails : p.fails q.2 with
      | false => exact .inl rfl
      | true => exact .inr (hlength hfails)
    exact hlost ((stores_iff hin hnew hq hearly).mp
      (hlocal q hq (insertsPoint_of_whole hearly hbreaks) hstores))
  · rintro hcases q hq hinserts hstores
    have hearly := failsEarly_of_insertsPoint hinserts
    rcases hcases with hkept | hown
    · exact (stores_iff hin hnew hq hearly).mpr hkept
    obtain ⟨hbreaks, hkeeps⟩ := (stores_onlyFailing_iff hin hnew hq hearly).mp hstores
    rcases hown q hq with h | h | ⟨h, hlength⟩
    · rw [hearly] at h
      cases h
    · rw [hbreaks] at h
      cases h
    · rcases hkeeps with hfree | hmore
      · rw [h] at hfree
        cases hfree
      · omega

/-! ### Honest accounting -/

/-- The accounting of a poll is honest, and its failures are local: the poll returns and is
logged, as many of its points are stored as it has counted successes, and no mapping discards the
stored reading of another. -/
def Honest (p : SnmpPoll) (db : PollTables) : Prop :=
  ∃ outcome log, (p.pollSnmpDevice db.process).1 = .ok outcome ∧
    (p.pollSnmpDevice db.process).2.tables.logs = db.logs ++ [log] ∧
    log.ingestId = p.ingestId ∧
    p.stored (p.pollSnmpDevice db.process).2.tables = outcome.successCount ∧
    p.stored (p.pollSnmpDevice db.process).2.tables = log.successCount ∧
    FailsLocally p db

/-- Every failure comes in front of the insert of the point; or all mappings fail, and if there are
two of them, none leaves its reading in a whole transaction. -/
def FailsHonestly (p : SnmpPoll) : Prop :=
  (∀ q ∈ p.mappings.zipIdx, p.fails q.2 = true → p.failsEarly q.2 = true) ∨
    (∀ q ∈ p.mappings.zipIdx, p.fails q.2 = true) ∧
      (1 < p.mappings.length →
        ∀ q ∈ p.mappings.zipIdx, p.failsEarly q.2 = true ∨ p.breaksTransaction q.2 = true)

/-- What honesty asks of a loop: if it is kept, that it has stored as many points as it has counted,
and otherwise that it has counted nothing. -/
theorem honest_iff_stored {db : PollTables} (hin : p.FailsInMappings)
    (hnew : ∀ point ∈ db.points, point.ingestId ≠ p.ingestId) :
    ∃ s', Polled p 0 p.mappings db.process s' ∧
      (Kept s' ∧ (Honest p db ↔ p.stored s'.tables = s'.locals.successCount ∧ FailsLocally p db) ∨
        ¬Kept s' ∧ (Honest p db ↔ s'.locals.successCount = 0 ∧ FailsLocally p db)) := by
  obtain ⟨s', hpolled, outcome, log, t, hpoll, hlogs, hid, hcount, hlogged, hpoints⟩ :=
    pollSnmpDevice_spec hin db
  refine ⟨s', hpolled, ?_⟩
  have hhonest : Honest p db ↔
      p.stored t.tables = s'.locals.successCount ∧ FailsLocally p db := by
    unfold Honest
    rw [hpoll]
    constructor
    · rintro ⟨outcome', log', hok, -, -, hstored, -, hlocal⟩
      obtain rfl := Except.ok.inj hok
      exact ⟨hstored.trans hcount, hlocal⟩
    · rintro ⟨hstored, hlocal⟩
      exact ⟨outcome, log, rfl, hlogs, hid, hstored.trans hcount.symm,
        hstored.trans hlogged.symm, hlocal⟩
  rcases hpoints with ⟨hkept, hpoints⟩ | ⟨hlost, hpoints⟩
  · have hstored : p.stored t.tables = p.stored s'.tables := congrArg (List.countP _) hpoints
    rw [hstored] at hhonest
    exact .inl ⟨hkept, hhonest⟩
  · have hstored : p.stored t.tables = 0 := by
      rw [stored, hpoints]
      exact List.countP_eq_zero.mpr fun point hpoint => by simpa using hnew point hpoint
    rw [hstored, eq_comm] at hhonest
    exact .inr ⟨hlost, hhonest⟩

/-- **Exactly when the accounting is honest.**  The ingest id is a new one. -/
theorem honest_iff {db : PollTables} (hin : p.FailsInMappings)
    (hnew : ∀ point ∈ db.points, point.ingestId ≠ p.ingestId) :
    Honest p db ↔ FailsHonestly p := by
  have hnone : p.stored db = 0 :=
    List.countP_eq_zero.mpr fun point hpoint => by simpa using hnew point hpoint
  obtain ⟨s', hpolled, hcases⟩ := honest_iff_stored hin hnew
  constructor
  · intro hhonest
    by_cases hall : ∀ q ∈ p.mappings.zipIdx, p.fails q.2 = true → p.failsEarly q.2 = true
    · exact .inl hall
    -- a loop that is kept would have stored a point without counting it
    have hlost : ¬Kept s' := by
      intro hkept
      obtain ⟨q, hq, hfails, hearly⟩ : ∃ q ∈ p.mappings.zipIdx,
          p.fails q.2 = true ∧ p.failsEarly q.2 = false := by
        push Not at hall
        simpa using hall
      have hlt := hpolled.late ⟨q, hq, hfails, hearly⟩ hkept.1
      change p.stored db + _ < _ + 0 at hlt
      rcases hcases with ⟨-, hiff⟩ | ⟨hlost, -⟩
      · have heq := (hiff.mp hhonest).1
        omega
      · exact hlost hkept
    obtain ⟨-, -, -, -, -, -, -, hlocal⟩ := hhonest
    rcases (failsLocally_iff hin hnew).mp hlocal with ⟨hwhole, hfree⟩ | hown
    · obtain ⟨hwhole, -, hcount⟩ := hpolled.whole rfl hwhole
      exact absurd ⟨hwhole, (Nat.zero_lt_of_lt (hcount hfree)).ne'⟩ hlost
    · refine .inr ⟨fun q hq => ?_, fun hlength q hq => ?_⟩
      · rcases hown q hq with h | h | ⟨h, -⟩
        · exact fails_of_failsEarly h
        · rw [fails, failsLate_of_breaksTransaction h, Bool.or_true]
        · exact h
      · rcases hown q hq with h | h | ⟨-, hone⟩
        · exact .inl h
        · exact .inr h
        · omega
  · rintro (hall | ⟨hall, hbreak⟩)
    · have hkeeps : KeepsWhole p 0 p.mappings := keepsWhole_of_early hall
      obtain ⟨hwhole, -, -⟩ := hpolled.whole rfl hkeeps
      have heq := hpolled.early rfl hall
      change p.stored s'.tables + 0 = p.stored db + _ at heq
      have hlocal : FailsLocally p db := by
        rw [failsLocally_iff hin hnew]
        by_cases hfree : ∃ q ∈ p.mappings.zipIdx, p.fails q.2 = false
        · exact .inl ⟨hkeeps, hfree⟩
        · push Not at hfree
          exact .inr fun q hq => .inl (hall q hq (by simpa using hfree q hq))
      rcases hcases with ⟨-, hiff⟩ | ⟨hlost, hiff⟩
      · exact hiff.mpr ⟨by omega, hlocal⟩
      · refine hiff.mpr ⟨?_, hlocal⟩
        by_contra hsome
        exact hlost ⟨hwhole, hsome⟩
    · have hzero : s'.locals.successCount = 0 := hpolled.counted hall
      have hlocal : FailsLocally p db := by
        refine (failsLocally_iff hin hnew).mpr (.inr fun q hq => ?_)
        by_cases hlength : 1 < p.mappings.length
        · exact (hbreak hlength q hq).imp_right .inl
        · exact .inr (.inr ⟨hall q hq, by omega⟩)
      rcases hcases with ⟨hkept, -⟩ | ⟨-, hiff⟩
      · exact absurd hzero hkept.2
      · exact hiff.mpr ⟨hzero, hlocal⟩

/-! ### Two mappings -/

/-- The temperature and the humidity of the server room, where something is raised at one
position. -/
def roomPoll (pos : SnmpPosition) : SnmpPoll where
  device := AlertsDb.roomSensor
  mappings :=
    [{ metric := AlertsDb.temperature
       payload := { valueFloat := some (.finite 21) }
       quality := .good },
      { metric := { id := 2, code := "humidity" }
        payload := { valueFloat := some (.finite 40) }
        quality := .good }]
  ingestId := 7
  startedAt := 0
  failedAt := 3000000
  finishedAt := 4000000
  raises := fun other => if other = pos then some (.error "failed") else none

/-- The device has never been polled. -/
def freshTables : PollTables where
  health := { pollingConfig := some {} }
  points := []
  latest := .empty
  logs := []

theorem failsInMappings_roomPoll {pos : SnmpPosition} (h : pos.inMapping = true) :
    (roomPoll pos).FailsInMappings := by
  intro other hother
  refine if_neg ?_
  rintro rfl
  rw [h] at hother
  cases hother

/-- The humidity cannot be read: the temperature is stored, and counted. -/
theorem honest_roomPoll_read : Honest (roomPoll (.read 1)) freshTables :=
  (honest_iff (failsInMappings_roomPoll rfl) (by decide)).mpr (.inl (by decide))

/-- The rules of the humidity cannot be evaluated: both points are stored, and one is counted. -/
theorem roomPoll_evaluate_not_honest : ¬Honest (roomPoll (.evaluate 1)) freshTables := by
  rintro ⟨outcome, log, hok, -, -, hstored, -, -⟩
  have hcount : (roomPoll (.evaluate 1)).stored
      ((roomPoll (.evaluate 1)).pollSnmpDevice freshTables.process).2.tables = 2 := by decide
  have hreturned : ((roomPoll (.evaluate 1)).pollSnmpDevice freshTables.process).1 =
      .ok ((roomPoll (.evaluate 1)).outcome .partialSuccess
        { successCount := 1, failureCount := 1 } none) := rfl
  rw [hreturned] at hok
  obtain rfl := Except.ok.inj hok
  rw [hcount] at hstored
  exact absurd hstored (by decide)

end SnmpPoll

end DcimBackend.Collectors
