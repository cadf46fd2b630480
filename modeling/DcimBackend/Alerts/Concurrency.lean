import DcimBackend.Alerts.Lifecycle

/-!
# Turns of rules at the same time

Workers that evaluate rows at the same time, at READ COMMITTED.  Each turn of a rule is
a transaction, in the steps in which PostgreSQL executes it:

* `start`: the locking read takes its snapshot, the active alerts of the key;
* `lock`: it tries the latest alert of the snapshot.  It waits while another turn has
  locked the row; then it looks at the row again, and goes on to the next if the row is
  no longer active.  No lock is taken where there is no row;
* `getOrCreate`: the condition state of the key is written.  It waits while another turn
  has written it and is not over, since the key of the row is unique;
* `write`: the alert is inserted or updated, or the condition state is deleted;
* `commit` and `rollback`.

What a turn has written is visible to the others from its commit on, so `db` is the
committed database, and the statements of a turn take effect at its commit.  A step that
has to wait, or that is not the next one of its worker, changes nothing.

Turns that run one after another are the turns of the engine, which leave at most one
active alert of a key: `run_serialTurns`.  Two turns that overlap and find no alert may
both insert one: `noDuplicate_run` says when they do not.
-/

namespace DcimBackend

open Library

/-! ### Open transactions -/

/-- What the statements of a turn do at its commit. -/
inductive TurnWrite
  /-- To the alert that it has found. -/
  | found (alert : AlertEvent)
  /-- The insertion of a suppressed alert. -/
  | suppressed
  /-- The condition state alone: the condition has not lasted long enough. -/
  | waiting
  /-- The condition state, and the insertion of an open alert. -/
  | opened
  /-- The deletion of the condition state, if one was stored. -/
  | cleared (stored : Bool)

/-- How far a turn has come. -/
inductive TurnPhase
  /-- The locking read has these alerts still to try. -/
  | reading (candidates : List AlertEvent)
  /-- The locking read has returned this alert. -/
  | read (found : Option AlertEvent)
  /-- The condition state is written; whether the condition has lasted long enough. -/
  | stated (lasted : Bool)
  /-- All statements are executed. -/
  | written (write : TurnWrite)

/-- A turn that is not over. -/
structure OpenTurn where
  worker : ℕ
  latest : LatestTelemetry
  rule : AlertRule
  clock : ℕ → Instant
  phase : TurnPhase

instance : Keyed OpenTurn := ⟨OpenTurn.worker⟩

@[simp] theorem pk_openTurn (turn : OpenTurn) : pk turn = turn.worker := rfl

namespace OpenTurn

variable (turn : OpenTurn)

/-- The key of the turn's alerts. -/
def key : ConditionKey := conditionKey turn.latest turn.rule

/-- The condition, the value and the threshold. -/
def condition : Bool × PyValue × PyValue := evaluateRuleCondition turn.rule turn.latest

/-- The turn holds the lock of an alert. -/
def locksAlert (id : AlertId) : Bool :=
  match turn.phase with
  | .read (some alert) | .written (.found alert) => alert.id = id
  | _ => false

/-- The turn holds the lock of a condition state. -/
def locksState (key : ConditionKey) : Bool :=
  match turn.phase with
  | .stated _ | .written .waiting | .written .opened | .written (.cleared true) => turn.key = key
  | _ => false

/-- The turn has inserted an open alert of a key, and is not over. -/
def inserts (key : ConditionKey) : Bool :=
  match turn.phase with
  | .written .opened => turn.key = key
  | _ => false

/-- The next statement of the turn inserts an open alert. -/
def isAboutToInsert : Bool :=
  match turn.phase with
  | .stated lasted => lasted
  | _ => false

/-- The effect of the statements of a turn. -/
def effect (py : PyText) : TurnWrite → Engine (Option AlertEvent)
  | .found alert =>
      if turn.condition.1 then
        ensureAlert py turn.latest turn.rule turn.condition.2.1 turn.condition.2.2 (some alert)
          turn.clock
      else resolveFound py turn.latest turn.rule (some alert) turn.clock
  | .suppressed =>
      some <$> createSuppressedAlert py turn.latest turn.rule turn.condition.2.1
        turn.condition.2.2 (turn.clock 0) (turn.clock 2)
  | .waiting => do
      let _ ← maybeCreateDurationAlert turn.latest turn.rule (turn.clock 2)
      return none
  | .opened => do
      let _ ← maybeCreateDurationAlert turn.latest turn.rule (turn.clock 2)
      some <$> openAlert py turn.rule turn.latest turn.condition.2.1 turn.condition.2.2
        (turn.clock 3) (turn.clock 4)
  | .cleared stored => do
      if stored then clearConditionState turn.latest turn.rule
      return none

end OpenTurn

/-- The committed database, and the turns that are not over. -/
structure Evaluations where
  db : AlertsDb
  turns : Table OpenTurn

/-- A step of a worker. -/
inductive EvaluationStep
  | start (worker : ℕ) (latest : LatestTelemetry) (rule : AlertRule) (clock : ℕ → Instant)
  | lock (worker : ℕ)
  | getOrCreate (worker : ℕ)
  | write (worker : ℕ)
  | commit (worker : ℕ)
  | rollback (worker : ℕ)

namespace Evaluations

open AlertsDb

/-- No turn is open. -/
def idle (db : AlertsDb) : Evaluations := ⟨db, .empty⟩

variable (s : Evaluations)

/-- Another worker holds the lock of an alert. -/
def alertLocked (worker : ℕ) (id : AlertId) : Bool :=
  s.turns.rows.any fun turn => turn.worker ≠ worker && turn.locksAlert id

/-- Another worker holds the lock of a condition state. -/
def stateLocked (worker : ℕ) (key : ConditionKey) : Bool :=
  s.turns.rows.any fun turn => turn.worker ≠ worker && turn.locksState key

/-- A turn moves on. -/
def advance (turn : OpenTurn) (phase : TurnPhase) : Evaluations :=
  { s with turns := s.turns.save { turn with phase := phase } }

/-- The turn of a worker is over. -/
def finish (worker : ℕ) : Evaluations :=
  { s with turns := s.turns.filter fun turn => turn.worker ≠ worker }

/-- `BEGIN`, and the snapshot of the locking read. -/
def start (worker : ℕ) (latest : LatestTelemetry) (rule : AlertRule) (clock : ℕ → Instant) :
    Evaluations :=
  match s.turns.find worker with
  | some _ => s
  | none =>
      { s with
        turns := s.turns.save
          { worker := worker, latest := latest, rule := rule, clock := clock
            phase := .reading (s.db.alerts.select fun alert =>
              alert.status.isActive && alert.HasKey (conditionKey latest rule)) } }

/-- The locking read tries its next candidate. -/
def lock (turn : OpenTurn) : Evaluations :=
  match turn.phase with
  | .reading candidates =>
      match latestAlert candidates with
      | none => s.advance turn (.read none)
      | some alert =>
          if s.alertLocked turn.worker alert.id then s
          else
            match s.db.alerts.find alert.id with
            | some row =>
                if row.ActiveFor turn.key then s.advance turn (.read (some row))
                else s.advance turn (.reading (candidates.filter (·.id ≠ alert.id)))
            | none => s.advance turn (.reading (candidates.filter (·.id ≠ alert.id)))
  | _ => s

/-- `get_or_create` of the condition state. -/
def getOrCreate (turn : OpenTurn) : Evaluations :=
  match turn.phase with
  | .read none =>
      if turn.condition.1 && !hasSuppression turn.latest (turn.clock 1) s.db then
        if s.stateLocked turn.worker turn.key then s
        else
          match (maybeCreateDurationAlert turn.latest turn.rule (turn.clock 2) s.db).1 with
          | .ok lasted => s.advance turn (.stated lasted)
          | .error _ => s.finish turn.worker
      else s
  | _ => s

/-- The statements behind the locking read and `get_or_create`. -/
def write (turn : OpenTurn) : Evaluations :=
  match turn.phase with
  | .read (some alert) => s.advance turn (.written (.found alert))
  | .read none =>
      if turn.condition.1 then
        if hasSuppression turn.latest (turn.clock 1) s.db then
          s.advance turn (.written .suppressed)
        else s
      else if (s.db.findConditionState turn.key).isSome then
        if s.stateLocked turn.worker turn.key then s
        else s.advance turn (.written (.cleared true))
      else s.advance turn (.written (.cleared false))
  | .stated lasted => s.advance turn (.written (if lasted then .opened else .waiting))
  | _ => s

/-- `COMMIT`; an error of a statement rolls the turn back. -/
def commit (py : PyText) (turn : OpenTurn) : Evaluations :=
  match turn.phase with
  | .written write =>
      { s.finish turn.worker with db := (Tx.atomic (turn.effect py write) s.db).2 }
  | _ => s

/-- A step on the open turn of a worker. -/
def onTurn (worker : ℕ) (f : OpenTurn → Evaluations) : Evaluations :=
  (s.turns.find worker).elim s f

/-- A step. -/
def step (py : PyText) (s : Evaluations) : EvaluationStep → Evaluations
  | .start worker latest rule clock => s.start worker latest rule clock
  | .lock worker => s.onTurn worker s.lock
  | .getOrCreate worker => s.onTurn worker s.getOrCreate
  | .write worker => s.onTurn worker s.write
  | .commit worker => s.onTurn worker (s.commit py)
  | .rollback worker => s.finish worker

variable {s} {py : PyText} {turn : OpenTurn}

/-! ### A turn on its own -/

/-- A turn that no other interrupts. -/
def serialTurn (worker : ℕ) (latest : LatestTelemetry) (rule : AlertRule)
    (clock : ℕ → Instant) : List EvaluationStep :=
  [.start worker latest rule clock, .lock worker, .getOrCreate worker, .write worker,
    .commit worker]

/-- A turn to be run. -/
structure PlannedTurn where
  worker : ℕ
  latest : LatestTelemetry
  rule : AlertRule
  clock : ℕ → Instant

namespace PlannedTurn

/-- The steps of the turn, if no other interrupts it. -/
def steps (turn : PlannedTurn) : List EvaluationStep :=
  serialTurn turn.worker turn.latest turn.rule turn.clock

/-- What the engine does in the turn. -/
def execute (py : PyText) (db : AlertsDb) (turn : PlannedTurn) : AlertsDb :=
  (DcimBackend.ruleTurn py turn.latest turn.rule turn.clock db).2

end PlannedTurn

/-- No turn is open, and the committed database is this one. -/
def RestsAt (s : Evaluations) (db : AlertsDb) : Prop := s.db = db ∧ s.turns.rows = []

section SerialTurn

theorem RestsAt.congr {db db' : AlertsDb} (h : s.RestsAt db) (hdb : db = db') : s.RestsAt db' :=
  hdb ▸ h

theorem onTurn_of_alone {f : OpenTurn → Evaluations} (h : s.turns.rows = [turn]) :
    s.onTurn turn.worker f = f turn := by
  simp [onTurn, Table.find, h]

theorem advance_of_alone (h : s.turns.rows = [turn]) (phase : TurnPhase) :
    (s.advance turn phase).turns.rows = [{ turn with phase := phase }] := by
  simp [Evaluations.advance, Table.save, h]

theorem not_alertLocked_of_alone (h : s.turns.rows = [turn]) (id : AlertId) :
    s.alertLocked turn.worker id = false := by
  simp [alertLocked, h]

theorem not_stateLocked_of_alone (h : s.turns.rows = [turn]) (key : ConditionKey) :
    s.stateLocked turn.worker key = false := by
  simp [stateLocked, h]

theorem finish_of_alone (h : s.turns.rows = [turn]) : (s.finish turn.worker).turns.rows = [] := by
  simp [Evaluations.finish, Table.filter, h]

/-- A turn on its own commits what it has written. -/
theorem run_write_commit {write : TurnWrite} (hturn : s.turns.rows = [turn])
    (hwrite : s.write turn = s.advance turn (.written write)) :
    RestsAt (run (step py) s [.write turn.worker, .commit turn.worker])
      (Tx.atomic (turn.effect py write) s.db).2 := by
  have halone := advance_of_alone hturn (.written write)
  simp only [run_cons, run_nil, step]
  rw [onTurn_of_alone hturn, hwrite]
  have hcommit : (s.advance turn (.written write)).onTurn turn.worker
      ((s.advance turn (.written write)).commit py) =
        (s.advance turn (.written write)).commit py { turn with phase := .written write } :=
    onTurn_of_alone halone
  rw [hcommit]
  exact ⟨rfl, finish_of_alone halone⟩

/-- What a turn that has found an alert makes of it, when it is on its own. -/
theorem run_of_read_some {alert : AlertEvent} (hturn : s.turns.rows = [turn])
    (hphase : turn.phase = .read (some alert))
    (hfound : activeAlertForRule turn.latest turn.rule s.db = some alert) :
    RestsAt (run (step py) s [.getOrCreate turn.worker, .write turn.worker, .commit turn.worker])
      (DcimBackend.ruleTurn py turn.latest turn.rule turn.clock s.db).2 := by
  have hskip : step py s (.getOrCreate turn.worker) = s := by
    rw [step, onTurn_of_alone hturn, Evaluations.getOrCreate, hphase]
  have hwrite : s.write turn = s.advance turn (.written (.found alert)) := by
    rw [Evaluations.write, hphase]
  rw [run_cons, hskip]
  refine (run_write_commit hturn hwrite).congr ?_
  cases hcondition : turn.condition.1 with
  | true =>
      rw [ruleTurn_of_true hcondition hfound, OpenTurn.effect, if_pos hcondition]
      rfl
  | false =>
      rw [ruleTurn_of_false hcondition hfound, OpenTurn.effect, if_neg (by simp [hcondition])]

/-- What a turn that has found none does under a false condition. -/
theorem run_of_read_none_false (hturn : s.turns.rows = [turn])
    (hphase : turn.phase = .read none)
    (hfound : activeAlertForRule turn.latest turn.rule s.db = none)
    (hfalse : turn.condition.1 = false) :
    RestsAt (run (step py) s [.getOrCreate turn.worker, .write turn.worker, .commit turn.worker])
      (DcimBackend.ruleTurn py turn.latest turn.rule turn.clock s.db).2 := by
  have hskip : step py s (.getOrCreate turn.worker) = s := by
    rw [step, onTurn_of_alone hturn, Evaluations.getOrCreate, hphase]
    simp [hfalse]
  have hwrite : s.write turn = s.advance turn
      (.written (.cleared (s.db.findConditionState turn.key).isSome)) := by
    rw [Evaluations.write, hphase]
    cases hstate : s.db.findConditionState turn.key <;>
      simp [hfalse, not_stateLocked_of_alone hturn]
  rw [run_cons, hskip, ruleTurn_of_false hfalse hfound]
  refine (run_write_commit hturn hwrite).congr (congrArg Prod.snd (Tx.atomic_congr ?_))
  cases hstate : s.db.findConditionState turn.key with
  | some state => rfl
  | none =>
      refine Prod.ext rfl ?_
      exact (removeConditionState_of_none hstate).symm

/-- What a turn that has found none does under a true condition. -/
theorem run_of_read_none_true (hturn : s.turns.rows = [turn])
    (hphase : turn.phase = .read none)
    (hfound : activeAlertForRule turn.latest turn.rule s.db = none)
    (htrue : turn.condition.1 = true) :
    RestsAt (run (step py) s [.getOrCreate turn.worker, .write turn.worker, .commit turn.worker])
      (DcimBackend.ruleTurn py turn.latest turn.rule turn.clock s.db).2 := by
  rw [ruleTurn_of_true htrue hfound]
  cases hsuppressed : hasSuppression turn.latest (turn.clock 1) s.db with
  | true =>
      have hskip : step py s (.getOrCreate turn.worker) = s := by
        rw [step, onTurn_of_alone hturn, Evaluations.getOrCreate, hphase]
        simp [hsuppressed]
      have hwrite : s.write turn = s.advance turn (.written .suppressed) := by
        rw [Evaluations.write, hphase]
        simp [htrue, hsuppressed]
      rw [run_cons, hskip]
      refine (run_write_commit hturn hwrite).congr (congrArg Prod.snd (Tx.atomic_congr ?_))
      simp only [ensureAlert, OpenTurn.effect, Tx.bind_apply, Tx.read_apply, hsuppressed, if_true]
      rfl
  | false =>
      have hget : step py s (.getOrCreate turn.worker) =
          match (maybeCreateDurationAlert turn.latest turn.rule (turn.clock 2) s.db).1 with
          | .ok lasted => s.advance turn (.stated lasted)
          | .error _ => s.finish turn.worker := by
        rw [step, onTurn_of_alone hturn, Evaluations.getOrCreate, hphase]
        simp [htrue, hsuppressed, not_stateLocked_of_alone hturn]
      rw [run_cons, hget]
      rcases hstate : maybeCreateDurationAlert turn.latest turn.rule (turn.clock 2) s.db with
        ⟨e | lasted, db₁⟩
      · -- the statement is refused, and the transaction is rolled back
        have hgone : (s.finish turn.worker).turns.find turn.worker = none := by
          simp [Evaluations.finish, Table.find, Table.filter, hturn]
        have herror : Tx.atomic (ensureAlert py turn.latest turn.rule
            (evaluateRuleCondition turn.rule turn.latest).2.1
            (evaluateRuleCondition turn.rule turn.latest).2.2 none turn.clock) s.db =
              (.error e, s.db) := by
          refine Tx.atomic_eq_error_iff.mpr ⟨?_, rfl⟩
          rw [ensureAlert_none_of_clear hsuppressed, Tx.bind_of_error hstate]
        rw [herror]
        simp only [run_cons, run_nil, step, onTurn, hgone, Option.elim_none]
        exact ⟨rfl, finish_of_alone hturn⟩
      · have hwrite : (s.advance turn (.stated lasted)).write { turn with phase := .stated lasted } =
            (s.advance turn (.stated lasted)).advance { turn with phase := .stated lasted }
              (.written (if lasted then .opened else .waiting)) := rfl
        refine (run_write_commit (advance_of_alone hturn (.stated lasted)) hwrite).congr ?_
        refine congrArg Prod.snd (Tx.atomic_congr ?_)
        refine Eq.trans ?_
          ((ensureAlert_none_of_clear hsuppressed).trans (Tx.bind_of_ok hstate)).symm
        cases lasted with
        | true => exact Tx.bind_of_ok hstate
        | false => exact Tx.bind_of_ok hstate

/-- What a turn makes of what it has read, when it is on its own. -/
theorem run_of_read (hturn : s.turns.rows = [turn]) {found : Option AlertEvent}
    (hphase : turn.phase = .read found)
    (hfound : activeAlertForRule turn.latest turn.rule s.db = found) :
    RestsAt (run (step py) s [.getOrCreate turn.worker, .write turn.worker, .commit turn.worker])
      (DcimBackend.ruleTurn py turn.latest turn.rule turn.clock s.db).2 := by
  cases found with
  | some alert => exact run_of_read_some hturn hphase hfound
  | none =>
      cases hcondition : turn.condition.1 with
      | false => exact run_of_read_none_false hturn hphase hfound hcondition
      | true => exact run_of_read_none_true hturn hphase hfound hcondition

/-- The locking read of a turn on its own returns the latest active alert. -/
theorem run_start_lock (hidle : s.turns.rows = []) {worker : ℕ} {latest : LatestTelemetry}
    {rule : AlertRule} {clock : ℕ → Instant} :
    ∃ turns : Table OpenTurn,
      run (step py) s [.start worker latest rule clock, .lock worker] = ⟨s.db, turns⟩ ∧
        turns.rows = [{ worker := worker, latest := latest, rule := rule, clock := clock
                        phase := .read (activeAlertForRule latest rule s.db) }] := by
  have hfind : s.turns.find worker = none := by simp [Table.find, hidle]
  have hstart : (s.start worker latest rule clock).turns.rows =
      [{ worker := worker, latest := latest, rule := rule, clock := clock
         phase := .reading (s.db.alerts.select fun alert =>
          alert.status.isActive && alert.HasKey (conditionKey latest rule)) }] := by
    simp [Evaluations.start, hfind, Table.save, hidle]
  have hdb : (s.start worker latest rule clock).db = s.db := by
    simp only [Evaluations.start, hfind]
  simp only [run_cons, run_nil, step]
  rw [onTurn_of_alone hstart, Evaluations.lock]
  dsimp only
  cases hread : activeAlertForRule latest rule s.db with
  | none =>
      rw [activeAlertForRule] at hread
      rw [hread]
      refine ⟨_, ?_, advance_of_alone hstart _⟩
      simp only [Evaluations.advance, hdb]
  | some alert =>
      obtain ⟨halert, hactive⟩ := activeAlertForRule_some hread
      rw [activeAlertForRule] at hread
      rw [hread]
      dsimp only
      rw [not_alertLocked_of_alone hstart, hdb, ← pk_alertEvent, Table.find_pk halert]
      dsimp only
      rw [if_neg Bool.false_ne_true]
      refine ⟨_, (if_pos hactive).trans ?_, advance_of_alone hstart _⟩
      simp only [Evaluations.advance, hdb]

/-- **A turn on its own** is the turn of the engine. -/
theorem run_serialTurn (hidle : s.turns.rows = []) (worker : ℕ) (latest : LatestTelemetry)
    (rule : AlertRule) (clock : ℕ → Instant) :
    RestsAt (run (step py) s (serialTurn worker latest rule clock))
      (DcimBackend.ruleTurn py latest rule clock s.db).2 := by
  obtain ⟨turns, hread, hturn⟩ := @run_start_lock s py hidle worker latest rule clock
  have hsplit : serialTurn worker latest rule clock =
      [.start worker latest rule clock, .lock worker] ++
        [.getOrCreate worker, .write worker, .commit worker] := rfl
  rw [hsplit, run_append, hread]
  exact @run_of_read ⟨s.db, turns⟩ py _ hturn _ rfl rfl

/-- **Turns one after another** are the turns of the engine, and no key gets a second active
alert: it takes turns that overlap. -/
theorem run_serialTurns (hidle : s.turns.rows = []) (turns : List PlannedTurn) :
    RestsAt (run (step py) s (turns.flatMap PlannedTurn.steps))
        (run (PlannedTurn.execute py) s.db turns) ∧
      (s.db.AtMostOneActive →
        (run (step py) s (turns.flatMap PlannedTurn.steps)).db.AtMostOneActive) := by
  induction turns generalizing s with
  | nil => exact ⟨⟨rfl, hidle⟩, id⟩
  | cons turn turns ih =>
      obtain ⟨hdb, hrest⟩ : RestsAt (run (step py) s turn.steps) (turn.execute py s.db) :=
        run_serialTurn hidle turn.worker turn.latest turn.rule turn.clock
      have hkeeps : KeepsAtMostOne s.db (turn.execute py s.db) := keepsAtMostOne_ruleTurn s.db
      rw [← hdb] at hkeeps
      rw [List.flatMap_cons, run_append, run_cons, ← hdb]
      exact ⟨(ih hrest).1, fun hone => (ih hrest).2 (hkeeps hone)⟩

end SerialTurn

/-! ### Insertions on a fresh read -/

variable (s)

/-- A worker that is about to insert an open alert: its locking read is still right, no
alert of the key is active, and no other turn has inserted one and is not over. -/
def InsertsOnFreshRead : EvaluationStep → Prop
  | .write worker =>
      ∀ turn ∈ s.turns.find worker, turn.isAboutToInsert →
        (∀ alert ∈ s.db.alerts, ¬alert.ActiveFor turn.key) ∧
          ∀ other ∈ s.turns, ¬other.inserts turn.key
  | _ => True

instance : (i : EvaluationStep) → Decidable (s.InsertsOnFreshRead i)
  | .write _ => inferInstanceAs (Decidable (∀ turn ∈ _, _ → _ ∧ ∀ other ∈ s.turns, _))
  | .start .. | .lock _ | .getOrCreate _ | .commit _ | .rollback _ => .isTrue trivial

/-- At most one alert of a key is active, counting those that are inserted and not
committed. -/
structure NoDuplicate : Prop where
  one : s.db.AtMostOneActive
  fresh : ∀ turn ∈ s.turns, ∀ key, turn.inserts key → s.db.activeIds key = ∅
  alone : ∀ turn ∈ s.turns, ∀ other ∈ s.turns, ∀ key,
    turn.inserts key → other.inserts key → turn = other

variable {s}

theorem activeIds_eq_empty_iff {db : AlertsDb} {key : ConditionKey} :
    db.activeIds key = ∅ ↔ ∀ alert ∈ db.alerts, ¬alert.ActiveFor key := by
  rw [Set.eq_empty_iff_forall_notMem]
  constructor
  · intro h alert halert hactive
    exact h alert.id ⟨alert, halert, rfl, hactive⟩
  · rintro h id ⟨alert, halert, -, hactive⟩
    exact h alert halert hactive

/-- A turn that moves on without inserting an open alert. -/
theorem NoDuplicate.save (h : s.NoDuplicate) (hturn : ∀ key, turn.inserts key = false) :
    NoDuplicate { s with turns := s.turns.save turn } where
  one := h.one
  fresh := by
    intro other hother key hinserts
    rcases Table.mem_save.mp hother with rfl | ⟨hold, -⟩
    · rw [hturn] at hinserts
      cases hinserts
    · exact h.fresh other hold key hinserts
  alone := by
    intro a ha b hb key hinserts hinserts'
    rcases Table.mem_save.mp ha with rfl | ⟨ha, -⟩
    · rw [hturn] at hinserts
      cases hinserts
    rcases Table.mem_save.mp hb with rfl | ⟨hb, -⟩
    · rw [hturn] at hinserts'
      cases hinserts'
    exact h.alone a ha b hb key hinserts hinserts'

/-- A turn that inserts an open alert where there is none, committed or not. -/
theorem NoDuplicate.insert (h : s.NoDuplicate) {key : ConditionKey}
    (hturn : ∀ other, turn.inserts other → other = key) (hnone : s.db.activeIds key = ∅)
    (halone : ∀ other ∈ s.turns, ¬other.inserts key) :
    NoDuplicate { s with turns := s.turns.save turn } where
  one := h.one
  fresh := by
    intro other hother key' hinserts
    rcases Table.mem_save.mp hother with rfl | ⟨hold, -⟩
    · rwa [hturn key' hinserts]
    · exact h.fresh other hold key' hinserts
  alone := by
    intro a ha b hb key' hinserts hinserts'
    rcases Table.mem_save.mp ha with rfl | ⟨hold, -⟩
    · rcases Table.mem_save.mp hb with rfl | ⟨hold', -⟩
      · rfl
      · exact absurd (hturn key' hinserts ▸ hinserts') (halone b hold')
    · rcases Table.mem_save.mp hb with rfl | ⟨hold', -⟩
      · exact absurd (hturn key' hinserts' ▸ hinserts) (halone a hold)
      · exact h.alone a hold b hold' key' hinserts hinserts'

/-- A turn that is over, with nothing committed. -/
theorem NoDuplicate.finish (h : s.NoDuplicate) (worker : ℕ) : (s.finish worker).NoDuplicate where
  one := h.one
  fresh other hother := h.fresh other (Table.mem_filter.mp hother).1
  alone a ha b hb := h.alone a (Table.mem_filter.mp ha).1 b (Table.mem_filter.mp hb).1

/-! ### What a commit does to active alerts -/

/-- Only the insertion of an open alert opens one. -/
theorem opensOnly_effect {write : TurnWrite} (hwrite : write ≠ .opened) :
    Tx.Respects (OpensOnly ∅) (turn.effect py write) := by
  cases write with
  | found alert =>
      unfold OpenTurn.effect
      dsimp only
      split
      · exact respects_ensureAlert_some
      · exact respects_resolveFound
  | suppressed => exact respects_map respects_createSuppressedAlert
  | waiting =>
      exact Tx.respects_bind respects_maybeCreateDurationAlert fun _ => Tx.respects_pure _
  | opened => exact absurd rfl hwrite
  | cleared stored =>
      cases stored with
      | true => exact Tx.respects_bind respects_clearConditionState fun _ => Tx.respects_pure _
      | false => exact Tx.respects_pure _

theorem opensOnly_effect_opened :
    Tx.Respects (OpensOnly {turn.key}) (turn.effect py .opened) :=
  Tx.respects_bind respects_maybeCreateDurationAlert fun _ => respects_map respects_openAlert

/-- Where no alert is active, the insertion of one leaves one. -/
theorem subsingleton_effect_opened {db : AlertsDb} (hnone : db.activeIds turn.key = ∅) :
    ((Tx.atomic (turn.effect py .opened) db).2.activeIds turn.key).Subsingleton := by
  rcases heffect : Tx.atomic (turn.effect py .opened) db with ⟨e | result, db'⟩
  · obtain ⟨-, rfl⟩ := Tx.atomic_eq_error_iff.mp heffect
    rw [hnone]
    exact Set.subsingleton_empty
  · obtain ⟨lasted, db₁, hstate, hmap⟩ := Tx.bind_eq_ok_iff.mp (Tx.atomic_eq_ok_iff.mp heffect)
    obtain ⟨alert, hopen, -⟩ := map_eq_ok_iff.mp hmap
    have hcreated := (openAlert_ok hopen).2
    have hbefore : db₁.activeIds turn.key = ∅ := by
      rw [activeIds_eq_of_alerts_eq (maybeCreateDurationAlert_ok hstate).1, hnone]
    have hafter : ∀ id ∈ db'.activeIds turn.key, id = alert.id := by
      intro id hid
      rcases hcreated.mem_activeIds_iff.mp hid with ⟨hid, -⟩ | hid
      · exact hid
      · rw [hbefore] at hid
        exact hid.elim
    intro a ha b hb
    rw [hafter a ha, hafter b hb]

/-- A commit keeps the invariant: what it inserts was counted before. -/
theorem NoDuplicate.commit (h : s.NoDuplicate) (hmem : turn ∈ s.turns) :
    (s.commit py turn).NoDuplicate := by
  unfold Evaluations.commit
  split
  swap
  · exact h
  rename_i write hphase
  by_cases hwrite : write = .opened
  · subst hwrite
    have hinserts : turn.inserts turn.key := by simp [OpenTurn.inserts, hphase]
    have hnone := h.fresh turn hmem turn.key hinserts
    have hopens : OpensOnly {turn.key} s.db (Tx.atomic (turn.effect py .opened) s.db).2 :=
      Tx.respects_atomic opensOnly_effect_opened s.db
    refine ⟨fun key => ?_, ?_, (h.finish turn.worker).alone⟩
    · by_cases hkey : key = turn.key
      · rw [hkey]
        exact subsingleton_effect_opened hnone
      · exact (h.one key).anti (hopens.activeIds_subset hkey)
    · intro other hother key hother'
      obtain ⟨hold, hne⟩ := Table.mem_filter.mp hother
      have hkey : key ≠ turn.key := by
        rintro rfl
        simp [h.alone other hold turn hmem _ hother' hinserts] at hne
      exact Set.subset_eq_empty (hopens.activeIds_subset hkey) (h.fresh other hold key hother')
  · have hopens : OpensOnly ∅ s.db (Tx.atomic (turn.effect py write) s.db).2 :=
      Tx.respects_atomic (opensOnly_effect hwrite) s.db
    refine ⟨hopens.atMostOneActive h.one, ?_, (h.finish turn.worker).alone⟩
    intro other hother key hinserts
    exact Set.subset_eq_empty (hopens.activeIds_subset (Set.notMem_empty key))
      ((h.finish turn.worker).fresh other hother key hinserts)

/-! ### Runs -/

/-- A turn that has not written yet. -/
theorem NoDuplicate.advance (h : s.NoDuplicate) {phase : TurnPhase} (hphase : ∀ key,
    ({ turn with phase := phase } : OpenTurn).inserts key = false) :
    (s.advance turn phase).NoDuplicate :=
  h.save hphase

theorem NoDuplicate.start (h : s.NoDuplicate) {worker : ℕ} {latest : LatestTelemetry}
    {rule : AlertRule} {clock : ℕ → Instant} :
    (s.start worker latest rule clock).NoDuplicate := by
  unfold Evaluations.start
  split
  · exact h
  · exact h.save fun _ => rfl

theorem NoDuplicate.lock (h : s.NoDuplicate) : (s.lock turn).NoDuplicate := by
  unfold Evaluations.lock
  split
  swap
  · exact h
  split
  · exact h.advance fun _ => rfl
  split
  · exact h
  split
  · split
    · exact h.advance fun _ => rfl
    · exact h.advance fun _ => rfl
  · exact h.advance fun _ => rfl

theorem NoDuplicate.getOrCreate (h : s.NoDuplicate) : (s.getOrCreate turn).NoDuplicate := by
  unfold Evaluations.getOrCreate
  split
  swap
  · exact h
  split
  swap
  · exact h
  split
  · exact h
  split
  · exact h.advance fun _ => rfl
  · exact h.finish turn.worker

theorem NoDuplicate.write (h : s.NoDuplicate)
    (hfresh : turn.isAboutToInsert → s.db.activeIds turn.key = ∅ ∧
      ∀ other ∈ s.turns, ¬other.inserts turn.key) : (s.write turn).NoDuplicate := by
  unfold Evaluations.write
  split
  · exact h.advance fun _ => rfl
  · split
    · split
      · exact h.advance fun _ => rfl
      · exact h
    · split
      · split
        · exact h
        · exact h.advance fun _ => rfl
      · exact h.advance fun _ => rfl
  · rename_i lasted hphase
    cases lasted with
    | false => exact h.advance fun _ => rfl
    | true =>
        obtain ⟨hnone, halone⟩ := hfresh (by rw [OpenTurn.isAboutToInsert, hphase])
        refine NoDuplicate.insert h (fun other hother => ?_) hnone halone
        simpa [OpenTurn.inserts, OpenTurn.key, eq_comm] using hother
  · exact h

/-- **The step lemma.** -/
theorem noDuplicate_step (i : EvaluationStep) (h : s.NoDuplicate)
    (hfresh : s.InsertsOnFreshRead i) : (step py s i).NoDuplicate := by
  have honTurn : ∀ {worker : ℕ} {f : OpenTurn → Evaluations},
      (∀ turn ∈ s.turns.find worker, (f turn).NoDuplicate) → (s.onTurn worker f).NoDuplicate := by
    intro worker f hf
    unfold onTurn
    cases hfind : s.turns.find worker with
    | none => exact h
    | some turn => exact hf turn hfind
  cases i with
  | start worker latest rule clock => exact h.start
  | lock worker => exact honTurn fun turn _ => h.lock
  | getOrCreate worker => exact honTurn fun turn _ => h.getOrCreate
  | write worker =>
      refine honTurn fun turn hturn => h.write fun hinserts => ?_
      obtain ⟨hnone, halone⟩ := hfresh turn hturn hinserts
      exact ⟨activeIds_eq_empty_iff.mpr hnone, halone⟩
  | commit worker =>
      exact honTurn fun turn hturn => h.commit (Table.find_eq_some_iff.mp hturn).1
  | rollback worker => exact h.finish worker

/-- **No duplicate alert.**  From a state without open turns in which a key has at most
one active alert, along every run in which a turn inserts an open alert only while its
locking read is still right, a key has at most one active alert in every state. -/
theorem noDuplicate_run (py : PyText) {s : Evaluations} (hidle : s.turns.rows = [])
    (hone : s.db.AtMostOneActive) {w : List EvaluationStep}
    (hw : Along (step py) (fun before i _ => before.InsertsOnFreshRead i) s w) :
    ∀ u v, w = u ++ v → ∀ key, ∀ a ∈ (run (step py) s u).db.alerts,
      ∀ b ∈ (run (step py) s u).db.alerts, a.ActiveFor key → b.ActiveFor key → a = b := by
  rintro u v rfl key a ha b hb
  have hstart : s.NoDuplicate := by
    refine ⟨hone, fun turn hturn => ?_, fun turn hturn => ?_⟩ <;>
    · rw [Table.mem_def, hidle] at hturn
      cases hturn
  have hreached : (run (step py) s u).NoDuplicate :=
    run_invariant_of_along (I := NoDuplicate) (fun _ i h => noDuplicate_step i h) hstart
      (along_append.mp hw).1
  exact hreached.one.eq ha hb

/-- Two workers that poll the hot room one after the other open one alert. -/
theorem noDuplicate_run_serialTurns :
    (run (step plainText) (idle serverRoom)
      (serialTurn 1 hotRow tooHot (fun _ => 0) ++
        serialTurn 2 hotRow tooHot fun _ => 0)).db.AtMostOneActive := by
  rintro key - ⟨a, ha, rfl, hactive⟩ - ⟨b, hb, rfl, hactive'⟩
  exact congrArg AlertEvent.id
    (noDuplicate_run plainText rfl (@atMostOneActive_run serverRoom plainText rfl [])
      (by decide +kernel) _ [] (List.append_nil _).symm key a ha b hb hactive hactive')

/-- Two workers poll the hot room at the same time: the second reads before the first
has committed. -/
def overlappingTurns : List EvaluationStep :=
  [.start 1 hotRow tooHot fun _ => 0, .lock 1, .start 2 hotRow tooHot fun _ => 0, .lock 2,
    .getOrCreate 1, .write 1, .commit 1, .getOrCreate 2, .write 2, .commit 2]

/-- Both workers open an alert. -/
theorem overlappingTurns_duplicate :
    ¬∀ u v, overlappingTurns = u ++ v →
      ∀ key, ∀ a ∈ (run (step plainText) (idle serverRoom) u).db.alerts,
        ∀ b ∈ (run (step plainText) (idle serverRoom) u).db.alerts,
          a.ActiveFor key → b.ActiveFor key → a = b := by
  intro hone
  have hfirst : ∃ alert ∈ (run (step plainText) (idle serverRoom) overlappingTurns).db.alerts,
      alert.id = 0 ∧ alert.ActiveFor (conditionKey hotRow tooHot) := by decide +kernel
  have hsecond : ∃ alert ∈ (run (step plainText) (idle serverRoom) overlappingTurns).db.alerts,
      alert.id = 1 ∧ alert.ActiveFor (conditionKey hotRow tooHot) := by decide +kernel
  obtain ⟨first, hmem, hid, hactive⟩ := hfirst
  obtain ⟨second, hmem', hid', hactive'⟩ := hsecond
  rw [hone overlappingTurns [] (List.append_nil _).symm _ first hmem second hmem' hactive hactive',
    hid'] at hid
  cases hid

end Evaluations

end DcimBackend
