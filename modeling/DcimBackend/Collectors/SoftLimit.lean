import DcimBackend.Collectors.Accounting
import DcimBackend.Collectors.ModbusPoll

/-!
# The soft time limit of a poll

Celery raises `SoftTimeLimitExceeded` wherever a poll is when its time is over.  The polls
expect it in an `except` block of their own.  It is an `Exception`, however, and so the blocks
around the single mappings catch it like any failure.

Where the limit surfaces in the `try` block of a poll, and in no block inside it, the poll obeys:
its log ends with the exception (`EndsInLimit`), and the handler does the rest.  Everywhere else
no poll that returns has the message of the limit.

A poll logs every exception in its trace when it is raised, caught or not, so "the limit was
raised" can be said of a poll that went on.  `LimitedAt` puts the limit at one position of the
source; everything else in the `try` block may fail as well, with other messages, since a claim
about the limit should not depend on a poll that is otherwise undisturbed.

Both collectors go through the same two steps.  The first is about the trace of the `try` block,
by the rules of `Library.Exceptions` for sequences, handlers and blocks; the second is about the
handler and the log behind it.
-/

namespace DcimBackend.Collectors

open Library

/-- The limit is raised. -/
abbrev limitRaised : PollAction := .raised .softTimeLimitExceeded

/-- What a poll does once the limit is raised: it reads no further mapping, returns and logs a
failure with the message of the limit, and has run `_mark_failure`. -/
structure Obeys (message : String) (ingestId : IngestId) (r : Except PollException PollOutcome)
    (s : PollProcess) : Prop where
  stops : ∃ before after, s.locals.trace = before ++ limitRaised :: after ∧
    limitRaised ∉ before ∧ ∀ i, .read i ∉ after
  returns : ∃ outcome, r = .ok outcome ∧ outcome.status = .failed ∧
    outcome.errorMessage = some message
  logs : ∃ log ∈ s.tables.logs, log.ingestId = ingestId ∧ log.status = .failed ∧
    log.errorMessage = some message
  marks : .markedFailure message ∈ s.locals.trace

/-- A poll that ends with the limit, `_mark_failure` and its log. -/
theorem obeys_of_failed {message : String} {outcome : PollOutcome} (log : TelemetryIngestLog)
    {s : PollProcess} {before : List PollAction}
    (htrace : s.locals.trace = (before ++ [limitRaised]) ++ [.markedFailure message])
    (hbefore : limitRaised ∉ before) (hlog : log ∈ s.tables.logs)
    (hstatus : outcome.status = .failed ∧ log.status = .failed)
    (hmessage : outcome.errorMessage = some message ∧ log.errorMessage = some message) :
    Obeys message log.ingestId (.ok outcome) s where
  stops := by
    refine ⟨before, [.markedFailure message], ?_, hbefore, by simp⟩
    rw [htrace, List.append_assoc]
    rfl
  returns := ⟨outcome, rfl, hstatus.1, hmessage.1⟩
  logs := ⟨log, hlog, rfl, hstatus.2, hmessage.2⟩
  marks := by
    rw [htrace]
    exact List.mem_append_right _ (List.mem_singleton_self _)

/-! ### What is logged -/

/-- The limit is not raised, or it is raised last, and not caught. -/
def EndsInLimit (t : List PollAction) (e : Option PollException) : Prop :=
  limitRaised ∉ t ∨
    ∃ before, t = before ++ [limitRaised] ∧ limitRaised ∉ before ∧ e = some .softTimeLimitExceeded

/-- The limit is not raised. -/
def NoLimit (t : List PollAction) (_ : Option PollException) : Prop := limitRaised ∉ t

abbrev trace (s : PollProcess) : List PollAction := s.locals.trace

theorem noLimit_append (t t' : List PollAction) (e e' : Option PollException)
    (h : NoLimit t e) (h' : NoLimit t' e') : NoLimit (t ++ t') e' := by
  unfold NoLimit at *
  rw [List.mem_append, not_or]
  exact ⟨h, h'⟩

theorem endsInLimit_append (t t' : List PollAction) (e e' : Option PollException)
    (h : NoLimit t e) (h' : EndsInLimit t' e') : EndsInLimit (t ++ t') e' := by
  rcases h' with h' | ⟨before, rfl, hbefore, he⟩
  · exact .inl (noLimit_append t t' e e' h h')
  · refine .inr ⟨t ++ before, (List.append_assoc ..).symm, ?_, he⟩
    exact noLimit_append t before e none h hbefore

theorem endsInLimit_chain (t t' : List PollAction) (e : Option PollException)
    (h : EndsInLimit t none) (h' : EndsInLimit t' e) : EndsInLimit (t ++ t') e := by
  rcases h with h | ⟨-, -, -, he⟩
  · exact endsInLimit_append t t' none e h h'
  · cases he

section Statements

variable {π : Type} {raises : π → Option PollException} {pos : π} {α β : Type}

theorem noLimit_bind {x : Poll α} {f : α → Poll β} (hx : Tx.Logs trace NoLimit x)
    (hf : ∀ a, Tx.Logs trace NoLimit (f a)) : Tx.Logs trace NoLimit (x >>= f) :=
  Tx.logs_bind hx hf fun t t' e => noLimit_append t t' none e

theorem endsInLimit_bind {x : Poll α} {f : α → Poll β} (hx : Tx.Logs trace EndsInLimit x)
    (hf : ∀ a, Tx.Logs trace EndsInLimit (f a)) : Tx.Logs trace EndsInLimit (x >>= f) :=
  Tx.logs_bind hx hf endsInLimit_chain

/-- A handler around a part that is not stopped. -/
theorem endsInLimit_handle {x : Poll α} {handler : PollException → Poll α}
    (hx : Tx.Logs trace NoLimit x) (hhandler : ∀ e, Tx.Logs trace EndsInLimit (handler e)) :
    Tx.Logs trace EndsInLimit (Tx.handle x handler) :=
  Tx.logs_handle hx hhandler (fun _ h => .inl h) fun t e t' e' =>
    endsInLimit_append t t' (some e) e'

theorem noLimit_handle {x : Poll α} {handler : PollException → Poll α}
    (hx : Tx.Logs trace NoLimit x) (hhandler : ∀ e, Tx.Logs trace NoLimit (handler e)) :
    Tx.Logs trace NoLimit (Tx.handle x handler) :=
  Tx.logs_handle hx hhandler (fun _ h => h) fun t e t' e' => noLimit_append t t' (some e) e'

theorem endsInLimit_of_noLimit {x : Poll α} (h : Tx.Logs trace NoLimit x) :
    Tx.Logs trace EndsInLimit x :=
  h.mono fun _ _ => .inl

theorem noLimit_execute {x : Poll α} (h : Tx.Logs trace NoLimit x) :
    Tx.Logs trace NoLimit (Process.execute aborted x) :=
  @Process.logs_execute _ _ _ _ aborted x _ PollLocals.trace NoLimit List.not_mem_nil h

theorem endsInLimit_execute {x : Poll α} (h : Tx.Logs trace EndsInLimit x) :
    Tx.Logs trace EndsInLimit (Process.execute aborted x) :=
  @Process.logs_execute _ _ _ _ aborted x _ PollLocals.trace EndsInLimit (.inl List.not_mem_nil) h

theorem noLimit_atomic {x : Poll α} (h : Tx.Logs trace NoLimit x) :
    Tx.Logs trace NoLimit (Process.atomic x) :=
  @Process.logs_atomic _ _ _ _ x _ PollLocals.trace NoLimit h

theorem endsInLimit_atomic {x : Poll α} (h : Tx.Logs trace EndsInLimit x) :
    Tx.Logs trace EndsInLimit (Process.atomic x) :=
  @Process.logs_atomic _ _ _ _ x _ PollLocals.trace EndsInLimit h

theorem noLimit_pure (a : α) : Tx.Logs trace NoLimit (pure a : Poll α) :=
  Tx.logs_pure List.not_mem_nil

theorem noLimit_read (f : PollProcess → α) : Tx.Logs trace NoLimit (Tx.read f : Poll α) :=
  Tx.logs_read List.not_mem_nil

theorem noLimit_raise (e : PollException) : Tx.Logs trace NoLimit (Tx.raise e : Poll α) :=
  Tx.logs_raise List.not_mem_nil

theorem noLimit_write (f : PollTables → PollTables) :
    Tx.Logs trace NoLimit (Process.write f : Poll PUnit) :=
  Tx.logs_modify (fun _ => rfl) List.not_mem_nil

/-- An assignment to the other variables. -/
theorem noLimit_assign {f : PollLocals → PollLocals} (h : ∀ l, (f l).trace = l.trace) :
    Tx.Logs trace NoLimit (Process.assign f : Poll PUnit) :=
  Tx.logs_modify (fun s => h s.locals) List.not_mem_nil

theorem noLimit_record {action : PollAction} (h : action ≠ limitRaised) :
    Tx.Logs trace NoLimit (record action) := by
  intro s
  exact ⟨[action], rfl, by simpa [NoLimit] using h.symm⟩

theorem endsInLimit_reach : Tx.Logs trace EndsInLimit (reach raises pos) := by
  intro s
  cases h : raises pos with
  | none =>
      rw [reach_of_none h]
      exact ⟨[], (List.append_nil _).symm, .inl List.not_mem_nil⟩
  | some e =>
      rw [reach_of_some h]
      refine ⟨[.raised e], rfl, ?_⟩
      cases e with
      | softTimeLimitExceeded => exact .inr ⟨[], rfl, List.not_mem_nil, rfl⟩
      | error message => exact .inl (by simp)

theorem noLimit_reach (h : raises pos ≠ some .softTimeLimitExceeded) :
    Tx.Logs trace NoLimit (reach raises pos) := by
  intro s
  cases hpos : raises pos with
  | none =>
      rw [reach_of_none hpos]
      exact ⟨[], (List.append_nil _).symm, List.not_mem_nil⟩
  | some e =>
      rw [reach_of_some hpos]
      refine ⟨[.raised e], rfl, ?_⟩
      rw [hpos] at h
      simpa [NoLimit, eq_comm] using h

end Statements

/-! ### Where the limit surfaces -/

/-- An error whose message is another one. -/
def OtherError (message : String) (e : PollException) : Prop :=
  ∃ other, other ≠ message ∧ e = .error other

section LimitedAt

variable {π : Type} {raises : π → Option PollException} {inTry : π → Bool} {message : String}
  {limit pos : π}

/-- The limit surfaces at one position.  Apart from it, anything in the `try` block may fail, with
other messages. -/
structure LimitedAt (raises : π → Option PollException) (inTry : π → Bool) (message : String)
    (limit : π) : Prop where
  raised : raises limit = some .softTimeLimitExceeded
  others : ∀ pos, pos ≠ limit → raises pos = none ∨
    inTry pos = true ∧ ∃ e, OtherError message e ∧ raises pos = some e

/-- Nothing is raised at the other positions outside of the `try` block. -/
theorem LimitedAt.eq_none (h : LimitedAt raises inTry message limit) (hne : pos ≠ limit)
    (hpos : inTry pos = false) : raises pos = none := by
  rcases h.others pos hne with hnone | ⟨htry, -⟩
  · exact hnone
  · rw [hpos] at htry
    cases htry

/-- What is raised at the other positions. -/
theorem LimitedAt.otherError (h : LimitedAt raises inTry message limit) (hne : pos ≠ limit)
    {e : PollException} (he : raises pos = some e) : OtherError message e := by
  rcases h.others pos hne with hnone | ⟨-, e', hother, hsome⟩
  · rw [hnone] at he
    cases he
  · rw [hsome] at he
    obtain rfl := Option.some.inj he
    exact hother

theorem LimitedAt.ne_some (h : LimitedAt raises inTry message limit) (hne : pos ≠ limit) :
    raises pos ≠ some .softTimeLimitExceeded := by
  intro he
  obtain ⟨other, -, hlimit⟩ := h.otherError hne he
  cases hlimit

theorem raisesOnly_reach {S : PollException → Prop} (h : ∀ e, raises pos = some e → S e) :
    Tx.RaisesOnly S (reach raises pos) := by
  cases hpos : raises pos with
  | none => exact Tx.raisesOnly_of_ok fun s => ⟨⟨⟩, s, reach_of_none hpos⟩
  | some e =>
      intro s e' s' hs
      rw [reach_of_some hpos] at hs
      cases hs
      exact h e hpos

end LimitedAt

/-! ### The SNMP poll -/

namespace SnmpPoll

/-- The `error_message` of a poll that is stopped. -/
abbrev limitMessage : String := failureMessage .softTimeLimitExceeded

/-- The limit surfaces at one position of the poll. -/
abbrev LimitedAt (p : SnmpPoll) (limit : SnmpPosition) : Prop :=
  Collectors.LimitedAt p.raises SnmpPosition.inTry limitMessage limit

variable {p : SnmpPoll} {limit : SnmpPosition} {copy : DeviceHealth} {i : ℕ}
  {ms : List MappingReading} {m : MappingReading}

/-- Where the limit does not surface in a mapping. -/
theorem noLimit_pollMapping
    (h : ∀ pos : SnmpPosition, pos.inMapping = true → p.raises pos ≠ some .softTimeLimitExceeded) :
    Tx.Logs trace NoLimit (p.pollMapping i m) := by
  have hread : Tx.Logs trace NoLimit (p.readMapping i) :=
    noLimit_bind (noLimit_record (by simp)) fun _ =>
      noLimit_bind (noLimit_reach (h (.read i) rfl)) fun _ => noLimit_reach (h (.convert i) rfl)
  have hcreate : Tx.Logs trace NoLimit (p.createPoint i m) :=
    noLimit_execute (noLimit_bind (noLimit_reach (h (.insert i) rfl)) fun _ => noLimit_write _)
  have hupdate : Tx.Logs trace NoLimit (p.updateOrCreateLatest i m) :=
    noLimit_atomic (noLimit_execute
      (noLimit_bind (noLimit_reach (h (.upsert i) rfl)) fun _ => noLimit_write _))
  have hevaluate : Tx.Logs trace NoLimit (p.evaluateMapping i) := by
    unfold evaluateMapping
    split
    · exact noLimit_bind (noLimit_execute (noLimit_reach (h (.matching i) rfl))) fun _ =>
        noLimit_bind (noLimit_handle (noLimit_reach (h (.notify i) rfl)) fun _ => noLimit_pure _)
          fun _ => noLimit_reach (h (.evaluate i) rfl)
    · exact noLimit_pure _
  exact noLimit_bind hread fun _ => noLimit_bind hcreate fun _ => noLimit_bind hupdate fun _ =>
    noLimit_bind hevaluate fun _ => noLimit_bind (noLimit_reach (h (.count i) rfl)) fun _ =>
      noLimit_assign fun _ => rfl

theorem endsInLimit_pollMappings
    (h : ∀ pos : SnmpPosition, pos.inMapping = true → p.raises pos ≠ some .softTimeLimitExceeded) :
    Tx.Logs trace EndsInLimit (p.pollMappings i ms) := by
  induction ms generalizing i with
  | nil => exact endsInLimit_of_noLimit (noLimit_pure _)
  | cons m ms ih =>
      have hcatch : Tx.Logs trace EndsInLimit (p.catchMapping i) :=
        endsInLimit_bind endsInLimit_reach fun _ =>
          endsInLimit_of_noLimit (noLimit_assign fun _ => rfl)
      exact endsInLimit_bind endsInLimit_reach fun _ => endsInLimit_bind
        (endsInLimit_handle (noLimit_pollMapping h) fun _ => hcatch) fun _ => ih

/-- **The `try` block of the poll** ends with the limit. -/
theorem endsInLimit_body (copy : DeviceHealth)
    (h : ∀ pos : SnmpPosition, pos.inMapping = true → p.raises pos ≠ some .softTimeLimitExceeded) :
    Tx.Logs trace EndsInLimit (p.body copy) := by
  have hwrite : ∀ {f}, Tx.Logs trace EndsInLimit (Process.write f : Poll PUnit) := fun {f} =>
    endsInLimit_of_noLimit (noLimit_write f)
  have hmark : Tx.Logs trace EndsInLimit (p.markSuccess copy) := by
    refine endsInLimit_bind (endsInLimit_execute (endsInLimit_bind endsInLimit_reach fun _ =>
      hwrite)) fun _ => ?_
    split
    · exact endsInLimit_execute (endsInLimit_bind endsInLimit_reach fun _ => hwrite)
    · exact endsInLimit_of_noLimit (noLimit_pure _)
  have htransaction : Tx.Logs trace EndsInLimit (p.transaction copy) := by
    refine endsInLimit_atomic (endsInLimit_bind (endsInLimit_pollMappings h) fun _ =>
      endsInLimit_bind endsInLimit_reach fun _ =>
        endsInLimit_bind (endsInLimit_of_noLimit (noLimit_read _)) fun _ => ?_)
    have hrest : ∀ _ : Unit, Tx.Logs trace EndsInLimit (do
        p.markSuccess copy
        reach p.raises .commit) := fun _ => endsInLimit_bind hmark fun _ => endsInLimit_reach
    split
    · exact endsInLimit_bind (endsInLimit_of_noLimit (noLimit_raise _)) hrest
    · exact hrest ⟨⟩
  have hrest : ∀ _ : Unit, Tx.Logs trace EndsInLimit (do
      p.transaction copy
      reach p.raises .status
      let failureCount ← Tx.read fun s => s.locals.failureCount
      return (if failureCount = 0 then .success else .partialSuccess, none) :
        Poll (OutcomeStatus × Option String)) := fun _ =>
    endsInLimit_bind htransaction fun _ => endsInLimit_bind endsInLimit_reach fun _ =>
      endsInLimit_of_noLimit (noLimit_bind (noLimit_read _) fun _ => noLimit_pure _)
  refine endsInLimit_bind endsInLimit_reach fun _ => ?_
  split
  · exact endsInLimit_bind (endsInLimit_of_noLimit (noLimit_raise _)) hrest
  · exact hrest ⟨⟩

/-- The limit in the `try` block of the poll, and in no block of a mapping. -/
theorem obeys_of_inPoll {db : PollTables} (h : p.LimitedAt limit) (hin : limit.inPoll = true)
    (hraised : limitRaised ∈ (p.pollSnmpDevice db.process).2.locals.trace) :
    Obeys limitMessage p.ingestId (p.pollSnmpDevice db.process).1
      (p.pollSnmpDevice db.process).2 := by
  have hmapping : ∀ pos : SnmpPosition, pos.inMapping = true →
      p.raises pos ≠ some .softTimeLimitExceeded := by
    intro pos hpos
    refine h.ne_some ?_
    rintro rfl
    rw [SnmpPosition.inMapping_of_inPoll hin] at hpos
    cases hpos
  have houtside : ∀ pos : SnmpPosition, pos.inTry = false → p.raises pos = none := by
    intro pos hpos
    refine h.eq_none ?_ hpos
    rintro rfl
    rw [SnmpPosition.inTry, hin, Bool.or_true] at hpos
    cases hpos
  obtain ⟨t, ht, hends⟩ := endsInLimit_body db.health hmapping db.process
  rcases hbody : p.body db.health db.process with ⟨e | r, s'⟩
  · have hpoll := pollSnmpDevice_of_error (s := db.process) (houtside .load rfl)
      (houtside .failDevice rfl) (houtside .failConfig rfl) (houtside .log rfl) hbody
    rw [hbody] at ht hends
    change s'.locals.trace = t at ht
    rw [hpoll] at hraised ⊢
    have hmem : limitRaised ∈ t := by
      rw [← ht]
      simpa using hraised
    obtain ⟨before, rfl, hbefore, he⟩ := hends.resolve_left (not_not_intro hmem)
    obtain rfl := Option.some.inj he
    exact obeys_of_failed
      (p.log "SNMP" .failed s'.locals (some (failureMessage .softTimeLimitExceeded)))
      (congrArg (· ++ [_]) ht) hbefore (List.mem_append_right _ (List.mem_singleton_self _))
      ⟨rfl, rfl⟩ ⟨rfl, rfl⟩
  · -- a `try` block that returns has not been stopped
    have hpoll := pollSnmpDevice_of_ok (s := db.process) (houtside .load rfl)
      (houtside .log rfl) hbody
    rw [hbody] at ht hends
    change s'.locals.trace = t at ht
    rw [hpoll] at hraised
    change limitRaised ∈ s'.locals.trace at hraised
    rw [ht] at hraised
    obtain ⟨-, -, -, he⟩ := hends.resolve_left (not_not_intro hraised)
    cases he

/-- Where the limit does not surface in the `try` block of the poll, but perhaps in the blocks of
its mappings. -/
theorem raisesOnly_body (h : ∀ (pos : SnmpPosition) e, pos.inPoll = true →
      p.raises pos = some e → OtherError limitMessage e) :
    Tx.RaisesOnly (OtherError limitMessage) (p.body copy) := by
  have hreach : ∀ pos : SnmpPosition, pos.inPoll = true →
      Tx.RaisesOnly (OtherError limitMessage) (reach p.raises pos) := fun pos hpos =>
    raisesOnly_reach fun e => h pos e hpos
  have haborted : OtherError limitMessage aborted := ⟨_, by decide, rfl⟩
  have hloop : ∀ ms i, Tx.RaisesOnly (OtherError limitMessage) (p.pollMappings i ms) := by
    intro ms
    induction ms with
    | nil => exact fun i => Tx.raisesOnly_pure _
    | cons m ms ih =>
        intro i
        have hcatch : Tx.RaisesOnly (OtherError limitMessage) (p.catchMapping i) :=
          Tx.raisesOnly_bind (hreach (.caught i) rfl) fun _ => Tx.raisesOnly_modify _
        exact Tx.raisesOnly_bind (hreach (.loop i) rfl) fun _ =>
          Tx.raisesOnly_bind (Tx.raisesOnly_handle fun _ => hcatch) fun _ => ih (i + 1)
  have hmark : Tx.RaisesOnly (OtherError limitMessage) (p.markSuccess copy) := by
    refine Tx.raisesOnly_bind (Process.raisesOnly_execute haborted
      (Tx.raisesOnly_bind (hreach .markDevice rfl) fun _ => Tx.raisesOnly_modify _)) fun _ => ?_
    split
    · exact Process.raisesOnly_execute haborted
        (Tx.raisesOnly_bind (hreach .markConfig rfl) fun _ => Tx.raisesOnly_modify _)
    · exact Tx.raisesOnly_pure _
  have htransaction : Tx.RaisesOnly (OtherError limitMessage) (p.transaction copy) := by
    refine Process.raisesOnly_atomic (Tx.raisesOnly_bind (hloop p.mappings 0) fun _ =>
      Tx.raisesOnly_bind (hreach .check rfl) fun _ =>
        Tx.raisesOnly_bind (Tx.raisesOnly_read _) fun _ => ?_)
    have hrest : ∀ _ : Unit, Tx.RaisesOnly (OtherError limitMessage) (do
        p.markSuccess copy
        reach p.raises .commit) := fun _ => Tx.raisesOnly_bind hmark fun _ => hreach .commit rfl
    split
    · exact Tx.raisesOnly_bind (Tx.raisesOnly_raise ⟨_, by decide, rfl⟩) hrest
    · exact hrest ⟨⟩
  have hrest : ∀ _ : Unit, Tx.RaisesOnly (OtherError limitMessage) (do
      p.transaction copy
      reach p.raises .status
      let failureCount ← Tx.read fun s => s.locals.failureCount
      return (if failureCount = 0 then .success else .partialSuccess, none) :
        Poll (OutcomeStatus × Option String)) := fun _ =>
    Tx.raisesOnly_bind htransaction fun _ => Tx.raisesOnly_bind (hreach .status rfl) fun _ =>
      Tx.raisesOnly_bind (Tx.raisesOnly_read _) fun _ => Tx.raisesOnly_pure _
  refine Tx.raisesOnly_bind (hreach .runtime rfl) fun _ => ?_
  split
  · exact Tx.raisesOnly_bind (Tx.raisesOnly_raise ⟨_, by decide, rfl⟩) hrest
  · exact hrest ⟨⟩

/-- Then no outcome has the message of the limit. -/
theorem returns_pollSnmpDevice (h : ∀ (pos : SnmpPosition) e, pos.inPoll = true →
      p.raises pos = some e → OtherError limitMessage e) :
    Tx.Returns (fun outcome => outcome.errorMessage ≠ some limitMessage) p.pollSnmpDevice := by
  have hbody : ∀ copy, Tx.Returns (fun r : OutcomeStatus × Option String =>
      r.2 ≠ some limitMessage) (p.body copy) := by
    intro copy
    have hrest : ∀ _ : Unit, Tx.Returns (fun r : OutcomeStatus × Option String =>
        r.2 ≠ some limitMessage) (do
        p.transaction copy
        reach p.raises .status
        let failureCount ← Tx.read fun s => s.locals.failureCount
        return (if failureCount = 0 then .success else .partialSuccess, none) :
          Poll (OutcomeStatus × Option String)) := fun _ =>
      Tx.returns_last fun _ => Tx.returns_last fun _ => Tx.returns_last fun _ =>
        Tx.returns_pure (by simp)
    refine Tx.returns_last fun _ => ?_
    split
    · exact Tx.returns_last hrest
    · exact hrest ⟨⟩
  have hfail : ∀ copy e, OtherError limitMessage e →
      Tx.Returns (fun r : OutcomeStatus × Option String => r.2 ≠ some limitMessage)
        (p.fail copy e) := by
    rintro copy e ⟨other, hother, rfl⟩
    exact Tx.returns_last fun _ => Tx.returns_pure fun hmessage => hother (Option.some.inj hmessage)
  refine Tx.returns_last fun _ => Tx.returns_last fun copy => Tx.returns_bind
    (Tx.returns_handle (hbody copy) (raisesOnly_body h) (hfail copy)) fun r hr => ?_
  exact Tx.returns_last fun _ => Tx.returns_last fun _ => Tx.returns_last fun _ =>
    Tx.returns_pure hr

/-- **The soft limit of an SNMP poll.** -/
theorem obeys_iff {db : PollTables} (h : p.LimitedAt limit)
    (hraised : limitRaised ∈ (p.pollSnmpDevice db.process).2.locals.trace) :
    Obeys limitMessage p.ingestId (p.pollSnmpDevice db.process).1
      (p.pollSnmpDevice db.process).2 ↔ limit.inPoll = true := by
  constructor
  · intro hobeys
    by_contra hnot
    obtain ⟨outcome, hok, -, hmessage⟩ := hobeys.returns
    refine returns_pollSnmpDevice ?_ db.process outcome _ (Prod.ext hok rfl) hmessage
    intro pos e hpos
    refine h.otherError ?_
    rintro rfl
    exact hnot hpos
  · intro hin
    exact obeys_of_inPoll h hin hraised

end SnmpPoll

/-! ### The Modbus poll -/

namespace ModbusPoll

/-- The `error_message` of a poll that is stopped. -/
abbrev limitMessage : String := failureMessage .softTimeLimitExceeded

/-- The limit surfaces at one position of the poll. -/
abbrev LimitedAt (p : ModbusPoll) (limit : ModbusPosition) : Prop :=
  Collectors.LimitedAt p.raises ModbusPosition.inTry limitMessage limit

variable {p : ModbusPoll} {limit : ModbusPosition} {copy : DeviceHealth} {i : ℕ}

theorem endsInLimit_readRegisters {ms : List MappingReading}
    (h : ∀ pos : ModbusPosition, pos.inInner = true →
      p.raises pos ≠ some .softTimeLimitExceeded) :
    Tx.Logs trace EndsInLimit (p.readRegisters i ms) := by
  induction ms generalizing i with
  | nil => exact endsInLimit_of_noLimit (noLimit_pure _)
  | cons m ms ih =>
      have hread : Tx.Logs trace NoLimit (p.readRegister i m) :=
        noLimit_bind (noLimit_record (by simp)) fun _ =>
          noLimit_bind (noLimit_reach (h (.read i) rfl)) fun _ =>
            noLimit_bind (noLimit_reach (h (.convert i) rfl)) fun _ =>
              noLimit_bind (noLimit_assign fun _ => rfl) fun _ =>
                noLimit_bind (noLimit_reach (h (.count i) rfl)) fun _ =>
                  noLimit_assign fun _ => rfl
      have hcatch : Tx.Logs trace EndsInLimit (p.catchRegister i) :=
        endsInLimit_bind endsInLimit_reach fun _ =>
          endsInLimit_of_noLimit (noLimit_assign fun _ => rfl)
      exact endsInLimit_bind endsInLimit_reach fun _ => endsInLimit_bind
        (endsInLimit_handle hread fun _ => hcatch) fun _ => ih

theorem endsInLimit_evaluateReadings {readings : List MappingReading}
    (h : ∀ pos : ModbusPosition, pos.inInner = true →
      p.raises pos ≠ some .softTimeLimitExceeded) :
    Tx.Logs trace EndsInLimit (p.evaluateReadings i readings) := by
  induction readings generalizing i with
  | nil => exact endsInLimit_of_noLimit (noLimit_pure _)
  | cons m readings ih =>
      exact endsInLimit_bind (endsInLimit_of_noLimit
        (noLimit_handle (noLimit_reach (h (.notify i) rfl)) fun _ => noLimit_pure _)) fun _ =>
          endsInLimit_bind endsInLimit_reach fun _ => ih

theorem endsInLimit_store
    (h : ∀ pos : ModbusPosition, pos.inInner = true →
      p.raises pos ≠ some .softTimeLimitExceeded) :
    Tx.Logs trace EndsInLimit (p.store copy) := by
  have hwrite : ∀ f, Tx.Logs trace EndsInLimit (Process.write f : Poll PUnit) := fun f =>
    endsInLimit_of_noLimit (noLimit_write f)
  have hwriteReadings : ∀ readings, Tx.Logs trace EndsInLimit (p.writeReadings readings) :=
    fun _ => endsInLimit_atomic (endsInLimit_bind (hwrite _) fun _ =>
      endsInLimit_bind endsInLimit_reach fun _ => hwrite _)
  have hevaluate : ∀ readings, Tx.Logs trace EndsInLimit (p.evaluateAll readings) := by
    intro readings
    unfold evaluateAll
    split
    · exact endsInLimit_bind endsInLimit_reach fun _ => endsInLimit_evaluateReadings h
    · exact endsInLimit_of_noLimit (noLimit_pure _)
  have hmark : Tx.Logs trace EndsInLimit (p.markSuccess copy) := by
    refine endsInLimit_bind endsInLimit_reach fun _ => endsInLimit_bind (hwrite _) fun _ => ?_
    split
    · exact endsInLimit_bind endsInLimit_reach fun _ => hwrite _
    · exact endsInLimit_of_noLimit (noLimit_pure _)
  exact endsInLimit_bind (endsInLimit_of_noLimit (noLimit_read _)) fun readings =>
    endsInLimit_bind (hwriteReadings readings) fun _ => endsInLimit_bind (hevaluate readings)
      fun _ => endsInLimit_bind hmark fun _ => endsInLimit_bind endsInLimit_reach fun _ =>
        endsInLimit_of_noLimit (noLimit_bind (noLimit_read _) fun _ => noLimit_pure _)

theorem endsInLimit_poll
    (h : ∀ pos : ModbusPosition, pos.inInner = true →
      p.raises pos ≠ some .softTimeLimitExceeded) :
    Tx.Logs trace EndsInLimit (p.poll copy) := by
  refine endsInLimit_bind (endsInLimit_readRegisters h) fun _ =>
    endsInLimit_bind endsInLimit_reach fun _ =>
      endsInLimit_bind (endsInLimit_of_noLimit (noLimit_read _)) fun _ => ?_
  split
  · exact endsInLimit_bind (endsInLimit_of_noLimit (noLimit_raise _)) fun _ => endsInLimit_store h
  · exact endsInLimit_store h

theorem endsInLimit_pollGateway
    (h : ∀ pos : ModbusPosition, pos.inInner = true →
      p.raises pos ≠ some .softTimeLimitExceeded) :
    Tx.Logs trace EndsInLimit (p.pollGateway copy) := by
  have hassign : ∀ {f : PollLocals → PollLocals}, (∀ l, (f l).trace = l.trace) →
      Tx.Logs trace EndsInLimit (Process.assign f : Poll PUnit) := fun hf =>
    endsInLimit_of_noLimit (noLimit_assign hf)
  have hgateway : Tx.Logs trace EndsInLimit p.acquireGateway := by
    refine endsInLimit_bind endsInLimit_reach fun _ => ?_
    split
    · exact endsInLimit_bind (hassign fun _ => rfl) fun _ =>
        endsInLimit_bind endsInLimit_reach fun _ => hassign fun _ => rfl
    · exact endsInLimit_of_noLimit (noLimit_pure _)
  refine endsInLimit_bind hgateway fun _ => ?_
  split
  · exact endsInLimit_bind endsInLimit_reach fun _ => endsInLimit_bind (hassign fun _ => rfl)
      fun _ => endsInLimit_bind endsInLimit_reach fun _ => endsInLimit_poll h
  · exact endsInLimit_of_noLimit (noLimit_pure _)

/-- **The `try` block of the poll** ends with the limit. -/
theorem endsInLimit_body (copy : DeviceHealth)
    (h : ∀ pos : ModbusPosition, pos.inInner = true →
      p.raises pos ≠ some .softTimeLimitExceeded) :
    Tx.Logs trace EndsInLimit (p.body copy) := by
  refine endsInLimit_bind endsInLimit_reach fun _ => ?_
  split
  · exact endsInLimit_bind (endsInLimit_of_noLimit (noLimit_raise _)) fun _ =>
      endsInLimit_pollGateway h
  · exact endsInLimit_pollGateway h

/-- The limit in the `try` block of the poll, and in no block inside it. -/
theorem obeys_of_inPoll {db : PollTables} (h : p.LimitedAt limit) (hin : limit.inPoll = true)
    (hraised : limitRaised ∈ (p.pollModbusDevice db.process).2.locals.trace) :
    Obeys limitMessage p.ingestId (p.pollModbusDevice db.process).1
      (p.pollModbusDevice db.process).2 := by
  have hinner : ∀ pos : ModbusPosition, pos.inInner = true →
      p.raises pos ≠ some .softTimeLimitExceeded := by
    intro pos hpos
    refine h.ne_some ?_
    rintro rfl
    rw [ModbusPosition.inInner_of_inPoll hin] at hpos
    cases hpos
  have houtside : ∀ pos : ModbusPosition, pos.inTry = false → p.raises pos = none := by
    intro pos hpos
    refine h.eq_none ?_ hpos
    rintro rfl
    rw [ModbusPosition.inTry, hin, Bool.or_true] at hpos
    cases hpos
  have hfree : p.deviceFree = true := by
    by_contra hbusy
    rw [pollModbusDevice_of_busy (houtside .acquireDevice rfl) (by simpa using hbusy)] at hraised
    cases hraised
  rw [pollModbusDevice_of_free (houtside .acquireDevice rfl) (houtside .deviceAdded rfl)
    hfree] at hraised ⊢
  set s : PollProcess := { db.process with locals := { db.process.locals with deviceLock := true } }
  obtain ⟨t, ht, hends⟩ := endsInLimit_body s.tables.health hinner s
  rcases hbody : p.body s.tables.health s with ⟨e | r, s'⟩
  · -- the handler writes the failure, and the last statement before it was the limit
    obtain ⟨s'', htables, htrace, hpoll⟩ := pollLocked_of_ok (houtside .load rfl)
      (houtside .close rfl) (houtside .releaseDevice rfl) (houtside .log rfl)
      ((Tx.handle_of_error hbody).trans
        (failWith_apply
          (markFailed_apply (houtside .failDevice rfl) (houtside .failConfig rfl))))
    replace htrace := htrace (houtside .releaseGateway rfl)
    rw [hbody] at ht hends
    change s'.locals.trace = t at ht
    rw [hpoll, if_neg (by simp)] at hraised ⊢
    have hmem : limitRaised ∈ t := by
      change limitRaised ∈ s''.locals.trace at hraised
      rw [htrace] at hraised
      rw [← ht]
      simpa using hraised
    obtain ⟨before, rfl, hbefore, he⟩ := hends.resolve_left (not_not_intro hmem)
    obtain rfl := Option.some.inj he
    exact obeys_of_failed
      (p.log "MODBUS_TCP" .failed s''.locals (some (failureMessage .softTimeLimitExceeded)))
      (htrace.trans (congrArg (· ++ [_]) ht)) hbefore
      (List.mem_append_right _ (List.mem_singleton_self _)) ⟨rfl, rfl⟩ ⟨rfl, rfl⟩
  · -- a `try` block that returns has not been stopped
    obtain ⟨s'', htables, htrace, hpoll⟩ := pollLocked_of_ok (houtside .load rfl)
      (houtside .close rfl) (houtside .releaseDevice rfl) (houtside .log rfl)
      (Tx.handle_of_ok hbody)
    replace htrace := htrace (houtside .releaseGateway rfl)
    rw [hbody] at ht hends
    change s'.locals.trace = t at ht
    have hmem : limitRaised ∈ t := by
      rw [hpoll] at hraised
      rw [← ht, ← htrace]
      split at hraised <;> exact hraised
    obtain ⟨-, -, -, he⟩ := hends.resolve_left (not_not_intro hmem)
    cases he

/-! Where the limit does not surface in the `try` block of the poll, but perhaps in the blocks
inside it. -/

/-- What the positions of the `try` block raise is not the limit. -/
def RaisesOther (p : ModbusPoll) : Prop :=
  ∀ (pos : ModbusPosition) e, pos.inPoll = true → p.raises pos = some e →
    OtherError limitMessage e

section RaisesOther

variable (h : p.RaisesOther)

include h

theorem RaisesOther.reach {pos : ModbusPosition} (hpos : pos.inPoll = true) :
    Tx.RaisesOnly (OtherError limitMessage) (reach p.raises pos) :=
  raisesOnly_reach fun e => h pos e hpos

theorem RaisesOther.readRegisters (ms : List MappingReading) (i : ℕ) :
    Tx.RaisesOnly (OtherError limitMessage) (p.readRegisters i ms) := by
  induction ms generalizing i with
  | nil => exact Tx.raisesOnly_pure _
  | cons m ms ih =>
      have hcatch : Tx.RaisesOnly (OtherError limitMessage) (p.catchRegister i) :=
        Tx.raisesOnly_bind (h.reach rfl) fun _ => Tx.raisesOnly_modify _
      exact Tx.raisesOnly_bind (h.reach rfl) fun _ =>
        Tx.raisesOnly_bind (Tx.raisesOnly_handle fun _ => hcatch) fun _ => ih (i + 1)

theorem RaisesOther.evaluateReadings (readings : List MappingReading) (i : ℕ) :
    Tx.RaisesOnly (OtherError limitMessage) (p.evaluateReadings i readings) := by
  induction readings generalizing i with
  | nil => exact Tx.raisesOnly_pure _
  | cons m readings ih =>
      exact Tx.raisesOnly_bind (Tx.raisesOnly_handle fun _ => Tx.raisesOnly_pure _)
        fun _ => Tx.raisesOnly_bind (h.reach rfl) fun _ => ih (i + 1)

theorem RaisesOther.evaluateAll (readings : List MappingReading) :
    Tx.RaisesOnly (OtherError limitMessage) (p.evaluateAll readings) := by
  unfold ModbusPoll.evaluateAll
  split
  · exact Tx.raisesOnly_bind (h.reach rfl) fun _ => h.evaluateReadings readings 0
  · exact Tx.raisesOnly_pure _

theorem RaisesOther.writeReadings (readings : List MappingReading) :
    Tx.RaisesOnly (OtherError limitMessage) (p.writeReadings readings) :=
  Process.raisesOnly_atomic (Tx.raisesOnly_bind (Tx.raisesOnly_modify _) fun _ =>
    Tx.raisesOnly_bind (h.reach rfl) fun _ => Tx.raisesOnly_modify _)

theorem RaisesOther.markSuccess (copy : DeviceHealth) :
    Tx.RaisesOnly (OtherError limitMessage) (p.markSuccess copy) := by
  refine Tx.raisesOnly_bind (h.reach rfl) fun _ =>
    Tx.raisesOnly_bind (Tx.raisesOnly_modify _) fun _ => ?_
  split
  · exact Tx.raisesOnly_bind (h.reach rfl) fun _ => Tx.raisesOnly_modify _
  · exact Tx.raisesOnly_pure _

theorem RaisesOther.store (copy : DeviceHealth) :
    Tx.RaisesOnly (OtherError limitMessage) (p.store copy) :=
  Tx.raisesOnly_bind (Tx.raisesOnly_read _) fun readings =>
    Tx.raisesOnly_bind (h.writeReadings readings) fun _ =>
      Tx.raisesOnly_bind (h.evaluateAll readings) fun _ =>
        Tx.raisesOnly_bind (h.markSuccess copy) fun _ => Tx.raisesOnly_bind (h.reach rfl)
          fun _ => Tx.raisesOnly_bind (Tx.raisesOnly_read _) fun _ => Tx.raisesOnly_pure _

theorem RaisesOther.poll (copy : DeviceHealth) :
    Tx.RaisesOnly (OtherError limitMessage) (p.poll copy) := by
  refine Tx.raisesOnly_bind (h.readRegisters p.mappings 0) fun _ =>
    Tx.raisesOnly_bind (h.reach rfl) fun _ =>
      Tx.raisesOnly_bind (Tx.raisesOnly_read _) fun _ => ?_
  split
  · exact Tx.raisesOnly_bind (Tx.raisesOnly_raise ⟨_, by decide, rfl⟩) fun _ => h.store copy
  · exact h.store copy

theorem RaisesOther.acquireGateway :
    Tx.RaisesOnly (OtherError limitMessage) p.acquireGateway := by
  refine Tx.raisesOnly_bind (h.reach rfl) fun _ => ?_
  split
  · exact Tx.raisesOnly_bind (Tx.raisesOnly_modify _) fun _ =>
      Tx.raisesOnly_bind (h.reach rfl) fun _ => Tx.raisesOnly_modify _
  · exact Tx.raisesOnly_pure _

theorem RaisesOther.pollGateway (copy : DeviceHealth) :
    Tx.RaisesOnly (OtherError limitMessage) (p.pollGateway copy) := by
  refine Tx.raisesOnly_bind h.acquireGateway fun _ => ?_
  split
  · exact Tx.raisesOnly_bind (h.reach rfl) fun _ =>
      Tx.raisesOnly_bind (Tx.raisesOnly_modify _) fun _ =>
        Tx.raisesOnly_bind (h.reach rfl) fun _ => h.poll copy
  · exact Tx.raisesOnly_pure _

/-- The `try` block lets no limit out. -/
theorem RaisesOther.body (copy : DeviceHealth) :
    Tx.RaisesOnly (OtherError limitMessage) (p.body copy) := by
  refine Tx.raisesOnly_bind (h.reach rfl) fun _ => ?_
  split
  · exact Tx.raisesOnly_bind (Tx.raisesOnly_raise ⟨_, by decide, rfl⟩) fun _ =>
      h.pollGateway copy
  · exact h.pollGateway copy

end RaisesOther

/-- Then no outcome has the message of the limit. -/
theorem returns_pollModbusDevice (h : p.RaisesOther) :
    Tx.Returns (fun outcome => outcome.errorMessage ≠ some limitMessage) p.pollModbusDevice := by
  have hstore : ∀ copy, Tx.Returns (fun r : OutcomeStatus × Option String =>
      r.2 ≠ some limitMessage) (p.store copy) := fun _ =>
    Tx.returns_last fun _ => Tx.returns_last fun _ => Tx.returns_last fun _ =>
      Tx.returns_last fun _ => Tx.returns_last fun _ => Tx.returns_last fun _ =>
        Tx.returns_pure (by simp)
  have hpoll : ∀ copy, Tx.Returns (fun r : OutcomeStatus × Option String =>
      r.2 ≠ some limitMessage) (p.poll copy) := by
    refine fun copy => Tx.returns_last fun _ => Tx.returns_last fun _ => Tx.returns_last fun _ => ?_
    split
    · exact Tx.returns_last fun _ => hstore copy
    · exact hstore copy
  have hgateway : ∀ copy, Tx.Returns (fun r : OutcomeStatus × Option String =>
      r.2 ≠ some limitMessage) (p.pollGateway copy) := by
    refine fun copy => Tx.returns_last fun _ => ?_
    split
    · exact Tx.returns_last fun _ => Tx.returns_last fun _ => Tx.returns_last fun _ => hpoll copy
    · exact Tx.returns_pure (by decide)
  have hbody : ∀ copy, Tx.Returns (fun r : OutcomeStatus × Option String =>
      r.2 ≠ some limitMessage) (p.body copy) := by
    refine fun copy => Tx.returns_last fun _ => ?_
    split
    · exact Tx.returns_last fun _ => hgateway copy
    · exact hgateway copy
  have hfail : ∀ copy e, OtherError limitMessage e →
      Tx.Returns (fun r : OutcomeStatus × Option String => r.2 ≠ some limitMessage)
        (p.fail copy e) := by
    rintro copy e ⟨other, hother, rfl⟩
    exact Tx.returns_last fun _ => Tx.returns_pure fun hmessage => hother (Option.some.inj hmessage)
  have hlocked : Tx.Returns (fun outcome => outcome.errorMessage ≠ some limitMessage)
      p.pollLocked := by
    refine Tx.returns_last fun _ => Tx.returns_last fun copy => Tx.returns_bind
      (Tx.returns_ensure (Tx.returns_handle (hbody copy) (h.body copy) (hfail copy)))
      fun r hr => Tx.returns_last fun locals => ?_
    split
    · exact Tx.returns_pure hr
    · exact Tx.returns_last fun _ => Tx.returns_last fun _ => Tx.returns_pure hr
  refine Tx.returns_last fun _ => ?_
  split
  · exact hlocked
  · exact Tx.returns_pure (by simp [failureMessage])

/-- **The soft limit of a Modbus poll.** -/
theorem obeys_iff {db : PollTables} (h : p.LimitedAt limit)
    (hraised : limitRaised ∈ (p.pollModbusDevice db.process).2.locals.trace) :
    Obeys limitMessage p.ingestId (p.pollModbusDevice db.process).1
      (p.pollModbusDevice db.process).2 ↔ limit.inPoll = true := by
  constructor
  · intro hobeys
    by_contra hnot
    obtain ⟨outcome, hok, -, hmessage⟩ := hobeys.returns
    refine returns_pollModbusDevice ?_ db.process outcome _ (Prod.ext hok rfl) hmessage
    intro pos e hpos
    refine h.otherError ?_
    rintro rfl
    exact hnot hpos
  · intro hin
    exact obeys_of_inPoll h hin hraised

end ModbusPoll

/-- **When the soft limit is obeyed**: where it surfaces in the `try` block of the poll, and in no
`try` block inside it. -/
theorem softLimit_obeyed_iff (db : PollTables) :
    (∀ (p : SnmpPoll) (limit : SnmpPosition), p.LimitedAt limit →
      limitRaised ∈ (p.pollSnmpDevice db.process).2.locals.trace →
      (Obeys "SNMP poll exceeded worker soft time limit" p.ingestId
        (p.pollSnmpDevice db.process).1 (p.pollSnmpDevice db.process).2 ↔
          limit.inPoll = true)) ∧
    ∀ (p : ModbusPoll) (limit : ModbusPosition), p.LimitedAt limit →
      limitRaised ∈ (p.pollModbusDevice db.process).2.locals.trace →
      (Obeys "Modbus poll exceeded worker soft time limit" p.ingestId
        (p.pollModbusDevice db.process).1 (p.pollModbusDevice db.process).2 ↔
          limit.inPoll = true) :=
  ⟨fun _ _ => SnmpPoll.obeys_iff, fun _ _ => ModbusPoll.obeys_iff⟩

/-! ### Two mappings -/

/-- The poll of the server room, stopped at one position. -/
def stoppedPoll (pos : SnmpPosition) : SnmpPoll where
  toPollArgs := (SnmpPoll.roomPoll pos).toPollArgs
  raises := fun other => if other = pos then some .softTimeLimitExceeded else none

/-- The same mappings behind a gateway. -/
def stoppedModbusPoll (pos : ModbusPosition) : ModbusPoll where
  toPollArgs := (stoppedPoll .load).toPollArgs
  raises := fun other => if other = pos then some .softTimeLimitExceeded else none

theorem limitedAt_stoppedPoll (pos : SnmpPosition) : (stoppedPoll pos).LimitedAt pos where
  raised := if_pos rfl
  others := fun _ hne => .inl (if_neg hne)

theorem limitedAt_stoppedModbusPoll (pos : ModbusPosition) :
    (stoppedModbusPoll pos).LimitedAt pos where
  raised := if_pos rfl
  others := fun _ hne => .inl (if_neg hne)

/-- Between the two mappings both polls obey. -/
theorem softLimit_obeyed_loop :
    Obeys "SNMP poll exceeded worker soft time limit" 7
      ((stoppedPoll (.loop 1)).pollSnmpDevice SnmpPoll.freshTables.process).1
      ((stoppedPoll (.loop 1)).pollSnmpDevice SnmpPoll.freshTables.process).2 ∧
    Obeys "Modbus poll exceeded worker soft time limit" 7
      ((stoppedModbusPoll (.loop 1)).pollModbusDevice SnmpPoll.freshTables.process).1
      ((stoppedModbusPoll (.loop 1)).pollModbusDevice SnmpPoll.freshTables.process).2 :=
  ⟨((softLimit_obeyed_iff SnmpPoll.freshTables).1 _ _ (limitedAt_stoppedPoll (.loop 1))
      (by decide)).mpr rfl,
    ((softLimit_obeyed_iff SnmpPoll.freshTables).2 _ _ (limitedAt_stoppedModbusPoll (.loop 1))
      (by decide)).mpr rfl⟩

/-- Inside the read of the first mapping neither does: the second one is read, and the poll is a
partial success. -/
theorem softLimit_read_not_obeyed :
    ¬Obeys "SNMP poll exceeded worker soft time limit" 7
      ((stoppedPoll (.read 0)).pollSnmpDevice SnmpPoll.freshTables.process).1
      ((stoppedPoll (.read 0)).pollSnmpDevice SnmpPoll.freshTables.process).2 ∧
    ¬Obeys "Modbus poll exceeded worker soft time limit" 7
      ((stoppedModbusPoll (.read 0)).pollModbusDevice SnmpPoll.freshTables.process).1
      ((stoppedModbusPoll (.read 0)).pollModbusDevice SnmpPoll.freshTables.process).2 := by
  constructor
  · rintro ⟨-, ⟨outcome, hok, hstatus, -⟩, -, -⟩
    have hpoll : ((stoppedPoll (.read 0)).pollSnmpDevice SnmpPoll.freshTables.process).1 =
        .ok ((stoppedPoll (.read 0)).outcome .partialSuccess
          { successCount := 1, failureCount := 1 } none) := rfl
    rw [hpoll] at hok
    obtain rfl := Except.ok.inj hok
    cases hstatus
  · rintro ⟨-, ⟨outcome, hok, hstatus, -⟩, -, -⟩
    have hpoll :
        ((stoppedModbusPoll (.read 0)).pollModbusDevice SnmpPoll.freshTables.process).1 =
        .ok ((stoppedModbusPoll (.read 0)).outcome .partialSuccess
          { successCount := 1, failureCount := 1 } none) := rfl
    rw [hpoll] at hok
    obtain rfl := Except.ok.inj hok
    cases hstatus

end DcimBackend.Collectors
