import DcimBackend.Library.Run
import Mathlib.Data.List.Count
import Mathlib.Data.List.Range

/-!
# Queues of tasks that are retried

A broker holds tasks until a worker takes one.  The broker forgets a task as soon as it is taken, so
a task that is under way exists in its worker alone.  An attempt ends in one of three ways.  The
handler returns, and the task is done.  It raises, and the task is put back until it has been retried
often enough, unless the broker refuses it.  Or the worker is killed in the middle of it, wherever
that is, and the task is gone.

However an attempt ends, it may have left something behind in the world that the handlers write to.
So a handler here is a function from the world to an ending and a world, and a worker that is killed
after it has written is a choice of the handler's environment like any other.  Attempts follow each
other: what one of them writes is there as a whole when the next begins, as it is when the handler
writes in one transaction.

`Conserved` is the invariant of the queue: of all tasks that were ever published, each is in exactly
one of three places.  `Counts` says what a handler adds to a counter of its effects, and
`Counted` what the counter then is of every task: one if the task was done, and one for each attempt
that had its effect and did not return.

Nothing is asked of a handler but its effect in one attempt (`Counts`).  How the attempts of
several tasks are mixed, how often a task is retried and which attempts end in which way are
choices of the run, so `accounts_run` holds for every schedule of a broker of this kind.
-/

namespace DcimBackend.Library

/-- A task in the queue. -/
structure QueuedTask (α : Type*) where
  id : ℕ
  payload : α
  retries : ℕ := 0

/-- The broker, what became of the tasks, and the world that the handlers write to. -/
structure RetryQueue (α σ : Type*) where
  next : ℕ := 0
  queue : List (QueuedTask α) := []
  done : List ℕ := []
  dropped : List ℕ := []
  world : σ

/-- How an attempt ends. -/
inductive TaskEnding
  | returns
  | raises
  /-- The worker is killed. -/
  | dies
deriving DecidableEq

/-- What happens to a queue. -/
inductive RetryStep (α ι : Type*)
  | publish (payloads : List α)
  /-- A worker takes a task.  The broker may refuse to take it back. -/
  | attempt (id : ℕ) (choice : ι) (requeues : Bool)

/-- A step publishes only tasks of a kind. -/
def RetryStep.Publishes {α ι : Type*} (P : α → Prop) : RetryStep α ι → Prop
  | .publish payloads => ∀ payload ∈ payloads, P payload
  | .attempt .. => True

/-- A handler, and how often it is retried. -/
structure RetryPolicy (α σ ι : Type*) where
  maxRetries : ℕ
  /-- How an attempt at a task ends, and the world that it leaves. -/
  handle : ℕ → α → ι → σ → TaskEnding × σ

namespace RetryQueue

variable {α σ ι : Type*} (policy : RetryPolicy α σ ι) (s : RetryQueue α σ)

/-- The task with a key. -/
def task (id : ℕ) : Option (QueuedTask α) := s.queue.find? fun t => t.id = id

/-- The queue without a task. -/
def without (id : ℕ) : List (QueuedTask α) := s.queue.filter fun t => t.id ≠ id

/-- A new task. -/
def publish (payload : α) : RetryQueue α σ :=
  { s with next := s.next + 1, queue := s.queue ++ [{ id := s.next, payload := payload }] }

/-- An attempt at a task. -/
def attempt (t : QueuedTask α) (choice : ι) (requeues : Bool) : RetryQueue α σ :=
  let after := policy.handle t.id t.payload choice s.world
  if after.1 = .returns then
    { s with queue := s.without t.id, done := s.done ++ [t.id], world := after.2 }
  else if after.1 = .raises ∧ t.retries < policy.maxRetries ∧ requeues = true then
    { s with queue := s.without t.id ++ [{ t with retries := t.retries + 1 }], world := after.2 }
  else { s with queue := s.without t.id, dropped := s.dropped ++ [t.id], world := after.2 }

/-- A step. -/
def step (s : RetryQueue α σ) : RetryStep α ι → RetryQueue α σ
  | .publish payloads => payloads.foldl publish s
  | .attempt id choice requeues => (s.task id).elim s fun t => s.attempt policy t choice requeues

/-! ### Every task is somewhere -/

/-- Where the published tasks are. -/
def places : List ℕ := s.queue.map QueuedTask.id ++ s.done ++ s.dropped

/-- Every published task is in one place. -/
def Conserved : Prop := s.places.Perm (List.range s.next)

variable {policy s} {id : ℕ} {t : QueuedTask α}

theorem mem_of_task (h : s.task id = some t) : t ∈ s.queue ∧ t.id = id := by
  refine ⟨List.mem_of_find?_eq_some h, ?_⟩
  have hid := List.find?_some h
  exact of_decide_eq_true hid

theorem Conserved.nodup (h : s.Conserved) : s.places.Nodup :=
  h.nodup_iff.mpr List.nodup_range

theorem Conserved.nodup_queue (h : s.Conserved) : (s.queue.map QueuedTask.id).Nodup :=
  (List.nodup_append.mp (List.nodup_append.mp h.nodup).1).1

theorem Conserved.lt_next (h : s.Conserved) (ht : t ∈ s.queue) : t.id < s.next := by
  have hplace : t.id ∈ s.places := by
    unfold places
    simp only [List.mem_append]
    exact Or.inl (Or.inl (List.mem_map_of_mem ht))
  exact List.mem_range.mp (h.mem_iff.mp hplace)

/-- A list is what has one key, and the rest. -/
theorem perm_cons_filter {κ : Type*} [DecidableEq κ] {key : α → κ} {xs : List α} {a : α}
    (hnodup : (xs.map key).Nodup) (ha : a ∈ xs) :
    xs.Perm (a :: xs.filter fun x => key x ≠ key a) := by
  induction xs with
  | nil => cases ha
  | cons x xs ih =>
      obtain ⟨hx, hxs⟩ := List.nodup_cons.mp hnodup
      rcases List.mem_cons.mp ha with rfl | hmem
      · have hrest : xs.filter (fun y => key y ≠ key a) = xs := by
          refine List.filter_eq_self.mpr fun y hy => decide_eq_true ?_
          intro heq
          exact hx (heq ▸ List.mem_map_of_mem hy)
        rw [List.filter_cons_of_neg (by simp), hrest]
      · have hne : key x ≠ key a := fun heq => hx (heq ▸ List.mem_map_of_mem hmem)
        rw [List.filter_cons, if_pos (decide_eq_true hne)]
        exact ((ih hxs hmem).cons x).trans (List.Perm.swap a x _)

/-- Taking a task out of the queue takes out its key. -/
theorem Conserved.perm_without (h : s.Conserved) (ht : t ∈ s.queue) :
    (s.queue.map QueuedTask.id).Perm (t.id :: (s.without t.id).map QueuedTask.id) :=
  (perm_cons_filter h.nodup_queue ht).map QueuedTask.id

theorem Conserved.publish (h : s.Conserved) (payload : α) : (s.publish payload).Conserved := by
  unfold Conserved places RetryQueue.publish at *
  dsimp only
  rw [List.range_succ, List.map_append]
  refine List.Perm.trans (List.perm_iff_count.mpr fun a => ?_) (h.append_right [s.next])
  simp only [List.count_append, List.map_cons, List.map_nil]
  omega

/-- A task that is taken out of the queue is done or dropped, or it goes back. -/
theorem Conserved.take (h : s.Conserved) (ht : t ∈ s.queue) {queue : List (QueuedTask α)}
    {done dropped : List ℕ} {world : σ}
    (hplaces : (queue.map QueuedTask.id ++ done ++ dropped).Perm
      (t.id :: ((s.without t.id).map QueuedTask.id ++ s.done ++ s.dropped))) :
    (⟨s.next, queue, done, dropped, world⟩ : RetryQueue α σ).Conserved := by
  refine hplaces.trans (List.Perm.trans ?_ h)
  exact (((h.perm_without ht).append_right s.done).append_right s.dropped).symm

/-- A task leaves the queue for good. -/
theorem Conserved.drop (h : s.Conserved) (ht : t ∈ s.queue) {world : σ} :
    (⟨s.next, s.without t.id, s.done, s.dropped ++ [t.id], world⟩ : RetryQueue α σ).Conserved := by
  refine h.take ht (List.perm_iff_count.mpr fun a => ?_)
  simp only [List.count_append, List.count_cons, List.count_nil]
  omega

theorem Conserved.attempt (h : s.Conserved) (ht : t ∈ s.queue) (choice : ι) (requeues : Bool) :
    (s.attempt policy t choice requeues).Conserved := by
  unfold RetryQueue.attempt
  dsimp only
  split
  · refine h.take ht (List.perm_iff_count.mpr fun a => ?_)
    simp only [List.count_append, List.count_cons, List.count_nil]
    omega
  · split
    · refine h.take ht (List.perm_iff_count.mpr fun a => ?_)
      simp only [List.count_append, List.count_cons, List.count_nil, List.map_append,
        List.map_cons, List.map_nil]
      omega
    · exact h.drop ht

/-! ### How often a task has its effect -/

/-- A handler has its effect at most once in an attempt, and always if it returns.  The attempts
that have it and do not return are counted apart. -/
structure Counts (policy : RetryPolicy α σ ι) (effects late : σ → ℕ → ℕ) : Prop where
  other : ∀ {id payload choice world other}, other ≠ id →
    effects (policy.handle id payload choice world).2 other = effects world other ∧
      late (policy.handle id payload choice world).2 other = late world other
  returned : ∀ {id payload choice world}, (policy.handle id payload choice world).1 = .returns →
    effects (policy.handle id payload choice world).2 id = effects world id + 1 ∧
      late (policy.handle id payload choice world).2 id = late world id
  failed : ∀ {id payload choice world}, (policy.handle id payload choice world).1 ≠ .returns →
    ∃ n ≤ 1, effects (policy.handle id payload choice world).2 id = effects world id + n ∧
      late (policy.handle id payload choice world).2 id = late world id + n

variable {effects late : σ → ℕ → ℕ}

/-- A task has its effect as often as it was done and as an attempt had it without a return, and no
more often than it is attempted. -/
structure Counted (policy : RetryPolicy α σ ι) (effects late : σ → ℕ → ℕ)
    (s : RetryQueue α σ) : Prop where
  conserved : s.Conserved
  effects_eq : ∀ id, effects s.world id = s.done.count id + late s.world id
  effects_queued : ∀ t ∈ s.queue, effects s.world t.id ≤ t.retries ∧ t.retries ≤ policy.maxRetries
  effects_le : ∀ id, effects s.world id ≤ policy.maxRetries + 1
  effects_new : ∀ id, s.next ≤ id → effects s.world id = 0

namespace Counted

theorem publish (h : Counted policy effects late s) (payload : α) :
    Counted policy effects late (s.publish payload) where
  conserved := h.conserved.publish payload
  effects_eq := h.effects_eq
  effects_queued u hu := by
    rcases List.mem_append.mp hu with hold | hnew
    · exact h.effects_queued u hold
    · rw [List.mem_singleton.mp hnew]
      exact ⟨(h.effects_new s.next le_rfl).le, Nat.zero_le _⟩
  effects_le := h.effects_le
  effects_new id hid := h.effects_new id (Nat.le_of_succ_le hid)

/-- After an attempt, wherever the task is then. -/
theorem after (h : Counted policy effects late s) (ht : t ∈ s.queue) {queue : List (QueuedTask α)}
    {done dropped : List ℕ} {world : σ}
    (hconserved : (⟨s.next, queue, done, dropped, world⟩ : RetryQueue α σ).Conserved)
    (hother : ∀ other ≠ t.id, effects world other = effects s.world other ∧
      late world other = late s.world other ∧ done.count other = s.done.count other)
    (heq : effects world t.id = done.count t.id + late world t.id)
    (hle : effects world t.id ≤ effects s.world t.id + 1)
    (hqueue : ∀ u ∈ queue, u ∈ s.without t.id ∨
      u.id = t.id ∧ u.retries = t.retries + 1 ∧ t.retries < policy.maxRetries) :
    Counted policy effects late ⟨s.next, queue, done, dropped, world⟩ := by
  obtain ⟨hretries, hmax⟩ := h.effects_queued t ht
  refine ⟨hconserved, fun id => ?_, fun u hu => ?_, fun id => ?_, fun id hid => ?_⟩
  · by_cases hid : id = t.id
    · rw [hid]
      exact heq
    · obtain ⟨heffects, hlate, hdone⟩ := hother id hid
      rw [heffects, hlate, hdone]
      exact h.effects_eq id
  · rcases hqueue u hu with hold | ⟨hid, hagain, hlt⟩
    · obtain ⟨hmem, hne⟩ := List.mem_filter.mp hold
      rw [(hother u.id (of_decide_eq_true hne)).1]
      exact h.effects_queued u hmem
    · rw [hid, hagain]
      exact ⟨hle.trans (Nat.succ_le_succ hretries), hlt⟩
  · by_cases hid : id = t.id
    · rw [hid]
      exact hle.trans (Nat.succ_le_succ (hretries.trans hmax))
    · rw [(hother id hid).1]
      exact h.effects_le id
  · rw [(hother id (Nat.lt_of_lt_of_le (h.conserved.lt_next ht) hid).ne').1]
    exact h.effects_new id hid

theorem attempt (h : Counted policy effects late s) (hcounts : Counts policy effects late)
    (ht : t ∈ s.queue) (choice : ι) (requeues : Bool) :
    Counted policy effects late (s.attempt policy t choice requeues) := by
  have hconserved : (s.attempt policy t choice requeues).Conserved :=
    h.conserved.attempt ht choice requeues
  have hcount : ∀ other ≠ t.id, (s.done ++ [t.id]).count other = s.done.count other := by
    intro other hne
    rw [List.count_append, List.count_singleton, if_neg (by simpa using hne.symm), Nat.add_zero]
  unfold RetryQueue.attempt at hconserved ⊢
  dsimp only at hconserved ⊢
  by_cases hreturned : (policy.handle t.id t.payload choice s.world).1 = .returns
  · obtain ⟨heffects, hlate⟩ := hcounts.returned hreturned
    rw [if_pos hreturned] at hconserved ⊢
    refine h.after ht hconserved (fun other hne => ?_) ?_ heffects.le fun u hu => Or.inl hu
    · exact ⟨(hcounts.other hne).1, (hcounts.other hne).2, hcount other hne⟩
    · rw [heffects, hlate, h.effects_eq, List.count_append, List.count_singleton_self]
      omega
  · obtain ⟨n, hn, heffects, hlate⟩ := hcounts.failed hreturned
    rw [if_neg hreturned] at hconserved ⊢
    have heq : effects (policy.handle t.id t.payload choice s.world).2 t.id =
        s.done.count t.id + late (policy.handle t.id t.payload choice s.world).2 t.id := by
      rw [heffects, hlate, h.effects_eq]
      omega
    have hle : effects (policy.handle t.id t.payload choice s.world).2 t.id ≤
        effects s.world t.id + 1 := by
      rw [heffects]
      omega
    by_cases hagain : (policy.handle t.id t.payload choice s.world).1 = .raises ∧
        t.retries < policy.maxRetries ∧ requeues = true
    · rw [if_pos hagain] at hconserved ⊢
      refine h.after ht hconserved (fun other hne => ⟨(hcounts.other hne).1,
        (hcounts.other hne).2, rfl⟩) heq hle fun u hu => ?_
      rcases List.mem_append.mp hu with hold | hnew
      · exact Or.inl hold
      · rw [List.mem_singleton.mp hnew]
        exact Or.inr ⟨rfl, rfl, hagain.2.1⟩
    · rw [if_neg hagain] at hconserved ⊢
      exact h.after ht hconserved (fun other hne => ⟨(hcounts.other hne).1,
        (hcounts.other hne).2, rfl⟩) heq hle fun u hu => Or.inl hu

theorem step (h : Counted policy effects late s) (hcounts : Counts policy effects late)
    (i : RetryStep α ι) : Counted policy effects late (s.step policy i) := by
  cases i with
  | publish payloads =>
      show Counted policy effects late (payloads.foldl RetryQueue.publish s)
      induction payloads generalizing s with
      | nil => exact h
      | cons payload payloads ih => exact ih (h.publish payload)
  | attempt id choice requeues =>
      show Counted policy effects late ((s.task id).elim s _)
      cases htask : s.task id with
      | none => exact h
      | some t => exact h.attempt hcounts (mem_of_task htask).1 choice requeues

end Counted

/-- **The accounts of a queue**, after any run from an empty one. -/
theorem accounts_run (hcounts : Counts policy effects late) {world : σ}
    (hworld : ∀ id, effects world id = 0 ∧ late world id = 0) (w : List (RetryStep α ι)) :
    Counted policy effects late (run (step policy) { world := world } w) := by
  refine run_invariant (fun s i h => h.step hcounts i) ?_ w
  refine ⟨List.Perm.refl _, fun id => ?_, fun t ht => ?_, fun id => ?_, fun id _ => (hworld id).1⟩
  · rw [(hworld id).1, (hworld id).2]
    rfl
  · cases ht
  · rw [(hworld id).1]
    exact Nat.zero_le _

/-! ### What is written -/

/-- All queued tasks are of a kind, and the world is as it should be. -/
def Holds (P : α → Prop) (I : σ → Prop) (s : RetryQueue α σ) : Prop :=
  (∀ t ∈ s.queue, P t.payload) ∧ I s.world

theorem Holds.publish {P : α → Prop} {I : σ → Prop} (h : s.Holds P I) {payload : α}
    (hpayload : P payload) : (s.publish payload).Holds P I := by
  refine ⟨fun t ht => ?_, h.2⟩
  rcases List.mem_append.mp ht with hold | hnew
  · exact h.1 t hold
  · rw [List.mem_singleton.mp hnew]
    exact hpayload

theorem Holds.attempt {P : α → Prop} {I : σ → Prop} (h : s.Holds P I) (ht : t ∈ s.queue)
    {choice : ι} (hafter : I (policy.handle t.id t.payload choice s.world).2) (requeues : Bool) :
    (s.attempt policy t choice requeues).Holds P I := by
  have hqueue : ∀ u ∈ s.without t.id, P u.payload :=
    fun u hu => h.1 u (List.mem_of_mem_filter hu)
  unfold RetryQueue.attempt
  dsimp only
  split
  · exact ⟨hqueue, hafter⟩
  · split
    · refine ⟨fun u hu => ?_, hafter⟩
      rcases List.mem_append.mp hu with hold | hnew
      · exact hqueue u hold
      · rw [List.mem_singleton.mp hnew]
        exact h.1 t ht
    · exact ⟨hqueue, hafter⟩

/-- What holds is kept by a step that publishes tasks of the kind, if every attempt keeps the
world as it should be. -/
theorem Holds.step {P : α → Prop} {I : σ → Prop} (h : s.Holds P I)
    (hhandle : ∀ id payload choice world, P payload → I world →
      I (policy.handle id payload choice world).2)
    {i : RetryStep α ι} (hi : i.Publishes P) : (s.step policy i).Holds P I := by
  cases i with
  | publish payloads =>
      show Holds P I (payloads.foldl RetryQueue.publish s)
      induction payloads generalizing s with
      | nil => exact h
      | cons payload payloads ih =>
          obtain ⟨hpayload, hrest⟩ := List.forall_mem_cons.mp hi
          exact ih (h.publish hpayload) hrest
  | attempt id choice requeues =>
      show Holds P I ((s.task id).elim s _)
      cases htask : s.task id with
      | none => exact h
      | some t =>
          have ht := (mem_of_task htask).1
          exact h.attempt ht (hhandle t.id t.payload choice s.world (h.1 t ht) h.2) requeues

/-- An invariant of the world that every attempt at a task of the published kind keeps. -/
theorem world_run {P : α → Prop} {I : σ → Prop}
    (hhandle : ∀ id payload choice world, P payload → I world →
      I (policy.handle id payload choice world).2)
    {world : σ} (hworld : I world) {w : List (RetryStep α ι)} (hw : ∀ i ∈ w, i.Publishes P) :
    I (run (step policy) { world := world } w).world := by
  have hrun : ∀ s : RetryQueue α σ, s.Holds P I → (run (step policy) s w).Holds P I := by
    induction w with
    | nil => exact fun s hs => hs
    | cons i w ih =>
        intro s hs
        obtain ⟨hi, hrest⟩ := List.forall_mem_cons.mp hw
        exact ih hrest (s.step policy i) (hs.step hhandle hi)
  exact (hrun _ ⟨fun t ht => (List.not_mem_nil ht).elim, hworld⟩).2

end RetryQueue

end DcimBackend.Library
