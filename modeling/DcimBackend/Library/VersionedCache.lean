import DcimBackend.Library.Run
import Mathlib.Logic.Function.Basic

/-!
# A cache under a version key

Answers that are computed from a database are kept in a cache, under a key that contains the
current version.  A write to the database puts a new version in place some time after it has
committed, and the entries of the old version are never looked up again.  A reader that finds
no version puts a new one in place itself; it looks first and writes later, and other readers
and writers act in between.

What makes this safe is that no version is ever put in place twice.  `Consistent` is the
invariant: an entry of the current version is up to date, or some write has not put its version
in place yet (`consistent_run`).  `answer_of_run` is what a reader may rely on: if every write
that commits before the reader has its answer put its version in place before the reader
started, the answer is the one that the database gives.

Nothing is assumed of the order in which readers, writers and evictions act.  The entries are kept
under the request and the version together, so an eviction is a step like any other and makes
nothing wrong; it costs a computation.  The two places where a version is generated, the bump of a
writer and the first reader after an eviction, are steps of their own, apart from where the
version is put in place, since everything may happen in between.

The library knows neither rules nor alerts: requests, databases, keys and answers are parameters,
and `Memo` says that a key decides the answer.  `Alerts.RuleCache` instantiates it.
-/

namespace DcimBackend.Library

universe u

/-- Answers to requests `ρ` over databases `δ`, and how they are kept: under a key `κ` that
decides the answer, as an `α` from which the database restores it. -/
structure Memo (δ ρ κ α β : Type u) where
  key : ρ → κ
  compute : δ → ρ → β
  pack : β → α
  unpack : δ → ρ → α → β
  compute_congr : ∀ d r r', key r = key r' → compute d r = compute d r'
  unpack_pack : ∀ d r, unpack d r (pack (compute d r)) = compute d r

/-- Where a reader stands. -/
inductive Reader (ρ α β : Type u)
  | idle
  | called (r : ρ)
  /-- It has found no version, … -/
  | unversioned (r : ρ)
  /-- … and generated one that it has not put in place yet. -/
  | generated (r : ρ) (v : ℕ)
  | versioned (r : ρ) (v : ℕ)
  /-- It has found an entry, … -/
  | hit (r : ρ) (a : α)
  /-- … or none, … -/
  | missed (r : ρ) (v : ℕ)
  /-- … and computed the answer, which it has not kept yet. -/
  | computed (r : ρ) (v : ℕ) (b : β)
  | returned (r : ρ) (b : β)

/-- Where a committed write stands with its new version. -/
inductive Bump
  | pending
  | generated (v : ℕ)
  | done
deriving DecidableEq

/-- The database, the cache, and the readers and writers at work. -/
structure CacheState (δ ρ κ α β : Type u) where
  db : δ
  version : Option ℕ
  entries : ℕ → κ → Option α
  /-- The versions from here on have not been generated yet. -/
  fresh : ℕ
  readers : ℕ → Reader ρ α β
  bumps : List Bump

/-- What happens next. -/
inductive CacheEvent (δ ρ κ : Type u)
  /-- A reader starts, and gives up what it was doing. -/
  | call (i : ℕ) (r : ρ)
  /-- A reader makes its next step. -/
  | read (i : ℕ)
  /-- A transaction commits, which has registered one bump and some more. -/
  | commit (db : δ) (more : ℕ)
  /-- A bump makes its next step. -/
  | bump (j : ℕ)
  | evictVersion
  | evict (v : ℕ) (k : κ)

namespace Reader

variable {ρ α β : Type u}

/-- The version under which a reader looks up and keeps. -/
def holds : Reader ρ α β → Option ℕ
  | .versioned _ v | .missed _ v | .computed _ v _ => some v
  | _ => none

/-- The version that a reader has generated and not put in place. -/
def unset : Reader ρ α β → Option ℕ
  | .generated _ v => some v
  | _ => none

/-- The answer of a reader. -/
def answer? : Reader ρ α β → Option β
  | .computed _ _ b | .returned _ b => some b
  | _ => none

end Reader

/-- The version that a bump has generated and not put in place. -/
def Bump.unset : Bump → Option ℕ
  | .generated v => some v
  | _ => none

section

variable {δ ρ κ α β : Type u}

namespace CacheState

/-- A reader goes on. -/
def setReader (s : CacheState δ ρ κ α β) (i : ℕ) (x : Reader ρ α β) : CacheState δ ρ κ α β :=
  { s with readers := Function.update s.readers i x }

/-- The next step of a reader. -/
def read [DecidableEq κ] (m : Memo δ ρ κ α β) (s : CacheState δ ρ κ α β) (i : ℕ) :
    CacheState δ ρ κ α β :=
  match s.readers i with
  | .idle | .returned _ _ => s
  | .called r =>
      match s.version with
      | some v => s.setReader i (.versioned r v)
      | none => s.setReader i (.unversioned r)
  | .unversioned r => { s.setReader i (.generated r s.fresh) with fresh := s.fresh + 1 }
  | .generated r v => { s.setReader i (.versioned r v) with version := some v }
  | .versioned r v =>
      match s.entries v (m.key r) with
      | some a => s.setReader i (.hit r a)
      | none => s.setReader i (.missed r v)
  | .hit r a => s.setReader i (.returned r (m.unpack s.db r a))
  | .missed r v => s.setReader i (.computed r v (m.compute s.db r))
  | .computed r v b =>
      { s.setReader i (.returned r b) with
        entries := Function.update s.entries v
          (Function.update (s.entries v) (m.key r) (some (m.pack b))) }

/-- The next step of a bump. -/
def bump (s : CacheState δ ρ κ α β) (j : ℕ) : CacheState δ ρ κ α β :=
  match s.bumps[j]? with
  | none | some .done => s
  | some .pending =>
      { s with bumps := s.bumps.set j (.generated s.fresh), fresh := s.fresh + 1 }
  | some (.generated v) => { s with bumps := s.bumps.set j .done, version := some v }

/-- One event. -/
def step [DecidableEq κ] (m : Memo δ ρ κ α β) (s : CacheState δ ρ κ α β) :
    CacheEvent δ ρ κ → CacheState δ ρ κ α β
  | .call i r => s.setReader i (.called r)
  | .read i => s.read m i
  | .commit db more =>
      { s with db := db, bumps := s.bumps ++ List.replicate (more + 1) .pending }
  | .bump j => s.bump j
  | .evictVersion => { s with version := none }
  | .evict v k =>
      { s with entries := Function.update s.entries v (Function.update (s.entries v) k none) }

/-- Everything has yet to happen. -/
def start (db : δ) : CacheState δ ρ κ α β where
  db := db
  version := none
  entries _ _ := none
  fresh := 0
  readers _ := .idle
  bumps := []

variable (m : Memo δ ρ κ α β) (s : CacheState δ ρ κ α β)

/-- Every committed write has put its version in place. -/
def Settled : Prop := ∀ b ∈ s.bumps, b = .done

/-- What is kept, or about to be kept, under a version is up to date. -/
structure UpToDate (v : ℕ) : Prop where
  entries : ∀ k a, s.entries v k = some a → ∀ r, m.key r = k → a = m.pack (m.compute s.db r)
  readers : ∀ i r b, s.readers i = .computed r v b → b = m.compute s.db r

/-- A version that nobody has used. -/
structure Untouched (v : ℕ) : Prop where
  version : s.version ≠ some v
  entries : ∀ k, s.entries v k = none
  readers : ∀ i, (s.readers i).holds ≠ some v

/-- The version that a reader, or a bump, has generated and not put in place. -/
def unset : ℕ ⊕ ℕ → Option ℕ
  | .inl i => (s.readers i).unset
  | .inr j => s.bumps[j]?.bind Bump.unset

/-- **The invariant.** -/
structure Consistent : Prop where
  unset_lt : ∀ a v, s.unset a = some v → v < s.fresh
  unset_inj : ∀ a a' v, s.unset a = some v → s.unset a' = some v → a = a'
  unset_untouched : ∀ a v, s.unset a = some v → s.Untouched v
  fresh_untouched : ∀ v, s.fresh ≤ v → s.Untouched v
  current : ∀ v, s.version = some v → s.UpToDate m v ∨ ¬s.Settled

variable {m s}

theorem Untouched.upToDate {v : ℕ} (h : s.Untouched v) : s.UpToDate m v where
  entries := by
    intro k a hentry
    rw [h.entries k] at hentry
    cases hentry
  readers := by
    intro i r b hreader
    refine absurd ?_ (h.readers i)
    rw [hreader]
    rfl

theorem consistent_start (db : δ) : (start db : CacheState δ ρ κ α β).Consistent m where
  unset_lt := by rintro (i | j) v h <;> simp [unset, start, Reader.unset] at h
  unset_inj := by rintro (i | j) a' v h <;> simp [unset, start, Reader.unset] at h
  unset_untouched := by rintro (i | j) v h <;> simp [unset, start, Reader.unset] at h
  fresh_untouched := fun v _ => ⟨by simp [start], fun k => rfl, fun i => by simp [start, Reader.holds]⟩
  current := by simp [start]

/-! ### What keeps the invariant -/

section Keep

variable {s' : CacheState δ ρ κ α β}

/-- Nothing is generated, and no version is put in place. -/
theorem Consistent.keep (h : s.Consistent m) (hfresh : s'.fresh = s.fresh)
    (hunset : ∀ a v, s'.unset a = some v → s.unset a = some v)
    (huntouched : ∀ v, s.Untouched v → s'.Untouched v)
    (hversion : ∀ v, s'.version = some v → s.version = some v)
    (hcurrent : ∀ v, s.version = some v → s.UpToDate m v ∨ ¬s.Settled →
      s'.UpToDate m v ∨ ¬s'.Settled) : s'.Consistent m where
  unset_lt := by
    intro a v ha
    rw [hfresh]
    exact h.unset_lt a v (hunset a v ha)
  unset_inj := fun a a' v ha ha' => h.unset_inj a a' v (hunset a v ha) (hunset a' v ha')
  unset_untouched := fun a v ha => huntouched v (h.unset_untouched a v (hunset a v ha))
  fresh_untouched := by
    intro v hv
    rw [hfresh] at hv
    exact huntouched v (h.fresh_untouched v hv)
  current := fun v hv => hcurrent v (hversion v hv) (h.current v (hversion v hv))

/-- One agent generates a version. -/
theorem Consistent.generate (h : s.Consistent m) (a₀ : ℕ ⊕ ℕ) (hfresh : s'.fresh = s.fresh + 1)
    (hunset : ∀ a v, s'.unset a = some v → (a = a₀ ∧ v = s.fresh) ∨ s.unset a = some v)
    (huntouched : ∀ v, s.Untouched v → s'.Untouched v) (hversion : s'.version = s.version)
    (hcurrent : ∀ v, s.UpToDate m v → s'.UpToDate m v) (hsettled : s'.Settled → s.Settled) :
    s'.Consistent m where
  unset_lt := by
    intro a v ha
    rcases hunset a v ha with ⟨-, rfl⟩ | hold
    · omega
    · have hlt := h.unset_lt a v hold
      omega
  unset_inj := by
    intro a a' v ha ha'
    rcases hunset a v ha with ⟨rfl, rfl⟩ | hold
    · rcases hunset a' _ ha' with ⟨rfl, -⟩ | hold'
      · rfl
      · exact absurd (h.unset_lt a' _ hold') (Nat.lt_irrefl _)
    · rcases hunset a' v ha' with ⟨-, rfl⟩ | hold'
      · exact absurd (h.unset_lt a _ hold) (Nat.lt_irrefl _)
      · exact h.unset_inj a a' v hold hold'
  unset_untouched := by
    intro a v ha
    rcases hunset a v ha with ⟨-, rfl⟩ | hold
    · exact huntouched _ (h.fresh_untouched _ (Nat.le_refl _))
    · exact huntouched v (h.unset_untouched a v hold)
  fresh_untouched := by
    intro v hv
    rw [hfresh] at hv
    exact huntouched v (h.fresh_untouched v (by omega))
  current := by
    intro v hv
    rw [hversion] at hv
    exact (h.current v hv).imp (hcurrent v) (mt hsettled)

/-- The agent that has generated a version puts it in place: nobody has used it before, and
nobody will put it in place again. -/
theorem Consistent.putVersion (h : s.Consistent m) {a₀ : ℕ ⊕ ℕ} {v : ℕ}
    (ha₀ : s.unset a₀ = some v) (hfresh : s'.fresh = s.fresh)
    (hunset : ∀ a w, s'.unset a = some w → a ≠ a₀ ∧ s.unset a = some w)
    (huntouched : ∀ w, w ≠ v → s.Untouched w → s'.Untouched w) (hversion : s'.version = some v)
    (hcurrent : s'.UpToDate m v) : s'.Consistent m where
  unset_lt := by
    intro a w ha
    rw [hfresh]
    exact h.unset_lt a w (hunset a w ha).2
  unset_inj := fun a a' w ha ha' => h.unset_inj a a' w (hunset a w ha).2 (hunset a' w ha').2
  unset_untouched := by
    intro a w ha
    obtain ⟨hne, hold⟩ := hunset a w ha
    refine huntouched w ?_ (h.unset_untouched a w hold)
    rintro rfl
    exact hne (h.unset_inj a a₀ w hold ha₀)
  fresh_untouched := by
    intro w hw
    rw [hfresh] at hw
    refine huntouched w ?_ (h.fresh_untouched w hw)
    rintro rfl
    exact absurd (h.unset_lt a₀ w ha₀) (Nat.not_lt.mpr hw)
  current := by
    intro w hw
    rw [hversion] at hw
    obtain rfl := Option.some.inj hw
    exact Or.inl hcurrent

end Keep

/-! ### One step of a reader -/

section SetReader

variable {i : ℕ} {x : Reader ρ α β}

theorem unset_setReader {a : ℕ ⊕ ℕ} :
    (s.setReader i x).unset a = if a = .inl i then x.unset else s.unset a := by
  rcases a with j | j
  · by_cases hj : j = i
    · subst hj
      simp [unset, setReader]
    · simp [unset, setReader, hj]
  · simp [unset, setReader]

theorem unset_of_setReader (hx : x.unset = none) {a : ℕ ⊕ ℕ} {v : ℕ}
    (h : (s.setReader i x).unset a = some v) : a ≠ .inl i ∧ s.unset a = some v := by
  rw [unset_setReader] at h
  split at h
  · rw [hx] at h
    cases h
  · exact ⟨‹_›, h⟩

theorem Untouched.setReader {v : ℕ} (h : s.Untouched v) (hx : x.holds ≠ some v) :
    (s.setReader i x).Untouched v where
  version := h.version
  entries := h.entries
  readers := by
    intro j
    by_cases hj : j = i
    · subst hj
      simpa [CacheState.setReader] using hx
    · simpa [CacheState.setReader, hj] using h.readers j

theorem UpToDate.setReader {v : ℕ} (h : s.UpToDate m v)
    (hx : ∀ r b, x = .computed r v b → b = m.compute s.db r) :
    (s.setReader i x).UpToDate m v where
  entries := h.entries
  readers := by
    intro j r b hj
    by_cases hji : j = i
    · subst hji
      exact hx r b (by simpa [CacheState.setReader] using hj)
    · exact h.readers j r b (by simpa [CacheState.setReader, hji] using hj)

/-- A reader goes on under a version that is in use, with an answer that is up to date. -/
theorem Consistent.setReader (h : s.Consistent m) (hunset : x.unset = none)
    (hholds : ∀ v, x.holds = some v → ¬s.Untouched v)
    (hx : ∀ r v b, x = .computed r v b → b = m.compute s.db r) :
    (s.setReader i x).Consistent m :=
  h.keep rfl (fun _ _ ha => (unset_of_setReader hunset ha).2)
    (fun v hv => hv.setReader fun hheld => hholds v hheld hv) (fun _ hv => hv)
    fun v _ => Or.imp (fun hup => hup.setReader fun r b => hx r v b) id

end SetReader

theorem not_untouched_of_holds {i v : ℕ} (h : (s.readers i).holds = some v) : ¬s.Untouched v :=
  fun hv => hv.readers i h

theorem unset_setBump {j : ℕ} {old new : Bump} (hold : s.bumps[j]? = some old) {a : ℕ ⊕ ℕ} :
    unset { s with bumps := s.bumps.set j new } a = if a = .inr j then new.unset else s.unset a := by
  rcases a with i | k
  · simp [unset]
  · have hlt : j < s.bumps.length := by
      by_contra hge
      rw [List.getElem?_eq_none (by omega)] at hold
      cases hold
    by_cases hk : k = j
    · subst hk
      simp [unset, hlt]
    · simp [unset, hk, List.getElem?_set_ne (Ne.symm hk)]

theorem settled_of_setBump {j : ℕ} {old new : Bump} (hold : s.bumps[j]? = some old)
    (hnew : new ≠ .done) (h : Settled { s with bumps := s.bumps.set j new }) : s.Settled := by
  have hlt : j < s.bumps.length := by
    by_contra hge
    rw [List.getElem?_eq_none (by omega)] at hold
    cases hold
  exact absurd (h new (List.mem_set hlt new)) hnew

/-- A bump makes a step. -/
theorem Consistent.bump (h : s.Consistent m) (j : ℕ) : (s.bump j).Consistent m := by
  unfold CacheState.bump
  split
  · exact h
  · exact h
  · rename_i hpending
    refine h.generate (.inr j) rfl ?_ (fun v hv => ⟨hv.version, hv.entries, hv.readers⟩) rfl
      (fun v hv => ⟨hv.entries, hv.readers⟩) ?_
    · intro a v ha
      have ha' : unset { s with bumps := s.bumps.set j (.generated s.fresh) } a = some v := ha
      rw [unset_setBump hpending] at ha'
      split at ha'
      · exact Or.inl ⟨‹_›, (Option.some.inj ha').symm⟩
      · exact Or.inr ha'
    · exact fun hsettled => settled_of_setBump hpending (by simp) hsettled
  · rename_i v hgenerated
    have hunset : s.unset (.inr j) = some v := by simp [unset, hgenerated, Bump.unset]
    have hun := h.unset_untouched _ _ hunset
    refine h.putVersion hunset rfl (fun a w ha => ?_) (fun w hw huw => ?_) rfl ?_
    · have ha' : unset { s with bumps := s.bumps.set j .done } a = some w := ha
      rw [unset_setBump hgenerated] at ha'
      split at ha'
      · cases ha'
      · exact ⟨‹_›, ha'⟩
    · exact ⟨by simpa using hw.symm, huw.entries, huw.readers⟩
    · exact ⟨(hun.upToDate (m := m)).entries, (hun.upToDate (m := m)).readers⟩

/-- A write commits: what is current may be out of date, and a bump is pending. -/
theorem Consistent.commit (h : s.Consistent m) (db : δ) (more : ℕ) :
    Consistent m { s with
      db := db
      bumps := s.bumps ++ List.replicate (more + 1) .pending } := by
  refine h.keep rfl ?_ (fun v hv => ⟨hv.version, hv.entries, hv.readers⟩) (fun v hv => hv) ?_
  · rintro (i | j) v ha
    · exact ha
    · by_cases hj : j < s.bumps.length
      · simpa [unset, List.getElem?_append_left hj] using ha
      · rw [unset, List.getElem?_append_right (by omega), List.getElem?_replicate] at ha
        split at ha <;> simp [Bump.unset] at ha
  · rintro v hv -
    refine Or.inr fun hsettled => ?_
    have hdone := hsettled .pending (by simp)
    cases hdone

variable [DecidableEq κ]

/-- An answer that is up to date is kept. -/
theorem UpToDate.keepEntry {v w : ℕ} {r : ρ} {b : β} (h : s.UpToDate m v)
    (hb : v = w → b = m.compute s.db r) :
    UpToDate m { s with
      entries := Function.update s.entries w
        (Function.update (s.entries w) (m.key r) (some (m.pack b))) } v where
  entries := by
    intro k a hentry r' hr'
    by_cases hv : v = w
    · subst hv
      by_cases hk : k = m.key r
      · subst hk
        simp only [Function.update_self, Option.some.injEq] at hentry
        rw [← hentry, hb rfl, m.compute_congr s.db r r' hr'.symm]
      · exact h.entries k a (by simpa [hk] using hentry) r' hr'
    · exact h.entries k a (by simpa [hv] using hentry) r' hr'
  readers := h.readers

/-- An entry is evicted. -/
theorem UpToDate.evict {v w : ℕ} {k : κ} (h : s.UpToDate m v) :
    UpToDate m { s with
      entries := Function.update s.entries w (Function.update (s.entries w) k none) } v where
  entries := by
    intro k' a hentry
    by_cases hv : v = w
    · subst hv
      by_cases hk : k' = k
      · subst hk
        simp at hentry
      · exact h.entries k' a (by simpa [hk] using hentry)
    · exact h.entries k' a (by simpa [hv] using hentry)
  readers := h.readers

/-- A reader keeps the answer that it has computed. -/
theorem Consistent.keepEntry (h : s.Consistent m) {i w : ℕ} {r : ρ} {b : β}
    (hi : s.readers i = .computed r w b) :
    Consistent m { s with
      entries := Function.update s.entries w
        (Function.update (s.entries w) (m.key r) (some (m.pack b))) } := by
  have hheld : (s.readers i).holds = some w := by
    rw [hi]
    rfl
  refine h.keep rfl (fun a v ha => ha) (fun v hv => ⟨hv.version, fun k => ?_, hv.readers⟩)
    (fun v hv => hv) fun v _ => Or.imp (fun hup => hup.keepEntry ?_) id
  · have hne : v ≠ w := fun hvw => hv.readers i (hvw ▸ hheld)
    simp [hne, hv.entries k]
  · rintro rfl
    exact hup.readers i r b hi

/-- A reader makes a step. -/
theorem Consistent.read (h : s.Consistent m) (i : ℕ) : (s.read m i).Consistent m := by
  unfold CacheState.read
  cases hi : s.readers i with
  | idle | returned r b => exact h
  | called r =>
      dsimp only
      cases hversion : s.version with
      | none => exact h.setReader rfl (by simp [Reader.holds]) (by simp)
      | some v =>
          refine h.setReader rfl ?_ (by simp)
          intro w hw hun
          obtain rfl : v = w := Option.some.inj hw
          exact hun.version hversion
  | unversioned r =>
      have hset : ∀ v, s.Untouched v → (s.setReader i (.generated r s.fresh)).Untouched v :=
        fun v hv => hv.setReader (by simp [Reader.holds])
      refine h.generate (.inl i) rfl ?_ (fun v hv => ⟨(hset v hv).version, (hset v hv).entries,
        (hset v hv).readers⟩) rfl (fun v hv => ?_) id
      · intro a v ha
        have ha' : (s.setReader i (.generated r s.fresh)).unset a = some v := ha
        rw [unset_setReader] at ha'
        split at ha'
        · exact Or.inl ⟨‹_›, (Option.some.inj ha').symm⟩
        · exact Or.inr ha'
      · have hup := hv.setReader (i := i) (x := .generated r s.fresh) (by simp)
        exact ⟨hup.entries, hup.readers⟩
  | generated r v =>
      have hunset : s.unset (.inl i) = some v := by simp [unset, hi, Reader.unset]
      have hun := h.unset_untouched _ _ hunset
      refine h.putVersion hunset rfl (fun a w ha => ?_) (fun w hw huw => ?_) rfl ?_
      · exact unset_of_setReader rfl ha
      · have hset := huw.setReader (i := i) (x := .versioned r v)
          (by simpa [Reader.holds] using hw.symm)
        refine ⟨?_, hset.entries, hset.readers⟩
        simpa using hw.symm
      · have hup := (hun.upToDate (m := m)).setReader (i := i) (x := .versioned r v) (by simp)
        exact ⟨hup.entries, hup.readers⟩
  | versioned r v =>
      dsimp only
      cases s.entries v (m.key r) with
      | some a => exact h.setReader rfl (by simp [Reader.holds]) (by simp)
      | none =>
          refine h.setReader rfl ?_ (by simp)
          intro w hw
          obtain rfl : v = w := Option.some.inj hw
          exact not_untouched_of_holds (i := i) (by rw [hi]; rfl)
  | hit r a => exact h.setReader rfl (by simp [Reader.holds]) (by simp)
  | missed r v =>
      refine h.setReader rfl ?_ ?_
      · intro w hw
        obtain rfl : v = w := Option.some.inj hw
        exact not_untouched_of_holds (i := i) (by rw [hi]; rfl)
      · intro r' v' b' hx
        injection hx with hr hv hb
        rw [← hb, hr]
  | computed r v b =>
      exact (h.keepEntry hi).setReader rfl (by simp [Reader.holds]) (by simp)

/-- **One event keeps the invariant.** -/
theorem consistent_step (h : s.Consistent m) (e : CacheEvent δ ρ κ) :
    (s.step m e).Consistent m := by
  cases e with
  | call i r => exact h.setReader rfl (by simp [Reader.holds]) (by simp)
  | read i => exact h.read i
  | commit db more => exact h.commit db more
  | bump j => exact h.bump j
  | evictVersion =>
      exact h.keep rfl (fun a v ha => ha) (fun v hv => ⟨by simp [step], hv.entries, hv.readers⟩)
        (by simp [step]) fun v _ => Or.imp (fun hup => ⟨hup.entries, hup.readers⟩) id
  | evict w k =>
      refine h.keep rfl (fun a v ha => ha) (fun v hv => ⟨hv.version, fun k' => ?_, hv.readers⟩)
        (fun v hv => hv) fun v _ => Or.imp (fun hup => hup.evict) id
      by_cases hvw : v = w
      · subst hvw
        by_cases hk : k' = k
        · simp [step, hk]
        · simpa [step, hk] using hv.entries k'
      · simpa [step, hvw] using hv.entries k'

/-- **Every run keeps the invariant.** -/
theorem consistent_run (db : δ) (w : List (CacheEvent δ ρ κ)) :
    (run (step m) (start db) w : CacheState δ ρ κ α β).Consistent m :=
  run_invariant (I := Consistent m) (fun _ e h => consistent_step h e) (consistent_start db) w

/-! ### What a reader may rely on -/

/-- Without a commit, what is up to date stays so: whatever is computed is computed from the
same database. -/
theorem UpToDate.step {v : ℕ} (h : s.UpToDate m v) {e : CacheEvent δ ρ κ}
    (he : ∀ db more, e ≠ .commit db more) : (s.step m e).UpToDate m v := by
  cases e with
  | call i r => exact h.setReader (by simp)
  | commit db more => exact absurd rfl (he db more)
  | evictVersion => exact ⟨h.entries, h.readers⟩
  | evict w k => exact h.evict
  | bump j =>
      show (s.bump j).UpToDate m v
      unfold CacheState.bump
      split
      · exact h
      · exact h
      · exact ⟨h.entries, h.readers⟩
      · exact ⟨h.entries, h.readers⟩
  | read i =>
      show (s.read m i).UpToDate m v
      unfold CacheState.read
      cases hi : s.readers i with
      | idle | returned r b => exact h
      | called r => cases s.version <;> exact h.setReader (by simp)
      | unversioned r =>
          have hset := h.setReader (i := i) (x := .generated r s.fresh) (by simp)
          exact ⟨hset.entries, hset.readers⟩
      | generated r w =>
          have hset := h.setReader (i := i) (x := .versioned r w) (by simp)
          exact ⟨hset.entries, hset.readers⟩
      | versioned r w =>
          dsimp only
          split
          · exact h.setReader (by simp)
          · exact h.setReader (by simp)
      | hit r a => exact h.setReader (by simp)
      | missed r w =>
          refine h.setReader fun r' b hx => ?_
          injection hx with hr hv hb
          rw [← hb, hr]
      | computed r w b =>
          have hkept := h.keepEntry (w := w) (b := b) fun hvw => h.readers i r b (hvw ▸ hi)
          exact hkept.setReader (by simp)

/-- A reader that serves a request is where it should be: what it has found is the answer that
the database gives. -/
def OnTrack (m : Memo δ ρ κ α β) (s : CacheState δ ρ κ α β) (r : ρ) : Reader ρ α β → Prop
  | .idle => False
  | .called r' | .unversioned r' | .generated r' _ | .missed r' _ => r' = r
  | .versioned r' v => r' = r ∧ s.UpToDate m v
  | .hit r' a => r' = r ∧ a = m.pack (m.compute s.db r)
  | .computed _ _ b | .returned _ b => b = m.compute s.db r

/-- A reader's own step. -/
theorem OnTrack.read (h : s.Consistent m) (hsettled : s.Settled) {i : ℕ} {r : ρ}
    (htrack : OnTrack m s r (s.readers i)) : OnTrack m (s.read m i) r ((s.read m i).readers i) := by
  unfold CacheState.read
  cases hi : s.readers i with
  | idle | returned r' b => simpa [hi] using htrack
  | called r' =>
      rw [hi] at htrack
      obtain rfl : r' = r := htrack
      dsimp only
      cases hversion : s.version with
      | none => simp [CacheState.setReader, OnTrack]
      | some v =>
          -- the writers are done, so the current version is up to date
          have hup := (h.current v hversion).resolve_right (not_not.mpr hsettled)
          have hup' := hup.setReader (i := i) (x := .versioned r' v) (by simp)
          simpa [CacheState.setReader, OnTrack] using hup'
  | unversioned r' =>
      rw [hi] at htrack
      simpa [CacheState.setReader, OnTrack] using htrack
  | generated r' v =>
      rw [hi] at htrack
      obtain rfl : r' = r := htrack
      -- nobody has used the version that the reader puts in place
      have hun := h.unset_untouched (.inl i) v (by simp [unset, hi, Reader.unset])
      have hup := (hun.upToDate (m := m)).setReader (i := i) (x := .versioned r' v) (by simp)
      have hup' : UpToDate m { s.setReader i (.versioned r' v) with version := some v } v :=
        ⟨hup.entries, hup.readers⟩
      simpa [CacheState.setReader, OnTrack] using hup'
  | versioned r' v =>
      rw [hi] at htrack
      obtain ⟨rfl, hup⟩ : r' = r ∧ s.UpToDate m v := htrack
      dsimp only
      cases hentry : s.entries v (m.key r') with
      | none => simp [CacheState.setReader, OnTrack]
      | some a =>
          have ha := hup.entries (m.key r') a hentry r' rfl
          simpa [CacheState.setReader, OnTrack] using ha
  | hit r' a =>
      rw [hi] at htrack
      obtain ⟨rfl, rfl⟩ : r' = r ∧ a = m.pack (m.compute s.db r) := htrack
      simp [CacheState.setReader, OnTrack, m.unpack_pack]
  | missed r' v =>
      rw [hi] at htrack
      obtain rfl : r' = r := htrack
      simp [CacheState.setReader, OnTrack]
  | computed r' v b =>
      rw [hi] at htrack
      simpa [CacheState.setReader, OnTrack] using htrack

/-- Only a reader's own steps, and its calls, change where it stands. -/
theorem readers_step {e : CacheEvent δ ρ κ} {i : ℕ} (hcall : ∀ r, e ≠ .call i r)
    (hread : e ≠ .read i) : (s.step m e).readers i = s.readers i := by
  have hset : ∀ j x, i ≠ j → (s.setReader j x).readers i = s.readers i := by
    intro j x hij
    simp [setReader, hij]
  cases e with
  | commit db more | evictVersion | evict w k => rfl
  | call j r =>
      have hij : i ≠ j := by
        rintro rfl
        exact hcall r rfl
      exact hset j _ hij
  | bump j =>
      show (s.bump j).readers i = _
      unfold CacheState.bump
      split <;> rfl
  | read j =>
      have hij : i ≠ j := by
        rintro rfl
        exact hread rfl
      show (s.read m j).readers i = _
      unfold CacheState.read
      split
      · rfl
      · rfl
      · split <;> exact hset j _ hij
      · exact hset j _ hij
      · exact hset j _ hij
      · split <;> exact hset j _ hij
      · exact hset j _ hij
      · exact hset j _ hij
      · exact hset j _ hij

/-- A reader that has its answer keeps it. -/
theorem answer?_read {i : ℕ} {b : β} (h : (s.readers i).answer? = some b) :
    ((s.read m i).readers i).answer? = some b := by
  unfold CacheState.read
  cases hi : s.readers i with
  | returned r b' => rwa [hi] at h ⊢
  | computed r v b' =>
      rw [hi] at h
      simpa [CacheState.setReader, Reader.answer?] using h
  | _ =>
      rw [hi] at h
      cases h

/-- Only a commit changes the database. -/
theorem db_step {e : CacheEvent δ ρ κ} (he : ∀ db more, e ≠ .commit db more) :
    (s.step m e).db = s.db := by
  cases e with
  | commit db more => exact absurd rfl (he db more)
  | call i r | evictVersion | evict v k => rfl
  | bump j =>
      show (s.bump j).db = s.db
      unfold CacheState.bump
      split <;> rfl
  | read i =>
      show (s.read m i).db = s.db
      unfold CacheState.read
      split
      · rfl
      · rfl
      · split <;> rfl
      · rfl
      · rfl
      · split <;> rfl
      · rfl
      · rfl
      · rfl

/-- Once the writers are done, they stay so until the next commit. -/
theorem Settled.step {e : CacheEvent δ ρ κ} (h : s.Settled)
    (he : ∀ db more, e ≠ .commit db more) : (s.step m e).Settled := by
  cases e with
  | commit db more => exact absurd rfl (he db more)
  | call i r | evictVersion | evict v k => exact h
  | bump j =>
      show (s.bump j).Settled
      have hdone : ∀ b, s.bumps[j]? = some b → b = .done := fun b hb =>
        h b (List.mem_of_getElem? hb)
      unfold CacheState.bump
      split
      · exact h
      · exact h
      · rename_i hpending
        cases hdone _ hpending
      · rename_i hgenerated
        cases hdone _ hgenerated
  | read i =>
      show (s.read m i).Settled
      unfold CacheState.read
      split
      · exact h
      · exact h
      · split <;> exact h
      · exact h
      · exact h
      · split <;> exact h
      · exact h
      · exact h
      · exact h

/-- Where the other steps of a reader leave it. -/
theorem OnTrack.of_other {r : ρ} {x : Reader ρ α β} (h : OnTrack m s r x)
    {e : CacheEvent δ ρ κ} (he : ∀ db more, e ≠ .commit db more) :
    OnTrack m (s.step m e) r x := by
  cases x with
  | idle => exact h
  | called r' | unversioned r' | generated r' v | missed r' v => exact h
  | versioned r' v => exact ⟨h.1, h.2.step he⟩
  | hit r' a => exact ⟨h.1, by rw [db_step he]; exact h.2⟩
  | computed r' v b | returned r' b =>
      show b = m.compute (s.step m e).db r
      rw [db_step he]
      exact h

/-- A reader serves a request from a database that the writers have left: it is on its way, or
it has the answer. -/
def Serves (m : Memo δ ρ κ α β) (db : δ) (i : ℕ) (r : ρ) (s : CacheState δ ρ κ α β) : Prop :=
  (s.db = db ∧ s.Settled ∧ s.Consistent m ∧ OnTrack m s r (s.readers i)) ∨
    (s.readers i).answer? = some (m.compute db r)

/-- No commit comes between the call of a reader and its answer. -/
def QuietFor (i : ℕ) (before : CacheState δ ρ κ α β) (e : CacheEvent δ ρ κ)
    (_after : CacheState δ ρ κ α β) : Prop :=
  ∀ db more, e = .commit db more → (before.readers i).answer? ≠ none

/-- **One event, for a reader at work.** -/
theorem serves_step {db : δ} {i : ℕ} {r : ρ} (h : Serves m db i r s) {e : CacheEvent δ ρ κ}
    (hcall : ∀ r', e ≠ .call i r') (hquiet : QuietFor i s e (s.step m e)) :
    Serves m db i r (s.step m e) := by
  have hanswered : ∀ b, (s.readers i).answer? = some b →
      ((s.step m e).readers i).answer? = some b := by
    intro b hb
    by_cases hread : e = .read i
    · subst hread
      exact answer?_read hb
    · rwa [readers_step hcall hread]
  rcases h with ⟨hdb, hsettled, hconsistent, htrack⟩ | hanswer
  swap
  · exact Or.inr (hanswered _ hanswer)
  cases hnone : (s.readers i).answer? with
  | some b =>
      -- it has its answer, from this database
      refine Or.inr (hanswered _ ?_)
      rw [hnone]
      cases hi : s.readers i with
      | computed r' v b' | returned r' b' =>
          rw [hi] at htrack hnone
          obtain rfl : b' = b := Option.some.inj hnone
          rw [show b' = m.compute s.db r from htrack, hdb]
      | _ =>
          rw [hi] at hnone
          cases hnone
  | none =>
      have hcommit : ∀ db' more, e ≠ .commit db' more := by
        intro db' more he
        exact hquiet db' more he hnone
      refine Or.inl ⟨by rw [db_step hcommit, hdb], hsettled.step hcommit,
        consistent_step hconsistent e, ?_⟩
      by_cases hread : e = .read i
      · subst hread
        exact htrack.read hconsistent hsettled
      · rw [readers_step hcall hread]
        exact htrack.of_other hcommit

/-- A run, for a reader at work. -/
theorem serves_run {db : δ} {i : ℕ} {r : ρ} (h : Serves m db i r s)
    {w : List (CacheEvent δ ρ κ)} (hcalls : ∀ e ∈ w, ∀ r', e ≠ .call i r')
    (hquiet : Along (step m) (QuietFor i) s w) :
    Serves m db i r (run (step m) s w) := by
  induction w generalizing s with
  | nil => exact h
  | cons e w ih =>
      rw [List.forall_mem_cons] at hcalls
      exact ih (serves_step h hcalls.1 hquiet.1) hcalls.2 hquiet.2

/-- **What a reader may rely on.**  A reader that starts when the writers are done, and before
whose answer nothing else commits, returns the answer that the database gives. -/
theorem answer_of_run (h : s.Consistent m) (hsettled : s.Settled) {i : ℕ} {r : ρ}
    {w : List (CacheEvent δ ρ κ)} (hcalls : ∀ e ∈ w, ∀ r', e ≠ .call i r')
    (hquiet : Along (step m) (QuietFor i) (s.step m (.call i r)) w) {r' : ρ} {b : β}
    (hreturned : (run (step m) (s.step m (.call i r)) w).readers i = .returned r' b) :
    b = m.compute s.db r := by
  have hstart : Serves m s.db i r (s.step m (.call i r)) := by
    refine Or.inl ⟨rfl, hsettled, consistent_step h _, ?_⟩
    simp [step, CacheState.setReader, OnTrack]
  rcases serves_run hstart hcalls hquiet with ⟨hdb, -, -, htrack⟩ | hanswer
  · rw [hreturned] at htrack
    rw [show b = m.compute _ r from htrack, hdb]
  · rw [hreturned] at hanswer
    exact Option.some.inj hanswer

end CacheState

end

end DcimBackend.Library
