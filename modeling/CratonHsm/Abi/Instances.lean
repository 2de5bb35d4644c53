import CratonHsm.Error
import CratonHsm.Library.StepSystem

/-!
# Instances of the library in one process

`C_Initialize` installs a new instance in the static `HSM` and `C_Finalize` takes it out again; both
hold its lock and bump the generation. `get_hsm` reads the generation, looks in the cache of its
thread, reads the static when the cache has no entry of that generation, and fills the cache. Any
number of threads take these steps in any order. An instance is named by the number of those made
before it, and the history lists the installations and removals in order, so its length counts the
bumps of the generation.

The history is the alternating one (`lifecycleAt`), an entry of a cache was labelled with a
generation no later than the end of its instance, and a `get_hsm` reads a generation no earlier than
its start (`Process.Sound`). While the generation has not wrapped, a `get_hsm` therefore returns no
instance that had been removed when it started (`getHsm_returns_later_instance`). After `2 ^ 64`
bumps it may (`getHsm_returns_otherwise`).

Scope. The code holds the lock from the read of the static until the cache is filled; here other
threads may run in between. The tests of `POST_FAILED` and `INIT_PID` are one step with the start of
the call.
-/

set_option autoImplicit false

namespace CratonHsm

open Library

variable {currentGen : BitVec 64} {cached : Option (Nat × BitVec 64)}

/-! ### Processes -/

/-- A successful `C_Initialize` or `C_Finalize`, with its instance. -/
inductive Lifecycle where
  | installed (core : Nat)
  | finalized (core : Nat)
  deriving DecidableEq

/-- Where a thread stands in `get_hsm`. `started` is the length of the history when the call
started. -/
inductive Stage where
  | idle
  | entered (started : Nat)
  | atGeneration (started : Nat) (currentGen : BitVec 64)
  | missed (started : Nat) (currentGen : BitVec 64)
  | found (started : Nat) (currentGen : BitVec 64) (core : Nat)
  deriving DecidableEq

/-- A thread with its `CACHED_HSM`. -/
structure Thread where
  cached : Option (Nat × BitVec 64)
  stage : Stage
  deriving DecidableEq

/-- What a `get_hsm` returned, and what it met when it started. -/
structure Answer where
  started : Nat
  postFailed : Bool
  result : Except CkRv Nat

/-- The statics of a process and its threads, with what the instances have gone through and what
the calls of `get_hsm` have returned. -/
structure Process where
  pid : Nat
  hsm : Option Nat
  postFailed : Bool
  generation : BitVec 64
  initPid : Nat
  threads : List Thread
  made : Nat
  history : List Lifecycle
  answers : List Answer

/-- A process that has loaded the library. -/
def Process.start (pid threads : Nat) : Process :=
  ⟨pid, none, false, 0, 0, List.replicate threads ⟨none, .idle⟩, 0, [], []⟩

/-- What `C_Initialize` meets: the outcome of the self-tests and of reading the configuration. -/
inductive Startup where
  | selfTestFails
  | configInvalid
  | ready
  deriving DecidableEq

variable (p : Process) (thread : Nat)

/-- `C_Initialize`. -/
def Process.cInitialize (startup : Startup) : Except CkRv Unit × Process :=
  if p.hsm.isSome then (.error .cryptokiAlreadyInitialized, p)
  else
    match startup with
    | .selfTestFails => (.error .generalError, { p with postFailed := true })
    | .configInvalid => (.error .generalError, { p with postFailed := false })
    | .ready => (.ok (), { p with
        hsm := some p.made
        postFailed := false
        generation := p.generation + 1
        initPid := p.pid
        made := p.made + 1
        history := p.history ++ [.installed p.made] })

/-- Thread `thread` moves on to `next`. -/
def Process.setThread (next : Thread) : Process :=
  { p with threads := p.threads.set thread next }

/-- `C_Finalize`, called by thread `thread` without arguments. -/
def Process.cFinalize : Except CkRv Unit × Process :=
  match p.hsm with
  | none => (.error .cryptokiNotInitialized, p)
  | some core => (.ok (), { p with
      hsm := none
      generation := p.generation + 1
      initPid := 0
      threads := p.threads.set thread ⟨none, .idle⟩
      history := p.history ++ [.finalized core] })

/-- Thread `thread` returns from `get_hsm`. -/
def Process.answer (p : Process) (thread : Nat) (cached : Option (Nat × BitVec 64))
    (answer : Answer) : Process :=
  { p.setThread thread ⟨cached, .idle⟩ with answers := p.answers ++ [answer] }

/-- What a thread may do next: a call, a self-test of a new key pair that fails, or an access of
`get_hsm`. -/
inductive Action where
  | cInitialize (startup : Startup)
  | cFinalize
  | failSelfTest
  | enter
  | readGeneration
  | lookUp
  | readGlobal
  | fillCache
  deriving DecidableEq

/-- The start of `get_hsm`: its tests of `POST_FAILED` and `INIT_PID`. -/
def Process.enter (cached : Option (Nat × BitVec 64)) : Process :=
  let started := p.history.length
  if p.postFailed then p.answer thread cached ⟨started, true, .error .generalError⟩
  else if p.initPid ≠ 0 ∧ p.initPid ≠ p.pid then
    p.answer thread none ⟨started, false, .error .cryptokiNotInitialized⟩
  else p.setThread thread ⟨cached, .entered started⟩

/-- The look in the cache: an entry counts when its generation is the one just read. -/
def Process.lookUp (cached : Option (Nat × BitVec 64)) (started : Nat) (currentGen : BitVec 64) :
    Process :=
  match cached with
  | some (core, generation) =>
    if generation = currentGen then p.answer thread cached ⟨started, false, .ok core⟩
    else p.setThread thread ⟨cached, .missed started currentGen⟩
  | none => p.setThread thread ⟨cached, .missed started currentGen⟩

/-- The read of the static. -/
def Process.readGlobal (cached : Option (Nat × BitVec 64)) (started : Nat) (currentGen : BitVec 64)
    : Process :=
  match p.hsm with
  | none => p.answer thread cached ⟨started, false, .error .cryptokiNotInitialized⟩
  | some core => p.setThread thread ⟨cached, .found started currentGen core⟩

/-- A thread at `stage` takes a step. -/
def Process.act (cached : Option (Nat × BitVec 64)) : Stage → Action → Option Process
  | .idle, .cInitialize startup => some (p.cInitialize startup).2
  | .idle, .cFinalize => some (p.cFinalize thread).2
  | .idle, .failSelfTest => some { p with postFailed := true }
  | .idle, .enter => some (p.enter thread cached)
  | .entered started, .readGeneration =>
    some (p.setThread thread ⟨cached, .atGeneration started p.generation⟩)
  | .atGeneration started currentGen, .lookUp => some (p.lookUp thread cached started currentGen)
  | .missed started currentGen, .readGlobal =>
    some (p.readGlobal thread cached started currentGen)
  | .found started currentGen core, .fillCache =>
    some (p.answer thread (some (core, currentGen)) ⟨started, false, .ok core⟩)
  | _, _ => none

/-- A step of a process: a thread and what it does. -/
def Process.step (label : Nat × Action) : Option Process :=
  p.threads[label.1]?.bind fun thread ↦ p.act label.1 thread.cached thread.stage label.2

/-- `get_hsm` of an idle thread that no other thread disturbs. -/
def Process.getHsm (cached : Option (Nat × BitVec 64)) : Except CkRv Nat × Process :=
  if p.postFailed then (.error .generalError, p)
  else if p.initPid ≠ 0 ∧ p.initPid ≠ p.pid then
    (.error .cryptokiNotInitialized, p.setThread thread ⟨none, .idle⟩)
  else
    match cached.filter fun entry ↦ entry.2 = p.generation with
    | some (core, _) => (.ok core, p)
    | none =>
      match p.hsm with
      | none => (.error .cryptokiNotInitialized, p)
      | some core => (.ok core, p.setThread thread ⟨some (core, p.generation), .idle⟩)

namespace Process

variable {p : Process} {thread : Nat} {cached : Option (Nat × BitVec 64)} {stage : Stage}

theorem step_eq_act (h : p.threads[thread]? = some ⟨cached, stage⟩) (action : Action) :
    p.step (thread, action) = p.act thread cached stage action := by
  simp [step, h]

theorem getElem?_setThread (h : p.threads[thread]? = some ⟨cached, stage⟩) (next : Thread) :
    (p.setThread thread next).threads[thread]? = some next :=
  List.getElem?_set_self (List.getElem?_eq_some_iff.mp h).1

variable (next : Thread)

@[simp]
theorem setThread_setThread (last : Thread) :
    (p.setThread thread next).setThread thread last = p.setThread thread last := by
  simp [setThread]

theorem setThread_self {next : Thread} (h : p.threads[thread]? = some next) :
    p.setThread thread next = p := by
  obtain ⟨hlt, rfl⟩ := List.getElem?_eq_some_iff.mp h
  simp [setThread]

@[simp]
theorem answer_setThread (answer : Answer) :
    (p.setThread thread next).answer thread cached answer = p.answer thread cached answer := by
  simp [setThread, Process.answer]

theorem answer_self (h : p.threads[thread]? = some ⟨cached, .idle⟩) (answer : Answer) :
    p.answer thread cached answer = { p with answers := p.answers ++ [answer] } := by
  rw [Process.answer, setThread_self h]

@[simp]
theorem setThread_generation : (p.setThread thread next).generation = p.generation := rfl

@[simp]
theorem setThread_hsm : (p.setThread thread next).hsm = p.hsm := rfl

@[simp]
theorem setThread_answers : (p.setThread thread next).answers = p.answers := rfl

/-- A thread that has moved on goes on from where it stands. -/
theorem step_setThread (h : p.threads[thread]? = some ⟨cached, stage⟩) (next : Thread)
    (action : Action) : (p.setThread thread next).step (thread, action) =
      (p.setThread thread next).act thread next.cached next.stage action :=
  step_eq_act (getElem?_setThread h next) action

/-- A look in a cache without an entry of the generation. -/
theorem lookUp_missed (started : Nat)
    (hmissed : (cached.filter fun entry ↦ entry.2 = currentGen) = none) :
    p.lookUp thread cached started currentGen =
      p.setThread thread ⟨cached, .missed started currentGen⟩ := by
  cases cached with
  | none => rfl
  | some entry =>
    have hne : entry.2 ≠ currentGen := by simpa using hmissed
    exact if_neg hne

/-- The steps of a thread that runs alone make up `get_hsm`. -/
theorem runSteps_getHsm (h : p.threads[thread]? = some ⟨cached, .idle⟩) :
    ∃ actions : List Action, runSteps step p (actions.map (Prod.mk thread)) =
      some { (p.getHsm thread cached).2 with answers := p.answers ++
        [⟨p.history.length, p.postFailed, (p.getHsm thread cached).1⟩] } := by
  by_cases hpost : p.postFailed = true
  · refine ⟨[.enter], ?_⟩
    simp [runSteps, step_eq_act h, act, enter, getHsm, hpost,
      answer_self h]
  by_cases hpid : p.initPid ≠ 0 ∧ p.initPid ≠ p.pid
  · refine ⟨[.enter], ?_⟩
    simp [runSteps, step_eq_act h, act, enter, getHsm, hpost, hpid,
      answer]
  have henter : p.enter thread cached = p.setThread thread ⟨cached, .entered p.history.length⟩ := by
    simp [enter, hpost, hpid]
  cases hentry : cached.filter fun entry ↦ entry.2 = p.generation with
  | some entry =>
    obtain ⟨rfl, hgen⟩ := Option.filter_eq_some_iff.mp hentry
    have hget : p.getHsm thread (some entry) = (.ok entry.1, p) := by
      simp [getHsm, hpost, hpid, hentry]
    refine ⟨[.enter, .readGeneration, .lookUp], ?_⟩
    simp [runSteps, step_eq_act h, step_setThread h, act, henter, hget,
      lookUp, of_decide_eq_true hgen, answer_self h, hpost]
  | none =>
    cases hhsm : p.hsm with
    | none =>
      have hget : p.getHsm thread cached = (.error .cryptokiNotInitialized, p) := by
        simp [getHsm, hpost, hpid, hentry, hhsm]
      refine ⟨[.enter, .readGeneration, .lookUp, .readGlobal], ?_⟩
      simp [runSteps, step_eq_act h, step_setThread h, act, henter, hget,
        lookUp_missed _ hentry, readGlobal, hhsm, answer_self h, hpost]
    | some core =>
      have hget : p.getHsm thread cached =
          (.ok core, p.setThread thread ⟨some (core, p.generation), .idle⟩) := by
        simp [getHsm, hpost, hpid, hentry, hhsm]
      refine ⟨[.enter, .readGeneration, .lookUp, .readGlobal, .fillCache], ?_⟩
      simp [runSteps, step_eq_act h, step_setThread h, act, henter, hget,
        lookUp_missed _ hentry, readGlobal, hhsm, answer, hpost]

end Process

/-! ### What every process keeps -/

/-- The entry of the history at a position: instances are installed and removed one after the
other. -/
def lifecycleAt (i : Nat) : Lifecycle :=
  if i % 2 = 0 then .installed (i / 2) else .finalized (i / 2)

/-- The generation that labels an instance was current no later than the instance itself, which was
until the history had length `2 * core + 1`. -/
def LabelledBefore (generation : BitVec 64) (core : Nat) : Prop :=
  ∃ n, generation = BitVec.ofNat 64 n ∧ n ≤ 2 * core + 1

/-- A call that started when the history had length `started` has met `core` in place, and the
history now has length `length`. -/
def InPlaceSince (started core length : Nat) : Prop :=
  started ≤ 2 * core + 1 ∧ 2 * core + 1 ≤ length

/-- What holds of a thread in `get_hsm` when the history has length `length`. -/
def Stage.Sound (length : Nat) : Stage → Prop
  | .idle => True
  | .entered started => started ≤ length
  | .atGeneration started currentGen | .missed started currentGen =>
    ∃ n, currentGen = BitVec.ofNat 64 n ∧ started ≤ n ∧ n ≤ length
  | .found started currentGen core =>
    LabelledBefore currentGen core ∧ InPlaceSince started core length

/-- What holds of a cache. -/
def CacheSound (length : Nat) (cached : Option (Nat × BitVec 64)) : Prop :=
  ∀ core generation, cached = some (core, generation) →
    LabelledBefore generation core ∧ 2 * core + 1 ≤ length

/-- What holds of an answer. -/
def Answer.Sound (length : Nat) (answer : Answer) : Prop :=
  match answer.result with
  | .error rv => rv = .cryptokiNotInitialized ∨ answer.postFailed = true ∧ rv = .generalError
  | .ok core => length < 2 ^ 64 → InPlaceSince answer.started core length

/-- What every process keeps. -/
structure Process.Sound (p : Process) : Prop where
  generation_eq : p.generation = BitVec.ofNat 64 p.history.length
  history_eq : p.history = (List.range p.history.length).map lifecycleAt
  current : p.hsm.elim (p.history.length = 2 * p.made)
    fun core ↦ p.history.length = 2 * core + 1 ∧ p.made = core + 1
  caches : ∀ thread ∈ p.threads, CacheSound p.history.length thread.cached
  stages : ∀ thread ∈ p.threads, thread.stage.Sound p.history.length
  answers : ∀ answer ∈ p.answers, answer.Sound p.history.length

section Length

variable {length later : Nat}

theorem InPlaceSince.mono {started core : Nat} (hle : length ≤ later)
    (h : InPlaceSince started core length) : InPlaceSince started core later :=
  ⟨h.1, h.2.trans hle⟩

theorem Stage.Sound.mono {stage : Stage} (hle : length ≤ later) (h : stage.Sound length) :
    stage.Sound later := by
  cases stage with
  | idle => trivial
  | entered started => exact h.trans hle
  | atGeneration started currentGen | missed started currentGen =>
    obtain ⟨n, hn, hstarted, hlength⟩ := h
    exact ⟨n, hn, hstarted, hlength.trans hle⟩
  | found started currentGen core => exact ⟨h.1, h.2.mono hle⟩

theorem CacheSound.mono (hle : length ≤ later) (h : CacheSound length cached) :
    CacheSound later cached :=
  fun core generation hcached ↦
    ⟨(h core generation hcached).1, (h core generation hcached).2.trans hle⟩

theorem Answer.Sound.mono {answer : Answer} (hle : length ≤ later) (h : answer.Sound length) :
    answer.Sound later := by
  unfold Answer.Sound at h ⊢
  split at h
  · exact h
  · exact fun hlater ↦ (h (hle.trans_lt hlater)).mono hle

theorem CacheSound.none (length : Nat) : CacheSound length none := nofun

end Length

namespace Process.Sound

variable {p : Process} {thread : Nat}

theorem start (pid threads : Nat) : (Process.start pid threads).Sound where
  generation_eq := rfl
  history_eq := rfl
  current := rfl
  caches := by
    intro t ht
    rw [List.eq_of_mem_replicate ht]
    exact .none 0
  stages := by
    intro t ht
    rw [List.eq_of_mem_replicate ht]
    trivial
  answers := nofun

variable (h : p.Sound)
include h

/-- A thread moves on. -/
theorem setThread (next : Thread) (hcached : CacheSound p.history.length next.cached)
    (hstage : next.stage.Sound p.history.length) : (p.setThread thread next).Sound :=
  { h with
    caches t ht := (List.mem_or_eq_of_mem_set ht).elim (h.caches t) fun heq ↦ heq ▸ hcached
    stages t ht := (List.mem_or_eq_of_mem_set ht).elim (h.stages t) fun heq ↦ heq ▸ hstage }

/-- A thread returns from `get_hsm`. -/
theorem answer {answer : Answer} (hcached : CacheSound p.history.length cached)
    (hanswer : answer.Sound p.history.length) : (p.answer thread cached answer).Sound :=
  { h.setThread ⟨cached, .idle⟩ hcached trivial with
    answers a ha := (List.mem_append.mp ha).elim (h.answers a) fun ha ↦
      List.mem_singleton.mp ha ▸ hanswer }

/-- Self-tests do not touch what is kept. -/
theorem setPostFailed (postFailed : Bool) : { p with postFailed := postFailed }.Sound := { h with }

/-- The history grows by its next entry, with a bump of the generation. Threads stay or leave their
caches. -/
theorem bump {q : Process} (hgeneration : q.generation = p.generation + 1)
    (hhistory : q.history = p.history ++ [lifecycleAt p.history.length])
    (hcurrent : q.hsm.elim (p.history.length + 1 = 2 * q.made)
      fun core ↦ p.history.length + 1 = 2 * core + 1 ∧ q.made = core + 1)
    (hthreads : ∀ t ∈ q.threads, t ∈ p.threads ∨ t = ⟨none, .idle⟩)
    (hanswers : q.answers = p.answers) : q.Sound := by
  have hlength : q.history.length = p.history.length + 1 := by simp [hhistory]
  have hle : p.history.length ≤ q.history.length := by omega
  constructor
  · rw [hgeneration, h.generation_eq, hlength, BitVec.ofNat_add]
    rfl
  · rw [hlength, List.range_succ, List.map_append, ← h.history_eq]
    exact hhistory
  · rw [hlength]
    exact hcurrent
  · intro t ht
    rcases hthreads t ht with hold | rfl
    · exact (h.caches t hold).mono hle
    · exact .none _
  · intro t ht
    rcases hthreads t ht with hold | rfl
    · exact (h.stages t hold).mono hle
    · trivial
  · intro a ha
    exact (h.answers a (hanswers ▸ ha)).mono hle

theorem cInitialize (startup : Startup) : (p.cInitialize startup).2.Sound := by
  unfold Process.cInitialize
  split
  · exact h
  · rename_i hhsm
    rw [Bool.not_eq_true, Option.isSome_eq_false_iff, Option.isNone_iff_eq_none] at hhsm
    have hlength : p.history.length = 2 * p.made := by simpa [hhsm] using h.current
    cases startup with
    | selfTestFails => exact h.setPostFailed true
    | configInvalid => exact h.setPostFailed false
    | ready =>
      refine h.bump rfl ?_ ⟨by rw [hlength], rfl⟩ (fun t ht ↦ .inl ht) rfl
      have hat : lifecycleAt p.history.length = .installed p.made := by simp [lifecycleAt, hlength]
      rw [hat]

theorem cFinalize : (p.cFinalize thread).2.Sound := by
  unfold Process.cFinalize
  cases hhsm : p.hsm with
  | none => exact h
  | some core =>
    obtain ⟨hlength, hmade⟩ : p.history.length = 2 * core + 1 ∧ p.made = core + 1 := by
      simpa [hhsm] using h.current
    refine h.bump rfl ?_ ?_ (fun t ht ↦ List.mem_or_eq_of_mem_set ht) rfl
    · have hat : lifecycleAt p.history.length = .finalized core := by
        rw [hlength, lifecycleAt, if_neg (by omega)]
        congr 1
        omega
      rw [hat]
    · change p.history.length + 1 = 2 * p.made
      omega

section Cached

variable (hcached : CacheSound p.history.length cached)
include hcached

theorem enter : (p.enter thread cached).Sound := by
  unfold Process.enter
  split_ifs with hpost hpid
  · exact h.answer hcached (.inr ⟨rfl, rfl⟩)
  · exact h.answer (.none _) (.inl rfl)
  · exact h.setThread _ hcached le_rfl

/-- An entry of the cache that counts: without a wrap its label is the generation just read, so its
instance was still in place when the call started. -/
theorem lookUp {started : Nat}
    (hstage : (Stage.atGeneration started currentGen).Sound p.history.length) :
    (p.lookUp thread cached started currentGen).Sound := by
  unfold Process.lookUp
  split
  · rename_i core generation
    split_ifs with hgen
    · refine h.answer hcached fun hlt ↦ ?_
      obtain ⟨⟨label, hlabel, hle⟩, hmade⟩ := hcached core generation rfl
      obtain ⟨n, hn, hstarted, hnow⟩ := hstage
      have hsame : label % 2 ^ 64 = n % 2 ^ 64 := by
        rw [← BitVec.toNat_ofNat, ← BitVec.toNat_ofNat, ← hlabel, ← hn, hgen]
      rw [Nat.mod_eq_of_lt (by omega), Nat.mod_eq_of_lt (by omega)] at hsame
      exact ⟨hstarted.trans (hsame ▸ hle), hmade⟩
    · exact h.setThread _ hcached hstage
  · exact h.setThread _ hcached hstage

theorem readGlobal {started : Nat}
    (hstage : (Stage.missed started currentGen).Sound p.history.length) :
    (p.readGlobal thread cached started currentGen).Sound := by
  unfold Process.readGlobal
  cases hhsm : p.hsm with
  | none => exact h.answer hcached (.inl rfl)
  | some core =>
    obtain ⟨hlength, -⟩ : p.history.length = 2 * core + 1 ∧ p.made = core + 1 := by
      simpa [hhsm] using h.current
    obtain ⟨n, hn, hstarted, hnow⟩ := hstage
    exact h.setThread _ hcached ⟨⟨n, hn, by omega⟩, by omega, by omega⟩

theorem act {stage : Stage} {action : Action} {q : Process} (hstage : stage.Sound p.history.length)
    (hact : p.act thread cached stage action = some q) : q.Sound := by
  unfold Process.act at hact
  split at hact
  · exact Option.some.inj hact ▸ h.cInitialize _
  · exact Option.some.inj hact ▸ h.cFinalize
  · exact Option.some.inj hact ▸ h.setPostFailed true
  · exact Option.some.inj hact ▸ h.enter hcached
  · exact Option.some.inj hact ▸ h.setThread _ hcached ⟨_, h.generation_eq, hstage, le_rfl⟩
  · exact Option.some.inj hact ▸ h.lookUp hcached hstage
  · exact Option.some.inj hact ▸ h.readGlobal hcached hstage
  · refine Option.some.inj hact ▸ h.answer ?_ fun _ ↦ hstage.2
    rintro core generation ⟨⟩
    exact ⟨hstage.1, hstage.2.2⟩
  · cases hact

end Cached

theorem step {label : Nat × Action} {q : Process} (hstep : p.step label = some q) : q.Sound := by
  obtain ⟨thread, hthread, hact⟩ := Option.bind_eq_some_iff.mp hstep
  have hmem := List.mem_of_getElem? hthread
  exact h.act (h.caches thread hmem) (h.stages thread hmem) hact

end Process.Sound

variable {pid threads i : Nat} {labels : List (Nat × Action)}

/-- What is kept holds after every run. -/
theorem Process.sound_of_run {p : Process}
    (hrun : runSteps Process.step (Process.start pid threads) labels = some p) : p.Sound :=
  runSteps_preserves (fun _ _ _ h hstep ↦ h.step hstep) labels _ p (.start pid threads) hrun

/-! ### No call uses a removed instance -/

theorem Process.Sound.getElem?_history {p : Process} (h : p.Sound) (hi : i < p.history.length) :
    p.history[i]? = some (lifecycleAt i) := by
  rw [h.history_eq, List.getElem?_map, List.getElem?_range hi]
  rfl

/-- In every run of any threads, as long as fewer than `2 ^ 64` calls of `C_Initialize` and
`C_Finalize` have succeeded: a `get_hsm` that started after the `C_Finalize` of `core` has not
returned `core`. It has returned that the library is not initialised, or a general error because
self-tests had failed when it started, or an instance that a `C_Initialize` after that `C_Finalize`
installed. -/
theorem getHsm_returns_later_instance {p : Process}
    (hrun : runSteps Process.step (Process.start pid threads) labels = some p)
    (hcount : p.history.length < 2 ^ 64) {answer : Answer} (hanswer : answer ∈ p.answers)
    {core : Nat} (hi : i < answer.started) (hcore : p.history[i]? = some (.finalized core)) :
    answer.result ≠ .ok core ∧
      (answer.result = .error .cryptokiNotInitialized ∨
        answer.postFailed = true ∧ answer.result = .error .generalError ∨
        ∃ j later, i < j ∧ p.history[j]? = some (.installed later) ∧
          answer.result = .ok later) := by
  have hsound := Process.sound_of_run hrun
  have hat := hsound.getElem?_history (List.getElem?_eq_some_iff.mp hcore).1
  have hanswer := hsound.answers answer hanswer
  unfold Answer.Sound at hanswer
  cases hresult : answer.result with
  | error rv =>
    rw [hresult] at hanswer
    refine ⟨nofun, ?_⟩
    rcases hanswer with rfl | ⟨hpost, rfl⟩
    · exact .inl rfl
    · exact .inr (.inl ⟨hpost, rfl⟩)
  | ok later =>
    rw [hresult] at hanswer
    obtain ⟨hstarted, hlater⟩ := hanswer hcount
    -- Removals stand at odd positions, and `later` was installed at position `2 * later`.
    have hodd : i = 2 * core + 1 := by
      rw [hcore, Option.some.injEq, lifecycleAt] at hat
      split_ifs at hat
      have := Lifecycle.finalized.inj hat
      omega
    refine ⟨fun heq ↦ ?_, .inr (.inr ⟨2 * later, later, by omega, ?_, rfl⟩)⟩
    · have := Except.ok.inj heq
      omega
    · rw [hsound.getElem?_history (by omega), lifecycleAt, if_pos (by omega)]
      congr 2
      omega

/-- Thread 1 uses the first instance and comes back when thread 0 has finalised the library and
initialised it again. -/
def restartedRun : List (Nat × Action) :=
  [(0, .cInitialize .ready), (1, .enter), (1, .readGeneration), (1, .lookUp), (1, .readGlobal),
    (1, .fillCache), (0, .cFinalize), (0, .cInitialize .ready), (1, .enter), (1, .readGeneration),
    (1, .lookUp), (1, .readGlobal), (1, .fillCache)]

/-- The second `get_hsm` of thread 1 started after the finalisation and does not return the instance
that was finalised. -/
theorem restartedRun_returns_second : ∃ p answer,
    runSteps Process.step (.start 7 2) restartedRun = some p ∧ answer ∈ p.answers ∧
      answer.started = 3 ∧ p.history[1]? = some (.finalized 0) ∧ answer.result ≠ .ok 0 := by
  have hrun : runSteps Process.step (.start 7 2) restartedRun = some _ := rfl
  refine ⟨_, ⟨3, false, .ok 1⟩, hrun, List.mem_cons_of_mem _ List.mem_cons_self, rfl, rfl, ?_⟩
  exact (getHsm_returns_later_instance hrun (by decide)
    (List.mem_cons_of_mem _ List.mem_cons_self) (by decide : 1 < 3) rfl).1

/-- Thread 0 initialises the library and finalises it, a number of times. -/
def cycles : Nat → List (Nat × Action)
  | 0 => []
  | count + 1 => (0, .cInitialize .ready) :: (0, .cFinalize) :: cycles count

/-- Cycles of a thread without a cache leave the threads as they are and bump the generation. -/
theorem runSteps_cycles (count : Nat) : ∀ p : Process, p.hsm = none → p.postFailed = false →
    p.initPid = 0 → p.threads[0]? = some ⟨none, .idle⟩ →
      ∃ q, runSteps Process.step p (cycles count) = some q ∧ q.hsm = none ∧
        q.postFailed = false ∧ q.initPid = 0 ∧ q.threads = p.threads ∧
        q.generation = p.generation + BitVec.ofNat 64 (2 * count) ∧ p.history <+: q.history := by
  induction count with
  | zero =>
    intro p hhsm hpost hpid _
    exact ⟨p, rfl, hhsm, hpost, hpid, rfl, by simp, List.prefix_rfl⟩
  | succ count ih =>
    intro p hhsm hpost hpid hthread
    have hsame : p.threads.set 0 ⟨none, .idle⟩ = p.threads := by
      obtain ⟨hlt, heq⟩ := List.getElem?_eq_some_iff.mp hthread
      rw [← heq, List.set_getElem_self]
    obtain ⟨q, hrun, hq, hqpost, hqpid, hthreads, hgeneration, hhistory⟩ := ih
      { p with
        generation := p.generation + 1 + 1
        made := p.made + 1
        history := p.history ++ [.installed p.made] ++ [.finalized p.made] } hhsm hpost hpid hthread
    refine ⟨q, ?_, hq, hqpost, hqpid, hthreads, ?_, ?_⟩
    · rw [← hrun]
      simp [cycles, runSteps, Process.step, Process.act, Process.cInitialize, Process.cFinalize,
        hthread, hhsm, hpost, hpid, hsame]
    · have htwo : p.generation + 1 + 1 = p.generation + BitVec.ofNat 64 2 := by
        rw [BitVec.add_assoc]
        rfl
      rw [hgeneration, Nat.mul_succ, Nat.add_comm (2 * count), BitVec.ofNat_add,
        ← BitVec.add_assoc, ← htwo]
    · rw [List.append_assoc] at hhistory
      exact (List.prefix_append _ _).trans hhistory

/-- Thread 1 reads the generation before the first initialisation and the static after it, and then
thread 0 goes through `count` more cycles. -/
def staleCacheRun (count : Nat) : List (Nat × Action) :=
  [(1, .enter), (1, .readGeneration), (0, .cInitialize .ready), (1, .lookUp), (1, .readGlobal),
    (1, .fillCache), (0, .cFinalize)] ++ cycles count

/-- The process when the first instance has ended: thread 1 has labelled it with generation 0. -/
def staleCacheProcess : Process :=
  ⟨7, none, false, 2, 0, [⟨none, .idle⟩, ⟨some (0, 0), .idle⟩], 1, [.installed 0, .finalized 0],
    [⟨0, false, .ok 0⟩]⟩

theorem runSteps_staleCacheRun (count : Nat) (labels : List (Nat × Action)) :
    runSteps Process.step (.start 7 2) (staleCacheRun count ++ labels) =
      (runSteps Process.step staleCacheProcess (cycles count)).bind
        fun p ↦ runSteps Process.step p labels := by
  rw [← runSteps_append]
  rfl

/-- Thread 1 calls `get_hsm` when the self-tests of a second initialisation have failed. -/
def failedSelfTestRun : List (Nat × Action) :=
  [(0, .cInitialize .ready), (0, .cFinalize), (0, .cInitialize .selfTestFails), (1, .enter)]

/-- A `get_hsm` that starts after the `C_Finalize` of the first instance: after `2 ^ 64` bumps of
the generation it returns that instance from its cache, and after self-tests that fail it returns a
general error. -/
theorem getHsm_returns_otherwise :
    (∃ labels p answer, runSteps Process.step (.start 7 2) labels = some p ∧
      answer ∈ p.answers ∧ 1 < answer.started ∧ p.history[1]? = some (.finalized 0) ∧
        answer.result = .ok 0) ∧
    ∃ labels p answer, runSteps Process.step (.start 7 2) labels = some p ∧
      answer ∈ p.answers ∧ 1 < answer.started ∧ p.history[1]? = some (.finalized 0) ∧
        answer.result = .error .generalError := by
  refine ⟨?_, failedSelfTestRun, _, ⟨2, true, .error .generalError⟩, rfl, List.mem_cons_self,
    by decide, rfl, rfl⟩
  obtain ⟨q, hcycles, -, hpost, hpid, hthreads, hgeneration, added, hhistory⟩ :=
    runSteps_cycles (2 ^ 63 - 1) staleCacheProcess rfl rfl rfl rfl
  -- `2 ^ 63` cycles in all bring the generation back to the one that labels the entry.
  have hwrapped : q.generation = 0 := by
    rw [hgeneration]
    decide
  have hthread : q.threads[1]? = some ⟨some (0, 0), .idle⟩ := by
    rw [hthreads]
    rfl
  have hget : q.getHsm 1 (some (0, 0)) = (.ok 0, q) := by
    simp [Process.getHsm, hpost, hpid, hwrapped, Option.filter]
  obtain ⟨actions, hrun⟩ := Process.runSteps_getHsm hthread
  rw [hget] at hrun
  refine ⟨staleCacheRun (2 ^ 63 - 1) ++ actions.map (Prod.mk 1),
    { q with answers := q.answers ++ [⟨q.history.length, q.postFailed, .ok 0⟩] },
    ⟨q.history.length, q.postFailed, .ok 0⟩, ?_, List.mem_append_right _ List.mem_cons_self, ?_, ?_,
    rfl⟩
  · rw [runSteps_staleCacheRun, hcycles]
    exact hrun
  · simp [← hhistory, staleCacheProcess]
  · rw [← hhistory]
    rfl

end CratonHsm
