import CratonHsm.Abi.Calls
import CratonHsm.Abi.Instances

/-!
# Forks

The memory of a process is its statics and threads with the contents of the instances it has made.
A fork copies it: the child has another process id and the forking thread, with its cache, as its
first thread, and calls of the child act on the copy.

What a forked child should meet is `ForkSafe`: while it has not called `C_Initialize` its calls
answer `CKR_CRYPTOKI_NOT_INITIALIZED`, and `C_Initialize` gives it an instance of its own that knows
nothing of the parent. The child inherits the static `HSM` as well, so `C_Initialize` finds an
instance and answers `CKR_CRYPTOKI_ALREADY_INITIALIZED`: no child of an initialised parent is served
so (`forkSafe_iff`).

A child has no audit worker for an instance it inherits. Dropping the last reference to the instance
joins the worker, which panics, and the call answers `CKR_GENERAL_ERROR` (`losesWorker`).

Scope. Files are shared by the two processes and take no part. A call that only reports is a
function of the instance it reads.
-/

set_option autoImplicit false

namespace CratonHsm

open Crypto.Encrypt Library

/-! ### Calls of a process -/

/-- A process with the contents of its instances, the number of those that it inherited, and the
references to them in caches of threads that it did not inherit. -/
structure ProcessMemory where
  process : Process
  cores : List Hsm
  inherited : Nat
  leaked : List Nat

/-- What a successful `C_Initialize` reads and draws. -/
structure InitEnv where
  config : HsmConfig
  disk : Disk
  draw : InitDraw

/-- A call of a process: the two that manage the instance, `C_GetInfo`, a call that only reports on
the instance, or one that works on it. -/
inductive ProcessCall where
  | cInitialize (startup : Startup) (env : InitEnv)
  | cFinalize
  | cGetInfo
  | report (answer : Hsm → Except CkRv Reply)
  | entry (env : CallEnv) (call : Call)

/-- The call is `C_Initialize`. -/
def ProcessCall.isInitialize : ProcessCall → Bool
  | .cInitialize _ _ => true
  | _ => false

namespace ProcessMemory

/-- A process that has loaded the library. -/
def start (pid threads : Nat) : ProcessMemory := ⟨.start pid threads, [], 0, []⟩

/-- The cipher tables of the process, which outlive its instances. -/
def statics (m : ProcessMemory) : CipherStatics :=
  (m.cores.getLast?.map Hsm.statics).getD .empty

/-- `CACHED_HSM` of a thread. -/
def cachedOf (m : ProcessMemory) (thread : Nat) : Option (Nat × BitVec 64) :=
  m.process.threads[thread]?.bind Thread.cached

/-- `C_Initialize`. -/
def cInitialize (m : ProcessMemory) (startup : Startup) (env : InitEnv) :
    Except CkRv Reply × ProcessMemory :=
  match m.process.cInitialize startup with
  | (.error rv, process) => (.error rv, { m with process := process })
  | (.ok (), process) => (.ok .done, { m with
      process := process
      cores := m.cores ++ [.cInitialize env.config env.disk m.statics env.draw] })

/-- The references to an instance: of the static, the caches of the threads, and lost caches. -/
def references (m : ProcessMemory) (core : Nat) : Nat :=
  (m.process.hsm.toList ++ m.process.threads.filterMap (·.cached.map Prod.fst) ++
    m.leaked).count core

/-- The last reference to an inherited instance is dropped between the two. -/
def losesWorker (before after : ProcessMemory) : Bool :=
  (List.range before.inherited).any fun core ↦
    0 < before.references core && after.references core == 0

/-- A call that works on the instance `get_hsm` returns, which may drop another one from the cache
of the thread. `refusal` is what the call makes of an error of `get_hsm`. -/
def onInstance (m : ProcessMemory) (thread : Nat) (refusal : CkRv → CkRv)
    (use : Hsm → Except CkRv Reply × Hsm) : Except CkRv Reply × ProcessMemory :=
  let (found, process) := m.process.getHsm thread (m.cachedOf thread)
  let entered := { m with process := process }
  if m.losesWorker entered then (.error .generalError, entered)
  else
    match found with
    | .error rv => (.error (refusal rv), entered)
    | .ok core =>
      match m.cores[core]? with
      | none => (.error .generalError, entered)
      | some hsm =>
        let (result, hsm) := use hsm
        (result, { m with
          process := { process with postFailed := hsm.postFailed }
          cores := m.cores.set core hsm })

/-- A call by a thread. `C_GetInfo` has one answer for every refusal of `get_hsm`. -/
def call (platform : Platform) (m : ProcessMemory) (thread : Nat) :
    ProcessCall → Except CkRv Reply × ProcessMemory
  | .cInitialize startup env => m.cInitialize startup env
  | .cFinalize =>
    let (result, process) := m.process.cFinalize thread
    let finalized := { m with process := process }
    (if m.losesWorker finalized then .error .generalError else result.map fun _ ↦ .done, finalized)
  | .cGetInfo => m.onInstance thread (fun _ ↦ .cryptokiNotInitialized) fun hsm ↦ (.ok .done, hsm)
  | .report answer => m.onInstance thread id fun hsm ↦ (answer hsm, hsm)
  | .entry env call => m.onInstance thread id fun hsm ↦ call.entry platform env hsm

/-- The memory after a run of calls by any threads. -/
def run (platform : Platform) (m : ProcessMemory) (calls : List (Nat × ProcessCall)) :
    ProcessMemory :=
  calls.foldl (fun m label ↦ (m.call platform label.1 label.2).2) m

end ProcessMemory

/-! ### Parent and child -/

/-- A parent and its child. -/
structure Forked where
  parent : ProcessMemory
  child : ProcessMemory

variable (platform : Platform) (w : Forked) (parent : ProcessMemory) (thread : Nat)

/-- `fork` in thread `thread`: the child has its cache, and `spawned` threads it starts later. The
caches of the other threads keep their references. -/
def ProcessMemory.fork (childPid spawned : Nat) : Forked :=
  ⟨parent, {
    process := { parent.process with
      pid := childPid
      threads := ⟨parent.cachedOf thread, .idle⟩ :: List.replicate spawned ⟨none, .idle⟩ }
    cores := parent.cores
    inherited := parent.cores.length
    leaked := parent.leaked ++
      (parent.process.threads.eraseIdx thread).filterMap (·.cached.map Prod.fst) }⟩

/-- A call of the child. -/
def Forked.childCall (label : Nat × ProcessCall) : Except CkRv Reply × Forked :=
  let (result, child) := w.child.call platform label.1 label.2
  (result, ⟨w.parent, child⟩)

/-- The two processes after a call of the child. -/
def Forked.childStep (label : Nat × ProcessCall) : Forked :=
  (w.childCall platform label).2

/-- The child is told that the library is not initialised. -/
def Forked.Refused (label : Nat × ProcessCall) : Prop :=
  (w.childCall platform label).1 = .error .cryptokiNotInitialized

/-- No session, no object and nobody logged in. -/
structure Hsm.Blank (s : Hsm) : Prop where
  sessions : s.sessionManager.sessions = ∅
  objects : s.objectStore.objects = .empty
  logins : ∀ slot ∈ s.slots, slot.token.auth.login = .publicState

/-- The child has an instance that was not there when it was forked. -/
def Forked.HasOwnInstance (inherited : Nat) : Prop :=
  ∃ core hsm, w.child.process.hsm = some core ∧ inherited ≤ core ∧
    w.child.cores[core]? = some hsm ∧ hsm.Blank

/-- What a fork of an initialised parent should give: the calls of the child are refused until it
calls `C_Initialize`, which with self-tests that pass and a valid configuration answers `CKR_OK` and
gives the child an instance of its own, and the parent stays as it is. -/
def ForkSafe (childPid spawned : Nat) : Prop :=
  parent.process.hsm.isSome → ∀ calls : List (Nat × ProcessCall),
    (∀ label ∈ calls, label.2.isInitialize = false) →
      let forked := parent.fork thread childPid spawned
      let before := calls.foldl (Forked.childStep platform) forked
      FoldMeets (Forked.childStep platform) (Forked.Refused platform) forked calls ∧
        before.parent = parent ∧
        ∀ caller env,
          let answer := before.childCall platform (caller, .cInitialize .ready env)
          answer.1 = .ok .done ∧ answer.2.parent = parent ∧
            answer.2.HasOwnInstance parent.cores.length

theorem childCall_cInitialize {platform : Platform} {parent : ProcessMemory}
    {thread childPid spawned : Nat} (hsome : parent.process.hsm.isSome) {caller : Nat}
    {startup : Startup} {env : InitEnv} :
    ((parent.fork thread childPid spawned).childCall platform
      (caller, .cInitialize startup env)).1 = .error .cryptokiAlreadyInitialized := by
  simp only [Forked.childCall, ProcessMemory.call, ProcessMemory.cInitialize, Process.cInitialize,
    ProcessMemory.fork, hsome, if_true]

theorem not_forkSafe {platform : Platform} {parent : ProcessMemory} {thread childPid spawned : Nat}
    (hsome : parent.process.hsm.isSome) : ¬ForkSafe platform parent thread childPid spawned := by
  intro hsafe
  obtain ⟨env⟩ : Nonempty InitEnv := ⟨.singleSlot false, .blank, .sample⟩
  have hempty : ∀ label ∈ ([] : List (Nat × ProcessCall)), label.2.isInitialize = false := by
    simp
  obtain ⟨-, -, hanswers⟩ := hsafe hsome [] hempty
  have hok := (hanswers 0 env).1
  rw [List.foldl_nil, childCall_cInitialize hsome] at hok
  cases hok

/-- No child of an initialised parent is served as it should be: the instance it inherits makes
`C_Initialize` answer `CKR_CRYPTOKI_ALREADY_INITIALIZED`. -/
theorem forkSafe_iff (childPid spawned : Nat) :
    ForkSafe platform parent thread childPid spawned ↔ parent.process.hsm = none := by
  constructor
  · intro hsafe
    by_contra hsome
    exact not_forkSafe (Option.isSome_iff_ne_none.mpr hsome) hsafe
  · intro hnone hsome
    rw [hnone] at hsome
    cases hsome

/-- A parent that has only called `C_Initialize`. -/
def initializedParent : ProcessMemory :=
  ((ProcessMemory.start 7 1).run (.recorded [] [])
    [(0, .cInitialize .ready ⟨.singleSlot false, .blank, .sample⟩)])

/-- After a fork the child cannot initialise the library: it is told that this has been done. -/
theorem initializedParent_not_forkSafe :
    initializedParent.process.hsm = some 0 ∧
    ((initializedParent.fork 0 8 0).childCall (.recorded [] [])
        (0, .cInitialize .ready ⟨.singleSlot false, .blank, .sample⟩)).1 =
      .error .cryptokiAlreadyInitialized ∧
    ¬ForkSafe (.recorded [] []) initializedParent 0 8 0 :=
  ⟨rfl, childCall_cInitialize rfl, not_forkSafe rfl⟩

end CratonHsm
