import CratonHsm.Abi.LoginAgreement
import CratonHsm.Library.StepSystem
import CratonHsm.Session.Counts

/-!
# Session counters over whole runs

The session calls of the C interface over any slots, together with the two functions that close idle
sessions (`cleanup_idle_sessions`, `check_and_touch`) and the `init_token` of the daemon, which does
not close the sessions of the slot first. The counters of every token tell the truth after every run
in which no session is closed for being idle, the daemon initialises no token with open sessions,
and no session handle is issued twice (`counters_true_after_every_run`). The idle functions remove
sessions without telling the token, and `init_token` sets the counters to zero whatever is open.

The instants of a session's last activity are kept beside the library (`TimedLibrary`).

Scope. The daemon opens and closes sessions through the same functions as the C interface. Its
throttle of `init_token`, which only refuses requests, is left out.
-/

set_option autoImplicit false

namespace CratonHsm

open Crypto Library Store
open Std (ExtTreeMap)
open Program (ensures_require_iff)
open SessionManager

/-! ### Idle sessions -/

/-- The library, the idle timeout, and the instant of the last activity of each session. -/
structure TimedLibrary where
  hsm : Hsm
  idleTimeout : Nat
  lastActivity : ExtTreeMap Nat Nat

namespace TimedLibrary

variable (lib : TimedLibrary) (now handle : Nat)

/-- `Session::idle_duration`. -/
def idleDuration : Nat :=
  now - lib.lastActivity[handle]?.getD now

/-- The session has been idle for longer than the timeout; a timeout of zero is none. -/
def timedOut : Bool :=
  lib.idleTimeout != 0 && lib.idleTimeout < lib.idleDuration now handle

/-- The library with another session table. -/
def withSessions (sessions : ExtTreeMap Nat Session) : TimedLibrary :=
  { lib with hsm := { lib.hsm with
      sessionManager := { lib.hsm.sessionManager with sessions := sessions } } }

/-- `cleanup_idle_sessions`: the handles of the sessions it closes, and the library without them. -/
def cleanupIdleSessions : List Nat × TimedLibrary :=
  let sessions := lib.hsm.sessionManager.sessions
  if lib.idleTimeout = 0 then ([], lib)
  else
    ((sessions.filter fun handle _ ↦ lib.timedOut now handle).toList.map Prod.fst,
      lib.withSessions (sessions.filter fun handle _ ↦ !lib.timedOut now handle))

/-- `check_and_touch`. -/
def checkAndTouch : HsmResult Unit × TimedLibrary :=
  let sessions := lib.hsm.sessionManager.sessions
  match sessions[handle]? with
  | none => (.error .sessionHandleInvalid, lib)
  | some _ =>
    if lib.timedOut now handle then
      (.error .sessionClosed, lib.withSessions (sessions.erase handle))
    else (.ok (), { lib with lastActivity := lib.lastActivity.insert handle now })

end TimedLibrary

/-! ### Runs -/

/-- The calls of a run. -/
inductive CountedCall where
  | api (call : SessionCall)
  | cleanupIdleSessions
  | checkAndTouch (session : Nat)
  | daemonInitToken (slotId : Nat) (pin : Bytes) (label : FixedBytes 32)

/-- A session that is opened is active when it is opened. -/
def SessionCall.touch (now : Nat) (lastActivity : ExtTreeMap Nat Nat) :
    SessionCall → Except CkRv Reply → ExtTreeMap Nat Nat
  | .openSession _ _, .ok (.handle handle) => lastActivity.insert handle now
  | _, _ => lastActivity

/-- One call. -/
def TimedLibrary.step (crates : Crates) (codec : ObjectCodec) (lib : TimedLibrary)
    (call : CallEnv × CountedCall) : TimedLibrary :=
  let now := call.1.token.now
  match call.2 with
  | .api entry =>
    let result := entry.entry crates codec call.1 lib.hsm
    { lib with hsm := result.2, lastActivity := entry.touch now lib.lastActivity result.1 }
  | .cleanupIdleSessions => (lib.cleanupIdleSessions now).2
  | .checkAndTouch session => (lib.checkAndTouch now session).2
  | .daemonInitToken slotId pin label =>
    { lib with hsm := (onToken slotId
        (fun stored ↦ stored.initToken crates call.1.token pin label) lib.hsm).2 }

/-- What keeps the counters true: a new session gets a handle that is not in use, no session is
closed for being idle, and the daemon initialises only tokens without open sessions. -/
def TimedLibrary.KeepsCounts (lib : TimedLibrary) (call : CallEnv × CountedCall) : Prop :=
  let manager := lib.hsm.sessionManager
  let now := call.1.token.now
  match call.2 with
  | .api (.openSession _ _) => manager.sessions[manager.handleAlloc.allocate.1]? = none
  | .api _ => True
  | .cleanupIdleSessions => ∀ handle ∈ manager.sessions.keys, lib.timedOut now handle = false
  | .checkAndTouch session => session ∈ manager.sessions.keys → lib.timedOut now session = false
  | .daemonInitToken slotId _ _ => manager.sessionsOfSlot slotId = []

instance (lib : TimedLibrary) (call : CallEnv × CountedCall) : Decidable (lib.KeepsCounts call) :=
  match call with
  | (_, .api (.openSession _ _)) => inferInstanceAs (Decidable (_ = none))
  | (_, .api (.closeSession _)) | (_, .api (.closeAllSessions _)) | (_, .api (.login _ _ _))
  | (_, .api (.logout _)) | (_, .api (.initToken _ _ _)) | (_, .api (.initPIN _ _))
  | (_, .api (.setPIN _ _ _)) => .isTrue trivial
  | (_, .cleanupIdleSessions) => inferInstanceAs (Decidable (∀ handle ∈ _, _ = false))
  | (_, .checkAndTouch session) => inferInstanceAs (Decidable (session ∈ _ → _ = false))
  | (_, .daemonInitToken slotId _ _) =>
    inferInstanceAs (Decidable (lib.hsm.sessionManager.sessionsOfSlot slotId = []))

/-! ### The invariant -/

/-- The counters of every token agree with the open sessions of its slot. -/
def Hsm.Counted (s : Hsm) : Prop :=
  ∀ (slotId : Nat) (slot : Slot), s.slots[slotId]? = some slot →
    s.sessionManager.Counted slotId slot.token

section Invariant

variable {s s' : Hsm} {slotId : Nat} {stored : StoredToken}

theorem Hsm.Counted.of_storedToken (h : s.Counted) (hslot : s.storedToken slotId = some stored) :
    s.sessionManager.Counted slotId stored.token := by
  obtain ⟨slot, hget, rfl⟩ := Hsm.storedToken_eq_some_iff.mp hslot
  exact h slotId slot hget

/-- The sessions and the token of one slot change together, and those of other slots do not. -/
theorem Hsm.Counted.set (h : s.Counted) {next : StoredToken} {manager : SessionManager}
    (hmine : manager.Counted slotId next.token)
    (hother : ∀ other, other ≠ slotId →
      manager.openCount other = s.sessionManager.openCount other ∧
        manager.openRwCount other = s.sessionManager.openRwCount other) :
    ({ s with sessionManager := manager }.setStoredToken slotId next).Counted := by
  intro other slot hget
  change (s.slots.set slotId ⟨next.token, next.files.state⟩)[other]? = some slot at hget
  change manager.Counted other slot.token
  by_cases heq : other = slotId
  · subst heq
    obtain ⟨hlt, hslot⟩ := List.getElem?_eq_some_iff.mp hget
    rw [List.getElem_set_self] at hslot
    rw [← hslot]
    exact hmine
  · rw [List.getElem?_set_ne (Ne.symm heq)] at hget
    obtain ⟨hopen, hrw⟩ := hother other heq
    rw [SessionManager.Counted, hopen, hrw]
    exact h other slot hget

/-- A token operation that leaves the counters alone. -/
theorem Hsm.Counted.setStoredToken (h : s.Counted) {next : StoredToken}
    (hslot : s.storedToken slotId = some stored) (hsame : stored.token.SameCounters next.token) :
    (s.setStoredToken slotId next).Counted :=
  h.set ((h.of_storedToken hslot).of_same hsame) fun _ _ ↦ ⟨rfl, rfl⟩

theorem Hsm.Counted.of_kinds (h : s.Counted) (hslots : s'.slots = s.slots)
    (hkinds : s.sessionManager.SameKinds s'.sessionManager) : s'.Counted := by
  intro slotId slot hget
  rw [hslots] at hget
  exact (h slotId slot hget).of_kinds hkinds

end Invariant

/-! ### Every call keeps it -/

section Calls

variable {crates : Crates} {codec : ObjectCodec} {env : CallEnv} {s : Hsm}

section Counted

variable (h : s.Counted)
include h

theorem cOpenSession_counted (slotId flags : Nat)
    (hfree : s.sessionManager.sessions[s.sessionManager.handleAlloc.allocate.1]? = none) :
    (cOpenSession slotId flags).Ensures s fun _ s' ↦ s'.Counted := by
  simp only [cOpenSession, ensures_getHsm, ensures_getToken, h, implies_true, true_and]
  intro _ stored hslot
  have hcounted : ∀ result manager token,
      s.sessionManager.openSession slotId flags stored.token = (result, manager, token) →
        ({ s with sessionManager := manager }.setStoredToken slotId
          { stored with token := token }).Counted := by
    intro result manager token hrun
    obtain ⟨hmine, hother⟩ := (h.of_storedToken hslot).openSession hfree hrun
    exact h.set hmine hother
  exact ensures_onSessions hslot (fun _ _ _ hrun ↦ hcounted _ _ _ hrun)
    fun _ _ _ hrun ↦ hcounted _ _ _ hrun

theorem cCloseSession_counted (handle : Nat) :
    (cCloseSession handle).Ensures s fun _ s' ↦ s'.Counted := by
  simp only [cCloseSession, ensures_getHsm, ensures_getSession, ensures_getToken, h, implies_true,
    true_and]
  intro _ session hsession stored hslot
  have hcounted : ∀ result manager token,
      s.sessionManager.closeSession handle stored.token = (result, manager, token) →
        ({ s with sessionManager := manager }.setStoredToken session.slotId
          { stored with token := token }).Counted := by
    intro result manager token hrun
    obtain ⟨hmine, hother⟩ := SessionManager.Counted.closeSession hsession
      (h.of_storedToken hslot) hrun
    exact h.set hmine hother
  exact ensures_onSessions hslot (fun _ _ _ hrun ↦ hcounted _ _ _ hrun)
    fun _ _ _ hrun ↦ hcounted _ _ _ hrun

/-- Without sessions, the counters of a slot are zero. -/
theorem Hsm.Counted.closeAllSessions {slotId : Nat} {stored next : StoredToken}
    {manager : SessionManager} {token : Token} (hslot : s.storedToken slotId = some stored)
    (hrun : s.sessionManager.closeAllSessions slotId stored.token = (manager, token))
    (hnext : token.Counts 0 0 → next.token.Counts 0 0) :
    ({ s with sessionManager := manager }.setStoredToken slotId next).Counted := by
  obtain ⟨hopen, hrw, hzero, hother⟩ := (h.of_storedToken hslot).closeAllSessions hrun
  refine h.set ?_ hother
  rw [SessionManager.Counted, hopen, hrw]
  exact hnext hzero

theorem cCloseAllSessions_counted (slotId : Nat) :
    (cCloseAllSessions slotId).Ensures s fun _ s' ↦ s'.Counted := by
  simp only [cCloseAllSessions, ensures_getHsm, ensures_getToken, h, implies_true, true_and]
  intro _ stored hslot
  refine ensures_onSessions hslot (fun _ _ _ hrun ↦ by simp at hrun) fun _ _ _ hrun ↦ ?_
  exact h.closeAllSessions hslot (Prod.mk.inj hrun).2 id

/-- `C_InitToken` closes the sessions before the counters are set to zero. -/
theorem cInitToken_counted (slotId : Nat) (pin : Bytes) (label : FixedBytes 32) :
    (cInitToken crates env slotId pin label).Ensures s fun _ s' ↦ s'.Counted := by
  simp only [cInitToken, ensures_getHsm, ensures_getToken, ensures_require_iff, h, implies_true,
    true_and]
  intro _ stored hslot _
  refine ensures_onSessions hslot (fun _ _ _ hrun ↦ by simp at hrun) fun _ manager token hrun ↦ ?_
  simp only [Program.ensures_update]
  have hzero : ∀ files, token.Counts 0 0 → (StoredToken.initToken crates env.token
      ⟨token, files⟩ pin label).2.token.Counts 0 0 := by
    intro files hcounts
    rcases initToken_counts crates env.token ⟨token, files⟩ hcounts pin label with h | h <;> exact h
  have hleft : ∀ next : StoredToken, (token.Counts 0 0 → next.token.Counts 0 0) →
      ({ s with sessionManager := manager }.setStoredToken slotId
        { stored with token := token } |>.setStoredToken slotId next).Counted := by
    intro next hnext
    have hset := h.closeAllSessions hslot (Prod.mk.inj hrun).2 hnext
    simpa [Hsm.setStoredToken] using hset
  exact ensures_onToken (Hsm.storedToken_setStoredToken hslot) (fun _ _ ↦ hleft _ (hzero _))
    fun _ ↦ hleft _ (hzero _)

theorem onToken_counted {slotId : Nat} {stored : StoredToken}
    {operation : StoredToken → HsmResult Unit × StoredToken}
    (hslot : s.storedToken slotId = some stored)
    (hsame : stored.token.SameCounters (operation stored).2.token) :
    (onToken slotId operation >>= fun _ ↦ pure Reply.done).Ensures s fun _ s' ↦ s'.Counted := by
  have hset := h.setStoredToken hslot hsame
  exact ensures_onToken hslot (fun _ _ ↦ hset) fun _ ↦ hset

theorem cInitPIN_counted (session : Nat) (pin : Bytes) :
    (cInitPIN crates env session pin).Ensures s fun _ s' ↦ s'.Counted := by
  simp only [cInitPIN, ensures_getHsm, ensures_getSession, ensures_getToken, ensures_require_iff, h,
    implies_true, true_and]
  intro _ session _ stored hslot _ _
  exact onToken_counted h hslot (initPin_counters crates env.token stored pin)

theorem cSetPIN_counted (session : Nat) (oldPin newPin : Bytes) :
    (cSetPIN crates env session oldPin newPin).Ensures s fun _ s' ↦ s'.Counted := by
  simp only [cSetPIN, ensures_getHsm, ensures_getSession, ensures_getToken, ensures_require_iff, h,
    implies_true, true_and]
  intro _ session _ stored hslot _
  exact onToken_counted h hslot (setPin_counters crates env.token stored oldPin newPin)

theorem cLogout_counted (session : Nat) :
    (cLogout env session).Ensures s fun _ s' ↦ s'.Counted := by
  simp only [cLogout, ensures_getHsm, ensures_getSession, ensures_getToken, h, implies_true,
    true_and]
  intro _ session _ stored hslot
  have hset := h.setStoredToken hslot (logout_counters env.token stored)
  refine ensures_onToken hslot (fun _ _ ↦ hset) fun _ ↦ ?_
  exact hset.of_kinds rfl (cancelSessionsForSlot_kind _ _)

theorem loginSessions_counted (slotId userType : Nat) :
    (loginSessions slotId userType s).Counted := by
  unfold loginSessions
  split
  · exact h.of_kinds rfl (loginAll_kind _ _ _)
  · exact h

theorem cLogin_counted (session userType : Nat) (pin : Bytes) :
    (cLogin crates codec env session userType pin).Ensures s fun _ s' ↦ s'.Counted := by
  simp only [cLogin, ensures_getHsm, ensures_getSession, ensures_getToken, Program.ensures_view,
    ensures_require_iff, h, implies_true, true_and]
  intro _ session _ stored hslot _ _
  have hset := h.setStoredToken hslot (login_counters crates env.token stored userType pin)
  refine ensures_onToken hslot (fun _ _ ↦ hset) fun _ ↦ ?_
  have hlogged := loginSessions_counted hset session.slotId userType
  obtain ⟨store, hstore⟩ := loadPersisted_eq crates codec session.slotId userType pin
    (loginSessions session.slotId userType (s.setStoredToken session.slotId
      (stored.login crates env.token userType pin).2))
  change (loadPersisted crates codec _ _ _ (loginSessions _ _ _)).Counted
  rw [hstore]
  exact hlogged

theorem SessionCall.entry_counted (call : SessionCall)
    (hfree : ∀ slotId flags, call = .openSession slotId flags →
      s.sessionManager.sessions[s.sessionManager.handleAlloc.allocate.1]? = none) :
    (call.entry crates codec env).Ensures s fun _ s' ↦ s'.Counted := by
  cases call with
  | openSession slotId flags => exact cOpenSession_counted h slotId flags (hfree slotId flags rfl)
  | closeSession session => exact cCloseSession_counted h session
  | closeAllSessions slotId => exact cCloseAllSessions_counted h slotId
  | login session userType pin => exact cLogin_counted h session userType pin
  | logout session => exact cLogout_counted h session
  | initToken slotId pin label => exact cInitToken_counted h slotId pin label
  | initPIN session pin => exact cInitPIN_counted h session pin
  | setPIN session oldPin newPin => exact cSetPIN_counted h session oldPin newPin

/-- Without open sessions, setting the counters to zero leaves them as they are. -/
theorem daemonInitToken_counted {slotId : Nat} (pin : Bytes) (label : FixedBytes 32)
    (hnone : s.sessionManager.sessionsOfSlot slotId = []) :
    (onToken slotId (fun stored ↦ stored.initToken crates env.token pin label) s).2.Counted := by
  unfold onToken
  cases hslot : s.storedToken slotId with
  | none => exact h
  | some stored =>
    refine h.set ?_ fun _ _ ↦ ⟨rfl, rfl⟩
    have hopen : s.sessionManager.openCount slotId = 0 := by
      rw [openCount, hnone, List.length_nil]
    have hrw : s.sessionManager.openRwCount slotId = 0 := by
      rw [openRwCount, hnone, List.filter_nil, List.length_nil]
    have hcounts := h.of_storedToken hslot
    rw [SessionManager.Counted, hopen, hrw] at hcounts ⊢
    rcases initToken_counts crates env.token stored hcounts pin label with h | h <;> exact h

end Counted

theorem TimedLibrary.step_counted {lib : TimedLibrary} (h : lib.hsm.Counted)
    (call : CallEnv × CountedCall) (hkeeps : lib.KeepsCounts call) :
    (lib.step crates codec call).hsm.Counted := by
  obtain ⟨env, call⟩ := call
  cases call with
  | api call =>
    refine SessionCall.entry_counted h call fun slotId flags hcall ↦ ?_
    subst hcall
    exact hkeeps
  | cleanupIdleSessions =>
    by_cases hzero : lib.idleTimeout = 0
    · simpa [TimedLibrary.step, TimedLibrary.cleanupIdleSessions, hzero] using h
    · -- no session is timed out, so none is removed
      have hkept : lib.hsm.sessionManager.sessions.filter
          (fun handle _ ↦ !lib.timedOut env.token.now handle) =
            lib.hsm.sessionManager.sessions := by
        rw [ExtTreeMap.filter_eq_self_iff]
        intro handle hmem
        simpa using hkeeps handle (ExtTreeMap.mem_keys.mpr hmem)
      simpa [TimedLibrary.step, TimedLibrary.cleanupIdleSessions, hzero,
        TimedLibrary.withSessions, hkept] using h
  | checkAndTouch session =>
    cases hsession : lib.hsm.sessionManager.sessions[session]? with
    | none => simpa [TimedLibrary.step, TimedLibrary.checkAndTouch, hsession] using h
    | some found =>
      have hactive : lib.timedOut env.token.now session = false :=
        hkeeps (ExtTreeMap.mem_keys.mpr
          (ExtTreeMap.mem_iff_isSome_getElem?.mpr (by simp [hsession])))
      simpa [TimedLibrary.step, TimedLibrary.checkAndTouch, hsession, hactive] using h
  | daemonInitToken slotId pin label => exact daemonInitToken_counted h pin label hkeeps

theorem Hsm.counted_cInitialize (config : HsmConfig) (disk : Disk)
    (statics : Encrypt.CipherStatics) (draw : InitDraw) :
    (Hsm.cInitialize config disk statics draw).Counted := by
  intro slotId slot hget
  have hloaded : ∃ settings files, slot.token = Token.load settings files := by
    simp only [Hsm.cInitialize, List.getElem?_mapIdx, Option.map_eq_some_iff] at hget
    obtain ⟨settings, -, rfl⟩ := hget
    exact ⟨_, _, rfl⟩
  obtain ⟨settings, files, hload⟩ := hloaded
  have hzero : slot.token.sessionCount = 0 ∧ slot.token.rwSessionCount = 0 := by
    rw [hload]
    simp only [Token.load]
    split <;> exact ⟨rfl, rfl⟩
  refine ⟨hzero.1, hzero.2, ?_, ?_⟩
  · rw [hzero.1]
    exact Nat.zero_le _
  · rw [hzero.2]
    exact Nat.zero_le _

end Calls

/-! ### Every run -/

/-- In every run from an initialised library whose calls keep the counts, after every call, the
counters of each token are the numbers of open and of open read-write sessions of its slot, and
neither exceeds its limit. -/
theorem counters_true_after_every_run (crates : Crates) (codec : ObjectCodec) (config : HsmConfig)
    (disk : Disk) (statics : Encrypt.CipherStatics) (draw : InitDraw) (idleTimeout : Nat)
    (calls : List (CallEnv × CountedCall))
    (hkeeps : FoldMeets (TimedLibrary.step crates codec) TimedLibrary.KeepsCounts
      ⟨.cInitialize config disk statics draw, idleTimeout, ∅⟩ calls) :
    let lib := calls.foldl (TimedLibrary.step crates codec)
      ⟨.cInitialize config disk statics draw, idleTimeout, ∅⟩
    ∀ (slotId : Nat) (slot : Slot), lib.hsm.slots[slotId]? = some slot →
      let sessions := lib.hsm.sessionManager.sessionsOfSlot slotId
      slot.token.sessionCount = sessions.length ∧
        slot.token.rwSessionCount = (sessions.filter fun entry ↦ entry.2.state.isRw).length ∧
        slot.token.sessionCount ≤ slot.token.config.maxSessions ∧
        slot.token.rwSessionCount ≤ slot.token.config.maxRwSessions := by
  intro lib slotId slot hget sessions
  have hstep : ∀ (lib : TimedLibrary) call, lib.hsm.Counted → lib.KeepsCounts call →
      (lib.step crates codec call).hsm.Counted :=
    fun _ call h hkeeps ↦ TimedLibrary.step_counted h call hkeeps
  have hinv := foldl_invariant hstep calls _ (Hsm.counted_cInitialize config disk statics draw)
    hkeeps
  obtain ⟨hcount, hrw, hle, hrwle⟩ := hinv slotId slot hget
  exact ⟨hcount, hrw, hle, hrwle⟩

/-- A library that has not been used, with an idle timeout of a minute. -/
def idleLibrary : TimedLibrary := ⟨.cInitialize (.singleSlot false) .blank .empty .sample, 60000, ∅⟩

/-- A run of calls on that library. -/
def idleRun (calls : List (CallEnv × CountedCall)) : TimedLibrary :=
  calls.foldl (TimedLibrary.step pinAnswers.crates ⟨fun _ ↦ [], fun _ ↦ none⟩) idleLibrary

/-- The two counters of each token. -/
def TimedLibrary.counters (lib : TimedLibrary) : List (Nat × Nat) :=
  lib.hsm.slots.map fun slot ↦ (slot.token.sessionCount, slot.token.rwSessionCount)

/-- A token is initialised, a read-write session is opened, and the session is used in time. -/
def busyCalls : List (CallEnv × CountedCall) :=
  [(callEnvAt 0, .api (.initToken 0 soPin1 blankLabel)),
    (callEnvAt 1, .api (.openSession 0 (ckfSerialSession + ckfRwSession))),
    (callEnvAt 2, .api (.openSession 0 ckfSerialSession)),
    (callEnvAt 30, .checkAndTouch firstSession),
    (callEnvAt 40, .cleanupIdleSessions)]

/-- Both sessions are open and counted, the read-write one in both counters. -/
theorem busy_sessions_counted :
    ∃ slot, (idleRun busyCalls).hsm.slots[0]? = some slot ∧ slot.token.sessionCount = 2 ∧
      slot.token.rwSessionCount = 1 ∧
      ((idleRun busyCalls).hsm.sessionManager.sessionsOfSlot 0).length = 2 := by
  have hkeeps : FoldMeets (TimedLibrary.step pinAnswers.crates ⟨fun _ ↦ [], fun _ ↦ none⟩)
      TimedLibrary.KeepsCounts idleLibrary busyCalls := by decide +kernel
  have hlength : ((idleRun busyCalls).hsm.sessionManager.sessionsOfSlot 0).length = 2 := by
    decide +kernel
  have hrw : (((idleRun busyCalls).hsm.sessionManager.sessionsOfSlot 0).filter
      fun entry ↦ entry.2.state.isRw).length = 1 := by decide +kernel
  have hslot : (idleRun busyCalls).hsm.slots[0]?.isSome = true := by decide +kernel
  obtain ⟨slot, hslot⟩ := Option.isSome_iff_exists.mp hslot
  obtain ⟨hcount, hrwCount, -⟩ := counters_true_after_every_run pinAnswers.crates
    ⟨fun _ ↦ [], fun _ ↦ none⟩ (.singleSlot false) .blank .empty .sample 60000 busyCalls hkeeps
    0 slot hslot
  exact ⟨slot, hslot, hcount.trans hlength, hrwCount.trans hrw, hlength⟩

/-- The same session goes unused for longer than the timeout. -/
def idleCalls (last : CountedCall) : List (CallEnv × CountedCall) :=
  [(callEnvAt 0, .api (.initToken 0 soPin1 blankLabel)),
    (callEnvAt 1, .api (.openSession 0 (ckfSerialSession + ckfRwSession))),
    (callEnvAt 100, last)]

/-- An idle session that is closed stays counted, whichever function closes it, and a session that
stays open while the daemon initialises the token is counted no more. -/
theorem counters_drift :
    (idleRun (idleCalls .cleanupIdleSessions)).counters = [(1, 1)] ∧
      (idleRun (idleCalls .cleanupIdleSessions)).hsm.sessionManager.sessionsOfSlot 0 = [] ∧
      (idleRun (idleCalls (.checkAndTouch firstSession))).counters = [(1, 1)] ∧
      (idleRun (idleCalls (.checkAndTouch firstSession))).hsm.sessionManager.sessionsOfSlot 0 =
        [] ∧
      (idleRun (idleCalls (.daemonInitToken 0 soPin1 blankLabel))).counters = [(0, 0)] ∧
      ((idleRun (idleCalls (.daemonInitToken 0 soPin1
        blankLabel))).hsm.sessionManager.sessionsOfSlot 0).length = 1 := by
  decide +kernel

end CratonHsm
