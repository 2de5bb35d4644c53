import CratonHsm.Abi.SessionCalls
import CratonHsm.Session.LoginStates

/-!
# Sessions agree with the login of their token

The login state is kept twice, by the token and by each of its sessions. After every sequential run
of the session and token entry points, successful or not, over any slots, each open session is in
the state that the login of its token and its own kind determine
(`sessions_agree_after_every_run`).

The kind of a session is compared with the flags of the call that opened it: the run keeps, beside
the library, the flags with which `C_OpenSession` issued each handle (`LoginHistory`).
-/

set_option autoImplicit false

namespace CratonHsm

open Crypto Library Store
open Std (ExtTreeMap)
open Program (ensures_require_iff)
open SessionManager Hsm

/-! ### Runs -/

/-- The calls of a run. -/
inductive SessionCall where
  | openSession (slotId flags : Nat)
  | closeSession (session : Nat)
  | closeAllSessions (slotId : Nat)
  | login (session userType : Nat) (pin : Bytes)
  | logout (session : Nat)
  | initToken (slotId : Nat) (pin : Bytes) (label : FixedBytes 32)
  | initPIN (session : Nat) (pin : Bytes)
  | setPIN (session : Nat) (oldPin newPin : Bytes)

/-- The library, and the flags with which each session handle was issued. -/
structure LoginHistory where
  hsm : Hsm
  openedWith : ExtTreeMap Nat Nat

section Runs

variable (crates : Crates) (codec : ObjectCodec)

/-- The entry point of a call. -/
def SessionCall.entry (env : CallEnv) : SessionCall → Entry
  | .openSession slotId flags => cOpenSession slotId flags
  | .closeSession session => cCloseSession session
  | .closeAllSessions slotId => cCloseAllSessions slotId
  | .login session userType pin => cLogin crates codec env session userType pin
  | .logout session => cLogout env session
  | .initToken slotId pin label => cInitToken crates env slotId pin label
  | .initPIN session pin => cInitPIN crates env session pin
  | .setPIN session oldPin newPin => cSetPIN crates env session oldPin newPin

/-- The flags of an issued handle. -/
def SessionCall.record (openedWith : ExtTreeMap Nat Nat) :
    SessionCall → Except CkRv Reply → ExtTreeMap Nat Nat
  | .openSession _ flags, .ok (.handle handle) => openedWith.insert handle flags
  | _, _ => openedWith

/-- One call. -/
def LoginHistory.step (h : LoginHistory) (call : CallEnv × SessionCall) : LoginHistory :=
  let result := call.2.entry crates codec call.1 h.hsm
  ⟨result.2, call.2.record h.openedWith result.1⟩

end Runs

/-! ### The invariant -/

/-- The login state of the token of a slot. -/
def Hsm.loginAt (s : Hsm) (slotId : Nat) : Option LoginState :=
  s.slots[slotId]?.map fun slot ↦ slot.token.auth.login

/-- Every open session has the flags it was opened with, and agrees with the login of its token. -/
def SessionsAgree (s : Hsm) (openedWith : ExtTreeMap Nat Nat) : Prop :=
  ∀ (handle : Nat) (session : Session), s.sessionManager.sessions[handle]? = some session →
    openedWith[handle]? = some session.flags ∧
      ∃ login, s.loginAt session.slotId = some login ∧ session.Agrees login

section Invariant

variable {s s' : Hsm} {openedWith : ExtTreeMap Nat Nat} {slotId : Nat} {stored : StoredToken}

theorem Hsm.loginAt_of_storedToken (hslot : s.storedToken slotId = some stored) :
    s.loginAt slotId = some stored.token.auth.login := by
  obtain ⟨slot, hget, rfl⟩ := storedToken_eq_some_iff.mp hslot
  simp [loginAt, hget]

theorem Hsm.loginAt_setStoredToken {next : StoredToken}
    (hslot : s.storedToken slotId = some stored) (other : Nat) :
    (s.setStoredToken slotId next).loginAt other =
      if slotId = other then some next.token.auth.login else s.loginAt other := by
  obtain ⟨slot, hslot, -⟩ := storedToken_eq_some_iff.mp hslot
  obtain ⟨hlt, -⟩ := List.getElem?_eq_some_iff.mp hslot
  simp only [loginAt, setStoredToken, List.getElem?_set, hlt, if_true]
  split_ifs <;> rfl

variable (h : SessionsAgree s openedWith)
include h

/-- Sessions may go, as long as the logins stay. -/
theorem SessionsAgree.of_subset
    (hsessions : ∀ (handle : Nat) (session : Session),
      s'.sessionManager.sessions[handle]? = some session →
        s.sessionManager.sessions[handle]? = some session)
    (hlogin : ∀ slotId, s'.loginAt slotId = s.loginAt slotId) : SessionsAgree s' openedWith := by
  intro handle session hsession
  rw [hlogin]
  exact h handle session (hsessions handle session hsession)

/-- A token operation that keeps the login state keeps the agreement. -/
theorem SessionsAgree.setStoredToken {next : StoredToken}
    (hslot : s.storedToken slotId = some stored)
    (hlogin : next.token.auth.login = stored.token.auth.login) :
    SessionsAgree (s.setStoredToken slotId next) openedWith := by
  refine h.of_subset (fun _ _ hsession ↦ hsession) fun other ↦ ?_
  rw [loginAt_setStoredToken hslot]
  split_ifs with heq
  · rw [← heq, loginAt_of_storedToken hslot, hlogin]
  · rfl

/-- The sessions of one slot follow a change of its login state, and the others stay. -/
theorem SessionsAgree.move {login : LoginState} (f : Session → Session)
    (hflags : ∀ session, (f session).flags = session.flags)
    (hslotId : ∀ session, (f session).slotId = session.slotId)
    (hsessions : ∀ handle : Nat, s'.sessionManager.sessions[handle]? =
      s.sessionManager.sessions[handle]?.map fun session ↦
        if session.slotId = slotId then f session else session)
    (hlogin : ∀ other, s'.loginAt other = if slotId = other then some login else s.loginAt other)
    (hagrees : ∀ (handle : Nat) (session : Session),
      s.sessionManager.sessions[handle]? = some session → session.slotId = slotId →
        (f session).Agrees login) : SessionsAgree s' openedWith := by
  intro handle session' hsession'
  rw [hsessions, Option.map_eq_some_iff] at hsession'
  obtain ⟨session, hsession, rfl⟩ := hsession'
  obtain ⟨hopened, login', hlogin', hagrees'⟩ := h handle session hsession
  by_cases hslot : session.slotId = slotId
  · rw [if_pos hslot, hflags, hslotId]
    exact ⟨hopened, login, by rw [hlogin, if_pos hslot.symm], hagrees handle session hsession hslot⟩
  · rw [if_neg hslot]
    exact ⟨hopened, login', by rw [hlogin, if_neg (Ne.symm hslot), hlogin'], hagrees'⟩

end Invariant

/-! ### Every call keeps it -/

section Calls

variable {crates : Crates} {codec : ObjectCodec} {env : CallEnv} {s : Hsm}
  {openedWith : ExtTreeMap Nat Nat} {stored : StoredToken}

variable (h : SessionsAgree s openedWith)
include h

/-- Closing all sessions of a slot leaves agreeing sessions. -/
theorem SessionsAgree.closeAllSessions {slotId : Nat} {manager : SessionManager} {token : Token}
    (hslot : s.storedToken slotId = some stored)
    (hrun : s.sessionManager.closeAllSessions slotId stored.token = (manager, token)) :
    SessionsAgree ({ s with sessionManager := manager }.setStoredToken slotId
      { stored with token := token }) openedWith := by
  have hmanager : (s.sessionManager.closeAllSessions slotId stored.token).1 = manager := by
    rw [hrun]
  have hauth := s.sessionManager.closeAllSessions_auth slotId stored.token
  rw [hrun] at hauth
  have hsubset : SessionsAgree { s with sessionManager := manager } openedWith := by
    refine h.of_subset (fun handle session hsession ↦ ?_) fun _ ↦ rfl
    rw [← hmanager, closeAllSessions_sessions] at hsession
    exact (Option.filter_eq_some_iff.mp hsession).1
  exact hsubset.setStoredToken hslot (congrArg AuthState.login hauth)

theorem cCloseAllSessions_agree (slotId : Nat) :
    (cCloseAllSessions slotId).Ensures s fun _ s' ↦ SessionsAgree s' openedWith := by
  simp only [cCloseAllSessions, ensures_getHsm, ensures_getToken, h, implies_true, true_and]
  intro _ stored hslot
  refine ensures_onSessions hslot (fun _ _ _ hrun ↦ by simp at hrun) fun _ _ _ hrun ↦ ?_
  exact h.closeAllSessions hslot (Prod.mk.inj hrun).2

theorem cCloseSession_agree (handle : Nat) :
    (cCloseSession handle).Ensures s fun _ s' ↦ SessionsAgree s' openedWith := by
  simp only [cCloseSession, ensures_getHsm, ensures_getSession, ensures_getToken, h, implies_true,
    true_and]
  intro _ session hsession stored hslot
  have hclosed : ∀ result manager token,
      s.sessionManager.closeSession handle stored.token = (result, manager, token) →
        SessionsAgree ({ s with sessionManager := manager }.setStoredToken session.slotId
          { stored with token := token }) openedWith := by
    intro result manager token hrun
    simp only [closeSession, hsession, Prod.mk.injEq] at hrun
    obtain ⟨-, rfl, rfl⟩ := hrun
    have hsubset : SessionsAgree { s with sessionManager :=
        { s.sessionManager with sessions := s.sessionManager.sessions.erase handle } }
        openedWith := by
      refine h.of_subset (fun other kept hkept ↦ ?_) fun _ ↦ rfl
      simp only [getElem?_erase_eq_ite] at hkept
      split_ifs at hkept
      exact hkept
    exact hsubset.setStoredToken hslot (by rw [Token.decrementSessionCount_auth])
  exact ensures_onSessions hslot (fun _ _ _ hrun ↦ hclosed _ _ _ hrun)
    fun _ _ _ hrun ↦ hclosed _ _ _ hrun

/-- A session that agrees with its token may be added. -/
theorem SessionsAgree.insertSession {session : Session} {login : LoginState}
    (alloc : Session.SessionHandleAllocator) (handle : Nat)
    (hlogin : s.loginAt session.slotId = some login) (hagrees : session.Agrees login) :
    SessionsAgree { s with sessionManager :=
      ⟨s.sessionManager.sessions.insert handle session, alloc⟩ }
      (openedWith.insert handle session.flags) := by
  intro other found hfound
  rw [getElem?_insert_eq_ite] at hfound ⊢
  split_ifs at hfound ⊢ with hsame
  · cases hfound
    exact ⟨rfl, login, hlogin, hagrees⟩
  · exact h other found hfound

theorem cOpenSession_agree (slotId flags : Nat) :
    (cOpenSession slotId flags).Ensures s fun answer s' ↦
      SessionsAgree s' ((SessionCall.openSession slotId flags).record openedWith answer) := by
  simp only [cOpenSession, ensures_getHsm, ensures_getToken, SessionCall.record, h, implies_true,
    true_and]
  intro _ stored hslot
  rcases s.sessionManager.openSession_eq slotId flags stored.token with
    ⟨e, heq⟩ | ⟨token, hcount, hadmits, heq⟩
  · refine ensures_onSessions hslot (fun _ _ _ hrun ↦ ?_) fun _ _ _ hrun ↦ ?_
    · obtain ⟨-, rfl, rfl⟩ := heq.symm.trans hrun
      exact h.setStoredToken hslot rfl
    · cases heq.symm.trans hrun
  · refine ensures_onSessions hslot (fun _ _ _ hrun ↦ ?_) fun _ _ _ hrun ↦ ?_
    · cases heq.symm.trans hrun
    · cases heq.symm.trans hrun
      exact SessionsAgree.setStoredToken (h.insertSession _ _ (loginAt_of_storedToken hslot)
        (Session.withLogin_agrees hadmits)) hslot
          (congrArg AuthState.login (Token.incrementSessionCount_auth hcount))

/-- A token operation that does not log in or out keeps the agreement, whatever its answer. -/
theorem onToken_agree {slotId : Nat} {operation : StoredToken → HsmResult Unit × StoredToken}
    (hslot : s.storedToken slotId = some stored)
    (hlogin : (operation stored).2.token.auth.login = stored.token.auth.login) :
    (onToken slotId operation >>= fun _ ↦ pure Reply.done).Ensures s
      fun _ s' ↦ SessionsAgree s' openedWith :=
  ensures_onToken hslot (fun _ _ ↦ h.setStoredToken hslot hlogin)
    fun _ ↦ h.setStoredToken hslot hlogin

theorem cInitPIN_agree (session : Nat) (pin : Bytes) :
    (cInitPIN crates env session pin).Ensures s fun _ s' ↦ SessionsAgree s' openedWith := by
  simp only [cInitPIN, ensures_getHsm, ensures_getSession, ensures_getToken, ensures_require_iff, h,
    implies_true, true_and]
  intro _ session _ stored hslot _ _
  refine onToken_agree h hslot ?_
  rcases initPin_outcome crates env.token stored pin with ⟨e, heq⟩ | ⟨-, -, heq⟩
  · rw [heq]
  · rw [heq, installUserPin_token]

theorem cSetPIN_agree (session : Nat) (oldPin newPin : Bytes) :
    (cSetPIN crates env session oldPin newPin).Ensures s
      fun _ s' ↦ SessionsAgree s' openedWith := by
  simp only [cSetPIN, ensures_getHsm, ensures_getSession, ensures_getToken, ensures_require_iff, h,
    implies_true, true_and]
  intro _ session _ stored hslot _
  refine onToken_agree h hslot ?_
  rcases setPin_outcome crates env.token stored oldPin newPin with
    ⟨e, heq, -⟩ | ⟨role, -, ⟨-, -, heq⟩ | ⟨-, heq⟩⟩ <;> rw [heq]
  · cases role <;> simp [AuthState.setLockout]
  · rw [changePin_token]
    cases role <;> simp [AuthState.setLockout, Token.setPinHash]

theorem cLogout_agree (session : Nat) :
    (cLogout env session).Ensures s fun _ s' ↦ SessionsAgree s' openedWith := by
  simp only [cLogout, ensures_getHsm, ensures_getSession, ensures_getToken, h, implies_true,
    true_and]
  intro _ session _ stored hslot
  rcases logout_outcome env.token stored with ⟨-, e, heq⟩ | ⟨-, heq⟩
  · refine ensures_onToken hslot (fun _ _ ↦ h.setStoredToken hslot (by rw [heq])) fun hok ↦ ?_
    rw [heq] at hok
    cases hok
  · refine ensures_onToken hslot (fun _ hbad ↦ by rw [heq] at hbad; cases hbad) fun _ ↦ ?_
    refine h.move (fun session ↦ session.clearOperations.onLogout) (by simp) (by simp)
      (fun handle ↦ cancelSessionsForSlot_sessions ..)
      (loginAt_setStoredToken hslot) fun handle other hother _ ↦ ?_
    obtain ⟨-, login, -, hagrees⟩ := h handle other hother
    rw [heq, leave_token]
    exact hagrees.clearOperations.onLogout

theorem cInitToken_agree (slotId : Nat) (pin : Bytes) (label : FixedBytes 32) :
    (cInitToken crates env slotId pin label).Ensures s
      fun _ s' ↦ SessionsAgree s' openedWith := by
  simp only [cInitToken, ensures_getHsm, ensures_getToken, ensures_require_iff, h, implies_true,
    true_and]
  intro _ stored hslot _
  refine ensures_onSessions hslot (fun _ _ _ hrun ↦ by simp at hrun) fun _ manager token hrun ↦ ?_
  have hclosed := h.closeAllSessions hslot (Prod.mk.inj hrun).2
  simp only [Program.ensures_update]
  -- no session of the slot is left, so its login state may change
  have hleft : ∀ next, SessionsAgree ({ s with sessionManager := manager }.setStoredToken slotId
      { stored with token := token } |>.setStoredToken slotId next) openedWith := by
    intro next
    refine hclosed.move id (fun _ ↦ rfl) (fun _ ↦ rfl) (by simp [setStoredToken])
      (loginAt_setStoredToken (storedToken_setStoredToken hslot))
      fun handle session hsession hmine ↦ ?_
    have hmanager : (s.sessionManager.closeAllSessions slotId stored.token).1 = manager := by
      rw [(Prod.mk.inj hrun).2]
    have hopen : manager.sessions[handle]? = some session := hsession
    rw [← hmanager, closeAllSessions_sessions] at hopen
    have hother := (Option.filter_eq_some_iff.mp hopen).2
    simp [hmine] at hother
  exact ensures_onToken (storedToken_setStoredToken hslot) (fun _ _ ↦ hleft _) fun _ ↦ hleft _

/-- A login of the token, carried to its sessions. -/
theorem SessionsAgree.login {slotId : Nat} {role : Role}
    (hslot : s.storedToken slotId = some stored) (hpublic : stored.token.auth.login = .publicState)
    (hro : ¬(role.userType = ckuSo ∧ s.sessionManager.hasRoSessions slotId)) :
    SessionsAgree (loginSessions slotId role.userType
      (s.setStoredToken slotId (stored.enter env.token role))) openedWith := by
  have hready : ∀ (handle : Nat) (session : Session),
      s.sessionManager.sessions[handle]? = some session → session.slotId = slotId →
        session.Agrees .publicState ∧ role.loginState.admits (isRwFlags session.flags) := by
    intro handle session hsession hmine
    obtain ⟨-, login, hlogin, hagrees⟩ := h handle session hsession
    have hsame : login = .publicState := by
      rw [hmine, loginAt_of_storedToken hslot, hpublic] at hlogin
      exact (Option.some.inj hlogin).symm
    rw [hsame] at hagrees
    refine ⟨hagrees, fun hso ↦ ?_⟩
    -- the officer logs in only where every session is read-write
    cases role with
    | user => cases hso
    | so =>
      have hrw : s.sessionManager.hasRoSessions slotId = false := by
        simpa [Role.userType] using hro
      rw [← hagrees.isRw_eq]
      exact s.sessionManager.hasRoSessions_eq_false hrw hsession hmine
  have hsessions := s.sessionManager.loginAll_sessions hready
  have hmanager : (loginSessions slotId role.userType
      (s.setStoredToken slotId (stored.enter env.token role))).sessionManager =
        (s.sessionManager.loginAll slotId role).2 := by
    rw [loginSessions, roleOfUserType_eq]
    rfl
  have hlogin : ∀ other, (loginSessions slotId role.userType
      (s.setStoredToken slotId (stored.enter env.token role))).loginAt other =
        if slotId = other then some role.loginState else s.loginAt other := by
    intro other
    rw [loginSessions, roleOfUserType_eq]
    refine (loginAt_setStoredToken hslot other).trans ?_
    rw [enter_token]
  refine h.move (fun session ↦ session.withLogin role.loginState) (fun _ ↦ rfl) (fun _ ↦ rfl)
    (fun handle ↦ ?_) hlogin fun handle session hsession hmine ↦ ?_
  · rw [hmanager, hsessions]
  · exact Session.withLogin_agrees (hready handle session hsession hmine).2

theorem cLogin_agree (session userType : Nat) (pin : Bytes) :
    (cLogin crates codec env session userType pin).Ensures s
      fun _ s' ↦ SessionsAgree s' openedWith := by
  simp only [cLogin, ensures_getHsm, ensures_getSession, ensures_getToken, Program.ensures_view,
    ensures_require_iff, h, implies_true, true_and]
  intro _ session _ stored hslot hro _
  rcases login_loginState crates env.token stored userType pin with
    ⟨⟨e, herror⟩, hlogin⟩ | ⟨role, rfl, hpublic, heq⟩
  · refine ensures_onToken hslot (fun _ _ ↦ h.setStoredToken hslot hlogin) fun hok ↦ ?_
    rw [herror] at hok
    cases hok
  · refine ensures_onToken hslot (fun _ hbad ↦ by rw [heq] at hbad; cases hbad) fun _ ↦ ?_
    change SessionsAgree (loadPersisted crates codec _ _ _ (loginSessions _ _ _)) openedWith
    obtain ⟨store, hstore⟩ := loadPersisted_eq crates codec session.slotId role.userType pin
      (loginSessions session.slotId role.userType (s.setStoredToken session.slotId
        (stored.login crates env.token role.userType pin).2))
    rw [hstore, heq]
    exact h.login hslot hpublic hro

theorem SessionCall.entry_agree (call : SessionCall) :
    (call.entry crates codec env).Ensures s
      fun answer s' ↦ SessionsAgree s' (call.record openedWith answer) := by
  cases call with
  | openSession slotId flags => exact cOpenSession_agree h slotId flags
  | closeSession session => exact cCloseSession_agree h session
  | closeAllSessions slotId => exact cCloseAllSessions_agree h slotId
  | login session userType pin => exact cLogin_agree h session userType pin
  | logout session => exact cLogout_agree h session
  | initToken slotId pin label => exact cInitToken_agree h slotId pin label
  | initPIN session pin => exact cInitPIN_agree h session pin
  | setPIN session oldPin newPin => exact cSetPIN_agree h session oldPin newPin

end Calls

/-! ### Every run -/

/-- After every run from an initialised library, every open session of a slot is in a user state
exactly when the token of the slot is user-logged-in, in the security officer's state exactly when
it is SO-logged-in and in a public state otherwise; it is read-write exactly if it was opened so;
and it is read-write if the security officer is logged in. -/
theorem sessions_agree_after_every_run (crates : Crates) (codec : ObjectCodec) (config : HsmConfig)
    (disk : Disk) (statics : Encrypt.CipherStatics) (draw : InitDraw)
    (calls : List (CallEnv × SessionCall)) :
    let h := calls.foldl (LoginHistory.step crates codec) ⟨.cInitialize config disk statics draw, ∅⟩
    ∀ (handle : Nat) (session : Session), h.hsm.sessionManager.sessions[handle]? = some session →
      ∃ slot flags, h.hsm.slots[session.slotId]? = some slot ∧ h.openedWith[handle]? = some flags ∧
        (session.state.isUser = true ↔ slot.token.auth.login = .userLoggedIn) ∧
        (session.state.isSo = true ↔ slot.token.auth.login = .soLoggedIn) ∧
        (session.state.isLoggedIn = false ↔ slot.token.auth.login = .publicState) ∧
        session.state.isRw = isRwFlags flags ∧
        (slot.token.auth.login = .soLoggedIn → session.state.isRw = true) := by
  intro h handle session hsession
  have hinv : SessionsAgree h.hsm h.openedWith := by
    refine List.foldlRecOn (motive := fun h : LoginHistory ↦ SessionsAgree h.hsm h.openedWith)
      calls _ ?_ fun h hagree call _ ↦ call.2.entry_agree hagree
    intro handle session hsession
    simp [cInitialize, new] at hsession
  obtain ⟨hopened, login, hlogin, hagrees⟩ := hinv handle session hsession
  obtain ⟨slot, hslot, rfl⟩ := Option.map_eq_some_iff.mp hlogin
  refine ⟨slot, session.flags, hslot, hopened, hagrees.isUser_iff, hagrees.isSo_iff, ?_,
    hagrees.isRw_eq, fun hso ↦ ?_⟩
  · rw [← not_iff_not, Bool.not_eq_false]
    exact hagrees.isLoggedIn_iff
  · rw [hagrees.isRw_eq]
    exact hagrees.admitted hso

/-- The security officer of a new token logs in on a read-write session. -/
def officerCalls : List (CallEnv × SessionCall) :=
  [(callEnvAt 0, .initToken 0 soPin1 blankLabel),
    (callEnvAt 1, .openSession 0 (ckfSerialSession + ckfRwSession)),
    (callEnvAt 2, .login 30064771105 ckuSo soPin1)]

/-- The library after `officerCalls`, which writes no object record. -/
def officerHistory : LoginHistory :=
  officerCalls.foldl (LoginHistory.step pinAnswers.crates ⟨fun _ ↦ [], fun _ ↦ none⟩)
    ⟨.cInitialize (.singleSlot false) .blank .empty .sample, ∅⟩

/-- The session is in the state of the security officer, and the token of its slot, too. -/
theorem officer_session_agrees :
    officerHistory.hsm.sessionManager.sessions[30064771105]? =
        some ⟨30064771105, 0, 6, .rwSO, none, none⟩ ∧
      ∃ slot, officerHistory.hsm.slots[0]? = some slot ∧
        slot.token.auth.login = .soLoggedIn := by
  have hopen : officerHistory.hsm.sessionManager.sessions[30064771105]? =
      some ⟨30064771105, 0, 6, .rwSO, none, none⟩ := by decide +kernel
  refine ⟨hopen, ?_⟩
  obtain ⟨slot, flags, hslot, -, -, hso, -⟩ := sessions_agree_after_every_run pinAnswers.crates
    ⟨fun _ ↦ [], fun _ ↦ none⟩ (.singleSlot false) .blank .empty .sample officerCalls 30064771105
    ⟨30064771105, 0, 6, .rwSO, none, none⟩ hopen
  exact ⟨slot, hslot, hso.mp rfl⟩

end CratonHsm
