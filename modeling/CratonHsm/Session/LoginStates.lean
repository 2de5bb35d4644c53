import CratonHsm.Library.OrderedMap
import CratonHsm.Session.Session
import CratonHsm.Token.Outcomes
import Mathlib.Data.List.TakeWhile

/-!
# Login states of sessions

What a login or logout does to the states of sessions. A session agrees with a login state of its
token when its state is the one that login state and its flags determine
(`LoginState.sessionState`). On sessions that agree with a token in the public state, `login_all`
has no failure and logs every session of the slot in (`loginAll_sessions`);
`cancel_sessions_for_slot` brings every session of the slot back (`cancelSessionsForSlot_sessions`).

In any states, a `login_all` that fails keeps the state of every session, but its rollback is a
logout: the sessions it had logged in lose their operations and searches (`failed_login_all_iff`).
-/

set_option autoImplicit false

namespace CratonHsm

open Library Crypto
open Std (ExtTreeMap)
open LoginState SessionManager

/-! ### The login state of a token -/

theorem Token.incrementSessionCount_auth {token next : Token} {rw : Bool}
    (h : token.incrementSessionCount rw = .ok next) : next.auth = token.auth := by
  unfold Token.incrementSessionCount at h
  split_ifs at h <;> cases h <;> rfl

@[simp]
theorem Token.decrementSessionCount_auth (token : Token) (rw : Bool) :
    (token.decrementSessionCount rw).2.auth = token.auth := by
  unfold Token.decrementSessionCount
  dsimp only
  split_ifs <;> rfl

variable {crates : Crates} {env : TokenEnv} in
theorem loginVerdict_login {s : StoredToken} {role : Role} {pin : Bytes} {verdict : Bool}
    (hverdict : s.loginVerdict crates env role pin = some verdict) :
    s.token.auth.login = .publicState := by
  unfold StoredToken.loginVerdict at hverdict
  split_ifs at hverdict with hguard
  exact hguard.2.1

/-- A login fails and leaves the login state as it was, or enters a role from the public state. -/
theorem login_loginState (crates : Crates) (env : TokenEnv) (s : StoredToken) (userType : Nat)
    (pin : Bytes) :
    ((∃ e, (s.login crates env userType pin).1 = .error e) ∧
        (s.login crates env userType pin).2.token.auth.login = s.token.auth.login) ∨
      ∃ role : Role, userType = role.userType ∧ s.token.auth.login = .publicState ∧
        s.login crates env userType pin = (.ok (), s.enter env role) := by
  by_cases hrole : ∃ role : Role, userType = role.userType
  · obtain ⟨role, rfl⟩ := hrole
    rcases login_outcome crates env s role pin with
      ⟨-, e, heq⟩ | ⟨-, -, heq⟩ | ⟨hverdict, heq⟩
    · exact Or.inl ⟨⟨e, by rw [heq]⟩, by rw [heq]⟩
    · refine Or.inl ⟨⟨_, by rw [heq]; rfl⟩, ?_⟩
      rw [heq]
      cases role <;> simp [AuthState.setLockout]
    · exact Or.inr ⟨role, rfl, loginVerdict_login hverdict, heq⟩
  · obtain ⟨e, heq⟩ := login_of_not_role crates env s pin (not_exists.mp hrole)
    exact Or.inl ⟨⟨e, by rw [heq]⟩, by rw [heq]⟩

/-- An operation other than a login keeps the login state or ends it. -/
theorem TokenEffect.login_cases {crates : Crates} {env : TokenEnv} {s s' : StoredToken}
    {op : TokenOp} {result : HsmResult Unit} (h : TokenEffect crates env s op result s') :
    s'.token.auth.login = s.token.auth.login ∨ s'.token.auth.login = .publicState ∨
      ∃ userType pin, op = .login userType pin := by
  cases h with
  | refused e => exact Or.inl rfl
  | wrongPin role e => cases role <;> exact Or.inl (by simp [AuthState.setLockout])
  | loggedIn role pin _ => exact Or.inr (Or.inr ⟨_, _, rfl⟩)
  | pinChanged role oldPin newPin _ =>
    refine Or.inl ?_
    rw [changePin_token]
    cases role <;> simp [Token.setPinHash, AuthState.setLockout]
  | pinInstalled pin _ _ => exact Or.inl (by rw [installUserPin_token])
  | loggedOut _ => exact Or.inr (Or.inl (by simp))
  | wrongInitToken soPin label e => exact Or.inl (by simp)
  | reinitialized soPin label _ =>
    exact Or.inr (Or.inl (by simp [AuthState.resetForInit, AuthState.new]))
  | restarted =>
    refine Or.inr (Or.inl ?_)
    unfold StoredToken.restart Token.load
    dsimp only
    split <;> rfl

/-! ### Agreement of a session with a login state -/

/-- The session is in one of the two user states. -/
def SessionState.isUser : SessionState → Bool
  | .roUser | .rwUser => true
  | _ => false

/-- The state of a read-write or read-only session whose token is in a login state. -/
def LoginState.sessionState (login : LoginState) (rw : Bool) : SessionState :=
  match login with
  | .publicState => if rw then .rwPublic else .roPublic
  | .userLoggedIn => if rw then .rwUser else .roUser
  | .soLoggedIn => .rwSO

/-- The login state and the kind of session can go together: no read-only session beside a security
officer. -/
def LoginState.admits (login : LoginState) (rw : Bool) : Prop := login = .soLoggedIn → rw = true

/-- The session is in the state that a login state determines. -/
structure Session.Agrees (session : Session) (login : LoginState) : Prop where
  state_eq : session.state = login.sessionState (isRwFlags session.flags)
  admitted : login.admits (isRwFlags session.flags)

/-- The session moved to the state that a login state determines. -/
def Session.withLogin (session : Session) (login : LoginState) : Session :=
  { session with state := login.sessionState (isRwFlags session.flags) }

namespace Session

variable {session : Session} {login : LoginState}

theorem Agrees.isUser_iff (h : session.Agrees login) :
    session.state.isUser = true ↔ login = .userLoggedIn := by
  rw [h.state_eq]
  cases login <;> cases isRwFlags session.flags <;> simp [sessionState,
    SessionState.isUser]

theorem Agrees.isSo_iff (h : session.Agrees login) :
    session.state.isSo = true ↔ login = .soLoggedIn := by
  rw [h.state_eq]
  cases login <;> cases isRwFlags session.flags <;> simp [sessionState,
    SessionState.isSo]

theorem Agrees.isLoggedIn_iff (h : session.Agrees login) :
    session.state.isLoggedIn = true ↔ login ≠ .publicState := by
  rw [h.state_eq]
  cases login <;> cases isRwFlags session.flags <;> simp [sessionState,
    SessionState.isLoggedIn]

theorem Agrees.isRw_eq (h : session.Agrees login) :
    session.state.isRw = isRwFlags session.flags := by
  have hadmitted := h.admitted
  rw [h.state_eq]
  cases login <;> cases hrw : isRwFlags session.flags <;>
    simp_all [sessionState, SessionState.isRw, admits]

theorem new_agrees (handle slotId flags : Nat) :
    (new handle slotId flags).Agrees .publicState :=
  ⟨rfl, by simp [admits]⟩

theorem withLogin_agrees (hadmits : login.admits (isRwFlags session.flags)) :
    (session.withLogin login).Agrees login := ⟨rfl, hadmits⟩

section Public

variable (h : session.Agrees .publicState)
include h

/-- A login moves a session in the public state to the state of the role, if it is admitted. -/
theorem Agrees.onLogin (role : Role) (hadmits : role.loginState.admits (isRwFlags session.flags)) :
    session.onLogin role = .ok (session.withLogin role.loginState) := by
  have hstate := h.state_eq
  cases role <;> cases hrw : isRwFlags session.flags <;>
    simp_all [Session.onLogin, withLogin, sessionState, Role.loginState,
      admits, SessionState.onUserLogin, SessionState.onSoLogin]

/-- A read-only session cannot be moved to the security officer's state. -/
theorem Agrees.onLogin_error {role : Role}
    (hrefused : ¬role.loginState.admits (isRwFlags session.flags)) :
    session.onLogin role = .error .sessionReadOnly := by
  have hstate := h.state_eq
  cases role <;> cases hrw : isRwFlags session.flags <;>
    simp_all [Session.onLogin, sessionState, Role.loginState, admits,
      SessionState.onSoLogin]

theorem Agrees.inherit (hadmits : login.admits (isRwFlags session.flags)) :
    session.inherit login = .ok (session.withLogin login) := by
  cases login with
  | publicState =>
    have hself : session.withLogin .publicState = session := by
      rw [withLogin, ← h.state_eq]
    rw [inherit, hself]
  | userLoggedIn => exact h.onLogin .user hadmits
  | soLoggedIn => exact h.onLogin .so hadmits

/-- A session that can take over a login state agrees with it. -/
theorem Agrees.of_inherit {next : Session} (hinherit : session.inherit login = .ok next) :
    next = session.withLogin login ∧ next.Agrees login := by
  have hadmits : login.admits (isRwFlags session.flags) := by
    by_contra hrefused
    have hso : login = .soLoggedIn := by
      by_contra hother
      exact hrefused fun hso ↦ absurd hso hother
    subst hso
    have hrefusal : session.onLogin .so = .error .sessionReadOnly := h.onLogin_error hrefused
    rw [Session.inherit, hrefusal] at hinherit
    cases hinherit
  rw [h.inherit hadmits] at hinherit
  cases hinherit
  exact ⟨rfl, withLogin_agrees hadmits⟩

end Public

@[simp]
theorem onLogout_flags : session.onLogout.flags = session.flags := by
  unfold onLogout; split <;> rfl

@[simp]
theorem onLogout_slotId : session.onLogout.slotId = session.slotId := by
  unfold onLogout; split <;> rfl

@[simp]
theorem clearOperations_flags : session.clearOperations.flags = session.flags := rfl

@[simp]
theorem clearOperations_slotId : session.clearOperations.slotId = session.slotId := rfl

theorem Agrees.onLogout (h : session.Agrees login) :
    session.onLogout.Agrees .publicState := by
  refine ⟨?_, by simp [admits]⟩
  have hadmitted := h.admitted
  rw [onLogout_flags]
  unfold Session.onLogout
  rw [h.state_eq]
  cases login <;> cases hrw : isRwFlags session.flags <;>
    simp_all [sessionState, SessionState.onLogout, admits, h.state_eq,
      clearOperations]

/-- The session after a login, if it can follow it. -/
def entered (session : Session) (role : Role) : Session :=
  (session.onLogin role).toOption.getD session

theorem onLogout_onLogout (session : Session) :
    session.onLogout.onLogout = session.onLogout := by
  cases hstate : session.state <;>
    simp [onLogout, SessionState.onLogout, clearOperations, hstate]

theorem Agrees.entered (h : session.Agrees .publicState) {role : Role}
    (hadmits : role.loginState.admits (isRwFlags session.flags)) :
    (session.onLogin role).isOk = true ∧ session.entered role =
      session.withLogin role.loginState := by
  rw [Session.entered, h.onLogin role hadmits]
  exact ⟨rfl, rfl⟩

theorem Agrees.clearOperations (h : session.Agrees login) :
    session.clearOperations.Agrees login := ⟨h.state_eq, h.admitted⟩

end Session

/-! ### All sessions of a slot -/

namespace SessionManager

variable (manager : SessionManager)

theorem mem_sessionsOfSlot {slotId handle : Nat} {session : Session} :
    (handle, session) ∈ manager.sessionsOfSlot slotId ↔
      manager.sessions[handle]? = some session ∧ session.slotId = slotId := by
  simp [sessionsOfSlot]

variable (slotId : Nat) (token : Token) (handle : Nat)

theorem nodup_sessionsOfSlot : ((manager.sessionsOfSlot slotId).map Prod.fst).Nodup := by
  have hdistinct : (manager.sessions.toList.map Prod.fst).Nodup := by
    rw [List.Nodup, List.pairwise_map]
    refine manager.sessions.distinct_keys_toList.imp fun h ↦ ?_
    simpa using h
  exact hdistinct.sublist (List.filter_sublist.map _)

@[simp]
theorem setSession_sessions (session : Session) (other : Nat) :
    (manager.setSession handle session).sessions[other]? =
      if handle = other then some session else manager.sessions[other]? := by
  simp [setSession, getElem?_insert_eq_ite]

/-- A session is opened with the state that the login of the token determines, or the table and the
token stay as they are: a read-only session beside a security officer is refused before it is
counted. -/
theorem openSession_eq (flags : Nat) (token : Token) :
    (∃ e, manager.openSession slotId flags token = (.error e, manager, token)) ∨
      ∃ token', token.incrementSessionCount (isRwFlags flags) = .ok token' ∧
        token.auth.login.admits (isRwFlags flags) ∧
        manager.openSession slotId flags token =
          (.ok manager.handleAlloc.allocate.1,
            ⟨manager.sessions.insert manager.handleAlloc.allocate.1
              ((Session.new manager.handleAlloc.allocate.1 slotId flags).withLogin
                token.auth.login),
              manager.handleAlloc.allocate.2⟩, token') := by
  unfold openSession
  cases hallowed : openSessionAllowed flags token.auth.login with
  | error e => exact Or.inl ⟨e, rfl⟩
  | ok u =>
    have hadmits : token.auth.login.admits (isRwFlags flags) := by
      intro hso
      unfold openSessionAllowed at hallowed
      split_ifs at hallowed with hserial hro
      simpa [hso] using hro
    cases hcount : token.incrementSessionCount (isRwFlags flags) with
    | error e => exact Or.inl ⟨e, rfl⟩
    | ok counted =>
      refine Or.inr ⟨counted, rfl, hadmits, ?_⟩
      dsimp only
      rw [Token.incrementSessionCount_auth hcount,
        (Session.new_agrees _ slotId flags).inherit hadmits]

theorem closeAllSessions_sessions : (manager.closeAllSessions slotId token).1.sessions[handle]? =
      manager.sessions[handle]?.filter (·.slotId != slotId) := by
  simp [closeAllSessions]

/-- Closing sessions changes nothing of the token but its counts. -/
theorem closeAllSessions_token : ∃ sessionCount rwSessionCount,
    (manager.closeAllSessions slotId token).2 =
      { token with sessionCount := sessionCount, rwSessionCount := rwSessionCount } := by
  refine List.foldlRecOn (motive := fun next : Token ↦ ∃ sessionCount rwSessionCount,
    next = { token with sessionCount := sessionCount, rwSessionCount := rwSessionCount })
    (manager.sessionsOfSlot slotId) _ ⟨_, _, rfl⟩ ?_
  rintro _ ⟨sessionCount, rwSessionCount, rfl⟩ entry -
  unfold Token.decrementSessionCount
  dsimp only
  split_ifs <;> exact ⟨_, _, rfl⟩

@[simp]
theorem closeAllSessions_auth : (manager.closeAllSessions slotId token).2.auth = token.auth := by
  obtain ⟨sessionCount, rwSessionCount, heq⟩ := manager.closeAllSessions_token slotId token
  rw [heq]

theorem cancelSessionsForSlot_sessions : (manager.cancelSessionsForSlot slotId).sessions[handle]? =
      manager.sessions[handle]?.map fun session ↦
        if session.slotId = slotId then session.clearOperations.onLogout else session := by
  simp [cancelSessionsForSlot]

/-- The session of a handle can follow a login. -/
def enters (role : Role) (handle : Nat) : Bool :=
  manager.sessions[handle]?.any fun session ↦ (session.onLogin role).isOk

theorem logoutSession_sessions (other : Nat) :
    (manager.logoutSession handle).sessions[other]? = manager.sessions[other]?.map fun session ↦
      if other = handle then session.onLogout else session := by
  unfold logoutSession
  cases hsession : manager.sessions[handle]? with
  | none => by_cases hsame : other = handle <;> simp [hsame, hsession]
  | some session =>
    rcases eq_or_ne other handle with rfl | hsame
    · simp [hsession]
    · simp [hsame, hsame.symm]

theorem foldl_logoutSession_sessions (handles : List Nat) (handle : Nat) :
    (handles.foldl logoutSession manager).sessions[handle]? =
      manager.sessions[handle]?.map fun session ↦
        if handle ∈ handles then session.onLogout else session := by
  induction handles generalizing manager with
  | nil => simp
  | cons first handles ih =>
    rw [List.foldl_cons, ih, logoutSession_sessions, Option.map_map]
    congr 1
    funext session
    -- a session that is logged out twice is logged out once
    by_cases hfirst : handle = first <;> by_cases hmem : handle ∈ handles <;>
      simp [hfirst, hmem, Session.onLogout_onLogout]

/-- What `login_all` does to sessions of a slot, in whatever order it meets them: it logs all of
them in, or those before the first that refuses, and then logs these out again. -/
theorem loginEach_eq {slotId : Nat} {role : Role} :
    ∀ (handles loggedIn : List Nat) (current : SessionManager), handles.Nodup →
      (∀ handle ∈ handles, current.sessions[handle]? = manager.sessions[handle]? ∧
        ∃ session, manager.sessions[handle]? = some session ∧ session.slotId = slotId) →
      let after := current.loginEach slotId role handles loggedIn
      after.1.isOk = handles.all (manager.enters role) ∧ ∀ handle : Nat,
        after.2.sessions[handle]? = current.sessions[handle]?.map fun session ↦
          if handles.all (manager.enters role) then
            if handle ∈ handles then session.entered role else session
          else if handle ∈ handles.takeWhile (manager.enters role) then (session.entered
            role).onLogout
          else if handle ∈ loggedIn then session.onLogout else session := by
  intro handles
  induction handles with
  | nil => exact fun _ _ _ _ ↦ ⟨rfl, by simp [loginEach]⟩
  | cons first handles ih =>
    intro loggedIn current hnodup hmine
    obtain ⟨hfirst, hnodup⟩ := List.nodup_cons.mp hnodup
    obtain ⟨hcurrent, session, hsession, hslot⟩ := hmine first List.mem_cons_self
    rw [hsession] at hcurrent
    cases hlogin : session.onLogin role with
    | error e =>
      have henters : manager.enters role first = false := by
        simp [enters, hsession, hlogin, Except.toBool]
      simp [loginEach, hcurrent, hslot, hlogin, henters, foldl_logoutSession_sessions,
        Except.toBool]
    | ok next =>
      have henters : manager.enters role first = true := by
        simp [enters, hsession, hlogin, Except.toBool]
      have hentered : session.entered role = next := by
        simp [Session.entered, hlogin, Except.toOption]
      have hstep : current.loginEach slotId role (first :: handles) loggedIn =
          (current.setSession first next).loginEach slotId role handles (loggedIn ++ [first]) := by
        simp [loginEach, hcurrent, hslot, hlogin]
      -- the sessions still to be logged in are other ones
      obtain ⟨hok, hsessions⟩ := ih (loggedIn ++ [first]) (current.setSession first next) hnodup
        fun handle hmem ↦ by
          rw [setSession_sessions, if_neg (by rintro rfl; exact hfirst hmem)]
          exact hmine handle (List.mem_cons_of_mem _ hmem)
      rw [hstep, List.all_cons, henters, Bool.true_and]
      refine ⟨hok, fun handle ↦ ?_⟩
      rw [hsessions, setSession_sessions, List.takeWhile_cons_of_pos henters]
      rcases eq_or_ne first handle with rfl | hne
      · have hlate : first ∉ handles.takeWhile (manager.enters role) :=
          fun hmem ↦ hfirst (List.takeWhile_subset _ hmem)
        simp [hcurrent, hentered, hfirst, hlate]
      · simp [hne, hne.symm]

/-- The handles of a slot in some order, as the session table yields them. -/
theorem loginEach_of_perm {slotId : Nat} {handles : List Nat}
    (hperm : handles.Perm ((manager.sessionsOfSlot slotId).map Prod.fst)) (role : Role) :
    let after := manager.loginEach slotId role handles []
    after.1.isOk = handles.all (manager.enters role) ∧ ∀ handle : Nat,
      after.2.sessions[handle]? = manager.sessions[handle]?.map fun session ↦
        if handles.all (manager.enters role) then
          if session.slotId = slotId then session.entered role else session
        else if handle ∈ handles.takeWhile (manager.enters role) then (session.entered
          role).onLogout
        else session := by
  have hmem : ∀ handle, handle ∈ handles ↔
      ∃ session, manager.sessions[handle]? = some session ∧ session.slotId = slotId := by
    simp [hperm.mem_iff, mem_sessionsOfSlot]
  obtain ⟨hok, hsessions⟩ := @loginEach_eq manager slotId role handles [] manager
    (hperm.nodup_iff.mpr (manager.nodup_sessionsOfSlot slotId))
    fun handle h ↦ ⟨rfl, (hmem handle).mp h⟩
  refine ⟨hok, fun handle ↦ ?_⟩
  rw [hsessions]
  cases hsession : manager.sessions[handle]? with
  | none => rfl
  | some session => simp [hmem, hsession]

/-- `login_all` on sessions that agree with a token in the public state. -/
theorem loginAll_sessions {slotId : Nat} {role : Role}
    (hagrees : ∀ (handle : Nat) (session : Session), manager.sessions[handle]? = some session →
      session.slotId = slotId →
        session.Agrees .publicState ∧ role.loginState.admits (isRwFlags session.flags)) :
    ∀ handle : Nat, (manager.loginAll slotId role).2.sessions[handle]? =
      manager.sessions[handle]?.map fun session ↦
        if session.slotId = slotId then session.withLogin role.loginState else session := by
  obtain ⟨-, hsessions⟩ := manager.loginEach_of_perm (.refl _) role
  have hall : ((manager.sessionsOfSlot slotId).map Prod.fst).all (manager.enters role) = true := by
    rw [List.all_eq_true]
    intro handle hmem
    obtain ⟨⟨_, session⟩, hentry, rfl⟩ := List.mem_map.mp hmem
    obtain ⟨hsession, hslot⟩ := manager.mem_sessionsOfSlot.mp hentry
    obtain ⟨hpublic, hadmits⟩ := hagrees _ session hsession hslot
    simpa [enters, hsession] using (hpublic.entered hadmits).1
  intro handle
  rw [loginAll, hsessions, hall]
  cases hsession : manager.sessions[handle]? with
  | none => rfl
  | some session =>
    simp only [Option.map_some, if_true]
    split_ifs with hslot
    · obtain ⟨hpublic, hadmits⟩ := hagrees handle session hsession hslot
      rw [(hpublic.entered hadmits).2]
    · rfl

theorem hasRoSessions_eq_false {slotId : Nat} (h : manager.hasRoSessions slotId = false)
    {handle : Nat} {session : Session} (hsession : manager.sessions[handle]? = some session)
    (hslot : session.slotId = slotId) : session.state.isRw = true := by
  unfold hasRoSessions at h
  have hentry := List.any_eq_false.mp h (handle, session)
    (manager.mem_sessionsOfSlot.mpr ⟨hsession, hslot⟩)
  simpa using hentry

/-! ### A login of all sessions, in any states -/

/-- `login_all` with a user type, at the handles of the slot in the order of the session table. -/
def loginAllInOrder (userType : Nat) (handles : List Nat) : HsmResult Unit × SessionManager :=
  if userType = ckuUser then manager.loginEach slotId .user handles []
  else if userType = ckuSo then manager.loginEach slotId .so handles []
  else (.error .userTypeInvalid, manager)

end SessionManager

/-- The states from which a role logs in, with those it leads to. -/
def Role.moves : Role → List (SessionState × SessionState)
  | .user => [(.roPublic, .roUser), (.rwPublic, .rwUser)]
  | .so => [(.rwPublic, .rwSO)]

section Entered

variable {session : Session} {role : Role} (h : (session.onLogin role).isOk = true)
include h

theorem Session.entered_moves : (session.state, (session.entered role).state) ∈ role.moves ∧
    session.entered role = { session with state := (session.entered role).state } := by
  cases role <;> cases hstate : session.state <;>
    simp_all [Session.entered, Session.onLogin, SessionState.onUserLogin, SessionState.onSoLogin,
      Role.moves, Except.isOk, Except.toBool, Except.toOption]

theorem Session.entered_onLogout : (session.entered role).onLogout = session.clearOperations := by
  obtain ⟨hmove, heq⟩ := Session.entered_moves h
  generalize (session.entered role).state = state at hmove heq
  rw [heq]
  cases role <;> cases hstate : session.state <;>
    simp_all [Role.moves, Session.onLogout, SessionState.onLogout, Session.clearOperations]

end Entered

/-- A `login_all` that fails leaves the state of every session as it was, and every session as it
was exactly if none of those it had logged in before the failure had an operation or a search. One
that succeeds moves the sessions of the slot and nothing else. -/
theorem failed_login_all_iff (manager : SessionManager) (slotId userType : Nat) (handles : List Nat)
    (hperm : handles.Perm ((manager.sessionsOfSlot slotId).map Prod.fst)) :
    let after := manager.loginAllInOrder slotId userType handles
    (∀ e, after.1 = .error e →
      (∀ handle : Nat, after.2.sessions[handle]?.map Session.state =
        manager.sessions[handle]?.map Session.state) ∧
      ((∀ handle : Nat, after.2.sessions[handle]? = manager.sessions[handle]?) ↔
        ∀ role : Role, userType = role.userType →
          ∀ handle ∈ handles.takeWhile (manager.enters role), ∀ session,
            manager.sessions[handle]? = some session →
              session.activeOperation = none ∧ session.findContext = none)) ∧
    (after.1 = .ok () → ∃ role : Role, userType = role.userType ∧ ∀ handle : Nat,
      (after.2.sessions[handle]? = manager.sessions[handle]?.map fun session ↦
        if session.slotId = slotId then session.entered role else session) ∧
      ∀ session, manager.sessions[handle]? = some session → session.slotId = slotId →
        (session.state, (session.entered role).state) ∈ role.moves ∧
          session.entered role = { session with state := (session.entered role).state }) := by
  intro after
  have hcases : (∃ role : Role, userType = role.userType ∧
      after = manager.loginEach slotId role handles []) ∨
        after = (.error .userTypeInvalid, manager) ∧ ∀ role : Role, userType ≠ role.userType := by
    simp only [after, loginAllInOrder]
    split_ifs with huser hso
    · exact .inl ⟨.user, huser, rfl⟩
    · exact .inl ⟨.so, hso, rfl⟩
    · exact .inr ⟨rfl, by rintro (_ | _) <;> assumption⟩
  rcases hcases with ⟨role, rfl, hafter⟩ | ⟨hafter, hnone⟩
  swap
  · rw [hafter]
    exact ⟨fun e _ ↦ ⟨fun _ ↦ rfl, fun _ role hrole ↦ absurd hrole (hnone role), fun _ _ ↦
      rfl⟩, nofun⟩
  obtain ⟨hok, hsessions⟩ := manager.loginEach_of_perm hperm role
  rw [← hafter] at hok hsessions
  have hsame : ∀ other : Role, role.userType = other.userType → role = other := by
    cases role <;> rintro (_ | _) <;> decide
  refine ⟨fun e herror ↦ ?_, fun hdone ↦ ⟨role, rfl, fun handle ↦ ?_⟩⟩
  · have hall : handles.all (manager.enters role) = false := by rw [← hok, herror]; rfl
    -- those that were logged in and out again have lost their operations
    have hback : ∀ handle : Nat, after.2.sessions[handle]? =
        manager.sessions[handle]?.map fun session ↦
          if handle ∈ handles.takeWhile (manager.enters role) then session.clearOperations
          else session := by
      intro handle
      rw [hsessions, hall]
      cases hsession : manager.sessions[handle]? with
      | none => rfl
      | some session =>
        by_cases hmem : handle ∈ handles.takeWhile (manager.enters role)
        · have henters := List.mem_takeWhile_imp hmem
          rw [enters, hsession] at henters
          simp [Session.entered_onLogout henters]
        · simp [hmem]
    refine ⟨fun handle ↦ ?_, fun hkept other hother handle hmem session hsession ↦ ?_,
      fun hidle handle ↦ ?_⟩
    · rw [hback, Option.map_map]
      congr 1
      funext session
      dsimp only [Function.comp]
      split_ifs <;> rfl
    · obtain rfl := hsame other hother
      have hcleared := (hback handle).symm.trans (hkept handle)
      simp only [hsession, hmem, if_true, Option.map_some, Option.some.injEq] at hcleared
      rw [← hcleared]
      exact ⟨rfl, rfl⟩
    · rw [hback]
      cases hsession : manager.sessions[handle]? with
      | none => rfl
      | some session =>
        rw [Option.map_some]
        split_ifs with hmem
        · obtain ⟨hoperation, hsearch⟩ := hidle role rfl handle hmem session hsession
          rw [Session.clearOperations, ← hoperation, ← hsearch]
        · rfl
  · have hall : handles.all (manager.enters role) = true := by rw [← hok, hdone]; rfl
    refine ⟨by rw [hsessions, hall]; rfl, fun session hsession hslot ↦ Session.entered_moves ?_⟩
    have hmem : handle ∈ handles := by
      simp [hperm.mem_iff, manager.mem_sessionsOfSlot, hsession, hslot]
    simpa [enters, hsession] using List.all_eq_true.mp hall handle hmem

/-- A read-write session, with or without a search, and a read-only one. -/
def mixedSessions (findContext : Option FindContext) : SessionManager :=
  ⟨((∅ : ExtTreeMap Nat Session).insert 1 ⟨1, 0, 6, .rwPublic, none, findContext⟩).insert 2
    ⟨2, 0, 4, .roPublic, none, none⟩, ⟨0, ⟨[1, 2, 3, 4]⟩⟩⟩

/-- The read-only session refuses the security officer, and all sessions are as before. -/
theorem failed_login_all_idle :
    ((mixedSessions none).loginAllInOrder 0 ckuSo [1, 2]).1 = .error .sessionReadOnly ∧
      ∀ handle : Nat, ((mixedSessions none).loginAllInOrder 0 ckuSo [1, 2]).2.sessions[handle]? =
        (mixedSessions none).sessions[handle]? := by
  have hfails : ((mixedSessions none).loginAllInOrder 0 ckuSo [1, 2]).1 =
      .error .sessionReadOnly := by decide +kernel
  refine ⟨hfails, ((failed_login_all_iff (mixedSessions none) 0 ckuSo [1, 2]
    (by decide +kernel)).1 _ hfails).2.mpr ?_⟩
  intro role _ handle hmem session hsession
  have hidle : ∀ handle ∈ [1, 2], ∀ session ∈ (mixedSessions none).sessions[handle]?,
      session.activeOperation = none ∧ session.findContext = none := by decide +kernel
  exact hidle handle (List.takeWhile_subset _ hmem) session hsession

/-- The search of a session that was logged in and out again is gone. -/
theorem failed_login_all_ends_search :
    ((mixedSessions (some ⟨[7], 0⟩)).loginAllInOrder 0 ckuSo [1, 2]).1 = .error .sessionReadOnly ∧
      (mixedSessions (some ⟨[7], 0⟩)).sessions[1]?.bind Session.findContext = some ⟨[7], 0⟩ ∧
      ((mixedSessions (some ⟨[7], 0⟩)).loginAllInOrder 0 ckuSo [1, 2]).2.sessions[1]?.bind
        Session.findContext = none := by
  decide +kernel

end CratonHsm
