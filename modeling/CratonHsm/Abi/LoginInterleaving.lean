import CratonHsm.Abi.SessionCalls
import CratonHsm.Library.StepSystem
import CratonHsm.Session.LoginStates

/-!
# Concurrent logins, logouts and new sessions

Any number of threads call `C_OpenSession`, `C_Login` and `C_Logout` on one slot, each call cut into
its accesses to the token and to the session table, each access atomic. `C_OpenSession` reads the
login state, counts the session, reads the login state again and inserts the session. `C_Login`
looks for read-only sessions, logs the token in, collects the open sessions and updates them one
after the other; the first session that refuses makes it log out again those it has updated, and it
answers `CKR_OK` all the same. `C_Logout` logs the token out and updates the sessions. A thread
whose call has returned may start another one.

A session that is opened between the login of the token and the collection of the handles refuses
the update, and the login then leaves sessions in the public state; a session whose second read of
the login state comes before a login and whose insertion comes after it is never updated
(`sessions_disagree_after_races`). Runs in which a login, from its first access on, and a logout,
from the logout of the token on, meet no other login or logout and no session between its second
read and its insertion keep every session in agreement with the token
(`sessions_agree_of_undisturbed`).

Scope. The collection of the handles in `cancel_sessions_for_slot` is one access here; the updates
come in any order and may reach sessions inserted after the collection. The lookup of the calling
session, and the object store that a login fills and a logout locks, take no part.
-/

set_option autoImplicit false

namespace CratonHsm.LoginInterleaving

open Library Crypto Session
open Std (ExtTreeMap)

variable {handle : Nat} {session : Session}

/-! ### Threads and steps -/

/-- Where a thread stands between two accesses. -/
inductive Pc where
  | idle
  | openAllowed (flags : Nat)
  | openCounted (flags : Nat)
  | openReady (handle : Nat) (session : Session)
  | loginAllowed (userType : Nat) (pin : Bytes)
  | loginGranted (role : Role)
  | loginUpdating (role : Role) (pending loggedIn : List Nat)
  | loginUndoing (role : Role) (pending : List Nat)
  | logoutGranted
  | logoutUpdating (pending : List Nat)
  deriving DecidableEq

/-- The token, the session table, the threads, and the role of the last `C_Login` that answered
`CKR_OK` unless a logout of the token came after it. -/
structure State where
  token : StoredToken
  manager : SessionManager
  threads : List Pc
  granted : Option Role

/-- The login state of the token. -/
def State.login (s : State) : LoginState := s.token.token.auth.login

/-- Any token with no open session, and idle threads. -/
def State.start (token : StoredToken) (scrambler : HandleScrambler) (threads : Nat) : State :=
  ⟨token, .new scrambler, List.replicate threads .idle, none⟩

/-- Thread `thread` moves on to `pc`. -/
def State.goto (s : State) (thread : Nat) (pc : Pc) : State :=
  { s with threads := s.threads.set thread pc }

/-- The accesses of the three calls. -/
inductive Action where
  | openSession (flags : Nat)
  | count
  | readLogin
  | insert
  | login (userType : Nat) (pin : Bytes)
  | tokenLogin (env : TokenEnv)
  | collect
  | update (handle : Nat)
  | answer
  | logout (env : TokenEnv)

section Steps

variable (crates : Crates) (slotId : Nat) (s : State) (thread : Nat)

/-- The handles of the open sessions of the slot. -/
def State.handles : List Nat := (s.manager.sessionsOfSlot slotId).map Prod.fst

/-- `login_all` visits one of the handles it collected. -/
def updateForLogin (role : Role) (pending loggedIn : List Nat) (handle : Nat) : State :=
  let rest := pending.erase handle
  match s.manager.sessions[handle]? with
  | none => s.goto thread (.loginUpdating role rest loggedIn)
  | some session =>
    if session.slotId ≠ slotId then s.goto thread (.loginUpdating role rest loggedIn)
    else
      match session.onLogin role with
      | .error _ => s.goto thread (.loginUndoing role loggedIn)
      | .ok session => { s with manager := s.manager.setSession handle session }.goto thread
          (.loginUpdating role rest (loggedIn ++ [handle]))

/-- `cancel_sessions_for_slot` visits a session. -/
def updateForLogout (pending : List Nat) (handle : Nat) (session : Session) : State :=
  let session := if session.slotId = slotId then session.clearOperations.onLogout else session
  { s with manager := s.manager.setSession handle session }.goto thread
    (.logoutUpdating (pending.erase handle))

/-- A thread at `pc` makes its next access. A call that is refused or fails returns. -/
def access : Pc → Action → Option State
  | .idle, .openSession flags =>
    match openSessionAllowed flags s.login with
    | .error _ => some s
    | .ok () => some (s.goto thread (.openAllowed flags))
  | .openAllowed flags, .count =>
    match s.token.token.incrementSessionCount (isRwFlags flags) with
    | .error _ => some (s.goto thread .idle)
    | .ok token =>
      some ({ s with token := { s.token with token := token } }.goto thread (.openCounted flags))
  | .openCounted flags, .readLogin =>
    let (handle, handleAlloc) := s.manager.handleAlloc.allocate
    let s := { s with manager := { s.manager with handleAlloc := handleAlloc } }
    match (Session.new handle slotId flags).inherit s.login with
    | .error _ =>
      let token := (s.token.token.decrementSessionCount (isRwFlags flags)).2
      some ({ s with token := { s.token with token := token } }.goto thread .idle)
    | .ok session => some (s.goto thread (.openReady handle session))
  | .openReady handle session, .insert =>
    some ({ s with manager := s.manager.setSession handle session }.goto thread .idle)
  | .idle, .login userType pin =>
    if userType = ckuSo ∧ s.manager.hasRoSessions slotId then some s
    else if maxPinBytes < pin.length then some s
    else some (s.goto thread (.loginAllowed userType pin))
  | .loginAllowed userType pin, .tokenLogin env =>
    match s.token.login crates env userType pin with
    | (.error _, token) => some ({ s with token := token }.goto thread .idle)
    | (.ok (), token) =>
      some ({ s with token := token }.goto thread
        ((roleOfUserType userType).elim .idle .loginGranted))
  | .loginGranted role, .collect =>
    some (s.goto thread (.loginUpdating role (s.handles slotId) []))
  | .loginUpdating role pending loggedIn, .update handle =>
    if handle ∈ pending then some (updateForLogin slotId s thread role pending loggedIn handle)
    else none
  | .loginUpdating role [] _, .answer => some ({ s with granted := some role }.goto thread .idle)
  | .loginUndoing role pending, .update handle =>
    if handle ∈ pending then
      some ({ s with manager := s.manager.logoutSession handle }.goto thread
        (.loginUndoing role (pending.erase handle)))
    else none
  | .loginUndoing role [], .answer => some ({ s with granted := some role }.goto thread .idle)
  | .idle, .logout env =>
    match s.token.logout env with
    | (.error _, token) => some { s with token := token }
    | (.ok (), token) =>
      some ({ s with token := token, granted := none }.goto thread .logoutGranted)
  | .logoutGranted, .collect => some (s.goto thread (.logoutUpdating (s.handles slotId)))
  | .logoutUpdating pending, .update handle =>
    (s.manager.sessions[handle]?).map (updateForLogout slotId s thread pending handle)
  | .logoutUpdating [], .answer => some (s.goto thread .idle)
  | _, _ => none

/-- Thread `thread` makes its next access. -/
def step (label : Nat × Action) : Option State :=
  s.threads[label.1]?.bind fun pc ↦ access crates slotId s label.1 pc label.2

end Steps

/-- The thread is in the part of a login or a logout that no other call may meet. -/
def Pc.changesLogin : Pc → Bool
  | .loginAllowed _ _ | .loginGranted _ | .loginUpdating _ _ _ | .loginUndoing _ _ => true
  | .logoutGranted | .logoutUpdating _ => true
  | _ => false

/-- The thread has read the login state for a session that it has not inserted yet. -/
def Pc.holdsSession : Pc → Bool
  | .openReady _ _ => true
  | _ => false

/-- No session reads the login state while a login or logout is under way, and none starts while
another is under way or a session that has read the login state is not inserted. -/
def Undisturbed (s : State) : Nat × Action → Prop
  | (_, .readLogin) => ∀ pc ∈ s.threads, pc.changesLogin = false
  | (_, .login _ _) | (_, .logout _) =>
    ∀ pc ∈ s.threads, pc.changesLogin = false ∧ pc.holdsSession = false
  | _ => True

instance (s : State) (label : Nat × Action) : Decidable (Undisturbed s label) :=
  match label with
  | (_, .readLogin) => inferInstanceAs (Decidable (∀ pc ∈ s.threads, pc.changesLogin = false))
  | (_, .login _ _) | (_, .logout _) =>
    inferInstanceAs
      (Decidable (∀ pc ∈ s.threads, pc.changesLogin = false ∧ pc.holdsSession = false))
  | (_, .openSession _) | (_, .count) | (_, .insert) | (_, .tokenLogin _) | (_, .collect)
  | (_, .update _) | (_, .answer) => .isTrue trivial

/-! ### The invariant of undisturbed runs -/

section Invariant

variable {slotId : Nat} {s : State} {thread : Nat}

/-- Every open session is one of the slot and has a property that may depend on its handle. -/
def EachSession (slotId : Nat) (sessions : ExtTreeMap Nat Session)
    (property : Nat → Session → Prop) : Prop :=
  ∀ (handle : Nat) (session : Session), sessions[handle]? = some session →
    session.slotId = slotId ∧ property handle session

variable {sessions : ExtTreeMap Nat Session} {old pc : Pc} {t : State}

theorem EachSession.imp {slotId : Nat} {p q : Nat → Session → Prop}
    (h : EachSession slotId sessions p)
    (himp : ∀ handle session, sessions[handle]? = some session → session.slotId = slotId →
      p handle session → q handle session) : EachSession slotId sessions q :=
  fun handle session hsession ↦
    ⟨(h handle session hsession).1, himp handle session hsession (h handle session hsession).1
      (h handle session hsession).2⟩

/-- A login of the role would move the session to the state of the role. -/
def AwaitsLogin (role : Role) (session : Session) : Prop :=
  session.Agrees .publicState ∧ role.loginState.admits (isRwFlags session.flags)

/-- What a thread in the midst of a login or logout knows of the token and the sessions. -/
def Pc.Knows (slotId : Nat) (login : LoginState) (sessions : ExtTreeMap Nat Session) : Pc → Prop
  | .loginAllowed userType _ => EachSession slotId sessions fun _ session ↦
      session.Agrees login ∧ (userType = ckuSo → isRwFlags session.flags = true)
  | .loginGranted role => login = role.loginState ∧
      EachSession slotId sessions fun _ ↦ AwaitsLogin role
  | .loginUpdating role pending _ => login = role.loginState ∧ pending.Nodup ∧
      EachSession slotId sessions fun handle session ↦
        (handle ∈ pending → AwaitsLogin role session) ∧
          (handle ∉ pending → session.Agrees role.loginState)
  | .loginUndoing _ _ => False
  | .logoutGranted => login = .publicState ∧
      EachSession slotId sessions fun _ session ↦ ∃ before, session.Agrees before
  | .logoutUpdating pending => login = .publicState ∧ pending.Nodup ∧
      EachSession slotId sessions fun handle session ↦
        ∃ before, session.Agrees before ∧ (handle ∉ pending → before = .publicState)
  | _ => EachSession slotId sessions fun _ session ↦ session.Agrees login

/-- No other thread changes the login state or holds a session. -/
def State.Alone (s : State) (thread : Nat) : Prop :=
  ∀ other pc, other ≠ thread → s.threads[other]? = some pc →
    pc.changesLogin = false ∧ pc.holdsSession = false

/-- What holds in every state of an undisturbed run: a thread in the midst of a login or logout is
alone and knows the state it works on; without such a thread every session agrees with the token,
and so does every session about to be inserted; and a granted login is still the token's. -/
structure Inv (slotId : Nat) (s : State) : Prop where
  alone : ∀ {thread pc}, s.threads[thread]? = some pc → pc.changesLogin = true → s.Alone thread
  knows : ∀ {pc}, pc ∈ s.threads → pc.changesLogin = true →
    pc.Knows slotId s.login s.manager.sessions
  settled : (∀ pc ∈ s.threads, pc.changesLogin = false) →
    EachSession slotId s.manager.sessions fun _ session ↦ session.Agrees s.login
  ready : ∀ {handle session}, .openReady handle session ∈ s.threads →
    session.slotId = slotId ∧ session.Agrees s.login
  granted : ∀ {role}, s.granted = some role → s.login = role.loginState

theorem inv_start (token : StoredToken) (scrambler : HandleScrambler) (threads : Nat) :
    Inv slotId (.start token scrambler threads) where
  alone hthread hchanges := by
    rw [List.eq_of_mem_replicate (List.mem_of_getElem? hthread)] at hchanges
    cases hchanges
  knows hmem hchanges := by
    rw [List.eq_of_mem_replicate hmem] at hchanges
    cases hchanges
  settled _ handle session hsession := by
    simp [State.start, SessionManager.new] at hsession
  ready hmem := by cases List.eq_of_mem_replicate hmem
  granted h := by cases h

/-! ### Each access keeps the invariant -/

theorem mem_set_iff {threads : List Pc} (hold : threads[thread]? = some old) (value pc : Pc) :
    pc ∈ threads.set thread value ↔
      pc = value ∨ ∃ other, other ≠ thread ∧ threads[other]? = some pc := by
  constructor
  · intro h
    obtain ⟨other, hother⟩ := List.mem_iff_getElem?.mp h
    grind
  · rintro (rfl | ⟨other, hne, hother⟩)
    · exact List.mem_set (List.getElem?_eq_some_iff.mp hold).1 pc
    · exact List.mem_iff_getElem?.mpr ⟨other, by grind⟩

theorem Pc.Knows.settled {login : LoginState} (hknows : pc.Knows slotId login sessions)
    (hchanges : pc.changesLogin = false) :
    EachSession slotId sessions fun _ session ↦ session.Agrees login := by
  cases pc <;> first | exact hknows | cases hchanges

theorem alone_of_forall (h : ∀ pc ∈ s.threads, pc.changesLogin = false ∧ pc.holdsSession = false)
    (thread : Nat) :
    s.Alone thread := fun _ pc _ hpc ↦ h pc (List.mem_of_getElem? hpc)

/-- A thread that is alone moves on, to a point of a login or logout or out of it. -/
theorem inv_of_alone (halone : s.Alone thread) (hold : s.threads[thread]? = some old)
    (hthreads : t.threads = s.threads.set thread pc) (hholds : pc.holdsSession = false)
    (hknows : pc.Knows slotId t.login t.manager.sessions)
    (hgranted : ∀ role, t.granted = some role → t.login = role.loginState) : Inv slotId t := by
  have hmem := hthreads ▸ mem_set_iff hold pc
  have hsettled := fun h ↦ hknows.settled h
  constructor <;> grind [State.Alone, Pc.changesLogin, Pc.holdsSession]

section Moves

variable (hinv : Inv slotId s)
include hinv

/-- A thread in a login or logout makes its next access, from what it knows. -/
theorem Inv.advance (hold : s.threads[thread]? = some old) (hchanges : old.changesLogin = true)
    (hthreads : t.threads = s.threads.set thread pc) (hholds : pc.holdsSession = false)
    (hgranted : ∀ role, t.granted = some role → t.login = role.loginState)
    (hknows : old.Knows slotId s.login s.manager.sessions →
      pc.Knows slotId t.login t.manager.sessions) : Inv slotId t :=
  inv_of_alone (hinv.alone hold hchanges) hold hthreads hholds
    (hknows (hinv.knows (List.mem_of_getElem? hold) hchanges)) hgranted

/-- A thread that opens a session moves on without touching the login state or the sessions. -/
theorem Inv.move (hold : s.threads[thread]? = some old) (hout : old.changesLogin = false)
    (hthreads : t.threads = s.threads.set thread pc) (hpc : pc.changesLogin = false)
    (hlogin : t.login = s.login) (hsessions : t.manager.sessions = s.manager.sessions)
    (hgranted : t.granted = s.granted)
    (hready : ∀ handle session, pc = .openReady handle session →
      (∀ pc ∈ s.threads, pc.changesLogin = false) ∧ session.slotId = slotId ∧
        session.Agrees s.login) : Inv slotId t := by
  -- a session is read only while no thread changes the login state
  have hholds : pc.holdsSession = true → ∀ pc ∈ s.threads, pc.changesLogin = false := by
    cases pc <;> simp_all [Pc.holdsSession]
  have hmem := hthreads ▸ mem_set_iff hold pc
  obtain ⟨⟩ := hinv
  constructor
  all_goals grind [State.Alone, List.mem_iff_getElem?]

/-- No login or logout is under way while a thread holds a session. -/
theorem Inv.not_changing (hthread : s.threads[thread]? = some (.openReady handle session)) :
    ∀ pc ∈ s.threads, pc.changesLogin = false := by
  obtain ⟨⟩ := hinv
  grind [State.Alone, List.mem_iff_getElem?, Pc.changesLogin, Pc.holdsSession]

theorem Inv.insert (hthread : s.threads[thread]? = some (.openReady handle session)) :
    Inv slotId ({ s with manager := s.manager.setSession handle session }.goto thread .idle) := by
  have hnone := hinv.not_changing hthread
  obtain ⟨⟩ := hinv
  constructor <;>
    grind [State.goto, State.Alone, List.mem_iff_getElem?, Pc.changesLogin, EachSession,
      SessionManager.setSession_sessions, State.login]

end Moves

/-! ### A login -/

section Login

variable {userType : Nat} {pin : Bytes} {role : Role}

/-- A login passes its check of the read-only sessions. -/
theorem Inv.allowLogin (hinv : Inv slotId s) (hthread : s.threads[thread]? = some .idle)
    (hguard : ∀ pc ∈ s.threads, pc.changesLogin = false ∧ pc.holdsSession = false)
    (hro : ¬(userType = ckuSo ∧ s.manager.hasRoSessions slotId = true)) :
    Inv slotId (s.goto thread (.loginAllowed userType pin)) := by
  refine inv_of_alone (alone_of_forall hguard thread) hthread rfl rfl ?_ fun _ ↦ hinv.granted
  refine (hinv.settled fun pc hmem ↦ (hguard pc hmem).1).imp fun handle session hsession hslot
    hagrees ↦ ⟨hagrees, fun hso ↦ ?_⟩
  have hnone : s.manager.hasRoSessions slotId = false := by simpa [hso] using hro
  rw [← hagrees.isRw_eq]
  exact s.manager.hasRoSessions_eq_false hnone hsession hslot

theorem role_loginState_ne_public (role : Role) : role.loginState ≠ .publicState := by
  cases role <;> simp [Role.loginState]

/-- The token logs in, or the login returns. -/
theorem Inv.tokenLogin {crates : Crates} {env : TokenEnv} {t : State} (hinv : Inv slotId s)
    (hthread : s.threads[thread]? = some (.loginAllowed userType pin))
    (hstep : access crates slotId s thread (.loginAllowed userType pin) (.tokenLogin env) =
      some t) :
    Inv slotId t := by
  rcases login_loginState crates env s.token userType pin with
    ⟨⟨e, herror⟩, hlogin⟩ | ⟨role, rfl, hpublic, heq⟩
  · obtain ⟨token, heq⟩ : ∃ token, s.token.login crates env userType pin = (.error e, token) :=
      ⟨_, Prod.ext herror rfl⟩
    simp only [access, heq, Option.some.injEq] at hstep hlogin
    subst hstep
    have hsame : ({ s with token := token } : State).login = s.login := hlogin
    exact hinv.advance hthread rfl rfl rfl (fun _ hrole ↦ hsame.trans (hinv.granted hrole))
      fun heach ↦ heach.imp fun _ _ _ _ hagrees ↦ hsame ▸ hagrees.1
  · simp only [access, heq, roleOfUserType_eq, Option.some.injEq] at hstep
    subst hstep
    have hentered : ({ s with token := s.token.enter env role } : State).login =
      role.loginState := by
      simp [State.login]
    refine hinv.advance hthread rfl rfl rfl (fun role' hrole' ↦ absurd
      ((hinv.granted hrole').symm.trans hpublic) (role_loginState_ne_public role')) fun heach ↦
      ⟨hentered, heach.imp fun _ session _ _ ⟨hagrees, hrw⟩ ↦ ⟨hpublic ▸ hagrees, fun hso ↦ ?_⟩⟩
    cases role with
    | user => cases hso
    | so => exact hrw rfl

theorem mem_handles (hsession : s.manager.sessions[handle]? = some session)
    (hslot : session.slotId = slotId) :
    handle ∈ s.handles slotId :=
  List.mem_map.mpr ⟨(handle, session), s.manager.mem_sessionsOfSlot.mpr ⟨hsession, hslot⟩, rfl⟩

theorem Inv.collectForLogin (hinv : Inv slotId s)
    (hthread : s.threads[thread]? = some (.loginGranted role)) :
    Inv slotId (s.goto thread (.loginUpdating role (s.handles slotId) [])) := by
  refine hinv.advance hthread rfl rfl rfl (fun _ ↦ hinv.granted) fun ⟨hlogin, heach⟩ ↦
    ⟨hlogin, s.manager.nodup_sessionsOfSlot slotId, heach.imp fun _ _ hsession hslot hawaits ↦ ?_⟩
  exact ⟨fun _ ↦ hawaits, fun hmissing ↦ absurd (mem_handles hsession hslot) hmissing⟩

theorem Inv.updateForLogin {role : Role} {pending loggedIn : List Nat} (hinv : Inv slotId s)
    (hthread : s.threads[thread]? = some (.loginUpdating role pending loggedIn))
    (hpending : handle ∈ pending) :
    Inv slotId (updateForLogin slotId s thread role pending loggedIn handle) := by
  obtain ⟨hlogin, hnodup, heach⟩ :
      Pc.Knows slotId s.login s.manager.sessions (.loginUpdating role pending loggedIn) :=
    hinv.knows (List.mem_of_getElem? hthread) rfl
  have halone := hinv.alone hthread rfl
  have hrest : ∀ other, other ≠ handle → (other ∈ pending.erase handle ↔ other ∈ pending) :=
    fun other hother ↦ List.mem_erase_of_ne hother
  have hdone : handle ∉ pending.erase handle := hnodup.not_mem_erase
  unfold LoginInterleaving.updateForLogin
  cases hopen : s.manager.sessions[handle]? with
  | none =>
    refine inv_of_alone halone hthread rfl rfl ⟨hlogin, hnodup.erase handle, ?_⟩
      fun _ ↦ hinv.granted
    intro other session hsession
    have hother : other ≠ handle := by
      rintro rfl
      have hsession : s.manager.sessions[other]? = some session := hsession
      rw [hopen] at hsession
      cases hsession
    simp only [hrest other hother]
    exact heach other session hsession
  | some session =>
    obtain ⟨hslot, hawaits⟩ := heach handle session hopen
    have hawaits := hawaits.1 hpending
    dsimp only
    rw [if_neg (not_not.mpr hslot), hawaits.1.onLogin role hawaits.2]
    refine inv_of_alone halone hthread rfl rfl ⟨hlogin, hnodup.erase handle, ?_⟩
      fun _ ↦ hinv.granted
    intro other value hvalue
    simp only [State.goto, SessionManager.setSession_sessions] at hvalue
    split_ifs at hvalue with hsame
    · subst hsame
      rw [← Option.some.inj hvalue]
      exact ⟨hslot, fun hmem ↦ absurd hmem hdone, fun _ ↦ Session.withLogin_agrees hawaits.2⟩
    · simp only [hrest other (Ne.symm hsame)]
      exact heach other value hvalue

theorem Inv.answerLogin {loggedIn : List Nat} (hinv : Inv slotId s)
    (hthread : s.threads[thread]? = some (.loginUpdating role [] loggedIn)) :
    Inv slotId ({ s with granted := some role }.goto thread .idle) := by
  have hlogin : s.login = role.loginState := (hinv.knows (List.mem_of_getElem? hthread) rfl).1
  refine hinv.advance hthread rfl rfl rfl (fun role' hrole' ↦ ?_) fun ⟨_, _, heach⟩ ↦
    heach.imp fun _ _ _ _ hagrees ↦ ?_
  · rw [← Option.some.inj hrole']
    exact hlogin
  · exact hlogin ▸ hagrees.2 List.not_mem_nil

end Login

/-! ### A logout -/

section Logout

variable (hinv : Inv slotId s)
include hinv

/-- The token logs out, or the logout returns. -/
theorem Inv.tokenLogout (crates : Crates) {env : TokenEnv} {t : State}
    (hthread : s.threads[thread]? = some .idle)
    (hguard : ∀ pc ∈ s.threads, pc.changesLogin = false ∧ pc.holdsSession = false)
    (hstep : access crates slotId s thread .idle (.logout env) = some t) : Inv slotId t := by
  rcases logout_outcome env s.token with ⟨-, e, heq⟩ | ⟨-, heq⟩
  · simp only [access, heq, Option.some.injEq] at hstep
    subst hstep
    exact hinv
  · simp only [access, heq, Option.some.injEq] at hstep
    subst hstep
    refine inv_of_alone (alone_of_forall hguard thread) hthread rfl rfl ⟨?_, ?_⟩
      fun role hrole ↦ by cases hrole
    · simp [State.login, State.goto]
    · exact (hinv.settled fun pc hmem ↦ (hguard pc hmem).1).imp fun _ _ _ _ hagrees ↦
        ⟨s.login, hagrees⟩

theorem Inv.collectForLogout (hthread : s.threads[thread]? = some .logoutGranted) :
    Inv slotId (s.goto thread (.logoutUpdating (s.handles slotId))) := by
  refine hinv.advance hthread rfl rfl rfl (fun _ ↦ hinv.granted) fun ⟨hlogin, heach⟩ ↦
    ⟨hlogin, s.manager.nodup_sessionsOfSlot slotId,
      heach.imp fun _ _ hsession hslot ⟨before, hagrees⟩ ↦ ⟨before, hagrees, fun hmissing ↦ ?_⟩⟩
  exact absurd (mem_handles hsession hslot) hmissing

theorem Inv.updateForLogout {pending : List Nat}
    (hthread : s.threads[thread]? = some (.logoutUpdating pending))
    (hopen : s.manager.sessions[handle]? = some session) :
    Inv slotId (updateForLogout slotId s thread pending handle session) := by
  obtain ⟨hlogin, hnodup, heach⟩ :
      Pc.Knows slotId s.login s.manager.sessions (.logoutUpdating pending) :=
    hinv.knows (List.mem_of_getElem? hthread) rfl
  obtain ⟨hslot, before, hagrees, -⟩ := heach handle session hopen
  unfold LoginInterleaving.updateForLogout
  rw [if_pos hslot]
  refine inv_of_alone (hinv.alone hthread rfl) hthread rfl rfl ⟨hlogin, hnodup.erase handle, ?_⟩
    fun _ ↦ hinv.granted
  intro other value hvalue
  simp only [State.goto, SessionManager.setSession_sessions] at hvalue
  split_ifs at hvalue with hsame
  · rw [← Option.some.inj hvalue]
    exact ⟨by simp [hslot], .publicState, hagrees.clearOperations.onLogout, fun _ ↦ rfl⟩
  · obtain ⟨hslot', before', hagrees', hdone⟩ := heach other value hvalue
    refine ⟨hslot', before', hagrees', fun hmissing ↦ hdone ?_⟩
    rwa [List.mem_erase_of_ne (Ne.symm hsame)] at hmissing

theorem Inv.answerLogout (hthread : s.threads[thread]? = some (.logoutUpdating [])) :
    Inv slotId (s.goto thread .idle) := by
  refine hinv.advance hthread rfl rfl rfl (fun _ ↦ hinv.granted) fun ⟨hlogin, _, heach⟩ ↦
    heach.imp fun _ _ _ _ ⟨before, hagrees, hdone⟩ ↦ ?_
  rw [hdone List.not_mem_nil] at hagrees
  exact hlogin ▸ hagrees

end Logout

/-! ### A new session -/

section Open

variable (crates : Crates) {flags : Nat}

theorem Inv.count (hinv : Inv slotId s) (hthread : s.threads[thread]? = some (.openAllowed flags))
    (hstep : access crates slotId s thread (.openAllowed flags) .count = some t) :
    Inv slotId t := by
  simp only [access] at hstep
  cases hcount : s.token.token.incrementSessionCount (isRwFlags flags) with
  | error e =>
    simp only [hcount, Option.some.injEq] at hstep
    subst hstep
    exact hinv.move hthread rfl rfl rfl rfl rfl rfl fun _ _ h ↦ by cases h
  | ok token =>
    simp only [hcount, Option.some.injEq] at hstep
    subst hstep
    refine hinv.move hthread rfl rfl rfl ?_ rfl rfl fun _ _ h ↦ by cases h
    exact congrArg AuthState.login (Token.incrementSessionCount_auth hcount)

/-- A new session takes over the login state, or the call returns. -/
theorem Inv.readLogin (hinv : Inv slotId s)
    (hthread : s.threads[thread]? = some (.openCounted flags))
    (hguard : ∀ pc ∈ s.threads, pc.changesLogin = false)
    (hstep : access crates slotId s thread (.openCounted flags) .readLogin = some t) :
    Inv slotId t := by
  simp only [access] at hstep
  cases hinherit :
      (Session.new s.manager.handleAlloc.allocate.1 slotId flags).inherit s.login with
  | error e =>
    simp only [State.login] at hinherit
    simp only [State.login, hinherit, Option.some.injEq] at hstep
    subst hstep
    refine hinv.move hthread rfl rfl rfl ?_ rfl rfl fun _ _ h ↦ by cases h
    exact congrArg AuthState.login (Token.decrementSessionCount_auth _ _)
  | ok session =>
    obtain ⟨hsession, hagrees⟩ := (Session.new_agrees _ slotId flags).of_inherit hinherit
    simp only [State.login] at hinherit
    simp only [State.login, hinherit, Option.some.injEq] at hstep
    subst hstep
    refine hinv.move hthread rfl rfl rfl rfl rfl rfl fun handle session' h ↦ ?_
    cases h
    exact ⟨hguard, by rw [hsession]; rfl, hagrees⟩

end Open

theorem Inv.step {crates : Crates} {t : State} {label : Nat × Action} (hinv : Inv slotId s)
    (hguard : Undisturbed s label) (hstep : step crates slotId s label = some t) :
    Inv slotId t := by
  obtain ⟨thread, action⟩ := label
  obtain ⟨pc, hthread, haccess⟩ := Option.bind_eq_some_iff.mp hstep
  dsimp only at hthread haccess
  unfold access at haccess
  split at haccess
  -- the opening of a session
  next flags =>
    split at haccess <;> cases haccess
    · exact hinv
    · exact hinv.move hthread rfl rfl rfl rfl rfl rfl fun _ _ h ↦ by cases h
  next flags => exact hinv.count crates hthread haccess
  next flags => exact hinv.readLogin crates hthread hguard haccess
  next handle session =>
    cases haccess
    exact hinv.insert hthread
  -- a login
  next userType pin =>
    split_ifs at haccess with hro hlength <;> cases haccess
    · exact hinv
    · exact hinv
    · exact hinv.allowLogin hthread hguard hro
  next userType pin env => exact hinv.tokenLogin hthread haccess
  next role =>
    cases haccess
    exact hinv.collectForLogin hthread
  next role pending loggedIn handle =>
    split_ifs at haccess with hpending
    cases haccess
    exact hinv.updateForLogin hthread hpending
  next role loggedIn =>
    cases haccess
    exact hinv.answerLogin hthread
  -- no login has to be undone
  next role pending handle => exact (hinv.knows (List.mem_of_getElem? hthread) rfl).elim
  next role => exact (hinv.knows (List.mem_of_getElem? hthread) rfl).elim
  -- a logout
  next env => exact hinv.tokenLogout crates hthread hguard haccess
  next =>
    cases haccess
    exact hinv.collectForLogout hthread
  next pending handle =>
    obtain ⟨session, hopen, rfl⟩ := Option.map_eq_some_iff.mp haccess
    exact hinv.updateForLogout hthread hopen
  next =>
    cases haccess
    exact hinv.answerLogout hthread
  next => cases haccess

end Invariant

/-- After every undisturbed run whose calls have all returned, every open session of the slot is
logged in as a role exactly if the token is; a login that answered `CKR_OK` and met no logout since
has left every session logged in as its role; and no read-only session is open beside a security
officer. -/
theorem sessions_agree_of_undisturbed (crates : Crates) (slotId : Nat) (token : StoredToken)
    (scrambler : HandleScrambler) (threads : Nat) (labels : List (Nat × Action)) (s : State)
    (hundisturbed : StepsMeet (step crates slotId) Undisturbed
      (.start token scrambler threads) labels)
    (hrun : runSteps (step crates slotId) (.start token scrambler threads) labels = some s)
    (hreturned : ∀ pc ∈ s.threads, pc = .idle) :
    ∀ (handle : Nat) (session : Session), s.manager.sessions[handle]? = some session →
      (session.state.isUser = true ↔ s.login = .userLoggedIn) ∧
        (session.state.isSo = true ↔ s.login = .soLoggedIn) ∧
        (∀ role, s.granted = some role → s.login = role.loginState ∧
          session.state.isLoggedIn = true) ∧
        (s.login = .soLoggedIn → session.state.isRw = true) := by
  intro handle session hsession
  have hinv : Inv slotId s := runSteps_invariant
    (fun s label t hinv hguard hstep ↦ hinv.step hguard hstep) labels _ s
    (inv_start token scrambler threads) hundisturbed hrun
  obtain ⟨-, hagrees⟩ := hinv.settled (fun pc hmem ↦ by rw [hreturned pc hmem]; rfl) handle session
    hsession
  refine ⟨hagrees.isUser_iff, hagrees.isSo_iff, fun role hrole ↦ ?_, fun hso ↦ ?_⟩
  · have hlogin := hinv.granted hrole
    exact ⟨hlogin, hagrees.isLoggedIn_iff.mpr (hlogin ▸ role_loginState_ne_public role)⟩
  · rw [hagrees.isRw_eq]
    exact hagrees.admitted hso

/-! ### Races -/

/-- A token whose security officer and user have their PINs, in the public state. -/
def twoPinToken : StoredToken :=
  [(envAt 0, .initToken soPin1 blankLabel), (envAt 1, .login ckuSo soPin1),
      (envAt 2, .initPin user01), (envAt 3, .logout)].foldl
    (fun (s : StoredToken) (call : TokenEnv × TokenOp) ↦
      (call.2.apply pinAnswers.crates call.1 s).2) (StoredToken.fresh .strict)

/-- Two idle threads on that token. -/
def twoThreads : State := .start twoPinToken ⟨[1, 2, 3, 4]⟩ 2

/-- A whole `C_OpenSession` of a thread. -/
def opening (thread flags : Nat) : List (Nat × Action) :=
  [(thread, .openSession flags), (thread, .count), (thread, .readLogin), (thread, .insert)]

/-- A session is open. The user logs in on it, and a second session is opened after the login of the
token and before the collection of the handles; it refuses the update that comes after the first. -/
def openDuringLogin : List (Nat × Action) :=
  opening 0 (ckfSerialSession + ckfRwSession) ++
    [(0, .login ckuUser user01), (0, .tokenLogin (envAt 4))] ++
    opening 1 (ckfSerialSession + ckfRwSession) ++
    [(0, .collect), (0, .update 30064771105), (0, .update 60129542210), (0, .update 30064771105),
      (0, .answer)]

/-- A read-only session reads the login state before the security officer logs in, and is inserted
after that. -/
def insertAfterLogin : List (Nat × Action) :=
  opening 0 (ckfSerialSession + ckfRwSession) ++
    [(1, .openSession ckfSerialSession), (1, .count), (1, .readLogin)] ++
    [(0, .login ckuSo soPin1), (0, .tokenLogin (envAt 4)), (0, .collect), (0, .update 30064771105),
      (0, .answer)] ++
    [(1, .insert)]

/-- What the callers can learn of a state. -/
structure View where
  threads : List Pc
  login : LoginState
  granted : Option Role
  sessions : List (Nat × SessionState)
  deriving DecidableEq

/-- The view of a state, with the sessions in the order of their handles. -/
def State.view (s : State) : View where
  threads := s.threads
  login := s.login
  granted := s.granted
  sessions := s.manager.sessions.toList.map fun entry ↦ (entry.1, entry.2.state)

/-- All calls have returned. In the first run the token is user-logged-in by a login that answered
`CKR_OK`, and the session it was made on is in the public state; in the second a read-only public
session is open beside the security officer. -/
theorem sessions_disagree_after_races :
    (runSteps (step pinAnswers.crates 0) twoThreads openDuringLogin).map State.view =
        some ⟨[.idle, .idle], .userLoggedIn, some .user,
          [(30064771105, .rwPublic), (60129542210, .rwUser)]⟩ ∧
      (runSteps (step pinAnswers.crates 0) twoThreads insertAfterLogin).map State.view =
        some ⟨[.idle, .idle], .soLoggedIn, some .so,
          [(30064771105, .rwSO), (60129542210, .roPublic)]⟩ := by
  decide +kernel

/-- The user logs in while a second session stands between the count and the second read. -/
def loginBetweenReads : List (Nat × Action) :=
  opening 0 (ckfSerialSession + ckfRwSession) ++
    [(1, .openSession ckfSerialSession), (1, .count)] ++
    [(0, .login ckuUser user01), (0, .tokenLogin (envAt 4)), (0, .collect),
      (0, .update 30064771105), (0, .answer)] ++
    [(1, .readLogin), (1, .insert)]

/-- The second session takes over the login. -/
theorem session_logged_in_between_reads :
    ∃ s session, runSteps (step pinAnswers.crates 0) twoThreads loginBetweenReads = some s ∧
      s.manager.sessions[60129542210]? = some session ∧ s.granted = some .user ∧
      session.state.isUser = true ∧ session.state.isLoggedIn = true := by
  have hends : (runSteps (step pinAnswers.crates 0) twoThreads loginBetweenReads).map State.view =
      some ⟨[.idle, .idle], .userLoggedIn, some .user,
        [(30064771105, .rwUser), (60129542210, .roUser)]⟩ := by
    decide +kernel
  obtain ⟨s, hrun, hview⟩ := Option.map_eq_some_iff.mp hends
  have hopen : (60129542210, SessionState.roUser) ∈ s.view.sessions := by
    rw [hview]
    decide
  obtain ⟨⟨handle, session⟩, hmem, heq⟩ := List.mem_map.mp hopen
  obtain rfl : handle = 60129542210 := congrArg Prod.fst heq
  have hsession := ExtTreeMap.mem_toList_iff_getElem?_eq_some.mp hmem
  have hgranted : s.granted = some .user := congrArg View.granted hview
  have hidle : ∀ pc ∈ s.threads, pc = .idle := by
    rw [show s.threads = [.idle, .idle] from congrArg View.threads hview]
    decide
  obtain ⟨huser, -, hlogged, -⟩ := sessions_agree_of_undisturbed pinAnswers.crates 0 twoPinToken
    ⟨[1, 2, 3, 4]⟩ 2 loginBetweenReads s (by decide +kernel) hrun hidle 60129542210 session hsession
  exact ⟨s, session, hrun, hsession, hgranted, huser.mpr (congrArg View.login hview),
    (hlogged .user hgranted).2⟩

end CratonHsm.LoginInterleaving
