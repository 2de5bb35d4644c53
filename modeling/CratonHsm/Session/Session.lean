import CratonHsm.Pkcs11
import CratonHsm.Session.Handle
import CratonHsm.Token.Token
import Std.Data.ExtTreeMap

/-!
# Sessions

`session/session.rs` and `session/manager.rs`: the state of a session, its active operation and
search, and the table of open sessions with the functions that open and close sessions and carry a
login or logout of the token to them.

An object that an operation caches is the reference of its cell in the object store. A hasher is the
input it has been fed, since the digest depends on nothing else.

Scope. The approval indicator of the last operation, the idle timeout (disabled by default and
never called by the entry points) and the `closed` mark, which only a concurrent holder of the
session sees, are left out, and so is the thread-local session cache.
-/

set_option autoImplicit false

namespace CratonHsm

open Session
open Std (ExtTreeMap)

/-! ### The state of a session -/

/-- `SessionState`. -/
inductive SessionState where
  | roPublic
  | roUser
  | rwPublic
  | rwUser
  | rwSO
  deriving DecidableEq

/-- `SessionState::is_rw`. -/
def SessionState.isRw : SessionState → Bool
  | .rwPublic | .rwUser | .rwSO => true
  | .roPublic | .roUser => false

/-- `SessionState::is_logged_in`. -/
def SessionState.isLoggedIn : SessionState → Bool
  | .roUser | .rwUser | .rwSO => true
  | .roPublic | .rwPublic => false

/-- `SessionState::is_so`. -/
def SessionState.isSo : SessionState → Bool
  | .rwSO => true
  | _ => false

/-- `Session::on_user_login`, on the state. -/
def SessionState.onUserLogin : SessionState → HsmResult SessionState
  | .roPublic => .ok .roUser
  | .rwPublic => .ok .rwUser
  | .roUser | .rwUser | .rwSO => .error .userAlreadyLoggedIn

/-- `Session::on_so_login`, on the state. -/
def SessionState.onSoLogin : SessionState → HsmResult SessionState
  | .rwPublic => .ok .rwSO
  | .roPublic => .error .sessionReadOnly
  | .roUser | .rwUser | .rwSO => .error .userAlreadyLoggedIn

/-- `Session::on_logout`, on the state. -/
def SessionState.onLogout : SessionState → HsmResult SessionState
  | .roUser => .ok .roPublic
  | .rwUser => .ok .rwPublic
  | .rwSO => .ok .rwPublic
  | .roPublic | .rwPublic => .error .userNotLoggedIn

/-! ### Operations -/

/-- A hash in progress: its mechanism and the input so far. -/
structure Hasher where
  mechanism : Nat
  input : Bytes
  deriving DecidableEq

/-- The fields of an encryption or a decryption. -/
structure CipherOperation where
  mechanism : Nat
  keyHandle : Nat
  mechanismParam : Bytes
  data : Bytes
  cachedObject : Option Nat
  deriving DecidableEq

/-- The fields of a signature or a verification. -/
structure SignatureOperation where
  mechanism : Nat
  keyHandle : Nat
  data : Bytes
  hasher : Option Hasher
  cachedObject : Option Nat
  deriving DecidableEq

/-- The fields of a digest. -/
structure DigestOperation where
  mechanism : Nat
  hasher : Option Hasher
  accumulatedInput : Bytes
  deriving DecidableEq

/-- `ActiveOperation`. -/
inductive ActiveOperation where
  | encrypt (operation : CipherOperation)
  | decrypt (operation : CipherOperation)
  | sign (operation : SignatureOperation)
  | verify (operation : SignatureOperation)
  | digest (operation : DigestOperation)
  deriving DecidableEq

/-- `FindContext`. -/
structure FindContext where
  results : List Nat
  position : Nat
  deriving DecidableEq

/-- `Session`. -/
structure Session where
  handle : Nat
  slotId : Nat
  flags : Nat
  state : SessionState
  activeOperation : Option ActiveOperation
  findContext : Option FindContext
  deriving DecidableEq

/-- Whether the flags of a session ask for read-write access. -/
def isRwFlags (flags : Nat) : Bool := flags &&& ckfRwSession != 0

/-- `Session::new`. -/
def Session.new (handle slotId flags : Nat) : Session where
  handle := handle
  slotId := slotId
  flags := flags
  state := if isRwFlags flags then .rwPublic else .roPublic
  activeOperation := none
  findContext := none

/-- The session without its operation and search. -/
def Session.clearOperations (session : Session) : Session :=
  { session with activeOperation := none, findContext := none }

/-- `Session::on_user_login` and `Session::on_so_login`. -/
def Session.onLogin (session : Session) (role : Role) : HsmResult Session := do
  let state ← match role with
    | .user => session.state.onUserLogin
    | .so => session.state.onSoLogin
  return { session with state := state }

/-- `Session::on_logout`, whose callers ignore an error. -/
def Session.onLogout (session : Session) : Session :=
  match session.state.onLogout with
  | .ok state => { session with state := state }.clearOperations
  | .error _ => session

/-! ### The session table -/

/-- `SessionManager`. -/
structure SessionManager where
  sessions : ExtTreeMap Nat Session
  handleAlloc : SessionHandleAllocator

/-- `SessionManager::new`. -/
def SessionManager.new (scrambler : HandleScrambler) : SessionManager := ⟨∅, ⟨0, scrambler⟩⟩

/-- The checks of `open_session` before a session is counted, given the login state of the token:
serial sessions only, and no read-only session beside a security officer. -/
def openSessionAllowed (flags : Nat) (login : LoginState) : HsmResult Unit :=
  if flags &&& ckfSerialSession = 0 then .error .sessionParallelNotSupported
  else if !isRwFlags flags && login = .soLoggedIn then .error .sessionReadWriteSoExists
  else .ok ()

/-- A new session takes over the login state of the token. -/
def Session.inherit (session : Session) : LoginState → HsmResult Session
  | .userLoggedIn => session.onLogin .user
  | .soLoggedIn => session.onLogin .so
  | .publicState => .ok session

namespace SessionManager

variable (manager : SessionManager) (slotId handle : Nat)

/-- `open_session`. A session that cannot take over the login is counted out again. -/
def openSession (flags : Nat) (token : Token) : HsmResult Nat × SessionManager × Token :=
  match openSessionAllowed flags token.auth.login with
  | .error e => (.error e, manager, token)
  | .ok () =>
    match token.incrementSessionCount (isRwFlags flags) with
    | .error e => (.error e, manager, token)
    | .ok token =>
      let (handle, handleAlloc) := manager.handleAlloc.allocate
      let manager := { manager with handleAlloc := handleAlloc }
      match (Session.new handle slotId flags).inherit token.auth.login with
      | .error e => (.error e, manager, (token.decrementSessionCount (isRwFlags flags)).2)
      | .ok session =>
        (.ok handle, { manager with sessions := manager.sessions.insert handle session }, token)

/-- `get_session`. -/
def getSession : HsmResult Session :=
  match manager.sessions[handle]? with
  | some session => .ok session
  | none => .error .sessionHandleInvalid

/-- Replace a session. -/
def setSession (session : Session) : SessionManager :=
  { manager with sessions := manager.sessions.insert handle session }

/-- `close_session`: the session is gone even if the count of the token is wrong. -/
def closeSession (token : Token) : HsmResult Unit × SessionManager × Token :=
  match manager.sessions[handle]? with
  | none => (.error .sessionHandleInvalid, manager, token)
  | some session =>
    let manager := { manager with sessions := manager.sessions.erase handle }
    let (result, token) := token.decrementSessionCount session.state.isRw
    (result, manager, token)

/-- The open sessions of a slot. -/
def sessionsOfSlot : List (Nat × Session) :=
  manager.sessions.toList.filter fun entry ↦ entry.2.slotId = slotId

/-- `close_all_sessions`. -/
def closeAllSessions (token : Token) : SessionManager × Token :=
  ({ manager with sessions := manager.sessions.filter fun _ session ↦ session.slotId != slotId },
    (manager.sessionsOfSlot slotId).foldl
      (fun token entry ↦ (token.decrementSessionCount entry.2.state.isRw).2) token)

/-- `has_ro_sessions`. -/
def hasRoSessions : Bool :=
  (manager.sessionsOfSlot slotId).any fun entry ↦ !entry.2.state.isRw

/-- Log a session out, if it is still open. -/
def logoutSession : SessionManager :=
  match manager.sessions[handle]? with
  | some session => manager.setSession handle session.onLogout
  | none => manager

/-- The second phase of `login_all`: log in the collected sessions one after the other. The first
failure logs out again those already logged in. -/
def loginEach (slotId : Nat) (role : Role) :
    List Nat → List Nat → SessionManager → HsmResult Unit × SessionManager
  | [], _, manager => (.ok (), manager)
  | handle :: handles, loggedIn, manager =>
    match manager.sessions[handle]? with
    | none => loginEach slotId role handles loggedIn manager
    | some session =>
      if session.slotId ≠ slotId then loginEach slotId role handles loggedIn manager
      else
        match session.onLogin role with
        | .error e => (.error e, loggedIn.foldl logoutSession manager)
        | .ok session =>
          loginEach slotId role handles (loggedIn ++ [handle]) (manager.setSession handle session)

/-- `login_all`. -/
def loginAll (role : Role) : HsmResult Unit × SessionManager :=
  manager.loginEach slotId role ((manager.sessionsOfSlot slotId).map Prod.fst) []

/-- `cancel_sessions_for_slot`. -/
def cancelSessionsForSlot : SessionManager :=
  { manager with sessions := manager.sessions.map fun _ session ↦
      if session.slotId = slotId then session.clearOperations.onLogout else session }

end SessionManager

end CratonHsm
