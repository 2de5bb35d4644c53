import CratonHsm.Abi.SessionCalls
import CratonHsm.Abi.KeyCalls
import CratonHsm.Audit.Worker
import CratonHsm.Daemon.Throttle

/-!
# Requests of the daemon

The handlers of `craton-hsm-daemon/src/server.rs`: the gRPC front end to the same core that the C
entry points use. Nearly every handler checks its arguments, acts on the core, records an event in
the audit log and answers; it is a program over the core that says what to record (`Body`), run by
`audited`. `Login` and `InitToken` also consult the throttle and record failures.

The field `refusedEvents` of the service is a history variable, as is `keyUses` of the core: the
events that the audit log refused to record, newest first. No function reads it.

Scope. Numbers of the protocol are 64 bits wide, as the handles and attribute types of the platform
are, so the conversions between them do not fail. The identity of a client is a text that the
transport supplies. The cryptographic functions are those of the default back end, which the daemon
calls directly.
-/

set_option autoImplicit false

namespace CratonHsm

open Crypto Crypto.Encrypt Library Session Store

/-- `Token::require_login`. -/
def Token.requireLogin (token : Token) (expected : LoginState) : HsmResult Unit :=
  if token.auth.login = expected then .ok ()
  else if token.auth.login = .publicState then .error .userNotLoggedIn
  else .error .userAnotherAlreadyLoggedIn

/-- `find_objects_for_slot`. -/
def Store.ObjectStore.findObjectsForSlot (store : ObjectStore) (template : Template)
    (isLoggedIn : Bool) (slotId : Nat) : List Nat :=
  (store.objects.toList.filter fun entry ↦ entry.2.matchesTemplate template &&
    (!entry.2.isPrivate || isLoggedIn) && entry.2.slotId = slotId).map Prod.fst

/-- `CKU_CONTEXT_SPECIFIC`. -/
def ckuContextSpecific : Nat := 2

namespace Daemon

open Audit

/-! ### State -/

/-- The settings of the service; the cooldown is in seconds. -/
structure ServiceConfig where
  maxRandomLength : Nat
  maxDigestLength : Nat
  maxLoginAttempts : Nat
  loginCooldown : Nat

/-- `HsmServiceImpl`, with the audit log of the core. -/
structure HsmService where
  config : ServiceConfig
  hsm : Hsm
  loginAttempts : ThrottleTable
  initTokenAttempts : ThrottleTable
  auditLog : AuditService
  /-- The worker still takes commands out of the channel of the audit log. -/
  workerRunning : Bool
  refusedEvents : List RecordRequest

/-- `HsmServiceImpl::new`, over a core and its audit log. -/
def HsmService.new (config : ServiceConfig) (hsm : Hsm) (auditLog : AuditSystem) : HsmService where
  config := config
  hsm := hsm
  loginAttempts := ∅
  initTokenAttempts := ∅
  auditLog := .start auditLog
  workerRunning := true
  refusedEvents := []

/-- What a request takes from outside: what a call of the core takes, the identity of the client,
the readings of the monotonic clock when the throttle is checked and when a failure is recorded, and
the order in which the throttle table lists its entries. -/
structure RequestEnv where
  call : CallEnv
  clientId : String
  checkedAt : Nat
  recordedAt : Nat
  rank : ThrottleKey → Nat

/-- `Mechanism`. -/
structure Mechanism where
  mechanismType : Nat
  parameter : Bytes
  deriving DecidableEq

/-- `GetTokenInfoResponse`. -/
structure TokenInfo where
  label : String
  initialized : Bool
  userPinInitialized : Bool
  loginState : String
  sessionCount : Nat
  maxSessions : Nat
  rwSessionCount : Nat
  maxRwSessions : Nat
  deriving DecidableEq

/-- What a request is answered with. -/
inductive Response where
  | done
  | handle (handle : Nat)
  | handlePair (publicKey privateKey : Nat)
  | handles (handles : List Nat)
  | attributes (attributes : Template)
  | bytes (bytes : Bytes)
  | valid (valid : Bool)
  | tokenInfo (info : TokenInfo)
  | healthy
  deriving DecidableEq

/-- A handler, or a part of one. -/
abbrev Handler := Program HsmService Status

/-- The part of a handler that acts on the core. -/
abbrev Core := Program Hsm Status

/-- Run a program of the core. -/
def onCore {Result : Type} (x : Core Result) : Handler Result := fun s ↦
  ((x s.hsm).1, { s with hsm := (x s.hsm).2 })

/-- The two kinds of attempts that are throttled, each with a table of its own. -/
inductive Throttled where
  | login
  | initToken

/-- How a refusal names the attempts. -/
def Throttled.text : Throttled → String
  | .login => "login"
  | .initToken => "InitToken"

/-- The throttle table of a kind of attempts. -/
def HsmService.attempts (s : HsmService) : Throttled → ThrottleTable
  | .login => s.loginAttempts
  | .initToken => s.initTokenAttempts

/-- The service with a throttle table replaced. -/
def HsmService.setAttempts (s : HsmService) : Throttled → ThrottleTable → HsmService
  | .login, table => { s with loginAttempts := table }
  | .initToken, table => { s with initTokenAttempts := table }

/-- Use a throttle table. -/
def onAttempts (kind : Throttled)
    (operation : ServiceConfig → ThrottleTable → Except Status Unit × ThrottleTable) :
    Handler Unit := fun s ↦
  ((operation s.config (s.attempts kind)).1,
    s.setAttempts kind (operation s.config (s.attempts kind)).2)

/-! ### The audit log -/

/-- What a handler records. -/
structure AuditEntry where
  sessionHandle : Nat
  operation : AuditOperation
  keyId : Option String

/-- `AuditLog::record`: the request is put into the channel of the worker. -/
def recordEvent (request : RecordRequest) (s : HsmService) : HsmResult Unit × AuditService :=
  if s.auditLog.system.log.tamperFlag then
    (.error (.auditChainBroken "refusing to record: audit chain tamper previously detected"),
      s.auditLog)
  else if !s.workerRunning then (.error .generalError, s.auditLog)
  else (.ok (), s.auditLog.send (.record request))

section Requests

variable (platform : Platform) (env : RequestEnv)

/-- The request of `audit`: the client is named in the key identifier. -/
def auditRequest (entry : AuditEntry) (result : AuditResult) : RecordRequest where
  wall := 0
  sessionHandle := entry.sessionHandle
  operation := entry.operation
  result := result
  keyId := some ("client=" ++ env.clientId ++ (entry.keyId.map ("; " ++ ·)).getD "")
  sync := false

/-- `audit`. -/
def audit (entry : AuditEntry) (result : AuditResult) : Handler Unit := fun s ↦
  match recordEvent (auditRequest env entry result) s with
  | (.ok (), auditLog) => (.ok (), { s with auditLog := auditLog })
  | (.error _, auditLog) => (.error ⟨.internal, "Audit system failure"⟩, { s with
      auditLog := auditLog
      refusedEvents := auditRequest env entry result :: s.refusedEvents })

/-- What most handlers do on the core, with what they record and answer afterwards. -/
abbrev Body := Core (AuditEntry × Response)

/-- The core first, then the audit log. -/
def audited (body : Body) : Handler Response := do
  let (entry, response) ← onCore body
  audit env entry .success
  return response

/-! ### Steps of the handlers -/

/-- `get_session`. -/
def getSession (handle : Nat) : Core CratonHsm.Session :=
  .reads fun s ↦ toStatus (s.sessionManager.getSession handle)

variable (slotId handle session : Nat)

/-- `require_session`. -/
def requireSession : Core Nat := do
  let session ← getSession handle
  return session.slotId

/-- `get_token`. -/
def getToken : Core StoredToken :=
  .reads fun s ↦ toStatus ((s.storedToken slotId).elim (.error .slotIdInvalid) .ok)

/-- `require_logged_in`: a login of the security officer is enough. -/
def requireLoggedIn : Core Unit := do
  let stored ← getToken slotId
  .reads fun _ ↦ match stored.token.requireLogin .userLoggedIn with
    | .ok () | .error .userAnotherAlreadyLoggedIn => .ok ()
    | .error _ => .error ⟨.permissionDenied, "Not logged in — call Login first"⟩

/-- `require_authenticated_session`. -/
def requireAuthenticatedSession : Core Nat := do
  let slotId ← requireSession handle
  requireLoggedIn slotId
  return slotId

/-- Run an operation on the token of a slot; its outcome is looked at later. -/
def tryToken (operation : StoredToken → HsmResult Unit × StoredToken) :
    Core (HsmResult Unit) := fun s ↦
  match s.storedToken slotId with
  | none => (toStatus (.error .slotIdInvalid), s)
  | some stored => (.ok (operation stored).1, s.setStoredToken slotId (operation stored).2)

/-- Run an operation on the token of a slot. Its effects stay when it fails. -/
def onToken (operation : StoredToken → HsmResult Unit × StoredToken) : Core Unit := do
  let result ← tryToken slotId operation
  .reads fun _ ↦ toStatus result

/-- Run an operation on the session table and the token of a slot. -/
def onSessions {Result : Type}
    (operation : SessionManager → Token → HsmResult Result × SessionManager × Token) :
    Core Result := fun s ↦
  match s.storedToken slotId with
  | none => (toStatus (.error .slotIdInvalid), s)
  | some stored =>
    let (result, manager, token) := operation s.sessionManager stored.token
    (toStatus result, { s with sessionManager := manager }.setStoredToken slotId
      { stored with token := token })

/-- `get_object`. -/
def getObject (handle : Nat) : Core StoredObject :=
  .reads fun s ↦ toStatus (s.objectStore.getObject handle)

/-- An object, if it belongs to the slot. -/
def objectOfSlot (missing : String) : Core StoredObject := do
  let obj ← getObject handle
  .require (obj.slotId = slotId) ⟨.notFound, missing⟩
  return obj

/-- `next_handle`. -/
def nextHandle : Core Nat := fun s ↦
  (.ok s.objectStore.nextHandle.1, { s with objectStore := s.objectStore.nextHandle.2 })

/-- Run an operation on the object store. -/
def onStore {Result : Type} (operation : ObjectStore → HsmResult Result × ObjectStore) :
    Core Result := fun s ↦
  (toStatus (operation s.objectStore).1, { s with objectStore := (operation s.objectStore).2 })

/-- `insert_object`. -/
def insertObject (draw : StoreDraw) (obj : StoredObject) : Core Nat :=
  onStore fun store ↦ store.insertObject platform.crates platform.codec draw obj

/-- Use the cipher tables. -/
def onStatics {Result : Type} (operation : CipherStatics → Except Status Result × CipherStatics) :
    Core Result := fun s ↦
  ((operation s.statics).1, { s with statics := (operation s.statics).2 })

/-- The object is used as a key. -/
def noteUse (role : KeyRole) (obj : StoredObject) : Core Unit :=
  .update fun s ↦ { s with keyUses := ⟨role, obj⟩ :: s.keyUses }

/-- A field of a key that an operation needs. -/
def keyField {Value : Type} (field : Option Value) (missing : String) : Except Status Value :=
  field.elim (.error ⟨.internal, missing⟩) .ok

/-- The template without the attributes that the handler has dealt with. -/
def applyTemplateExcept (handled : List Nat) (obj : StoredObject) (template : Template) :
    Except Status StoredObject :=
  toStatus (obj.applyTemplate (template.filter fun entry ↦ entry.1 ∉ handled))

/-- The beginning of the handlers that take a mechanism: an authenticated session, a mechanism of
the right kind, and the algorithm policy. -/
def admitRequest (mechanism : Option Mechanism) (supported : Nat → Bool) (unsupported : String)
    (signing : Bool) : Core (Nat × Mechanism) := do
  let slotId ← requireAuthenticatedSession session
  let mech ← .reads fun _ ↦
    mechanism.elim (.error ⟨.invalidArgument, "mechanism required"⟩) .ok
  .require (supported mech.mechanismType = true) ⟨.invalidArgument, unsupported⟩
  .reads fun s ↦ match validateMechanismForPolicy mech.mechanismType s.algorithmConfig signing with
    | .ok () => .ok ()
    | .error _ => .error ⟨.permissionDenied, "Mechanism blocked by algorithm policy"⟩
  return (slotId, mech)

/-! ### Sessions -/

/-- The flags of a session that is opened read-write or read-only. -/
def sessionFlags (readWrite : Bool) : Nat :=
  if readWrite then ckfSerialSession ||| ckfRwSession else ckfSerialSession

/-- `open_session`. -/
def openSession (slotId : Nat) (readWrite : Bool) : Body := do
  let _ ← getToken slotId
  let handle ← onSessions slotId fun manager token ↦
    manager.openSession slotId (sessionFlags readWrite) token
  return (⟨handle, .openSession slotId, none⟩, .handle handle)

/-- `close_session`. -/
def closeSession (session : Nat) : Body := do
  let slotId ← requireSession session
  let _ ← getToken slotId
  onSessions slotId fun manager token ↦ manager.closeSession session token
  return (⟨session, .closeSession, none⟩, .done)

/-- The common part of `login` and `init_token`: the throttle, the operation of the token, and its
outcome in the throttle and the audit log. A failure is recorded even if the audit log refuses. -/
def attemptToken (kind : Throttled) (slotId : Nat) (entry : AuditEntry)
    (operation : StoredToken → HsmResult Unit × StoredToken) : Handler Response := do
  let key : ThrottleKey := ⟨slotId, env.clientId⟩
  onAttempts kind fun config table ↦
    table.check kind.text config.maxLoginAttempts env.checkedAt key
  let _ ← onCore (getToken slotId)
  let result ← onCore (tryToken slotId operation)
  match result with
  | .ok () => do
    onAttempts kind fun config table ↦ (.ok (), table.clearAttempts config.maxLoginAttempts key)
    audit env entry .success
    return .done
  | .error e => do
    onAttempts kind fun config table ↦ (.ok (), table.recordFailure config.maxLoginAttempts
      config.loginCooldown env.recordedAt env.rank key)
    .update fun s ↦ (audit env entry (.failure 0) s).2
    .fail (hsmErrToStatus e)

/-- `login`. The sessions of the slot keep their states. -/
def login (session userType : Nat) (pin : Bytes) : Handler Response := do
  .require (userType ∈ [ckuUser, ckuSo, ckuContextSpecific]) ⟨.invalidArgument,
    "Invalid user_type " ++ toString userType ++
      ". Expected CKU_USER (1), CKU_SO (0), or CKU_CONTEXT_SPECIFIC (2)"⟩
  let slotId ← onCore (requireSession session)
  attemptToken env .login slotId ⟨session, .login userType, none⟩ fun stored ↦
    stored.login platform.crates env.call.token userType pin

/-- `logout`. The sessions of the slot keep their states. -/
def logout (session : Nat) : Body := do
  let slotId ← requireSession session
  let _ ← getToken slotId
  onToken slotId fun stored ↦ stored.logout env.call.token
  return (⟨session, .logout, none⟩, .done)

/-! ### Tokens -/

/-- The `Debug` text of a login state. -/
def loginStateText : LoginState → String
  | .publicState => "Public"
  | .userLoggedIn => "UserLoggedIn"
  | .soLoggedIn => "SoLoggedIn"

/-- What `get_token_info` says of a token; login state and session counts are kept from clients of a
token that nobody is logged in to. -/
def tokenInfo (token : Token) : TokenInfo :=
  let isLoggedIn := token.auth.login ≠ .publicState
  { label := ""
    initialized := token.auth.initialized
    userPinInitialized := token.auth.userPinInitialized
    loginState := if isLoggedIn then loginStateText token.auth.login else "Restricted"
    sessionCount := if isLoggedIn then token.sessionCount else 0
    maxSessions := token.config.maxSessions
    rwSessionCount := if isLoggedIn then token.rwSessionCount else 0
    maxRwSessions := token.config.maxRwSessions }

/-- `get_token_info`. -/
def getTokenInfo : Core Response := do
  .require (session ≠ 0)
    ⟨.invalidArgument, "session_handle is required — open a session first"⟩
  let sessionSlot ← requireSession session
  .require (sessionSlot = slotId)
    ⟨.permissionDenied, "Session does not belong to the requested slot"⟩
  let stored ← getToken slotId
  return .tokenInfo (tokenInfo stored.token)

/-- A label as the 32 bytes of a token label, cut or padded with blanks. -/
def labelBytes (label : Bytes) : FixedBytes 32 :=
  ⟨label.take 32 ++ List.replicate (32 - label.length) 0x20, by
    rw [List.length_append, List.length_take, List.length_replicate]; omega⟩

/-- `init_token`. Only the token itself is reset. -/
def initToken (slotId : Nat) (soPin label : Bytes) : Handler Response :=
  attemptToken env .initToken slotId ⟨0, .initToken slotId, none⟩ fun stored ↦
    stored.initToken platform.crates env.call.token soPin (labelBytes label)

/-- The checks of `init_pin`: the login of the token, then the state of the session. -/
def requireSoSession : Core Nat := do
  let slotId ← requireAuthenticatedSession session
  let found ← getSession session
  .require (found.state.isSo = true) ⟨.permissionDenied, "C_InitPIN requires SO login"⟩
  return slotId

/-- `init_pin`. -/
def initPin (session : Nat) (pin : Bytes) : Body := do
  let slotId ← requireSoSession session
  let _ ← getToken slotId
  onToken slotId fun stored ↦ stored.initPin platform.crates env.call.token pin
  return (⟨session, .initPin slotId, none⟩, .done)

/-- `set_pin`. -/
def setPin (session : Nat) (oldPin newPin : Bytes) : Body := do
  let slotId ← requireAuthenticatedSession session
  let _ ← getToken slotId
  onToken slotId fun stored ↦ stored.setPin platform.crates env.call.token oldPin newPin
  return (⟨session, .setPin, some "set_pin"⟩, .done)

end Requests

end Daemon

end CratonHsm
