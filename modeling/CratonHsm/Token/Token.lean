import CratonHsm.Store.PinKeys
import Mathlib.Data.List.Dedup

/-!
# The token

`token/token.rs` with the two files it keeps, `store/lockout_store.rs` and
`token/token_state_store.rs`. A token holds its label, the hashes of the security officer's and the
user's PIN, the login and lockout state, the session counts, and, when objects are persisted, the
wrapped object master key with the salt of its key-encryption key.

The login and PIN-change paths of the two roles are one definition each (`loginRole`, `setPinRole`)
at a `Role`. A `StoredToken` is a token in memory together with its two files; the operations take
the outside world they depend on (clock readings, random draws, which file writes succeed) in a
`TokenEnv`, and `StoredToken.restart` is what a new process loads.

Files hold decoded values: the JSON and hexadecimal encodings round-trip and are not modelled.
-/

set_option autoImplicit false

namespace CratonHsm

open Crypto Store

/-! ### Data -/

/-- `LoginState`. -/
inductive LoginState where
  | publicState
  | userLoggedIn
  | soLoggedIn
  deriving DecidableEq

/-- The two roles that log in with a PIN. -/
inductive Role where
  | user
  | so
  deriving DecidableEq

/-- The login state of a role. -/
def Role.loginState : Role → LoginState
  | .user => .userLoggedIn
  | .so => .soLoggedIn

/-- The lockout fields of one role: failed attempts, the lock, and the end of the backoff window. -/
structure PinLockout where
  failedLogins : Nat
  pinLocked : Bool
  nextAllowed : Option Nat
  deriving DecidableEq

/-- The lockout fields of a role with no failed attempt. -/
def PinLockout.clear : PinLockout := ⟨0, false, none⟩

/-- `AuthState`. Times are milliseconds of the monotonic clock. -/
structure AuthState where
  login : LoginState
  initialized : Bool
  userPinInitialized : Bool
  user : PinLockout
  so : PinLockout
  failedInitTokenLogins : Nat
  initTokenNextAllowed : Option Nat
  deriving DecidableEq

variable (auth : AuthState)

/-- The lockout fields of a role. -/
def AuthState.lockout : Role → PinLockout
  | .user => auth.user
  | .so => auth.so

/-- `auth` with the lockout fields of a role replaced. -/
def AuthState.setLockout : Role → PinLockout → AuthState
  | .user, lockout => { auth with user := lockout }
  | .so, lockout => { auth with so := lockout }

/-- `AuthState::new`. -/
def AuthState.new : AuthState := ⟨.publicState, false, false, .clear, .clear, 0, none⟩

/-- `AuthState::reset_for_init`. -/
def AuthState.resetForInit : AuthState :=
  { AuthState.new with initialized := auth.initialized }

/-- The settings of a token, within the bounds that configuration validation enforces, and whether
it keeps a lockout file and a token-state file. -/
structure TokenConfig where
  label : FixedBytes 32
  maxSessions : Nat
  maxRwSessions : Nat
  pinMinLen : Nat
  pinMaxLen : Nat
  maxFailedLogins : Nat
  pbkdf2Iterations : Nat
  hasLockoutStore : Bool
  hasStateStore : Bool
  maxFailedLogins_bounds : 3 ≤ maxFailedLogins ∧ maxFailedLogins ≤ 100
  deriving DecidableEq

/-- A blank token label. -/
def blankLabel : FixedBytes 32 := ⟨List.replicate 32 0x20, by decide⟩

/-- The default settings, with the smallest PIN length and number of failed logins that
configuration validation admits, and both files. -/
def TokenConfig.strict : TokenConfig where
  label := blankLabel
  maxSessions := 100
  maxRwSessions := 10
  pinMinLen := 4
  pinMaxLen := 64
  maxFailedLogins := 3
  pbkdf2Iterations := 100000
  hasLockoutStore := true
  hasStateStore := true
  maxFailedLogins_bounds := by decide

/-- `Token`. -/
structure Token where
  config : TokenConfig
  label : FixedBytes 32
  soPinHash : Option Bytes
  userPinHash : Option Bytes
  auth : AuthState
  sessionCount : Nat
  rwSessionCount : Nat
  objectKeySalt : Option Bytes
  objectMasterKeyWrapped : Option Bytes
  deriving DecidableEq

/-- The stored PIN hash of a role. -/
def Token.pinHash (token : Token) : Role → Option Bytes
  | .user => token.userPinHash
  | .so => token.soPinHash

/-- `token` with the PIN hash of a role replaced. -/
def Token.setPinHash (token : Token) : Role → Bytes → Token
  | .user, hash => { token with userPinHash := some hash }
  | .so, hash => { token with soPinHash := some hash }

/-- A file as a process finds it. -/
inductive StoredFile (Content : Type) where
  | missing
  | unreadable
  | content (value : Content)
  deriving DecidableEq

/-- `LockoutData`. -/
structure LockoutData where
  failedUserLogins : Nat
  failedSoLogins : Nat
  failedInitTokenLogins : Nat
  userPinLocked : Bool
  soPinLocked : Bool
  deriving DecidableEq

/-- `TokenStateData`, decoded. -/
structure TokenStateData where
  initialized : Bool
  userPinInitialized : Bool
  label : FixedBytes 32
  soPinHash : Option Bytes
  userPinHash : Option Bytes
  objectKeySalt : Option Bytes
  objectMasterKeyWrapped : Option Bytes
  deriving DecidableEq

/-- The files of a token. -/
structure TokenFiles where
  lockout : StoredFile LockoutData
  state : StoredFile TokenStateData
  deriving DecidableEq

/-- A token in memory and its files. -/
structure StoredToken where
  token : Token
  files : TokenFiles
  deriving DecidableEq

/-- What an operation reads from outside: the clock when it checks a backoff window and when it sets
one, the random draws it may make, and which of its file writes succeed: the save of the lockout,
its removal, and the save of the token state. -/
structure TokenEnv where
  now : Nat
  later : Nat
  pinSalt : FixedBytes 32
  objectKeySalt : HsmResult (FixedBytes 32)
  objectMasterKey : HsmResult (FixedBytes 32)
  wrapNonce : HsmResult (FixedBytes 12)
  lockoutSaves : Bool
  lockoutClears : Bool
  stateSaves : Bool

variable (env : TokenEnv) (s : StoredToken) (config : TokenConfig)

/-- All file writes succeed. -/
def TokenEnv.fileWrites : Bool :=
  env.lockoutSaves && env.lockoutClears && env.stateSaves

theorem TokenEnv.saves_of_fileWrites {env : TokenEnv} (h : env.fileWrites = true) :
    env.lockoutSaves = true ∧ env.lockoutClears = true ∧ env.stateSaves = true := by
  simpa only [TokenEnv.fileWrites, Bool.and_eq_true, and_assoc] using h

/-! ### Loading and saving -/

/-- The largest value of a `u32`. -/
def u32Max : Nat := 2 ^ 32 - 1

/-- `LockoutStore::load`: no file means no failed attempt, a file that cannot be read or parsed
means everything locked. -/
def loadLockout : StoredFile LockoutData → LockoutData
  | .content data => data
  | .missing => ⟨0, 0, 0, false, false⟩
  | .unreadable => ⟨u32Max, u32Max, u32Max, true, true⟩

/-- The consistency guards of `TokenStateStore::load`. -/
def TokenStateData.restored (data : TokenStateData) : TokenStateData :=
  { data with
    initialized := data.initialized && data.soPinHash.isSome
    userPinInitialized := data.userPinInitialized && data.userPinHash.isSome
    objectKeySalt := data.objectKeySalt.filter (·.length = 32) }

/-- `TokenStateStore::load`. -/
def loadTokenState : StoredFile TokenStateData → Option TokenStateData
  | .content data => some data.restored
  | .missing => none
  | .unreadable => none

/-- `Token::new_with_config_for_slot`. -/
def Token.load (files : TokenFiles) : Token :=
  let lockout := if config.hasLockoutStore then loadLockout files.lockout
    else ⟨0, 0, 0, false, false⟩
  let auth : AuthState := { AuthState.new with
    user := ⟨lockout.failedUserLogins, lockout.userPinLocked, none⟩
    so := ⟨lockout.failedSoLogins, lockout.soPinLocked, none⟩
    failedInitTokenLogins := lockout.failedInitTokenLogins }
  let fresh : Token := ⟨config, config.label, none, none, auth, 0, 0, none, none⟩
  match if config.hasStateStore then loadTokenState files.state else none with
  | none => fresh
  | some data => { fresh with
      label := data.label
      soPinHash := data.soPinHash
      userPinHash := data.userPinHash
      auth := { auth with
        initialized := data.initialized
        userPinInitialized := data.userPinInitialized }
      objectKeySalt := data.objectKeySalt
      objectMasterKeyWrapped := data.objectMasterKeyWrapped }

@[simp]
theorem Token.load_config (files : TokenFiles) : (Token.load config files).config = config := by
  simp only [Token.load]
  split <;> split <;> rfl

/-- A token whose files do not exist yet. -/
def StoredToken.fresh : StoredToken :=
  ⟨.load config ⟨.missing, .missing⟩, ⟨.missing, .missing⟩⟩

@[simp]
theorem StoredToken.fresh_token : (StoredToken.fresh config).token =
    ⟨config, config.label, none, none, .new, 0, 0, none, none⟩ := by
  cases hlockout : config.hasLockoutStore <;> cases hstate : config.hasStateStore <;>
    simp [StoredToken.fresh, Token.load, hlockout, hstate, loadLockout, loadTokenState,
      AuthState.new, PinLockout.clear]

/-- A new process: the token is loaded from its files. -/
def StoredToken.restart : StoredToken :=
  { s with token := .load s.token.config s.files }

/-- The lockout fields that are saved. -/
def AuthState.lockoutData : LockoutData :=
  ⟨auth.user.failedLogins, auth.so.failedLogins, auth.failedInitTokenLogins, auth.user.pinLocked,
    auth.so.pinLocked⟩

/-- The token state that is saved. -/
def Token.stateData (token : Token) : TokenStateData :=
  ⟨token.auth.initialized, token.auth.userPinInitialized, token.label, token.soPinHash,
    token.userPinHash, token.objectKeySalt, token.objectMasterKeyWrapped⟩

/-- `persist_lockout`; a failed write is only logged. -/
def StoredToken.persistLockout : StoredToken :=
  if s.token.config.hasLockoutStore && env.lockoutSaves then
    { s with files := { s.files with lockout := .content s.token.auth.lockoutData } }
  else s

/-- `LockoutStore::clear`. -/
def StoredToken.clearLockout : StoredToken :=
  if s.token.config.hasLockoutStore && env.lockoutClears then
    { s with files := { s.files with lockout := .missing } }
  else s

/-- `persist_token_state`; a failed write is only logged. -/
def StoredToken.persistTokenState : StoredToken :=
  if s.token.config.hasStateStore && env.stateSaves then
    { s with files := { s.files with state := .content s.token.stateData } }
  else s

@[simp]
theorem StoredToken.persistLockout_token : (s.persistLockout env).token = s.token := by
  unfold StoredToken.persistLockout; split_ifs <;> rfl

@[simp]
theorem StoredToken.clearLockout_token : (s.clearLockout env).token = s.token := by
  unfold StoredToken.clearLockout; split_ifs <;> rfl

@[simp]
theorem StoredToken.persistTokenState_token : (s.persistTokenState env).token = s.token := by
  unfold StoredToken.persistTokenState; split_ifs <;> rfl

/-! ### PIN rules -/

/-- `PIN_MIN_DISTINCT_BYTES`. -/
def pinMinDistinctBytes : Nat := 3

/-- `PIN_MIN_CHAR_CLASSES`. -/
def pinMinCharClasses : Nat := 2

/-- The byte is a lower-case letter. -/
def isLower (b : UInt8) : Bool := 0x61 ≤ b && b ≤ 0x7A

/-- The byte is an upper-case letter. -/
def isUpper (b : UInt8) : Bool := 0x41 ≤ b && b ≤ 0x5A

/-- The byte is a decimal digit. -/
def isDigit (b : UInt8) : Bool := 0x30 ≤ b && b ≤ 0x39

/-- The byte is printable ASCII. -/
def isPrintable (b : UInt8) : Bool := 0x20 ≤ b && b ≤ 0x7E

/-- The byte is printable ASCII and neither a letter nor a digit. -/
def isOther (b : UInt8) : Bool := isPrintable b && !isLower b && !isUpper b && !isDigit b

/-- `validate_pin`: the length range, at least three distinct bytes, and, for a PIN of printable
ASCII only, at least two character classes. -/
def TokenConfig.validatePin (pin : Bytes) : HsmResult Unit :=
  if pin.length < config.pinMinLen || pin.length > config.pinMaxLen then .error .pinLenRange
  else if pin.dedup.length < pinMinDistinctBytes then .error .pinInvalid
  else if pin.all isPrintable &&
      ([pin.any isLower, pin.any isUpper, pin.any isDigit, pin.any isOther].countP id <
        pinMinCharClasses) then
    .error .pinInvalid
  else .ok ()

/-- `FAILED_LOGIN_BASE_DELAY_MS`. -/
def failedLoginBaseDelayMs : Nat := 100

/-- `FAILED_LOGIN_MAX_DELAY_MS`. -/
def failedLoginMaxDelayMs : Nat := 5000

/-- `backoff_duration`, in milliseconds. -/
def backoffDuration (failures : Nat) : Nat :=
  if failures = 0 then 0
  else min (failedLoginBaseDelayMs * 2 ^ min (failures - 1) 31) failedLoginMaxDelayMs

/-- `check_rate_limit`. -/
def checkRateLimit (now : Nat) : Option Nat → HsmResult Unit
  | some deadline => if now < deadline then .error .pinRateLimited else .ok ()
  | none => .ok ()

theorem checkRateLimit_eq_ok_or (now : Nat) (deadline : Option Nat) :
    checkRateLimit now deadline = .ok () ∨
      checkRateLimit now deadline = .error .pinRateLimited := by
  cases deadline with
  | none => exact Or.inl rfl
  | some t => by_cases h : now < t <;> simp [checkRateLimit, h]

/-- A `u32` counter plus one, wrapping. -/
def u32Succ (n : Nat) : Nat := (n + 1) % 2 ^ 32

/-- The lockout fields after one more failed attempt at time `later`: the count, the backoff window,
and the lock once the count reaches the limit. -/
def PinLockout.fail (lockout : PinLockout) (maxFailedLogins later : Nat) : PinLockout where
  failedLogins := u32Succ lockout.failedLogins
  nextAllowed := some (later + backoffDuration (u32Succ lockout.failedLogins))
  pinLocked := lockout.pinLocked || decide (u32Succ lockout.failedLogins ≥ maxFailedLogins)

/-- The lockout fields after a correct PIN. -/
def PinLockout.succeed (lockout : PinLockout) : PinLockout :=
  { lockout with failedLogins := 0, nextAllowed := none }

section Operations

variable (crates : Crates) (env : TokenEnv) (s : StoredToken) (token : Token) (role : Role)

/-- `hash_pin`. -/
def Token.hashPin (pin : Bytes) : Bytes :=
  hashPinPbkdf2 crates env.pinSalt pin token.config.pbkdf2Iterations

/-- `verify_pin`. -/
def Token.verifyPin (storedHash pin : Bytes) : Bool :=
  verifyPinPbkdf2 crates storedHash pin token.config.pbkdf2Iterations

/-! ### The object master key -/

/-- The key-encryption key of a PIN under a salt. -/
def Token.kek (pin salt : Bytes) : FixedBytes 32 :=
  deriveKeyFromPin crates pin salt token.config.pbkdf2Iterations

/-- `unwrap_object_key`. -/
def Token.unwrapObjectKey (userPin : Bytes) : Option (FixedBytes 32) := do
  let salt ← token.objectKeySalt
  let wrapped ← token.objectMasterKeyWrapped
  (unwrapKey crates (token.kek crates userPin salt) wrapped).toOption

/-- `provision_object_key`. -/
def Token.provisionObjectKey (userPin : Bytes) : HsmResult Token := do
  let salt ← env.objectKeySalt
  let omk ← env.objectMasterKey
  let wrapped ← wrapKey crates env.wrapNonce (token.kek crates userPin salt.1) omk
  .ok { token with objectKeySalt := some salt.1, objectMasterKeyWrapped := some wrapped }

/-- `rewrap_object_key`. -/
def Token.rewrapObjectKey (oldPin newPin : Bytes) : HsmResult Token :=
  match token.objectKeySalt, token.objectMasterKeyWrapped with
  | some salt, some wrapped => do
    let omk ← unwrapKey crates (token.kek crates oldPin salt) wrapped
    let rewrapped ← wrapKey crates env.wrapNonce (token.kek crates newPin salt) omk
    .ok { token with objectMasterKeyWrapped := some rewrapped }
  | _, _ => .ok token

/-! ### Login, logout and PIN changes -/

/-- `token` with its login and lockout state replaced. -/
def StoredToken.withAuth (auth : AuthState) : StoredToken :=
  { s with token := { s.token with auth := auth } }

/-- A wrong PIN of a role: count it, save, and answer. -/
def StoredToken.failPin : HsmResult Unit × StoredToken :=
  let lockout := (s.token.auth.lockout role).fail s.token.config.maxFailedLogins env.later
  let s := (s.withAuth (s.token.auth.setLockout role lockout)).persistLockout env
  (.error (if lockout.pinLocked then .pinLocked else .pinIncorrect), s)

/-- A correct PIN of a role clears its failed attempts. -/
def StoredToken.passPin : StoredToken :=
  (s.withAuth (s.token.auth.setLockout role (s.token.auth.lockout role).succeed)).persistLockout env

/-- The effect of `login` once the PIN is right. -/
def StoredToken.enter : StoredToken :=
  let s := s.passPin env role
  s.withAuth { s.token.auth with login := role.loginState }

/-- The error of a role without a PIN hash. -/
def Role.missingHash : Role → HsmError
  | .user => .userPinNotInitialized
  | .so => .pinIncorrect

/-- The common part of the two branches of `login`: the PIN is verified before the lock is looked
at. -/
def StoredToken.loginRole (pin : Bytes) : HsmResult Unit × StoredToken :=
  match checkRateLimit env.now (s.token.auth.lockout role).nextAllowed with
  | .error e => (.error e, s)
  | .ok () =>
    match s.token.pinHash role with
    | none => (.error role.missingHash, s)
    | some stored =>
      let pinCorrect := s.token.verifyPin crates stored pin
      if (s.token.auth.lockout role).pinLocked then (.error .pinLocked, s)
      else if !pinCorrect then s.failPin env role
      else (.ok (), s.enter env role)

/-- `CKU_SO`. -/
def ckuSo : Nat := 0

/-- `CKU_USER`. -/
def ckuUser : Nat := 1

/-- The user type with which a role logs in. -/
def Role.userType : Role → Nat
  | .user => ckuUser
  | .so => ckuSo

/-- `Token::login`. -/
def StoredToken.login (s : StoredToken) (userType : Nat) (pin : Bytes) :
    HsmResult Unit × StoredToken :=
  let auth := s.token.auth
  if !auth.initialized then (.error .tokenNotInitialized, s)
  else if userType = ckuUser then
    if auth.login = .userLoggedIn then (.error .userAlreadyLoggedIn, s)
    else if auth.login = .soLoggedIn then (.error .userAnotherAlreadyLoggedIn, s)
    else if !auth.userPinInitialized then (.error .userPinNotInitialized, s)
    else s.loginRole crates env .user pin
  else if userType = ckuSo then
    if auth.login = .soLoggedIn then (.error .userAlreadyLoggedIn, s)
    else if auth.login = .userLoggedIn then (.error .userAnotherAlreadyLoggedIn, s)
    else s.loginRole crates env .so pin
  else (.error .userTypeInvalid, s)

/-- The effect of `logout`: the failed attempts of both roles are cleared, their locks are kept. -/
def StoredToken.leave : StoredToken :=
  let auth := s.token.auth
  (s.withAuth { auth with
    login := .publicState
    user := auth.user.succeed
    so := auth.so.succeed }).persistLockout env

/-- `Token::logout`. -/
def StoredToken.logout : HsmResult Unit × StoredToken :=
  if s.token.auth.login = .publicState then (.error .userNotLoggedIn, s)
  else (.ok (), s.leave env)

/-- The effect of `set_pin` once the old PIN is right. Only the user's PIN change re-wraps the
object master key, and a failure to do so is logged and ignored. -/
def StoredToken.changePin (oldPin newPin : Bytes) : StoredToken :=
  let s := s.passPin env role
  let token := s.token.setPinHash role (s.token.hashPin crates env newPin)
  let token := match role with
    | .user => (token.rewrapObjectKey crates env oldPin newPin).toOption.getD token
    | .so => token
  { s with token := token }.persistTokenState env

/-- The common part of the two branches of `set_pin`: the lock is looked at first. -/
def StoredToken.setPinRole (oldPin newPin : Bytes) : HsmResult Unit × StoredToken :=
  if (s.token.auth.lockout role).pinLocked then (.error .pinLocked, s)
  else
    match checkRateLimit env.now (s.token.auth.lockout role).nextAllowed with
    | .error e => (.error e, s)
    | .ok () =>
      match s.token.pinHash role with
      | none => (.error role.missingHash, s)
      | some stored =>
        if !s.token.verifyPin crates stored oldPin then s.failPin env role
        else (.ok (), s.changePin crates env role oldPin newPin)

/-- `Token::set_pin`. -/
def StoredToken.setPin (oldPin newPin : Bytes) : HsmResult Unit × StoredToken :=
  match s.token.config.validatePin newPin with
  | .error e => (.error e, s)
  | .ok () =>
    match s.token.auth.login with
    | .userLoggedIn => s.setPinRole crates env .user oldPin newPin
    | .soLoggedIn => s.setPinRole crates env .so oldPin newPin
    | .publicState => (.error .userNotLoggedIn, s)

/-- The effect of `init_pin` once it is allowed: an object master key is provisioned only when there
is no salt yet, and a failure to do so is logged and ignored. -/
def StoredToken.installUserPin (pin : Bytes) : StoredToken :=
  let token := { s.token with userPinHash := some (s.token.hashPin crates env pin) }
  let token := if token.config.hasStateStore && token.objectKeySalt.isNone then
      (token.provisionObjectKey crates env pin).toOption.getD token
    else token
  let auth := { token.auth with userPinInitialized := true, user := .clear }
  ({ s with token := { token with auth := auth } }.persistLockout env).persistTokenState env

/-- `Token::init_pin`. -/
def StoredToken.initPin (pin : Bytes) : HsmResult Unit × StoredToken :=
  if s.token.auth.login ≠ .soLoggedIn then (.error .userNotLoggedIn, s)
  else
    match s.token.config.validatePin pin with
    | .error e => (.error e, s)
    | .ok () => (.ok (), s.installUserPin crates env pin)

/-- The SO PIN does not match that of an initialised token: count it under the counter of
`init_token`, which no limit stops. -/
def StoredToken.failInitToken : HsmResult Unit × StoredToken :=
  let failures := u32Succ s.token.auth.failedInitTokenLogins
  (.error .pinIncorrect, (s.withAuth { s.token.auth with
    failedInitTokenLogins := failures
    initTokenNextAllowed := some (env.later + backoffDuration failures) }).persistLockout env)

/-- The effect of `init_token` once the PIN is accepted. -/
def StoredToken.reinitialize (soPin : Bytes) (label : FixedBytes 32) : StoredToken :=
  let token := { s.token with
    soPinHash := some (s.token.hashPin crates env soPin)
    label := label
    userPinHash := none
    objectKeySalt := none
    objectMasterKeyWrapped := none
    auth := { s.token.auth.resetForInit with initialized := true } }
  let s := (({ s with token := token }.persistLockout env).clearLockout env).persistTokenState env
  { s with token := { s.token with sessionCount := 0, rwSessionCount := 0 } }

/-- `Token::init_token`. -/
def StoredToken.initToken (soPin : Bytes) (label : FixedBytes 32) : HsmResult Unit × StoredToken :=
  match s.token.config.validatePin soPin with
  | .error e => (.error e, s)
  | .ok () =>
    if s.token.auth.initialized then
      match checkRateLimit env.now s.token.auth.initTokenNextAllowed with
      | .error e => (.error e, s)
      | .ok () =>
        match s.token.soPinHash with
        | some stored =>
          if !s.token.verifyPin crates stored soPin then s.failInitToken env
          else (.ok (), s.reinitialize crates env soPin label)
        | none => (.ok (), s.reinitialize crates env soPin label)
    else (.ok (), s.reinitialize crates env soPin label)

end Operations

/-! ### Session counts -/

/-- `increment_session_count`. -/
def Token.incrementSessionCount (token : Token) (rw : Bool) : HsmResult Token :=
  if token.sessionCount ≥ token.config.maxSessions then .error .sessionCount
  else if rw then
    if token.rwSessionCount ≥ token.config.maxRwSessions then .error .sessionCount
    else .ok { token with
      sessionCount := token.sessionCount + 1
      rwSessionCount := token.rwSessionCount + 1 }
  else .ok { token with sessionCount := token.sessionCount + 1 }

/-- `decrement_session_count`. An underflow of the read-write count is reported after the total
count has been lowered. -/
def Token.decrementSessionCount (token : Token) (rw : Bool) : HsmResult Unit × Token :=
  if token.sessionCount = 0 then (.error .generalError, token)
  else
    let token := { token with sessionCount := token.sessionCount - 1 }
    if rw then
      if token.rwSessionCount = 0 then (.error .generalError, token)
      else (.ok (), { token with rwSessionCount := token.rwSessionCount - 1 })
    else (.ok (), token)

end CratonHsm
