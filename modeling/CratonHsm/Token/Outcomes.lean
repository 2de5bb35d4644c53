import CratonHsm.Token.Token
import CratonHsm.Crypto.KnownAnswers

/-!
# The outcomes of the token operations

What each operation of the token can do, said once. An operation that takes a PIN compares it with a
stored hash unless something stops it first; its verdict (`loginVerdict`, `setPinVerdict`,
`initTokenVerdict`) is the outcome of that comparison, or nothing when the answer does not depend on
one. The verdict determines the rest: with no verdict the token is left as it was, a wrong PIN is
counted, and a right one has the effect the operation is for (`login_outcome`, `setPin_outcome`,
`initToken_outcome`).
-/

set_option autoImplicit false

namespace CratonHsm

open Crypto Store
open StoredToken Token

section Verdicts

variable (crates : Crates) (env : TokenEnv) (s : StoredToken)

/-- Whether the PIN is right, when a login of the role answers by it. A login into a locked account
compares the PIN too, but its answer is the same either way. -/
def StoredToken.loginVerdict (role : Role) (pin : Bytes) : Option Bool :=
  if s.token.auth.initialized ∧ s.token.auth.login = .publicState ∧
      (role = .user → s.token.auth.userPinInitialized) ∧
      checkRateLimit env.now (s.token.auth.lockout role).nextAllowed = .ok () ∧
      (s.token.auth.lockout role).pinLocked = false then
    (s.token.pinHash role).map fun stored ↦ s.token.verifyPin crates stored pin
  else none

/-- Whether the old PIN is right, when a PIN change of the role answers by it. -/
def StoredToken.setPinVerdict (role : Role) (oldPin newPin : Bytes) : Option Bool :=
  if s.token.config.validatePin newPin = .ok () ∧ s.token.auth.login = role.loginState ∧
      (s.token.auth.lockout role).pinLocked = false ∧
      checkRateLimit env.now (s.token.auth.lockout role).nextAllowed = .ok () then
    (s.token.pinHash role).map fun stored ↦ s.token.verifyPin crates stored oldPin
  else none

/-- Whether the PIN is the current SO PIN, when `init_token` answers by it. -/
def StoredToken.initTokenVerdict (soPin : Bytes) : Option Bool :=
  if s.token.config.validatePin soPin = .ok () ∧ s.token.auth.initialized ∧
      checkRateLimit env.now s.token.auth.initTokenNextAllowed = .ok () then
    s.token.soPinHash.map fun stored ↦ s.token.verifyPin crates stored soPin
  else none

variable {crates env s} in
theorem loginVerdict_eq_true {role : Role} {pin : Bytes}
    (h : s.loginVerdict crates env role pin = some true) :
    ∃ stored, s.token.pinHash role = some stored ∧ s.token.verifyPin crates stored pin = true := by
  unfold loginVerdict at h
  split_ifs at h
  exact Option.map_eq_some_iff.mp h

variable {crates env s} in
theorem setPinVerdict_eq_true {role : Role} {oldPin newPin : Bytes}
    (h : s.setPinVerdict crates env role oldPin newPin = some true) :
    s.token.auth.login = role.loginState ∧ ∃ stored, s.token.pinHash role = some stored ∧
      s.token.verifyPin crates stored oldPin = true := by
  unfold setPinVerdict at h
  split_ifs at h with hguard
  exact ⟨hguard.2.1, Option.map_eq_some_iff.mp h⟩

/-- Without a verdict the token is left as it was, a wrong PIN is counted, and a right one has the
effect that the operation is for. -/
def StoredToken.PinOutcome (role : Role) (verdict : Option Bool)
    (after : HsmResult Unit × StoredToken) (done : StoredToken) : Prop :=
  (verdict = none ∧ ∃ e, after = (.error e, s)) ∨
    (verdict = some false ∧ (s.token.auth.lockout role).pinLocked = false ∧
      after = s.failPin env role) ∨
    (verdict = some true ∧ after = (.ok (), done))

theorem loginRole_outcome (role : Role) (pin : Bytes) (hinit : s.token.auth.initialized)
    (hlogin : s.token.auth.login = .publicState)
    (huser : role = .user → s.token.auth.userPinInitialized) :
    s.PinOutcome env role (s.loginVerdict crates env role pin) (s.loginRole crates env role pin)
      (s.enter env role) := by
  have hverdict : s.loginVerdict crates env role pin =
      if checkRateLimit env.now (s.token.auth.lockout role).nextAllowed = .ok () ∧
          (s.token.auth.lockout role).pinLocked = false then
        (s.token.pinHash role).map fun stored ↦ s.token.verifyPin crates stored pin
      else none := by
    simp [loginVerdict, hinit, hlogin, eq_true huser]
  rw [hverdict, PinOutcome, loginRole]
  rcases checkRateLimit_eq_ok_or env.now (s.token.auth.lockout role).nextAllowed with hrate | hrate
  · cases hhash : s.token.pinHash role with
    | none => simp [hrate]
    | some stored =>
      cases hlock : (s.token.auth.lockout role).pinLocked with
      | true => simp [hrate]
      | false => cases hpin : s.token.verifyPin crates stored pin <;> simp [hrate, hpin]
  · simp [hrate]

theorem login_outcome (role : Role) (pin : Bytes) :
    s.PinOutcome env role (s.loginVerdict crates env role pin)
      (s.login crates env role.userType pin) (s.enter env role) := by
  by_cases hguard : s.token.auth.initialized ∧ s.token.auth.login = .publicState ∧
      (role = .user → s.token.auth.userPinInitialized)
  · obtain ⟨hinit, hlogin, huser⟩ := hguard
    have heq : s.login crates env role.userType pin = s.loginRole crates env role pin := by
      cases role <;> simp_all [login, Role.userType, ckuSo, ckuUser]
    rw [heq]
    exact loginRole_outcome crates env s role pin hinit hlogin huser
  · refine Or.inl ⟨if_neg fun h ↦ hguard ⟨h.1, h.2.1, h.2.2.1⟩, ?_⟩
    cases hinit : s.token.auth.initialized <;> cases hlogin : s.token.auth.login <;>
      cases role <;> simp_all [login, Role.userType, ckuSo, ckuUser]

/-- A login as anyone else than the user or the security officer is refused. -/
theorem login_of_not_role {userType : Nat} (pin : Bytes)
    (hother : ∀ role : Role, userType ≠ role.userType) :
    ∃ e, s.login crates env userType pin = (.error e, s) := by
  have huser : userType ≠ ckuUser := hother .user
  have hso : userType ≠ ckuSo := hother .so
  cases hinit : s.token.auth.initialized <;> simp [login, hinit, huser, hso]

theorem setPinRole_outcome (role : Role) (oldPin newPin : Bytes)
    (hvalid : s.token.config.validatePin newPin = .ok ())
    (hlogin : s.token.auth.login = role.loginState) :
    s.PinOutcome env role (s.setPinVerdict crates env role oldPin newPin)
      (s.setPinRole crates env role oldPin newPin) (s.changePin crates env role oldPin newPin) := by
  have hverdict : s.setPinVerdict crates env role oldPin newPin =
      if (s.token.auth.lockout role).pinLocked = false ∧
          checkRateLimit env.now (s.token.auth.lockout role).nextAllowed = .ok () then
        (s.token.pinHash role).map fun stored ↦ s.token.verifyPin crates stored oldPin
      else none := by
    simp [setPinVerdict, hvalid, hlogin]
  rw [hverdict, PinOutcome, setPinRole]
  cases hlock : (s.token.auth.lockout role).pinLocked with
  | true => simp
  | false =>
    rcases checkRateLimit_eq_ok_or env.now (s.token.auth.lockout role).nextAllowed with
      hrate | hrate
    · cases hhash : s.token.pinHash role with
      | none => simp [hrate]
      | some stored =>
        cases hpin : s.token.verifyPin crates stored oldPin <;> simp [hrate, hpin]
    · simp [hrate]

/-- A PIN change without anybody logged in is refused; else it is one of the role logged in. -/
theorem setPin_outcome (oldPin newPin : Bytes) :
    (∃ e, s.setPin crates env oldPin newPin = (.error e, s) ∧
        ∀ role, s.setPinVerdict crates env role oldPin newPin = none) ∨
      ∃ role, s.token.auth.login = role.loginState ∧
        ((s.setPinVerdict crates env role oldPin newPin = some false ∧
            (s.token.auth.lockout role).pinLocked = false ∧
            s.setPin crates env oldPin newPin = s.failPin env role) ∨
          (s.setPinVerdict crates env role oldPin newPin = some true ∧
            s.setPin crates env oldPin newPin =
              (.ok (), s.changePin crates env role oldPin newPin))) := by
  have hnone_of_login : ∀ role other : Role, s.token.auth.login = role.loginState →
      s.setPinVerdict crates env role oldPin newPin = none →
      s.setPinVerdict crates env other oldPin newPin = none := by
    intro role other hlogin hnone
    cases role <;> cases other <;>
      first
      | exact hnone
      | exact if_neg fun h ↦ by simp [hlogin, Role.loginState] at h
  cases hvalid : s.token.config.validatePin newPin with
  | error e =>
    refine Or.inl ⟨e, by rw [setPin, hvalid], fun role ↦ if_neg fun h ↦ ?_⟩
    rw [hvalid] at h
    cases h.1
  | ok u =>
    by_cases hlogin : ∃ role : Role, s.token.auth.login = role.loginState
    · obtain ⟨role, hlogin⟩ := hlogin
      have heq : s.setPin crates env oldPin newPin =
          s.setPinRole crates env role oldPin newPin := by
        cases role <;> simp [setPin, hvalid, hlogin, Role.loginState]
      rw [heq]
      rcases setPinRole_outcome crates env s role oldPin newPin hvalid hlogin with
        ⟨hnone, e, he⟩ | h
      · exact Or.inl ⟨e, he, fun other ↦ hnone_of_login role other hlogin hnone⟩
      · exact Or.inr ⟨role, hlogin, h⟩
    · have hpublic : s.token.auth.login = .publicState := by
        cases h : s.token.auth.login with
        | publicState => rfl
        | userLoggedIn => exact absurd ⟨.user, h⟩ hlogin
        | soLoggedIn => exact absurd ⟨.so, h⟩ hlogin
      refine Or.inl ⟨.userNotLoggedIn, by simp [setPin, hvalid, hpublic],
        fun role ↦ if_neg fun h ↦ hlogin ⟨role, h.2.1⟩⟩

theorem initPin_outcome (pin : Bytes) :
    (∃ e, s.initPin crates env pin = (.error e, s)) ∨
      (s.token.auth.login = .soLoggedIn ∧ s.token.config.validatePin pin = .ok () ∧
        s.initPin crates env pin = (.ok (), s.installUserPin crates env pin)) := by
  by_cases hlogin : s.token.auth.login = .soLoggedIn
  · cases hvalid : s.token.config.validatePin pin <;> simp [initPin, hlogin, hvalid]
  · simp [initPin, hlogin]

theorem logout_outcome :
    (s.token.auth.login = .publicState ∧ ∃ e, s.logout env = (.error e, s)) ∨
      (s.token.auth.login ≠ .publicState ∧ s.logout env = (.ok (), s.leave env)) := by
  by_cases hlogin : s.token.auth.login = .publicState <;> simp [logout, hlogin]

/-- A token that is not initialised, or that has lost its SO PIN hash, takes any valid PIN. -/
theorem initToken_outcome (soPin : Bytes) (label : FixedBytes 32) :
    (s.initTokenVerdict crates env soPin = none ∧
        ∃ e, s.initToken crates env soPin label = (.error e, s)) ∨
      (s.initTokenVerdict crates env soPin = some false ∧
        s.initToken crates env soPin label = s.failInitToken env) ∨
      (s.initTokenVerdict crates env soPin ≠ some false ∧
        s.initToken crates env soPin label = (.ok (), s.reinitialize crates env soPin label)) := by
  cases hvalid : s.token.config.validatePin soPin with
  | error e => simp [initTokenVerdict, initToken, hvalid]
  | ok u =>
    cases hinit : s.token.auth.initialized with
    | false => simp [initTokenVerdict, initToken, hvalid, hinit]
    | true =>
      rcases checkRateLimit_eq_ok_or env.now s.token.auth.initTokenNextAllowed with hrate | hrate
      · cases hhash : s.token.soPinHash with
        | none => simp [initTokenVerdict, initToken, hvalid, hinit, hrate, hhash]
        | some stored =>
          cases hpin : s.token.verifyPin crates stored soPin <;>
            simp [initTokenVerdict, initToken, hvalid, hinit, hrate, hhash, hpin]
      · simp [initTokenVerdict, initToken, hvalid, hinit, hrate]

end Verdicts

/-! ### What is on disk -/

/-- The lockout file holds the lockout fields of memory. -/
def StoredToken.LockoutSaved (s : StoredToken) : Prop :=
  loadLockout s.files.lockout = s.token.auth.lockoutData

section Saving

variable {env : TokenEnv} {s : StoredToken}

@[simp]
theorem persistTokenState_lockout : (s.persistTokenState env).files.lockout = s.files.lockout := by
  unfold persistTokenState; split_ifs <;> rfl

@[simp]
theorem persistLockout_state : (s.persistLockout env).files.state = s.files.state := by
  unfold persistLockout; split_ifs <;> rfl

/-- What has just been saved is what memory holds. -/
theorem persistLockout_saved (hstore : s.token.config.hasLockoutStore = true)
    (hsaves : env.lockoutSaves = true) : (s.persistLockout env).LockoutSaved := by
  simp [StoredToken.LockoutSaved, persistLockout, hstore, hsaves, loadLockout]

theorem clearLockout_lockout (env : TokenEnv) (s : StoredToken) :
    (s.clearLockout env).files.lockout = .missing ∨
    (s.clearLockout env).files.lockout = s.files.lockout := by
  unfold clearLockout
  split_ifs
  · exact .inl rfl
  · exact .inr rfl

theorem persistTokenState_state (hstore : s.token.config.hasStateStore = true)
    (hsaves : env.stateSaves = true) :
    (s.persistTokenState env).files.state = .content s.token.stateData := by
  simp [persistTokenState, hstore, hsaves]

end Saving

/-! ### What a change of the object master key leaves alone -/

section ObjectKey

variable {crates : Crates} {env : TokenEnv} {token : Token}

theorem provisionObjectKey_eq_ok {token' : Token} {pin : Bytes}
    (h : token.provisionObjectKey crates env pin = .ok token') :
    ∃ salt omk wrapped, env.objectKeySalt = .ok salt ∧ env.objectMasterKey = .ok omk ∧
      wrapKey crates env.wrapNonce (token.kek crates pin salt.1) omk = .ok wrapped ∧
      token' = { token with
        objectKeySalt := some salt.1
        objectMasterKeyWrapped := some wrapped } := by
  obtain ⟨salt, hsalt, h⟩ := bind_eq_ok_iff.mp h
  obtain ⟨omk, homk, h⟩ := bind_eq_ok_iff.mp h
  obtain ⟨wrapped, hwrap, h⟩ := bind_eq_ok_iff.mp h
  exact ⟨salt, omk, wrapped, hsalt, homk, hwrap, (Except.ok.inj h).symm⟩

/-- Re-wrapping changes the wrapped key only. -/
theorem rewrapObjectKey_eq_ok {token' : Token} {oldPin newPin : Bytes}
    (h : token.rewrapObjectKey crates env oldPin newPin = .ok token') :
    token' = { token with objectMasterKeyWrapped := token'.objectMasterKeyWrapped } := by
  unfold rewrapObjectKey at h
  split at h
  case h_1 salt wrapped _ _ =>
    obtain ⟨omk, -, h⟩ := bind_eq_ok_iff.mp h
    obtain ⟨rewrapped, -, h⟩ := bind_eq_ok_iff.mp h
    rw [← Except.ok.inj h]
  case h_2 => rw [← Except.ok.inj h]

end ObjectKey

/-! ### The effects, field by field -/

section Effects

variable (crates : Crates) (env : TokenEnv) (s : StoredToken) (role : Role)

@[simp]
theorem failPin_token : (s.failPin env role).2.token = { s.token with
    auth := s.token.auth.setLockout role
      ((s.token.auth.lockout role).fail s.token.config.maxFailedLogins env.later) } := by
  simp [failPin, withAuth]

@[simp]
theorem passPin_token : (s.passPin env role).token = { s.token with
    auth := s.token.auth.setLockout role (s.token.auth.lockout role).succeed } := by
  simp [passPin, withAuth]

@[simp]
theorem enter_token : (s.enter env role).token = { s.token with
    auth := { s.token.auth.setLockout role (s.token.auth.lockout role).succeed with
      login := role.loginState } } := by
  simp [enter, withAuth]

@[simp]
theorem leave_token : (s.leave env).token = { s.token with
    auth := { s.token.auth with
      login := .publicState
      user := s.token.auth.user.succeed
      so := s.token.auth.so.succeed } } := by
  simp [leave, withAuth]

@[simp]
theorem failInitToken_token : (s.failInitToken env).2.token = { s.token with
    auth := { s.token.auth with
      failedInitTokenLogins := u32Succ s.token.auth.failedInitTokenLogins
      initTokenNextAllowed := some (env.later +
        backoffDuration (u32Succ s.token.auth.failedInitTokenLogins)) } } := by
  simp [failInitToken, withAuth]

@[simp]
theorem restart_config : s.restart.token.config = s.token.config := by
  simp only [restart, load]
  split <;> rfl

@[simp]
theorem reinitialize_token (soPin : Bytes) (label : FixedBytes 32) :
    (s.reinitialize crates env soPin label).token = { s.token with
      soPinHash := some (s.token.hashPin crates env soPin)
      label := label
      userPinHash := none
      objectKeySalt := none
      objectMasterKeyWrapped := none
      auth := { s.token.auth.resetForInit with initialized := true }
      sessionCount := 0
      rwSessionCount := 0 } := by
  unfold reinitialize
  simp

/-- A PIN change replaces the PIN hash, possibly the wrapped object master key, and clears the
failed attempts. -/
theorem changePin_token (oldPin newPin : Bytes) :
    (s.changePin crates env role oldPin newPin).token =
      { (s.passPin env role).token.setPinHash role (s.token.hashPin crates env newPin) with
        objectMasterKeyWrapped :=
          (s.changePin crates env role oldPin newPin).token.objectMasterKeyWrapped } := by
  cases role with
  | so => simp [changePin, hashPin]
  | user =>
    simp only [changePin, persistTokenState_token]
    cases hrewrap : rewrapObjectKey crates env ((s.passPin env .user).token.setPinHash .user
        ((s.passPin env .user).token.hashPin crates env newPin)) oldPin newPin with
    | error e => simp [Except.toOption, hashPin]
    | ok token' =>
      rw [rewrapObjectKey_eq_ok hrewrap]
      simp [Except.toOption, hashPin]

@[simp]
theorem changePin_config (oldPin newPin : Bytes) :
    (s.changePin crates env role oldPin newPin).token.config = s.token.config := by
  rw [changePin_token]
  cases role <;> simp [setPinHash]

/-- A first user PIN replaces the PIN hash, clears the user's lockout, and possibly sets the object
master key. -/
theorem installUserPin_token (pin : Bytes) :
    (s.installUserPin crates env pin).token = { s.token with
      userPinHash := some (s.token.hashPin crates env pin)
      auth := { s.token.auth with userPinInitialized := true, user := .clear }
      objectKeySalt := (s.installUserPin crates env pin).token.objectKeySalt
      objectMasterKeyWrapped := (s.installUserPin crates env
        pin).token.objectMasterKeyWrapped } := by
  simp only [installUserPin, persistTokenState_token, persistLockout_token]
  split_ifs
  · cases hprovision : provisionObjectKey crates env
        { s.token with userPinHash := some (s.token.hashPin crates env pin) } pin with
    | error e => simp [Except.toOption]
    | ok token' =>
      obtain ⟨salt, omk, wrapped, -, -, -, rfl⟩ := provisionObjectKey_eq_ok hprovision
      simp [Except.toOption]
  · rfl

@[simp]
theorem installUserPin_config (pin : Bytes) :
    (s.installUserPin crates env pin).token.config = s.token.config := by
  rw [installUserPin_token]

@[simp]
theorem failPin_state : (s.failPin env role).2.files.state = s.files.state := by
  simp [failPin, withAuth]

@[simp]
theorem passPin_state : (s.passPin env role).files.state = s.files.state := by
  simp [passPin, withAuth]

@[simp]
theorem enter_state : (s.enter env role).files.state = s.files.state := by
  simp [enter, withAuth]

@[simp]
theorem leave_state : (s.leave env).files.state = s.files.state := by
  simp [leave, withAuth]

@[simp]
theorem failInitToken_state : (s.failInitToken env).2.files.state = s.files.state := by
  simp [failInitToken, withAuth]

section StateFile

variable {env s} (hstore : s.token.config.hasStateStore = true) (hsaves : env.stateSaves = true)
include hstore hsaves

theorem changePin_state (role : Role) (oldPin newPin : Bytes) :
    (s.changePin crates env role oldPin newPin).files.state =
      .content (s.changePin crates env role oldPin newPin).token.stateData := by
  rw [← changePin_config crates env s role oldPin newPin] at hstore
  simp only [changePin, persistTokenState_token] at hstore ⊢
  exact persistTokenState_state hstore hsaves

theorem installUserPin_state (pin : Bytes) :
    (s.installUserPin crates env pin).files.state =
      .content (s.installUserPin crates env pin).token.stateData := by
  rw [← installUserPin_config crates env s pin] at hstore
  simp only [installUserPin, persistTokenState_token] at hstore ⊢
  exact persistTokenState_state hstore hsaves

theorem reinitialize_state (soPin : Bytes) (label : FixedBytes 32) :
    (s.reinitialize crates env soPin label).files.state =
      .content (s.reinitialize crates env soPin label).token.stateData := by
  simp [persistTokenState_state, reinitialize, hstore, hsaves, stateData]

end StateFile

section LockoutFile

variable {env s} (hstore : s.token.config.hasLockoutStore = true)
  (hsaves : env.lockoutSaves = true)
include hstore hsaves

theorem changePin_lockoutSaved (role : Role) (oldPin newPin : Bytes) :
    (s.changePin crates env role oldPin newPin).LockoutSaved := by
  have hfile : (s.changePin crates env role oldPin newPin).files.lockout =
      (s.passPin env role).files.lockout := by
    simp [changePin]
  have hauth : (s.changePin crates env role oldPin newPin).token.auth =
      (s.passPin env role).token.auth := by
    rw [changePin_token]; cases role <;> rfl
  rw [StoredToken.LockoutSaved, hfile, hauth]
  exact persistLockout_saved hstore hsaves

theorem installUserPin_lockoutSaved (pin : Bytes) :
    (s.installUserPin crates env pin).LockoutSaved := by
  rw [← installUserPin_config crates env s pin] at hstore
  simp only [installUserPin, persistTokenState_token, persistLockout_token] at hstore
  simpa only [StoredToken.LockoutSaved, installUserPin, persistTokenState_lockout,
    persistTokenState_token] using persistLockout_saved hstore hsaves

theorem reinitialize_lockoutSaved (soPin : Bytes) (label : FixedBytes 32) :
    (s.reinitialize crates env soPin label).LockoutSaved := by
  simp only [StoredToken.LockoutSaved, reinitialize, persistTokenState_lockout,
    persistTokenState_token, clearLockout_token, persistLockout_token]
  -- removed or not, the file says what a reset token says
  rcases clearLockout_lockout env _ with hfile | hfile <;> rw [hfile]
  · rfl
  · simp [persistLockout, hstore, hsaves, loadLockout]

omit hsaves in
theorem restart_lockoutSaved : s.restart.LockoutSaved := by
  simp only [StoredToken.LockoutSaved, restart, load, hstore, if_true]
  split <;> rfl

end LockoutFile

end Effects

/-! ### All operations -/

/-- The operations of a token, and the end of its process followed by the start of another. -/
inductive TokenOp where
  | initToken (soPin : Bytes) (label : FixedBytes 32)
  | initPin (pin : Bytes)
  | setPin (oldPin newPin : Bytes)
  | login (userType : Nat) (pin : Bytes)
  | logout
  | restart

section Operations

variable (crates : Crates) (env : TokenEnv) (s : StoredToken)

/-- The answer of an operation and the token after it. -/
def TokenOp.apply (s : StoredToken) : TokenOp → HsmResult Unit × StoredToken
  | .initToken soPin label => s.initToken crates env soPin label
  | .initPin pin => s.initPin crates env pin
  | .setPin oldPin newPin => s.setPin crates env oldPin newPin
  | .login userType pin => s.login crates env userType pin
  | .logout => s.logout env
  | .restart => (.ok (), s.restart)

/-- What an operation can answer and leave behind. -/
inductive TokenEffect : TokenOp → HsmResult Unit → StoredToken → Prop where
  | refused {op : TokenOp} (e : HsmError) : TokenEffect op (.error e) s
  | wrongPin {op : TokenOp} (role : Role) (e : HsmError) :
      TokenEffect op (.error e) (s.failPin env role).2
  | loggedIn (role : Role) (pin : Bytes) (hright : s.loginVerdict crates env role pin = some true) :
      TokenEffect (.login role.userType pin) (.ok ()) (s.enter env role)
  | pinChanged (role : Role) (oldPin newPin : Bytes)
      (hright : s.setPinVerdict crates env role oldPin newPin = some true) :
      TokenEffect (.setPin oldPin newPin) (.ok ()) (s.changePin crates env role oldPin newPin)
  | pinInstalled (pin : Bytes) (hso : s.token.auth.login = .soLoggedIn)
      (hvalid : s.token.config.validatePin pin = .ok ()) :
      TokenEffect (.initPin pin) (.ok ()) (s.installUserPin crates env pin)
  | loggedOut (hin : s.token.auth.login ≠ .publicState) :
      TokenEffect .logout (.ok ()) (s.leave env)
  | wrongInitToken (soPin : Bytes) (label : FixedBytes 32) (e : HsmError) :
      TokenEffect (.initToken soPin label) (.error e) (s.failInitToken env).2
  | reinitialized (soPin : Bytes) (label : FixedBytes 32)
      (hright : s.initTokenVerdict crates env soPin ≠ some false) :
      TokenEffect (.initToken soPin label) (.ok ()) (s.reinitialize crates env soPin label)
  | restarted : TokenEffect .restart (.ok ()) s.restart

theorem TokenOp.apply_effect (op : TokenOp) :
    TokenEffect crates env s op (op.apply crates env s).1 (op.apply crates env s).2 := by
  cases op with
  | initToken soPin label =>
    simp only [TokenOp.apply]
    rcases initToken_outcome crates env s soPin label with
      ⟨-, e, heq⟩ | ⟨-, heq⟩ | ⟨hright, heq⟩ <;> rw [heq]
    · exact .refused e
    · exact .wrongInitToken soPin label _
    · exact .reinitialized soPin label hright
  | initPin pin =>
    simp only [TokenOp.apply]
    rcases initPin_outcome crates env s pin with ⟨e, heq⟩ | ⟨hso, hvalid, heq⟩ <;> rw [heq]
    · exact .refused e
    · exact .pinInstalled pin hso hvalid
  | setPin oldPin newPin =>
    simp only [TokenOp.apply]
    rcases setPin_outcome crates env s oldPin newPin with
      ⟨e, heq, -⟩ | ⟨role, -, ⟨-, -, heq⟩ | ⟨hright, heq⟩⟩ <;> rw [heq]
    · exact .refused e
    · exact .wrongPin role _
    · exact .pinChanged role oldPin newPin hright
  | login userType pin =>
    simp only [TokenOp.apply]
    by_cases hrole : ∃ role : Role, userType = role.userType
    · obtain ⟨role, rfl⟩ := hrole
      rcases login_outcome crates env s role pin with
        ⟨-, e, heq⟩ | ⟨-, -, heq⟩ | ⟨hright, heq⟩ <;> rw [heq]
      · exact .refused e
      · exact .wrongPin role _
      · exact .loggedIn role pin hright
    · obtain ⟨e, heq⟩ := login_of_not_role crates env s pin fun role h ↦ hrole ⟨role, h⟩
      rw [heq]
      exact .refused e
  | logout =>
    simp only [TokenOp.apply]
    rcases logout_outcome env s with ⟨-, e, heq⟩ | ⟨hin, heq⟩ <;> rw [heq]
    · exact .refused e
    · exact .loggedOut hin
  | restart => exact .restarted

theorem TokenEffect.config_eq {crates : Crates} {env : TokenEnv} {s s' : StoredToken} {op : TokenOp}
    {result : HsmResult Unit} (h : TokenEffect crates env s op result s') :
    s'.token.config = s.token.config := by
  cases h <;> simp

variable {s} in
/-- Memory and the lockout file agree after an operation that saves the lockout. -/
theorem apply_lockoutSaved (op : TokenOp) (hstore : s.token.config.hasLockoutStore = true)
    (hsaves : env.lockoutSaves = true) (hsaved : s.LockoutSaved) :
    (op.apply crates env s).2.LockoutSaved := by
  generalize hafter : (op.apply crates env s).2 = s', hresult : (op.apply crates env s).1 = result
  have heffect := op.apply_effect crates env s
  rw [hafter, hresult] at heffect
  cases heffect with
  | refused e => exact hsaved
  | wrongPin role e => exact persistLockout_saved hstore hsaves
  | loggedIn role pin hright =>
    have hpass : (s.passPin env role).LockoutSaved := persistLockout_saved hstore hsaves
    exact hpass
  | pinChanged role oldPin newPin hright =>
    exact changePin_lockoutSaved crates hstore hsaves role oldPin newPin
  | pinInstalled pin hso hvalid => exact installUserPin_lockoutSaved crates hstore hsaves pin
  | loggedOut hin => exact persistLockout_saved hstore hsaves
  | wrongInitToken soPin label e => exact persistLockout_saved hstore hsaves
  | reinitialized soPin label hright =>
    exact reinitialize_lockoutSaved crates hstore hsaves soPin label
  | restarted => exact restart_lockoutSaved hstore

end Operations

/-- The world of an operation `seconds` after the start. -/
def envAt (seconds : Nat) : TokenEnv where
  now := 1000 * seconds
  later := 1000 * seconds
  pinSalt := pinSaltOnes
  objectKeySalt := .ok keySaltTwos
  objectMasterKey := .ok omkThrees
  wrapNonce := .ok nonceFours
  lockoutSaves := true
  lockoutClears := true
  stateSaves := true

@[simp]
theorem envAt_fileWrites (seconds : Nat) : (envAt seconds).fileWrites = true := rfl

end CratonHsm
