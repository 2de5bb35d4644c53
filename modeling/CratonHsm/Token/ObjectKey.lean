import CratonHsm.Token.Outcomes
import CratonHsm.Library.StepSystem

/-!
# The object master key over PIN changes

Token objects are stored under an object master key, which is kept wrapped under a key derived from
the user PIN. The first `init_pin` after `init_token` draws and wraps it, and a user's own PIN
change wraps it anew. A later `init_pin`, by which the security officer resets the user PIN,
replaces the PIN hash and leaves the key wrapped under the old PIN.

A `KeyedStore` is a token with the persist key that `C_Login` unwraps and the keys of the records
that were written. `records_recoverable` says that in every run, restarts included, every record
opens with the current user PIN, if each PIN reset happens before a key is provisioned or keeps the
PIN, and the nonce of each re-wrapping can be drawn. `record_lost_by_pin_reset` is a run that resets
the PIN in between.
-/

set_option autoImplicit false

namespace CratonHsm.ObjectKey

open Crypto Store Library
open StoredToken

variable {pin salt : Bytes} {config : TokenConfig}

/-! ### The store with its token -/

/-- A token, the persist key in memory, and the object master keys under which the records of the
encrypted store were written since the last `init_token`. -/
structure KeyedStore where
  stored : StoredToken
  persistKey : Option (FixedBytes 32)
  recordKeys : List (FixedBytes 32)

/-- What happens to a store: an operation of the token, a record written under the persist key or
deleted, or the erasure that `C_InitToken` makes before it asks the token. -/
inductive StoreStep where
  | token (env : TokenEnv) (op : TokenOp)
  | writeRecord
  | deleteRecord (index : Nat)
  | erase

section Definitions

variable (crates : Crates)

/-- The persist key after an operation: `C_Login` of the user unwraps it, `C_Logout`, a completed
`C_InitToken` and the end of the process drop it. -/
def nextPersistKey (stored : StoredToken) (persistKey : Option (FixedBytes 32)) :
    TokenOp → HsmResult Unit → Option (FixedBytes 32)
  | .login userType pin, .ok () =>
    if userType = ckuUser then (stored.token.unwrapObjectKey crates pin).or persistKey
    else persistKey
  | .logout, .ok () => none
  | .initToken _ _, .ok () => none
  | .restart, _ => none
  | _, _ => persistKey

/-- The record keys after an operation. -/
def nextRecordKeys (recordKeys : List (FixedBytes 32)) :
    TokenOp → HsmResult Unit → List (FixedBytes 32)
  | .initToken _ _, .ok () => []
  | _, _ => recordKeys

/-- One step of the store. -/
def step (s : KeyedStore) : StoreStep → KeyedStore
  | .token env op =>
    let after := op.apply crates env s.stored
    ⟨after.2, nextPersistKey crates after.2 s.persistKey op after.1,
      nextRecordKeys s.recordKeys op after.1⟩
  | .writeRecord => { s with recordKeys := s.persistKey.toList ++ s.recordKeys }
  | .deleteRecord index => { s with recordKeys := s.recordKeys.eraseIdx index }
  | .erase => { s with persistKey := none, recordKeys := [] }

/-- A store before anything is written. -/
def KeyedStore.fresh (config : TokenConfig) : KeyedStore := ⟨.fresh config, none, []⟩

/-- Every record opens with the current user PIN: a PIN that matches the stored hash unwraps the key
under which the record was written. -/
def Recoverable (s : KeyedStore) : Prop :=
  ∀ omk ∈ s.recordKeys, ∀ hash pin, s.stored.token.userPinHash = some hash →
    s.stored.token.verifyPin crates hash pin = true →
      s.stored.token.unwrapObjectKey crates pin = some omk

/-- The file writes of the step succeed. -/
def writesSucceed : StoreStep → Bool
  | .token env _ => env.fileWrites
  | _ => true

/-- The step keeps the object master key within reach: a PIN that the security officer installs
comes before a key is provisioned or is the current user PIN, and a user who changes the PIN of a
provisioned token gets a nonce for the re-wrapping. -/
def keepsKey (s : KeyedStore) : StoreStep → Bool
  | .token _ (.initPin pin) =>
    s.stored.token.auth.login != .soLoggedIn || s.stored.token.objectKeySalt.isNone ||
      s.stored.token.userPinHash.any fun hash ↦ s.stored.token.verifyPin crates hash pin
  | .token env (.setPin _ _) =>
    s.stored.token.auth.login != .userLoggedIn || s.stored.token.objectKeySalt.isNone ||
      env.wrapNonce.toBool
  | _ => true

end Definitions

/-! ### The fields that hold the key -/

/-- The fields of a token on which the object master key depends. -/
structure KeyFields where
  userPinHash : Option Bytes
  objectKeySalt : Option Bytes
  objectMasterKeyWrapped : Option Bytes

/-- The key fields in memory. -/
def keyFields (token : Token) : KeyFields :=
  ⟨token.userPinHash, token.objectKeySalt, token.objectMasterKeyWrapped⟩

/-- The key fields that a restart loads. -/
def savedKeyFields (file : StoredFile TokenStateData) : KeyFields :=
  match loadTokenState file with
  | some data => ⟨data.userPinHash, data.objectKeySalt, data.objectMasterKeyWrapped⟩
  | none => ⟨none, none, none⟩

/-- The key fields give `omk` to everyone who knows the user PIN. -/
def Opens (crates : Crates) (iterations : Nat) (fields : KeyFields) (omk : FixedBytes 32) : Prop :=
  ∃ salt wrapped, fields.objectKeySalt = some salt ∧ salt.length = 32 ∧
    fields.objectMasterKeyWrapped = some wrapped ∧
    ∀ hash pin, fields.userPinHash = some hash →
      verifyPinPbkdf2 crates hash pin iterations = true →
        unwrapKey crates (deriveKeyFromPin crates pin salt iterations) wrapped = .ok omk

/-- No key is provisioned, and none is in use. -/
structure Unprovisioned (fields : KeyFields) (s : KeyedStore) : Prop where
  salt : fields.objectKeySalt = none
  wrapped : fields.objectMasterKeyWrapped = none
  persistKey : s.persistKey = none
  recordKeys : s.recordKeys = []

/-- The key fields give one key, and no other is in use. -/
structure Provisioned (crates : Crates) (iterations : Nat) (fields : KeyFields) (s : KeyedStore)
    (omk : FixedBytes 32) : Prop where
  opens : Opens crates iterations fields omk
  persistKey : ∀ key, s.persistKey = some key → key = omk
  recordKeys : ∀ key ∈ s.recordKeys, key = omk

/-- The state of memory and disk between steps. -/
structure Inv (crates : Crates) (config : TokenConfig) (s : KeyedStore) : Prop where
  config_eq : s.stored.token.config = config
  hasStateStore : s.stored.token.config.hasStateStore = true
  saved : savedKeyFields s.stored.files.state = keyFields s.stored.token
  keyed : Unprovisioned (keyFields s.stored.token) s ∨
    ∃ omk, Provisioned crates config.pbkdf2Iterations (keyFields s.stored.token) s omk

section Fields

variable {crates : Crates} {iterations : Nat} {fields : KeyFields} {omk : FixedBytes 32}

theorem Opens.unwrapObjectKey {token : Token}
    (h : Opens crates token.config.pbkdf2Iterations (keyFields token) omk) {hash : Bytes}
    (hhash : token.userPinHash = some hash) (hpin : token.verifyPin crates hash pin = true) :
    token.unwrapObjectKey crates pin = some omk := by
  obtain ⟨salt, wrapped, hsalt, -, hwrapped, hopens⟩ := h
  have hsalt' : token.objectKeySalt = some salt := hsalt
  have hwrapped' : token.objectMasterKeyWrapped = some wrapped := hwrapped
  have hunwrap := hopens hash pin hhash hpin
  simp [Token.unwrapObjectKey, hsalt', hwrapped', Token.kek, hunwrap, Except.toOption]

/-- A PIN whose hash is stored and a PIN that matches that hash derive the same keys. -/
theorem pbkdf2_eq_of_verifyPin (huniform : crates.Pbkdf2Uniform) {salt : FixedBytes 32}
    {pin' : Bytes}
    (h : verifyPinPbkdf2 crates (hashPinPbkdf2 crates salt pin iterations) pin' iterations = true)
    (keySalt : Bytes) :
    deriveKeyFromPin crates pin keySalt iterations =
      deriveKeyFromPin crates pin' keySalt iterations :=
  huniform pin pin' salt.1 keySalt iterations
    ((verifyPinPbkdf2_hashPinPbkdf2 crates salt pin pin' iterations).mp h)

/-- A stored hash of `pin` opens the key if the key is wrapped under the key of `pin`. -/
theorem opens_of_wrapped (huniform : crates.Pbkdf2Uniform) {hashSalt : FixedBytes 32}
    {wrapped : Bytes} (hlength : salt.length = 32)
    (hunwrap : unwrapKey crates (deriveKeyFromPin crates pin salt iterations) wrapped = .ok omk) :
    Opens crates iterations
      ⟨some (hashPinPbkdf2 crates hashSalt pin iterations), some salt, some wrapped⟩ omk := by
  refine ⟨salt, wrapped, rfl, hlength, rfl, fun hash pin' hhash hpin ↦ ?_⟩
  obtain rfl := Option.some.inj hhash
  rw [← pbkdf2_eq_of_verifyPin huniform hpin salt]
  exact hunwrap

/-- What is saved is what a restart loads, as long as a salt has its length. -/
theorem savedKeyFields_stateData {token : Token}
    (hsalt : ∀ salt, token.objectKeySalt = some salt → salt.length = 32) :
    savedKeyFields (.content token.stateData) = keyFields token := by
  cases h : token.objectKeySalt with
  | none => simp [savedKeyFields, loadTokenState, TokenStateData.restored, Token.stateData,
      keyFields, h]
  | some salt => simp [savedKeyFields, loadTokenState, TokenStateData.restored, Token.stateData,
      keyFields, h, hsalt salt h]

/-- What is provisioned has a salt of full length, so a saved state keeps the key fields. -/
theorem Inv.of_saved {s s' : KeyedStore} (hinv : Inv crates config s)
    (hconfig : s'.stored.token.config = s.stored.token.config)
    (hfile : s'.stored.files.state = .content s'.stored.token.stateData)
    (hkeyed : Unprovisioned (keyFields s'.stored.token) s' ∨
      ∃ omk, Provisioned crates config.pbkdf2Iterations (keyFields s'.stored.token) s' omk) :
    Inv crates config s' := by
  refine ⟨hconfig.trans hinv.config_eq, by rw [hconfig, hinv.hasStateStore], ?_, hkeyed⟩
  rw [hfile]
  refine savedKeyFields_stateData fun salt hsalt ↦ ?_
  rcases hkeyed with hnone | ⟨omk, ⟨salt', wrapped, hsalt', hlength, -⟩, -, -⟩
  · exact absurd (hsalt.symm.trans hnone.salt) (by simp)
  · rwa [Option.mem_unique hsalt hsalt']

theorem Inv.recoverable {s : KeyedStore} (hinv : Inv crates config s) :
    Recoverable crates s := by
  intro key hkey hash pin hhash hpin
  rcases hinv.keyed with hnone | ⟨omk, hprovisioned⟩
  · rw [hnone.recordKeys] at hkey
    cases hkey
  · rw [hprovisioned.recordKeys key hkey]
    refine Opens.unwrapObjectKey ?_ hhash hpin
    rw [hinv.config_eq]
    exact hprovisioned.opens

end Fields

/-! ### What each step does to the key -/

section Steps

variable {crates : Crates} {config : TokenConfig} {s : KeyedStore} {env : TokenEnv}
  {oldPin newPin : Bytes}

/-- A step that leaves the key fields and their file alone, at most drops the persist key, and
writes records under that key only. -/
theorem Inv.frame (hinv : Inv crates config s) {s' : KeyedStore}
    (hconfig : s'.stored.token.config = s.stored.token.config)
    (hfields : keyFields s'.stored.token = keyFields s.stored.token)
    (hfile : s'.stored.files.state = s.stored.files.state)
    (hpersist : ∀ key, s'.persistKey = some key → s.persistKey = some key)
    (hrecords : ∀ key ∈ s'.recordKeys, key ∈ s.recordKeys ∨ s.persistKey = some key) :
    Inv crates config s' where
  config_eq := hconfig.trans hinv.config_eq
  hasStateStore := by rw [hconfig, hinv.hasStateStore]
  saved := by rw [hfile, hfields]; exact hinv.saved
  keyed := by
    rw [hfields]
    rcases hinv.keyed with hnone | ⟨omk, hprovisioned⟩
    · refine Or.inl ⟨hnone.salt, hnone.wrapped, ?_, ?_⟩
      · cases hkey : s'.persistKey with
        | none => rfl
        | some key => exact absurd (hpersist key hkey) (by simp [hnone.persistKey])
      · refine List.eq_nil_iff_forall_not_mem.mpr fun key hkey ↦ ?_
        simpa [hnone.recordKeys, hnone.persistKey] using hrecords key hkey
    · exact Or.inr ⟨omk, hprovisioned.opens, fun key h ↦
        hprovisioned.persistKey key (hpersist key h),
        fun key h ↦ (hrecords key h).elim (hprovisioned.recordKeys key)
          (hprovisioned.persistKey key)⟩

variable {role : Role} {wrapped rewrapped : Bytes} {omk : FixedBytes 32}

/-- A user's login unwraps the key that the records have. -/
theorem Inv.loggedIn (hinv : Inv crates config s)
    (hright : s.stored.loginVerdict crates env role pin = some true) :
    Inv crates config ⟨s.stored.enter env role,
      nextPersistKey crates (s.stored.enter env role) s.persistKey (.login role.userType pin)
        (.ok ()), s.recordKeys⟩ := by
  cases role with
  | so =>
    refine hinv.frame ?_ ?_ ?_ ?_ ?_
    · simp
    · simp [keyFields]
    · simp
    · simp [nextPersistKey, Role.userType, ckuSo, ckuUser]
    · exact fun _ h ↦ Or.inl h
  | user =>
    obtain ⟨hash, hhash, hpin⟩ := loginVerdict_eq_true hright
    have hunwrap : (s.stored.enter env .user).token.unwrapObjectKey crates pin =
        s.stored.token.unwrapObjectKey crates pin := by
      simp [Token.unwrapObjectKey, Token.kek]
    have hfields : keyFields (s.stored.enter env .user).token = keyFields s.stored.token := by
      simp [keyFields]
    refine ⟨by simpa using hinv.config_eq, by simpa using hinv.hasStateStore,
      by simpa [keyFields] using hinv.saved, ?_⟩
    simp only [hfields, nextPersistKey, Role.userType, if_true, hunwrap]
    rcases hinv.keyed with hnone | ⟨omk, hprovisioned⟩
    · have hsalt : s.stored.token.objectKeySalt = none := hnone.salt
      exact Or.inl ⟨hnone.salt, hnone.wrapped,
        by simp [Token.unwrapObjectKey, hsalt, hnone.persistKey], hnone.recordKeys⟩
    · have hopens := hprovisioned.opens
      rw [← hinv.config_eq] at hopens
      rw [hopens.unwrapObjectKey hhash hpin]
      exact Or.inr ⟨omk, hprovisioned.opens, fun key h ↦ (Option.some.inj h).symm,
        hprovisioned.recordKeys⟩

theorem rewrapObjectKey_of_unwrap (token : Token) (hsalt : token.objectKeySalt = some salt)
    (hwrapped : token.objectMasterKeyWrapped = some wrapped)
    (hunwrap : unwrapKey crates (token.kek crates oldPin salt) wrapped = .ok omk)
    (hrewrap : wrapKey crates env.wrapNonce (token.kek crates newPin salt) omk = .ok rewrapped) :
    token.rewrapObjectKey crates env oldPin newPin =
      .ok { token with objectMasterKeyWrapped := some rewrapped } := by
  simp [Token.rewrapObjectKey, hsalt, hwrapped, hunwrap, bind, Except.bind, hrewrap]

/-- A user's PIN change wraps the same key under the new PIN. -/
theorem keyFields_changePin_user (hsalt : s.stored.token.objectKeySalt = some salt)
    (hwrapped : s.stored.token.objectMasterKeyWrapped = some wrapped)
    (hunwrap : unwrapKey crates (s.stored.token.kek crates oldPin salt) wrapped = .ok omk)
    (hrewrap : wrapKey crates env.wrapNonce (s.stored.token.kek crates newPin salt) omk =
      .ok rewrapped) :
    keyFields (s.stored.changePin crates env .user oldPin newPin).token =
      ⟨some (s.stored.token.hashPin crates env newPin), some salt, some rewrapped⟩ := by
  have hrewrapped := rewrapObjectKey_of_unwrap
    ((s.stored.passPin env .user).token.setPinHash .user
      ((s.stored.passPin env .user).token.hashPin crates env newPin))
    (by simpa [Token.setPinHash] using hsalt) (by simpa [Token.setPinHash] using hwrapped)
    (by simpa [Token.setPinHash, Token.kek] using hunwrap)
    (by simpa [Token.setPinHash, Token.kek] using hrewrap)
  simp only [changePin, keyFields, persistTokenState_token, hrewrapped,
    Except.toOption, Option.getD_some]
  simp [Token.setPinHash, Token.hashPin, hsalt]

/-- Without a provisioned key, a user's PIN change replaces the hash alone. -/
theorem keyFields_changePin_user_of_none (hsalt : s.stored.token.objectKeySalt = none)
    (hwrapped : s.stored.token.objectMasterKeyWrapped = none) :
    keyFields (s.stored.changePin crates env .user oldPin newPin).token =
      ⟨some (s.stored.token.hashPin crates env newPin), none, none⟩ := by
  simp [changePin, keyFields, Token.rewrapObjectKey, Except.toOption, Token.setPinHash,
    Token.hashPin, hsalt, hwrapped]

theorem Inv.pinChanged (hinv : Inv crates config s) (hinverts : crates.GcmInverts)
    (htotal : crates.GcmTotal) (huniform : crates.Pbkdf2Uniform) (hsaves : env.stateSaves = true)
    (hright : s.stored.setPinVerdict crates env role oldPin newPin = some true)
    (hkeeps : keepsKey crates s (.token env (.setPin oldPin newPin)) = true) :
    Inv crates config ⟨s.stored.changePin crates env role oldPin newPin, s.persistKey,
      s.recordKeys⟩ := by
  refine hinv.of_saved (changePin_config ..)
    (changePin_state crates hinv.hasStateStore hsaves role oldPin newPin) ?_
  obtain ⟨hlogin, hash, hhash, hpin⟩ := setPinVerdict_eq_true hright
  cases role with
  | so =>
    have hfields : keyFields (s.stored.changePin crates env .so oldPin newPin).token =
        keyFields s.stored.token := by
      simp [changePin, keyFields, Token.setPinHash]
    rw [hfields]
    rcases hinv.keyed with hnone | ⟨omk, hprovisioned⟩
    · exact Or.inl ⟨hnone.salt, hnone.wrapped, hnone.persistKey, hnone.recordKeys⟩
    · exact Or.inr ⟨omk, hprovisioned.opens, hprovisioned.persistKey, hprovisioned.recordKeys⟩
  | user =>
    rcases hinv.keyed with hnone | ⟨omk, hprovisioned⟩
    · rw [keyFields_changePin_user_of_none hnone.salt hnone.wrapped]
      exact Or.inl ⟨rfl, rfl, hnone.persistKey, hnone.recordKeys⟩
    · obtain ⟨salt, wrapped, hsalt, hlength, hwrapped, hopens⟩ := hprovisioned.opens
      have hsome : s.stored.token.objectKeySalt = some salt := hsalt
      obtain ⟨nonce, hnonce⟩ : ∃ nonce, env.wrapNonce = .ok nonce := by
        cases hwrap : env.wrapNonce with
        | error e => simp [keepsKey, hlogin, Role.loginState, hsome, hwrap, Except.toBool] at hkeeps
        | ok nonce => exact ⟨nonce, rfl⟩
      have hunwrap : unwrapKey crates (s.stored.token.kek crates oldPin salt) wrapped =
          .ok omk := by
        rw [Token.kek, hinv.config_eq]
        refine hopens hash oldPin hhash ?_
        rw [← hinv.config_eq]
        exact hpin
      obtain ⟨rewrapped, hrewrap⟩ := wrapKey_eq_ok htotal nonce
        (s.stored.token.kek crates newPin salt) omk
      rw [← hnonce] at hrewrap
      rw [keyFields_changePin_user hsalt hwrapped hunwrap hrewrap]
      refine Or.inr ⟨omk, ?_, hprovisioned.persistKey, hprovisioned.recordKeys⟩
      have hrewrapped := unwrapKey_wrapKey hinverts hrewrap
      rw [Token.kek, hinv.config_eq] at hrewrapped
      rw [Token.hashPin, hinv.config_eq]
      exact opens_of_wrapped huniform hlength hrewrapped

/-- The first user PIN provisions a key, unless a random draw fails. -/
theorem keyFields_installUserPin_of_none (crates : Crates) (env : TokenEnv) (pin : Bytes)
    (hstore : s.stored.token.config.hasStateStore = true)
    (hsalt : s.stored.token.objectKeySalt = none)
    (hwrapped : s.stored.token.objectMasterKeyWrapped = none) :
    keyFields (s.stored.installUserPin crates env pin).token =
        ⟨some (s.stored.token.hashPin crates env pin), none, none⟩ ∨
      ∃ salt omk wrapped, env.objectKeySalt = .ok salt ∧ env.objectMasterKey = .ok omk ∧
        wrapKey crates env.wrapNonce (s.stored.token.kek crates pin salt.1) omk = .ok wrapped ∧
        keyFields (s.stored.installUserPin crates env pin).token =
          ⟨some (s.stored.token.hashPin crates env pin), some salt.1, some wrapped⟩ := by
  have hfirst :
      (s.stored.token.config.hasStateStore && s.stored.token.objectKeySalt.isNone) = true := by
    simp [hstore, hsalt]
  simp only [installUserPin, keyFields, persistTokenState_token,
    persistLockout_token, hfirst, if_true]
  cases hprovision : Token.provisionObjectKey crates env
      { s.stored.token with
        userPinHash := some (s.stored.token.hashPin crates env pin) } pin with
  | error e => exact Or.inl (by simp [Except.toOption, hsalt, hwrapped])
  | ok token' =>
    obtain ⟨salt, omk, wrapped, hdrawn, homk, hwrap, rfl⟩ := provisionObjectKey_eq_ok hprovision
    exact Or.inr ⟨salt, omk, wrapped, hdrawn, homk, hwrap, by simp [Except.toOption]⟩

/-- A reset of the user PIN of a provisioned token replaces the hash alone. -/
theorem keyFields_installUserPin_of_some (crates : Crates) (env : TokenEnv) (pin : Bytes)
    (hsalt : s.stored.token.objectKeySalt = some salt) :
    keyFields (s.stored.installUserPin crates env pin).token =
      ⟨some (s.stored.token.hashPin crates env pin), some salt,
        s.stored.token.objectMasterKeyWrapped⟩ := by
  simp [installUserPin, keyFields, hsalt]

theorem Inv.pinInstalled (hinv : Inv crates config s) (hinverts : crates.GcmInverts)
    (huniform : crates.Pbkdf2Uniform) (hsaves : env.stateSaves = true)
    (hso : s.stored.token.auth.login = .soLoggedIn)
    (hkeeps : keepsKey crates s (.token env (.initPin pin)) = true) :
    Inv crates config ⟨s.stored.installUserPin crates env pin, s.persistKey, s.recordKeys⟩ := by
  refine hinv.of_saved (installUserPin_config ..)
    (installUserPin_state crates hinv.hasStateStore hsaves pin) ?_
  dsimp only
  rcases hinv.keyed with hnone | ⟨omk, hprovisioned⟩
  · rcases keyFields_installUserPin_of_none crates env pin hinv.hasStateStore hnone.salt
      hnone.wrapped with hfields | ⟨salt, omk, wrapped, -, -, hwrap, hfields⟩ <;> rw [hfields]
    · exact Or.inl ⟨rfl, rfl, hnone.persistKey, hnone.recordKeys⟩
    · have hunwrap := unwrapKey_wrapKey hinverts hwrap
      rw [Token.kek, hinv.config_eq] at hunwrap
      rw [Token.hashPin, hinv.config_eq]
      exact Or.inr ⟨omk, opens_of_wrapped huniform salt.2 hunwrap, by simp [hnone.persistKey],
        by simp [hnone.recordKeys]⟩
  · obtain ⟨salt, wrapped, hsalt, hlength, hwrapped, hopens⟩ := hprovisioned.opens
    have hsome : s.stored.token.objectKeySalt = some salt := hsalt
    have hwrapped' : s.stored.token.objectMasterKeyWrapped = some wrapped := hwrapped
    obtain ⟨hash, hhash, hpin⟩ : ∃ hash, s.stored.token.userPinHash = some hash ∧
        s.stored.token.verifyPin crates hash pin = true := by
      cases hhash : s.stored.token.userPinHash with
      | none => simp [keepsKey, hso, hsome, hhash] at hkeeps
      | some hash => exact ⟨hash, rfl, by simpa [keepsKey, hso, hsome, hhash] using hkeeps⟩
    rw [Token.verifyPin, hinv.config_eq] at hpin
    rw [keyFields_installUserPin_of_some crates env pin hsome, hwrapped', Token.hashPin,
      hinv.config_eq]
    exact Or.inr ⟨omk, opens_of_wrapped huniform hlength (hopens hash pin hhash hpin),
      hprovisioned.persistKey, hprovisioned.recordKeys⟩

theorem Inv.reinitialized (hinv : Inv crates config s) (hsaves : env.stateSaves = true)
    (soPin : Bytes) (label : FixedBytes 32) :
    Inv crates config ⟨s.stored.reinitialize crates env soPin label, none, []⟩ :=
  hinv.of_saved (by simp) (reinitialize_state crates hinv.hasStateStore hsaves soPin label)
    (Or.inl ⟨by simp [keyFields], by simp [keyFields], rfl, rfl⟩)

/-- A restart loads the key fields that were saved. -/
theorem keyFields_load (hstore : config.hasStateStore = true) (files : TokenFiles) :
    keyFields (.load config files) = savedKeyFields files.state := by
  simp only [Token.load, hstore, if_true, savedKeyFields]
  cases loadTokenState files.state <;> rfl

theorem Inv.restarted (hinv : Inv crates config s) :
    Inv crates config ⟨s.stored.restart, none, s.recordKeys⟩ := by
  have hfields : keyFields s.stored.restart.token = keyFields s.stored.token := by
    rw [restart, keyFields_load hinv.hasStateStore, hinv.saved]
  exact hinv.frame (restart_config s.stored) hfields rfl (fun _ h ↦ absurd h (by simp))
    (fun _ h ↦ Or.inl h)

/-- A step whose writes succeed keeps the invariant, if it keeps the key. -/
theorem Inv.step (hinv : Inv crates config s) (hinverts : crates.GcmInverts)
    (htotal : crates.GcmTotal) (huniform : crates.Pbkdf2Uniform) {label : StoreStep}
    (hwrites : writesSucceed label = true) (hkeeps : keepsKey crates s label = true) :
    Inv crates config (step crates s label) := by
  cases label with
  | token env op =>
    have heffect := op.apply_effect crates env s.stored
    have hsaves : env.stateSaves = true := (TokenEnv.saves_of_fileWrites hwrites).2.2
    simp only [ObjectKey.step]
    generalize (op.apply crates env s.stored).1 = result at heffect ⊢
    generalize (op.apply crates env s.stored).2 = stored' at heffect ⊢
    cases heffect with
    | refused e =>
      cases op <;> exact hinv.frame rfl rfl rfl (fun _ h ↦ by first | exact h | cases h)
        (fun _ h ↦ Or.inl h)
    | wrongPin role e =>
      refine hinv.frame (by simp) (by simp [keyFields]) (by simp) ?_ ?_
      · cases op <;> exact fun _ h ↦ by first | exact h | cases h
      · cases op <;> exact fun _ h ↦ Or.inl h
    | loggedIn role pin hright => exact hinv.loggedIn hright
    | pinChanged role oldPin newPin hright =>
      exact hinv.pinChanged hinverts htotal huniform hsaves hright hkeeps
    | pinInstalled pin hso hvalid =>
      exact hinv.pinInstalled hinverts huniform hsaves hso hkeeps
    | loggedOut hin =>
      exact hinv.frame (by simp) (by simp [keyFields]) (by simp)
        (fun _ h ↦ by cases h) (fun _ h ↦ Or.inl h)
    | wrongInitToken soPin label e =>
      exact hinv.frame (by simp) (by simp [keyFields]) (by simp) (fun _ h ↦ h)
        (fun _ h ↦ Or.inl h)
    | reinitialized soPin label hright => exact hinv.reinitialized hsaves soPin label
    | restarted => exact hinv.restarted
  | writeRecord =>
    refine hinv.frame rfl rfl rfl (fun _ h ↦ h) fun key h ↦ ?_
    rcases List.mem_append.mp h with hnew | hold
    · exact Or.inr (Option.mem_toList.mp hnew)
    · exact Or.inl hold
  | deleteRecord index =>
    exact hinv.frame rfl rfl rfl (fun _ h ↦ h) fun _ h ↦ Or.inl (List.mem_of_mem_eraseIdx h)
  | erase => exact hinv.frame rfl rfl rfl (fun _ h ↦ by cases h) fun _ h ↦ by cases h

theorem inv_fresh (crates : Crates) (hstore : config.hasStateStore = true) :
    Inv crates config (KeyedStore.fresh config) where
  config_eq := by simp [KeyedStore.fresh]
  hasStateStore := by simpa [KeyedStore.fresh] using hstore
  saved := by simp only [KeyedStore.fresh, fresh_token, keyFields]; rfl
  keyed := Or.inl ⟨by simp [keyFields, KeyedStore.fresh], by simp [keyFields, KeyedStore.fresh],
    rfl, rfl⟩

end Steps

/-! ### Whole runs -/

/-- In every run whose file writes succeed, restarts included, every record of the store opens with
the current user PIN, if no PIN reset comes after a key is provisioned unless it keeps the PIN, and
the nonce of each re-wrapping can be drawn. -/
theorem records_recoverable (crates : Crates) (hinverts : crates.GcmInverts)
    (htotal : crates.GcmTotal) (huniform : crates.Pbkdf2Uniform) (config : TokenConfig)
    (hstore : config.hasStateStore = true) (steps : List StoreStep)
    (hwrites : ∀ label ∈ steps, writesSucceed label = true)
    (hkeeps : FoldMeets (step crates) (fun s label ↦ keepsKey crates s label = true)
      (KeyedStore.fresh config) steps) :
    Recoverable crates (steps.foldl (step crates) (KeyedStore.fresh config)) := by
  have hwritten : FoldMeets (step crates) (fun _ label ↦ writesSucceed label = true)
      (KeyedStore.fresh config) steps := FoldMeets.of_forall hwrites
  have hstep : ∀ s label, Inv crates config s →
      (writesSucceed label = true ∧ keepsKey crates s label = true) →
        Inv crates config (step crates s label) :=
    fun s label hinv hguard ↦ hinv.step hinverts htotal huniform hguard.1 hguard.2
  exact (foldl_invariant hstep steps _ (inv_fresh crates hstore) (hwritten.and hkeeps)).recoverable

/-- A token is set up, and its user logs in and stores an object. -/
def storedByUser : List StoreStep :=
  [.token (envAt 0) (.initToken soPin1 blankLabel), .token (envAt 1) (.login ckuSo soPin1),
    .token (envAt 2) (.initPin user01), .token (envAt 3) .logout,
    .token (envAt 4) (.login ckuUser user01), .writeRecord]

/-- The security officer then resets the user PIN. -/
def pinReset : List StoreStep :=
  storedByUser ++ [.token (envAt 5) .logout, .token (envAt 6) (.login ckuSo soPin1),
    .token (envAt 7) (.initPin user02)]

/-- The user then changes the PIN, and the process restarts. -/
def pinChange : List StoreStep :=
  storedByUser ++ [.token (envAt 5) (.setPin user01 user02), .token (envAt 6) .restart,
    .token (envAt 7) (.login ckuUser user02)]

/-- After a PIN reset the stored object does not open with the current user PIN. -/
theorem record_lost_by_pin_reset :
    (∀ label ∈ pinReset, writesSucceed label = true) ∧
      ¬ Recoverable pinAnswers.crates
        (pinReset.foldl (step pinAnswers.crates) (KeyedStore.fresh .strict)) := by
  refine ⟨by decide, fun h ↦ ?_⟩
  have hunwrap := h omkThrees (by decide +kernel)
    (hashPinPbkdf2 pinAnswers.crates pinSaltOnes user02 100000) user02 (by decide +kernel)
    (by decide +kernel)
  revert hunwrap
  decide +kernel

/-- After a PIN change and a restart it does. -/
theorem record_kept_by_pin_change :
    (pinChange.foldl (step pinAnswers.crates) (KeyedStore.fresh .strict)).recordKeys =
        [omkThrees] ∧
      (pinChange.foldl (step pinAnswers.crates) (KeyedStore.fresh .strict)).persistKey =
        some omkThrees ∧
      Recoverable pinAnswers.crates
        (pinChange.foldl (step pinAnswers.crates) (KeyedStore.fresh .strict)) :=
  ⟨by decide +kernel, by decide +kernel,
    records_recoverable pinAnswers.crates pinAnswers.gcmInverts pinAnswers.gcmTotal
      pinAnswers.pbkdf2Uniform .strict rfl pinChange (by decide) (by decide +kernel)⟩

end CratonHsm.ObjectKey
