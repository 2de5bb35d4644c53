import CratonHsm.Store.Backup
import CratonHsm.Token.Outcomes

/-!
# The token-state file

`token/token_state_store.rs` with the texts that are in the file: a JSON object whose binary fields
are in hexadecimal. Loading decodes each field on its own and drops what does not decode
(`TokenStateText.restored`), so that an initialised token has an SO PIN hash and an initialised user
PIN has a user PIN hash, whatever the file holds. The states of a token are consistent in this sense
along every run (`TokenEffect.consistent`), and such a state is read back as it was written
(`restored_stateText`).

The JSON of `serde_json` is a parameter that is read back as it was written. `StateJson.decoded` is
the decoded file that `Token.load` is about.
-/

set_option autoImplicit false

namespace CratonHsm

open Crypto Store

/-! ### Hexadecimal -/

/-- The value of a hexadecimal digit. -/
def hexValue (c : Char) : Option Nat :=
  if '0' ≤ c ∧ c ≤ '9' then some (c.toNat - 48)
  else if 'a' ≤ c ∧ c ≤ 'f' then some (c.toNat - 87)
  else if 'A' ≤ c ∧ c ≤ 'F' then some (c.toNat - 55)
  else none

def hexDecodeChars : List Char → Option Bytes
  | [] => some []
  | [_] => none
  | high :: low :: rest => do
    let high ← hexValue high
    let low ← hexValue low
    let bytes ← hexDecodeChars rest
    some (UInt8.ofNat (16 * high + low) :: bytes)

/-- `hex::decode`. -/
def hexDecode (text : String) : Option Bytes := hexDecodeChars text.toList

theorem hexValue_digitChar : ∀ n < 16, hexValue n.digitChar = some n := by decide

@[simp]
theorem hexDecode_hexEncode (bytes : Bytes) : hexDecode (hexEncode bytes) = some bytes := by
  rw [hexDecode, hexEncode, String.toList_ofList]
  induction bytes with
  | nil => rfl
  | cons byte bytes ih =>
    have hbyte := byte.toNat_lt
    have hvalue : UInt8.ofNat (16 * (byte.toNat / 16) + byte.toNat % 16) = byte := by
      rw [Nat.div_add_mod, UInt8.ofNat_toNat]
    simp only [List.flatMap_cons, List.cons_append, List.nil_append, hexDecodeChars, ih,
      hexValue_digitChar _ (show byte.toNat / 16 < 16 by omega),
      hexValue_digitChar _ (show byte.toNat % 16 < 16 by omega), Option.bind_eq_bind,
      Option.bind_some, hvalue]

/-! ### The file -/

/-- `TokenStateData`, as it is in the file. -/
structure TokenStateText where
  initialized : Bool
  userPinInitialized : Bool
  labelHex : String
  soPinHashHex : Option String
  userPinHashHex : Option String
  objectKeySaltHex : Option String
  objectMasterKeyWrappedHex : Option String
  deriving Countable

/-- `RestoredTokenState`. -/
structure RestoredTokenState where
  initialized : Bool
  userPinInitialized : Bool
  label : Option (FixedBytes 32)
  soPinHash : Option Bytes
  userPinHash : Option Bytes
  objectKeySalt : Option Bytes
  objectMasterKeyWrapped : Option Bytes

/-- `serde_json` for the token state: what is written is read back. -/
structure StateJson where
  toText : TokenStateText → String
  ofText : String → Option TokenStateText
  ofText_toText : ∀ state, ofText (toText state) = some state

/-- The states are countable, so there are texts for them that are read back. -/
noncomputable def StateJson.enumerated : StateJson where
  toText state := .ofList ((Library.unary state).map fun _ ↦ '0')
  ofText text := Library.ofUnary (text.toList.map fun _ ↦ 0)
  ofText_toText state := by
    have hzeros : List.replicate (Library.unary state).length 0 = Library.unary state := by
      simp [Library.unary]
    simp [hzeros, Library.ofUnary_unary]

/-- What `TokenStateStore::load` makes of a parsed file. -/
def TokenStateText.restored (data : TokenStateText) : RestoredTokenState :=
  let soPinHash := data.soPinHashHex.bind hexDecode
  let userPinHash := data.userPinHashHex.bind hexDecode
  { initialized := data.initialized && soPinHash.isSome
    userPinInitialized := data.userPinInitialized && userPinHash.isSome
    label := (hexDecode data.labelHex).bind fun bytes ↦
      if h : bytes.length = 32 then some ⟨bytes, h⟩ else none
    soPinHash := soPinHash
    userPinHash := userPinHash
    objectKeySalt := (data.objectKeySaltHex.bind hexDecode).filter (·.length = 32)
    objectMasterKeyWrapped := data.objectMasterKeyWrappedHex.bind hexDecode }

/-- `TokenStateStore::load`. -/
def StateJson.load (json : StateJson) : StoredFile String → Option RestoredTokenState
  | .content text => (json.ofText text).map TokenStateText.restored
  | .missing => none
  | .unreadable => none

/-- What `persist_token_state` saves. -/
def Token.stateText (token : Token) : TokenStateText where
  initialized := token.auth.initialized
  userPinInitialized := token.auth.userPinInitialized
  labelHex := hexEncode token.label.1
  soPinHashHex := token.soPinHash.map hexEncode
  userPinHashHex := token.userPinHash.map hexEncode
  objectKeySaltHex := token.objectKeySalt.map hexEncode
  objectMasterKeyWrappedHex := token.objectMasterKeyWrapped.map hexEncode

/-- `TokenStateStore::save`, on a file system that does what it is asked. -/
def StateJson.save (json : StateJson) (token : Token) : StoredFile String :=
  .content (json.toText token.stateText)

/-- The token state with the label of the settings where the file has none. -/
def RestoredTokenState.data (state : RestoredTokenState) (config : TokenConfig) : TokenStateData :=
  ⟨state.initialized, state.userPinInitialized, state.label.getD config.label, state.soPinHash,
    state.userPinHash, state.objectKeySalt, state.objectMasterKeyWrapped⟩

/-- The file with its fields decoded. -/
def StateJson.decoded (json : StateJson) (config : TokenConfig) (file : StoredFile String) :
    StoredFile TokenStateData :=
  match json.load file with
  | some state => .content (state.data config)
  | none => .missing

/-! ### Consistent states -/

/-- What `TokenStateStore::load` guards and every state of a token has. -/
structure Token.Consistent (token : Token) : Prop where
  so : token.auth.initialized → token.soPinHash.isSome
  user : token.auth.userPinInitialized → token.userPinHash.isSome
  salt : ∀ salt ∈ token.objectKeySalt, salt.length = 32

/-- A consistent state is read back as it was written. -/
theorem Token.Consistent.restored_stateText {token : Token} (h : token.Consistent) :
    token.stateText.restored = ⟨token.auth.initialized, token.auth.userPinInitialized,
      some token.label, token.soPinHash, token.userPinHash, token.objectKeySalt,
      token.objectMasterKeyWrapped⟩ := by
  have hdecode (field : Option Bytes) : (field.map hexEncode).bind hexDecode = field := by
    cases field <;> simp
  have hsalt : token.objectKeySalt.filter (·.length = 32) = token.objectKeySalt := by
    cases hfield : token.objectKeySalt with
    | none => rfl
    | some salt => simp [Option.filter, h.salt salt hfield]
  simp only [TokenStateText.restored, Token.stateText, hdecode, hexDecode_hexEncode, hsalt]
  congr 1
  · simpa using h.so
  · simpa using h.user
  · simp [token.label.2]

theorem Token.load_consistent (config : TokenConfig) (files : TokenFiles) :
    (Token.load config files).Consistent := by
  unfold Token.load
  dsimp only
  split
  · exact ⟨nofun, nofun, nofun⟩
  · next data hdata =>
    obtain ⟨file, -, rfl⟩ : ∃ file, files.state = .content file ∧ data = file.restored := by
      split_ifs at hdata
      unfold loadTokenState at hdata
      split at hdata
      · next hfile => exact ⟨_, hfile, (Option.some.inj hdata).symm⟩
      · cases hdata
      · cases hdata
    refine ⟨fun h ↦ ?_, fun h ↦ ?_, fun salt hsalt ↦ ?_⟩
    · exact (Bool.and_eq_true_iff.mp h).2
    · exact (Bool.and_eq_true_iff.mp h).2
    · simpa using (Option.filter_eq_some_iff.mp hsalt).2

section Runs

variable (crates : Crates) (env : TokenEnv) (s : StoredToken)

theorem installUserPin_objectKeySalt (pin : Bytes) :
    (s.installUserPin crates env pin).token.objectKeySalt = s.token.objectKeySalt ∨
      ∃ salt : FixedBytes 32,
        (s.installUserPin crates env pin).token.objectKeySalt = some salt.1 := by
  simp only [StoredToken.installUserPin, StoredToken.persistTokenState_token,
    StoredToken.persistLockout_token]
  split_ifs
  · cases hprovision : Token.provisionObjectKey crates env
        { s.token with userPinHash := some (s.token.hashPin crates env pin) } pin with
    | error e => exact .inl rfl
    | ok token =>
      obtain ⟨salt, omk, wrapped, -, -, -, rfl⟩ := provisionObjectKey_eq_ok hprovision
      exact .inr ⟨salt, rfl⟩
  · exact .inl rfl

variable {crates env s}

theorem TokenEffect.consistent {s' : StoredToken} {op : TokenOp} {result : HsmResult Unit}
    (heffect : TokenEffect crates env s op result s') (h : s.token.Consistent) :
    s'.token.Consistent := by
  cases heffect with
  | refused e => exact h
  | wrongPin role e =>
    rw [failPin_token]
    cases role <;> exact ⟨h.so, h.user, h.salt⟩
  | loggedIn role pin hright =>
    rw [enter_token]
    cases role <;> exact ⟨h.so, h.user, h.salt⟩
  | pinChanged role oldPin newPin hright =>
    rw [changePin_token, passPin_token]
    cases role with
    | user => exact ⟨h.so, fun _ ↦ rfl, h.salt⟩
    | so => exact ⟨fun _ ↦ rfl, h.user, h.salt⟩
  | pinInstalled pin hso hvalid =>
    have hsalt := installUserPin_objectKeySalt crates env s pin
    rw [installUserPin_token]
    refine ⟨h.so, fun _ ↦ rfl, fun salt hmem ↦ ?_⟩
    obtain hsame | ⟨drawn, hdrawn⟩ := hsalt
    · exact h.salt salt (hsame ▸ hmem)
    · cases hdrawn.symm.trans hmem
      exact drawn.2
  | loggedOut hin =>
    rw [leave_token]
    exact ⟨h.so, h.user, h.salt⟩
  | wrongInitToken soPin label e =>
    rw [failInitToken_token]
    exact ⟨h.so, h.user, h.salt⟩
  | reinitialized soPin label hright =>
    rw [reinitialize_token]
    exact ⟨fun _ ↦ rfl, nofun, nofun⟩
  | restarted => exact Token.load_consistent _ _

variable (crates) in
theorem run_consistent (steps : List (TokenEnv × TokenOp)) (h : s.token.Consistent) :
    (steps.foldl (fun s step ↦ (step.2.apply crates step.1 s).2) s).token.Consistent := by
  induction steps generalizing s with
  | nil => exact h
  | cons step steps ih => exact ih ((step.2.apply_effect crates step.1 s).consistent h)

/-! ### Reading and entering -/

theorem StateJson.load_guarded {json : StateJson} {file : StoredFile String}
    {state : RestoredTokenState} (h : json.load file = some state) :
    (state.initialized → state.soPinHash.isSome) ∧
      (state.userPinInitialized → state.userPinHash.isSome) := by
  cases file with
  | missing => cases h
  | unreadable => cases h
  | content text =>
    obtain ⟨data, -, rfl⟩ := Option.map_eq_some_iff.mp h
    exact ⟨fun h ↦ (Bool.and_eq_true_iff.mp h).2, fun h ↦ (Bool.and_eq_true_iff.mp h).2⟩

/-- `Token.load` on the decoded file is what `new_with_config_for_slot` makes of the loaded
state. -/
theorem StateJson.loadTokenState_decoded (json : StateJson) (config : TokenConfig)
    (file : StoredFile String) :
    loadTokenState (json.decoded config file) = (json.load file).map (·.data config) := by
  cases file with
  | missing => rfl
  | unreadable => rfl
  | content text =>
    unfold StateJson.decoded
    cases hload : json.load (.content text) with
    | none => rfl
    | some state =>
      obtain ⟨data, -, rfl⟩ := Option.map_eq_some_iff.mp hload
      simp [loadTokenState, TokenStateData.restored, RestoredTokenState.data,
        TokenStateText.restored]

/-- No PIN logs in against a hash that does not have the length of one. -/
theorem login_ne_ok_of_length {role : Role} {hash pin : Bytes}
    (hhash : s.token.pinHash role = some hash) (hlength : hash.length ≠ saltLen + keyLen) :
    (s.login crates env role.userType pin).1 ≠ .ok () := by
  intro hok
  obtain ⟨-, e, heq⟩ | ⟨-, -, heq⟩ | ⟨hverdict, -⟩ := login_outcome crates env s role pin
  · rw [heq] at hok
    cases hok
  · rw [heq] at hok
    cases hok
  · obtain ⟨stored, hstored, hverify⟩ := loginVerdict_eq_true hverdict
    cases hhash.symm.trans hstored
    simp [Token.verifyPin, verifyPinPbkdf2, hlength] at hverify

variable (crates) in
/-- From whatever the files hold, along every run of a token: a state that is saved is loaded as it
was. Whatever the file holds, a loaded state has the PIN hashes that its flags speak of, and no PIN
logs in against a loaded hash of a wrong length. -/
theorem token_state_file (json : StateJson) (config : TokenConfig)
    (lockout : StoredFile LockoutData) (file : StoredFile String) :
    let files : TokenFiles := ⟨lockout, json.decoded config file⟩
    let start : StoredToken := ⟨.load config files, files⟩
    (∀ steps : List (TokenEnv × TokenOp),
      let token := (steps.foldl (fun s step ↦ (step.2.apply crates step.1 s).2) start).token
      json.load (json.save token) = some ⟨token.auth.initialized, token.auth.userPinInitialized,
        some token.label, token.soPinHash, token.userPinHash, token.objectKeySalt,
        token.objectMasterKeyWrapped⟩) ∧
    (∀ state, json.load file = some state → (state.initialized → state.soPinHash.isSome) ∧
      (state.userPinInitialized → state.userPinHash.isSome)) ∧
    ∀ role hash, start.token.pinHash role = some hash → hash.length ≠ saltLen + keyLen →
      ∀ env pin, (start.login crates env role.userType pin).1 ≠ .ok () := by
  refine ⟨fun steps ↦ ?_, fun state ↦ StateJson.load_guarded, fun role hash hhash hlength env pin ↦
    login_ne_ok_of_length hhash hlength⟩
  have hconsistent := run_consistent crates
    (s := ⟨.load config ⟨lockout, json.decoded config file⟩, ⟨lockout, json.decoded config file⟩⟩)
    steps (Token.load_consistent _ _)
  simp only [StateJson.load, StateJson.save, json.ofText_toText, Option.map_some,
    hconsistent.restored_stateText]

/-- A state with both PINs set, no hash of the SO PIN and a user PIN hash of one byte. -/
def damagedState : TokenStateText := ⟨true, true, "zz", none, some "00", none, none⟩

/-- The token is not taken to be initialised, and the user cannot log in. -/
theorem damaged_state_file :
    let json := StateJson.enumerated
    let file : StoredFile String := .content (json.toText damagedState)
    let files : TokenFiles := ⟨.missing, json.decoded .strict file⟩
    json.load file = some ⟨false, true, none, none, some [0], none, none⟩ ∧
      ((⟨.load .strict files, files⟩ : StoredToken).login pinAnswers.crates (envAt 1) ckuUser
        user01).1 ≠ .ok () := by
  intro json file files
  have hload : json.load file = some ⟨false, true, none, none, some [0], none, none⟩ := by
    simp only [file, StateJson.load, json.ofText_toText]
    rfl
  have hhash : (Token.load .strict files).pinHash .user = some [0] := by
    simp [Token.load, files, json.loadTokenState_decoded, hload, RestoredTokenState.data,
      Token.pinHash, TokenConfig.strict]
  exact ⟨hload, (token_state_file pinAnswers.crates json .strict .missing file).2.2 .user [0] hhash
    (by decide) (envAt 1) user01⟩

end Runs

end CratonHsm
