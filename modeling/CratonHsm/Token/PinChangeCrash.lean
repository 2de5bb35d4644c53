import CratonHsm.Library.FileReplacement
import CratonHsm.Token.ObjectKey

/-!
# Crashes during a PIN change

`set_pin` of the user saves twice: the lockout once the old PIN is verified, and the token state
once the new hash and the re-wrapped object master key are in memory. Each save goes through a
temporary file and a rename (`saveOps`), and may fail at any of its steps. `setPinOps` is the list
of all file operations of a call; a crash leaves the disk after some of them, and carried out to the
end they leave the files that `StoredToken.setPin` leaves (`setPinOps_files`).

The hash and the wrapped key are in one file, so a crash finds either both old or both new, provided
that there is a new wrapped key: when no nonce can be drawn for it, `set_pin` goes on and saves the
new hash beside the old wrapped key. `SurvivesAt` says what the next process should find. It finds
it after a crash at any point if and only if the nonce can be drawn, or the new hash does not reach
the disk at all (`pinChange_survives_iff`). A failed draw leaves a user who logs in with the new PIN
and cannot open the master key (`pinChange_loses_key`).
-/

set_option autoImplicit false

namespace CratonHsm.ObjectKey

open Crypto Library Store
open StoredToken

/-! ### Saving a file -/

/-- Where `LockoutStore::save` and `TokenStateStore::save` fail: the temporary file is not opened,
not restricted to its owner, not written, not synchronised or not renamed, or the file is not
restricted after the rename. -/
inductive SaveFault where
  | notOpened
  | notRestricted
  | notWritten
  | notSynced
  | notRenamed
  | leftUnrestricted
  deriving DecidableEq

/-- The save comes to its rename. -/
def SaveFault.replaces : Option SaveFault → Bool
  | none | some .leftUnrestricted => true
  | _ => false

/-- The operations of a save. A temporary file that is being written cannot be read; after a failure
it is removed. -/
def saveOps {Content : Type} (value : Content) :
    Option SaveFault → List (FileOp (StoredFile Content))
  | none | some .leftUnrestricted => replacement [.unreadable] (.content value) .missing
  | some .notOpened => []
  | some .notRestricted | some .notWritten => [.unreadable, .missing].map .setTemp
  | some .notSynced | some .notRenamed => [.unreadable, .content value, .missing].map .setTemp

/-- A save that is cut off leaves the old file or the new one. -/
theorem take_saveOps_current {Content : Type} (value : Content) (fault : Option SaveFault) (k : Nat)
    (files : FileWithTemp (StoredFile Content)) :
    (((saveOps value fault).take k).foldl FileOp.run files).current =
      if SaveFault.replaces fault ∧ 3 ≤ k then .content value else files.current := by
  have hreplaced : (((replacement [.unreadable] (.content value) .missing).take k).foldl FileOp.run
      files).current = if 3 ≤ k then .content value else files.current := by
    rw [take_replacement_current]
    by_cases hk : 3 ≤ k
    · rw [if_pos hk, if_neg (by rw [List.length_singleton]; omega)]
    · rw [if_neg hk, if_pos (by rw [List.length_singleton]; omega)]
  match fault with
  | none | some .leftUnrestricted => simpa [SaveFault.replaces, saveOps] using hreplaced
  | some .notOpened => simp [saveOps, SaveFault.replaces]
  | some .notRestricted | some .notWritten | some .notSynced | some .notRenamed =>
    exact (take_setTemps_current _ k files).trans (if_neg (by simp [SaveFault.replaces])).symm

/-! ### The operations of a PIN change -/

/-- The files of a token, each with its temporary file. -/
structure TokenDisk where
  lockout : FileWithTemp (StoredFile LockoutData)
  state : FileWithTemp (StoredFile TokenStateData)

/-- The files that a process finds. -/
def TokenDisk.files (disk : TokenDisk) : TokenFiles := ⟨disk.lockout.current, disk.state.current⟩

/-- The token that the next process loads. -/
def TokenDisk.start (disk : TokenDisk) (config : TokenConfig) : StoredToken :=
  ⟨.load config disk.files, disk.files⟩

/-- An operation on one of the files. -/
inductive DiskOp where
  | lockout (op : FileOp (StoredFile LockoutData))
  | state (op : FileOp (StoredFile TokenStateData))

/-- The files after an operation. -/
def DiskOp.run (disk : TokenDisk) : DiskOp → TokenDisk
  | .lockout op => { disk with lockout := op.run disk.lockout }
  | .state op => { disk with state := op.run disk.state }

/-- Where the two saves of a PIN change fail. -/
structure SaveFaults where
  lockout : Option SaveFault
  state : Option SaveFault

section Operations

variable (crates : Crates) (env : TokenEnv) (faults : SaveFaults)

/-- The operations of `persist_lockout`. -/
def lockoutOps (token : Token) : List DiskOp :=
  if token.config.hasLockoutStore then
    (saveOps token.auth.lockoutData faults.lockout).map .lockout
  else []

/-- The operations of `persist_token_state`. -/
def stateOps (token : Token) : List DiskOp :=
  if token.config.hasStateStore then (saveOps token.stateData faults.state).map .state else []

/-- The operations of a branch of `set_pin`. -/
def setPinRoleOps (s : StoredToken) (role : Role) (oldPin newPin : Bytes) : List DiskOp :=
  if (s.token.auth.lockout role).pinLocked then []
  else
    match checkRateLimit env.now (s.token.auth.lockout role).nextAllowed with
    | .error _ => []
    | .ok () =>
      match s.token.pinHash role with
      | none => []
      | some stored =>
        if !s.token.verifyPin crates stored oldPin then
          lockoutOps faults (s.failPin env role).2.token
        else lockoutOps faults (s.passPin env role).token ++
          stateOps faults (s.changePin crates env role oldPin newPin).token

/-- The file operations of `Token::set_pin`, in order. -/
def setPinOps (s : StoredToken) (oldPin newPin : Bytes) : List DiskOp :=
  match s.token.config.validatePin newPin with
  | .error _ => []
  | .ok () =>
    match s.token.auth.login with
    | .userLoggedIn => setPinRoleOps crates env faults s .user oldPin newPin
    | .soLoggedIn => setPinRoleOps crates env faults s .so oldPin newPin
    | .publicState => []

end Operations

/-! ### What the operations leave -/

section Effects

variable {crates : Crates} {env : TokenEnv} {faults : SaveFaults} {s : StoredToken} {token : Token}
  {disk : TokenDisk}

theorem foldl_lockout_run (ops : List (FileOp (StoredFile LockoutData))) (disk : TokenDisk) :
    (ops.map DiskOp.lockout).foldl DiskOp.run disk =
      { disk with lockout := ops.foldl FileOp.run disk.lockout } := by
  induction ops generalizing disk with
  | nil => rfl
  | cons op ops ih => exact ih _

theorem foldl_state_run (ops : List (FileOp (StoredFile TokenStateData))) (disk : TokenDisk) :
    (ops.map DiskOp.state).foldl DiskOp.run disk =
      { disk with state := ops.foldl FileOp.run disk.state } := by
  induction ops generalizing disk with
  | nil => rfl
  | cons op ops ih => exact ih _

theorem take_lockoutOps_state (k : Nat) (disk : TokenDisk) :
    (((lockoutOps faults token).take k).foldl DiskOp.run disk).state = disk.state := by
  unfold lockoutOps
  split_ifs
  · rw [← List.map_take, foldl_lockout_run]
  · rw [List.take_nil, List.foldl_nil]

/-- A PIN change that is cut off leaves the old state file or the new one. -/
theorem take_stateOps_current (hstore : token.config.hasStateStore = true) (k : Nat)
    (disk : TokenDisk) :
    (((stateOps faults token).take k).foldl DiskOp.run disk).state.current =
      if SaveFault.replaces faults.state ∧ 3 ≤ k then .content token.stateData
      else disk.state.current := by
  rw [stateOps, if_pos hstore, ← List.map_take, foldl_state_run]
  exact take_saveOps_current _ _ _ _

theorem foldl_saveOps_current {Content : Type} (value : Content) (fault : Option SaveFault)
    (files : FileWithTemp (StoredFile Content)) :
    ((saveOps value fault).foldl FileOp.run files).current =
      if SaveFault.replaces fault then .content value else files.current := by
  have h := take_saveOps_current value fault ((saveOps value fault).length + 3) files
  rw [List.take_of_length_le (Nat.le_add_right _ _)] at h
  simpa using h

theorem lockoutOps_files (hfault : SaveFault.replaces faults.lockout = env.lockoutSaves)
    (hfiles : disk.files = s.files) :
    ((lockoutOps faults s.token).foldl DiskOp.run disk).files = (s.persistLockout env).files := by
  cases hstore : s.token.config.hasLockoutStore with
  | false => simp [lockoutOps, persistLockout, hstore, hfiles]
  | true =>
    simp only [lockoutOps, hstore, if_true, foldl_lockout_run, TokenDisk.files,
      foldl_saveOps_current, hfault, persistLockout, Bool.true_and]
    split_ifs <;> simp [← hfiles, TokenDisk.files]

theorem stateOps_files (hfault : SaveFault.replaces faults.state = env.stateSaves)
    (hfiles : disk.files = s.files) :
    ((stateOps faults s.token).foldl DiskOp.run disk).files = (s.persistTokenState env).files := by
  cases hstore : s.token.config.hasStateStore with
  | false => simp [stateOps, persistTokenState, hstore, hfiles]
  | true =>
    simp only [stateOps, hstore, if_true, foldl_state_run, TokenDisk.files,
      foldl_saveOps_current, hfault, persistTokenState, Bool.true_and]
    split_ifs <;> simp [← hfiles, TokenDisk.files]

theorem changePinOps_files (hlockout : SaveFault.replaces faults.lockout = env.lockoutSaves)
    (hstate : SaveFault.replaces faults.state = env.stateSaves) (hfiles : disk.files = s.files)
    (role : Role) (oldPin newPin : Bytes) :
    ((lockoutOps faults (s.passPin env role).token ++
        stateOps faults (s.changePin crates env role oldPin newPin).token).foldl DiskOp.run
          disk).files = (s.changePin crates env role oldPin newPin).files := by
  rw [List.foldl_append]
  have hpassed : ((lockoutOps faults (s.passPin env role).token).foldl DiskOp.run disk).files =
      (s.passPin env role).files := by
    simp only [passPin, persistLockout_token]
    exact lockoutOps_files (s := s.withAuth _) hlockout hfiles
  simp only [changePin, persistTokenState_token]
  exact stateOps_files (s := ⟨_, (s.passPin env role).files⟩) hstate hpassed

/-- Carried out to the end, the operations leave the files that `set_pin` leaves, whichever of the
two saves comes to its rename. -/
theorem setPinOps_files (hlockout : SaveFault.replaces faults.lockout = env.lockoutSaves)
    (hstate : SaveFault.replaces faults.state = env.stateSaves) (hfiles : disk.files = s.files)
    (oldPin newPin : Bytes) :
    ((setPinOps crates env faults s oldPin newPin).foldl DiskOp.run disk).files =
      (s.setPin crates env oldPin newPin).2.files := by
  have hrole : ∀ role : Role,
      ((setPinRoleOps crates env faults s role oldPin newPin).foldl DiskOp.run disk).files =
        (s.setPinRole crates env role oldPin newPin).2.files := by
    intro role
    unfold setPinRoleOps setPinRole
    split_ifs with hlocked
    · exact hfiles
    · cases checkRateLimit env.now (s.token.auth.lockout role).nextAllowed with
      | error e => exact hfiles
      | ok u =>
        cases s.token.pinHash role with
        | none => exact hfiles
        | some stored =>
          cases hpin : s.token.verifyPin crates stored oldPin with
          | false =>
            simp only [hpin, Bool.not_false, if_true, failPin,
              persistLockout_token]
            exact lockoutOps_files (s := s.withAuth _) hlockout hfiles
          | true =>
            simp only [hpin, Bool.not_true, Bool.false_eq_true, if_false]
            exact changePinOps_files hlockout hstate hfiles role oldPin newPin
  unfold setPinOps setPin
  cases s.token.config.validatePin newPin with
  | error e => exact hfiles
  | ok u =>
    cases s.token.auth.login with
    | publicState => exact hfiles
    | userLoggedIn => exact hrole .user
    | soLoggedIn => exact hrole .so

/-- The operations of a user's PIN change: none, the save of a wrong attempt, or both saves. -/
theorem setPinOps_outcome (hlogin : s.token.auth.login = .userLoggedIn) (oldPin newPin : Bytes) :
    (s.setPinVerdict crates env .user oldPin newPin = none ∧
        setPinOps crates env faults s oldPin newPin = []) ∨
      (s.setPinVerdict crates env .user oldPin newPin = some false ∧
        setPinOps crates env faults s oldPin newPin =
          lockoutOps faults (s.failPin env .user).2.token) ∨
      (s.setPinVerdict crates env .user oldPin newPin = some true ∧
        setPinOps crates env faults s oldPin newPin =
          lockoutOps faults (s.passPin env .user).token ++
          stateOps faults (s.changePin crates env .user oldPin newPin).token) := by
  unfold setPinOps setPinVerdict setPinRoleOps
  cases hvalid : s.token.config.validatePin newPin with
  | error e => simp
  | ok u =>
    cases hlocked : (s.token.auth.lockout .user).pinLocked with
    | true => simp [hlogin]
    | false =>
      rcases checkRateLimit_eq_ok_or env.now (s.token.auth.lockout .user).nextAllowed with
        hrate | hrate
      · cases hhash : s.token.pinHash .user with
        | none => simp [hlogin, hrate]
        | some stored =>
          cases hpin : s.token.verifyPin crates stored oldPin <;>
            simp [hlogin, hrate, hpin, Role.loginState]
      · simp [hlogin, hrate]

/-- After a crash during a PIN change, the state file is the old one or holds the changed token. -/
theorem take_setPinOps_state (hstore : s.token.config.hasStateStore = true)
    (hlogin : s.token.auth.login = .userLoggedIn) (oldPin newPin : Bytes) (disk : TokenDisk)
    (k : Nat) :
    (((setPinOps crates env faults s oldPin newPin).take k).foldl DiskOp.run disk).state.current =
        disk.state.current ∨
      s.setPinVerdict crates env .user oldPin newPin = some true ∧
        SaveFault.replaces faults.state = true ∧
        (((setPinOps crates env faults s oldPin newPin).take k).foldl DiskOp.run
          disk).state.current =
            .content (s.changePin crates env .user oldPin newPin).token.stateData := by
  rcases setPinOps_outcome hlogin oldPin newPin with ⟨-, hops⟩ | ⟨-, hops⟩ | ⟨hright, hops⟩
  · rw [hops, List.take_nil]
    exact .inl rfl
  · rw [hops, take_lockoutOps_state]
    exact .inl rfl
  · rw [hops, List.take_append, List.foldl_append,
      take_stateOps_current (by rw [changePin_config, hstore]), take_lockoutOps_state]
    split_ifs with hreplaced
    · exact .inr ⟨hright, hreplaced.1, rfl⟩
    · exact .inl rfl

/-- A PIN change that is not cut off and whose second save comes to its rename leaves the changed
token. -/
theorem setPinOps_state_of_replaces (hstore : s.token.config.hasStateStore = true)
    (hlogin : s.token.auth.login = .userLoggedIn) {oldPin newPin : Bytes}
    (hright : s.setPinVerdict crates env .user oldPin newPin = some true)
    (hreplaces : SaveFault.replaces faults.state = true) (disk : TokenDisk) :
    ((setPinOps crates env faults s oldPin newPin).foldl DiskOp.run disk).state.current =
      .content (s.changePin crates env .user oldPin newPin).token.stateData := by
  rcases setPinOps_outcome hlogin oldPin newPin with ⟨hnone, -⟩ | ⟨hwrong, -⟩ | ⟨-, hops⟩
  · cases hright.symm.trans hnone
  · cases hright.symm.trans hwrong
  · rw [hops, List.foldl_append, stateOps, if_pos (by rw [changePin_config, hstore]),
      foldl_state_run]
    exact (foldl_saveOps_current _ _ _).trans (if_pos hreplaces)

end Effects

/-! ### What the next process finds -/

/-- The hash of the new PIN with the master key wrapped under it. -/
def Renewed (crates : Crates) (env : TokenEnv) (token : Token) (newPin : Bytes)
    (omk : FixedBytes 32) (fields : KeyFields) : Prop :=
  ∃ salt wrapped, token.objectKeySalt = some salt ∧
    wrapKey crates env.wrapNonce (token.kek crates newPin salt) omk = .ok wrapped ∧
    fields = ⟨some (token.hashPin crates env newPin), some salt, some wrapped⟩

/-- The next process finds the old hash with the old wrapped key or the new hash with the new
wrapped key, and a PIN that logs in unwraps the master key. -/
def SurvivesAt (crates : Crates) (env : TokenEnv) (token : Token) (newPin : Bytes)
    (omk : FixedBytes 32) (before : KeyFields) (disk : TokenDisk) : Prop :=
  (keyFields (disk.start token.config).token = before ∨
      Renewed crates env token newPin omk (keyFields (disk.start token.config).token)) ∧
    ∀ env' pin, ((disk.start token.config).login crates env' ckuUser pin).1 = .ok () →
      (disk.start token.config).token.unwrapObjectKey crates pin = some omk

section Survival

variable {crates : Crates} {env : TokenEnv} {s : StoredToken} {omk : FixedBytes 32}

/-- A PIN that logs a user in matches the hash. -/
theorem verifyPin_of_login {pin : Bytes} (h : (s.login crates env ckuUser pin).1 = .ok ()) :
    ∃ hash, s.token.userPinHash = some hash ∧ s.token.verifyPin crates hash pin = true := by
  rcases login_outcome crates env s .user pin with ⟨-, e, heq⟩ | ⟨-, -, heq⟩ | ⟨hright, -⟩
  · rw [show ckuUser = Role.user.userType from rfl, heq] at h
    cases h
  · rw [show ckuUser = Role.user.userType from rfl, heq] at h
    cases h
  · exact loginVerdict_eq_true hright

theorem unwraps_of_opens {config : TokenConfig} (hstore : config.hasStateStore = true)
    {disk : TokenDisk}
    (hopens : Opens crates config.pbkdf2Iterations (savedKeyFields disk.state.current) omk)
    {pin : Bytes} (h : ((disk.start config).login crates env ckuUser pin).1 = .ok ()) :
    (disk.start config).token.unwrapObjectKey crates pin = some omk := by
  obtain ⟨hash, hhash, hpin⟩ := verifyPin_of_login h
  refine Opens.unwrapObjectKey ?_ hhash hpin
  rw [TokenDisk.start, Token.load_config, keyFields_load hstore]
  exact hopens

/-- The state file of a PIN change that found a nonce. -/
theorem renewed_changePin (htotal : crates.GcmTotal) {nonce : FixedBytes 12}
    (hnonce : env.wrapNonce = .ok nonce)
    (hopens : Opens crates s.token.config.pbkdf2Iterations (keyFields s.token) omk)
    {oldPin newPin : Bytes} (hright : s.setPinVerdict crates env .user oldPin newPin = some true) :
    Renewed crates env s.token newPin omk
      (savedKeyFields (.content (s.changePin crates env .user oldPin newPin).token.stateData)) := by
  obtain ⟨salt, wrapped, hsalt, hlength, hwrapped, hunwraps⟩ := hopens
  obtain ⟨-, hash, hhash, hpin⟩ := setPinVerdict_eq_true hright
  have hunwrap : unwrapKey crates (s.token.kek crates oldPin salt) wrapped = .ok omk :=
    hunwraps hash oldPin hhash hpin
  obtain ⟨rewrapped, hrewrap⟩ := wrapKey_eq_ok htotal nonce (s.token.kek crates newPin salt) omk
  rw [← hnonce] at hrewrap
  have hfields := keyFields_changePin_user (s := ⟨s, none, []⟩) hsalt hwrapped hunwrap hrewrap
  refine ⟨salt, rewrapped, hsalt, hrewrap, ?_⟩
  rw [← hfields]
  refine savedKeyFields_stateData fun other hother ↦ ?_
  have hsame : some salt = some other := (congrArg KeyFields.objectKeySalt
    hfields).symm.trans hother
  rw [← Option.some.inj hsame, hlength]

theorem Renewed.opens (hinverts : crates.GcmInverts) (huniform : crates.Pbkdf2Uniform)
    {newPin : Bytes} {fields : KeyFields} (h : Renewed crates env s.token newPin omk fields)
    (hsalt : ∀ salt, s.token.objectKeySalt = some salt → salt.length = 32) :
    Opens crates s.token.config.pbkdf2Iterations fields omk := by
  obtain ⟨salt, wrapped, hsome, hwrapped, rfl⟩ := h
  exact opens_of_wrapped huniform (hsalt salt hsome) (unwrapKey_wrapKey hinverts hwrapped)

end Survival

/-- The user, on a token whose state is kept on disk, changes a PIN that unwraps the master key, as
does the PIN of the token on disk, and draws a new salt. The next process finds the token whole
after a crash at any point if and only if a nonce is drawn for the re-wrapping, the old PIN is wrong
or the call refused, or the new state does not reach the disk. -/
theorem pinChange_survives_iff (crates : Crates) (hinverts : crates.GcmInverts)
    (htotal : crates.GcmTotal) (huniform : crates.Pbkdf2Uniform) (env : TokenEnv)
    (faults : SaveFaults) (s : StoredToken) (disk : TokenDisk) (oldPin newPin : Bytes)
    (omk : FixedBytes 32) (hstore : s.token.config.hasStateStore = true)
    (hlogin : s.token.auth.login = .userLoggedIn)
    (hopens : Opens crates s.token.config.pbkdf2Iterations (keyFields s.token) omk)
    (hbefore : Opens crates s.token.config.pbkdf2Iterations (savedKeyFields disk.state.current) omk)
    (hfresh : ∀ hash, (savedKeyFields disk.state.current).userPinHash = some hash →
      hash.take saltLen ≠ env.pinSalt.1) :
    (∀ k, SurvivesAt crates env s.token newPin omk (savedKeyFields disk.state.current)
        (((setPinOps crates env faults s oldPin newPin).take k).foldl DiskOp.run disk)) ↔
      (s.setPinVerdict crates env .user oldPin newPin = some true →
        SaveFault.replaces faults.state = true → ∃ nonce, env.wrapNonce = .ok nonce) := by
  refine ⟨?_, ?_⟩
  · intro hsurvives hright hreplaces
    -- the call that is not cut off leaves the new hash
    have hfound := (hsurvives (setPinOps crates env faults s oldPin newPin).length).1
    rw [List.take_length, TokenDisk.start, keyFields_load hstore, TokenDisk.files,
      setPinOps_state_of_replaces hstore hlogin hright hreplaces] at hfound
    rcases hfound with hbefore | ⟨salt, wrapped, -, hwrapped, -⟩
    · have hhash : (savedKeyFields disk.state.current).userPinHash =
          some (s.token.hashPin crates env newPin) := by
        rw [← hbefore]
        change (s.changePin crates env .user oldPin newPin).token.userPinHash = _
        rw [changePin_token]
        rfl
      exact absurd (List.take_left' env.pinSalt.2) (hfresh _ hhash)
    · cases hnonce : env.wrapNonce with
      | ok nonce => exact ⟨nonce, rfl⟩
      | error e =>
        rw [hnonce] at hwrapped
        cases hwrapped
  · intro hdrawn k
    rcases take_setPinOps_state hstore hlogin oldPin newPin disk k with
      hold | ⟨hright, hreplaces, hnew⟩
    · refine ⟨.inl ?_, ?_⟩
      · rw [TokenDisk.start, keyFields_load hstore]
        exact congrArg savedKeyFields hold
      · intro env' pin hlogged
        exact unwraps_of_opens hstore (by rw [hold]; exact hbefore) hlogged
    · obtain ⟨nonce, hnonce⟩ := hdrawn hright hreplaces
      have hrenewed := renewed_changePin htotal hnonce hopens hright
      rw [← hnew] at hrenewed
      refine ⟨.inr ?_, ?_⟩
      · rw [TokenDisk.start, keyFields_load hstore]
        exact hrenewed
      · intro env' pin hlogged
        refine unwraps_of_opens hstore (hrenewed.opens hinverts huniform ?_) hlogged
        intro salt hsalt
        obtain ⟨salt', -, hsalt', hlength, -⟩ := hopens
        rw [keyFields, hsalt, Option.some.injEq] at hsalt'
        rw [hsalt', hlength]

/-! ### A nonce that is drawn and one that is not -/

/-- The files without temporary files. -/
def TokenDisk.clean (files : TokenFiles) : TokenDisk :=
  ⟨⟨files.lockout, .missing⟩, ⟨files.state, .missing⟩⟩

/-- The token of a user who has logged in with the first PIN. -/
def changingUser : StoredToken :=
  (storedByUser.foldl (step pinAnswers.crates) (KeyedStore.fresh .strict)).stored

/-- The world of the PIN change, with a salt of its own. -/
def changeEnv (wrapNonce : HsmResult (FixedBytes 12)) : TokenEnv :=
  { envAt 5 with pinSalt := keySaltTwos, wrapNonce := wrapNonce }

theorem opens_changingUser :
    Opens pinAnswers.crates 100000 (keyFields changingUser.token) omkThrees := by
  have hhash : changingUser.token.userPinHash =
      some (hashPinPbkdf2 pinAnswers.crates pinSaltOnes user01 100000) := by
    decide +kernel
  have hsalt : changingUser.token.objectKeySalt = some keySaltTwos.1 := by decide +kernel
  obtain ⟨wrapped, hwrapped, hunwrap⟩ : ∃ wrapped,
      changingUser.token.objectMasterKeyWrapped = some wrapped ∧
        unwrapKey pinAnswers.crates (deriveKeyFromPin pinAnswers.crates user01 keySaltTwos.1 100000)
          wrapped = .ok omkThrees :=
    ⟨changingUser.token.objectMasterKeyWrapped.getD [], by decide +kernel, by decide +kernel⟩
  rw [keyFields, hhash, hsalt, hwrapped]
  exact opens_of_wrapped pinAnswers.pbkdf2Uniform keySaltTwos.2 hunwrap

theorem saved_changingUser :
    savedKeyFields changingUser.files.state = keyFields changingUser.token := by
  have hfile : changingUser.files.state = .content changingUser.token.stateData := by decide +kernel
  rw [hfile]
  refine savedKeyFields_stateData fun salt hsalt ↦ ?_
  obtain ⟨salt', -, hsalt', hlength, -⟩ := opens_changingUser
  rw [keyFields, hsalt, Option.some.injEq] at hsalt'
  rw [hsalt', hlength]

/-- A crash before the rename of the second save. -/
theorem changingUser_survives :
    SurvivesAt pinAnswers.crates (changeEnv (.ok nonceFours)) changingUser.token user02 omkThrees
      (savedKeyFields changingUser.files.state)
      (((setPinOps pinAnswers.crates (changeEnv (.ok nonceFours)) ⟨none, none⟩ changingUser user01
        user02).take 5).foldl DiskOp.run (.clean changingUser.files)) := by
  refine (pinChange_survives_iff pinAnswers.crates pinAnswers.gcmInverts pinAnswers.gcmTotal
    pinAnswers.pbkdf2Uniform (changeEnv (.ok nonceFours)) ⟨none, none⟩ changingUser
    (.clean changingUser.files) user01 user02 omkThrees (by decide +kernel) (by decide +kernel)
    ?_ ?_ ?_).mpr (fun _ _ ↦ ⟨nonceFours, rfl⟩) 5
  · exact opens_changingUser
  · exact saved_changingUser ▸ opens_changingUser
  · intro hash hhash
    have hsaved : changingUser.token.userPinHash = some hash :=
      (congrArg KeyFields.userPinHash saved_changingUser).symm.trans hhash
    have hsalt : changingUser.token.userPinHash.map (List.take saltLen) = some pinSaltOnes.1 := by
      decide +kernel
    rw [hsaved, Option.map_some, Option.some.injEq] at hsalt
    rw [hsalt]
    decide

/-- The lockout is saved, and the temporary file of the token state is not renamed. -/
theorem changingUser_files :
    ((setPinOps pinAnswers.crates { envAt 5 with stateSaves := false } ⟨none, some .notRenamed⟩
      changingUser user01 user02).foldl DiskOp.run (.clean changingUser.files)).files =
        (changingUser.setPin pinAnswers.crates { envAt 5 with stateSaves := false } user01
          user02).2.files :=
  setPinOps_files rfl rfl rfl _ _

/-- The nonce of the re-wrapping cannot be drawn: after the call the new PIN logs in and does not
unwrap the master key, which the old PIN unwrapped before. -/
theorem pinChange_loses_key :
    let found := ((setPinOps pinAnswers.crates (changeEnv (.error .generalError)) ⟨none, none⟩
      changingUser user01 user02).foldl DiskOp.run (.clean changingUser.files)).start .strict
    changingUser.token.unwrapObjectKey pinAnswers.crates user01 = some omkThrees ∧
      (changingUser.setPin pinAnswers.crates (changeEnv (.error .generalError)) user01 user02).1 =
        .ok () ∧
      found.token.userPinHash ≠ changingUser.token.userPinHash ∧
      found.token.objectMasterKeyWrapped = changingUser.token.objectMasterKeyWrapped ∧
      (found.login pinAnswers.crates (envAt 9) ckuUser user02).1 = .ok () ∧
      found.token.unwrapObjectKey pinAnswers.crates user02 = none := by
  decide +kernel

end CratonHsm.ObjectKey
