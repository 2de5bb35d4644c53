import CratonHsm.Abi.SessionCalls
import CratonHsm.Store.Backup

/-!
# Commands of the admin tool

The admin tool works in a process of its own: a command starts a library on the disk, logs in to the
token of slot 0 and works on the object store. It logs in by the token and not by `C_Login`, so that
nothing gives the object store its key: the store starts empty, writes no record and leaves the
database as it was (`Untouched`). An imported or restored token object is therefore there after the
next start and login exactly if it was there before, and a backup holds no object at all
(`adminCommands_keep_iff`).

Scope. An import is modelled from the template on, which `ImportParse` makes. What a restore appends
to the file of consumed backups is left out.
-/

set_option autoImplicit false

namespace CratonHsm.Admin

open Crypto Crypto.Encrypt Library Store
open Program BackupDraw

/-- `ADMIN_SLOT_ID`. -/
def adminSlotId : Nat := 0

/-- `MAX_AUTH_ATTEMPTS` and `MAX_SO_AUTH_ATTEMPTS`. -/
def maxAuthAttempts : Nat := 3

/-- `MIN_PASSPHRASE_LENGTH`. -/
def minPassphraseLength : Nat := 12

/-- What a command can fail with. -/
inductive CommandError where
  | tokenNotAccessible
  | tokenNotInitialized
  | authenticationFailed
  | soAuthenticationFailed
  | importFailed (e : HsmError)
  | passphraseEmpty
  | passphraseTooShort
  | passphrasesDiffer
  | backupFailed (e : HsmError)
  | fileNotWritten
  | restoreFailed (e : HsmError)
  | replayGuardNotWritten
  | duplicateHandle (handle : Nat)
  | insertFailed (handle restored : Nat) (e : HsmError)
  deriving DecidableEq

/-- A command on the library of its process. -/
abbrev Command := Program Hsm CommandError

/-- PINs as they are typed, each with what the login takes from outside. -/
abbrev TypedPins := List (TokenEnv × Bytes)

/-- `RestoreOutcome`. -/
structure RestoreOutcome where
  restored : Nat
  skipped : Nat

/-! ### Logging in -/

section Commands

variable (crates : Crates) (codec : ObjectCodec) (json : BackupCodec)

/-- The loop over the attempts, with whether one was accepted. -/
def attemptLogins (userType : Nat) : TypedPins → StoredToken → Bool × StoredToken
  | [], stored => (false, stored)
  | (env, pin) :: typed, stored =>
    match stored.login crates env userType pin with
    | (.ok _, stored) => (true, stored)
    | (.error _, stored) => attemptLogins userType typed stored

/-- The common part of `authenticate_user` and `authenticate_so`. -/
def authenticate (userType : Nat) (failed : CommandError) (typed : TypedPins) : Command Unit :=
  fun s ↦
    match s.storedToken adminSlotId with
    | none => (.error .tokenNotAccessible, s)
    | some stored =>
      if !stored.token.auth.initialized then (.error .tokenNotInitialized, s)
      else
        let (accepted, stored) := attemptLogins crates userType (typed.take maxAuthAttempts) stored
        (if accepted then .ok () else .error failed, s.setStoredToken adminSlotId stored)

/-- `authenticate_user`, with the answer to the question for the role. -/
def authenticateUser (asSo : Bool) (typed : TypedPins) : Command Unit :=
  authenticate crates (if asSo then ckuSo else ckuUser) .authenticationFailed typed

/-- `authenticate_so`. -/
def authenticateSo (typed : TypedPins) : Command Unit :=
  authenticate crates ckuSo .soAuthenticationFailed typed

/-- `logout`. -/
def logout (env : TokenEnv) (s : Hsm) : Hsm :=
  match s.storedToken adminSlotId with
  | none => s
  | some stored => s.setStoredToken adminSlotId (stored.logout env).2

/-! ### The commands -/

/-- The creation of an imported object. -/
def createImported (env : CallEnv) (template : List (Nat × Bytes)) : Command Nat := fun s ↦
  let (result, store) := s.objectStore.createObject crates codec env.first env.now template
  (result.mapError .importFailed, { s with objectStore := store })

/-- `key import`, once the template is made. -/
def importKey (env : CallEnv) (asSo : Bool) (typed : TypedPins) (template : List (Nat × Bytes)) :
    Command Nat := do
  authenticateUser crates asSo typed
  let handle ← createImported crates codec env template
  .update (logout env.token)
  return handle

/-- The template of an AES key file. -/
def aesTemplate (label keyData : Bytes) : List (Nat × Bytes) :=
  [(ckaClass, ckUlongToBytes ckoSecretKey), (ckaKeyType, ckUlongToBytes ckkAes), (ckaLabel, label),
    (ckaToken, [1]), (ckaPrivate, [1]), (ckaSensitive, [1]),
    (ckaValueLen, ckUlongToBytes keyData.length), (ckaValue, keyData)]

/-- The first loop of `stage_and_commit_objects`. -/
def stage (store : ObjectStore) :
    List StoredObject → List StoredObject → Nat → Except CommandError (List StoredObject × Nat)
  | [], staged, skipped => .ok (staged, skipped)
  | obj :: objects, staged, skipped =>
    if (store.objects.get? obj.handle).isSome then stage store objects staged (skipped + 1)
    else if staged.any (·.handle = obj.handle) then .error (.duplicateHandle obj.handle)
    else stage store objects (staged ++ [obj]) skipped

/-- The second loop of `stage_and_commit_objects`. -/
def commit (draws : Nat → StoreDraw) :
    List StoredObject → Nat → ObjectStore → Except CommandError Nat × ObjectStore
  | [], restored, store => (.ok restored, store)
  | obj :: staged, restored, store =>
    match store.insertObject crates codec (draws restored) obj with
    | (.ok _, store) => commit draws staged (restored + 1) store
    | (.error e, store) => (.error (.insertFailed obj.handle restored e), store)

/-- `stage_and_commit_objects`. -/
def stageAndCommitObjects (draws : Nat → StoreDraw) (objects : List StoredObject) :
    Command RestoreOutcome := fun s ↦
  match stage s.objectStore objects [] 0 with
  | .error e => (.error e, s)
  | .ok (staged, skipped) =>
    let (result, store) := commit crates codec draws staged 0 s.objectStore
    (result.map (⟨·, skipped⟩), { s with objectStore := store })

/-- A backup file with the passphrase that is typed for it and the settings of the token. -/
structure BackupInput where
  data : Bytes
  passphrase : List Char
  serial : String
  iterations : Nat

/-- What a restore takes from outside: the time, the identifiers that the replay guard has and
whether it accepts another, the draws of the records, and what the logout reads. -/
structure RestoreEnv where
  now : Nat
  consumed : List String
  records : Bool
  draws : Nat → StoreDraw
  token : TokenEnv

/-- `restore_backup_authenticated`. -/
def restoreBackupAuthenticated (env : RestoreEnv) (input : BackupInput) :
    Command RestoreOutcome := do
  let objects ← .reads fun _ ↦ (restoreBackup crates json env.now input.data input.passphrase
    input.serial none (some input.iterations) (some env.consumed)).1.mapError .restoreFailed
  .require env.records .replayGuardNotWritten
  stageAndCommitObjects crates codec env.draws objects

/-- `backup restore`: whatever becomes of it, the security officer is logged out again. -/
def restoreBackupCore (env : RestoreEnv) (typed : TypedPins) (input : BackupInput) :
    Command RestoreOutcome := do
  .require (input.passphrase ≠ []) .passphraseEmpty
  authenticateSo crates typed
  fun s ↦
    let (result, s) := restoreBackupAuthenticated crates codec json env input s
    (result, logout env.token s)

/-- `export_all_objects`. -/
def exportAllObjects (store : ObjectStore) : List StoredObject := store.objects.toList.map Prod.snd

/-- `backup create`: the passphrase is typed twice, and nobody logs in. -/
def createBackupFile (draw : BackupDraw) (passphrase confirmation : List Char) (serial : String)
    (iterations : Nat) (writes : Bool) : Command Bytes := do
  .require (passphrase ≠ []) .passphraseEmpty
  .require ((passphrase.flatMap String.utf8EncodeChar).length ≥ minPassphraseLength)
    .passphraseTooShort
  .require (passphrase = confirmation) .passphrasesDiffer
  let file ← .reads fun s ↦ (createBackup crates json draw (exportAllObjects s.objectStore)
    passphrase serial (some iterations)).mapError .backupFailed
  .require writes .fileNotWritten
  return file

end Commands

/-! ### What a user login finds -/

section Login

variable (crates : Crates) (codec : ObjectCodec)

/-- The PIN is that of the user of the administered token. -/
def isUserPin (s : Hsm) (pin : Bytes) : Bool :=
  (s.storedToken adminSlotId).any fun stored ↦
    (stored.token.pinHash .user).any fun hash ↦ stored.token.verifyPin crates hash pin

/-- The objects in memory after a login of the user. -/
def loginObjects (s : Hsm) (pin : Bytes) : SharedMap Nat StoredObject :=
  (loadPersisted crates codec adminSlotId ckuUser pin s).objectStore.objects

variable {crates codec}

/-- They depend on the object store and on the object key that the token unwraps. -/
theorem loginObjects_congr {s s' : Hsm} {pin : Bytes}
    (hpersist : s'.persistObjects = s.persistObjects) (hstore : s'.objectStore = s.objectStore)
    (hkey : ((s'.storedToken adminSlotId).bind fun stored ↦
        stored.token.unwrapObjectKey crates pin) =
      (s.storedToken adminSlotId).bind fun stored ↦ stored.token.unwrapObjectKey crates pin) :
    loginObjects crates codec s' pin = loginObjects crates codec s pin := by
  unfold loginObjects loadPersisted
  rw [hpersist, hkey]
  split_ifs
  · split <;> simp [hstore]
  · rw [hstore]

end Login

/-! ### What the commands leave alone -/

/-- The command has no key for the records and leaves them alone, and the state files of the
tokens. -/
structure Untouched (s s' : Hsm) : Prop where
  noKey : s'.objectStore.persistKey = none
  records : s'.objectStore.records = s.objectStore.records
  stateFiles : s'.slots.map Slot.stateFile = s.slots.map Slot.stateFile

section Untouched

variable {crates : Crates} {codec : ObjectCodec} {json : BackupCodec} {s s' s'' : Hsm}
  {store : ObjectStore}

theorem Untouched.refl (hkey : s.objectStore.persistKey = none) : Untouched s s := ⟨hkey, rfl, rfl⟩

/-- A change of a token that leaves its state file. -/
theorem Untouched.setStoredToken (h : Untouched s s') {slotId : Nat} {stored stored' : StoredToken}
    (hslot : s'.storedToken slotId = some stored)
    (hstate : stored'.files.state = stored.files.state) :
    Untouched s (s'.setStoredToken slotId stored') := by
  refine ⟨h.noKey, h.records, Eq.trans ?_ h.stateFiles⟩
  obtain ⟨slot, hfound, rfl⟩ := Hsm.storedToken_eq_some_iff.mp hslot
  refine List.ext_getElem? fun i ↦ ?_
  by_cases hi : slotId = i
  · subst hi
    obtain ⟨hlt, rfl⟩ := List.getElem?_eq_some_iff.mp hfound
    simp [Hsm.setStoredToken, hlt, hstate]
  · simp [Hsm.setStoredToken, List.getElem?_set_ne hi]

/-- A change of the object store by steps that write no record. -/
theorem Untouched.setStore (h : Untouched s s')
    (hkey : store.persistKey = s'.objectStore.persistKey)
    (hrecords : store.records = s'.objectStore.records) :
    Untouched s { s' with objectStore := store } :=
  ⟨hkey.trans h.noKey, hrecords.trans h.records, h.stateFiles⟩

theorem login_state (env : TokenEnv) (stored : StoredToken) (role : Role) (pin : Bytes) :
    (stored.login crates env role.userType pin).2.files.state = stored.files.state := by
  rcases login_outcome crates env stored role pin with ⟨-, e, heq⟩ | ⟨-, -, heq⟩ | ⟨-, heq⟩ <;>
    simp [heq]

theorem attemptLogins_state (role : Role) (typed : TypedPins) (stored : StoredToken) :
    (attemptLogins crates role.userType typed stored).2.files.state = stored.files.state := by
  induction typed generalizing stored with
  | nil => rfl
  | cons attempt typed ih =>
    have hlogin : (stored.login crates attempt.1 role.userType attempt.2).2.files.state =
        stored.files.state := login_state ..
    rcases hrun : stored.login crates attempt.1 role.userType attempt.2 with ⟨e | answer, stored'⟩
    · rw [hrun] at hlogin
      simp only [attemptLogins, hrun]
      exact (ih stored').trans hlogin
    · rw [hrun] at hlogin
      simpa [attemptLogins, hrun] using hlogin

theorem authenticate_untouched (hkey : s.objectStore.persistKey = none) (role : Role)
    (failed : CommandError) (typed : TypedPins) :
    (authenticate crates role.userType failed typed).Ensures s fun _ s' ↦ Untouched s s' := by
  unfold Program.Ensures authenticate
  cases hslot : s.storedToken adminSlotId with
  | none => exact .refl hkey
  | some stored =>
    dsimp only
    split_ifs
    · exact .refl hkey
    · exact (Untouched.refl hkey).setStoredToken hslot (attemptLogins_state ..)
    · exact (Untouched.refl hkey).setStoredToken hslot (attemptLogins_state ..)

theorem Untouched.logout (h : Untouched s s') (env : TokenEnv) : Untouched s (logout env s') := by
  unfold Admin.logout
  split
  · exact h
  · next stored hslot =>
    refine h.setStoredToken hslot ?_
    unfold StoredToken.logout
    split_ifs <;> simp

/-- Without a key no record is written. -/
theorem addObject_of_noKey (hkey : store.persistKey = none) (draw : StoreDraw) (handle : Nat)
    (obj : StoredObject) : store.addObject crates codec draw handle obj =
      { store with objects := store.objects.insert handle obj } := by
  simp [ObjectStore.addObject, ObjectStore.persistObject, hkey]

theorem createObject_keeps (hkey : store.persistKey = none) (draw : StoreDraw) (now : Nat)
    (template : List (Nat × Bytes)) :
    let after := (store.createObject crates codec draw now template).2
    after.persistKey = store.persistKey ∧ after.records = store.records := by
  have hkey' : store.nextHandle.2.persistKey = none := hkey
  unfold ObjectStore.createObject
  split_ifs
  · exact ⟨rfl, rfl⟩
  · cases ObjectStore.templateClass template with
    | none => exact ⟨rfl, rfl⟩
    | some objectClass =>
      dsimp only
      split
      · exact ⟨rfl, rfl⟩
      · rw [addObject_of_noKey hkey']
        exact ⟨rfl, rfl⟩

theorem commit_keeps (draws : Nat → StoreDraw) (staged : List StoredObject) (restored : Nat)
    (hkey : store.persistKey = none) :
    let after := (commit crates codec draws staged restored store).2
    after.persistKey = store.persistKey ∧ after.records = store.records := by
  induction staged generalizing restored store with
  | nil => exact ⟨rfl, rfl⟩
  | cons obj staged ih =>
    by_cases hfull : store.objects.refs.size ≥ maxObjects
    · simp [commit, ObjectStore.insertObject, hfull]
    · simp only [commit, ObjectStore.insertObject, if_neg hfull, addObject_of_noKey hkey]
      exact ih (restored + 1) hkey

theorem importKey_untouched (hkey : s.objectStore.persistKey = none) (env : CallEnv) (asSo : Bool)
    (typed : TypedPins) (template : List (Nat × Bytes)) :
    (importKey crates codec env asSo typed template).Ensures s fun _ s' ↦ Untouched s s' := by
  have hauth : (authenticateUser crates asSo typed).Ensures s fun _ s' ↦ Untouched s s' := by
    cases asSo
    · exact authenticate_untouched hkey .user _ typed
    · exact authenticate_untouched hkey .so _ typed
  refine hauth.bind (fun _ _ h ↦ h) fun _ s' h ↦ ?_
  have hcreated : (createImported crates codec env template).Ensures s'
      fun _ s'' ↦ Untouched s s'' :=
    h.setStore (createObject_keeps h.noKey ..).1 (createObject_keeps h.noKey ..).2
  exact hcreated.bind (fun _ _ h ↦ h) fun _ s'' h ↦ h.logout env.token

theorem restoreBackupCore_untouched (hkey : s.objectStore.persistKey = none) (env : RestoreEnv)
    (typed : TypedPins) (input : BackupInput) :
    (restoreBackupCore crates codec json env typed input).Ensures s fun _ s' ↦ Untouched s s' := by
  refine ensures_require (.refl hkey) fun _ ↦ ?_
  refine (authenticate_untouched hkey .so _ typed).bind (fun _ _ h ↦ h) fun _ s' h ↦ ?_
  have hbody : (restoreBackupAuthenticated crates codec json env input).Ensures s'
      fun _ s'' ↦ Untouched s s'' := by
    refine ensures_reads (fun _ ↦ h) fun objects _ ↦ ?_
    refine ensures_require h fun _ ↦ ?_
    unfold Program.Ensures stageAndCommitObjects
    split
    · exact h
    · exact h.setStore (commit_keeps _ _ _ h.noKey).1 (commit_keeps _ _ _ h.noKey).2
  exact Untouched.logout hbody env.token

end Untouched

/-! ### The next process -/

section NextProcess

variable {config : HsmConfig} {disk : Disk} {statics : CipherStatics} {draw : InitDraw} {s : Hsm}

/-- A token but for who is logged in and the failed attempts. -/
def withoutAuth (stored : StoredToken) : Token := { stored.token with auth := .new }

/-- These are all that a start takes from the lockout file, and a command leaves the state file. -/
theorem Untouched.storedToken (h : Untouched (.cInitialize config disk statics draw) s)
    (statics' : CipherStatics) (draw' : InitDraw) :
    ((Hsm.cInitialize config s.disk statics' draw').storedToken adminSlotId).map withoutAuth =
      ((Hsm.cInitialize config disk statics' draw').storedToken adminSlotId).map withoutAuth := by
  cases hslots : config.slots with
  | nil => simp [Hsm.storedToken, Hsm.cInitialize, hslots]
  | cons token tokens =>
    have hstate : s.disk.tokenStates[0]? = some (disk.tokenStates.getD 0 .missing) := by
      have hfiles := h.stateFiles
      simp only [Hsm.cInitialize, hslots, List.mapIdx_cons, List.map_cons] at hfiles
      simp [Hsm.disk, hfiles]
    simp only [Hsm.storedToken, Hsm.cInitialize, hslots, adminSlotId, List.mapIdx_cons,
      List.getElem?_cons_zero, Option.map_some, List.getD, hstate, Option.getD_some, withoutAuth,
      Token.load]
    split <;> rfl

/-- A login after the command is with the same PIN and finds the same objects. -/
theorem Untouched.loginObjects (h : Untouched (.cInitialize config disk statics draw) s)
    (crates : Crates) (codec : ObjectCodec) (statics' : CipherStatics) (draw' : InitDraw)
    (pin : Bytes) :
    let before := Hsm.cInitialize config disk statics' draw'
    let after := Hsm.cInitialize config s.disk statics' draw'
    isUserPin crates after pin = isUserPin crates before pin ∧
      loginObjects crates codec after pin = loginObjects crates codec before pin := by
  have hstore : (Hsm.cInitialize config s.disk statics' draw').objectStore =
      (Hsm.cInitialize config disk statics' draw').objectStore :=
    congrArg (ObjectStore.new draw'.objectScrambler config.persistObjects) h.records
  have hpin : ∀ s : Hsm, isUserPin crates s pin =
      ((s.storedToken adminSlotId).map withoutAuth).any fun token ↦
        (token.pinHash .user).any fun hash ↦ token.verifyPin crates hash pin := by
    intro s
    rw [isUserPin, Option.any_map]
    rfl
  have hkey : ∀ s : Hsm, ((s.storedToken adminSlotId).bind fun stored ↦
      stored.token.unwrapObjectKey crates pin) =
        ((s.storedToken adminSlotId).map withoutAuth).bind (·.unwrapObjectKey crates pin) := by
    intro s
    cases s.storedToken adminSlotId <;> rfl
  refine ⟨by rw [hpin, hpin, h.storedToken], loginObjects_congr rfl hstore ?_⟩
  rw [hkey, hkey, h.storedToken]

end NextProcess

/-! ### Durable changes and complete backups -/

section Durable

variable (crates : Crates) (codec : ObjectCodec) (json : BackupCodec) (config : HsmConfig)

/-- The object that an import makes under the first handle of its process. -/
def ImportMakes (draw : InitDraw) (env : CallEnv) (template : List (Nat × Bytes))
    (obj : StoredObject) : Prop :=
  ∃ objectClass, ObjectStore.templateClass template = some objectClass ∧
    (StoredObject.new env.now (ObjectStore.new draw.objectScrambler true ∅).nextHandle.1
      objectClass).applyTemplate template = .ok obj

/-- The object is in the backup that a restore accepts. -/
def RestoreReads (env : RestoreEnv) (input : BackupInput) (obj : StoredObject) : Prop :=
  ∃ objects, (restoreBackup crates json env.now input.data input.passphrase input.serial none
    (some input.iterations) (some env.consumed)).1 = .ok objects ∧ obj ∈ objects

/-- After a start on the disk every login of the user finds the object. -/
def FoundOn (disk : Disk) (obj : StoredObject) : Prop :=
  ∀ statics draw pin, let s := Hsm.cInitialize config disk statics draw
    isUserPin crates s pin = true → (loginObjects crates codec s pin).get? obj.handle = some obj

/-- The login of a user after a start on the disk finds the token object. -/
def Finds (disk : Disk) (obj : StoredObject) : Prop :=
  obj.tokenObject = true ∧ ∃ statics draw pin handle,
    let s := Hsm.cInitialize config disk statics draw
    isUserPin crates s pin = true ∧ (loginObjects crates codec s pin).get? handle = some obj

/-- The object is in the backup file. -/
def Holds (input : BackupInput) (obj : StoredObject) : Prop :=
  ∃ payload, openBackup crates json input.data input.passphrase (some input.iterations) =
    .ok payload ∧ obj ∈ payload.objects

variable {crates codec json config} {disk : Disk} {statics : CipherStatics} {draw : InitDraw}

theorem Untouched.foundOn_iff {s : Hsm} (h : Untouched (.cInitialize config disk statics draw) s)
    (obj : StoredObject) :
    FoundOn crates codec config s.disk obj ↔ FoundOn crates codec config disk obj := by
  refine forall_congr' fun statics' ↦ forall_congr' fun draw' ↦ forall_congr' fun pin ↦ ?_
  obtain ⟨hpin, hobjects⟩ := h.loginObjects crates codec statics' draw' pin
  simp [hpin, hobjects]

/-- A backup file is the backup of nothing. -/
theorem createBackupFile_holds (hinverts : crates.GcmInverts) (hjson : json.RoundTrips)
    {backupDraw : BackupDraw} {passphrase confirmation : List Char} {serial : String}
    {iterations : Nat} {writes : Bool} {file : Bytes}
    (h : (createBackupFile crates json backupDraw passphrase confirmation serial iterations writes
      (.cInitialize config disk statics draw)).1 = .ok file) (obj : StoredObject) :
    ¬Holds crates json ⟨file, passphrase, serial, iterations⟩ obj := by
  have hnothing :
      exportAllObjects (Hsm.cInitialize config disk statics draw).objectStore = [] := rfl
  have hcreated : (createBackupFile crates json backupDraw passphrase confirmation serial iterations
      writes).Ensures (.cInitialize config disk statics draw) fun result _ ↦ result = .ok file →
        createBackup crates json backupDraw [] passphrase serial (some iterations) = .ok file := by
    refine ensures_require (fun h ↦ nomatch h) fun _ ↦ ?_
    refine ensures_require (fun h ↦ nomatch h) fun _ ↦ ?_
    refine ensures_require (fun h ↦ nomatch h) fun _ ↦ ?_
    refine ensures_reads (fun _ h ↦ nomatch h) fun made hmade ↦ ?_
    refine ensures_require (fun h ↦ nomatch h) fun _ ↦ ?_
    refine ensures_pure.mpr fun hfile ↦ ?_
    obtain rfl := Except.ok.inj hfile
    rw [hnothing] at hmade
    cases hbackup : createBackup crates json backupDraw [] passphrase serial (some iterations) with
    | error e => rw [hbackup] at hmade; cases hmade
    | ok data =>
      rw [hbackup] at hmade
      obtain rfl : data = made := Except.ok.inj hmade
      rfl
  rintro ⟨payload, hopen, hmem⟩
  rw [openBackup_createBackup (hcreated h) hinverts hjson] at hopen
  obtain rfl := Except.ok.inj hopen
  cases hmem

/-- What the commands report lasts exactly if it was there before them. -/
theorem adminCommands_keep_iff (hinverts : crates.GcmInverts) (hjson : json.RoundTrips)
    (disk : Disk) (statics : CipherStatics) (draw : InitDraw) :
    let s := Hsm.cInitialize config disk statics draw
    (∀ env asSo typed template handle obj,
      let done := importKey crates codec env asSo typed template s
      done.1 = .ok handle → ImportMakes draw env template obj → obj.tokenObject = true →
        (FoundOn crates codec config done.2.disk obj ↔ FoundOn crates codec config disk obj)) ∧
    (∀ env typed input outcome obj,
      let done := restoreBackupCore crates codec json env typed input s
      done.1 = .ok outcome → RestoreReads crates json env input obj → obj.tokenObject = true →
        (FoundOn crates codec config done.2.disk obj ↔ FoundOn crates codec config disk obj)) ∧
    ∀ backupDraw passphrase confirmation serial iterations writes file,
      (createBackupFile crates json backupDraw passphrase confirmation serial iterations writes
        s).1 = .ok file →
        ((∀ obj, Finds crates codec config disk obj →
          Holds crates json ⟨file, passphrase, serial, iterations⟩ obj) ↔
            ∀ obj, ¬Finds crates codec config disk obj) := by
  refine ⟨?_, ?_, ?_⟩
  · intro env asSo typed template handle obj _ _ _ _
    exact (importKey_untouched rfl env asSo typed template).foundOn_iff obj
  · intro env typed input outcome obj _ _ _ _
    exact (restoreBackupCore_untouched rfl env typed input).foundOn_iff obj
  · intro backupDraw passphrase confirmation serial iterations writes file hfile
    refine forall_congr' fun obj ↦ ?_
    exact imp_congr_right fun _ ↦ iff_false_intro (createBackupFile_holds hinverts hjson hfile obj)

/-! ### A key that is imported and lost -/

/-- A disk with a token whose user has a PIN, with persistence on and no object yet. -/
def userDisk : Disk := (userLibrary true).disk

/-- The disk after the user has made an AES key that is kept. -/
def keyDisk : Disk :=
  (cCreateObject pinAnswers.crates (Platform.recorded [] []).codec (callEnvAt 5) firstSession
    (aesTemplate [0x6B] (List.replicate 16 7)) (userLibrary true)).2.disk

/-- The texts of one object, which is read from each of them. -/
def knownCodec : ObjectCodec := ⟨fun _ ↦ [], fun _ ↦ some
  { StoredObject.new 5 firstObject ckoSecretKey with tokenObject := true }⟩

/-- A backup that the user makes in a process on the disk. -/
noncomputable def sampleBackup (disk : Disk) : Except CommandError Bytes :=
  (createBackupFile pinAnswers.crates .enumerated sample testPassphrase testPassphrase
    "0000000000000001" 600000 true (.cInitialize (.singleSlot true) disk .empty .sample)).1

theorem sampleBackup_created (disk : Disk) : ∃ file, sampleBackup disk = .ok file := by
  obtain ⟨ciphertext, hciphertext⟩ := Option.isSome_iff_exists.mp (pinAnswers.gcmEncrypt_isSome
    (backupKey pinAnswers.crates testPassphrase pinSaltOnes.1 (some 600000)) nonceFours.1
    (BackupCodec.enumerated.serialize (sample.payload [] "0000000000000001")) [])
  have hbackup : ∃ file, createBackup pinAnswers.crates .enumerated sample []
      testPassphrase "0000000000000001" (some 600000) = .ok file := by
    rw [createBackup, if_neg (by decide), if_neg (by decide)]
    simp only [sample] at hciphertext ⊢
    rw [hciphertext]
    exact ⟨_, rfl⟩
  obtain ⟨file, hbackup⟩ := hbackup
  have hnothing : exportAllObjects
      (Hsm.cInitialize (.singleSlot true) disk .empty .sample).objectStore = [] := rfl
  have hlong : minPassphraseLength ≤ (testPassphrase.flatMap String.utf8EncodeChar).length := by
    decide
  rw [sampleBackup, createBackupFile, require_bind, if_pos (by decide), require_bind, if_pos hlong,
    require_bind, if_pos rfl, reads_bind, hnothing, hbackup]
  exact ⟨file, rfl⟩

/-- The backup of a disk without an object is complete, since a login would find nothing. The backup
of a disk with a record is not: a login finds its object. -/
theorem sampleBackups_complete :
    (∃ file, sampleBackup userDisk = .ok file ∧
      ∀ obj, Finds pinAnswers.crates knownCodec (.singleSlot true) userDisk obj →
        Holds pinAnswers.crates .enumerated ⟨file, testPassphrase, "0000000000000001",
          600000⟩ obj) ∧
    ∃ file, sampleBackup keyDisk = .ok file ∧
      ¬∀ obj, Finds pinAnswers.crates knownCodec (.singleSlot true) keyDisk obj →
        Holds pinAnswers.crates .enumerated ⟨file, testPassphrase, "0000000000000001", 600000⟩
          obj := by
  have hcomplete (disk : Disk) {file : Bytes} (hfile : sampleBackup disk = .ok file) :=
    (@adminCommands_keep_iff _ knownCodec _ _ pinAnswers.gcmInverts
      BackupCodec.enumerated_roundTrips disk .empty .sample).2.2 sample testPassphrase
      testPassphrase "0000000000000001" 600000 true file hfile
  constructor
  · obtain ⟨file, hfile⟩ := sampleBackup_created userDisk
    refine ⟨file, hfile, (hcomplete userDisk hfile).mpr ?_⟩
    rintro obj ⟨-, statics, draw, pin, handle, -, hfound⟩
    have hrecords : userDisk.records.toList = [] := by decide +kernel
    have hempty : loginObjects pinAnswers.crates knownCodec
        (.cInitialize (.singleSlot true) userDisk statics draw) pin = .empty := by
      unfold loginObjects loadPersisted
      split_ifs
      · split
        · simp [ObjectStore.loadFromStore, ObjectStore.setPersistKey, Hsm.cInitialize,
            ObjectStore.new, hrecords, ObjectStore.loadRecords]
        · rfl
      · rfl
    rw [hempty] at hfound
    cases hfound
  · obtain ⟨file, hfile⟩ := sampleBackup_created keyDisk
    refine ⟨file, hfile, fun hholds ↦ ?_⟩
    have hlogin : ((loginObjects pinAnswers.crates knownCodec
        (.cInitialize (.singleSlot true) keyDisk .empty .sample) user01).get? firstObject).map
          (·.tokenObject) = some true := by
      decide +kernel
    obtain ⟨obj, hobj, htoken⟩ := Option.map_eq_some_iff.mp hlogin
    exact (hcomplete keyDisk hfile).mp hholds obj
      ⟨htoken, .empty, .sample, user01, firstObject, by decide +kernel, hobj⟩

/-- The key that the import below makes. -/
def importedAes : StoredObject :=
  ((StoredObject.new 5 firstObject ckoSecretKey).applyTemplate
    (aesTemplate [0x6B] (List.replicate 16 7))).toOption.getD (.new 5 firstObject ckoSecretKey)

/-- The user imports an AES key, and it is not there after the next login. -/
theorem imported_key_lost :
    let crates := pinAnswers.crates
    let codec := (Platform.recorded [] []).codec
    let template := aesTemplate [0x6B] (List.replicate 16 7)
    let done := importKey crates codec (callEnvAt 5) false [(envAt 5, user01)] template
      (.cInitialize (.singleSlot true) userDisk .empty .sample)
    done.1 = .ok firstObject ∧ ImportMakes .sample (callEnvAt 5) template importedAes ∧
      importedAes.tokenObject = true ∧
      ¬FoundOn crates codec (.singleSlot true) done.2.disk importedAes := by
  refine ⟨by decide +kernel, ⟨ckoSecretKey, by decide +kernel, rfl⟩, by decide +kernel, fun h ↦ ?_⟩
  have hfound := congrArg Option.isSome (h .empty .sample user01 (by decide +kernel))
  revert hfound
  decide +kernel

end Durable

end CratonHsm.Admin
