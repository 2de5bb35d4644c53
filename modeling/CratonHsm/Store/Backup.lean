import CratonHsm.Store.Persistence
import CratonHsm.Store.PinKeys
import CratonHsm.Crypto.KnownAnswers

/-!
# Backup files

`store/backup.rs`. A backup file is a magic, a version, a salt, a nonce and the AES-256-GCM
ciphertext of a JSON text under a key that PBKDF2 derives from the passphrase (`createBackup`).
Reading it back checks the parts in that order (`openBackup`) and then the number of objects, the
serial number, the identifier and the age (`restoreBackup`). A file opens to what was written
(`openBackup_createBackup`), only under its own key (`openBackup_eq_ok`), and a sequence of restores
with one set of consumed identifiers accepts it once (`createBackup_restoresOnce`).

Scope. A passphrase is a list of characters. A set of consumed identifiers is a list.
-/

set_option autoImplicit false

namespace CratonHsm.Store

open Crypto Library

/-- `BACKUP_MAGIC`. -/
def backupMagic : Bytes := [0x52, 0x48, 0x42, 0x4B]

/-- `BACKUP_VERSION`. -/
def backupVersion : Nat := 1

/-- `HEADER_LEN`. -/
def headerLen : Nat := 4 + 4 + saltLen + nonceLen

/-- `MIN_PASSPHRASE_LEN`. -/
def minPassphraseLen : Nat := 16

/-- `DEFAULT_MAX_BACKUP_AGE_SECS`. -/
def defaultMaxBackupAgeSecs : Nat := 30 * 24 * 3600

/-- `BackupPayload`. -/
structure BackupPayload where
  version : Nat
  created : String
  createdEpoch : Nat
  backupId : String
  tokenSerial : String
  objectCount : Nat
  objects : List StoredObject

/-- The JSON encoding of payloads. -/
structure BackupCodec where
  serialize : BackupPayload → Bytes
  deserialize : Bytes → Option BackupPayload

/-- What is written as JSON is read back. -/
def BackupCodec.RoundTrips (json : BackupCodec) : Prop :=
  ∀ payload, json.deserialize (json.serialize payload) = some payload

/-- What a new backup takes from outside: two readings of the clock, the identifier, the salt and
the nonce. -/
structure BackupDraw where
  now : Nat
  later : Nat
  uuid : FixedBytes 16
  salt : FixedBytes 32
  nonce : FixedBytes 12

/-- `check_passphrase_complexity`. -/
def checkPassphraseComplexity (passphrase : List Char) : Bool :=
  let isSymbol := fun c : Char ↦ !c.isLower && !c.isUpper && !c.isDigit
  let classCount := [passphrase.any Char.isLower, passphrase.any Char.isUpper,
    passphrase.any Char.isDigit, passphrase.any isSymbol].countP id
  let uniqueCount := passphrase.dedup.length
  (3 ≤ classCount && 6 ≤ uniqueCount) || (24 ≤ passphrase.length && 12 ≤ uniqueCount)

/-- `hex::encode`. -/
def hexEncode (bytes : Bytes) : String :=
  .ofList (bytes.flatMap fun byte ↦ [(byte.toNat / 16).digitChar, (byte.toNat % 16).digitChar])

/-- The payload of a new backup. -/
def BackupDraw.payload (draw : BackupDraw) (objects : List StoredObject) (tokenSerial : String) :
    BackupPayload where
  version := backupVersion
  created := toString draw.later ++ "s-since-epoch"
  createdEpoch := draw.now
  backupId := hexEncode draw.uuid.1
  tokenSerial := tokenSerial
  objectCount := objects.length
  objects := objects

section Files

variable (crates : Crates) (json : BackupCodec)

/-- `PBKDF2_ITERATIONS`. -/
def pbkdf2Iterations : Nat := 1000000

/-- The key of a backup. No iteration count means that of the crate. -/
def backupKey (passphrase : List Char) (salt : Bytes) (iterations : Option Nat) : Bytes :=
  (deriveKeyFromPin crates (passphrase.flatMap String.utf8EncodeChar) salt
    (iterations.getD pbkdf2Iterations)).1

/-- `create_backup`. -/
def createBackup (draw : BackupDraw) (objects : List StoredObject) (passphrase : List Char)
    (tokenSerial : String) (iterations : Option Nat) : HsmResult Bytes :=
  if passphrase.length < minPassphraseLen then .error .pinLenRange
  else if !checkPassphraseComplexity passphrase then .error .pinInvalid
  else
    let text := json.serialize (draw.payload objects tokenSerial)
    match crates.gcmEncrypt (backupKey crates passphrase draw.salt.1 iterations) draw.nonce.1 text
        [] with
    | none => .error .generalError
    | some ciphertext => .ok (backupMagic ++ (beBytes 4 backupVersion).reverse ++ draw.salt.1 ++
        draw.nonce.1 ++ ciphertext)

/-- The first part of `restore_backup`: the file is taken apart, decrypted and parsed. -/
def openBackup (data : Bytes) (passphrase : List Char) (iterations : Option Nat) :
    HsmResult BackupPayload :=
  let salt := (data.drop 8).take saltLen
  let nonce := (data.drop (8 + saltLen)).take nonceLen
  if data.length < headerLen then .error .dataInvalid
  else if data.take 4 ≠ backupMagic then .error .dataInvalid
  else if beNat ((data.drop 4).take 4).reverse ≠ backupVersion then .error .dataInvalid
  else
    match crates.gcmDecrypt (backupKey crates passphrase salt iterations) nonce
        (data.drop headerLen) [] with
    | none => .error .pinIncorrect
    | some text => (json.deserialize text).elim (.error .dataInvalid) .ok

/-- `restore_backup` at a time in seconds, with the identifiers that are consumed afterwards. -/
def restoreBackup (now : Nat) (data : Bytes) (passphrase : List Char) (expectedSerial : String)
    (maxAgeSecs iterations : Option Nat) (consumedIds : Option (List String)) :
    HsmResult (List StoredObject) × Option (List String) :=
  match openBackup crates json data passphrase iterations with
  | .error e => (.error e, consumedIds)
  | .ok payload =>
    -- an age of zero turns the check off
    let maxAge := (some (maxAgeSecs.getD defaultMaxBackupAgeSecs)).filter (· ≠ 0)
    let stale := maxAge.any fun age ↦
      payload.createdEpoch > now + 300 || now - payload.createdEpoch > age
    if payload.objectCount ≠ payload.objects.length ∨ payload.tokenSerial ≠ expectedSerial ∨
        consumedIds.any (·.contains payload.backupId) ∨ stale then
      (.error .dataInvalid, consumedIds)
    else (.ok payload.objects, consumedIds.map (payload.backupId :: ·))

variable {crates json}

section Created

variable {draw : BackupDraw} {objects : List StoredObject} {passphrase : List Char}
  {tokenSerial : String} {iterations : Option Nat} {file : Bytes}
  (h : createBackup crates json draw objects passphrase tokenSerial iterations = .ok file)
include h

/-- Under any passphrase, opening a backup comes down to decrypting its ciphertext. -/
theorem openBackup_created :
    ∃ ciphertext, crates.gcmEncrypt (backupKey crates passphrase draw.salt.1 iterations)
        draw.nonce.1 (json.serialize (draw.payload objects tokenSerial)) [] = some ciphertext ∧
      ∀ passphrase' iterations', openBackup crates json file passphrase' iterations' =
        match crates.gcmDecrypt (backupKey crates passphrase' draw.salt.1 iterations')
            draw.nonce.1 ciphertext [] with
        | none => .error .pinIncorrect
        | some text => (json.deserialize text).elim (.error .dataInvalid) .ok := by
  unfold createBackup at h
  split_ifs at h
  dsimp only at h
  split at h
  · cases h
  · next ciphertext hciphertext =>
    obtain rfl := Except.ok.inj h
    refine ⟨ciphertext, hciphertext, fun passphrase' iterations' ↦ ?_⟩
    have hsalt := draw.salt.2
    have hnonce := draw.nonce.2
    have hrest : draw.salt.1.drop 44 = [] := List.drop_eq_nil_of_le (by omega)
    rw [openBackup, if_neg (by simp [headerLen, backupMagic, saltLen, nonceLen]; omega)]
    simp [backupMagic, backupVersion, headerLen, saltLen, nonceLen, beBytes, beNat,
      List.drop_append, List.take_append, hsalt, hnonce, hrest]

theorem openBackup_createBackup (hinverts : crates.GcmInverts) (hjson : json.RoundTrips) :
    openBackup crates json file passphrase iterations = .ok (draw.payload objects tokenSerial) := by
  obtain ⟨ciphertext, hciphertext, hopen⟩ := openBackup_created h
  rw [hopen, hinverts _ _ _ _ _ hciphertext]
  simp [hjson (draw.payload objects tokenSerial)]

variable {passphrase' : List Char} {iterations' : Option Nat}

/-- A passphrase with another key does not open a backup. -/
theorem openBackup_of_key_ne (hauthentic : crates.GcmAuthentic)
    (hkey : backupKey crates passphrase' draw.salt.1 iterations' ≠
      backupKey crates passphrase draw.salt.1 iterations) :
    openBackup crates json file passphrase' iterations' = .error .pinIncorrect := by
  obtain ⟨ciphertext, hciphertext, hopen⟩ := openBackup_created h
  rw [hopen]
  cases hdecrypt : crates.gcmDecrypt (backupKey crates passphrase' draw.salt.1 iterations')
      draw.nonce.1 ciphertext [] with
  | none => rfl
  | some text => exact absurd (hauthentic _ _ _ _ _ _ _ _ _ hciphertext hdecrypt).1 hkey

theorem openBackup_eq_ok (hinverts : crates.GcmInverts) (hauthentic : crates.GcmAuthentic)
    (hjson : json.RoundTrips) {payload : BackupPayload}
    (hopened : openBackup crates json file passphrase' iterations' = .ok payload) :
    payload = draw.payload objects tokenSerial := by
  by_cases hkey : backupKey crates passphrase' draw.salt.1 iterations' =
      backupKey crates passphrase draw.salt.1 iterations
  · obtain ⟨ciphertext, hciphertext, hopen⟩ := openBackup_created h
    rw [hopen, hkey, hinverts _ _ _ _ _ hciphertext] at hopened
    simpa [hjson (draw.payload objects tokenSerial), eq_comm] using hopened
  · rw [openBackup_of_key_ne h hauthentic hkey] at hopened
    cases hopened

end Created

end Files

/-! ### An encoding that is read back -/

section Enumeration

deriving instance Countable for BackupPayload

/-- The number of a payload in unary. -/
noncomputable def BackupCodec.enumerated : BackupCodec := ⟨unary, ofUnary⟩

theorem BackupCodec.enumerated_roundTrips : BackupCodec.enumerated.RoundTrips := ofUnary_unary

end Enumeration

/-! ### Sequences of restores -/

section Restores

variable (crates : Crates) (json : BackupCodec)

/-- What a restore is asked with. -/
structure RestoreRequest where
  now : Nat
  data : Bytes
  passphrase : List Char
  expectedSerial : String
  maxAgeSecs : Option Nat
  iterations : Option Nat

/-- The restore a request asks for. -/
def RestoreRequest.run (request : RestoreRequest) (consumedIds : Option (List String)) :
    HsmResult (List StoredObject) × Option (List String) :=
  restoreBackup crates json request.now request.data request.passphrase request.expectedSerial
    request.maxAgeSecs request.iterations consumedIds

/-- The identifiers that are consumed after a sequence of restores. -/
def consumedAfter (consumedIds : Option (List String)) (requests : List RestoreRequest) :
    Option (List String) :=
  requests.foldl (fun ids request ↦ (request.run crates json ids).2) consumedIds

/-- How often a sequence of restores accepts a file. -/
def timesAccepted (file : Bytes) : Option (List String) → List RestoreRequest → Nat
  | _, [] => 0
  | ids, request :: rest =>
    (if request.data = file ∧ (request.run crates json ids).1.isOk then 1 else 0) +
      timesAccepted file (request.run crates json ids).2 rest

/-- What holds of a backup file, given what it was made from: it gives the objects back until a
restore accepted it, to nobody else, and once, and a restore that fails consumes nothing. In
`restored` no other file has its identifier; in `otherPassphrase` the passphrases have different
keys. -/
structure RestoresOnce (draw : BackupDraw) (objects : List StoredObject) (passphrase : List Char)
    (tokenSerial : String) (iterations : Option Nat) (file : Bytes) : Prop where
  restored : ∀ consumedIds requests now maxAgeSecs,
    (∀ ids ∈ consumedIds, hexEncode draw.uuid.1 ∉ ids) →
    (∀ request ∈ requests, ∀ payload, openBackup crates json request.data request.passphrase
      request.iterations = .ok payload → payload.backupId = hexEncode draw.uuid.1 →
        request.data = file) →
    timesAccepted crates json file consumedIds requests = 0 →
    draw.now ≤ now →
    (maxAgeSecs = some 0 ∨ now ≤ draw.now + maxAgeSecs.getD defaultMaxBackupAgeSecs) →
    (restoreBackup crates json now file passphrase tokenSerial maxAgeSecs iterations
      (consumedAfter crates json consumedIds requests)).1 = .ok objects
  otherPassphrase : ∀ passphrase',
    backupKey crates passphrase' draw.salt.1 iterations ≠
      backupKey crates passphrase draw.salt.1 iterations →
    ∀ now expectedSerial maxAgeSecs consumedIds,
      (restoreBackup crates json now file passphrase' expectedSerial maxAgeSecs iterations
        consumedIds).1 = .error .pinIncorrect
  otherSerial : ∀ expectedSerial, expectedSerial ≠ tokenSerial →
    ∀ now maxAgeSecs consumedIds,
      (restoreBackup crates json now file passphrase expectedSerial maxAgeSecs iterations
        consumedIds).1 = .error .dataInvalid
  once : ∀ ids requests, timesAccepted crates json file (some ids) requests ≤ 1
  kept : ∀ request consumedIds e, (RestoreRequest.run crates json request consumedIds).1 =
    .error e → (RestoreRequest.run crates json request consumedIds).2 = consumedIds

/-- What a restore does to the set: nothing, or it was accepted and its identifier is new. -/
theorem RestoreRequest.run_cases (request : RestoreRequest) (consumedIds : Option (List String)) :
    (∃ e, request.run crates json consumedIds = (.error e, consumedIds)) ∨
    ∃ payload, openBackup crates json request.data request.passphrase request.iterations =
        .ok payload ∧ consumedIds.any (·.contains payload.backupId) = false ∧
      request.run crates json consumedIds =
        (.ok payload.objects, consumedIds.map (payload.backupId :: ·)) := by
  unfold run restoreBackup
  split
  · exact .inl ⟨_, rfl⟩
  · next payload hopen =>
    dsimp only
    split_ifs with hrefused
    · exact .inl ⟨_, rfl⟩
    · simp only [not_or, Bool.not_eq_true] at hrefused
      exact .inr ⟨payload, hopen, hrefused.2.2.1, rfl⟩

variable {crates json} {draw : BackupDraw} {objects : List StoredObject} {passphrase : List Char}
  {tokenSerial : String} {iterations : Option Nat} {file : Bytes}

/-- As long as no restore accepts the file, its identifier is not consumed. -/
theorem notMem_consumedAfter {backupId : String} {requests : List RestoreRequest}
    {consumedIds : Option (List String)} (hfresh : ∀ ids ∈ consumedIds, backupId ∉ ids)
    (hunique : ∀ request ∈ requests, ∀ payload, openBackup crates json request.data
      request.passphrase request.iterations = .ok payload → payload.backupId = backupId →
        request.data = file)
    (hnever : timesAccepted crates json file consumedIds requests = 0) :
    ∀ ids ∈ consumedAfter crates json consumedIds requests, backupId ∉ ids := by
  induction requests generalizing consumedIds with
  | nil => exact hfresh
  | cons request rest ih =>
    rw [timesAccepted, Nat.add_eq_zero_iff] at hnever
    refine ih ?_ (fun other hother ↦ hunique other (List.mem_cons_of_mem _ hother)) hnever.2
    dsimp only
    obtain ⟨e, hrun⟩ | ⟨payload, hopen, -, hrun⟩ := request.run_cases crates json consumedIds
    · rwa [hrun]
    · have hother : payload.backupId ≠ backupId := fun hsame ↦ by
        have hfile := hunique request List.mem_cons_self payload hopen hsame
        simp [hfile, hrun, Except.isOk, Except.toBool] at hnever
      rw [hrun]
      intro ids hmem
      obtain ⟨before, hbefore, rfl⟩ := Option.map_eq_some_iff.mp hmem
      simpa [hother.symm] using hfresh before hbefore

section Created

variable (hinverts : crates.GcmInverts) (hauthentic : crates.GcmAuthentic)
  (hjson : json.RoundTrips)
  (hcreated : createBackup crates json draw objects passphrase tokenSerial iterations = .ok file)

include hinverts hauthentic hjson hcreated

/-- A file whose identifier is consumed is not accepted any more. -/
theorem timesAccepted_of_mem {ids : List String} {requests : List RestoreRequest}
    (hmem : hexEncode draw.uuid.1 ∈ ids) :
    timesAccepted crates json file (some ids) requests = 0 := by
  induction requests generalizing ids with
  | nil => rfl
  | cons request rest ih =>
    obtain ⟨e, hrun⟩ | ⟨payload, hopen, hfresh, hrun⟩ := request.run_cases crates json (some ids)
    · simp [timesAccepted, hrun, ih hmem, Except.isOk, Except.toBool]
    · have hother : request.data ≠ file := fun hdata ↦ by
        have hpayload := openBackup_eq_ok hcreated hinverts hauthentic hjson (hdata ▸ hopen)
        simp [hpayload, BackupDraw.payload, hmem] at hfresh
      simp [timesAccepted, hother, hrun, ih (List.mem_cons_of_mem _ hmem)]

theorem timesAccepted_le_one (ids : List String) (requests : List RestoreRequest) :
    timesAccepted crates json file (some ids) requests ≤ 1 := by
  induction requests generalizing ids with
  | nil => exact Nat.zero_le 1
  | cons request rest ih =>
    obtain ⟨e, hrun⟩ | ⟨payload, hopen, hfresh, hrun⟩ := request.run_cases crates json (some ids)
    · simpa [timesAccepted, hrun, Except.isOk, Except.toBool] using ih ids
    · by_cases hdata : request.data = file
      · have hpayload := openBackup_eq_ok hcreated hinverts hauthentic hjson (hdata ▸ hopen)
        have hmem : hexEncode draw.uuid.1 ∈ payload.backupId :: ids := by
          simp [hpayload, BackupDraw.payload]
        simp [timesAccepted, hdata, hrun, Except.isOk, Except.toBool,
          timesAccepted_of_mem hinverts hauthentic hjson hcreated hmem]
      · simpa [timesAccepted, hdata, hrun] using ih (payload.backupId :: ids)

/-- Under the documented behaviour of AES-GCM and JSON, a backup is restored by its passphrase and
serial number within its age, and once. -/
theorem createBackup_restoresOnce :
    RestoresOnce crates json draw objects passphrase tokenSerial iterations file where
  restored := by
    intro consumedIds requests now maxAgeSecs hfresh hunique hnever hnow hage
    have hnotMem := notMem_consumedAfter hfresh hunique hnever
    have hconsumed : (consumedAfter crates json consumedIds requests).any
        (·.contains (hexEncode draw.uuid.1)) = false := by
      simpa [Option.any_eq_false] using hnotMem
    have hstale : ((some (maxAgeSecs.getD defaultMaxBackupAgeSecs)).filter (· ≠ 0)).any
        (fun age ↦ draw.now > now + 300 || now - draw.now > age) = false := by
      rw [Option.any_filter]
      simp only [Option.any_some, Bool.and_eq_false_imp, decide_eq_true_eq]
      intro hnonzero
      have hlimit : now ≤ draw.now + maxAgeSecs.getD defaultMaxBackupAgeSecs := by
        refine hage.resolve_left fun hzero ↦ ?_
        simp [hzero] at hnonzero
      simp only [Bool.or_eq_false_iff, decide_eq_false_iff_not]
      omega
    simp only [restoreBackup, openBackup_createBackup hcreated hinverts hjson]
    rw [if_neg (by
      rintro (hcount | hserial | hreplay | hold)
      · exact hcount rfl
      · exact hserial rfl
      · exact Bool.false_ne_true (hconsumed.symm.trans hreplay)
      · exact Bool.false_ne_true (hstale.symm.trans hold))]
    rfl
  otherPassphrase := by
    intro passphrase' hkey now expectedSerial maxAgeSecs consumedIds
    rw [restoreBackup, openBackup_of_key_ne hcreated hauthentic hkey]
  otherSerial := by
    intro expectedSerial hserial now maxAgeSecs consumedIds
    simp only [restoreBackup, openBackup_createBackup hcreated hinverts hjson]
    rw [if_pos (.inr (.inl hserial.symm))]
  once := timesAccepted_le_one hinverts hauthentic hjson hcreated
  kept request consumedIds e herror := by
    obtain ⟨e', hrun⟩ | ⟨payload, -, -, hrun⟩ := request.run_cases crates json consumedIds
    · rw [hrun]
    · rw [hrun] at herror
      cases herror

end Created

end Restores

/-! ### A backup of one key -/

/-- A backup at the first second. -/
def BackupDraw.sample : BackupDraw := ⟨0, 0, ⟨List.replicate 16 5, rfl⟩, pinSaltOnes, nonceFours⟩

/-- The passphrase `Test-P@ssphr4se-Long`. -/
def testPassphrase : List Char :=
  ['T', 'e', 's', 't', '-', 'P', '@', 's', 's', 'p', 'h', 'r', '4', 's', 'e', '-', 'L', 'o', 'n',
    'g']

/-- The file of a backup of one key. -/
noncomputable def sampleBackup (iterations : Option Nat) : Bytes :=
  backupMagic ++ [1, 0, 0, 0] ++ pinSaltOnes.1 ++ nonceFours.1 ++
    (sealHeader (backupKey pinAnswers.authentic testPassphrase pinSaltOnes.1 iterations)
        nonceFours.1 [] ++
      BackupCodec.enumerated.serialize (BackupDraw.sample.payload [.new 5 1 ckoSecretKey] "01"))

theorem createBackup_sample (iterations : Option Nat) :
    createBackup pinAnswers.authentic .enumerated .sample [.new 5 1 ckoSecretKey]
      testPassphrase "01" iterations = .ok (sampleBackup iterations) := by
  rw [createBackup, if_neg (by decide), if_neg (by decide)]
  rfl

/-- The contract of that backup, and what a restore a day later gives. -/
theorem sampleBackup_restoresOnce :
    RestoresOnce pinAnswers.authentic .enumerated .sample [.new 5 1 ckoSecretKey]
        testPassphrase "01" none (sampleBackup none) ∧
      (restoreBackup pinAnswers.authentic .enumerated 86400 (sampleBackup none) testPassphrase "01"
        none none (some [])).1 = .ok [.new 5 1 ckoSecretKey] := by
  have honce := createBackup_restoresOnce
    (pinAnswers.authentic_gcmInverts pinAnswers_marked)
    (pinAnswers.authentic_gcmAuthentic pinAnswers_marked) BackupCodec.enumerated_roundTrips
    (createBackup_sample none)
  exact ⟨honce, honce.restored (some []) [] 86400 none (by simp) (by simp) rfl (by decide)
    (.inr (by decide))⟩

end CratonHsm.Store
