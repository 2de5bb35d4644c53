import CratonHsm.Crypto.Encrypt
import CratonHsm.Crypto.Mechanisms
import CratonHsm.Session.Session
import CratonHsm.Store.Object

/-!
# The cryptographic back end

The trait `CryptoBackend` as a record of functions, and the functions of the entry points that pick
one of them for a mechanism and an object: `signSingleShot`, `signPrehashed`, `verifySingleShot`,
`verifyPrehashed`, `encryptData` and `decryptData`. A verification reads the public fields of an
object only; a signature reads its key material and the fields that name its curve.

Scope. The trait has several implementations. For what is a field of the record, results hold for
every one of them; the AES modes are those of `encrypt.rs` (`Crypto.Encrypt`), whose tables the
entry points read. What an implementation draws at random is a function of the seed it is given. The
handle hints that let an implementation reuse a parsed key are left out.
-/

set_option autoImplicit false

namespace CratonHsm.Crypto

open Crypto.Encrypt Store

/-! ### Parameters -/

/-- `HashAlg` and `OaepHash`. -/
inductive HashAlg where
  | sha256
  | sha384
  | sha512
  deriving DecidableEq

/-- The two curves of ECDSA and ECDH. -/
inductive EcCurve where
  | p256
  | p384
  deriving DecidableEq

/-- `MlKemVariant`. -/
inductive MlKemVariant where
  | mlKem512
  | mlKem768
  | mlKem1024
  deriving DecidableEq

/-- `MlDsaVariant`. -/
inductive MlDsaVariant where
  | mlDsa44
  | mlDsa65
  | mlDsa87
  deriving DecidableEq

/-- `SlhDsaVariant`. -/
inductive SlhDsaVariant where
  | sha2x128s
  | sha2x256s
  deriving DecidableEq

variable (mechanism : Nat)

/-- `mechanism_to_hash`. -/
def mechanismToHash : Option HashAlg :=
  if mechanism = ckmSha256RsaPkcs then some .sha256
  else if mechanism = ckmSha384RsaPkcs then some .sha384
  else if mechanism = ckmSha512RsaPkcs then some .sha512
  else none

/-- `pss_mechanism_to_hash`. -/
def pssMechanismToHash : HsmResult HashAlg :=
  if mechanism = ckmSha256RsaPkcsPss then .ok .sha256
  else if mechanism = ckmSha384RsaPkcsPss then .ok .sha384
  else if mechanism = ckmSha512RsaPkcsPss then .ok .sha512
  else if mechanism = ckmRsaPkcsPss then .error .mechanismParamInvalid
  else .error .mechanismInvalid

/-- `mechanism_to_ml_kem_variant`. -/
def mechanismToMlKemVariant : Option MlKemVariant :=
  if mechanism = ckmMlKem512 then some .mlKem512
  else if mechanism = ckmMlKem768 then some .mlKem768
  else if mechanism = ckmMlKem1024 then some .mlKem1024
  else none

/-- `mechanism_to_ml_dsa_variant`. -/
def mechanismToMlDsaVariant : Option MlDsaVariant :=
  if mechanism = ckmMlDsa44 then some .mlDsa44
  else if mechanism = ckmMlDsa65 then some .mlDsa65
  else if mechanism = ckmMlDsa87 then some .mlDsa87
  else none

/-- `mechanism_to_slh_dsa_variant`. -/
def mechanismToSlhDsaVariant : Option SlhDsaVariant :=
  if mechanism = ckmSlhDsaSha2x128s then some .sha2x128s
  else if mechanism = ckmSlhDsaSha2x256s then some .sha2x256s
  else none

/-- The OID of secp384r1. -/
def p384Oid : Bytes := [0x06, 0x05, 0x2B, 0x81, 0x04, 0x00, 0x22]

/-- `is_p384_params`: the OID occurs in the parameters. -/
def isP384Params (ecParams : Bytes) : Bool := ecParams.tails.any p384Oid.isPrefixOf

/-- The curve that parameters name: P-256 unless they name P-384. -/
def curveOfParams (ecParams : Bytes) : EcCurve := if isP384Params ecParams then .p384 else .p256

/-- `parse_oaep_hash`: the hash in the first field of `CK_RSA_PKCS_OAEP_PARAMS`. -/
def parseOaepHash (mechanismParam : Bytes) : Except CkRv HashAlg :=
  if mechanismParam.length < 8 then .error .mechanismParamInvalid
  else
    let hash := ckUlongOfBytes (mechanismParam.take 8)
    if hash = ckmSha256 then .ok .sha256
    else if hash = ckmSha384 then .ok .sha384
    else if hash = ckmSha512 then .ok .sha512
    else .error .mechanismParamInvalid

/-! ### The trait -/

/-- `CryptoBackend`, without the AES modes. A first argument of type `Nat` is a seed; signing and
decapsulating functions take the private key next, verifying functions the public key. -/
structure CryptoBackend where
  rsaPkcs1v15Sign : Nat → Bytes → Bytes → Option HashAlg → HsmResult Bytes
  rsaPkcs1v15Verify : Bytes → Bytes → Bytes → Bytes → Option HashAlg → HsmResult Bool
  rsaPssSign : Nat → Bytes → Bytes → HashAlg → HsmResult Bytes
  rsaPssVerify : Bytes → Bytes → Bytes → Bytes → HashAlg → HsmResult Bool
  ecdsaSign : EcCurve → Nat → Bytes → Bytes → HsmResult Bytes
  ecdsaVerify : EcCurve → Bytes → Bytes → Bytes → HsmResult Bool
  ed25519Sign : Nat → Bytes → Bytes → HsmResult Bytes
  ed25519Verify : Bytes → Bytes → Bytes → HsmResult Bool
  rsaPkcs1v15SignPrehashed : Nat → Bytes → Bytes → HashAlg → HsmResult Bytes
  rsaPkcs1v15VerifyPrehashed : Bytes → Bytes → Bytes → Bytes → HashAlg → HsmResult Bool
  rsaPssSignPrehashed : Nat → Bytes → Bytes → HashAlg → HsmResult Bytes
  rsaPssVerifyPrehashed : Bytes → Bytes → Bytes → Bytes → HashAlg → HsmResult Bool
  ecdsaSignPrehashed : EcCurve → Nat → Bytes → Bytes → HsmResult Bytes
  ecdsaVerifyPrehashed : EcCurve → Bytes → Bytes → Bytes → HsmResult Bool
  mlDsaSign : Nat → Bytes → Bytes → MlDsaVariant → HsmResult Bytes
  mlDsaVerify : Bytes → Bytes → Bytes → MlDsaVariant → HsmResult Bool
  slhDsaSign : Nat → Bytes → Bytes → SlhDsaVariant → HsmResult Bytes
  slhDsaVerify : Bytes → Bytes → Bytes → SlhDsaVariant → HsmResult Bool
  hybridSign : Nat → Bytes → Bytes → Bytes → HsmResult Bytes
  hybridVerify : Bytes → Bytes → Bytes → Bytes → HsmResult Bool
  rsaOaepEncrypt : Nat → Bytes → Bytes → Bytes → HashAlg → HsmResult Bytes
  rsaOaepDecrypt : Bytes → Bytes → HashAlg → HsmResult Bytes
  aesKeyWrap : Bytes → Bytes → Bool → HsmResult Bytes
  aesKeyUnwrap : Bytes → Bytes → Bool → HsmResult Bytes
  ecdh : EcCurve → Bytes → Bytes → Option Nat → HsmResult Bytes
  mlKemEncapsulate : Nat → Bytes → MlKemVariant → HsmResult (Bytes × Bytes)
  mlKemDecapsulate : Bytes → Bytes → MlKemVariant → HsmResult Bytes
  generateAesKey : Nat → Nat → Bool → HsmResult Bytes
  generateRsaKeyPair : Nat → Nat → Bool → HsmResult (Bytes × Bytes × Bytes)
  generateEcKeyPair : EcCurve → Nat → HsmResult (Bytes × Bytes)
  generateEd25519KeyPair : Nat → HsmResult (Bytes × Bytes)
  mlKemKeygen : Nat → MlKemVariant → HsmResult (Bytes × Bytes)
  mlDsaKeygen : Nat → MlDsaVariant → HsmResult (Bytes × Bytes)
  slhDsaKeygen : Nat → SlhDsaVariant → HsmResult (Bytes × Bytes)
  noncePrefix : Nat → HsmResult NoncePrefix
  hash : Nat → Bytes → Bytes
  randomBytes : Nat → Nat → HsmResult Bytes

/-! ### Digests -/

/-- `create_hasher`. -/
def createHasher : HsmResult Hasher :=
  if isDigestMechanism mechanism then .ok ⟨mechanism, []⟩ else .error .mechanismInvalid

/-- `DigestAccumulator::output_len`, for the mechanisms of `create_hasher`. -/
def hasherOutputLen (hasher : Hasher) : Nat :=
  if hasher.mechanism = ckmSha1 then 20
  else if hasher.mechanism ∈ [ckmSha256, ckmSha3x256] then 32
  else if hasher.mechanism ∈ [ckmSha384, ckmSha3x384] then 48
  else 64

/-- `DigestAccumulator::update`. -/
def hasherUpdate (hasher : Hasher) (data : Bytes) : Hasher :=
  { hasher with input := hasher.input ++ data }

namespace CryptoBackend

variable (backend : CryptoBackend) (mechanism : Nat) (obj : StoredObject)

/-- `compute_digest`. -/
def computeDigest (data : Bytes) : HsmResult Bytes :=
  if isDigestMechanism mechanism then .ok (backend.hash mechanism data)
  else .error .mechanismInvalid

/-- `DigestAccumulator::finalize`. -/
def finalize (hasher : Hasher) : Bytes := backend.hash hasher.mechanism hasher.input

/-! ### Signatures -/

/-- A field that a verification needs. -/
def publicField {Value : Type} (field : Option Value) : HsmResult Value :=
  field.elim (.error .keyHandleInvalid) .ok

/-- The curve of an object. -/
def curveOf : EcCurve := curveOfParams (obj.ecParams.getD [])

/-- The ECDSA part of a hybrid key. -/
def hybridEcdsaKey : Bytes :=
  (obj.extraAttributes[ckaEcPoint]?.or obj.ecPoint).getD []

/-- `sign_single_shot`. -/
def signSingleShot (seed mechanism : Nat) (key data : Bytes) (obj : StoredObject) :
    HsmResult Bytes :=
  if isPssMechanism mechanism then do
    backend.rsaPssSign seed key data (← pssMechanismToHash mechanism)
  else if isEcdsaMechanism mechanism then
    if obj.keyType.getD 0 = ckkEc then backend.ecdsaSign (curveOf obj) seed key data
    else .error .keyTypeInconsistent
  else if isEddsaMechanism mechanism then backend.ed25519Sign seed key data
  else
    match mechanismToMlDsaVariant mechanism, mechanismToSlhDsaVariant mechanism with
    | some variant, _ => backend.mlDsaSign seed key data variant
    | none, some variant => backend.slhDsaSign seed key data variant
    | none, none =>
      if isHybridMechanism mechanism then backend.hybridSign seed key (hybridEcdsaKey obj) data
      else backend.rsaPkcs1v15Sign seed key data (mechanismToHash mechanism)

/-- `sign_prehashed`. -/
def signPrehashed (seed mechanism : Nat) (key digest : Bytes) (obj : StoredObject) :
    HsmResult Bytes :=
  if isPssMechanism mechanism then do
    backend.rsaPssSignPrehashed seed key digest (← pssMechanismToHash mechanism)
  else if isEcdsaMechanism mechanism then
    if obj.keyType.getD 0 = ckkEc then backend.ecdsaSignPrehashed (curveOf obj) seed key digest
    else .error .keyTypeInconsistent
  else
    match mechanismToHash mechanism with
    | some hash => backend.rsaPkcs1v15SignPrehashed seed key digest hash
    | none => .error .mechanismInvalid

/-- `verify_single_shot`. -/
def verifySingleShot (data signature : Bytes) (obj : StoredObject) : HsmResult Bool :=
  if isPssMechanism mechanism then do
    let modulus ← publicField obj.modulus
    let exponent ← publicField obj.publicExponent
    backend.rsaPssVerify modulus exponent data signature (← pssMechanismToHash mechanism)
  else if isEcdsaMechanism mechanism then do
    backend.ecdsaVerify (curveOf obj) (← publicField obj.ecPoint) data signature
  else if isEddsaMechanism mechanism then do
    backend.ed25519Verify (← publicField (obj.publicKeyData.or obj.ecPoint)) data signature
  else
    match mechanismToMlDsaVariant mechanism, mechanismToSlhDsaVariant mechanism with
    | some variant, _ => do
      backend.mlDsaVerify (← publicField obj.publicKeyData) data signature variant
    | none, some variant => do
      backend.slhDsaVerify (← publicField obj.publicKeyData) data signature variant
    | none, none =>
      if isHybridMechanism mechanism then do
        backend.hybridVerify (← publicField obj.publicKeyData) (hybridEcdsaKey obj) data signature
      else do
        let modulus ← publicField obj.modulus
        let exponent ← publicField obj.publicExponent
        backend.rsaPkcs1v15Verify modulus exponent data signature (mechanismToHash mechanism)

/-- `verify_prehashed`. -/
def verifyPrehashed (digest signature : Bytes) (obj : StoredObject) : HsmResult Bool :=
  if isPssMechanism mechanism then do
    let modulus ← publicField obj.modulus
    let exponent ← publicField obj.publicExponent
    backend.rsaPssVerifyPrehashed modulus exponent digest signature (← pssMechanismToHash mechanism)
  else if isEcdsaMechanism mechanism then do
    backend.ecdsaVerifyPrehashed (curveOf obj) (← publicField obj.ecPoint) digest signature
  else do
    let modulus ← publicField obj.modulus
    let exponent ← publicField obj.publicExponent
    match mechanismToHash mechanism with
    | some hash => backend.rsaPkcs1v15VerifyPrehashed modulus exponent digest signature hash
    | none => .error .mechanismInvalid

/-- `estimated_signature_len`. -/
def estimatedSignatureLen : Option Nat :=
  if mechanism ∈ pssMechanisms ++ rsaPkcsMechanisms then
    (obj.modulusBits.map fun bits ↦ (bits + 7) / 8).or
      ((obj.modulus.map List.length).or (obj.keyMaterial.map List.length))
  else if isEcdsaMechanism mechanism then
    some (if curveOf obj = .p384 then 104 else 72)
  else if isEddsaMechanism mechanism then some 64
  else if mechanism = ckmMlDsa44 then some 2420
  else if mechanism = ckmMlDsa65 then some 3309
  else if mechanism = ckmMlDsa87 then some 4627
  else if isSlhDsaMechanism mechanism then some 49856
  else if isHybridMechanism mechanism then some (49856 + 104)
  else none

/-! ### Encryption -/

/-- The length that `C_Encrypt` reports before it encrypts. -/
def estimatedCiphertextLen (data : Bytes) : Except CkRv Nat :=
  if mechanism = ckmAesGcm then .ok (data.length + 12 + 16)
  else if mechanism ∈ [ckmAesCbc, ckmAesCbcPad] then .ok (data.length + 16)
  else if mechanism = ckmAesCtr then .ok data.length
  else if mechanism = ckmRsaPkcsOaep then
    obj.modulus.elim (.error .keyHandleInvalid) fun modulus ↦ .ok modulus.length
  else .error .mechanismInvalid

/-- The length that `C_Decrypt` reports before it decrypts. -/
def estimatedPlaintextLen (data : Bytes) : Except CkRv Nat :=
  if mechanism = ckmAesGcm then .ok (data.length - 28)
  else if mechanism ∈ [ckmAesCbc, ckmAesCbcPad, ckmAesCtr, ckmRsaPkcsOaep] then .ok data.length
  else .error .mechanismInvalid

/-- The encryption of `C_Encrypt`. The AES modes with an initialisation vector refuse an empty
parameter before they look at the tables. -/
def encryptData (crates : Crates) (seed : Nat) (statics : CipherStatics) (mechanism : Nat)
    (mechanismParam : Bytes) (obj : StoredObject) (key data : Bytes) :
    Except CkRv Bytes × CipherStatics :=
  if mechanism = ckmAesGcm then
    (aes256GcmEncrypt crates statics (backend.noncePrefix seed) key data).map toAbi id
  else if mechanism ∈ [ckmAesCbc, ckmAesCbcPad] then
    if mechanismParam.isEmpty then (.error .mechanismParamInvalid, statics)
    else (aesCbcEncrypt crates statics key mechanismParam data).map toAbi id
  else if mechanism = ckmAesCtr then
    if mechanismParam.isEmpty then (.error .mechanismParamInvalid, statics)
    else (aesCtrEncrypt crates statics key mechanismParam data).map toAbi id
  else if mechanism = ckmRsaPkcsOaep then
    let ciphertext : Except CkRv Bytes := do
      let modulus ← obj.modulus.elim (.error .keyHandleInvalid) .ok
      let exponent ← obj.publicExponent.elim (.error .keyHandleInvalid) .ok
      toAbi (backend.rsaOaepEncrypt seed modulus exponent data (← parseOaepHash mechanismParam))
    (ciphertext, statics)
  else (.error .mechanismInvalid, statics)

/-- The decryption of `C_Decrypt`. -/
def decryptData (crates : Crates) (mechanism : Nat) (mechanismParam key data : Bytes) :
    Except CkRv Bytes :=
  if mechanism = ckmAesGcm then toAbi (aes256GcmDecrypt crates key data)
  else if mechanism ∈ [ckmAesCbc, ckmAesCbcPad] then
    if mechanismParam.isEmpty then .error .mechanismParamInvalid
    else toAbi (aesCbcDecrypt crates key mechanismParam data)
  else if mechanism = ckmAesCtr then
    if mechanismParam.isEmpty then .error .mechanismParamInvalid
    else toAbi (aesCtrDecrypt crates key mechanismParam data)
  else if mechanism = ckmRsaPkcsOaep then do
    toAbi (backend.rsaOaepDecrypt key data (← parseOaepHash mechanismParam))
  else .error .mechanismInvalid

/-! ### Lengths -/

/-- Digests have the length that the hasher reports. -/
def KeepsDigestLengths : Prop :=
  ∀ hasher, isDigestMechanism hasher.mechanism = true →
    (backend.finalize hasher).length = hasherOutputLen hasher

section Lengths

variable {backend} {crates : Crates} {seed : Nat} {statics : CipherStatics} {mechanism : Nat}
  {mechanismParam key data output : Bytes} {obj : StoredObject}

theorem ne_gcm_of_supportsMultipart (h : encryptMechanismSupportsMultipart mechanism = true) :
    mechanism ≠ ckmAesGcm := by
  rintro rfl
  exact absurd h (by decide)

theorem eq_ctr_of_supportsMultipart (h : encryptMechanismSupportsMultipart mechanism = true)
    (hcbc : mechanism ∉ [ckmAesCbc, ckmAesCbcPad]) : mechanism = ckmAesCtr := by
  simp only [encryptMechanismSupportsMultipart, decide_eq_true_eq, List.mem_cons, List.not_mem_nil,
    or_false] at h hcbc
  tauto

/-- A mode that takes parts adds at most a block. -/
theorem encryptData_length (hcrates : crates.KeepLengths)
    (hparts : encryptMechanismSupportsMultipart mechanism = true)
    (h : (backend.encryptData crates seed statics mechanism mechanismParam obj key data).1 =
      .ok output) : output.length ≤ data.length + 16 := by
  unfold encryptData at h
  rw [if_neg (ne_gcm_of_supportsMultipart hparts)] at h
  by_cases hcbc : mechanism ∈ [ckmAesCbc, ckmAesCbcPad]
  · rw [if_pos hcbc] at h
    split_ifs at h
    obtain ⟨rfl, -, -⟩ := aesCbcEncrypt_eq_ok (toAbi_eq_ok_iff.mp h)
    exact hcrates.cbcEncrypt _ _ _
  · rw [if_neg hcbc, if_pos (eq_ctr_of_supportsMultipart hparts hcbc)] at h
    split_ifs at h
    obtain ⟨rfl, -, -⟩ := aesCtrEncrypt_eq_ok (toAbi_eq_ok_iff.mp h)
    rw [hcrates.ctrKeystream]
    omega

theorem decryptData_length (hcrates : crates.KeepLengths)
    (hparts : encryptMechanismSupportsMultipart mechanism = true)
    (h : backend.decryptData crates mechanism mechanismParam key data = .ok output) :
    output.length ≤ data.length := by
  unfold decryptData at h
  rw [if_neg (ne_gcm_of_supportsMultipart hparts)] at h
  by_cases hcbc : mechanism ∈ [ckmAesCbc, ckmAesCbcPad]
  · rw [if_pos hcbc] at h
    split_ifs at h
    exact hcrates.cbcDecrypt _ _ _ _ (aesCbcDecrypt_eq_ok (toAbi_eq_ok_iff.mp h))
  · rw [if_neg hcbc, if_pos (eq_ctr_of_supportsMultipart hparts hcbc)] at h
    split_ifs at h
    rw [aesCtrDecrypt_eq_ok (toAbi_eq_ok_iff.mp h), hcrates.ctrKeystream]

end Lengths

/-! ### The pairwise consistency test -/

/-- `PAIRWISE_TEST_DATA`: "FIPS 140-3 pairwise consistency test". -/
def pairwiseTestData : Bytes :=
  [70, 73, 80, 83, 32, 49, 52, 48, 45, 51, 32, 112, 97, 105, 114, 119, 105, 115, 101, 32, 99, 111,
    110, 115, 105, 115, 116, 101, 110, 99, 121, 32, 116, 101, 115, 116]

/-- A new signature key passes if it signs the test data and the signature verifies. -/
def pairwiseSignTest (sign : Bytes → HsmResult Bytes) (verify : Bytes → Bytes → HsmResult Bool) :
    Bool :=
  match sign pairwiseTestData with
  | .ok signature =>
    match verify pairwiseTestData signature with
    | .ok valid => valid
    | .error _ => false
  | .error _ => false

/-- `ml_kem_pairwise_test`: what is encapsulated is decapsulated. -/
def mlKemPairwiseTest (seed : Nat) (variant : MlKemVariant) (key publicKey : Bytes) : Bool :=
  match backend.mlKemEncapsulate seed publicKey variant with
  | .ok (ciphertext, secret) =>
    match backend.mlKemDecapsulate key ciphertext variant with
    | .ok recovered => recovered == secret
    | .error _ => false
  | .error _ => false

/-! ### A back end of known answers -/

/-- A back end that digests from a table of mechanisms, inputs and digests, and otherwise gives
digests of zeros; it refuses everything else. -/
def recorded (digests : List (Nat × Bytes × Bytes)) : CryptoBackend where
  rsaPkcs1v15Sign _ _ _ _ := .error .generalError
  rsaPkcs1v15Verify _ _ _ _ _ := .error .generalError
  rsaPssSign _ _ _ _ := .error .generalError
  rsaPssVerify _ _ _ _ _ := .error .generalError
  ecdsaSign _ _ _ _ := .error .generalError
  ecdsaVerify _ _ _ _ := .error .generalError
  ed25519Sign _ _ _ := .error .generalError
  ed25519Verify _ _ _ := .error .generalError
  rsaPkcs1v15SignPrehashed _ _ _ _ := .error .generalError
  rsaPkcs1v15VerifyPrehashed _ _ _ _ _ := .error .generalError
  rsaPssSignPrehashed _ _ _ _ := .error .generalError
  rsaPssVerifyPrehashed _ _ _ _ _ := .error .generalError
  ecdsaSignPrehashed _ _ _ _ := .error .generalError
  ecdsaVerifyPrehashed _ _ _ _ := .error .generalError
  mlDsaSign _ _ _ _ := .error .generalError
  mlDsaVerify _ _ _ _ := .error .generalError
  slhDsaSign _ _ _ _ := .error .generalError
  slhDsaVerify _ _ _ _ := .error .generalError
  hybridSign _ _ _ _ := .error .generalError
  hybridVerify _ _ _ _ := .error .generalError
  rsaOaepEncrypt _ _ _ _ _ := .error .generalError
  rsaOaepDecrypt _ _ _ := .error .generalError
  aesKeyWrap _ _ _ := .error .generalError
  aesKeyUnwrap _ _ _ := .error .generalError
  ecdh _ _ _ _ := .error .generalError
  mlKemEncapsulate _ _ _ := .error .generalError
  mlKemDecapsulate _ _ _ := .error .generalError
  generateAesKey _ _ _ := .error .generalError
  generateRsaKeyPair _ _ _ := .error .generalError
  generateEcKeyPair _ _ := .error .generalError
  generateEd25519KeyPair _ := .error .generalError
  mlKemKeygen _ _ := .error .generalError
  mlDsaKeygen _ _ := .error .generalError
  slhDsaKeygen _ _ := .error .generalError
  noncePrefix _ := .error .generalError
  hash mechanism data :=
    match digests.find? fun entry ↦ entry.1 = mechanism && entry.2.1 = data with
    | some entry => entry.2.2
    | none => List.replicate (hasherOutputLen ⟨mechanism, []⟩) 0
  randomBytes _ _ := .error .generalError

theorem recorded_keepsDigestLengths {digests : List (Nat × Bytes × Bytes)}
    (h : ∀ entry ∈ digests, entry.2.2.length = hasherOutputLen ⟨entry.1, []⟩) :
    (recorded digests).KeepsDigestLengths := by
  rintro ⟨mechanism, input⟩ -
  simp only [finalize, recorded]
  split
  next entry hfind =>
    have hentry : entry.1 = mechanism ∧ entry.2.1 = input := by simpa using List.find?_some hfind
    rw [h entry (List.mem_of_find?_eq_some hfind), hentry.1]
    rfl
  next => exact List.length_replicate

end CryptoBackend

end CratonHsm.Crypto
