import CratonHsm.Crypto.Backend

/-!
# Signatures of the default back end

The functions of `crypto/sign.rs` and `crypto/pqc.rs` that sign and verify, over the signature
schemes of other crates (`SignatureCrates`). An RSA or ECDSA scheme is given digests. What hashes
the message is therefore visible here: the functions that take a message hash it themselves, RSA
with the hash of the mechanism and ECDSA with the hash of the curve, and the functions for digests
take one that was computed before.

A message of at most 64 MiB is signed as its digest is (`rsaPkcs1v15Sign_eq`, `rsaPssSign_eq`,
`ecdsaSign_eq`); a longer one is refused, and so is a digest of the wrong length.

Scope. A panic inside a crate is caught at the entry point and answered as a general error, which is
how a scheme that gives no signature is modelled. The caches of parsed RSA keys are left out.
-/

set_option autoImplicit false

namespace CratonHsm.Crypto

open Library Store

/-! ### The schemes of other crates -/

/-- A signature scheme: what it signs and verifies is a digest or, for a scheme that hashes by
itself, a message. -/
structure Scheme (PublicKey : Type) where
  sign : Nat → Bytes → Bytes → Option Bytes
  readsSignature : Bytes → Bool
  verify : PublicKey → Bytes → Bytes → Bool

/-- The signature schemes of other crates, with how they read keys, and the random generator. An RSA
private key is read to the number of bits of its modulus; a public one is a modulus and an
exponent. -/
structure SignatureCrates where
  rsaPrivateBits : Bytes → Option Nat
  rsaReadsPublic : Bytes × Bytes → Bool
  pkcs1v15 : HashAlg → Scheme (Bytes × Bytes)
  pss : HashAlg → Scheme (Bytes × Bytes)
  ecdsaReadsPrivate : EcCurve → Bytes → Bool
  ecdsaReadsPublic : EcCurve → Bytes → Bool
  ecdsa : EcCurve → Scheme Bytes
  ed25519ReadsPublic : Bytes → Bool
  ed25519 : Scheme Bytes
  mlDsaReadsPublic : MlDsaVariant → Bytes → Bool
  mlDsa : MlDsaVariant → Scheme Bytes
  slhDsaReadsPrivate : SlhDsaVariant → Bytes → Bool
  slhDsaReadsPublic : SlhDsaVariant → Bytes → Bool
  slhDsa : SlhDsaVariant → Scheme Bytes
  drbg : Nat → HsmResult Unit

/-- The mechanism of a hash. -/
def HashAlg.mechanism : HashAlg → Nat
  | .sha256 => ckmSha256
  | .sha384 => ckmSha384
  | .sha512 => ckmSha512

/-- The length of its digests. -/
def HashAlg.digestLength : HashAlg → Nat
  | .sha256 => 32
  | .sha384 => 48
  | .sha512 => 64

/-- The hash that the ECDSA crates use for a message. -/
def EcCurve.hashAlg : EcCurve → HashAlg
  | .p256 => .sha256
  | .p384 => .sha384

/-! ### Checks -/

/-- `SIGN_MAX_DATA_SIZE`. -/
def signMaxDataSize : Nat := 64 * 1024 * 1024

/-- `RSA_MIN_MODULUS_BITS`. -/
def rsaMinModulusBits : Nat := 2048

/-- `validate_data_size`. -/
def validateDataSize (data : Bytes) : HsmResult Unit :=
  if data.length > signMaxDataSize then .error .dataLenRange else .ok ()

/-- `validate_digest_length`. -/
def validateDigestLength (digest : Bytes) (alg : HashAlg) : HsmResult Unit :=
  if digest.length ≠ alg.digestLength then .error .dataLenRange else .ok ()

/-- The bits of a modulus, without its leading zeros. -/
def modulusBits (modulus : Bytes) : Nat :=
  match modulus.dropWhile (· == 0) with
  | [] => 0
  | first :: rest => rest.length * 8 + (first.toNat.log2 + 1)

/-- `validate_rsa_public_key_size`. -/
def validateRsaPublicKeySize (modulus : Bytes) : HsmResult Unit :=
  if modulusBits modulus < rsaMinModulusBits then .error .keySizeRange else .ok ()

/-- An error unless a crate could read its input. -/
def readOr (e : HsmError) (reads : Bool) : HsmResult Unit := if reads then .ok () else .error e

/-- What a scheme signs, or a general error. -/
def Scheme.signText {PublicKey : Type} (scheme : Scheme PublicKey) (seed : Nat) (key text : Bytes) :
    HsmResult Bytes := (scheme.sign seed key text).elim (.error .generalError) .ok

/-- A verification that reads the signature first. -/
def Scheme.verifyText {PublicKey : Type} (scheme : Scheme PublicKey) (publicKey : PublicKey)
    (text signature : Bytes) : HsmResult Bool := do
  readOr .signatureInvalid (scheme.readsSignature signature)
  return scheme.verify publicKey text signature

namespace SignatureCrates

variable (crates : SignatureCrates) (hash : Nat → Bytes → Bytes) (modulus : Bytes) (curve : EcCurve)
  (seed : Nat) (key : Bytes)

/-- `parse_rsa_private_key` and `validate_rsa_private_key_size`. -/
def rsaPrivateKey : HsmResult Unit :=
  match crates.rsaPrivateBits key with
  | none => .error .keyHandleInvalid
  | some bits => if bits < rsaMinModulusBits then .error .keySizeRange else .ok ()

/-- `validate_rsa_public_key_size` and `RsaPublicKey::new`. -/
def rsaPublicKey (exponent : Bytes) : HsmResult Unit := do
  validateRsaPublicKeySize modulus
  readOr .keyHandleInvalid (crates.rsaReadsPublic (modulus, exponent))

/-! ### RSA -/

/-- `rsa_pkcs1v15_sign`: without a hash there is no signature. -/
def rsaPkcs1v15Sign (data : Bytes) (alg : Option HashAlg) : HsmResult Bytes := do
  validateDataSize data
  crates.rsaPrivateKey key
  match alg with
  | some alg => (crates.pkcs1v15 alg).signText seed key (hash alg.mechanism data)
  | none => .error .mechanismParamInvalid

/-- `rsa_pkcs1v15_verify`. -/
def rsaPkcs1v15Verify (exponent data signature : Bytes) (alg : Option HashAlg) :
    HsmResult Bool := do
  validateDataSize data
  crates.rsaPublicKey modulus exponent
  match alg with
  | some alg =>
    (crates.pkcs1v15 alg).verifyText (modulus, exponent) (hash alg.mechanism data) signature
  | none => .error .mechanismParamInvalid

/-- `rsa_pkcs1v15_sign_prehashed`. -/
def rsaPkcs1v15SignPrehashed (digest : Bytes) (alg : HashAlg) : HsmResult Bytes := do
  validateDigestLength digest alg
  crates.rsaPrivateKey key
  (crates.pkcs1v15 alg).signText seed key digest

/-- `rsa_pkcs1v15_verify_prehashed`, which hands the signature to the scheme unread. -/
def rsaPkcs1v15VerifyPrehashed (exponent digest signature : Bytes) (alg : HashAlg) :
    HsmResult Bool := do
  validateDigestLength digest alg
  crates.rsaPublicKey modulus exponent
  return (crates.pkcs1v15 alg).verify (modulus, exponent) digest signature

/-- `rsa_pss_sign`. -/
def rsaPssSign (data : Bytes) (alg : HashAlg) : HsmResult Bytes := do
  validateDataSize data
  crates.rsaPrivateKey key
  crates.drbg seed
  (crates.pss alg).signText seed key (hash alg.mechanism data)

/-- `rsa_pss_verify`. -/
def rsaPssVerify (exponent data signature : Bytes) (alg : HashAlg) : HsmResult Bool := do
  validateDataSize data
  crates.rsaPublicKey modulus exponent
  (crates.pss alg).verifyText (modulus, exponent) (hash alg.mechanism data) signature

/-- `rsa_pss_sign_prehashed`. -/
def rsaPssSignPrehashed (digest : Bytes) (alg : HashAlg) : HsmResult Bytes := do
  validateDigestLength digest alg
  crates.rsaPrivateKey key
  crates.drbg seed
  (crates.pss alg).signText seed key digest

/-- `rsa_pss_verify_prehashed`. -/
def rsaPssVerifyPrehashed (exponent digest signature : Bytes) (alg : HashAlg) : HsmResult Bool := do
  validateDigestLength digest alg
  crates.rsaPublicKey modulus exponent
  (crates.pss alg).verifyText (modulus, exponent) digest signature

/-! ### ECDSA -/

/-- `ecdsa_p256_sign` and `ecdsa_p384_sign`: the message is hashed with the hash of the curve. -/
def ecdsaSign (data : Bytes) : HsmResult Bytes := do
  validateDataSize data
  readOr .keyHandleInvalid (crates.ecdsaReadsPrivate curve key)
  crates.drbg seed
  (crates.ecdsa curve).signText seed key (hash curve.hashAlg.mechanism data)

/-- `ecdsa_p256_verify` and `ecdsa_p384_verify`. -/
def ecdsaVerify (publicKey data signature : Bytes) : HsmResult Bool := do
  validateDataSize data
  readOr .keyHandleInvalid (crates.ecdsaReadsPublic curve publicKey)
  (crates.ecdsa curve).verifyText publicKey (hash curve.hashAlg.mechanism data) signature

/-- `ecdsa_p256_sign_prehashed` and `ecdsa_p384_sign_prehashed`: the digest must be as long as those
of the hash of the curve. -/
def ecdsaSignPrehashed (digest : Bytes) : HsmResult Bytes := do
  validateDigestLength digest curve.hashAlg
  readOr .keyHandleInvalid (crates.ecdsaReadsPrivate curve key)
  crates.drbg seed
  (crates.ecdsa curve).signText seed key digest

/-- `ecdsa_p256_verify_prehashed` and `ecdsa_p384_verify_prehashed`. -/
def ecdsaVerifyPrehashed (publicKey digest signature : Bytes) : HsmResult Bool := do
  validateDigestLength digest curve.hashAlg
  readOr .keyHandleInvalid (crates.ecdsaReadsPublic curve publicKey)
  (crates.ecdsa curve).verifyText publicKey digest signature

/-! ### Schemes that are given messages -/

/-- `ed25519_sign`. -/
def ed25519Sign (data : Bytes) : HsmResult Bytes := do
  validateDataSize data
  readOr .keyHandleInvalid (key.length = 32)
  crates.ed25519.signText seed key data

/-- `ed25519_verify`. -/
def ed25519Verify (publicKey data signature : Bytes) : HsmResult Bool := do
  validateDataSize data
  readOr .keyHandleInvalid (publicKey.length = 32)
  readOr .keyHandleInvalid (crates.ed25519ReadsPublic publicKey)
  readOr .signatureInvalid (signature.length = 64)
  return crates.ed25519.verify publicKey data signature

/-- `ml_dsa_sign`, from the seed of a key. -/
def mlDsaSign (data : Bytes) (variant : MlDsaVariant) : HsmResult Bytes := do
  readOr .keyHandleInvalid (key.length = 32)
  (crates.mlDsa variant).signText seed key data

/-- `ml_dsa_verify`. -/
def mlDsaVerify (publicKey data signature : Bytes) (variant : MlDsaVariant) : HsmResult Bool := do
  readOr .keyHandleInvalid (crates.mlDsaReadsPublic variant publicKey)
  (crates.mlDsa variant).verifyText publicKey data signature

/-- `slh_dsa_sign`. -/
def slhDsaSign (data : Bytes) (variant : SlhDsaVariant) : HsmResult Bytes := do
  readOr .keyHandleInvalid (crates.slhDsaReadsPrivate variant key)
  (crates.slhDsa variant).signText seed key data

/-- `slh_dsa_verify`. -/
def slhDsaVerify (publicKey data signature : Bytes) (variant : SlhDsaVariant) : HsmResult Bool := do
  readOr .keyHandleInvalid (crates.slhDsaReadsPublic variant publicKey)
  (crates.slhDsa variant).verifyText publicKey data signature

/-- `hybrid_sign`: the length of the ML-DSA signature, that signature, the ECDSA signature. -/
def hybridSign (ecdsaKey data : Bytes) : HsmResult Bytes := do
  let mlSig ← crates.mlDsaSign seed key data .mlDsa65
  let ecSig ← crates.ecdsaSign hash .p256 seed ecdsaKey data
  return beBytes 4 mlSig.length ++ mlSig ++ ecSig

/-- `hybrid_verify`: an error of either scheme counts as a refusal. -/
def hybridVerify (publicKey ecdsaKey data signature : Bytes) : HsmResult Bool :=
  if signature.length < 4 then .error .signatureInvalid
  else
    let mlLen := beNat (signature.take 4)
    if signature.length < 4 + mlLen then .error .signatureInvalid
    else
      let mlSig := (signature.drop 4).take mlLen
      let ecSig := signature.drop (4 + mlLen)
      let mlValid := (crates.mlDsaVerify publicKey data mlSig .mlDsa65).toOption.getD false
      let ecValid := (crates.ecdsaVerify hash .p256 ecdsaKey data ecSig).toOption.getD false
      .ok (mlValid && ecValid)

end SignatureCrates

/-- `RustCryptoBackend`: its signatures are those of the crates, the rest is as given. -/
def CryptoBackend.rustCrypto (crates : SignatureCrates) (rest : CryptoBackend) : CryptoBackend :=
  { rest with
    rsaPkcs1v15Sign := crates.rsaPkcs1v15Sign rest.hash
    rsaPkcs1v15Verify := crates.rsaPkcs1v15Verify rest.hash
    rsaPssSign := crates.rsaPssSign rest.hash
    rsaPssVerify := crates.rsaPssVerify rest.hash
    ecdsaSign := crates.ecdsaSign rest.hash
    ecdsaVerify := crates.ecdsaVerify rest.hash
    ed25519Sign := crates.ed25519Sign
    ed25519Verify := crates.ed25519Verify
    rsaPkcs1v15SignPrehashed := crates.rsaPkcs1v15SignPrehashed
    rsaPkcs1v15VerifyPrehashed := crates.rsaPkcs1v15VerifyPrehashed
    rsaPssSignPrehashed := crates.rsaPssSignPrehashed
    rsaPssVerifyPrehashed := crates.rsaPssVerifyPrehashed
    ecdsaSignPrehashed := crates.ecdsaSignPrehashed
    ecdsaVerifyPrehashed := crates.ecdsaVerifyPrehashed
    mlDsaSign := crates.mlDsaSign
    mlDsaVerify := crates.mlDsaVerify
    slhDsaSign := crates.slhDsaSign
    slhDsaVerify := crates.slhDsaVerify
    hybridSign := crates.hybridSign rest.hash
    hybridVerify := crates.hybridVerify rest.hash }

/-! ### A message and its digest -/

/-- A check followed by the rest succeeds if both do. -/
theorem check_bind_eq_ok {Result : Type} {check : HsmResult Unit} {f : Unit → HsmResult Result}
    {result : Result} : check >>= f = .ok result ↔ check = .ok () ∧ f () = .ok result := by
  cases check with
  | error e => exact ⟨nofun, fun h ↦ nomatch h.1⟩
  | ok value => exact ⟨fun h ↦ ⟨rfl, h⟩, fun h ↦ h.2⟩

theorem validateDataSize_eq_ok {data : Bytes} :
    validateDataSize data = .ok () ↔ data.length ≤ signMaxDataSize := by
  unfold validateDataSize
  split_ifs <;> simp <;> omega

theorem validateDigestLength_eq_ok {digest : Bytes} {alg : HashAlg} :
    validateDigestLength digest alg = .ok () ↔ digest.length = alg.digestLength := by
  unfold validateDigestLength
  split_ifs with h
  · exact ⟨nofun, fun heq ↦ absurd heq h⟩
  · exact ⟨fun _ ↦ not_not.mp h, fun _ ↦ rfl⟩

theorem readOr_eq_ok {e : HsmError} {reads : Bool} : readOr e reads = .ok () ↔ reads = true := by
  cases reads <;> simp [readOr]

theorem Scheme.signText_eq_ok {PublicKey : Type} {scheme : Scheme PublicKey} {seed : Nat}
    {key text signature : Bytes} :
    scheme.signText seed key text = .ok signature ↔ scheme.sign seed key text = some signature := by
  unfold signText
  cases scheme.sign seed key text <;> simp

theorem Scheme.verifyText_eq_ok {PublicKey : Type} {scheme : Scheme PublicKey}
    {publicKey : PublicKey} {text signature : Bytes} {valid : Bool} :
    scheme.verifyText publicKey text signature = .ok valid ↔
      scheme.readsSignature signature = true ∧ scheme.verify publicKey text signature = valid := by
  unfold verifyText
  rw [check_bind_eq_ok, readOr_eq_ok]
  exact and_congr_right' (by simp [pure, Except.pure])

/-- Digests have the lengths of their hashes. -/
def DigestLengths (hash : Nat → Bytes → Bytes) : Prop :=
  ∀ alg data, (hash (HashAlg.mechanism alg) data).length = alg.digestLength

theorem CryptoBackend.KeepsDigestLengths.digestLengths {backend : CryptoBackend}
    (h : backend.KeepsDigestLengths) : DigestLengths backend.hash := by
  intro alg data
  cases alg <;> exact h ⟨_, data⟩ rfl

namespace SignatureCrates

section Digests

variable {crates : SignatureCrates} {hash : Nat → Bytes → Bytes} {seed : Nat}
  {key data digest signature : Bytes} {alg : HashAlg}

theorem rsaPkcs1v15SignPrehashed_eq_ok :
    crates.rsaPkcs1v15SignPrehashed seed key digest alg = .ok signature ↔
      digest.length = alg.digestLength ∧ crates.rsaPrivateKey key = .ok () ∧
        (crates.pkcs1v15 alg).sign seed key digest = some signature := by
  rw [rsaPkcs1v15SignPrehashed, check_bind_eq_ok, check_bind_eq_ok, validateDigestLength_eq_ok,
    Scheme.signText_eq_ok]

theorem rsaPssSignPrehashed_eq_ok :
    crates.rsaPssSignPrehashed seed key digest alg = .ok signature ↔
      digest.length = alg.digestLength ∧ crates.rsaPrivateKey key = .ok () ∧
        crates.drbg seed = .ok () ∧ (crates.pss alg).sign seed key digest = some signature := by
  rw [rsaPssSignPrehashed, check_bind_eq_ok, check_bind_eq_ok, check_bind_eq_ok,
    validateDigestLength_eq_ok, Scheme.signText_eq_ok]

theorem ecdsaSignPrehashed_eq_ok {curve : EcCurve} :
    crates.ecdsaSignPrehashed curve seed key digest = .ok signature ↔
      digest.length = curve.hashAlg.digestLength ∧ crates.ecdsaReadsPrivate curve key = true ∧
        crates.drbg seed = .ok () ∧ (crates.ecdsa curve).sign seed key digest = some signature := by
  rw [ecdsaSignPrehashed, check_bind_eq_ok, check_bind_eq_ok, check_bind_eq_ok,
    validateDigestLength_eq_ok, readOr_eq_ok, Scheme.signText_eq_ok]

theorem data_length_of_rsaPkcs1v15Sign {alg : Option HashAlg}
    (h : crates.rsaPkcs1v15Sign hash seed key data alg = .ok signature) :
    data.length ≤ signMaxDataSize :=
  validateDataSize_eq_ok.mp (check_bind_eq_ok.mp h).1

theorem data_length_of_rsaPssSign (h : crates.rsaPssSign hash seed key data alg = .ok signature) :
    data.length ≤ signMaxDataSize :=
  validateDataSize_eq_ok.mp (check_bind_eq_ok.mp h).1

theorem data_length_of_ecdsaSign {curve : EcCurve}
    (h : crates.ecdsaSign hash curve seed key data = .ok signature) :
    data.length ≤ signMaxDataSize :=
  validateDataSize_eq_ok.mp (check_bind_eq_ok.mp h).1

variable (hlengths : DigestLengths hash)
include hlengths

theorem rsaPkcs1v15Sign_eq (alg : HashAlg) (h : data.length ≤ signMaxDataSize) :
    crates.rsaPkcs1v15Sign hash seed key data (some alg) =
      crates.rsaPkcs1v15SignPrehashed seed key (hash alg.mechanism data) alg := by
  rw [rsaPkcs1v15Sign, rsaPkcs1v15SignPrehashed, validateDataSize_eq_ok.mpr h,
    validateDigestLength_eq_ok.mpr (hlengths alg data)]

theorem rsaPssSign_eq (alg : HashAlg) (h : data.length ≤ signMaxDataSize) :
    crates.rsaPssSign hash seed key data alg =
      crates.rsaPssSignPrehashed seed key (hash alg.mechanism data) alg := by
  rw [rsaPssSign, rsaPssSignPrehashed, validateDataSize_eq_ok.mpr h,
    validateDigestLength_eq_ok.mpr (hlengths alg data)]

theorem ecdsaSign_eq (curve : EcCurve) (h : data.length ≤ signMaxDataSize) :
    crates.ecdsaSign hash curve seed key data =
      crates.ecdsaSignPrehashed curve seed key (hash curve.hashAlg.mechanism data) := by
  rw [ecdsaSign, ecdsaSignPrehashed, validateDataSize_eq_ok.mpr h,
    validateDigestLength_eq_ok.mpr (hlengths curve.hashAlg data)]

end Digests

end SignatureCrates

end CratonHsm.Crypto
