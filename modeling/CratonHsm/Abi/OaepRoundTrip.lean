import CratonHsm.Abi.KeyPairs
import CratonHsm.Abi.Admission

/-!
# Encrypting with a generated RSA key

The public object of an RSA key pair holds the modulus and the exponent and no key material.
`C_EncryptInit` admits it, and `C_Encrypt` asks for key material before it looks at the mechanism,
so that the call is refused on every plaintext (`cEncrypt_refuses_public`). The round trip through
the private key therefore never takes place (`oaep_round_trip_fails`).

Scope. The RSA primitives are parameters; nothing is assumed of them here, because the code never
reaches them.
-/

set_option autoImplicit false

namespace CratonHsm

open Crypto Crypto.Encrypt Library Store
open CryptoBackend

section Public

variable {platform : Platform} {env : CallEnv} {s s' later : Hsm}
  {session handle pubHandle privHandle : Nat} {pubTemplate privTemplate : Template}
  {mechanismParam plaintext : Bytes}

/-- Behind the public handle of a new RSA pair is an object that holds no key or that does not
encrypt: the public object, or the private one if both handles are the same. -/
theorem public_without_key (h : cGenerateKeyPair platform env session ckmRsaPkcsKeyPairGen
      pubTemplate privTemplate s = (.ok (.handlePair pubHandle privHandle), s')) :
    ∃ obj, s'.objectStore.objects.get? pubHandle = some obj ∧
      (obj.keyMaterial = none ∨ obj.canEncrypt = false) := by
  obtain ⟨pub, priv, haccepted, hreply, hobjects⟩ := cGenerateKeyPair_eq_ok h
  obtain ⟨rfl, rfl⟩ := Reply.handlePair.inj hreply
  obtain ⟨key, part, -, hpub, -⟩ := haccepted.identities
  rw [hobjects, if_pos rfl]
  split_ifs
  · refine ⟨priv, rfl, Or.inr ?_⟩
    obtain ⟨draft, hdraft, -, hpriv⟩ := haccepted.objects
    -- the private object of an RSA pair does not encrypt, and its template cannot change that
    have hkept : AccessFlag.encrypt.of priv =
        AccessFlag.encrypt.of (draft.privateObject env.now s.nextHandles.2) :=
      (overrideTemplate_ignores _ _ (by decide) _ _).of_eq_ok hpriv
    simp only [keyPairDraft, if_true, rsaPair] at hdraft
    cases hpair : toAbi (platform.backend.generateRsaKeyPair env.seed (modulusBitsOf pubTemplate)
        s.algorithmConfig.fipsApprovedOnly) with
    | error e => rw [hpair] at hdraft; cases hdraft
    | ok pair =>
      rw [hpair] at hdraft
      obtain ⟨rfl, -⟩ := Prod.mk.inj (Except.ok.inj hdraft)
      exact hkept
  · exact ⟨pub, rfl, Or.inl (congrArg KeyIdentity.keyMaterial hpub)⟩

/-- An operation on an object without key material is refused by `C_Encrypt`. -/
theorem cEncrypt_refuses_public {obj : StoredObject} {initEnv : CallEnv} {reply : Reply}
    (hobj : later.objectStore.objects.get? pubHandle = some obj)
    (hkeyless : obj.keyMaterial = none ∨ obj.canEncrypt = false)
    (hinit : (cEncryptInit initEnv handle ckmRsaPkcsOaep mechanismParam pubHandle later).1 =
      .ok reply) (output : Option Nat) :
    (cEncrypt platform env handle plaintext output
      (cEncryptInit initEnv handle ckmRsaPkcsOaep mechanismParam pubHandle later).2).1 =
        .error (if plaintext.length ≤ maxSingleBuffer then .keyHandleInvalid
          else .dataLenRange) := by
  obtain ⟨found, hopen, ref, admitted, hadmits, hiv⟩ := CipherAdmits.of_encrypt_ok hinit
  obtain rfl : admitted = obj := Option.mem_unique hadmits.admitted.obj_eq hobj
  have hencrypts : admitted.canEncrypt = true := hadmits.admitted.permitted_eq
  have hkey : admitted.keyMaterial = none := by
    rcases hkeyless with hkey | hcannot
    · exact hkey
    · rw [hcannot] at hencrypts
      cases hencrypts
  rw [hadmits.eq_encrypt hopen hiv, cEncrypt_eq (hopen.setOperation _) rfl]
  rw [singleShot_eq env]
  simp only [Hsm.materialOf_setOperation, Hsm.materialOf_none hobj, hkey, Option.elim_none]
  split_ifs <;> rfl

/-- The round trip: `C_Encrypt` under the public handle succeeds, and `C_Decrypt` under the private
handle gives the plaintext back. -/
def OaepRoundTrip (platform : Platform) (env : CallEnv) (handle pubHandle privHandle : Nat)
    (mechanismParam plaintext : Bytes) (s : Hsm) : Prop :=
  ∃ ciphertext size, ∃ s₁ s₂ s₃ s₄ : Hsm,
    cEncryptInit env handle ckmRsaPkcsOaep mechanismParam pubHandle s = (.ok .done, s₁) ∧
    cEncrypt platform env handle plaintext (some size) s₁ = (.ok (.bytes ciphertext), s₂) ∧
    cDecryptInit env handle ckmRsaPkcsOaep mechanismParam privHandle s₂ = (.ok .done, s₃) ∧
    cDecrypt platform handle ciphertext (some size) s₃ = (.ok (.bytes plaintext), s₄)

end Public

/-- No RSA key pair that `C_GenerateKeyPair` has made, however its objects may be used later, and no
OAEP parameter and no plaintext makes the round trip. -/
theorem oaep_round_trip_fails (platform : Platform) (genEnv env : CallEnv) (s s' later : Hsm)
    (session handle pubHandle privHandle : Nat) (pubTemplate privTemplate : Template)
    (hpair : cGenerateKeyPair platform genEnv session ckmRsaPkcsKeyPairGen pubTemplate privTemplate
      s = (.ok (.handlePair pubHandle privHandle), s'))
    (hlater : later.objectStore.objects.get? pubHandle = s'.objectStore.objects.get? pubHandle)
    (mechanismParam plaintext : Bytes) :
    ¬OaepRoundTrip platform env handle pubHandle privHandle mechanismParam plaintext later := by
  rintro ⟨ciphertext, size, s₁, s₂, -, -, hinit, hencrypt, -, -⟩
  obtain ⟨obj, hobj, hkeyless⟩ := public_without_key hpair
  have hadmitted : (cEncryptInit env handle ckmRsaPkcsOaep mechanismParam pubHandle later).1 =
      .ok .done := by rw [hinit]
  have hrefused : (cEncrypt platform env handle plaintext (some size)
      (cEncryptInit env handle ckmRsaPkcsOaep mechanismParam pubHandle later).2).1 = .error _ :=
    cEncrypt_refuses_public (hlater.trans hobj) hkeyless hadmitted _
  rw [hinit, hencrypt] at hrefused
  cases hrefused

/-! ### A concrete pair -/

section Known

variable (key modulus signature : Bytes)

/-- A platform that generates an RSA key of 2048 bits, and knows its signature of the pairwise test
data. -/
def knownRsaPlatform : Platform :=
  { Platform.recorded [] [] with
    backend := { recorded [] with
      generateRsaKeyPair := fun _ bits fips ↦
        if bits = 2048 ∧ fips = false then .ok (key, modulus, [1, 0, 1]) else .error .keySizeRange
      rsaPkcs1v15Sign := fun _ key' data alg ↦
        if key' = key ∧ data = pairwiseTestData ∧ alg = some .sha256 then .ok signature
        else .error .generalError
      rsaPkcs1v15Verify := fun modulus' exponent data signature' alg ↦
        .ok (modulus' = modulus ∧ exponent = [1, 0, 1] ∧ data = pairwiseTestData ∧
          signature' = signature ∧ alg = some .sha256) } }

/-- The pair as it is inserted. -/
def knownRsaDraft : KeyPairDraft := rsaDraft key modulus 2048 [1, 0, 1]

theorem knownRsaDraft_eq (env : CallEnv) :
    keyPairDraft (knownRsaPlatform key modulus signature) env false ckmRsaPkcsKeyPairGen [] =
      .ok (knownRsaDraft key modulus, true) := by
  have hpassed : pairwiseSignTest
      ((knownRsaPlatform key modulus signature).backend.rsaPkcs1v15Sign env.seed key ·
        (some .sha256))
      ((knownRsaPlatform key modulus signature).backend.rsaPkcs1v15Verify modulus [1, 0, 1] · ·
        (some .sha256)) = true := by
    simp [pairwiseSignTest, knownRsaPlatform]
  have hdraft : keyPairDraft (knownRsaPlatform key modulus signature) env false
      ckmRsaPkcsKeyPairGen [] = .ok (knownRsaDraft key modulus, pairwiseSignTest
        ((knownRsaPlatform key modulus signature).backend.rsaPkcs1v15Sign env.seed key ·
          (some .sha256))
        ((knownRsaPlatform key modulus signature).backend.rsaPkcs1v15Verify modulus [1, 0, 1] · ·
          (some .sha256))) := rfl
  rw [hdraft, hpassed]

/-- The handle of the private object. -/
def rsaPrivateObject : Nat := 2018634633410

/-- The library of a logged-in user who has generated the pair. -/
def knownRsaLibrary : Hsm :=
  let platform := knownRsaPlatform key modulus signature
  let draft := knownRsaDraft key modulus
  let shown := (userLibrary false).withPublic platform (callEnvAt 5)
    (draft.publicObject 5 firstObject)
  { shown with
    objectStore := shown.objectStore.addObject platform.crates platform.codec (callEnvAt 5).second
      rsaPrivateObject (draft.privateObject 5 rsaPrivateObject) }

theorem knownRsa_nextHandles :
    (userLibrary false).nextHandles = (firstObject, rsaPrivateObject) := by
  decide +kernel

theorem knownRsa_accepted :
    KeyPairAccepted (knownRsaPlatform key modulus signature) (callEnvAt 5) (userLibrary false)
      firstSession ckmRsaPkcsKeyPairGen [] []
      ((knownRsaDraft key modulus).publicObject 5 firstObject)
      ((knownRsaDraft key modulus).privateObject 5 rsaPrivateObject) where
  postFailed_eq := by decide +kernel
  isRw := by
    have hopen : ((userLibrary false).sessionManager.sessions[firstSession]?.map
        (·.state.isRw)) = some true := by decide +kernel
    exact Option.map_eq_some_iff.mp hopen
  isKeypairGen := by decide
  policy := by decide +kernel
  pubParsed := rfl
  privParsed := rfl
  approved := by decide +kernel
  objects := by
    have hfips : (userLibrary false).algorithmConfig.fipsApprovedOnly = false := by decide +kernel
    refine ⟨knownRsaDraft key modulus, by rw [hfips, knownRsaDraft_eq], ?_⟩
    rw [knownRsa_nextHandles]
    exact ⟨rfl, rfl⟩

theorem knownRsa_generated :
    cGenerateKeyPair (knownRsaPlatform key modulus signature) (callEnvAt 5) firstSession
      ckmRsaPkcsKeyPairGen [] [] (userLibrary false) =
        (.ok (.handlePair firstObject rsaPrivateObject),
          knownRsaLibrary key modulus signature) := by
  have hempty : (userLibrary false).objectStore.objects.refs.size = 0 := by decide +kernel
  have hfree : (userLibrary false).objectStore.objects.get? firstObject = none := by decide +kernel
  have hone : ((userLibrary false).objectStore.objects.insert firstObject
      ((knownRsaDraft key modulus).publicObject 5 firstObject)).refs.size < maxObjects := by
    rw [size_refs_insert _ hfree, hempty]
    decide
  have hboth := (knownRsa_accepted key modulus signature).both (by rw [hempty]; decide) hone
  rw [knownRsa_nextHandles] at hboth
  exact hboth

end Known

/-- The two primes of a key of 2048 bits. -/
def rsaPrimes : Nat × Nat := (2 ^ 1024 - 105, 2 ^ 1024 - 2 ^ 900 - 173)

/-- The modulus. -/
def rsaModulus : Nat := rsaPrimes.1 * rsaPrimes.2

/-- The inverse of the exponent 65537. -/
def rsaPrivateExponent : Nat :=
  (62294 * ((rsaPrimes.1 - 1) * (rsaPrimes.2 - 1)) + 1) / 65537

/-- The inverse of the second prime modulo the first. -/
def rsaCoefficient : Nat :=
  ((0x48089f4c02cbf7f7d339780a8b5d9d5eb1fdcd9b0632a8517f651efb7dc9fd36 * 2 ^ 256 +
    0xd290a0cdc13a945ec3a720aba00935c49ebf8a42c385ea9e87a2babb24c21ae8) * 2 ^ 256 +
    0x3583d5524e9b012bd9f145f073db0ce25d650f59d364d400d96bd6ad4a277663) * 2 ^ 256 +
    0xb14e4881f3ae5d183197c0b023401a9d3ddb5afcf41d2222be4bc1d32fb22310

/-- The private key in PKCS#8. -/
def rsaPrivateKey : Bytes :=
  [0x30, 0x82, 0x04, 0xBD, 0x02, 0x01, 0x00, 0x30, 0x0D, 0x06, 0x09, 0x2A, 0x86, 0x48, 0x86, 0xF7,
    0x0D, 0x01, 0x01, 0x01, 0x05, 0x00, 0x04, 0x82, 0x04, 0xA7, 0x30, 0x82, 0x04, 0xA3, 0x02, 0x01,
    0x00] ++
  [0x02, 0x82, 0x01, 0x01] ++ beBytes 257 rsaModulus ++
  [0x02, 0x03, 0x01, 0x00, 0x01] ++
  [0x02, 0x82, 0x01, 0x01] ++ beBytes 257 rsaPrivateExponent ++
  [0x02, 0x81, 0x81] ++ beBytes 129 rsaPrimes.1 ++
  [0x02, 0x81, 0x81] ++ beBytes 129 rsaPrimes.2 ++
  [0x02, 0x81, 0x80] ++ beBytes 128 (rsaPrivateExponent % (rsaPrimes.1 - 1)) ++
  [0x02, 0x81, 0x80] ++ beBytes 128 (rsaPrivateExponent % (rsaPrimes.2 - 1)) ++
  [0x02, 0x81, 0x80] ++ beBytes 128 rsaCoefficient

/-- The signature of the pairwise test data, PKCS#1 v1.5 with SHA-256. -/
def rsaPairwiseSignature : Bytes :=
  beBytes 40 0x051eff70a8cdaf0784616b5083680edc22eb4ee44c1e8ed615669674c312fc610f454e245bff38c7 ++
    beBytes 40 0xaa15a7be6c507b602d3735005ca5d35ec9c521e74453282e7f0d6fe40854010a956f6c76ae15a857 ++
    beBytes 40 0xe80f25b396791b8bed1e1644a6c66af47df80488023d62b326fcbb689a57bf1c5699b5f58f9ce237 ++
    beBytes 40 0xfdefe557cae870ed8fe353c211dddcc3cdf6bd776846de0aabb2b338b100223c9e5d4eea5844f125 ++
    beBytes 40 0x3be0395bbd72eec29b4cdc09413545ac555654d5d5d9d75cd2d5ec433cf83335e8edd034816a9004 ++
    beBytes 40 0xc24afb81a674ced16610ced2e99bedfba93889ff38b62648102181f6f1edba60e71fe1fd3214eef7 ++
    beBytes 16 0xde2730411762d91f2443d1cbfd71ad17

/-- The platform with that key. -/
def rsaPlatform : Platform :=
  knownRsaPlatform rsaPrivateKey (beBytes 256 rsaModulus) rsaPairwiseSignature

/-- The library with that pair. -/
def rsaLibrary : Hsm :=
  knownRsaLibrary rsaPrivateKey (beBytes 256 rsaModulus) rsaPairwiseSignature

/-- The parameter of OAEP with SHA-256. -/
def oaepSha256 : Bytes := ckUlongToBytes ckmSha256

/-- The pair is made, and does not make the round trip. -/
theorem generated_pair_no_round_trip :
    cGenerateKeyPair rsaPlatform (callEnvAt 5) firstSession ckmRsaPkcsKeyPairGen [] []
        (userLibrary false) = (.ok (.handlePair firstObject rsaPrivateObject), rsaLibrary) ∧
      ¬OaepRoundTrip rsaPlatform (callEnvAt 6) firstSession firstObject rsaPrivateObject oaepSha256
        [1, 2, 3] rsaLibrary :=
  ⟨knownRsa_generated _ _ _, oaep_round_trip_fails rsaPlatform (callEnvAt 5) (callEnvAt 6)
    (userLibrary false) rsaLibrary rsaLibrary firstSession firstSession firstObject
    rsaPrivateObject [] [] (knownRsa_generated _ _ _) rfl oaepSha256 [1, 2, 3]⟩

/-- The public object allows encryption and the private one decryption; `C_EncryptInit` admits the
public object, and `C_Encrypt` answers `CKR_KEY_HANDLE_INVALID`. -/
theorem public_key_does_not_encrypt :
    cGenerateKeyPair rsaPlatform (callEnvAt 5) firstSession ckmRsaPkcsKeyPairGen [] []
        (userLibrary false) = (.ok (.handlePair firstObject rsaPrivateObject), rsaLibrary) ∧
      (rsaLibrary.objectStore.objects.get? firstObject).map StoredObject.canEncrypt = some true ∧
      (rsaLibrary.objectStore.objects.get? rsaPrivateObject).map StoredObject.canDecrypt =
        some true ∧
      (cEncryptInit (callEnvAt 6) firstSession ckmRsaPkcsOaep oaepSha256 firstObject rsaLibrary).1 =
        .ok .done ∧
      (cEncrypt rsaPlatform (callEnvAt 6) firstSession [1, 2, 3] (some 256)
        (cEncryptInit (callEnvAt 6) firstSession ckmRsaPkcsOaep oaepSha256 firstObject
          rsaLibrary).2).1 = .error .keyHandleInvalid :=
  ⟨knownRsa_generated _ _ _, by decide +kernel⟩

end CratonHsm
