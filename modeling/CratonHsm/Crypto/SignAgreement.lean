import CratonHsm.Crypto.Lengths
import CratonHsm.Crypto.Sign

/-!
# Signing a message and signing its digest

For a mechanism with a built-in hash a message can be signed at once (`signSingleShot`) or hashed
first and signed as a digest (`signPrehashed`). Both give the same result if the message has at most
64 MiB and the hash of the mechanism is the one of the curve (`signSingleShot_eq`). For ECDSA the
single shot hashes with the hash of the curve whatever the mechanism says, and a digest of another
length is refused (`signPrehashed_eq_ok`).

A signature of either kind is accepted under the other half of the key pair
(`KeyPair.accepts_message`, `KeyPair.accepts_digest`). A key pair is given by what its scheme
promises for it (`Scheme.Pairs`).
-/

set_option autoImplicit false

namespace CratonHsm.Crypto

open Library Store CryptoBackend

namespace SignatureCrates

/-! ### What makes a signature -/

/-- The key can sign with the mechanism: it can be read, an RSA key has at least 2048 bits, an ECDSA
key is of that type, and there is randomness where it is needed. -/
def Usable (crates : SignatureCrates) (mechanism seed : Nat) (obj : StoredObject) (key : Bytes) :
    Prop :=
  if isEcdsaMechanism mechanism then
    obj.keyType.getD 0 = ckkEc ∧ crates.ecdsaReadsPrivate (curveOf obj) key = true ∧
      crates.drbg seed = .ok ()
  else
    crates.rsaPrivateKey key = .ok () ∧ (isPssMechanism mechanism = true →
      crates.drbg seed = .ok ())

/-- The built-in hash of an ECDSA mechanism is the one of the curve. -/
def HashFits (mechanism digest : Nat) (obj : StoredObject) : Prop :=
  isEcdsaMechanism mechanism = true → digest = (curveOf obj).hashAlg.mechanism

/-- What the scheme of a mechanism signs for a digest. -/
def signatureOf (crates : SignatureCrates) (mechanism seed : Nat) (obj : StoredObject)
    (key digest : Bytes) : Option Bytes :=
  if isPssMechanism mechanism then
    (pssMechanismToHash mechanism).toOption.bind fun alg ↦ (crates.pss alg).sign seed key digest
  else if isEcdsaMechanism mechanism then (crates.ecdsa (curveOf obj)).sign seed key digest
  else (mechanismToHash mechanism).bind fun alg ↦ (crates.pkcs1v15 alg).sign seed key digest

/-- A key that can be read signs every digest of the right length. -/
structure SignsDigests (crates : SignatureCrates) : Prop where
  pkcs1v15 : ∀ alg seed key digest, crates.rsaPrivateKey key = .ok () →
    digest.length = HashAlg.digestLength alg →
      ((crates.pkcs1v15 alg).sign seed key digest).isSome
  pss : ∀ alg seed key digest, crates.rsaPrivateKey key = .ok () →
    digest.length = HashAlg.digestLength alg → ((crates.pss alg).sign seed key digest).isSome
  ecdsa : ∀ curve seed key digest, crates.ecdsaReadsPrivate curve key = true →
    digest.length = (EcCurve.hashAlg curve).digestLength →
      ((crates.ecdsa curve).sign seed key digest).isSome

end SignatureCrates

/-- The mechanisms with a built-in hash, by their schemes. -/
theorem builtInHash_cases {mechanism digest : Nat}
    (h : signMechanismToDigestMechanism mechanism = some digest) : ∃ alg : HashAlg,
    digest = alg.mechanism ∧
      (mechanism ∈ rsaPkcsMechanisms ∧ isPssMechanism mechanism = false ∧
          isEcdsaMechanism mechanism = false ∧ mechanismToHash mechanism = some alg ∨
        mechanism ∈ pssMechanisms ∧ isPssMechanism mechanism = true ∧
          isEcdsaMechanism mechanism = false ∧ pssMechanismToHash mechanism = .ok alg ∨
        mechanism ∈ ecdsaMechanisms ∧ isPssMechanism mechanism = false ∧
          isEcdsaMechanism mechanism = true) := by
  simp only [signMechanismToDigestMechanism, List.mem_cons, List.not_mem_nil, or_false] at h
  split_ifs at h with h256 h384 h512
  · refine ⟨.sha256, (Option.some.inj h).symm, ?_⟩
    rcases h256 with rfl | rfl | rfl <;> decide
  · refine ⟨.sha384, (Option.some.inj h).symm, ?_⟩
    rcases h384 with rfl | rfl | rfl <;> decide
  · refine ⟨.sha512, (Option.some.inj h).symm, ?_⟩
    rcases h512 with rfl | rfl | rfl <;> decide

/-! ### The dispatch for digests -/

section Dispatch

variable {backend : CryptoBackend} {seed mechanism : Nat} {key text signature : Bytes}
  {obj : StoredObject}

theorem signPrehashed_rsaPkcs {alg : HashAlg} (h : mechanism ∈ rsaPkcsMechanisms)
    (halg : mechanismToHash mechanism = some alg) :
    backend.signPrehashed seed mechanism key text obj =
      backend.rsaPkcs1v15SignPrehashed seed key text alg := by
  have hdispatch : backend.signPrehashed seed mechanism key text obj =
      (mechanismToHash mechanism).elim (.error .mechanismInvalid)
        (backend.rsaPkcs1v15SignPrehashed seed key text) := by
    fin_cases h <;> rfl
  rw [hdispatch, halg, Option.elim_some]

theorem signPrehashed_pss {alg : HashAlg} (h : mechanism ∈ pssMechanisms)
    (halg : pssMechanismToHash mechanism = .ok alg) :
    backend.signPrehashed seed mechanism key text obj =
      backend.rsaPssSignPrehashed seed key text alg := by
  have hpss : isPssMechanism mechanism = true := decide_eq_true h
  rw [signPrehashed, if_pos hpss, halg]
  rfl

theorem signPrehashed_ecdsa (h : mechanism ∈ ecdsaMechanisms) :
    backend.signPrehashed seed mechanism key text obj =
      if obj.keyType.getD 0 = ckkEc then backend.ecdsaSignPrehashed (curveOf obj) seed key text
      else .error .keyTypeInconsistent := by
  fin_cases h <;> rfl

end Dispatch

namespace SignatureCrates

/-! ### Both ways of signing -/

section Signing

variable {crates : SignatureCrates} {rest : CryptoBackend} {seed mechanism digest : Nat}
  {key data signature : Bytes} {obj : StoredObject}

variable (hlengths : rest.KeepsDigestLengths)
  (hdigest : signMechanismToDigestMechanism mechanism = some digest)

include hdigest

/-- A longer message is refused. -/
theorem data_length_of_signSingleShot
    (h : (rustCrypto crates rest).signSingleShot seed mechanism key data obj = .ok signature) :
    data.length ≤ signMaxDataSize := by
  obtain ⟨alg, rfl, ⟨hrsa, -⟩ | ⟨hpss, -, -, halg⟩ | ⟨hecdsa, -⟩⟩ := builtInHash_cases hdigest
  · rw [signSingleShot_rsaPkcs hrsa] at h
    exact data_length_of_rsaPkcs1v15Sign h
  · rw [signSingleShot_pss hpss, halg] at h
    exact data_length_of_rsaPssSign h
  · rw [signSingleShot_ecdsa hecdsa] at h
    split_ifs at h
    exact data_length_of_ecdsaSign h

include hlengths

/-- A message of at most 64 MiB is signed as its digest is, if the hash is the one of the curve. -/
theorem signSingleShot_eq (hfits : HashFits mechanism digest obj)
    (hdata : data.length ≤ signMaxDataSize) :
    (rustCrypto crates rest).signSingleShot seed mechanism key data obj =
      (rustCrypto crates rest).signPrehashed seed mechanism key (rest.hash digest data) obj := by
  obtain ⟨alg, rfl, ⟨hrsa, -, -, halg⟩ | ⟨hpss, -, -, halg⟩ | ⟨hecdsa, -, hisEcdsa⟩⟩ :=
    builtInHash_cases hdigest
  · rw [signSingleShot_rsaPkcs hrsa, signPrehashed_rsaPkcs hrsa halg, halg]
    exact rsaPkcs1v15Sign_eq hlengths.digestLengths alg hdata
  · rw [signSingleShot_pss hpss, signPrehashed_pss hpss halg, halg]
    exact rsaPssSign_eq hlengths.digestLengths alg hdata
  · rw [signSingleShot_ecdsa hecdsa, signPrehashed_ecdsa hecdsa, hfits hisEcdsa]
    exact ite_congr rfl (fun _ ↦ ecdsaSign_eq hlengths.digestLengths (curveOf obj) hdata)
      fun _ ↦ rfl

/-- A digest is signed by a usable key, with a hash that fits, and its signature is the one of the
scheme. -/
theorem signPrehashed_eq_ok :
    (rustCrypto crates rest).signPrehashed seed mechanism key (rest.hash digest data) obj =
        .ok signature ↔
      crates.Usable mechanism seed obj key ∧ HashFits mechanism digest obj ∧
        crates.signatureOf mechanism seed obj key (rest.hash digest data) = some signature := by
  obtain ⟨alg, rfl, ⟨hrsa, hisPss, hisEcdsa, halg⟩ | ⟨hpss, hisPss, hisEcdsa, halg⟩ |
    ⟨hecdsa, hisPss, hisEcdsa⟩⟩ := builtInHash_cases hdigest
  · rw [signPrehashed_rsaPkcs hrsa halg]
    refine rsaPkcs1v15SignPrehashed_eq_ok.trans ?_
    simp [Usable, HashFits, signatureOf, hisPss, hisEcdsa, halg, hlengths.digestLengths alg data]
  · rw [signPrehashed_pss hpss halg]
    refine rsaPssSignPrehashed_eq_ok.trans ?_
    simp [Usable, HashFits, signatureOf, hisPss, hisEcdsa, halg, hlengths.digestLengths alg data,
      Except.toOption, and_assoc]
  · rw [signPrehashed_ecdsa hecdsa]
    have hfits : alg.digestLength = (curveOf obj).hashAlg.digestLength ↔
        alg.mechanism = (curveOf obj).hashAlg.mechanism := by
      cases alg <;> cases curveOf obj <;> decide
    simp only [Usable, HashFits, signatureOf, hisPss, hisEcdsa, if_true, Bool.false_eq_true,
      if_false, forall_const]
    split_ifs with htype
    · refine ecdsaSignPrehashed_eq_ok.trans ?_
      rw [hlengths.digestLengths alg data, hfits]
      tauto
    · exact ⟨nofun, fun h ↦ absurd h.1.1 htype⟩

/-- A usable key signs every digest of a hash that fits. -/
theorem SignsDigests.signatureOf_isSome (h : crates.SignsDigests)
    (husable : crates.Usable mechanism seed obj key) (hfits : HashFits mechanism digest obj)
    (data : Bytes) :
    (crates.signatureOf mechanism seed obj key (rest.hash digest data)).isSome := by
  obtain ⟨alg, rfl, ⟨-, hisPss, hisEcdsa, halg⟩ | ⟨-, hisPss, hisEcdsa, halg⟩ |
    ⟨-, hisPss, hisEcdsa⟩⟩ := builtInHash_cases hdigest
  · simp only [Usable, hisEcdsa, Bool.false_eq_true, if_false] at husable
    simp only [signatureOf, hisPss, hisEcdsa, Bool.false_eq_true, if_false, halg, Option.bind_some]
    exact h.pkcs1v15 alg seed key _ husable.1 (hlengths.digestLengths alg data)
  · simp only [Usable, hisEcdsa, Bool.false_eq_true, if_false] at husable
    simp only [signatureOf, hisPss, if_true, halg, Except.toOption, Option.bind_some]
    exact h.pss alg seed key _ husable.1 (hlengths.digestLengths alg data)
  · simp only [Usable, hisEcdsa, if_true] at husable
    simp only [signatureOf, hisPss, hisEcdsa, Bool.false_eq_true, if_false, if_true]
    rw [hfits hisEcdsa]
    exact h.ecdsa _ seed key _ husable.2.1 (hlengths.digestLengths _ data)

/-- A single shot signs for a usable key and a message of at most 64 MiB, whether or not the hash of
the mechanism fits. -/
theorem signSingleShot_ok_iff (hsigns : crates.SignsDigests) :
    (∃ signature, (rustCrypto crates rest).signSingleShot seed mechanism key data obj =
        .ok signature) ↔
      crates.Usable mechanism seed obj key ∧ data.length ≤ signMaxDataSize := by
  refine ⟨fun ⟨signature, h⟩ ↦ ?_, fun ⟨husable, hdata⟩ ↦ ?_⟩
  · have hdata := data_length_of_signSingleShot hdigest h
    refine ⟨?_, hdata⟩
    by_cases hisEcdsa : isEcdsaMechanism mechanism = true
    · rw [signSingleShot_ecdsa (of_decide_eq_true hisEcdsa)] at h
      split_ifs at h with htype
      have hsigned := (ecdsaSign_eq hlengths.digestLengths (curveOf obj) hdata).symm.trans h
      obtain ⟨-, hreads, hdrbg, -⟩ := ecdsaSignPrehashed_eq_ok.mp hsigned
      simp only [Usable, hisEcdsa, if_true]
      exact ⟨htype, hreads, hdrbg⟩
    · rw [signSingleShot_eq hlengths hdigest (fun h ↦ absurd h hisEcdsa) hdata] at h
      exact ((signPrehashed_eq_ok hlengths hdigest).mp h).1
  · by_cases hisEcdsa : isEcdsaMechanism mechanism = true
    · simp only [Usable, hisEcdsa, if_true] at husable
      obtain ⟨htype, hreads, hdrbg⟩ := husable
      obtain ⟨signature, hsignature⟩ := Option.isSome_iff_exists.mp (hsigns.ecdsa (curveOf obj) seed
        key (rest.hash _ data) hreads (hlengths.digestLengths _ data))
      refine ⟨signature, ?_⟩
      rw [signSingleShot_ecdsa (of_decide_eq_true hisEcdsa), if_pos htype]
      refine (ecdsaSign_eq hlengths.digestLengths (curveOf obj) hdata).trans ?_
      exact ecdsaSignPrehashed_eq_ok.mpr
        ⟨hlengths.digestLengths _ data, hreads, hdrbg, hsignature⟩
    · have hfits : HashFits mechanism digest obj := fun h ↦ absurd h hisEcdsa
      obtain ⟨signature, hsignature⟩ := Option.isSome_iff_exists.mp
        (hsigns.signatureOf_isSome hlengths hdigest husable hfits data)
      refine ⟨signature, ?_⟩
      rw [signSingleShot_eq hlengths hdigest hfits hdata]
      exact (signPrehashed_eq_ok hlengths hdigest).mpr ⟨husable, hfits, hsignature⟩

end Signing

end SignatureCrates

/-! ### Key pairs -/

/-- What a scheme promises for the two halves of a key pair: signatures of the one are read and
accepted under the other, and have less than 64 KiB. -/
structure Scheme.Pairs {PublicKey : Type} (scheme : Scheme PublicKey) (key : Bytes)
    (publicKey : PublicKey) : Prop where
  reads : ∀ {seed text signature}, scheme.sign seed key text = some signature →
    scheme.readsSignature signature = true
  verifies : ∀ {seed text signature}, scheme.sign seed key text = some signature →
    scheme.verify publicKey text signature = true
  short : ∀ {seed text signature}, scheme.sign seed key text = some signature →
    signature.length < 2 ^ 16

variable {key text signature : Bytes} {seed : Nat} {check : HsmResult Unit}

theorem Scheme.Pairs.verifyText_eq {PublicKey : Type} {scheme : Scheme PublicKey}
    {publicKey : PublicKey} (h : scheme.Pairs key publicKey)
    (hsign : scheme.sign seed key text = some signature) :
    scheme.verifyText publicKey text signature = .ok true :=
  Scheme.verifyText_eq_ok.mpr ⟨h.reads hsign, h.verifies hsign⟩

/-- Two checks that pass leave what comes after them. -/
theorem checks_bind {Result : Type} {check' : HsmResult Unit} {x : HsmResult Result}
    (h : check = .ok ()) (h' : check' = .ok ()) : (do check; check'; x) = x := by
  rw [h, h']
  rfl

/-- A signature that is made after a check is accepted under a public key that can be read. -/
theorem Scheme.Pairs.accepts {scheme : Scheme Bytes} {publicKey : Bytes} {e : HsmError}
    {reads : Bool} (h : scheme.Pairs key publicKey) (hreads : reads = true)
    (hsign : (do check; scheme.signText seed key text) = .ok signature) :
    (do readOr e reads; scheme.verifyText publicKey text signature) = .ok true ∧
      signature.length < 2 ^ 16 := by
  have hsignature := Scheme.signText_eq_ok.mp (check_bind_eq_ok.mp hsign).2
  exact ⟨check_bind_eq_ok.mpr ⟨readOr_eq_ok.mpr hreads, h.verifyText_eq hsignature⟩,
    h.short hsignature⟩

/-- The public half of an RSA key pair, for one kind of padding. -/
def SignatureCrates.RsaPair (crates : SignatureCrates) (scheme : HashAlg → Scheme (Bytes × Bytes))
    (pub : StoredObject) (key : Bytes) : Prop :=
  ∃ modulus exponent, pub.modulus = some modulus ∧ pub.publicExponent = some exponent ∧
    crates.rsaPublicKey modulus exponent = .ok () ∧
      ∀ alg, (scheme alg).Pairs key (modulus, exponent)

/-- An object `pub` holds the public half of the key of an object, as verification with the
mechanism reads it. -/
structure SignatureCrates.KeyPair (crates : SignatureCrates) (mechanism : Nat)
    (obj pub : StoredObject) (key : Bytes) : Prop where
  pkcs1v15 : mechanism ∈ rsaPkcsMechanisms → crates.RsaPair crates.pkcs1v15 pub key
  pss : mechanism ∈ pssMechanisms → crates.RsaPair crates.pss pub key
  ecdsa : mechanism ∈ ecdsaMechanisms → curveOf pub = curveOf obj ∧
    ∃ point, pub.ecPoint = some point ∧ crates.ecdsaReadsPublic (curveOf obj) point = true ∧
      (crates.ecdsa (curveOf obj)).Pairs key point
  ed25519 : mechanism = ckmEddsa → ∃ publicKey, pub.publicKeyData.or pub.ecPoint = some publicKey ∧
    publicKey.length = 32 ∧ crates.ed25519ReadsPublic publicKey = true ∧
    crates.ed25519.Pairs key publicKey ∧
    ∀ seed data signature, crates.ed25519.sign seed key data = some signature →
      signature.length = 64
  mlDsa : ∀ variant, mechanismToMlDsaVariant mechanism = some variant → ∃ publicKey,
    pub.publicKeyData = some publicKey ∧ crates.mlDsaReadsPublic variant publicKey = true ∧
      (crates.mlDsa variant).Pairs key publicKey
  slhDsa : ∀ variant, mechanismToSlhDsaVariant mechanism = some variant → ∃ publicKey,
    pub.publicKeyData = some publicKey ∧ crates.slhDsaReadsPublic variant publicKey = true ∧
      (crates.slhDsa variant).Pairs key publicKey
  hybrid : mechanism = ckmHybridMlDsaEcdsa → ∃ publicKey, pub.publicKeyData = some publicKey ∧
    crates.mlDsaReadsPublic .mlDsa65 publicKey = true ∧
    (crates.mlDsa .mlDsa65).Pairs key publicKey ∧
    crates.ecdsaReadsPublic .p256 (hybridEcdsaKey pub) = true ∧
    (crates.ecdsa .p256).Pairs (hybridEcdsaKey obj) (hybridEcdsaKey pub)

section Acceptance

variable {backend : CryptoBackend} {mechanism : Nat} {text signature : Bytes} {pub : StoredObject}

theorem publicField_bind {Value Result : Type} (value : Value) (f : Value → HsmResult Result) :
    (publicField (some value) >>= f) = f value := rfl

theorem verifySingleShot_rsaPkcs (h : mechanism ∈ rsaPkcsMechanisms) :
    backend.verifySingleShot mechanism text signature pub = (do
      let modulus ← publicField pub.modulus
      let exponent ← publicField pub.publicExponent
      backend.rsaPkcs1v15Verify modulus exponent text signature (mechanismToHash mechanism)) := by
  fin_cases h <;> rfl

theorem verifyPrehashed_rsaPkcs (h : mechanism ∈ rsaPkcsMechanisms) :
    backend.verifyPrehashed mechanism text signature pub = (do
      let modulus ← publicField pub.modulus
      let exponent ← publicField pub.publicExponent
      match mechanismToHash mechanism with
      | some alg => backend.rsaPkcs1v15VerifyPrehashed modulus exponent text signature alg
      | none => .error .mechanismInvalid) := by
  fin_cases h <;> rfl

theorem verifySingleShot_ecdsa (h : mechanism ∈ ecdsaMechanisms) :
    backend.verifySingleShot mechanism text signature pub = (do
      backend.ecdsaVerify (curveOf pub) (← publicField pub.ecPoint) text signature) := by
  fin_cases h <;> rfl

theorem verifyPrehashed_ecdsa (h : mechanism ∈ ecdsaMechanisms) :
    backend.verifyPrehashed mechanism text signature pub = (do
      backend.ecdsaVerifyPrehashed (curveOf pub) (← publicField pub.ecPoint) text signature) := by
  fin_cases h <;> rfl

namespace SignatureCrates

variable {crates : SignatureCrates} {rest : CryptoBackend} {obj : StoredObject} {seed : Nat}
  {key data : Bytes}

/-- A signature for the digest of a message is accepted for the message and for the digest. -/
theorem KeyPair.accepts_digest {digest : Nat} (h : crates.KeyPair mechanism obj pub key)
    (hlengths : rest.KeepsDigestLengths)
    (hdigest : signMechanismToDigestMechanism mechanism = some digest)
    (hfits : HashFits mechanism digest obj) (hdata : data.length ≤ signMaxDataSize)
    (hsignature : crates.signatureOf mechanism seed obj key (rest.hash digest data) =
      some signature) :
    (rustCrypto crates rest).verifySingleShot mechanism data signature pub = .ok true ∧
      (rustCrypto crates rest).verifyPrehashed mechanism (rest.hash digest data) signature pub =
        .ok true ∧
      signature.length < 2 ^ 16 := by
  have hsize := validateDataSize_eq_ok.mpr hdata
  have hlength := fun alg ↦ validateDigestLength_eq_ok.mpr (hlengths.digestLengths alg data)
  obtain ⟨alg, rfl, ⟨hrsa, hisPss, hisEcdsa, halg⟩ | ⟨hpss, hisPss, hisEcdsa, halg⟩ |
    ⟨hecdsa, hisPss, hisEcdsa⟩⟩ := builtInHash_cases hdigest
  · simp only [signatureOf, hisPss, hisEcdsa, Bool.false_eq_true, if_false, halg,
      Option.bind_some] at hsignature
    obtain ⟨modulus, exponent, hmodulus, hexponent, hpublic, hpairs⟩ := h.pkcs1v15 hrsa
    simp only [verifySingleShot_rsaPkcs hrsa, verifyPrehashed_rsaPkcs hrsa, halg, hmodulus,
      hexponent, publicField_bind]
    exact ⟨(checks_bind hsize hpublic).trans ((hpairs alg).verifyText_eq hsignature),
      (checks_bind (hlength alg) hpublic).trans
        (congrArg Except.ok ((hpairs alg).verifies hsignature)), (hpairs alg).short hsignature⟩
  · simp only [signatureOf, hisPss, if_true, halg, Except.toOption, Option.bind_some] at hsignature
    obtain ⟨modulus, exponent, hmodulus, hexponent, hpublic, hpairs⟩ := h.pss hpss
    have haccepts := (hpairs alg).verifyText_eq hsignature
    simp only [verifySingleShot, verifyPrehashed, hisPss, if_true, halg, hmodulus, hexponent,
      publicField_bind]
    exact ⟨(checks_bind hsize hpublic).trans haccepts,
      (checks_bind (hlength alg) hpublic).trans haccepts, (hpairs alg).short hsignature⟩
  · simp only [signatureOf, hisPss, hisEcdsa, Bool.false_eq_true, if_false, if_true,
      hfits hisEcdsa] at hsignature
    obtain ⟨hcurve, point, hpoint, hreads, hpairs⟩ := h.ecdsa hecdsa
    simp only [verifySingleShot_ecdsa hecdsa, verifyPrehashed_ecdsa hecdsa, hpoint, hcurve,
      hfits hisEcdsa, publicField_bind]
    have haccepts := hpairs.verifyText_eq hsignature
    have hpublic := (readOr_eq_ok (e := .keyHandleInvalid)).mpr hreads
    exact ⟨(checks_bind hsize hpublic).trans haccepts,
      (checks_bind (hlength _) hpublic).trans haccepts, hpairs.short hsignature⟩

variable {ecKey point publicKey : Bytes}

/-- The ECDSA half of a hybrid signature, and a signature of `CKM_ECDSA`. -/
theorem ecdsaVerify_of_sign {curve : EcCurve} (hlengths : rest.KeepsDigestLengths)
    (hreads : crates.ecdsaReadsPublic curve point = true)
    (hpairs : (crates.ecdsa curve).Pairs ecKey point)
    (h : crates.ecdsaSign rest.hash curve seed ecKey data = .ok signature) :
    crates.ecdsaVerify rest.hash curve point data signature = .ok true ∧
      signature.length < 2 ^ 16 := by
  have hdata := data_length_of_ecdsaSign h
  rw [ecdsaSign_eq hlengths.digestLengths curve hdata] at h
  obtain ⟨-, -, -, hsignature⟩ := ecdsaSignPrehashed_eq_ok.mp h
  exact ⟨(checks_bind (validateDataSize_eq_ok.mpr hdata) (readOr_eq_ok.mpr hreads)).trans
    (hpairs.verifyText_eq hsignature), hpairs.short hsignature⟩

theorem ed25519Verify_of_sign (hlength : publicKey.length = 32)
    (hreads : crates.ed25519ReadsPublic publicKey = true)
    (hpairs : crates.ed25519.Pairs key publicKey)
    (hsignatures : ∀ seed data signature, crates.ed25519.sign seed key data = some signature →
      signature.length = 64) (h : crates.ed25519Sign seed key data = .ok signature) :
    crates.ed25519Verify publicKey data signature = .ok true ∧ signature.length < 2 ^ 16 := by
  obtain ⟨hsize, hrest⟩ := check_bind_eq_ok.mp h
  have hsignature := Scheme.signText_eq_ok.mp (check_bind_eq_ok.mp hrest).2
  have hsixtyFour := hsignatures _ _ _ hsignature
  refine ⟨(checks_bind hsize (readOr_eq_ok.mpr (decide_eq_true hlength))).trans ?_,
    hpairs.short hsignature⟩
  exact (checks_bind (readOr_eq_ok.mpr hreads) (readOr_eq_ok.mpr (decide_eq_true hsixtyFour))).trans
    (congrArg Except.ok (hpairs.verifies hsignature))

/-- Both halves of a hybrid signature are found again. -/
theorem hybridVerify_of_sign (hlengths : rest.KeepsDigestLengths)
    (hmlReads : crates.mlDsaReadsPublic .mlDsa65 publicKey = true)
    (hmlPairs : (crates.mlDsa .mlDsa65).Pairs key publicKey)
    (hecReads : crates.ecdsaReadsPublic .p256 point = true)
    (hecPairs : (crates.ecdsa .p256).Pairs ecKey point)
    (h : crates.hybridSign rest.hash seed key ecKey data = .ok signature) :
    crates.hybridVerify rest.hash publicKey point data signature = .ok true ∧
      signature.length < 2 ^ 18 := by
  obtain ⟨mlSig, hml, h⟩ := bind_eq_ok_iff.mp h
  obtain ⟨ecSig, hec, h⟩ := bind_eq_ok_iff.mp h
  obtain rfl : beBytes 4 mlSig.length ++ mlSig ++ ecSig = signature := Except.ok.inj h
  obtain ⟨hmlAccepts, hmlShort⟩ : crates.mlDsaVerify publicKey data mlSig .mlDsa65 = .ok true ∧ _ :=
    hmlPairs.accepts hmlReads hml
  obtain ⟨hecAccepts, hecShort⟩ := ecdsaVerify_of_sign hlengths hecReads hecPairs hec
  have hlen : beNat (beBytes 4 mlSig.length) = mlSig.length := beNat_beBytes (by omega)
  have htotal : (beBytes 4 mlSig.length ++ mlSig ++ ecSig).length =
      4 + mlSig.length + ecSig.length := by simp [Nat.add_assoc]
  refine ⟨?_, by omega⟩
  have htake : (beBytes 4 mlSig.length ++ mlSig ++ ecSig).take 4 = beBytes 4 mlSig.length := by
    rw [List.append_assoc, List.take_left' (beBytes_length 4 _)]
  have hdrop : (beBytes 4 mlSig.length ++ mlSig ++ ecSig).drop 4 = mlSig ++ ecSig := by
    rw [List.append_assoc, List.drop_left' (beBytes_length 4 _)]
  have hdrop' : (beBytes 4 mlSig.length ++ mlSig ++ ecSig).drop (4 + mlSig.length) = ecSig := by
    rw [← List.drop_drop, hdrop, List.drop_left]
  unfold hybridVerify
  simp only [htake, hlen, hdrop, hdrop', List.take_left, hmlAccepts, hecAccepts,
    Except.toOption, Option.getD_some, Bool.and_self]
  rw [if_neg (by omega), if_neg (by omega)]

/-- A signature of a mechanism without a built-in hash is accepted. -/
theorem KeyPair.accepts_message (h : crates.KeyPair mechanism obj pub key)
    (hlengths : rest.KeepsDigestLengths) (hsign : isSignMechanism mechanism = true)
    (hdigest : signMechanismToDigestMechanism mechanism = none)
    (hsignature : (rustCrypto crates rest).signSingleShot seed mechanism key data obj =
      .ok signature) :
    (rustCrypto crates rest).verifySingleShot mechanism data signature pub = .ok true ∧
      signature.length < 2 ^ 18 := by
  have hshorter : signature.length < 2 ^ 16 → signature.length < 2 ^ 18 := by omega
  rcases isSignMechanism_cases hsign with hrsa | hpss | hecdsa | rfl | hml | hslh | rfl
  · rw [signSingleShot_rsaPkcs hrsa] at hsignature
    fin_cases hrsa
    · exact nomatch (check_bind_eq_ok.mp (check_bind_eq_ok.mp hsignature).2).2
    all_goals exact nomatch hdigest
  · rw [signSingleShot_pss hpss] at hsignature
    fin_cases hpss
    · exact nomatch hsignature
    all_goals exact nomatch hdigest
  · obtain ⟨hcurve, point, hpoint, hreads, hpairs⟩ := h.ecdsa hecdsa
    rw [verifySingleShot_ecdsa hecdsa, hpoint, hcurve, publicField_bind]
    rw [signSingleShot_ecdsa hecdsa] at hsignature
    split_ifs at hsignature
    exact (ecdsaVerify_of_sign hlengths hreads hpairs hsignature).imp id hshorter
  · obtain ⟨publicKey, hpublic, hlength, hreads, hpairs, hsignatures⟩ := h.ed25519 rfl
    have hdispatch : (rustCrypto crates rest).verifySingleShot ckmEddsa data signature pub =
        (publicField (pub.publicKeyData.or pub.ecPoint) >>= fun publicKey ↦
          crates.ed25519Verify publicKey data signature) := rfl
    rw [hdispatch, hpublic]
    exact (ed25519Verify_of_sign hlength hreads hpairs hsignatures hsignature).imp id hshorter
  · have hdispatch : ∃ variant, mechanismToMlDsaVariant mechanism = some variant ∧
        crates.mlDsaSign seed key data variant = .ok signature ∧
        (rustCrypto crates rest).verifySingleShot mechanism data signature pub =
          (publicField pub.publicKeyData >>= fun publicKey ↦
            crates.mlDsaVerify publicKey data signature variant) := by
      fin_cases hml <;> exact ⟨_, rfl, hsignature, rfl⟩
    obtain ⟨variant, hvariant, hsigned, hverify⟩ := hdispatch
    obtain ⟨publicKey, hpublic, hreads, hpairs⟩ := h.mlDsa variant hvariant
    rw [hverify, hpublic]
    exact (hpairs.accepts hreads hsigned).imp id hshorter
  · have hdispatch : ∃ variant, mechanismToSlhDsaVariant mechanism = some variant ∧
        crates.slhDsaSign seed key data variant = .ok signature ∧
        (rustCrypto crates rest).verifySingleShot mechanism data signature pub =
          (publicField pub.publicKeyData >>= fun publicKey ↦
            crates.slhDsaVerify publicKey data signature variant) := by
      fin_cases hslh <;> exact ⟨_, rfl, hsignature, rfl⟩
    obtain ⟨variant, hvariant, hsigned, hverify⟩ := hdispatch
    obtain ⟨publicKey, hpublic, hreads, hpairs⟩ := h.slhDsa variant hvariant
    rw [hverify, hpublic]
    exact (hpairs.accepts hreads hsigned).imp id hshorter
  · obtain ⟨publicKey, hpublic, hmlReads, hmlPairs, hecReads, hecPairs⟩ := h.hybrid rfl
    have hdispatch : (rustCrypto crates rest).verifySingleShot ckmHybridMlDsaEcdsa data signature
        pub = (publicField pub.publicKeyData >>= fun publicKey ↦
          crates.hybridVerify rest.hash publicKey (hybridEcdsaKey pub) data signature) := rfl
    rw [hdispatch, hpublic]
    exact hybridVerify_of_sign hlengths hmlReads hmlPairs hecReads hecPairs hsignature

end SignatureCrates

end Acceptance

end CratonHsm.Crypto
