import CratonHsm.Abi.KeyPairs
import CratonHsm.Abi.SigningWays

/-!
# The curve that EC parameters name

`CKA_EC_PARAMS` should be the object identifier of a named curve. Key generation, the four functions
that sign and verify, and the derivation of a key all take the curve from one test on these bytes:
P-384 if its identifier occurs somewhere in them, P-256 otherwise. They therefore agree with each
other on every byte string (`operatesOn_curveOfParams`), and they agree with what the bytes name
exactly where the bytes are one of the two identifiers (`named_curve_used_iff`): nothing is ever
refused, so another curve, a malformed identifier and an identifier inside a longer string are taken
for P-256 or P-384.

Scope. An object holds the bytes that its creator gave it; neither `C_CreateObject` nor a key
generation looks at them otherwise.
-/

set_option autoImplicit false

namespace CratonHsm

open Crypto Library Store
open CryptoBackend

/-! ### Names of curves -/

/-- The object identifier of secp256r1. -/
def p256Oid : Bytes := [0x06, 0x08, 0x2A, 0x86, 0x48, 0xCE, 0x3D, 0x03, 0x01, 0x07]

/-- The supported curve whose object identifier the bytes are. -/
def namedCurve (ecParams : Bytes) : Option EcCurve :=
  if ecParams = p256Oid then some .p256 else if ecParams = p384Oid then some .p384 else none

theorem curveOfParams_of_named {ecParams : Bytes} {curve : EcCurve}
    (h : namedCurve ecParams = some curve) : curveOfParams ecParams = curve := by
  unfold namedCurve at h
  split_ifs at h with hp256 hp384
  · obtain rfl := Option.some.inj h
    rw [hp256]
    decide
  · obtain rfl := Option.some.inj h
    rw [hp384]
    decide

/-! ### What the operations do with the bytes -/

section Operations

variable (platform : Platform) (ecParams : Bytes)

/-- The template of a public key gives the bytes as `CKA_EC_PARAMS`. -/
def GivesParams (pubTemplate : Template) : Prop :=
  pubTemplate.find? (·.1 = ckaEcParams) = some (ckaEcParams, ecParams)

/-- The generation of a key pair on a curve. -/
def generateEcKeypairOn (env : CallEnv) (curve : EcCurve) : Template → Template → Entry :=
  generateKeypair platform env fun _ ↦ ecPair platform env ecParams curve

/-- Every operation on keys with these parameters is the one of the curve. -/
structure OperatesOn (curve : EcCurve) : Prop where
  generate : ∀ (env : CallEnv) (pubTemplate privTemplate : Template),
    GivesParams ecParams pubTemplate → generateEcKeypair platform env pubTemplate privTemplate =
      generateEcKeypairOn platform ecParams env curve pubTemplate privTemplate
  sign : ∀ (seed mechanism : Nat) (key data : Bytes) (obj : StoredObject),
    mechanism ∈ ecdsaMechanisms → obj.ecParams = some ecParams → obj.keyType = some ckkEc →
      platform.backend.signSingleShot seed mechanism key data obj =
        platform.backend.ecdsaSign curve seed key data
  signPrehashed : ∀ (seed mechanism : Nat) (key digest : Bytes) (obj : StoredObject),
    mechanism ∈ ecdsaMechanisms → obj.ecParams = some ecParams → obj.keyType = some ckkEc →
      platform.backend.signPrehashed seed mechanism key digest obj =
        platform.backend.ecdsaSignPrehashed curve seed key digest
  verify : ∀ (mechanism : Nat) (point data signature : Bytes) (obj : StoredObject),
    mechanism ∈ ecdsaMechanisms → obj.ecParams = some ecParams → obj.ecPoint = some point →
      platform.backend.verifySingleShot mechanism data signature obj =
        platform.backend.ecdsaVerify curve point data signature
  verifyPrehashed : ∀ (mechanism : Nat) (point digest signature : Bytes) (obj : StoredObject),
    mechanism ∈ ecdsaMechanisms → obj.ecParams = some ecParams → obj.ecPoint = some point →
      platform.backend.verifyPrehashed mechanism digest signature obj =
        platform.backend.ecdsaVerifyPrehashed curve point digest signature
  derive : ∀ (mechanism : Nat) (key peer : Bytes) (requestedLen : Option Nat) (base : StoredObject),
    mechanismToMlKemVariant mechanism = none → base.ecParams = some ecParams →
      deriveSecret platform.backend mechanism base key peer requestedLen =
        platform.backend.ecdh curve key peer requestedLen

/-- Every operation on keys with these parameters is an error. -/
structure RefusesParams : Prop where
  generate : ∀ (env : CallEnv) (pubTemplate privTemplate : Template) (s : Hsm),
    GivesParams ecParams pubTemplate →
      ∃ e, (generateEcKeypair platform env pubTemplate privTemplate s).1 = .error e
  sign : ∀ (seed mechanism : Nat) (key data : Bytes) (obj : StoredObject),
    mechanism ∈ ecdsaMechanisms → obj.ecParams = some ecParams →
      ∃ e, platform.backend.signSingleShot seed mechanism key data obj = .error e
  signPrehashed : ∀ (seed mechanism : Nat) (key digest : Bytes) (obj : StoredObject),
    mechanism ∈ ecdsaMechanisms → obj.ecParams = some ecParams →
      ∃ e, platform.backend.signPrehashed seed mechanism key digest obj = .error e
  verify : ∀ (mechanism : Nat) (data signature : Bytes) (obj : StoredObject),
    mechanism ∈ ecdsaMechanisms → obj.ecParams = some ecParams →
      ∃ e, platform.backend.verifySingleShot mechanism data signature obj = .error e
  verifyPrehashed : ∀ (mechanism : Nat) (digest signature : Bytes) (obj : StoredObject),
    mechanism ∈ ecdsaMechanisms → obj.ecParams = some ecParams →
      ∃ e, platform.backend.verifyPrehashed mechanism digest signature obj = .error e
  derive : ∀ (mechanism : Nat) (key peer : Bytes) (requestedLen : Option Nat) (base : StoredObject),
    mechanismToMlKemVariant mechanism = none → base.ecParams = some ecParams →
      ∃ e, deriveSecret platform.backend mechanism base key peer requestedLen = .error e

/-- All operations choose one curve; it is the one that the bytes name, and bytes that name none are
refused. -/
def NamedCurveUsed : Prop :=
  (∃ curve, OperatesOn platform ecParams curve) ∧
    match namedCurve ecParams with
    | some curve => OperatesOn platform ecParams curve
    | none => RefusesParams platform ecParams

variable {platform ecParams}

theorem not_pss_of_ecdsa {mechanism : Nat} (h : mechanism ∈ ecdsaMechanisms) :
    isPssMechanism mechanism = false := by
  revert mechanism
  decide

theorem isEcdsaMechanism_of_mem {mechanism : Nat} (h : mechanism ∈ ecdsaMechanisms) :
    isEcdsaMechanism mechanism = true := decide_eq_true h

theorem curveOf_eq {obj : StoredObject} (h : obj.ecParams = some ecParams) :
    curveOf obj = curveOfParams ecParams := by
  rw [curveOf, h, Option.getD_some]

/-- The operations agree on the curve, whatever the bytes. -/
theorem operatesOn_curveOfParams (platform : Platform) (ecParams : Bytes) :
    OperatesOn platform ecParams (curveOfParams ecParams) where
  generate env pubTemplate privTemplate h := by
    have hparams : ecParamsOf pubTemplate = ecParams := by
      rw [ecParamsOf, h, Option.map_some, Option.getD_some]
    rw [generateEcKeypair, hparams]
    rfl
  sign seed mechanism key data obj h hparams htype := by
    simp [signSingleShot, not_pss_of_ecdsa h, isEcdsaMechanism_of_mem h, htype,
      curveOf_eq hparams]
  signPrehashed seed mechanism key digest obj h hparams htype := by
    simp [signPrehashed, not_pss_of_ecdsa h, isEcdsaMechanism_of_mem h, htype,
      curveOf_eq hparams]
  verify mechanism point data signature obj h hparams hpoint := by
    simp [verifySingleShot, not_pss_of_ecdsa h, isEcdsaMechanism_of_mem h, hpoint,
      curveOf_eq hparams, publicField]
    rfl
  verifyPrehashed mechanism point digest signature obj h hparams hpoint := by
    simp [verifyPrehashed, not_pss_of_ecdsa h, isEcdsaMechanism_of_mem h, hpoint,
      curveOf_eq hparams, publicField]
    rfl
  derive mechanism key peer requestedLen base hmechanism hparams := by
    rw [deriveSecret, hmechanism, curveOf_eq hparams]

/-- The back end checks some signature on either curve. -/
def Crypto.CryptoBackend.VerifiesSome (backend : CryptoBackend) : Prop :=
  ∀ curve, ∃ point data signature valid,
    backend.ecdsaVerify curve point data signature = .ok valid

/-- A back end that works on both curves refuses no parameters. -/
theorem not_refusesParams (hverifies : platform.backend.VerifiesSome) :
    ¬RefusesParams platform ecParams := by
  intro hrefuses
  obtain ⟨point, data, signature, valid, hvalid⟩ := hverifies (curveOfParams ecParams)
  -- a public key with these parameters
  let obj : StoredObject := { StoredObject.new 0 0 ckoPublicKey with
    ecParams := some ecParams
    ecPoint := some point }
  obtain ⟨e, he⟩ := hrefuses.verify ckmEcdsa data signature obj (by decide) rfl
  rw [(operatesOn_curveOfParams platform ecParams).verify ckmEcdsa point data signature obj
    (by decide) rfl rfl, hvalid] at he
  cases he

/-- The operations use the curve that the bytes name exactly where the bytes are the object
identifier of P-256 or of P-384. -/
theorem named_curve_used_iff (platform : Platform) (hverifies : platform.backend.VerifiesSome)
    (ecParams : Bytes) :
    NamedCurveUsed platform ecParams ↔ ecParams = p256Oid ∨ ecParams = p384Oid := by
  have hcurve : (∃ curve, namedCurve ecParams = some curve) ↔
      ecParams = p256Oid ∨ ecParams = p384Oid := by
    unfold namedCurve
    split_ifs with hp256 hp384 <;> simp [*]
  rw [← hcurve]
  constructor
  · rintro ⟨-, hused⟩
    cases hnamed : namedCurve ecParams with
    | some curve => exact ⟨curve, rfl⟩
    | none =>
      rw [hnamed] at hused
      exact absurd hused (not_refusesParams hverifies)
  · rintro ⟨curve, hnamed⟩
    have hoperates := operatesOn_curveOfParams platform ecParams
    refine ⟨⟨_, hoperates⟩, ?_⟩
    rw [hnamed]
    rwa [curveOfParams_of_named hnamed] at hoperates

end Operations

/-! ### A key on a curve of another name -/

/-- The schemes of a signing key check signatures on both curves. -/
theorem p256Schemes_verifiesSome :
    (shaPlatform.rustCrypto p256Schemes).backend.VerifiesSome := by
  intro curve
  exact ⟨[], [], [], _, rfl⟩

/-- The identifier of P-256 is used as P-256. -/
theorem p256_named : NamedCurveUsed (shaPlatform.rustCrypto p256Schemes) p256Oid :=
  (named_curve_used_iff _ p256Schemes_verifiesSome _).mpr (Or.inl rfl)

/-- The object identifier of secp256k1, which is not supported. -/
def secp256k1Oid : Bytes := [0x06, 0x05, 0x2B, 0x81, 0x04, 0x00, 0x0A]

/-- The library of a logged-in user with a private key on secp256k1. -/
def secp256k1Library : Hsm :=
  (cCreateObject shaPlatform.crates shaPlatform.codec (callEnvAt 5) firstSession
    [(ckaClass, ckUlongToBytes ckoPrivateKey), (ckaKeyType, ckUlongToBytes ckkEc), (ckaSign, [1]),
      (ckaEcParams, secp256k1Oid), (ckaValue, List.replicate 32 7)] (userLibrary false)).2

/-- The key signs on P-256. -/
theorem secp256k1_key_signs_on_p256 :
    namedCurve secp256k1Oid = none ∧
      (secp256k1Library.objectStore.objects.get? firstObject).map StoredObject.ecParams =
        some (some secp256k1Oid) ∧
      (cSignInit (callEnvAt 6) firstSession ckmEcdsaSha256 firstObject secp256k1Library).1 =
        .ok .done ∧
      (cSign (shaPlatform.rustCrypto p256Schemes) (callEnvAt 7) firstSession [1, 2, 3] (some 72)
        (cSignInit (callEnvAt 6) firstSession ckmEcdsaSha256 firstObject secp256k1Library).2).1 =
          .ok (.bytes p256Signature) ∧
      ¬NamedCurveUsed (shaPlatform.rustCrypto p256Schemes) secp256k1Oid := by
  refine ⟨by decide, by decide +kernel, by decide +kernel, by decide +kernel, fun hused ↦ ?_⟩
  exact not_refusesParams p256Schemes_verifiesSome hused.2

end CratonHsm
