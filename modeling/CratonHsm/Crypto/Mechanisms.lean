import CratonHsm.Pkcs11
import Mathlib.Tactic.FinCases

/-!
# Mechanisms

The mechanism codes of `pkcs11_abi/constants.rs`, the tables of `crypto/mechanisms.rs`,
`crypto/sign.rs` and `crypto/pqc.rs` that say what a mechanism can be used for, and the two policy
checks of the entry points: `validate_mechanism_for_policy` and `approved_services::enforce`.

Scope. Codes that no modelled function compares with are left out. The two tables of approved
mechanisms are kept apart, since they differ.
-/

set_option autoImplicit false

namespace CratonHsm

/-! ### Codes -/

def ckmRsaPkcsKeyPairGen : Nat := 0x0000
def ckmRsaPkcs : Nat := 0x0001
def ckmSha1RsaPkcs : Nat := 0x0006
def ckmRsaPkcsOaep : Nat := 0x0009
def ckmRsaPkcsPss : Nat := 0x000D
def ckmSha256RsaPkcs : Nat := 0x0040
def ckmSha384RsaPkcs : Nat := 0x0041
def ckmSha512RsaPkcs : Nat := 0x0042
def ckmSha256RsaPkcsPss : Nat := 0x0043
def ckmSha384RsaPkcsPss : Nat := 0x0044
def ckmSha512RsaPkcsPss : Nat := 0x0045
def ckmSha1 : Nat := 0x0220
def ckmSha256 : Nat := 0x0250
def ckmSha384 : Nat := 0x0260
def ckmSha512 : Nat := 0x0270
def ckmSha3x256 : Nat := 0x02B0
def ckmSha3x384 : Nat := 0x02C0
def ckmSha3x512 : Nat := 0x02D0
def ckmEcKeyPairGen : Nat := 0x1040
def ckmEcdsa : Nat := 0x1041
def ckmEcdsaSha256 : Nat := 0x1044
def ckmEcdsaSha384 : Nat := 0x1045
def ckmEcdsaSha512 : Nat := 0x1046
def ckmEcdh1Derive : Nat := 0x1050
def ckmEcdh1CofactorDerive : Nat := 0x1051
def ckmEddsa : Nat := 0x1057
def ckmAesKeyGen : Nat := 0x1080
def ckmAesCbc : Nat := 0x1082
def ckmAesCbcPad : Nat := 0x1085
def ckmAesCtr : Nat := 0x1086
def ckmAesGcm : Nat := 0x1087
def ckmAesKeyWrap : Nat := 0x2109
def ckmAesKeyWrapKwp : Nat := 0x210B
def ckmMlKem512 : Nat := 0x80000001
def ckmMlKem768 : Nat := 0x80000002
def ckmMlKem1024 : Nat := 0x80000003
def ckmMlDsa44 : Nat := 0x80000010
def ckmMlDsa65 : Nat := 0x80000011
def ckmMlDsa87 : Nat := 0x80000012
def ckmSlhDsaSha2x128s : Nat := 0x80000020
def ckmSlhDsaSha2x256s : Nat := 0x80000021
def ckmHybridMlDsaEcdsa : Nat := 0x80000030
def ckmHybridX25519MlKem768 : Nat := 0x80000040
def ckmHybridX25519MlKem1024 : Nat := 0x80000041

/-! ### What a mechanism is for -/

/-- The RSA signature mechanisms with PKCS#1 v1.5 padding. -/
def rsaPkcsMechanisms : List Nat :=
  [ckmRsaPkcs, ckmSha256RsaPkcs, ckmSha384RsaPkcs, ckmSha512RsaPkcs]

/-- The RSA signature mechanisms with PSS padding. -/
def pssMechanisms : List Nat :=
  [ckmRsaPkcsPss, ckmSha256RsaPkcsPss, ckmSha384RsaPkcsPss, ckmSha512RsaPkcsPss]

/-- The ECDSA mechanisms. -/
def ecdsaMechanisms : List Nat := [ckmEcdsa, ckmEcdsaSha256, ckmEcdsaSha384, ckmEcdsaSha512]

/-- The ML-KEM mechanisms. -/
def mlKemMechanisms : List Nat := [ckmMlKem512, ckmMlKem768, ckmMlKem1024]

/-- The ML-DSA mechanisms. -/
def mlDsaMechanisms : List Nat := [ckmMlDsa44, ckmMlDsa65, ckmMlDsa87]

/-- The SLH-DSA mechanisms. -/
def slhDsaMechanisms : List Nat := [ckmSlhDsaSha2x128s, ckmSlhDsaSha2x256s]

/-- The SHA-2 and SHA-3 digests. -/
def shaMechanisms : List Nat :=
  [ckmSha256, ckmSha384, ckmSha512, ckmSha3x256, ckmSha3x384, ckmSha3x512]

variable (mechanism : Nat)

/-- `is_pss_mechanism`. -/
def isPssMechanism : Bool := mechanism ∈ pssMechanisms

/-- `is_ecdsa_mechanism`. -/
def isEcdsaMechanism : Bool := mechanism ∈ ecdsaMechanisms

/-- `is_eddsa_mechanism`. -/
def isEddsaMechanism : Bool := mechanism = ckmEddsa

/-- `is_ml_kem_mechanism` and `is_kem_mechanism`. -/
def isMlKemMechanism : Bool := mechanism ∈ mlKemMechanisms

/-- `is_slh_dsa_mechanism`. -/
def isSlhDsaMechanism : Bool := mechanism ∈ slhDsaMechanisms

/-- `is_hybrid_mechanism`. -/
def isHybridMechanism : Bool := mechanism = ckmHybridMlDsaEcdsa

/-- `is_sign_mechanism`. -/
def isSignMechanism : Bool :=
  mechanism ∈ rsaPkcsMechanisms ++ pssMechanisms ++ ecdsaMechanisms ++ [ckmEddsa] ++
    mlDsaMechanisms ++ slhDsaMechanisms ++ [ckmHybridMlDsaEcdsa]

/-- `is_encrypt_mechanism`. -/
def isEncryptMechanism : Bool :=
  mechanism ∈ [ckmAesGcm, ckmAesCbc, ckmAesCbcPad, ckmAesCtr, ckmRsaPkcsOaep]

/-- `encrypt_mechanism_supports_multipart`. -/
def encryptMechanismSupportsMultipart : Bool :=
  mechanism ∈ [ckmAesCbc, ckmAesCbcPad, ckmAesCtr]

/-- `is_keypair_gen_mechanism`. -/
def isKeypairGenMechanism : Bool :=
  mechanism ∈ [ckmRsaPkcsKeyPairGen, ckmEcKeyPairGen, ckmEddsa] ++ mlKemMechanisms ++
    mlDsaMechanisms ++ slhDsaMechanisms

/-- `is_digest_mechanism`. -/
def isDigestMechanism : Bool := mechanism ∈ ckmSha1 :: shaMechanisms

/-- `is_wrap_mechanism`. -/
def isWrapMechanism : Bool := mechanism ∈ [ckmAesKeyWrap, ckmAesKeyWrapKwp]

/-- `is_derive_mechanism`. -/
def isDeriveMechanism : Bool :=
  mechanism ∈ [ckmEcdh1Derive, ckmEcdh1CofactorDerive]

/-- `sign_mechanism_to_digest_mechanism`: the built-in hash of a signature mechanism. -/
def signMechanismToDigestMechanism : Option Nat :=
  if mechanism ∈ [ckmSha256RsaPkcs, ckmSha256RsaPkcsPss, ckmEcdsaSha256] then some ckmSha256
  else if mechanism ∈ [ckmSha384RsaPkcs, ckmSha384RsaPkcsPss, ckmEcdsaSha384] then some ckmSha384
  else if mechanism ∈ [ckmSha512RsaPkcs, ckmSha512RsaPkcsPss, ckmEcdsaSha512] then some ckmSha512
  else none

/-- `sign_mechanism_supports_multipart`. -/
def signMechanismSupportsMultipart : Bool :=
  mechanism ∈ [ckmSha256RsaPkcs, ckmSha384RsaPkcs, ckmSha512RsaPkcs, ckmSha256RsaPkcsPss,
    ckmSha384RsaPkcsPss, ckmSha512RsaPkcsPss, ckmEcdsaSha256, ckmEcdsaSha384, ckmEcdsaSha512]

/-! ### Policy -/

/-- The fields of `AlgorithmConfig` that the entry points read. -/
structure AlgorithmConfig where
  fipsApprovedOnly : Bool
  enablePqc : Bool
  allowSha1Signing : Bool

/-- `is_fips_approved` of `mechanisms.rs`. -/
def isFipsApproved : Bool :=
  mechanism ∈ [ckmRsaPkcsKeyPairGen, ckmRsaPkcsOaep, ckmEcKeyPairGen, ckmEcdh1Derive,
    ckmEcdh1CofactorDerive, ckmAesKeyGen, ckmAesGcm, ckmAesCbc, ckmAesCbcPad, ckmAesCtr,
    ckmAesKeyWrap, ckmAesKeyWrapKwp] ++ rsaPkcsMechanisms ++ pssMechanisms ++ ecdsaMechanisms ++
    shaMechanisms

/-- `is_pqc_mechanism`. -/
def isPqcMechanism : Bool :=
  mechanism ∈ mlKemMechanisms ++ mlDsaMechanisms ++ slhDsaMechanisms ++ [ckmHybridMlDsaEcdsa]

/-- `validate_mechanism_for_policy`. -/
def validateMechanismForPolicy (config : AlgorithmConfig) (signing : Bool) : Except CkRv Unit :=
  if config.fipsApprovedOnly && !isFipsApproved mechanism then .error .mechanismInvalid
  else if !config.enablePqc && isPqcMechanism mechanism then .error .mechanismInvalid
  else if mechanism = ckmSha1 &&
      (config.fipsApprovedOnly || (!config.allowSha1Signing && signing)) then
    .error .mechanismInvalid
  else .ok ()

/-- `ApprovalStatus`. -/
inductive ApprovalStatus where
  | approved
  | nonApproved
  | unknown
  deriving DecidableEq

/-- `approval_status`. -/
def approvalStatus : ApprovalStatus :=
  if mechanism ∈ [ckmRsaPkcsOaep, ckmRsaPkcsKeyPairGen, ckmEcKeyPairGen, ckmAesGcm, ckmAesCbc,
      ckmAesCbcPad, ckmAesCtr, ckmAesKeyGen, ckmAesKeyWrap, ckmAesKeyWrapKwp, ckmEcdh1Derive] ++
      shaMechanisms ++ rsaPkcsMechanisms ++ pssMechanisms ++ ecdsaMechanisms ++ mlKemMechanisms ++
      mlDsaMechanisms ++ slhDsaMechanisms then .approved
  else if mechanism ∈ [ckmSha1, ckmEddsa, ckmHybridMlDsaEcdsa, ckmHybridX25519MlKem768,
      ckmHybridX25519MlKem1024] then .nonApproved
  else .unknown

/-- `approved_services::enforce`: in approved mode, only approved mechanisms, and RSA keys of at
least 2048 bits. -/
def enforce (config : AlgorithmConfig) (keySizeBits : Option Nat) : HsmResult Unit :=
  if !config.fipsApprovedOnly then .ok ()
  else if approvalStatus mechanism ≠ .approved then .error .mechanismInvalid
  else if (keySizeBits.any (· < 2048)) && mechanism ∈ rsaPkcsMechanisms ++ pssMechanisms ++
      [ckmRsaPkcsOaep, ckmRsaPkcsKeyPairGen] then .error .keySizeRange
  else .ok ()

end CratonHsm
