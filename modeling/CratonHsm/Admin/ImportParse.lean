import CratonHsm.Pkcs11
import CratonHsm.Crypto.Derive
import CratonHsm.Library.Program
import Mathlib.Data.Nat.Digits.Lemmas
import Mathlib.Data.Nat.Size

/-!
# Key files of the administration tool

`commands/import_parse.rs` of the administration tool. A key file in PEM or DER is parsed to a
`ParsedKey`, whose class is that of the structure found in the file, and the parsed key is turned
into an attribute template for `create_object`. `parse_der` tries the structures in order; it does
not try the SEC1 structure, which is read only under its PEM label and inside PKCS#8.

Scope. The ASN.1 and key crates are the functions of `KeyParsers`, with their errors as texts; a big
integer of theirs is a natural number. The summary and the class check of the command line are left
out.
-/

set_option autoImplicit false

namespace CratonHsm.Admin

open Library
open Crypto.Derive (p256Oid p384Oid)

/-! ### What the crates read -/

/-- `ObjectIdentifier`, by its arcs. -/
abbrev ObjectIdentifier := List Nat

/-- The text of an object identifier. -/
def oidText (oid : ObjectIdentifier) : String := ".".intercalate (oid.map toString)

/-- `OID_RSA_ENCRYPTION`. -/
def oidRsaEncryption : ObjectIdentifier := [1, 2, 840, 113549, 1, 1, 1]

/-- `OID_EC_PUBLIC_KEY`. -/
def oidEcPublicKey : ObjectIdentifier := [1, 2, 840, 10045, 2, 1]

/-- `OID_P256`. -/
def oidP256 : ObjectIdentifier := [1, 2, 840, 10045, 3, 1, 7]

/-- `OID_P384`. -/
def oidP384 : ObjectIdentifier := [1, 3, 132, 0, 34]

/-- `AlgorithmIdentifierRef`, with the parameters as their encoding. -/
structure AlgorithmIdentifier where
  oid : ObjectIdentifier
  parameters : Option Bytes

/-- `PrivateKeyInfo` of PKCS#8. -/
structure PrivateKeyInfo where
  algorithm : AlgorithmIdentifier
  privateKey : Bytes

/-- `SubjectPublicKeyInfoRef`. The key is absent when its bits do not end at a byte. -/
structure SubjectPublicKeyInfo where
  algorithm : AlgorithmIdentifier
  subjectPublicKey : Option Bytes

/-- `rsa::RsaPrivateKey`. -/
structure RsaPrivateKey where
  n : Nat
  e : Nat
  d : Nat
  primes : List Nat
  dp : Option Nat
  dq : Option Nat
  crtCoefficient : Option Nat

/-- `rsa::RsaPublicKey`. -/
structure RsaPublicKey where
  n : Nat
  e : Nat

/-- `sec1::EcPrivateKey`. Its parameters name a curve, or do not. -/
structure EcPrivateKey where
  privateKey : Bytes
  parameters : Option (Option ObjectIdentifier)
  publicKey : Option Bytes

/-- The parsers of the crates. A decoded PKCS#1 structure is given by the bytes that it borrows. -/
structure KeyParsers where
  decodePem : Bytes → Except String (String × Bytes)
  privateKeyInfo : Bytes → Except String PrivateKeyInfo
  subjectPublicKeyInfo : Bytes → Except String SubjectPublicKeyInfo
  decodeOid : Bytes → Except String ObjectIdentifier
  pkcs1PrivateKey : Bytes → Except String Bytes
  pkcs1PublicKey : Bytes → Except String Bytes
  pkcs1ToDer : Bytes → Except String Bytes
  rsaPrivateKey : Bytes → Except String RsaPrivateKey
  validate : RsaPrivateKey → Except String Unit
  rsaPublicKey : Bytes → Except String RsaPublicKey
  ecPrivateKey : Bytes → Except String EcPrivateKey

/-- `to_bytes_be`: no leading zero bytes, and one byte for zero. -/
def toBytesBe (n : Nat) : Bytes := beBytes (n.log2 / 8 + 1) n

/-! ### Parsed keys -/

/-- `Curve`. -/
inductive Curve where
  | p256
  | p384
  deriving DecidableEq

namespace Curve

/-- `from_oid`. -/
def fromOid (oid : ObjectIdentifier) : Option Curve :=
  if oid = oidP256 then some .p256 else if oid = oidP384 then some .p384 else none

/-- `name`. -/
def name : Curve → String
  | p256 => "P-256"
  | p384 => "P-384"

/-- `uncompressed_point_len`. -/
def uncompressedPointLen : Curve → Nat
  | p256 => 1 + 2 * 32
  | p384 => 1 + 2 * 48

/-- `ec_params_der`: the encoding of the curve's object identifier. -/
def ecParamsDer : Curve → Bytes
  | p256 => p256Oid
  | p384 => p384Oid

end Curve

/-- `ParsedRsaPrivate`. -/
structure ParsedRsaPrivate where
  modulus : Bytes
  publicExponent : Bytes
  privateExponent : Bytes
  prime1 : Bytes
  prime2 : Bytes
  exponent1 : Bytes
  exponent2 : Bytes
  coefficient : Bytes
  deriving DecidableEq

/-- `ParsedRsaPublic`. -/
structure ParsedRsaPublic where
  modulus : Bytes
  publicExponent : Bytes
  deriving DecidableEq

/-- `ParsedEcPrivate`. -/
structure ParsedEcPrivate where
  curve : Curve
  privateScalar : Bytes
  publicPoint : Option Bytes
  deriving DecidableEq

/-- `ParsedEcPublic`. -/
structure ParsedEcPublic where
  curve : Curve
  publicPoint : Bytes
  deriving DecidableEq

/-- `ParsedKey`. -/
inductive ParsedKey where
  | rsaPrivate (key : ParsedRsaPrivate)
  | rsaPublic (key : ParsedRsaPublic)
  | ecPrivate (key : ParsedEcPrivate)
  | ecPublic (key : ParsedEcPublic)
  deriving DecidableEq

/-- `ParseError`. -/
abbrev ParseError := String

/-! ### Templates -/

/-- `encode_der_length`. -/
def encodeDerLength (len : Nat) : Bytes :=
  if len < 0x80 then [UInt8.ofNat len]
  else
    let digits := ((Nat.digits 256 len).map UInt8.ofNat).reverse
    (0x80 ||| UInt8.ofNat digits.length) :: digits

/-- `wrap_octet_string`. -/
def wrapOctetString (inner : Bytes) : Bytes := 0x04 :: encodeDerLength inner.length ++ inner

/-- `into_template`. A public key is to be readable and not sensitive; no template gives a usage. -/
def ParsedKey.intoTemplate (label : Bytes) : ParsedKey → List (Nat × Bytes)
  | .rsaPrivate p =>
    [(ckaClass, ckUlongToBytes ckoPrivateKey), (ckaKeyType, ckUlongToBytes ckkRsa),
      (ckaLabel, label), (ckaToken, [1]), (ckaPrivate, [1]), (ckaSensitive, [1]),
      (ckaExtractable, [0]), (ckaModulus, p.modulus), (ckaPublicExponent, p.publicExponent),
      (ckaPrivateExponent, p.privateExponent), (ckaPrime1, p.prime1), (ckaPrime2, p.prime2),
      (ckaExponent1, p.exponent1), (ckaExponent2, p.exponent2), (ckaCoefficient, p.coefficient)]
  | .rsaPublic p =>
    [(ckaClass, ckUlongToBytes ckoPublicKey), (ckaKeyType, ckUlongToBytes ckkRsa),
      (ckaLabel, label), (ckaToken, [1]), (ckaPrivate, [0]), (ckaSensitive, [0]),
      (ckaModulus, p.modulus), (ckaPublicExponent, p.publicExponent)]
  | .ecPrivate p =>
    [(ckaClass, ckUlongToBytes ckoPrivateKey), (ckaKeyType, ckUlongToBytes ckkEc),
      (ckaLabel, label), (ckaToken, [1]), (ckaPrivate, [1]), (ckaSensitive, [1]),
      (ckaExtractable, [0]), (ckaEcParams, p.curve.ecParamsDer), (ckaValue, p.privateScalar)] ++
      (p.publicPoint.map fun point ↦ (ckaEcPoint, wrapOctetString point)).toList
  | .ecPublic p =>
    [(ckaClass, ckUlongToBytes ckoPublicKey), (ckaKeyType, ckUlongToBytes ckkEc),
      (ckaLabel, label), (ckaToken, [1]), (ckaPrivate, [0]), (ckaSensitive, [0]),
      (ckaEcParams, p.curve.ecParamsDer), (ckaEcPoint, wrapOctetString p.publicPoint)]

/-! ### Parsing -/

/-- `validate_ec_point`. -/
def validateEcPoint (curve : Curve) (point : Bytes) : Except ParseError Unit :=
  match point with
  | [] => .error "EC point is empty"
  | first :: _ =>
    let digits := String.ofList (Nat.toDigits 16 first.toNat)
    let found := point.length
    let field := curve.name
    let expected := curve.uncompressedPointLen
    if first ≠ 0x04 then
      .error s!"EC point must be uncompressed (0x04 prefix); got 0x{digits}"
    else if point.length ≠ expected then
      .error s!"EC point length {found} does not match {field} field size ({expected} expected)"
    else .ok ()

section Parsers

variable (parsers : KeyParsers)

/-- `pkcs8_ec_curve`, which reads the algorithm of public keys as well. -/
def pkcs8EcCurve (algorithm : AlgorithmIdentifier) : Except ParseError Curve := do
  let some params := algorithm.parameters | .error "EC PKCS#8 missing curve parameters"
  let oid ← (parsers.decodeOid params).mapError fun e ↦
    s!"EC curve parameters are not an OID: {e}"
  let text := oidText oid
  let some curve := Curve.fromOid oid |
    .error s!"unsupported EC named curve OID {text} (supported: P-256, P-384)"
  return curve

/-- The curve of a SEC1 structure: the one that is known from around it, or else the one it
names. -/
def sec1Curve (pk : EcPrivateKey) : Option Curve → Except ParseError Curve
  | some curve => .ok curve
  | none =>
    match pk.parameters with
    | none => .error "EC PRIVATE KEY missing named-curve parameters"
    | some none => .error "EC PRIVATE KEY parameters are not a named curve"
    | some (some oid) =>
      let text := oidText oid
      match Curve.fromOid oid with
      | some curve => .ok curve
      | none => .error s!"unsupported EC named curve OID {text} (supported: P-256, P-384)"

/-- `parse_sec1_ec_private`. The scalar is padded to the length of a field element. -/
def parseSec1EcPrivate (der : Bytes) (knownCurve : Option Curve) : Except ParseError ParsedKey := do
  let pk ← (parsers.ecPrivateKey der).mapError fun e ↦ s!"SEC1 EcPrivateKey decode failed: {e}"
  let curve ← sec1Curve pk knownCurve
  let scalarLen := curve.uncompressedPointLen / 2
  let found := pk.privateKey.length
  if found > scalarLen then
    .error s!"EC private scalar length {found} exceeds field size {scalarLen}"
  else
    let padded := List.replicate (scalarLen - found) 0 ++ pk.privateKey
    match pk.publicKey with
    | some point => do
      validateEcPoint curve point
      return .ecPrivate ⟨curve, padded, some point⟩
    | none => return .ecPrivate ⟨curve, padded, none⟩

/-- `compute_d_mod_pm1`. -/
def computeDModPm1 (key : RsaPrivateKey) (primeIdx : Nat) : Except ParseError Bytes :=
  match key.primes[primeIdx]? with
  | some p => .ok (toBytesBe (key.d % (p - 1)))
  | none => .error "missing prime for CRT exponent"

/-- A CRT exponent: the crate's, or else computed. -/
def crtExponent (key : RsaPrivateKey) (exponent : Option Nat) (primeIdx : Nat) :
    Except ParseError Bytes :=
  match exponent with
  | some value => .ok (toBytesBe value)
  | none => computeDModPm1 key primeIdx

/-- `parsed_rsa_private_from_pkcs1`. The key is read once more, to have it validated. -/
def parsedRsaPrivateFromPkcs1 (pk1 : Bytes) : Except ParseError ParsedKey := do
  let der ← (parsers.pkcs1ToDer pk1).mapError fun e ↦ s!"RSA reserialize failed: {e}"
  let key ← (parsers.rsaPrivateKey der).mapError fun e ↦ s!"RSA key validation failed: {e}"
  (parsers.validate key).mapError fun e ↦ s!"RSA key inconsistent: {e}"
  match key.primes with
  | p :: q :: _ =>
    let dp ← crtExponent key key.dp 0
    let dq ← crtExponent key key.dq 1
    let some qinv := key.crtCoefficient | .error "could not compute CRT coefficient q^-1 mod p"
    return .rsaPrivate
      { modulus := toBytesBe key.n
        publicExponent := toBytesBe key.e
        privateExponent := toBytesBe key.d
        prime1 := toBytesBe p
        prime2 := toBytesBe q
        exponent1 := dp
        exponent2 := dq
        coefficient := toBytesBe qinv }
  | primes =>
    let count := primes.length
    .error s!"RSA key has {count} prime(s); PKCS#11 requires multi-prime via separate attrs"

/-- `parsed_rsa_public_from_pkcs1`. -/
def parsedRsaPublicFromPkcs1 (pk1 : Bytes) : Except ParseError ParsedKey := do
  let der ← (parsers.pkcs1ToDer pk1).mapError fun e ↦ s!"RSA pubkey reserialize failed: {e}"
  let key ← (parsers.rsaPublicKey der).mapError fun e ↦
    s!"RSA public key validation failed: {e}"
  return .rsaPublic ⟨toBytesBe key.n, toBytesBe key.e⟩

/-- `parse_pkcs1_rsa_private`. -/
def parsePkcs1RsaPrivate (der : Bytes) : Except ParseError ParsedKey := do
  let pk1 ← (parsers.pkcs1PrivateKey der).mapError fun e ↦
    s!"PKCS#1 RSAPrivateKey decode failed: {e}"
  parsedRsaPrivateFromPkcs1 parsers pk1

/-- `parse_pkcs1_rsa_public`. -/
def parsePkcs1RsaPublic (der : Bytes) : Except ParseError ParsedKey := do
  let pk1 ← (parsers.pkcs1PublicKey der).mapError fun e ↦
    s!"PKCS#1 RSAPublicKey decode failed: {e}"
  parsedRsaPublicFromPkcs1 parsers pk1

/-- `dispatch_private_key_info`. -/
def dispatchPrivateKeyInfo (info : PrivateKeyInfo) : Except ParseError ParsedKey :=
  if info.algorithm.oid = oidRsaEncryption then do
    let pk1 ← (parsers.pkcs1PrivateKey info.privateKey).mapError fun e ↦
      s!"inner PKCS#1 RSAPrivateKey decode failed: {e}"
    parsedRsaPrivateFromPkcs1 parsers pk1
  else if info.algorithm.oid = oidEcPublicKey then do
    let curve ← pkcs8EcCurve parsers info.algorithm
    parseSec1EcPrivate parsers info.privateKey (some curve)
  else
    let text := oidText info.algorithm.oid
    .error (s!"unsupported PKCS#8 algorithm OID {text} " ++
      "(only rsaEncryption and id-ecPublicKey are supported)")

/-- `parse_pkcs8_private`. -/
def parsePkcs8Private (der : Bytes) : Except ParseError ParsedKey := do
  let info ← (parsers.privateKeyInfo der).mapError fun e ↦ s!"PKCS#8 decode failed: {e}"
  dispatchPrivateKeyInfo parsers info

/-- `parse_spki_public`. -/
def parseSpkiPublic (der : Bytes) : Except ParseError ParsedKey := do
  let spki ← (parsers.subjectPublicKeyInfo der).mapError fun e ↦ s!"SPKI decode failed: {e}"
  let some keyBytes := spki.subjectPublicKey |
    .error "SPKI BIT STRING has non-byte-aligned length"
  if spki.algorithm.oid = oidRsaEncryption then
    let pk1 ← (parsers.pkcs1PublicKey keyBytes).mapError fun e ↦
      s!"inner PKCS#1 RSAPublicKey decode failed: {e}"
    parsedRsaPublicFromPkcs1 parsers pk1
  else if spki.algorithm.oid = oidEcPublicKey then
    let curve ← pkcs8EcCurve parsers spki.algorithm
    validateEcPoint curve keyBytes
    return .ecPublic ⟨curve, keyBytes⟩
  else
    let text := oidText spki.algorithm.oid
    .error (s!"unsupported SPKI algorithm OID {text} " ++
      "(only rsaEncryption and id-ecPublicKey are supported)")

/-- `parse_pem`. -/
def parsePem (data : Bytes) : Except ParseError ParsedKey := do
  let (label, der) ← (parsers.decodePem data).mapError fun e ↦ s!"malformed PEM: {e}"
  match label with
  | "PRIVATE KEY" => parsePkcs8Private parsers der
  | "PUBLIC KEY" => parseSpkiPublic parsers der
  | "RSA PRIVATE KEY" => parsePkcs1RsaPrivate parsers der
  | "RSA PUBLIC KEY" => parsePkcs1RsaPublic parsers der
  | "EC PRIVATE KEY" => parseSec1EcPrivate parsers der none
  | other =>
    .error (s!"unsupported PEM label: '{other}'. Expected one of: PRIVATE KEY, " ++
      "PUBLIC KEY, RSA PRIVATE KEY, RSA PUBLIC KEY, EC PRIVATE KEY.")

/-- `parse_der`: the first of the structures that can be read. -/
def parseDer (data : Bytes) : Except ParseError ParsedKey :=
  parsePkcs8Private parsers data <|> parseSpkiPublic parsers data <|>
    parsePkcs1RsaPrivate parsers data <|> parsePkcs1RsaPublic parsers data <|>
      .error "input did not parse as PKCS#8, SPKI, or PKCS#1 DER"

/-- `looks_like_pem`. -/
def looksLikePem (data : Bytes) : Bool :=
  "-----BEGIN".toUTF8.toList.isPrefixOf
    ((data.dropWhile fun b ↦ b == 0x20 || b == 0x09 || b == 0x0D || b == 0x0A).take 10)

/-- `from_bytes`. -/
def ParsedKey.fromBytes (data : Bytes) : Except ParseError ParsedKey :=
  if looksLikePem data then parsePem parsers data else parseDer parsers data

/-! ### What is accepted -/

/-- An uncompressed point of the curve's length. -/
def Curve.IsPoint (curve : Curve) (point : Bytes) : Prop :=
  point.head? = some 0x04 ∧ point.length = curve.uncompressedPointLen

namespace ParsedKey

/-- The class that the parser infers. -/
def IsPrivate : ParsedKey → Prop
  | rsaPrivate _ | ecPrivate _ => True
  | rsaPublic _ | ecPublic _ => False

/-- A scalar is as long as a field element, and every point is uncompressed. -/
def WellFormed : ParsedKey → Prop
  | rsaPrivate _ | rsaPublic _ => True
  | ecPrivate p => p.privateScalar.length = p.curve.uncompressedPointLen / 2 ∧
      ∀ point, p.publicPoint = some point → p.curve.IsPoint point
  | ecPublic p => p.curve.IsPoint p.publicPoint

end ParsedKey

theorem isPoint_of_validateEcPoint {curve : Curve} {point : Bytes} {u : Unit}
    (h : validateEcPoint curve point = .ok u) : curve.IsPoint point := by
  unfold validateEcPoint at h
  split at h
  · cases h
  · simp only [ne_eq, ite_not] at h
    split_ifs at h with hfirst hlength
    exact ⟨by rw [hfirst]; rfl, hlength⟩

theorem parsedRsaPrivateFromPkcs1_accepts (pk1 : Bytes) :
    Answers (fun key ↦ key.IsPrivate ∧ key.WellFormed) (parsedRsaPrivateFromPkcs1 parsers pk1) := by
  refine answers_bind fun der _ ↦ answers_bind fun key _ ↦ answers_bind fun _ _ ↦ ?_
  split
  · refine answers_bind fun dp _ ↦ answers_bind fun dq _ ↦ ?_
    split
    · exact ⟨trivial, trivial⟩
    · exact answers_error
  · exact answers_error

theorem parsedRsaPublicFromPkcs1_accepts (pk1 : Bytes) :
    Answers (fun key ↦ ¬key.IsPrivate ∧ key.WellFormed) (parsedRsaPublicFromPkcs1 parsers pk1) :=
  answers_bind fun _ _ ↦ answers_bind fun _ _ ↦ ⟨not_false, trivial⟩

theorem parseSec1EcPrivate_accepts (der : Bytes) (knownCurve : Option Curve) :
    Answers (fun key ↦ key.IsPrivate ∧ key.WellFormed)
      (parseSec1EcPrivate parsers der knownCurve) := by
  refine answers_bind fun pk _ ↦ answers_bind fun curve _ ↦ ?_
  by_cases hlong : pk.privateKey.length > curve.uncompressedPointLen / 2
  · simp only [if_pos hlong]
    exact answers_error
  · have hpadded : (List.replicate (curve.uncompressedPointLen / 2 - pk.privateKey.length) 0 ++
        pk.privateKey).length = curve.uncompressedPointLen / 2 := by
      rw [List.length_append, List.length_replicate]
      omega
    simp only [if_neg hlong]
    cases pk.publicKey with
    | none => exact ⟨trivial, hpadded, nofun⟩
    | some point =>
      refine answers_bind fun _ hvalid ↦ ⟨trivial, hpadded, fun other hother ↦ ?_⟩
      obtain rfl := Option.some.inj hother
      exact isPoint_of_validateEcPoint hvalid

/-- PKCS#8 gives private keys. -/
theorem parsePkcs8Private_accepts (der : Bytes) :
    Answers (fun key ↦ key.IsPrivate ∧ key.WellFormed) (parsePkcs8Private parsers der) := by
  refine answers_bind fun info _ ↦ ?_
  unfold dispatchPrivateKeyInfo
  split_ifs
  · exact answers_bind fun pk1 _ ↦ parsedRsaPrivateFromPkcs1_accepts parsers pk1
  · exact answers_bind fun curve _ ↦ parseSec1EcPrivate_accepts parsers _ _
  · exact answers_error

/-- SPKI gives public keys. -/
theorem parseSpkiPublic_accepts (der : Bytes) :
    Answers (fun key ↦ ¬key.IsPrivate ∧ key.WellFormed) (parseSpkiPublic parsers der) := by
  refine answers_bind fun spki _ ↦ ?_
  split
  · split_ifs
    · exact answers_bind fun pk1 _ ↦ parsedRsaPublicFromPkcs1_accepts parsers pk1
    · refine answers_bind fun curve _ ↦ answers_bind fun _ hvalid ↦ ?_
      exact ⟨not_false, isPoint_of_validateEcPoint hvalid⟩
    · exact answers_error
  · exact answers_error

theorem parsePem_wellFormed (data : Bytes) :
    Answers ParsedKey.WellFormed (parsePem parsers data) := by
  refine answers_bind fun (label, der) _ ↦ ?_
  dsimp only
  split
  · exact (parsePkcs8Private_accepts parsers der).mono fun _ ↦ And.right
  · exact (parseSpkiPublic_accepts parsers der).mono fun _ ↦ And.right
  · exact answers_bind fun pk1 _ ↦
      (parsedRsaPrivateFromPkcs1_accepts parsers pk1).mono fun _ ↦ And.right
  · exact answers_bind fun pk1 _ ↦
      (parsedRsaPublicFromPkcs1_accepts parsers pk1).mono fun _ ↦ And.right
  · exact (parseSec1EcPrivate_accepts parsers der none).mono fun _ ↦ And.right
  · exact answers_error

theorem parseDer_wellFormed (data : Bytes) :
    Answers ParsedKey.WellFormed (parseDer parsers data) := by
  refine answers_orElse ((parsePkcs8Private_accepts parsers data).mono fun _ ↦ And.right) ?_
  refine answers_orElse ((parseSpkiPublic_accepts parsers data).mono fun _ ↦ And.right) ?_
  refine answers_orElse (answers_bind fun pk1 _ ↦
    (parsedRsaPrivateFromPkcs1_accepts parsers pk1).mono fun _ ↦ And.right) ?_
  exact answers_orElse (answers_bind fun pk1 _ ↦
    (parsedRsaPublicFromPkcs1_accepts parsers pk1).mono fun _ ↦ And.right) answers_error

/-- Every key that is read from a file is well formed. -/
theorem fromBytes_wellFormed (data : Bytes) :
    Answers ParsedKey.WellFormed (ParsedKey.fromBytes parsers data) := by
  unfold ParsedKey.fromBytes
  split_ifs
  · exact parsePem_wellFormed parsers data
  · exact parseDer_wellFormed parsers data

end Parsers

/-! ### Octet strings -/

/-- `modulus_bit_len`. -/
def modulusBitLen (modulus : Bytes) : Nat :=
  match modulus.dropWhile (· == 0) with
  | [] => 0
  | first :: rest => (rest.length + 1) * 8 - first.toBitVec.clz.toNat

/-- A length field: one byte below 128, or the number of the bytes that follow and hold the length.
The first byte is neither that of an indefinite length nor the reserved one. -/
def readLength : Bytes → Option (Nat × Bytes)
  | [] => none
  | first :: rest =>
    let count := first.toNat - 0x80
    if first.toNat < 0x80 then some (first.toNat, rest)
    else if count = 0 ∨ count = 0x7f ∨ rest.length < count then none
    else some (beNat (rest.take count), rest.drop count)

/-- A strict reader of an octet string: the contents and what follows them. The length is in the
long form only if it does not fit the short one, and then without leading zeros. -/
def readOctetString : Bytes → Option (Bytes × Bytes)
  | 0x04 :: text => do
    let (length, rest) ← readLength text
    let fieldLength := text.length - rest.length
    guard (fieldLength = 1 ∨ 0x80 ≤ length ∧ 256 ^ (fieldLength - 2) ≤ length)
    guard (length ≤ rest.length)
    return rest.splitAt length
  | _ => none

theorem beNat_reverse_digits {digits : List Nat} (h : ∀ digit ∈ digits, digit < 256) :
    beNat (digits.map UInt8.ofNat).reverse = Nat.ofDigits 256 digits := by
  induction digits with
  | nil => rfl
  | cons digit digits ih =>
    obtain ⟨hdigit, hdigits⟩ := List.forall_mem_cons.mp h
    rw [List.map_cons, List.reverse_cons, beNat_append_singleton, ih hdigits, Nat.ofDigits_cons,
      UInt8.toNat_ofNat', Nat.mod_eq_of_lt hdigit]
    exact Nat.add_comm _ _

theorem length_encodeDerLength (length : Nat) : (encodeDerLength length).length =
    if length < 0x80 then 1 else (Nat.digits 256 length).length + 1 := by
  unfold encodeDerLength
  split_ifs <;> simp

theorem readLength_encodeDerLength {length : Nat} (hlength : length < 2 ^ 64) (rest : Bytes) :
    readLength (encodeDerLength length ++ rest) = some (length, rest) := by
  unfold encodeDerLength
  split_ifs with hshort
  · simp [readLength, Nat.mod_eq_of_lt (show length < 256 by omega), hshort]
  have hcount : (Nat.digits 256 length).length ≤ 8 :=
    (Nat.digits_length_le_iff (by norm_num) length).mpr hlength
  have hvalue := beNat_reverse_digits fun _ h ↦ Nat.digits_lt_base (m := length) (by norm_num) h
  have hpos := List.length_pos_iff.mpr
    (Nat.digits_ne_nil_iff_ne_zero (b := 256) (n := length).mpr (by omega))
  rw [Nat.ofDigits_digits] at hvalue
  generalize Nat.digits 256 length = digits at hcount hvalue hpos ⊢
  have hfirst : (0x80 ||| UInt8.ofNat digits.length).toNat = 0x80 + digits.length := by
    generalize digits.length = count at hcount
    interval_cases count <;> rfl
  simp only [List.cons_append, readLength, List.length_map, List.length_reverse, hfirst,
    List.length_append]
  rw [if_neg (by omega), if_neg (by omega), Nat.add_sub_cancel_left, List.take_left' (by simp),
    List.drop_left' (by simp), hvalue]

/-- No field that denotes a length is shorter than the one that is written. -/
theorem encodeDerLength_shortest {text rest : Bytes} {length : Nat}
    (h : readLength text = some (length, rest)) :
    (encodeDerLength length).length + rest.length ≤ text.length := by
  rw [length_encodeDerLength]
  cases text with
  | nil => cases h
  | cons first text =>
    simp only [readLength] at h
    split_ifs at h with hshort hbad
    · obtain ⟨rfl, rfl⟩ := Prod.mk.inj (Option.some.inj h)
      simp [hshort, Nat.add_comm]
    · obtain ⟨rfl, rfl⟩ := Prod.mk.inj (Option.some.inj h)
      have hdigits : (Nat.digits 256 (beNat (text.take (first.toNat - 0x80)))).length ≤
          first.toNat - 0x80 := by
        refine (Nat.digits_length_le_iff (by norm_num) _).mpr ((beNat_lt _).trans_le ?_)
        exact Nat.pow_le_pow_right (by norm_num) (List.length_take_le ..)
      rw [List.length_drop, List.length_cons]
      split_ifs <;> omega

theorem beNat_cons (first : UInt8) (rest : Bytes) :
    beNat (first :: rest) = 256 ^ rest.length * first.toNat + beNat rest := by
  induction rest using List.reverseRecOn with
  | nil => simp [beNat]
  | append_singleton rest byte ih =>
    rw [← List.cons_append, beNat_append_singleton, beNat_append_singleton, ih, List.length_append,
      List.length_singleton, pow_succ]
    ring

theorem size_beNat_cons {first : UInt8} (hfirst : first ≠ 0) (rest : Bytes) :
    (beNat (first :: rest)).size = 8 * rest.length + first.toNat.size := by
  have hrest := beNat_lt rest
  have hsize : 0 < first.toNat.size := Nat.size_pos.mpr (by
    rwa [Nat.pos_iff_ne_zero, ← UInt8.toNat_zero, Ne, UInt8.toNat_inj])
  have hupper := first.toNat.lt_size_self
  have hlower := Nat.lt_size.mp (Nat.sub_lt hsize one_pos)
  rw [beNat_cons, show 256 = 2 ^ 8 by rfl, ← pow_mul] at *
  refine le_antisymm (Nat.size_le.mpr ?_) ?_
  · rw [pow_add]
    nlinarith [Nat.mul_le_mul_left (2 ^ (8 * rest.length)) (Nat.succ_le_of_lt hupper)]
  · have hbelow : 2 ^ (8 * rest.length + (first.toNat.size - 1)) ≤
        2 ^ (8 * rest.length) * first.toNat + beNat rest := by
      rw [pow_add]
      exact (Nat.mul_le_mul_left _ hlower).trans (Nat.le_add_right _ _)
    have hless := Nat.lt_size.mpr hbelow
    omega

theorem modulusBitLen_eq (modulus : Bytes) : modulusBitLen modulus = (beNat modulus).size := by
  induction modulus with
  | nil => rfl
  | cons first rest ih =>
    by_cases hzero : first = 0
    · subst hzero
      simpa [modulusBitLen, beNat] using ih
    · have hclz : first.toBitVec.clz.toNat + first.toNat.size = 8 := by
        have h : ∀ b : BitVec 8, b.clz.toNat + b.toNat.size = 8 := by decide +kernel
        exact h _
      rw [size_beNat_cons hzero]
      simp [modulusBitLen, hzero]
      omega

/-- The DER form of an octet string is read back by a strict reader with nothing left over, its
length field is the shortest of all that denote the length, and the bit length of a modulus is that
of its number. -/
theorem octet_string_canonical (inner : Bytes) (hlength : inner.length < 2 ^ 64) :
    readOctetString (wrapOctetString inner) = some (inner, []) ∧
      (∀ text rest, readLength text = some (inner.length, rest) →
        (encodeDerLength inner.length).length + rest.length ≤ text.length) ∧
      ∀ modulus, modulusBitLen modulus = (beNat modulus).size := by
  refine ⟨?_, fun _ _ h ↦ encodeDerLength_shortest h, modulusBitLen_eq⟩
  have hcanonical : (encodeDerLength inner.length).length = 1 ∨
      0x80 ≤ inner.length ∧ 256 ^ ((encodeDerLength inner.length).length - 2) ≤ inner.length := by
    rw [length_encodeDerLength]
    split_ifs with hshort
    · exact .inl rfl
    · refine .inr ⟨by omega, not_lt.mp fun hless ↦ ?_⟩
      have hdigits := (Nat.digits_length_le_iff (by norm_num) inner.length).mpr hless
      have hpos := List.length_pos_iff.mpr
        (Nat.digits_ne_nil_iff_ne_zero (b := 256) (n := inner.length).mpr (by omega))
      omega
  simp [readOctetString, wrapOctetString, readLength_encodeDerLength hlength, hcanonical]

/-- An octet string of 130 bytes, whose length takes two bytes, is read back. -/
theorem long_octet_string_canonical :
    readOctetString (wrapOctetString (List.replicate 130 7)) = some (List.replicate 130 7, []) :=
  (octet_string_canonical (List.replicate 130 7) (by simp)).1

end CratonHsm.Admin
