import CratonHsm.Error
import Mathlib.Logic.Encodable.Basic
import Mathlib.Logic.Equiv.List

/-!
# ECDH key derivation

`crypto/derive.rs`: `ecdh_p256` and `ecdh_p384` compute the raw shared point of a curve crate and
pass it through HKDF-SHA256 with a fixed salt and a context string. The two functions are
`ecdhWith` at their own object identifier and default output length. The curve crate and HKDF are
not part of the repository: they enter as `CurveCrate` and `Hkdf`, with their documented behaviour
stated in `CurveCrate.Lawful` and `Hkdf.Lawful`.

The context string lists the caller's own public key before the peer's, so the two sides of one
exchange build different strings. `ecdhWith_agree_iff` says when the two sides derive the same key:
exactly when the two public-key encodings handed over are the same byte string, that is, when both
parties hold the same public key and spell it alike.

Scope. The raw shared point is assumed symmetric and HKDF injective; `RawKeyMaterial`, which wraps
the derived bytes, is modelled by the bytes.
-/

set_option autoImplicit false

namespace CratonHsm.Crypto.Derive

open Library

/-! ### The external primitives -/

/-- What the derivation uses of an elliptic-curve crate: parsing of a secret scalar and of a SEC1
public key, the public key of a scalar, its uncompressed SEC1 encoding, and the raw bytes of the
shared point. -/
structure CurveCrate (Scalar Point : Type) where
  secretKeyFromSlice : Bytes → Option Scalar
  publicKeyFromSec1 : Bytes → Option Point
  publicKey : Scalar → Point
  toEncodedPoint : Point → Bytes
  diffieHellman : Scalar → Point → Bytes

/-- The documented behaviour of a curve crate: the shared point is symmetric, the uncompressed
encoding parses back, and all uncompressed encodings of one curve have the same length. -/
structure CurveCrate.Lawful {Scalar Point : Type} (curve : CurveCrate Scalar Point) : Prop where
  diffieHellman_comm : ∀ a b, curve.diffieHellman a (curve.publicKey b) =
    curve.diffieHellman b (curve.publicKey a)
  publicKeyFromSec1_toEncodedPoint : ∀ p, curve.publicKeyFromSec1 (curve.toEncodedPoint p) = some p
  toEncodedPoint_length : ∀ p q, (curve.toEncodedPoint p).length = (curve.toEncodedPoint q).length

/-- A key pair in the form the functions receive it: the bytes of a secret scalar and a SEC1
encoding, of any kind the crate accepts, of its public key. -/
def CurveCrate.IsKeyPair {Scalar Point : Type} (curve : CurveCrate Scalar Point)
    (privateKeyBytes publicKeySec1 : Bytes) : Prop :=
  ∃ a, curve.secretKeyFromSlice privateKeyBytes = some a ∧
    curve.publicKeyFromSec1 publicKeySec1 = some (curve.publicKey a)

/-- HKDF-SHA256 as a function of salt, input key material, info and output length; `none` when the
requested length is out of its range. -/
abbrev Hkdf := Bytes → Bytes → Bytes → Nat → Option Bytes

/-- The largest output of HKDF-SHA256: 255 blocks of 32 bytes. -/
def hkdfMaxOutput : Nat := 255 * 32

/-- HKDF succeeds on every length in its range and is injective in all its inputs. -/
structure Hkdf.Lawful (hkdf : Hkdf) : Prop where
  isSome_of_le : ∀ salt ikm info len, len ≤ hkdfMaxOutput → (hkdf salt ikm info len).isSome
  injective : ∀ {salt ikm info len salt' ikm' info' len' okm},
    hkdf salt ikm info len = some okm → hkdf salt' ikm' info' len' = some okm →
      salt = salt' ∧ ikm = ikm' ∧ info = info' ∧ len = len'

/-! ### The derivation functions -/

/-- `MAX_OKM_LEN`. -/
def maxOkmLen : Nat := 64

/-- `validate_okm_len`. -/
def validateOkmLen (len : Nat) : HsmResult Unit :=
  if len = 0 ∨ len > maxOkmLen then .error .keySizeRange else .ok ()

/-- `HKDF_SALT`, the ASCII bytes of `CratonHSM-ECDH-HKDF-Salt-v1`. -/
def hkdfSalt : Bytes :=
  [0x43, 0x72, 0x61, 0x74, 0x6F, 0x6E, 0x48, 0x53, 0x4D, 0x2D, 0x45, 0x43, 0x44, 0x48, 0x2D, 0x48,
    0x4B, 0x44, 0x46, 0x2D, 0x53, 0x61, 0x6C, 0x74, 0x2D, 0x76, 0x31]

/-- `apply_hkdf`. -/
def applyHkdf (hkdf : Hkdf) (ikm info : Bytes) (okmLen : Nat) : HsmResult Bytes :=
  match hkdf hkdfSalt ikm info okmLen with
  | some okm => .ok okm
  | none => .error .generalError

section Functions

variable {Scalar Point : Type}

/-- The body shared by `ecdh_p256` and `ecdh_p384`, which differ in the object identifier put into
the context string and in the output length used when none is requested. -/
def ecdhWith (oid : Bytes) (defaultLen : Nat) (curve : CurveCrate Scalar Point) (hkdf : Hkdf)
    (privateKeyBytes peerPublicKeySec1 : Bytes) (okmLen : Option Nat) : HsmResult Bytes := do
  let derivedLen := okmLen.getD defaultLen
  validateOkmLen derivedLen
  match curve.secretKeyFromSlice privateKeyBytes with
  | none => .error .keyHandleInvalid
  | some secretKey =>
    match curve.publicKeyFromSec1 peerPublicKeySec1 with
    | none => .error .argumentsBad
    | some peerPublic =>
      let rawBytes := curve.diffieHellman secretKey peerPublic
      let ourPkBytes := curve.toEncodedPoint (curve.publicKey secretKey)
      let info := oid ++ beBytes 4 derivedLen ++ ourPkBytes ++ peerPublicKeySec1
      applyHkdf hkdf rawBytes info derivedLen

/-- `P256_OID`, the DER encoding of 1.2.840.10045.3.1.7. -/
def p256Oid : Bytes := [0x06, 0x08, 0x2A, 0x86, 0x48, 0xCE, 0x3D, 0x03, 0x01, 0x07]

/-- `P384_OID`, the DER encoding of 1.3.132.0.34. -/
def p384Oid : Bytes := [0x06, 0x05, 0x2B, 0x81, 0x04, 0x00, 0x22]

/-- The output length of `ecdh_p256` when none is requested. -/
def p256DefaultLen : Nat := 32

/-- The output length of `ecdh_p384` when none is requested. -/
def p384DefaultLen : Nat := 48

/-- `ecdh_p256`. -/
def ecdhP256 : CurveCrate Scalar Point → Hkdf → Bytes → Bytes → Option Nat → HsmResult Bytes :=
  ecdhWith p256Oid p256DefaultLen

/-- `ecdh_p384`. -/
def ecdhP384 : CurveCrate Scalar Point → Hkdf → Bytes → Bytes → Option Nat → HsmResult Bytes :=
  ecdhWith p384Oid p384DefaultLen

end Functions

/-! ### When both sides agree -/

/-- Deriving with the first private key and the second public key gives the same bytes as deriving
with the second private key and the first public key. -/
def BothSidesAgree (derive : Bytes → Bytes → Option Nat → HsmResult Bytes)
    (privateA publicA privateB publicB : Bytes) (okmLen : Option Nat) : Prop :=
  ∃ okm, derive privateA publicB okmLen = .ok okm ∧ derive privateB publicA okmLen = .ok okm

theorem validateOkmLen_eq_ok_iff (len : Nat) :
    validateOkmLen len = .ok () ↔ 0 < len ∧ len ≤ maxOkmLen := by
  unfold validateOkmLen
  split_ifs with h
  · simp only [false_iff]; omega
  · simp only [true_iff]; omega

theorem applyHkdf_eq_ok_iff (hkdf : Hkdf) (ikm info : Bytes) (okmLen : Nat) (okm : Bytes) :
    applyHkdf hkdf ikm info okmLen = .ok okm ↔ hkdf hkdfSalt ikm info okmLen = some okm := by
  unfold applyHkdf
  cases hkdf hkdfSalt ikm info okmLen <;> simp

section Agreement

variable {Scalar Point : Type} {curve : CurveCrate Scalar Point} {hkdf : Hkdf}
variable {oid : Bytes} {defaultLen : Nat}

/-- On an accepted length, a parsable secret key and a parsable peer key, the derivation is one
application of HKDF. -/
theorem ecdhWith_eq_applyHkdf {privateKeyBytes peerPublicKeySec1 : Bytes} {okmLen : Option Nat}
    {a : Scalar} {p : Point} (hlen : validateOkmLen (okmLen.getD defaultLen) = .ok ())
    (hsecret : curve.secretKeyFromSlice privateKeyBytes = some a)
    (hpeer : curve.publicKeyFromSec1 peerPublicKeySec1 = some p) :
    ecdhWith oid defaultLen curve hkdf privateKeyBytes peerPublicKeySec1 okmLen =
      applyHkdf hkdf (curve.diffieHellman a p)
        (oid ++ beBytes 4 (okmLen.getD defaultLen) ++ curve.toEncodedPoint (curve.publicKey a) ++
          peerPublicKeySec1) (okmLen.getD defaultLen) := by
  simp only [ecdhWith, hlen, hsecret, hpeer]
  rfl

/-- The context strings of the two sides are equal exactly when the two given encodings are. -/
theorem context_eq_iff (hcurve : curve.Lawful) {a b : Scalar} {publicA publicB head : Bytes}
    (hpublicA : curve.publicKeyFromSec1 publicA = some (curve.publicKey a))
    (hpublicB : curve.publicKeyFromSec1 publicB = some (curve.publicKey b)) :
    head ++ curve.toEncodedPoint (curve.publicKey a) ++ publicB =
        head ++ curve.toEncodedPoint (curve.publicKey b) ++ publicA ↔ publicA = publicB := by
  constructor
  · intro h
    rw [List.append_assoc, List.append_assoc, List.append_cancel_left_eq] at h
    exact (List.append_inj h (hcurve.toEncodedPoint_length _ _)).2.symm
  · rintro rfl
    have hsame : curve.publicKey a = curve.publicKey b :=
      Option.mem_unique hpublicA hpublicB
    rw [hsame]

/-- Both sides of an exchange derive the same key exactly when the two public keys are given by the
same byte string. -/
theorem ecdhWith_agree_iff (hcurve : curve.Lawful) (hhkdf : Hkdf.Lawful hkdf)
    {privateA publicA privateB publicB : Bytes} {okmLen : Option Nat}
    (hpairA : curve.IsKeyPair privateA publicA) (hpairB : curve.IsKeyPair privateB publicB)
    (hlen : validateOkmLen (okmLen.getD defaultLen) = .ok ()) :
    BothSidesAgree (ecdhWith oid defaultLen curve hkdf) privateA publicA privateB publicB okmLen ↔
      publicA = publicB := by
  obtain ⟨a, hsecretA, hpublicA⟩ := hpairA
  obtain ⟨b, hsecretB, hpublicB⟩ := hpairB
  unfold BothSidesAgree
  rw [ecdhWith_eq_applyHkdf hlen hsecretA hpublicB, ecdhWith_eq_applyHkdf hlen hsecretB hpublicA,
    hcurve.diffieHellman_comm b a]
  simp only [applyHkdf_eq_ok_iff]
  constructor
  · rintro ⟨okm, hokmA, hokmB⟩
    exact (context_eq_iff hcurve hpublicA hpublicB).mp (hhkdf.injective hokmA hokmB).2.2.1
  · intro hsame
    rw [(context_eq_iff hcurve hpublicA hpublicB).mpr hsame]
    have hbound : okmLen.getD defaultLen ≤ hkdfMaxOutput := by
      have haccepted := (validateOkmLen_eq_ok_iff _).mp hlen
      simp only [maxOkmLen, hkdfMaxOutput] at haccepted ⊢
      omega
    obtain ⟨okm, hokm⟩ := Option.isSome_iff_exists.mp (hhkdf.isSome_of_le hkdfSalt _ _ _ hbound)
    exact ⟨okm, hokm, hokm⟩

end Agreement

/-- `ecdh_p256` and `ecdh_p384` agree on both sides exactly when the two public keys are given by
the same byte string. Assumes: a lawful curve crate for each curve and a lawful HKDF. -/
theorem ecdh_both_sides_agree_iff {ScalarP256 PointP256 ScalarP384 PointP384 : Type}
    (p256 : CurveCrate ScalarP256 PointP256) (p384 : CurveCrate ScalarP384 PointP384)
    (hkdf : Hkdf) (hp256 : p256.Lawful) (hp384 : p384.Lawful) (hhkdf : Hkdf.Lawful hkdf) :
    (∀ privateA publicA privateB publicB okmLen, p256.IsKeyPair privateA publicA →
      p256.IsKeyPair privateB publicB → validateOkmLen (okmLen.getD p256DefaultLen) = .ok () →
        (BothSidesAgree (ecdhP256 p256 hkdf) privateA publicA privateB publicB okmLen ↔
          publicA = publicB)) ∧
    (∀ privateA publicA privateB publicB okmLen, p384.IsKeyPair privateA publicA →
      p384.IsKeyPair privateB publicB → validateOkmLen (okmLen.getD p384DefaultLen) = .ok () →
        (BothSidesAgree (ecdhP384 p384 hkdf) privateA publicA privateB publicB okmLen ↔
          publicA = publicB)) :=
  ⟨fun _ _ _ _ _ hpairA hpairB hlen ↦ ecdhWith_agree_iff hp256 hhkdf hpairA hpairB hlen,
    fun _ _ _ _ _ hpairA hpairB hlen ↦ ecdhWith_agree_iff hp384 hhkdf hpairA hpairB hlen⟩

/-! ### The exchange between the secret scalars one and two -/

/-- The two secret scalars of the worked exchange; a public key is named by its scalar. -/
inductive SmallScalar where
  | one
  | two
  deriving DecidableEq

/-- Coordinates of the first two multiples of a curve's base point and the first coordinate of the
fourth, with the byte width of a coordinate. -/
structure SmallMultiples where
  width : Nat
  oneX : Nat
  oneY : Nat
  twoX : Nat
  twoY : Nat
  fourX : Nat

variable (multiples : SmallMultiples)

/-- The uncompressed SEC1 encoding of a small multiple. -/
def SmallMultiples.encode : SmallScalar → Bytes
  | .one => 0x04 :: (beBytes multiples.width multiples.oneX ++
      beBytes multiples.width multiples.oneY)
  | .two => 0x04 :: (beBytes multiples.width multiples.twoX ++
      beBytes multiples.width multiples.twoY)

/-- A curve crate cut down to the secret scalars one and two. -/
def SmallMultiples.curve : CurveCrate SmallScalar SmallScalar where
  secretKeyFromSlice key :=
    if key = beBytes multiples.width 1 then some .one
    else if key = beBytes multiples.width 2 then some .two else none
  publicKeyFromSec1 key :=
    if key = multiples.encode .one then some .one
    else if key = multiples.encode .two then some .two else none
  publicKey := id
  toEncodedPoint := multiples.encode
  diffieHellman
    | .one, .one => beBytes multiples.width multiples.oneX
    | .one, .two => beBytes multiples.width multiples.twoX
    | .two, .one => beBytes multiples.width multiples.twoX
    | .two, .two => beBytes multiples.width multiples.fourX

theorem SmallMultiples.curve_lawful (hdistinct : multiples.encode .two ≠ multiples.encode .one) :
    multiples.curve.Lawful where
  diffieHellman_comm a b := by cases a <;> cases b <;> rfl
  publicKeyFromSec1_toEncodedPoint p := by
    cases p with
    | one => simp [curve]
    | two => simp [curve, hdistinct]
  toEncodedPoint_length p q := by
    cases p <;> cases q <;> simp [curve, encode]

/-- The small multiples of the base point of P-256. -/
def p256Multiples : SmallMultiples where
  width := 32
  oneX := 0x6B17D1F2E12C4247F8BCE6E563A440F277037D812DEB33A0F4A13945D898C296
  oneY := 0x4FE342E2FE1A7F9B8EE7EB4A7C0F9E162BCE33576B315ECECBB6406837BF51F5
  twoX := 0x7CF27B188D034F7E8A52380304B51AC3C08969E277F21B35A60B48FC47669978
  twoY := 0x07775510DB8ED040293D9AC69F7430DBBA7DADE63CE982299E04B79D227873D1
  fourX := 0xE2534A3532D08FBBA02DDE659EE62BD0031FE2DB785596EF509302446B030852

/-- The small multiples of the base point of P-384. -/
def p384Multiples : SmallMultiples where
  width := 48
  oneX :=
    0xAA87CA22BE8B05378EB1C71EF320AD746E1D3B628BA79B98 * 2 ^ 192 +
      0x59F741E082542A385502F25DBF55296C3A545E3872760AB7
  oneY :=
    0x3617DE4A96262C6F5D9E98BF9292DC29F8F41DBD289A147C * 2 ^ 192 +
      0xE9DA3113B5F0B8C00A60B1CE1D7E819D7A431D7C90EA0E5F
  twoX :=
    0x08D999057BA3D2D969260045C55B97F089025959A6F434D6 * 2 ^ 192 +
      0x51D207D19FB96E9E4FE0E86EBE0E64F85B96A9C75295DF61
  twoY :=
    0x8E80F1FA5B1B3CEDB7BFE8DFFD6DBA74B275D875BC6CC43E * 2 ^ 192 +
      0x904E505F256AB4255FFD43E94D39E22D61501E700A940E80
  fourX :=
    0x138251CD52AC9298C1C8AAD977321DEB97E709BD0B4CA0AC * 2 ^ 192 +
      0xA55DC8AD51DCFC9D1589A1597E3A5120E1EFD631C63E1835

/-- The inputs of one HKDF call. -/
abbrev HkdfQuery := Bytes × Bytes × Bytes × Nat

/-- A number that determines the inputs of an HKDF call. -/
def HkdfQuery.code (query : HkdfQuery) : Nat :=
  Encodable.encode (query.1.map UInt8.toNat, query.2.1.map UInt8.toNat,
    query.2.2.1.map UInt8.toNat, query.2.2.2)

theorem HkdfQuery.code_injective : Function.Injective HkdfQuery.code := by
  have hmap : Function.Injective (List.map UInt8.toNat) :=
    List.map_injective_iff.mpr fun _ _ h ↦ UInt8.toNat_inj.mp h
  rintro ⟨salt, ikm, info, len⟩ ⟨salt', ikm', info', len'⟩ h
  have hparts := Encodable.encode_injective h
  simp only [Prod.mk.injEq, hmap.eq_iff] at hparts
  obtain ⟨rfl, rfl, rfl, rfl⟩ := hparts
  rfl

/-- HKDF as given by a table of computed outputs, and by some output too long to be in the table
elsewhere. -/
def tabulatedHkdf (table : List (HkdfQuery × Bytes)) : Hkdf := fun salt ikm info len ↦
  match table.lookup (salt, ikm, info, len) with
  | some okm => some okm
  | none => some (List.replicate (hkdfMaxOutput + 1 + HkdfQuery.code (salt, ikm, info, len)) 0)

theorem tabulatedHkdf_lawful {table : List (HkdfQuery × Bytes)}
    (hdistinct : (table.map Prod.snd).Nodup)
    (hshort : ∀ entry ∈ table, entry.2.length ≤ hkdfMaxOutput) :
    Hkdf.Lawful (tabulatedHkdf table) where
  isSome_of_le salt ikm info len _ := by
    unfold tabulatedHkdf
    cases table.lookup (salt, ikm, info, len) <;> rfl
  injective {salt ikm info len salt' ikm' info' len' okm} h h' := by
    have hanswer : ∀ {salt ikm info : Bytes} {len : Nat} {okm : Bytes},
        tabulatedHkdf table salt ikm info len = some okm →
          ((salt, ikm, info, len), okm) ∈ table ∨
            okm.length = hkdfMaxOutput + 1 + HkdfQuery.code (salt, ikm, info, len) := by
      intro salt ikm info len okm h
      unfold tabulatedHkdf at h
      cases hlookup : table.lookup (salt, ikm, info, len) with
      | some value =>
        obtain ⟨before, after, hsplit, -⟩ := List.lookup_eq_some_iff.mp hlookup
        rw [hlookup] at h
        rw [hsplit, ← Option.some.inj h]
        exact .inl (List.mem_append_right _ List.mem_cons_self)
      | none =>
        rw [hlookup] at h
        rw [← Option.some.inj h]
        exact .inr List.length_replicate
    have hsame : ((salt, ikm, info, len) : HkdfQuery) = (salt', ikm', info', len') := by
      rcases hanswer h with hmem | hlength <;> rcases hanswer h' with hmem' | hlength'
      · exact congrArg Prod.fst (List.inj_on_of_nodup_map hdistinct hmem hmem' rfl)
      · have hbound : okm.length ≤ hkdfMaxOutput := hshort _ hmem
        omega
      · have hbound : okm.length ≤ hkdfMaxOutput := hshort _ hmem'
        omega
      · exact HkdfQuery.code_injective (by omega)
    simpa only [Prod.mk.injEq] using hsame

/-- The HKDF call made by the holder of `own` for the public key of `peer`, at the default length
of the curve. -/
def exchangeQuery (oid : Bytes) (defaultLen : Nat) (multiples : SmallMultiples)
    (own peer : SmallScalar) : HkdfQuery :=
  (hkdfSalt, multiples.curve.diffieHellman own peer,
    oid ++ beBytes 4 defaultLen ++ multiples.encode own ++ multiples.encode peer, defaultLen)

/-- HKDF-SHA256 on the calls of the two exchanges between the secret scalars one and two. -/
def exchangeHkdf : Hkdf := tabulatedHkdf
  [(exchangeQuery p256Oid p256DefaultLen p256Multiples .one .two,
      beBytes 32 0xB9DE39CB667AD6944BE3BE92408C98C1D55B9192F05F83309F4B792FA8501066),
    (exchangeQuery p256Oid p256DefaultLen p256Multiples .two .one,
      beBytes 32 0xEF6BAD8A6D6309767289E717FAC4C52E929E46B4407D3316A7C66CD44805227B),
    (exchangeQuery p384Oid p384DefaultLen p384Multiples .one .two,
      beBytes 24 0x5A156D36EB739A140E30ECC9BA873F57E4970B02CB7F77CE ++
        beBytes 24 0x5BEB08510E792342B948CF9A52BAD14ED2730A0D546EC2E7),
    (exchangeQuery p384Oid p384DefaultLen p384Multiples .two .one,
      beBytes 24 0x4CD0D8ADFF3F72FB7C5C62D39C8CB1BC176768446566E454 ++
        beBytes 24 0xED3B81F277D978CFA2F2B46D5C524CA3B47B065E7A94A334)]

theorem exchangeHkdf_lawful : Hkdf.Lawful exchangeHkdf :=
  tabulatedHkdf_lawful (by decide +kernel) (by decide +kernel)

theorem p256Multiples_lawful : p256Multiples.curve.Lawful :=
  p256Multiples.curve_lawful (by decide +kernel)

theorem p384Multiples_lawful : p384Multiples.curve.Lawful :=
  p384Multiples.curve_lawful (by decide +kernel)

/-- Between the secret scalars one and two, on either curve, the two sides do not agree. -/
theorem ecdh_small_scalars_disagree :
    ¬ BothSidesAgree (ecdhP256 p256Multiples.curve exchangeHkdf) (beBytes 32 1)
        (p256Multiples.encode .one) (beBytes 32 2) (p256Multiples.encode .two) none ∧
      ¬ BothSidesAgree (ecdhP384 p384Multiples.curve exchangeHkdf) (beBytes 48 1)
        (p384Multiples.encode .one) (beBytes 48 2) (p384Multiples.encode .two) none := by
  obtain ⟨hp256, hp384⟩ := ecdh_both_sides_agree_iff p256Multiples.curve p384Multiples.curve
    exchangeHkdf p256Multiples_lawful p384Multiples_lawful exchangeHkdf_lawful
  refine ⟨fun h ↦ ?_, fun h ↦ ?_⟩
  · have hsame := (hp256 _ _ _ _ _ ⟨.one, by decide +kernel, by decide +kernel⟩
      ⟨.two, by decide +kernel, by decide +kernel⟩ (by decide)).mp h
    exact absurd hsame (by decide +kernel)
  · have hsame := (hp384 _ _ _ _ _ ⟨.one, by decide +kernel, by decide +kernel⟩
      ⟨.two, by decide +kernel, by decide +kernel⟩ (by decide)).mp h
    exact absurd hsame (by decide +kernel)

/-- The derived bytes of the P-256 exchange between the secret scalars one and two: the holder of
one and the holder of two get different keys from the same shared point. -/
theorem ecdhP256_sides_differ :
    ecdhP256 p256Multiples.curve exchangeHkdf (beBytes 32 1) (p256Multiples.encode .two) none =
        .ok (beBytes 32 0xB9DE39CB667AD6944BE3BE92408C98C1D55B9192F05F83309F4B792FA8501066) ∧
      ecdhP256 p256Multiples.curve exchangeHkdf (beBytes 32 2) (p256Multiples.encode .one) none =
        .ok (beBytes 32 0xEF6BAD8A6D6309767289E717FAC4C52E929E46B4407D3316A7C66CD44805227B) ∧
      beBytes 32 0xB9DE39CB667AD6944BE3BE92408C98C1D55B9192F05F83309F4B792FA8501066 ≠
        beBytes 32 0xEF6BAD8A6D6309767289E717FAC4C52E929E46B4407D3316A7C66CD44805227B := by
  refine ⟨?_, ?_, ?_⟩ <;> decide +kernel

end CratonHsm.Crypto.Derive
