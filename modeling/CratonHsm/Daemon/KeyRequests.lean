import CratonHsm.Daemon.Requests

/-!
# Object and key requests of the daemon

The handlers of `server.rs` that make, find, read, copy, use and destroy objects. An object is
looked at only from a session of its own slot. Templates go through `apply_attribute` after the
object has been built, so an attribute of a template replaces what the handler has set.

No handler looks at the lifecycle of a key, at whether a session is read-only, or at whether the
object it uses is private.
-/

set_option autoImplicit false

namespace CratonHsm.Daemon

open Audit Crypto Crypto.Encrypt Library Store

section Requests

variable (platform : Platform) (env : RequestEnv)

/-! ### New keys -/

/-- `is_keygen_mechanism`. -/
def isKeygenMechanism (mechanism : Nat) : Bool := mechanism = ckmAesKeyGen

variable (session : Nat) (mechanism : Option Mechanism) (backend : CryptoBackend) (slotId : Nat)

/-- A new object of a slot. -/
def newObject (handle objectClass : Nat) : StoredObject :=
  { StoredObject.new env.call.now handle objectClass with slotId := slotId }

/-- The object of `generate_key` before its template. -/
def generatedKey (handle keyLen : Nat) (key : Bytes) : StoredObject :=
  { newObject env slotId handle ckoSecretKey with
    keyType := some ckkAes
    valueLen := some keyLen
    keyMaterial := some key
    canEncrypt := true
    canDecrypt := true
    sensitive := true
    extractable := false }

/-- `generate_key`. -/
def generateKey (template : Template) : Body := do
  let (slotId, mech) ← admitRequest session mechanism isKeygenMechanism
    "Unsupported key generation mechanism" false
  let keyLen ← .reads fun _ ↦ (readUlongAttr template ckaValueLen).elim
    (.error ⟨.invalidArgument, "CKA_VALUE_LEN required in template for key generation"⟩) .ok
  let key ← .reads fun s ↦ toStatus (platform.backend.generateAesKey env.call.seed keyLen
    s.algorithmConfig.fipsApprovedOnly)
  let handle ← nextHandle
  let obj ← .reads fun _ ↦
    applyTemplateExcept [ckaValueLen] (generatedKey env slotId handle keyLen key) template
  let handle ← insertObject platform env.call.first obj
  return (⟨session, .generateKey mech.mechanismType (asU32 keyLen)
    (isFipsApproved mech.mechanismType), some ("handle=" ++ toString handle)⟩, .handle handle)

/-- What `generate_key_pair` makes for a mechanism: the length that is recorded, and the fields of
the two objects. -/
structure PairDraft where
  keyLength : Nat
  publicFields : StoredObject → StoredObject
  privateFields : StoredObject → StoredObject

/-- The fields that a private key gets in every case. -/
def protectPrivate (obj : StoredObject) : StoredObject :=
  { obj with sensitive := true, extractable := false, isPrivate := true }

/-- The RSA branch of `generate_key_pair`. -/
def draftRsaPair (config : AlgorithmConfig) (pubTemplate : Template) : Except Status PairDraft := do
  let bits ← (readUlongAttr pubTemplate ckaModulusBits).elim
    (.error ⟨.invalidArgument, "CKA_MODULUS_BITS required in public template"⟩) .ok
  let bits := asU32 bits
  let (key, modulus, exponent) ← toStatus
    (backend.generateRsaKeyPair env.call.seed bits config.fipsApprovedOnly)
  let shared (obj : StoredObject) : StoredObject := { obj with
    keyType := some ckkRsa, modulus := some modulus, modulusBits := some bits,
    publicExponent := some exponent }
  return {
    keyLength := bits
    publicFields := fun obj ↦ { shared obj with canVerify := true, canEncrypt := true }
    privateFields := fun obj ↦ protectPrivate { shared obj with
      keyMaterial := some key, canSign := true, canDecrypt := true } }

/-- The EC branch of `generate_key_pair`. -/
def draftEcPair (pubTemplate : Template) : Except Status PairDraft := do
  let ecParams ← (pubTemplate.find? (·.1 = ckaEcParams)).elim
    (.error ⟨.invalidArgument, "CKA_EC_PARAMS required in public template"⟩) fun entry ↦ .ok entry.2
  let curve := curveOfParams ecParams
  let (key, point) ← toStatus (backend.generateEcKeyPair curve env.call.seed)
  let shared (obj : StoredObject) : StoredObject := { obj with
    keyType := some ckkEc, ecParams := some ecParams, ecPoint := some point }
  return {
    keyLength := match curve with
      | .p384 => 384
      | .p256 => 256
    publicFields := fun obj ↦ { shared obj with canVerify := true }
    privateFields := fun obj ↦ protectPrivate { shared obj with
      keyMaterial := some key, canSign := true } }

/-- The Ed25519 branch of `generate_key_pair`. -/
def draftEd25519Pair : Except Status PairDraft := do
  let (key, publicKey) ← toStatus (backend.generateEd25519KeyPair env.call.seed)
  let shared (obj : StoredObject) : StoredObject := { obj with
    keyType := some ckkEcEdwards, ecPoint := some publicKey }
  return {
    keyLength := 255
    publicFields := fun obj ↦ { shared obj with canVerify := true }
    privateFields := fun obj ↦ protectPrivate { shared obj with
      keyMaterial := some key, canSign := true } }

/-- The branches of `generate_key_pair`. -/
def draftPair (config : AlgorithmConfig) (mechanism : Nat) (pubTemplate : Template) :
    Except Status PairDraft :=
  if mechanism = ckmRsaPkcsKeyPairGen then draftRsaPair env backend config pubTemplate
  else if mechanism = ckmEcKeyPairGen then draftEcPair env backend pubTemplate
  else if mechanism = ckmEddsa then draftEd25519Pair env backend
  else .error ⟨.invalidArgument, "Unsupported key pair generation mechanism"⟩

/-- `generate_key_pair`. -/
def generateKeyPair (pubTemplate privTemplate : Template) : Body := do
  let (slotId, mech) ← admitRequest session mechanism isKeypairGenMechanism
    "Unsupported key pair generation mechanism" false
  let pubHandle ← nextHandle
  let privHandle ← nextHandle
  let draft ← .reads fun s ↦
    draftPair env platform.backend s.algorithmConfig mech.mechanismType pubTemplate
  let pub ← .reads fun _ ↦ applyTemplateExcept [ckaModulusBits, ckaEcParams]
    (draft.publicFields (newObject env slotId pubHandle ckoPublicKey)) pubTemplate
  let priv ← .reads fun _ ↦ applyTemplateExcept []
    (draft.privateFields (newObject env slotId privHandle ckoPrivateKey)) privTemplate
  let pubHandle ← insertObject platform env.call.first pub
  let privHandle ← insertObject platform env.call.second priv
  return (⟨session, .generateKeyPair mech.mechanismType draft.keyLength
    (isFipsApproved mech.mechanismType),
    some ("pub=" ++ toString pubHandle ++ ", priv=" ++ toString privHandle)⟩,
    .handlePair pubHandle privHandle)

/-! ### Objects -/

/-- `destroy_object`. -/
def destroyObject (session object : Nat) : Body := do
  let slotId ← requireAuthenticatedSession session
  let _ ← objectOfSlot slotId object "Object not found"
  onStore fun store ↦ store.destroyObject env.call.first object
  return (⟨session, .destroyObject, some ("handle=" ++ toString object)⟩, .done)

/-- `find_objects`. -/
def findObjects (template : Template) (maxCount : Nat) : Body := do
  let slotId ← requireAuthenticatedSession session
  let stored ← getToken slotId
  let found ← .view fun s ↦ s.objectStore.findObjectsForSlot template
    (stored.token.auth.login ≠ .publicState) slotId
  let found := if maxCount > 0 then found.take maxCount else found
  return (⟨session, .findObjects (asU32 found.length), none⟩, .handles found)

/-- An attribute as `get_attribute_value` returns it: empty if it is withheld or not there. -/
def readOrEmpty (obj : StoredObject) (attrType : Nat) : Bytes :=
  match obj.readAttribute attrType true with
  | .ok (some value) => value
  | .ok none => []
  | .error _ => []

/-- `get_attribute_value`. -/
def getAttributeValue (object : Nat) (attributeTypes : List Nat) : Body := do
  let slotId ← requireSession session
  let obj ← objectOfSlot slotId object "Object not found"
  if attributeBool (readOrEmpty obj ckaPrivate) then requireLoggedIn slotId else pure ()
  return (⟨session, .getAttributeValue, some ("handle=" ++ toString object)⟩,
    .attributes (attributeTypes.map fun attrType ↦ (attrType, readOrEmpty obj attrType)))

/-- The object of `copy_object` before its template: a new object with the listed fields of the
source. -/
def copiedObject (handle : Nat) (src : StoredObject) : StoredObject :=
  { newObject env slotId handle src.objectClass with
    keyType := src.keyType
    valueLen := src.valueLen
    keyMaterial := src.keyMaterial
    modulus := src.modulus
    modulusBits := src.modulusBits
    publicExponent := src.publicExponent
    ecParams := src.ecParams
    ecPoint := src.ecPoint
    canEncrypt := src.canEncrypt
    canDecrypt := src.canDecrypt
    canSign := src.canSign
    canVerify := src.canVerify
    canWrap := src.canWrap
    canUnwrap := src.canUnwrap
    canDerive := src.canDerive
    sensitive := src.sensitive
    extractable := src.extractable
    isPrivate := src.isPrivate
    label := src.label
    tokenObject := src.tokenObject
    id := src.id }

/-- `copy_object`. -/
def copyObject (object : Nat) (template : Template) : Body := do
  let slotId ← requireAuthenticatedSession session
  let src ← objectOfSlot slotId object "Object not found"
  let handle ← nextHandle
  .require (src.copyable = true) ⟨.permissionDenied, "Object is not copyable"⟩
  let obj ← .reads fun _ ↦ applyTemplateExcept [] (copiedObject env slotId handle src) template
  .require (src.sensitive = true → obj.sensitive = true)
    ⟨.permissionDenied, "Cannot weaken CKA_SENSITIVE on copy"⟩
  .require (obj.extractable = true → src.extractable = true)
    ⟨.permissionDenied, "Cannot weaken CKA_EXTRACTABLE on copy"⟩
  let inserted ← insertObject platform env.call.first obj
  return (⟨session, .createObject,
    some ("copied from=" ++ toString object ++ ", new=" ++ toString inserted)⟩, .handle inserted)

/-! ### Signatures -/

/-- The key types that `sign` and `verify` know. -/
def isSignatureKeyType (keyType : Option Nat) : Bool :=
  keyType = some ckkRsa || keyType = some ckkEc || keyType = some ckkEcEdwards

/-- The signature of `sign`. -/
def signData (mechanism : Nat) (obj : StoredObject) (key data : Bytes) : HsmResult Bytes :=
  if obj.keyType = some ckkRsa then
    if isPssMechanism mechanism then do
      backend.rsaPssSign env.call.seed key data (← pssMechanismToHash mechanism)
    else backend.rsaPkcs1v15Sign env.call.seed key data (mechanismToHash mechanism)
  else if obj.keyType = some ckkEc then
    backend.ecdsaSign (CryptoBackend.curveOf obj) env.call.seed key data
  else backend.ed25519Sign env.call.seed key data

/-- `sign`. -/
def sign (key : Nat) (data : Bytes) : Body := do
  let (slotId, mech) ← admitRequest session mechanism isSignMechanism
      "Unsupported signing mechanism" true
  let obj ← objectOfSlot slotId key "Key not found"
  .require (obj.canSign = true) ⟨.permissionDenied, "Key cannot be used for signing"⟩
  let bytes ← .reads fun _ ↦ keyField obj.keyMaterial "Key has no material"
  .require (isSignatureKeyType obj.keyType = true)
    ⟨.invalidArgument, "Key type does not support signing"⟩
  noteUse (.operation .sign) obj
  let signature ← .reads fun _ ↦
    toStatus (signData env platform.backend mech.mechanismType obj bytes data)
  return (⟨session, .sign mech.mechanismType (isFipsApproved mech.mechanismType),
    some ("key=" ++ toString key)⟩, .bytes signature)

/-- The verification of `verify`. -/
def verifyData (mechanism : Nat) (obj : StoredObject) (data signature : Bytes) :
    Except Status Bool :=
  if obj.keyType = some ckkRsa then do
    let modulus ← keyField obj.modulus "RSA key missing modulus"
    let exponent ← keyField obj.publicExponent "RSA key missing public exponent"
    if isPssMechanism mechanism then do
      let hash ← toStatus (pssMechanismToHash mechanism)
      toStatus (backend.rsaPssVerify modulus exponent data signature hash)
    else
      toStatus (backend.rsaPkcs1v15Verify modulus exponent data signature
        (mechanismToHash mechanism))
  else if obj.keyType = some ckkEc then do
    let point ← keyField obj.ecPoint "EC key missing public point"
    toStatus (backend.ecdsaVerify (CryptoBackend.curveOf obj) point data signature)
  else do
    let publicKey ← keyField obj.ecPoint "Ed25519 key missing public key"
    toStatus (backend.ed25519Verify publicKey data signature)

/-- `verify`. -/
def verify (key : Nat) (data signature : Bytes) : Body := do
  let (slotId, mech) ← admitRequest session mechanism isSignMechanism
    "Unsupported verification mechanism" true
  let obj ← objectOfSlot slotId key "Key not found"
  .require (obj.canVerify = true) ⟨.permissionDenied, "Key cannot be used for verification"⟩
  .require (isSignatureKeyType obj.keyType = true)
    ⟨.invalidArgument, "Key type does not support verification"⟩
  noteUse (.operation .verify) obj
  let valid ← .reads fun _ ↦ verifyData platform.backend mech.mechanismType obj data signature
  return (⟨session, .verify mech.mechanismType (isFipsApproved mech.mechanismType),
    some ("key=" ++ toString key)⟩, .valid valid)

/-! ### Encryption -/

/-- An initialisation vector has sixteen bytes. -/
def checkIv (mode : String) (iv : Bytes) : Except Status Unit :=
  if iv.length = 16 then .ok ()
  else .error ⟨.invalidArgument, mode ++ " requires 16-byte IV in mechanism parameter"⟩

/-- The encryption of `encrypt`. -/
def encryptData (mech : Mechanism) (obj : StoredObject) (data : Bytes) (statics : CipherStatics) :
    Except Status Bytes × CipherStatics :=
  let material := keyField obj.keyMaterial "Key has no material"
  if mech.mechanismType = ckmAesGcm then
    match material with
    | .error e => (.error e, statics)
    | .ok key => (aes256GcmEncrypt platform.crates statics
        (platform.backend.noncePrefix env.call.seed) key data).map toStatus id
  else if mech.mechanismType ∈ [ckmAesCbc, ckmAesCbcPad] then
    match checkIv "AES-CBC" mech.parameter, material with
    | .error e, _ => (.error e, statics)
    | .ok (), .error e => (.error e, statics)
    | .ok (), .ok key =>
      (aesCbcEncrypt platform.crates statics key mech.parameter data).map toStatus id
  else if mech.mechanismType = ckmAesCtr then
    match checkIv "AES-CTR" mech.parameter, material with
    | .error e, _ => (.error e, statics)
    | .ok (), .error e => (.error e, statics)
    | .ok (), .ok key =>
      (aesCtrEncrypt platform.crates statics key mech.parameter data).map toStatus id
  else
    let ciphertext : Except Status Bytes := do
      let modulus ← keyField obj.modulus "RSA key missing modulus"
      let exponent ← keyField obj.publicExponent "RSA key missing public exponent"
      toStatus (platform.backend.rsaOaepEncrypt env.call.seed modulus exponent data .sha256)
    (ciphertext, statics)

/-- `encrypt`. -/
def encrypt (key : Nat) (data : Bytes) : Body := do
  let (slotId, mech) ← admitRequest session mechanism isEncryptMechanism
    "Unsupported encryption mechanism" false
  let obj ← objectOfSlot slotId key "Key not found"
  .require (obj.canEncrypt = true) ⟨.permissionDenied, "Key cannot be used for encryption"⟩
  noteUse (.operation .encrypt) obj
  let encrypted ← onStatics (encryptData platform env mech obj data)
  return (⟨session, .encrypt mech.mechanismType (isFipsApproved mech.mechanismType),
    some ("key=" ++ toString key)⟩, .bytes encrypted)

/-- The decryption of `decrypt`. -/
def decryptData (mech : Mechanism) (obj : StoredObject) (data : Bytes) : Except Status Bytes :=
  let material := keyField obj.keyMaterial "Key has no material"
  if mech.mechanismType = ckmAesGcm then do
    toStatus (aes256GcmDecrypt platform.crates (← material) data)
  else if mech.mechanismType ∈ [ckmAesCbc, ckmAesCbcPad] then do
    checkIv "AES-CBC" mech.parameter
    toStatus (aesCbcDecrypt platform.crates (← material) mech.parameter data)
  else if mech.mechanismType = ckmAesCtr then do
    checkIv "AES-CTR" mech.parameter
    toStatus (aesCtrDecrypt platform.crates (← material) mech.parameter data)
  else do
    toStatus (platform.backend.rsaOaepDecrypt (← material) data .sha256)

/-- `decrypt`. -/
def decrypt (key : Nat) (data : Bytes) : Body := do
  let (slotId, mech) ← admitRequest session mechanism isEncryptMechanism
    "Unsupported decryption mechanism" false
  let obj ← objectOfSlot slotId key "Key not found"
  .require (obj.canDecrypt = true) ⟨.permissionDenied, "Key cannot be used for decryption"⟩
  noteUse (.operation .decrypt) obj
  let decrypted ← .reads fun _ ↦ decryptData platform mech obj data
  return (⟨session, .decrypt mech.mechanismType (isFipsApproved mech.mechanismType),
    some ("key=" ++ toString key)⟩, .bytes decrypted)

/-! ### Digests and random numbers -/

/-- `digest`. -/
def digest (maxDigestLength session : Nat) (mechanism : Option Mechanism) (data : Bytes) :
    Core Response := do
  let _ ← requireAuthenticatedSession session
  .require (data.length ≤ maxDigestLength) ⟨.invalidArgument, "Digest data size " ++
    toString data.length ++ " bytes exceeds maximum " ++ toString maxDigestLength ++ " bytes"⟩
  let mech ← .reads fun _ ↦
    mechanism.elim (.error ⟨.invalidArgument, "mechanism required"⟩) .ok
  let digest ← .reads fun _ ↦ toStatus (platform.backend.computeDigest mech.mechanismType data)
  return .bytes digest

/-- `generate_random`. -/
def generateRandom (maxRandomLength session length : Nat) : Body := do
  let _ ← requireAuthenticatedSession session
  .require (length < 2 ^ 32) ⟨.invalidArgument, "Requested length " ++ toString length ++
    " exceeds maximum representable size"⟩
  .require (length ≤ maxRandomLength) ⟨.invalidArgument, "Requested " ++ toString length ++
    " bytes exceeds maximum " ++ toString maxRandomLength ++ " bytes"⟩
  let bytes ← .reads fun _ ↦ match platform.backend.randomBytes env.call.seed length with
    | .ok bytes => .ok bytes
    | .error _ => .error ⟨.internal, "DRBG generation failed — health test failure"⟩
  return (⟨session, .generateRandom length, none⟩, .bytes bytes)

/-! ### Wrapping, unwrapping and deriving -/

/-- `wrap_key`. -/
def wrapKey (wrappingKey key : Nat) : Body := do
  let (slotId, mech) ← admitRequest session mechanism isWrapMechanism
      "Unsupported wrapping mechanism" false
  let wrapping ← objectOfSlot slotId wrappingKey "Wrapping key not found"
  .require (wrapping.canWrap = true) ⟨.permissionDenied, "Key cannot be used for wrapping"⟩
  let target ← objectOfSlot slotId key "Key not found"
  .require (target.extractable = true) ⟨.permissionDenied, "Key is not extractable — cannot wrap"⟩
  let wrappingBytes ← .reads fun _ ↦ keyField wrapping.keyMaterial "Wrapping key has no material"
  let bytes ← .reads fun _ ↦ keyField target.keyMaterial "Key has no material"
  noteUse (.operation .wrap) wrapping
  noteUse .wrapped target
  let wrapped ← .reads fun s ↦ toStatus
    (platform.backend.aesKeyWrap wrappingBytes bytes s.algorithmConfig.fipsApprovedOnly)
  return (⟨session, .wrapKey mech.mechanismType (isFipsApproved mech.mechanismType),
    some ("wrapping_key=" ++ toString wrappingKey ++ ", wrapped_key=" ++ toString key)⟩,
    .bytes wrapped)

/-- The object of `unwrap_key` before its template: the key type is the first one of the
template. -/
def unwrappedKey (handle : Nat) (key : Bytes) (template : Template) : StoredObject :=
  { newObject env slotId handle ckoSecretKey with
    keyType := some ((readUlongAttr template ckaKeyType).getD ckkGenericSecret)
    valueLen := some key.length
    keyMaterial := some key
    sensitive := true
    extractable := false }

/-- `unwrap_key`. -/
def unwrapKey (unwrappingKey : Nat) (wrapped : Bytes) (template : Template) : Body := do
  let (slotId, mech) ← admitRequest session mechanism isWrapMechanism
    "Unsupported unwrapping mechanism" false
  let unwrapping ← objectOfSlot slotId unwrappingKey "Unwrapping key not found"
  .require (unwrapping.canUnwrap = true) ⟨.permissionDenied, "Key cannot be used for unwrapping"⟩
  let unwrappingBytes ← .reads fun _ ↦
    keyField unwrapping.keyMaterial "Unwrapping key has no material"
  noteUse (.operation .unwrap) unwrapping
  let key ← .reads fun s ↦ toStatus
    (platform.backend.aesKeyUnwrap unwrappingBytes wrapped s.algorithmConfig.fipsApprovedOnly)
  let handle ← nextHandle
  let obj ← .reads fun _ ↦
    applyTemplateExcept [] (unwrappedKey env slotId handle key template) template
  let handle ← insertObject platform env.call.first obj
  return (⟨session, .unwrapKey mech.mechanismType (isFipsApproved mech.mechanismType),
    some ("unwrapping_key=" ++ toString unwrappingKey ++ ", new_key=" ++ toString handle)⟩,
    .handle handle)

/-- The OID of secp256r1. -/
def p256Oid : Bytes := [0x06, 0x08, 0x2A, 0x86, 0x48, 0xCE, 0x3D, 0x03, 0x01, 0x07]

/-- `is_p256_ec_params`: the OID occurs in the parameters. -/
def isP256Params (ecParams : Bytes) : Bool := ecParams.tails.any p256Oid.isPrefixOf

/-- The derivation of `derive_key`: the base key must name one of the two curves. -/
def deriveBytes (base : StoredObject) (baseBytes peer : Bytes) (derivedLen : Option Nat) :
    Except Status Bytes :=
  let ecParams := base.ecParams.getD []
  if isP384Params ecParams then toStatus (backend.ecdh .p384 baseBytes peer derivedLen)
  else if isP256Params ecParams then toStatus (backend.ecdh .p256 baseBytes peer derivedLen)
  else .error ⟨.invalidArgument, "Unsupported EC parameters — only P-256 and P-384 are supported"⟩

/-- The object of `derive_key` before its template. -/
def derivedKey (handle : Nat) (key : Bytes) : StoredObject :=
  { newObject env slotId handle ckoSecretKey with
    keyType := some ckkGenericSecret
    valueLen := some key.length
    keyMaterial := some key
    sensitive := true
    extractable := false }

/-- `derive_key`. -/
def deriveKey (baseKey : Nat) (template : Template) : Body := do
  let (slotId, mech) ← admitRequest session mechanism isDeriveMechanism
    "Unsupported derivation mechanism" false
  let base ← objectOfSlot slotId baseKey "Base key not found"
  .require (base.canDerive = true) ⟨.permissionDenied, "Key cannot be used for derivation"⟩
  let baseBytes ← .reads fun _ ↦ keyField base.keyMaterial "Base key has no material"
  .require (mech.parameter ≠ [])
    ⟨.invalidArgument, "Mechanism parameter must contain the peer public key"⟩
  noteUse (.operation .derive) base
  let key ← .reads fun _ ↦ deriveBytes platform.backend base baseBytes mech.parameter
    (readUlongAttr template ckaValueLen)
  let handle ← nextHandle
  let obj ← .reads fun _ ↦
    applyTemplateExcept [ckaValueLen] (derivedKey env slotId handle key) template
  let handle ← insertObject platform env.call.first obj
  return (⟨session, .deriveKey mech.mechanismType (isFipsApproved mech.mechanismType),
    some ("base_key=" ++ toString baseKey ++ ", derived_key=" ++ toString handle)⟩, .handle handle)

end Requests

/-! ### Requests -/

/-- A request of the protocol. -/
inductive Request where
  | openSession (slotId : Nat) (readWrite : Bool)
  | closeSession (session : Nat)
  | login (session userType : Nat) (pin : Bytes)
  | logout (session : Nat)
  | getTokenInfo (slotId session : Nat)
  | initToken (slotId : Nat) (soPin label : Bytes)
  | generateKey (session : Nat) (mechanism : Option Mechanism) (template : Template)
  | generateKeyPair (session : Nat) (mechanism : Option Mechanism)
      (pubTemplate privTemplate : Template)
  | destroyObject (session object : Nat)
  | findObjects (session : Nat) (template : Template) (maxCount : Nat)
  | getAttributeValue (session object : Nat) (attributeTypes : List Nat)
  | wrapKey (session : Nat) (mechanism : Option Mechanism) (wrappingKey key : Nat)
  | unwrapKey (session : Nat) (mechanism : Option Mechanism) (unwrappingKey : Nat)
      (wrapped : Bytes) (template : Template)
  | deriveKey (session : Nat) (mechanism : Option Mechanism) (baseKey : Nat) (template : Template)
  | copyObject (session object : Nat) (template : Template)
  | initPin (session : Nat) (pin : Bytes)
  | setPin (session : Nat) (oldPin newPin : Bytes)
  | sign (session : Nat) (mechanism : Option Mechanism) (key : Nat) (data : Bytes)
  | verify (session : Nat) (mechanism : Option Mechanism) (key : Nat) (data signature : Bytes)
  | encrypt (session : Nat) (mechanism : Option Mechanism) (key : Nat) (data : Bytes)
  | decrypt (session : Nat) (mechanism : Option Mechanism) (key : Nat) (data : Bytes)
  | digest (session : Nat) (mechanism : Option Mechanism) (data : Bytes)
  | generateRandom (session length : Nat)
  | healthCheck

namespace Request

variable (platform : Platform) (env : RequestEnv)

/-- The requests that act on the core and then record what they did. -/
def body? (config : ServiceConfig) : Request → Option Body
  | .openSession slotId readWrite => some (Daemon.openSession slotId readWrite)
  | .closeSession session => some (Daemon.closeSession session)
  | .logout session => some (Daemon.logout env session)
  | .generateKey session mechanism template =>
    some (Daemon.generateKey platform env session mechanism template)
  | .generateKeyPair session mechanism pubTemplate privTemplate =>
    some (Daemon.generateKeyPair platform env session mechanism pubTemplate privTemplate)
  | .destroyObject session object => some (Daemon.destroyObject env session object)
  | .findObjects session template maxCount => some (Daemon.findObjects session template maxCount)
  | .getAttributeValue session object attributeTypes =>
    some (Daemon.getAttributeValue session object attributeTypes)
  | .wrapKey session mechanism wrappingKey key =>
    some (Daemon.wrapKey platform session mechanism wrappingKey key)
  | .unwrapKey session mechanism unwrappingKey wrapped template =>
    some (Daemon.unwrapKey platform env session mechanism unwrappingKey wrapped template)
  | .deriveKey session mechanism baseKey template =>
    some (Daemon.deriveKey platform env session mechanism baseKey template)
  | .copyObject session object template =>
    some (Daemon.copyObject platform env session object template)
  | .initPin session pin => some (Daemon.initPin platform env session pin)
  | .setPin session oldPin newPin => some (Daemon.setPin platform env session oldPin newPin)
  | .sign session mechanism key data => some (Daemon.sign platform env session mechanism key data)
  | .verify session mechanism key data signature =>
    some (Daemon.verify platform session mechanism key data signature)
  | .encrypt session mechanism key data =>
    some (Daemon.encrypt platform env session mechanism key data)
  | .decrypt session mechanism key data =>
    some (Daemon.decrypt platform session mechanism key data)
  | .generateRandom session length =>
    some (Daemon.generateRandom platform env config.maxRandomLength session length)
  | .login .. | .getTokenInfo .. | .initToken .. | .digest .. | .healthCheck => none

/-- The handler of a request. -/
def handle (request : Request) : Handler Response := fun s ↦
  match request.body? platform env s.config with
  | some body => audited env body s
  | none =>
    match request with
    | .login session userType pin => Daemon.login platform env session userType pin s
    | .initToken slotId soPin label => Daemon.initToken platform env slotId soPin label s
    | .getTokenInfo slotId session => onCore (Daemon.getTokenInfo slotId session) s
    | .digest session mechanism data =>
      onCore (Daemon.digest platform s.config.maxDigestLength session mechanism data) s
    | _ => (.ok .healthy, s)

end Request

/-- The service after a request. -/
def HsmService.step (platform : Platform) (s : HsmService) (request : RequestEnv × Request) :
    HsmService :=
  (request.2.handle platform request.1 s).2

/-- The service after a run of requests. -/
def HsmService.run (platform : Platform) (s : HsmService)
    (requests : List (RequestEnv × Request)) : HsmService :=
  requests.foldl (step platform) s

/-! ### A concrete service -/

/-- Known answers, with a generator that draws AES keys of fives, and the keystream of such a key
for one initialisation vector. -/
def samplePlatform : Platform :=
  { Platform.recorded [] [] with
    crates := pinAnswers.crates.withKeystream (List.replicate 32 5) (List.replicate 16 2)
      [0x37, 0x1B, 0xBC, 0xF8, 0x16, 0x77, 0x12, 0x2A, 0xC4, 0x7F, 0x3D, 0x01, 0xF6, 0xE4,
        0x33, 0xC0]
    backend := { CryptoBackend.recorded [] with
      generateAesKey := fun _ keyLen _ ↦ .ok (List.replicate keyLen 5) } }

/-- A request of one client, at a time in seconds. -/
def requestAt (seconds : Nat) : RequestEnv :=
  ⟨callEnvAt seconds, "client", seconds, seconds, fun _ ↦ 0⟩

/-- The service with the default settings, over a library of one slot. -/
def freshService : HsmService :=
  .new ⟨1048576, 16777216, 5, 60⟩ (.cInitialize (.singleSlot false) .blank .empty .sample)
    (.new fun _ ↦ none)

/-- The handle of the second object of a concrete service. -/
def secondObject : Nat := 2018634633410

/-- The handle of the third object of a concrete service. -/
def thirdObject : Nat := 3199750642267

/-- A token is initialised, its security officer logs in on a session and generates an AES key. -/
def soService : HsmService :=
  freshService.run samplePlatform
    [(requestAt 0, .initToken 0 soPin1 []), (requestAt 0, .openSession 0 true),
      (requestAt 1, .login firstSession ckuSo soPin1),
      (requestAt 2, .generateKey firstSession (some ⟨ckmAesKeyGen, []⟩)
        [(ckaValueLen, ckUlongToBytes 32)])]

end CratonHsm.Daemon
