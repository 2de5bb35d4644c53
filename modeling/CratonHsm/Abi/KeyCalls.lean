import CratonHsm.Abi.ObjectCalls

/-!
# Key entry points

`C_GenerateKey`, `C_GenerateKeyPair`, `C_WrapKey`, `C_UnwrapKey` and `C_DeriveKey` of
`pkcs11_abi/functions.rs`, each with its checks in the order of the source. The templates of the
five calls are read by one loop that differs in the attributes it knows; unwrapping and deriving
also hold sensitivity to that of the key they start from.

Not every call asks for a login: a derivation does not look at whether its base key is private, and
neither does a wrapping at the key that is wrapped.
-/

set_option autoImplicit false

namespace CratonHsm

open Crypto Crypto.Encrypt Library Store
open CryptoBackend

/-- `MAX_SINGLE_BUFFER`. -/
def maxSingleBuffer : Nat := 64 * 1024 * 1024

/-! ### Steps shared by entry points -/

/-- A machine integer as a `u32`. -/
def asU32 (n : Nat) : Nat := n % 2 ^ 32

/-- A number of bytes in bits, with a `u32` that saturates. -/
def bitsOfBytes (n : Nat) : Nat := min (asU32 n * 8) (2 ^ 32 - 1)

/-- `stored_key_bits`. -/
def storedKeyBits (obj : StoredObject) : Option Nat :=
  (obj.modulusBits.map asU32).or (obj.valueLen.map bitsOfBytes)

/-- `extract_mechanism_param`: a parameter that is too long is dropped. -/
def extractMechanismParam (mechanismParam : Bytes) : Bytes :=
  if mechanismParam.length > maxSingleBuffer then [] else mechanismParam

/-- The two policy checks of an entry point need the configuration. -/
def checkPolicy (mechanism : Nat) (signing : Bool) : Program Hsm CkRv Unit :=
  .reads fun s ↦ validateMechanismForPolicy mechanism s.algorithmConfig signing

/-- `approved_services::enforce` under the configuration. -/
def checkApproved (mechanism : Nat) (keySizeBits : Option Nat) : Program Hsm CkRv Unit :=
  .reads fun s ↦ toAbi (enforce mechanism s.algorithmConfig keySizeBits)

/-- The key bytes of an object. -/
def keyBytes (obj : StoredObject) : Program Hsm CkRv Bytes :=
  .reads fun _ ↦ obj.keyMaterial.elim (.error .keyHandleInvalid) .ok

/-- The object is used as a key. -/
def noteUse (role : KeyRole) (obj : StoredObject) : Program Hsm CkRv Unit :=
  .update fun s ↦ { s with keyUses := ⟨role, obj⟩ :: s.keyUses }

/-- Hand bytes back through an output buffer: a null buffer asks for the length. -/
def deliver (output : Option Nat) (bytes : Bytes) : Reply :=
  match output with
  | none => .length bytes.length
  | some size => if size < bytes.length then .tooSmall bytes.length else .bytes bytes

/-! ### Templates of new keys -/

/-- A date in the template of a new key; a value of another length is ignored. -/
def dateOverride (current : Option (FixedBytes 8)) (value : Bytes) : Option (FixedBytes 8) :=
  if h : value.length = 8 then some ⟨value, h⟩ else if value.isEmpty then none else current

variable (flags : List Nat)

/-- One attribute in the template of a new key: the label, the identifier, the given boolean
attributes and, if the call reads them, the dates. Others are ignored. -/
def overrideAttribute (dates : Bool) (obj : StoredObject) (attrType : Nat) (value : Bytes) :
    Except CkRv StoredObject :=
  if attrType = ckaLabel then .ok { obj with label := value }
  else if attrType = ckaId then .ok { obj with id := value }
  else if attrType ∈ flags then do return setFlag obj attrType (← parseCkBbool value)
  else if dates ∧ attrType = ckaStartDate then
    .ok { obj with startDate := dateOverride obj.startDate value }
  else if dates ∧ attrType = ckaEndDate then
    .ok { obj with endDate := dateOverride obj.endDate value }
  else .ok obj

/-- A template of overrides. -/
def overrideTemplate (dates : Bool) (obj : StoredObject) (template : Template) :
    Except CkRv StoredObject :=
  template.foldlM (fun obj entry ↦ overrideAttribute flags dates obj entry.1 entry.2) obj

/-- The template of `C_GenerateKey`. -/
def applySecretTemplate : StoredObject → Template → Except CkRv StoredObject :=
  overrideTemplate [ckaToken, ckaPrivate, ckaSensitive, ckaExtractable, ckaEncrypt, ckaDecrypt,
    ckaWrap, ckaUnwrap] true

/-- `apply_pub_template`. -/
def applyPubTemplate : StoredObject → Template → Except CkRv StoredObject :=
  overrideTemplate [ckaToken, ckaVerify, ckaEncrypt, ckaWrap] true

/-- `apply_priv_template`. -/
def applyPrivTemplate : StoredObject → Template → Except CkRv StoredObject :=
  overrideTemplate [ckaToken, ckaSensitive, ckaExtractable, ckaSign, ckaDecrypt, ckaUnwrap,
    ckaDerive] true

/-- One attribute in the template of an unwrapped or derived key: it stays sensitive if the key it
comes from is, and it does not become extractable. -/
def inheritAttribute (sourceSensitive : Bool) (obj : StoredObject) (attrType : Nat) (value : Bytes)
    : Except CkRv StoredObject :=
  if attrType = ckaSensitive then do
    let requested ← parseCkBbool value
    if sourceSensitive && !requested then .error .templateInconsistent
    else return { obj with sensitive := requested }
  else if attrType = ckaExtractable then do
    let requested ← parseCkBbool value
    if !obj.extractable && requested then .error .templateInconsistent
    else return { obj with extractable := requested }
  else overrideAttribute flags false obj attrType value

/-- The template of an unwrapped or derived key. -/
def inheritTemplate (sourceSensitive : Bool) (obj : StoredObject) (template : Template) :
    Except CkRv StoredObject :=
  template.foldlM (fun obj entry ↦ inheritAttribute flags sourceSensitive obj entry.1 entry.2) obj

/-- `read_ulong_attr`. -/
def readUlongAttr (template : Template) (attrType : Nat) : Option Nat :=
  (template.find? (·.1 = attrType)).bind fun entry ↦ readCkUlong entry.2

/-- A new secret AES key: sensitive and not extractable. -/
def newSecretKey (now handle : Nat) (key : Bytes) (valueLen : Nat) : StoredObject :=
  { StoredObject.new now handle ckoSecretKey with
    keyType := some ckkAes
    keyMaterial := some key
    valueLen := some valueLen
    sensitive := true
    extractable := false
    canEncrypt := true
    canDecrypt := true }

section Keys

variable (platform : Platform) (env : CallEnv) (session mechanism : Nat)

/-- `C_GenerateKey`. -/
def cGenerateKey (template : Template) : Entry := do
  getHsm
  let session ← getSession session
  requireRw session
  .require (mechanism = ckmAesKeyGen) .mechanismInvalid
  checkPolicy mechanism false
  let template ← .reads fun _ ↦ parseTemplate template
  let keyLen := (readUlongAttr template ckaValueLen).getD 32
  checkApproved mechanism (some (bitsOfBytes keyLen))
  let key ← .reads fun s ↦ toAbi
    (platform.backend.generateAesKey env.seed keyLen s.algorithmConfig.fipsApprovedOnly)
  let handle ← nextHandle
  let obj ← .reads fun _ ↦ applySecretTemplate
    { newSecretKey env.now handle key keyLen with isPrivate := true } template
  let _ ← insertObject platform.crates platform.codec env.first obj
  return .handle handle

/-! ### Key pairs -/

/-- What a key generation makes: the key type, the private key, the public fields that both objects
of the pair get, and what each can be used for. -/
structure KeyPairDraft where
  keyType : Nat
  privateKey : Bytes
  publicFields : StoredObject → StoredObject
  publicUses : StoredObject → StoredObject
  privateUses : StoredObject → StoredObject

/-- The public object of a pair, before its template. -/
def KeyPairDraft.publicObject (draft : KeyPairDraft) (now handle : Nat) : StoredObject :=
  let obj := { StoredObject.new now handle ckoPublicKey with keyType := some draft.keyType }
  { draft.publicUses (draft.publicFields obj) with isPrivate := false, sensitive := false }

/-- The private object of a pair, before its template. -/
def KeyPairDraft.privateObject (draft : KeyPairDraft) (now handle : Nat) : StoredObject :=
  let obj := { StoredObject.new now handle ckoPrivateKey with
    keyType := some draft.keyType
    keyMaterial := some draft.privateKey }
  { draft.privateUses (draft.publicFields obj) with
    sensitive := true
    extractable := false
    isPrivate := true }

/-- The pairwise consistency test of a new pair; a failure puts the library into its error state. -/
def requirePairwise (passed : Bool) : Program Hsm CkRv Unit := fun s ↦
  if passed then (.ok (), s) else (.error .generalError, { s with postFailed := true })

/-- The end of every key pair generation: both objects are built, then both are inserted. -/
def insertKeyPair (draft : KeyPairDraft) (pubTemplate privTemplate : Template) : Entry := do
  let pubHandle ← nextHandle
  let pub ← .reads fun _ ↦ applyPubTemplate (draft.publicObject env.now pubHandle) pubTemplate
  let privHandle ← nextHandle
  let priv ← .reads fun _ ↦ applyPrivTemplate (draft.privateObject env.now privHandle) privTemplate
  let _ ← insertObject platform.crates platform.codec env.first pub
  let _ ← insertObject platform.crates platform.codec env.second priv
  return .handlePair pubHandle privHandle

/-- The modulus length that a template asks for. -/
def modulusBitsOf (pubTemplate : Template) : Nat :=
  asU32 ((readUlongAttr pubTemplate ckaModulusBits).getD 2048)

/-- The curve parameters in the template of a public key. -/
def ecParamsOf (pubTemplate : Template) : Bytes :=
  ((pubTemplate.find? (·.1 = ckaEcParams)).map Prod.snd).getD []

/-- The objects of an RSA pair. -/
def rsaDraft (key modulus : Bytes) (bits : Nat) (exponent : Bytes) : KeyPairDraft where
  keyType := ckkRsa
  privateKey := key
  publicFields := fun obj ↦ { obj with
    modulus := some modulus, modulusBits := some bits, publicExponent := some exponent }
  publicUses := fun obj ↦ { obj with canVerify := true, canEncrypt := true }
  privateUses := fun obj ↦ { obj with canSign := true, canDecrypt := true }

/-- An RSA pair, with the outcome of its pairwise test. -/
def rsaPair (fips : Bool) (pubTemplate : Template) : Except CkRv (KeyPairDraft × Bool) := do
  let backend := platform.backend
  let bits := modulusBitsOf pubTemplate
  let (key, modulus, exponent) ← toAbi (backend.generateRsaKeyPair env.seed bits fips)
  return (rsaDraft key modulus bits exponent,
    pairwiseSignTest (backend.rsaPkcs1v15Sign env.seed key · (some .sha256))
      (backend.rsaPkcs1v15Verify modulus exponent · · (some .sha256)))

/-- A pair on a curve, with the outcome of its pairwise test. -/
def ecPair (ecParams : Bytes) (curve : EcCurve) : Except CkRv (KeyPairDraft × Bool) := do
  let backend := platform.backend
  let (key, point) ← toAbi (backend.generateEcKeyPair curve env.seed)
  return ({
    keyType := ckkEc
    privateKey := key
    publicFields := fun obj ↦ { obj with ecParams := some ecParams, ecPoint := some point }
    publicUses := fun obj ↦ { obj with canVerify := true }
    privateUses := fun obj ↦ { obj with canSign := true, canDerive := true } },
    pairwiseSignTest (backend.ecdsaSign curve env.seed key) (backend.ecdsaVerify curve point))

/-- An Ed25519 pair, with the outcome of its pairwise test. -/
def ed25519Pair : Except CkRv (KeyPairDraft × Bool) := do
  let backend := platform.backend
  let (key, point) ← toAbi (backend.generateEd25519KeyPair env.seed)
  return ({
    keyType := ckkEcEdwards
    privateKey := key
    publicFields := fun obj ↦ { obj with publicKeyData := some point, ecPoint := some point }
    publicUses := fun obj ↦ { obj with canVerify := true }
    privateUses := fun obj ↦ { obj with canSign := true } },
    pairwiseSignTest (backend.ed25519Sign env.seed key) (backend.ed25519Verify point))

/-- A post-quantum key pair of a mechanism: key type, private key, public key, and whether it passes
its pairwise test. -/
def pqcKeygen (backend : CryptoBackend) (seed mechanism : Nat) :
    Except CkRv (Nat × Bytes × Bytes × Bool) :=
  match mechanismToMlKemVariant mechanism, mechanismToMlDsaVariant mechanism,
      mechanismToSlhDsaVariant mechanism with
  | some variant, _, _ => do
    let (key, publicKey) ← toAbi (backend.mlKemKeygen seed variant)
    return (ckkMlKem, key, publicKey, backend.mlKemPairwiseTest seed variant key publicKey)
  | none, some variant, _ => do
    let (key, publicKey) ← toAbi (backend.mlDsaKeygen seed variant)
    return (ckkMlDsa, key, publicKey, pairwiseSignTest
      (backend.mlDsaSign seed key · variant) (backend.mlDsaVerify publicKey · · variant))
  | none, none, some variant => do
    let (key, publicKey) ← toAbi (backend.slhDsaKeygen seed variant)
    return (ckkSlhDsa, key, publicKey, pairwiseSignTest
      (backend.slhDsaSign seed key · variant) (backend.slhDsaVerify publicKey · · variant))
  | none, none, none => .error .mechanismInvalid

/-- A post-quantum pair, with the outcome of its pairwise test. -/
def pqcPair : Except CkRv (KeyPairDraft × Bool) := do
  let (keyType, key, publicKey, passed) ← pqcKeygen platform.backend env.seed mechanism
  return ({
    keyType := keyType
    privateKey := key
    publicFields := fun obj ↦ { obj with publicKeyData := some publicKey }
    publicUses := fun obj ↦ { obj with
      canVerify := keyType != ckkMlKem, canDerive := keyType == ckkMlKem }
    privateUses := fun obj ↦ { obj with
      canSign := keyType != ckkMlKem, canDerive := keyType == ckkMlKem } }, passed)

/-- What every key pair generation does with its pair. -/
def generateKeypair (pair : Bool → Except CkRv (KeyPairDraft × Bool))
    (pubTemplate privTemplate : Template) : Entry := do
  let (draft, passed) ← .reads fun s ↦ pair s.algorithmConfig.fipsApprovedOnly
  requirePairwise passed
  insertKeyPair platform env draft pubTemplate privTemplate

/-- `generate_rsa_keypair`. -/
def generateRsaKeypair (pubTemplate : Template) : Template → Entry :=
  generateKeypair platform env (rsaPair platform env · pubTemplate) pubTemplate

/-- `generate_ec_keypair`. -/
def generateEcKeypair (pubTemplate : Template) : Template → Entry :=
  let ecParams := ecParamsOf pubTemplate
  generateKeypair platform env (fun _ ↦ ecPair platform env ecParams (curveOfParams ecParams))
    pubTemplate

/-- `generate_ed25519_keypair`. -/
def generateEd25519Keypair : Template → Template → Entry :=
  generateKeypair platform env fun _ ↦ ed25519Pair platform env

/-- `generate_pqc_keypair`. -/
def generatePqcKeypair : Template → Template → Entry :=
  generateKeypair platform env fun _ ↦ pqcPair platform env mechanism

/-- `C_GenerateKeyPair`. -/
def cGenerateKeyPair (pubTemplate privTemplate : Template) : Entry := do
  getHsm
  let session ← getSession session
  requireRw session
  .require (isKeypairGenMechanism mechanism = true) .mechanismInvalid
  checkPolicy mechanism false
  let pubTemplate ← .reads fun _ ↦ parseTemplate pubTemplate
  let privTemplate ← .reads fun _ ↦ parseTemplate privTemplate
  checkApproved mechanism
    (if mechanism = ckmRsaPkcsKeyPairGen then some (modulusBitsOf pubTemplate) else none)
  if mechanism = ckmRsaPkcsKeyPairGen then generateRsaKeypair platform env pubTemplate privTemplate
  else if mechanism = ckmEcKeyPairGen then generateEcKeypair platform env pubTemplate privTemplate
  else if mechanism = ckmEddsa then generateEd25519Keypair platform env pubTemplate privTemplate
  else generatePqcKeypair platform env mechanism pubTemplate privTemplate

/-! ### Wrapping, unwrapping and deriving -/

/-- A boolean among the extra attributes, absent meaning false. -/
def extraFlag (obj : StoredObject) (attrType : Nat) : Bool :=
  (obj.extraAttributes[attrType]?.map attributeBool).getD false

/-- `C_WrapKey`. The key that is wrapped need not be within reach of the session. -/
def cWrapKey (wrappingKey key : Nat) (output : Option Nat) : Entry := do
  getHsm
  let session ← getSession session
  .require (isWrapMechanism mechanism = true) .mechanismInvalid
  checkPolicy mechanism false
  let wrapping ← getObject wrappingKey
  requireLoginFor session wrapping
  .require (wrapping.canWrap = true) .keyFunctionNotPermitted
  checkApproved mechanism (storedKeyBits wrapping)
  let wrappingBytes ← keyBytes wrapping
  let obj ← getObject key
  .require (obj.extractable = true) .keyFunctionNotPermitted
  .require (extraFlag obj ckaWrapWithTrusted = true → extraFlag wrapping ckaTrusted = true)
    .keyFunctionNotPermitted
  let bytes ← keyBytes obj
  noteUse (.operation .wrap) wrapping
  noteUse .wrapped obj
  let wrapped ← .reads fun s ↦ toAbi
    (platform.backend.aesKeyWrap wrappingBytes bytes s.algorithmConfig.fipsApprovedOnly)
  return deliver output wrapped

/-- `C_UnwrapKey`. -/
def cUnwrapKey (unwrappingKey : Nat) (wrapped : Bytes) (template : Template) : Entry := do
  getHsm
  let session ← getSession session
  requireRw session
  .require (isWrapMechanism mechanism = true) .mechanismInvalid
  checkPolicy mechanism false
  let unwrapping ← getObject unwrappingKey
  requireLoginFor session unwrapping
  .require (unwrapping.canUnwrap = true) .keyFunctionNotPermitted
  checkApproved mechanism (storedKeyBits unwrapping)
  let unwrappingBytes ← keyBytes unwrapping
  .require (wrapped.length ≤ maxSingleBuffer) .wrappedKeyLenRange
  noteUse (.operation .unwrap) unwrapping
  let key ← .reads fun s ↦ toAbi
    (platform.backend.aesKeyUnwrap unwrappingBytes wrapped s.algorithmConfig.fipsApprovedOnly)
  let template ← .reads fun _ ↦ parseTemplate template
  let handle ← nextHandle
  let obj ← .reads fun _ ↦ inheritTemplate [ckaToken, ckaEncrypt, ckaDecrypt] unwrapping.sensitive
    (newSecretKey env.now handle key key.length) template
  let _ ← insertObject platform.crates platform.codec env.first obj
  return .handle handle

/-- The three lengths of an AES key in bytes. -/
def isAesKeyLen (length : Nat) : Bool := length = 16 || length = 24 || length = 32

/-- The secret of a derivation: a decapsulation, or ECDH on the curve of the base key. -/
def deriveSecret (backend : CryptoBackend) (mechanism : Nat) (base : StoredObject)
    (baseBytes mechanismParam : Bytes) (requestedLen : Option Nat) : HsmResult Bytes :=
  match mechanismToMlKemVariant mechanism with
  | some variant => backend.mlKemDecapsulate baseBytes mechanismParam variant
  | none => backend.ecdh (curveOf base) baseBytes mechanismParam requestedLen

/-- `C_DeriveKey`. A private base key does not ask for a login. -/
def cDeriveKey (mechanismParam : Bytes) (baseKey : Nat) (template : Template) : Entry := do
  getHsm
  let session ← getSession session
  requireRw session
  .require (isDeriveMechanism mechanism = true ∨ isMlKemMechanism mechanism = true)
    .mechanismInvalid
  checkPolicy mechanism false
  let base ← getObject baseKey
  .require (base.canDerive = true) .keyFunctionNotPermitted
  checkApproved mechanism (storedKeyBits base)
  let baseBytes ← keyBytes base
  let mechanismParam := extractMechanismParam mechanismParam
  .require (mechanismParam ≠ []) .mechanismParamInvalid
  let template ← .reads fun _ ↦ parseTemplate template
  let requestedLen := readUlongAttr template ckaValueLen
  .require (requestedLen.all isAesKeyLen = true) .keySizeRange
  noteUse (.operation .derive) base
  let secret ← .reads fun _ ↦ toAbi
    (deriveSecret platform.backend mechanism base baseBytes mechanismParam requestedLen)
  .require (isAesKeyLen secret.length = true) .keySizeRange
  let handle ← nextHandle
  let obj ← .reads fun _ ↦ inheritTemplate [ckaToken] base.sensitive
    (newSecretKey env.now handle secret secret.length) template
  let _ ← insertObject platform.crates platform.codec env.first obj
  return .handle handle

end Keys

end CratonHsm
