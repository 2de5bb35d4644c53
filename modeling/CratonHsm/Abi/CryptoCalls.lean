import CratonHsm.Abi.KeyCalls
import CratonHsm.Session.OperationState

/-!
# Cryptographic entry points

The encryption, decryption, signature, verification and digest calls of `pkcs11_abi/functions.rs`,
with `C_GetOperationState`, `C_SetOperationState` and `C_GenerateRandom`, each with its checks in
the order of the source. A session has at most one active operation; an error on the way through a
call ends it, except where the source says otherwise.

`C_Encrypt`, `C_Decrypt` and `C_Sign` have one body (`singleShot`), which looks the key up by its
handle. The `Final` calls use the object that the `Init` call cached, when there is one
(`operationObject`).

Scope. An output buffer is its size, or nothing for a null pointer. The handle under which a parsed
RSA key may be cached is left out.
-/

set_option autoImplicit false

namespace CratonHsm

open Crypto Crypto.Encrypt Library Store

/-- `MAX_MULTIPART_ACCUMULATION`. -/
def maxMultipartAccumulation : Nat := 64 * 1024 * 1024

/-! ### Steps shared by entry points -/

variable (handle : Nat) (session : Session)

/-- Set or end the active operation of a session. -/
def putOperation (operation : Option ActiveOperation) : Program Hsm CkRv Unit :=
  putSession handle { session with activeOperation := operation }

/-- Answer from the state; an error ends the active operation. -/
def orAbort {Result : Type} (f : Hsm → Except CkRv Result) : Program Hsm CkRv Result := fun s ↦
  match f s with
  | .ok result => (.ok result, s)
  | .error e => (.error e, (putOperation handle session none s).2)

/-- Go on if the condition holds, else end the active operation. -/
def requireOrAbort (condition : Prop) [Decidable condition] (e : CkRv) : Program Hsm CkRv Unit :=
  orAbort handle session fun _ ↦ if condition then .ok () else .error e

/-- Run a cipher over the process-wide tables; an error ends the active operation. -/
def runCipher (run : CipherStatics → Except CkRv Bytes × CipherStatics) :
    Program Hsm CkRv Bytes := do
  let result ← .view fun s ↦ run s.statics
  .update fun s ↦ { s with statics := result.2 }
  orAbort handle session fun _ ↦ result.1

/-- The object of a key handle, with the reference of its cell. -/
def keyObject (key : Nat) : Program Hsm CkRv (Nat × StoredObject) :=
  .reads fun s ↦
    match s.objectStore.objects.refs[key]?, s.objectStore.objects.get? key with
    | some ref, some obj => .ok (ref, obj)
    | _, _ => .error .keyHandleInvalid

/-- The object of an operation: the cached one, or the one under the key handle. -/
def Hsm.keyOf (s : Hsm) (keyHandle : Nat) (cachedObject : Option Nat) : Except CkRv StoredObject :=
  match cachedObject with
  | some ref => (s.objectStore.objects.deref ref).elim (.error .generalError) .ok
  | none => toAbi (s.objectStore.getObject keyHandle)

/-- The object of an operation; without one the operation ends. -/
def operationObject (keyHandle : Nat) (cachedObject : Option Nat) : Program Hsm CkRv StoredObject :=
  orAbort handle session fun s ↦ s.keyOf keyHandle cachedObject

/-- The key bytes of an object; without any the operation ends. -/
def operationKey (obj : StoredObject) : Program Hsm CkRv Bytes :=
  orAbort handle session fun _ ↦ obj.keyMaterial.elim (.error .keyHandleInvalid) .ok

/-- What an `Init` call makes of `check_lifecycle`. `catch_unwind` answers a panic. -/
def lifecycleAnswer : Except Panic (HsmResult Unit) → Except CkRv Unit
  | .ok (.ok ()) => .ok ()
  | .ok (.error _) => .error .keyFunctionNotPermitted
  | .error _ => .error .generalError

/-- The checks of an `Init` call on its key: the permission flag, the lifecycle and the approved
services. -/
def admitKey (env : CallEnv) (mechanism : Nat) (permitted : Bool) (use : KeyUse)
    (obj : StoredObject) : Program Hsm CkRv Unit := do
  .require (permitted = true) .keyFunctionNotPermitted
  .reads fun _ ↦ lifecycleAnswer (obj.checkLifecycle env.now use)
  checkApproved mechanism (storedKeyBits obj)

/-- The hasher of a signature mechanism with a built-in hash. -/
def signHasher (mechanism : Nat) : Option Hasher :=
  (signMechanismToDigestMechanism mechanism).bind fun digest ↦ (createHasher digest).toOption

section Calls

variable (platform : Platform) (env : CallEnv)

/-! ### Single-shot calls -/

variable (handle mechanism : Nat) (op : SignatureOperation) (part : Bytes)

/-- The body of `C_Encrypt`, `C_Decrypt` and `C_Sign`. A null output asks for an estimate of the
length. The output is computed before the size of the buffer is looked at. -/
def singleShot (session : Session) (use : KeyUse) (keyHandle : Nat) (data : Bytes)
    (output : Option Nat) (estimate : StoredObject → Except CkRv Nat)
    (run : StoredObject → Bytes → CipherStatics → Except CkRv Bytes × CipherStatics) : Entry := do
  requireOrAbort handle session (data.length ≤ maxSingleBuffer) .dataLenRange
  let obj ← operationObject handle session keyHandle none
  let key ← operationKey handle session obj
  match output with
  | none => do
    let length ← orAbort handle session fun _ ↦ estimate obj
    return .length length
  | some size => do
    noteUse (.operation use) obj
    let bytes ← runCipher handle session (run obj key)
    if size < bytes.length then return .tooSmall bytes.length
    else do
      putOperation handle session none
      return .bytes bytes

/-! ### Encryption and decryption -/

/-- The initialisation vector that `C_EncryptInit` refuses: all zero. -/
def isZeroIv (mechanismParam : Bytes) : Bool :=
  if mechanism ∈ [ckmAesCbc, ckmAesCbcPad] then
    mechanismParam.length = 16 && isAllZero mechanismParam
  else if mechanism = ckmAesCtr then
    mechanismParam.length ≥ 16 && isAllZero (mechanismParam.take 16)
  else false

/-- `C_EncryptInit`. -/
def cEncryptInit (mechanismParam : Bytes) (key : Nat) : Entry := do
  getHsm
  let session ← getSession handle
  .require (session.activeOperation = none) .operationActive
  .require (isEncryptMechanism mechanism = true) .mechanismInvalid
  checkPolicy mechanism false
  let (ref, obj) ← keyObject key
  requireLoginFor session obj
  admitKey env mechanism obj.canEncrypt .encrypt obj
  let mechanismParam := extractMechanismParam mechanismParam
  .require (isZeroIv mechanism mechanismParam = false) .mechanismParamInvalid
  putOperation handle session (some (.encrypt ⟨mechanism, key, mechanismParam, [], some ref⟩))
  return .done

/-- `C_DecryptInit`, which takes any initialisation vector. -/
def cDecryptInit (mechanismParam : Bytes) (key : Nat) : Entry := do
  getHsm
  let session ← getSession handle
  .require (session.activeOperation = none) .operationActive
  .require (isEncryptMechanism mechanism = true) .mechanismInvalid
  checkPolicy mechanism false
  let (ref, obj) ← keyObject key
  requireLoginFor session obj
  admitKey env mechanism obj.canDecrypt .decrypt obj
  putOperation handle session
    (some (.decrypt ⟨mechanism, key, extractMechanismParam mechanismParam, [], some ref⟩))
  return .done

/-- `C_Encrypt`. -/
def cEncrypt (data : Bytes) (output : Option Nat) : Entry := do
  getHsm
  let session ← getSession handle
  match session.activeOperation with
  | some (.encrypt op) =>
    singleShot handle session .encrypt op.keyHandle data output
      (CryptoBackend.estimatedCiphertextLen op.mechanism · data)
      fun obj key statics ↦ platform.backend.encryptData platform.crates env.seed statics
        op.mechanism op.mechanismParam obj key data
  | _ => .fail .operationNotInitialized

/-- `C_Decrypt`. -/
def cDecrypt (data : Bytes) (output : Option Nat) : Entry := do
  getHsm
  let session ← getSession handle
  match session.activeOperation with
  | some (.decrypt op) =>
    singleShot handle session .decrypt op.keyHandle data output
      (fun _ ↦ CryptoBackend.estimatedPlaintextLen op.mechanism data)
      fun _ key statics ↦ (platform.backend.decryptData platform.crates op.mechanism
        op.mechanismParam key data, statics)
  | _ => .fail .operationNotInitialized

/-- The data of an operation with a further part, if the mechanism takes parts and the limit on
accumulated data is kept. -/
def appendPart (op : CipherOperation) (part : Bytes) : Except CkRv CipherOperation :=
  if !encryptMechanismSupportsMultipart op.mechanism then .error .mechanismInvalid
  else if op.data.length + part.length > maxMultipartAccumulation then .error .dataLenRange
  else .ok { op with data := op.data ++ part }

/-- `C_EncryptUpdate`: nothing comes out before the end. -/
def cEncryptUpdate : Entry := do
  getHsm
  let session ← getSession handle
  match session.activeOperation with
  | some (.encrypt op) => do
    let op ← orAbort handle session fun _ ↦ appendPart op part
    putOperation handle session (some (.encrypt op))
    return .bytes []
  | _ => .fail .operationNotInitialized

/-- `C_DecryptUpdate`. -/
def cDecryptUpdate : Entry := do
  getHsm
  let session ← getSession handle
  match session.activeOperation with
  | some (.decrypt op) => do
    let op ← orAbort handle session fun _ ↦ appendPart op part
    putOperation handle session (some (.decrypt op))
    return .bytes []
  | _ => .fail .operationNotInitialized

/-- The modes that take parts, on the accumulated data of `C_EncryptFinal`. -/
def encryptParts (op : CipherOperation) (key : Bytes) (statics : CipherStatics) :
    Except CkRv Bytes × CipherStatics :=
  if op.mechanism ∈ [ckmAesCbc, ckmAesCbcPad] then
    if op.mechanismParam.isEmpty then (.error .mechanismParamInvalid, statics)
    else (aesCbcEncrypt platform.crates statics key op.mechanismParam op.data).map toAbi id
  else if op.mechanism = ckmAesCtr then
    if op.mechanismParam.isEmpty then (.error .mechanismParamInvalid, statics)
    else (aesCtrEncrypt platform.crates statics key op.mechanismParam op.data).map toAbi id
  else (.error .mechanismInvalid, statics)

/-- The modes that take parts, on the accumulated data of `C_DecryptFinal`. -/
def decryptParts (op : CipherOperation) (key : Bytes) : Except CkRv Bytes :=
  if op.mechanism ∈ [ckmAesCbc, ckmAesCbcPad] then
    if op.mechanismParam.isEmpty then .error .mechanismParamInvalid
    else toAbi (aesCbcDecrypt platform.crates key op.mechanismParam op.data)
  else if op.mechanism = ckmAesCtr then
    if op.mechanismParam.isEmpty then .error .mechanismParamInvalid
    else toAbi (aesCtrDecrypt platform.crates key op.mechanismParam op.data)
  else .error .mechanismInvalid

/-- The output of a `Final` call on the accumulated data, after which the operation is over. -/
def finalOutput (session : Session) (use : KeyUse) (op : CipherOperation)
    (run : Bytes → CipherStatics → Except CkRv Bytes × CipherStatics) : Program Hsm CkRv Bytes := do
  let obj ← operationObject handle session op.keyHandle op.cachedObject
  let key ← operationKey handle session obj
  noteUse (.operation use) obj
  let bytes ← runCipher handle session (run key)
  putOperation handle session none
  return bytes

/-- `C_EncryptFinal`. The output is held against the buffer once more when it is there. -/
def cEncryptFinal (output : Option Nat) : Entry := do
  getHsm
  let session ← getSession handle
  match session.activeOperation with
  | some (.encrypt op) => do
    requireOrAbort handle session (encryptMechanismSupportsMultipart op.mechanism = true)
      .mechanismInvalid
    match output with
    | none => return .length (op.data.length + 16)
    | some size =>
      if size < op.data.length + 16 then return .tooSmall (op.data.length + 16)
      else do
        let bytes ← finalOutput handle session .encrypt op (encryptParts platform op)
        if size < bytes.length then return .tooSmall bytes.length else return .bytes bytes
  | _ => .fail .operationNotInitialized

/-- `C_DecryptFinal`. -/
def cDecryptFinal (output : Option Nat) : Entry := do
  getHsm
  let session ← getSession handle
  match session.activeOperation with
  | some (.decrypt op) => do
    requireOrAbort handle session (encryptMechanismSupportsMultipart op.mechanism = true)
      .mechanismInvalid
    match output with
    | none => return .length op.data.length
    | some size =>
      if size < op.data.length then return .tooSmall op.data.length
      else do
        let bytes ← finalOutput handle session .decrypt op fun key statics ↦
          (decryptParts platform op key, statics)
        return .bytes bytes
  | _ => .fail .operationNotInitialized

/-! ### Signatures -/

/-- `C_SignInit`. Every signature asks for a login, also with a key that is not private. -/
def cSignInit (key : Nat) : Entry := do
  getHsm
  let session ← getSession handle
  .require (session.state.isLoggedIn = true) .userNotLoggedIn
  .require (session.activeOperation = none) .operationActive
  .require (mechanism ≠ ckmSha1RsaPkcs) .mechanismInvalid
  .require (isSignMechanism mechanism = true) .mechanismInvalid
  checkPolicy mechanism true
  let (ref, obj) ← keyObject key
  admitKey env mechanism obj.canSign .sign obj
  putOperation handle session (some (.sign ⟨mechanism, key, [], signHasher mechanism, some ref⟩))
  return .done

/-- `C_VerifyInit`. -/
def cVerifyInit (key : Nat) : Entry := do
  getHsm
  let session ← getSession handle
  .require (session.activeOperation = none) .operationActive
  .require (isSignMechanism mechanism = true) .mechanismInvalid
  checkPolicy mechanism false
  let (ref, obj) ← keyObject key
  requireLoginFor session obj
  admitKey env mechanism obj.canVerify .verify obj
  putOperation handle session (some (.verify ⟨mechanism, key, [], signHasher mechanism, some ref⟩))
  return .done

/-- The estimate of a signature's length as an answer. -/
def signatureEstimate (obj : StoredObject) : Except CkRv Nat :=
  (CryptoBackend.estimatedSignatureLen mechanism obj).elim (.error .mechanismInvalid) .ok

/-- `C_Sign`. -/
def cSign (data : Bytes) (output : Option Nat) : Entry := do
  getHsm
  let session ← getSession handle
  match session.activeOperation with
  | some (.sign op) =>
    singleShot handle session .sign op.keyHandle data output (signatureEstimate op.mechanism)
      fun obj key statics ↦
        (toAbi (platform.backend.signSingleShot env.seed op.mechanism key data obj), statics)
  | _ => .fail .operationNotInitialized

/-- The answer of a verification. -/
def verifyReply : HsmResult Bool → Except CkRv Reply
  | .ok true => .ok .done
  | .ok false => .error .signatureInvalid
  | .error e => .error e.toRv

/-- `C_Verify`. -/
def cVerify (data signature : Bytes) : Entry := do
  getHsm
  let session ← getSession handle
  match session.activeOperation with
  | some (.verify op) => do
    requireOrAbort handle session
      (data.length ≤ maxSingleBuffer ∧ signature.length ≤ maxSingleBuffer) .dataLenRange
    let obj ← operationObject handle session op.keyHandle none
    noteUse (.operation .verify) obj
    putOperation handle session none
    .reads fun _ ↦ verifyReply
      (platform.backend.verifySingleShot op.mechanism data signature obj)
  | _ => .fail .operationNotInitialized

/-- A further part of a signed message: it goes to the hasher, or is accumulated when the mechanism
has no built-in hash. -/
def signPart : Except CkRv SignatureOperation :=
  if op.data.length + part.length > maxMultipartAccumulation then .error .dataLenRange
  else
    match op.hasher with
    | some hasher => .ok { op with hasher := some (hasherUpdate hasher part) }
    | none =>
      if signMechanismSupportsMultipart op.mechanism then .error .generalError
      else .ok { op with data := op.data ++ part }

/-- `C_SignUpdate`. -/
def cSignUpdate : Entry := do
  getHsm
  let session ← getSession handle
  match session.activeOperation with
  | some (.sign op) => do
    let op ← orAbort handle session fun _ ↦ signPart op part
    putOperation handle session (some (.sign op))
    return .done
  | _ => .fail .operationNotInitialized

/-- `C_VerifyUpdate`. -/
def cVerifyUpdate : Entry := do
  getHsm
  let session ← getSession handle
  match session.activeOperation with
  | some (.verify op) => do
    let op ← orAbort handle session fun _ ↦ signPart op part
    putOperation handle session (some (.verify op))
    return .done
  | _ => .fail .operationNotInitialized

/-- The signature of `C_SignFinal`: of the digest when there is a hasher, else of the accumulated
data. -/
def signParts (obj : StoredObject) (key : Bytes) : HsmResult Bytes :=
  match op.hasher with
  | some hasher => platform.backend.signPrehashed env.seed op.mechanism key
      (platform.backend.finalize hasher) obj
  | none => platform.backend.signSingleShot env.seed op.mechanism key op.data obj

/-- `C_SignFinal`. A length query looks the key up by its handle, the signature takes the cached
object; a buffer that is too small ends the operation. -/
def cSignFinal (output : Option Nat) : Entry := do
  getHsm
  let session ← getSession handle
  match session.activeOperation with
  | some (.sign op) =>
    match output with
    | none => do
      let obj ← operationObject handle session op.keyHandle none
      let length ← orAbort handle session fun _ ↦ signatureEstimate op.mechanism obj
      return .length length
    | some size => do
      let obj ← operationObject handle session op.keyHandle op.cachedObject
      let key ← operationKey handle session obj
      noteUse (.operation .sign) obj
      putOperation handle session none
      let signature ← .reads fun _ ↦ toAbi (signParts platform env op obj key)
      if size < signature.length then return .tooSmall signature.length
      else return .bytes signature
  | _ => .fail .operationNotInitialized

/-- The verification of `C_VerifyFinal`. -/
def verifyParts (signature : Bytes) (obj : StoredObject) : HsmResult Bool :=
  match op.hasher with
  | some hasher => platform.backend.verifyPrehashed op.mechanism
      (platform.backend.finalize hasher) signature obj
  | none => platform.backend.verifySingleShot op.mechanism op.data signature obj

/-- `C_VerifyFinal`. -/
def cVerifyFinal (signature : Bytes) : Entry := do
  getHsm
  let session ← getSession handle
  match session.activeOperation with
  | some (.verify op) => do
    requireOrAbort handle session (signature.length ≤ maxSingleBuffer) .dataLenRange
    let obj ← operationObject handle session op.keyHandle op.cachedObject
    noteUse (.operation .verify) obj
    putOperation handle session none
    .reads fun _ ↦ verifyReply (verifyParts platform op signature obj)
  | _ => .fail .operationNotInitialized

/-! ### Digests -/

/-- `C_DigestInit`. -/
def cDigestInit : Entry := do
  getHsm
  let session ← getSession handle
  .require (session.activeOperation = none) .operationActive
  .require (isDigestMechanism mechanism = true) .mechanismInvalid
  checkPolicy mechanism false
  let hasher ← .reads fun _ ↦ toAbi (createHasher mechanism)
  putOperation handle session (some (.digest ⟨mechanism, some hasher, []⟩))
  return .done

/-- `C_Digest`, which refuses to follow an update. The digest is computed before the buffer is
looked at. -/
def cDigest (data : Bytes) (output : Option Nat) : Entry := do
  getHsm
  let session ← getSession handle
  match session.activeOperation with
  | some (.digest op) => do
    requireOrAbort handle session (op.accumulatedInput = []) .operationActive
    requireOrAbort handle session (data.length ≤ maxSingleBuffer) .dataLenRange
    let digest ← orAbort handle session fun _ ↦
      toAbi (platform.backend.computeDigest op.mechanism data)
    match output with
    | none => return .length digest.length
    | some size =>
      if size < digest.length then return .tooSmall digest.length
      else do
        putOperation handle session none
        return .bytes digest
  | _ => .fail .operationNotInitialized

/-- The digest operation with further input. -/
def digestPart (op : DigestOperation) (part : Bytes) : DigestOperation :=
  { op with
    hasher := op.hasher.map (hasherUpdate · part)
    accumulatedInput := op.accumulatedInput ++ part }

/-- `C_DigestUpdate`. -/
def cDigestUpdate : Entry := do
  getHsm
  let session ← getSession handle
  match session.activeOperation with
  | some (.digest op) => do
    requireOrAbort handle session
      (op.accumulatedInput.length + part.length ≤ maxMultipartAccumulation) .dataLenRange
    putOperation handle session (some (.digest (digestPart op part)))
    return .done
  | _ => .fail .operationNotInitialized

/-- `C_DigestKey`. Errors leave the operation alone, and a private key asks for no login. -/
def cDigestKey (key : Nat) : Entry := do
  getHsm
  let session ← getSession handle
  match session.activeOperation with
  | some (.digest op) => do
    let (_, obj) ← keyObject key
    .require (obj.objectClass = ckoSecretKey) .keyIndigestible
    .require (obj.sensitive = false) .keyIndigestible
    let bytes ← .reads fun _ ↦ obj.keyMaterial.elim (.error .keyIndigestible) .ok
    noteUse .digested obj
    putOperation handle session (some (.digest (digestPart op bytes)))
    return .done
  | _ => .fail .operationNotInitialized

/-- `C_DigestFinal`. A buffer that is too small ends the operation. -/
def cDigestFinal (output : Option Nat) : Entry := do
  getHsm
  let session ← getSession handle
  match session.activeOperation with
  | some (.digest op) => do
    let hasher ← orAbort handle session fun _ ↦
      op.hasher.elim (.error .operationNotInitialized) .ok
    match output with
    | none => return .length (hasherOutputLen hasher)
    | some size => do
      putOperation handle session none
      if size < hasherOutputLen hasher then return .tooSmall (hasherOutputLen hasher)
      else return .bytes (platform.backend.finalize hasher)
  | _ => .fail .operationNotInitialized

/-! ### Operation states and random numbers -/

/-- `C_GetOperationState`. -/
def cGetOperationState (output : Option Nat) : Entry := do
  getHsm
  let session ← getSession handle
  let operation ← .reads fun _ ↦
    session.activeOperation.elim (.error .operationNotInitialized) .ok
  .require (operation.saved.type ≠ .encrypt ∧ operation.saved.type ≠ .decrypt) .stateUnsaveable
  let blob ← .reads fun s ↦
    match operation.serializeState platform.hmacSha256 s.stateHmacKey handle session.slotId with
    | .ok blob => .ok blob
    | .error _ => .error .stateUnsaveable
  return deliver output blob

/-- The operation that a saved state describes, with the key handle already chosen. The hasher of a
signature is asked for under the signature mechanism itself. -/
def restoredOperation (saved : SavedOperation) (keyHandle : Nat) : Except CkRv ActiveOperation :=
  let hasher := (createHasher saved.mechanism).map (hasherUpdate · saved.data)
  match saved.type with
  | .digest =>
    match hasher with
    | .ok hasher => .ok (.digest ⟨saved.mechanism, some hasher, saved.data⟩)
    | .error _ => .error .savedStateInvalid
  | .sign => .ok (.sign ⟨saved.mechanism, keyHandle, saved.data, hasher.toOption, none⟩)
  | .verify => .ok (.verify ⟨saved.mechanism, keyHandle, saved.data, hasher.toOption, none⟩)
  | .encrypt => .error .savedStateInvalid
  | .decrypt => .error .savedStateInvalid

/-- The key of a restored signature or verification: the caller's, if there is one. -/
def resolvedKey (saved : SavedOperation) (authenticationKey : Nat) : Nat :=
  if authenticationKey ≠ 0 then authenticationKey else saved.keyHandle

/-- `C_SetOperationState`. The key has to exist; nothing else about it is looked at, and an active
operation is replaced. -/
def cSetOperationState (blob : Bytes) (authenticationKey : Nat) : Entry := do
  getHsm
  .require (blob ≠ []) .argumentsBad
  .require (blob.length ≤ maxSingleBuffer) .savedStateInvalid
  let session ← getSession handle
  let saved ← .reads fun s ↦
    match deserializeState platform.hmacSha256 s.stateHmacKey blob handle session.slotId with
    | .ok saved => .ok saved
    | .error _ => .error .savedStateInvalid
  .reads fun s ↦
    if (saved.type = .sign ∨ saved.type = .verify) ∧
        s.objectStore.objects.get? (resolvedKey saved authenticationKey) = none then
      .error .keyHandleInvalid
    else .ok ()
  let operation ← .reads fun _ ↦ restoredOperation saved (resolvedKey saved authenticationKey)
  putOperation handle session (some operation)
  return .done

/-- `C_GenerateRandom`. -/
def cGenerateRandom (length : Nat) : Entry := do
  getHsm
  .require (length ≤ maxSingleBuffer) .dataLenRange
  let _ ← getSession handle
  let bytes ← .reads fun _ ↦ toAbi (platform.backend.randomBytes env.seed length)
  return .bytes bytes

end Calls

end CratonHsm
