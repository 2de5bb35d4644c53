import CratonHsm.Abi.CryptoCalls

/-!
# Rules for cryptographic calls

What the steps of the cryptographic entry points compute on a session that is open. A call that goes
through leaves the library as it was but for the operation of its session, the cipher tables and the
history, so most states of interest have the form `s.setOperation handle session operation`.
-/

set_option autoImplicit false

namespace CratonHsm

open Crypto Crypto.Encrypt Library Store
open Std (ExtTreeMap)
open CryptoBackend

/-! ### Sessions that are open -/

/-- The library answers, and the session is open. -/
structure Hsm.Open (s : Hsm) (handle : Nat) (session : Session) : Prop where
  postFailed_eq : s.postFailed = false
  session_eq : s.sessionManager.sessions[handle]? = some session

/-- The library with another operation in a session. -/
def Hsm.setOperation (s : Hsm) (handle : Nat) (session : Session)
    (operation : Option ActiveOperation) : Hsm :=
  { s with sessionManager :=
      s.sessionManager.setSession handle { session with activeOperation := operation } }

/-- The active operation of a session. -/
def Hsm.operation (s : Hsm) (handle : Nat) : Option ActiveOperation :=
  s.sessionManager.sessions[handle]?.bind Session.activeOperation

section Sessions

variable {s : Hsm} {handle : Nat} {session : Session}
  {operation operation' : Option ActiveOperation}

theorem Hsm.Open.operation_eq (h : s.Open handle session) :
    s.operation handle = session.activeOperation := by
  simp [Hsm.operation, h.session_eq]

@[simp]
theorem Hsm.operation_setOperation :
    (s.setOperation handle session operation).operation handle = operation := by
  simp [Hsm.operation, Hsm.setOperation, SessionManager.setSession]

theorem Hsm.Open.setOperation (h : s.Open handle session) (operation : Option ActiveOperation) :
    (s.setOperation handle session operation).Open handle
      { session with activeOperation := operation } :=
  ⟨h.postFailed_eq, by simp [Hsm.setOperation, SessionManager.setSession]⟩

theorem Hsm.setOperation_setOperation :
    (s.setOperation handle session operation).setOperation handle
      { session with activeOperation := operation } operation' =
        s.setOperation handle session operation' := by
  simp only [Hsm.setOperation, SessionManager.setSession]
  congr 2
  ext k v
  simp only [ExtTreeMap.getElem?_insert]
  split <;> rfl

/-- Putting back the operation that is there changes nothing. -/
theorem Hsm.Open.setOperation_self (h : s.Open handle session) :
    s.setOperation handle session session.activeOperation = s := by
  have hsessions : s.sessionManager.sessions.insert handle session = s.sessionManager.sessions := by
    ext k v
    rw [ExtTreeMap.getElem?_insert]
    split
    · next hk => rw [← compare_eq_iff_eq.mp hk, h.session_eq]
    · rfl
  simp [Hsm.setOperation, SessionManager.setSession, hsessions]

end Sessions

/-! ### The steps of a call -/

section Steps

variable {s : Hsm} {handle : Nat} {session : Session} {Result Result' : Type} {obj : StoredObject}
  {keyHandle : Nat} {operation : Option ActiveOperation}

theorem Hsm.Open.enter (h : s.Open handle session)
    (f : Session → Program Hsm CkRv Result) :
    (getHsm >>= fun _ ↦ getSession handle >>= f) s = f session s := by
  simp [getHsm, getSession, Program.reads_bind, h.postFailed_eq, SessionManager.getSession,
    h.session_eq, toAbi]

theorem putOperation_bind (operation : Option ActiveOperation)
    (f : Unit → Program Hsm CkRv Result) :
    (putOperation handle session operation >>= f) s =
      f () (s.setOperation handle session operation) := rfl

theorem noteUse_bind (role : KeyRole) (obj : StoredObject) (f : Unit → Program Hsm CkRv Result) :
    (noteUse role obj >>= f) s = f () { s with keyUses := ⟨role, obj⟩ :: s.keyUses } := rfl

theorem orAbort_bind (f : Hsm → Except CkRv Result) (g : Result → Program Hsm CkRv Result') :
    (orAbort handle session f >>= g) s =
      match f s with
      | .ok a => g a s
      | .error e => (.error e, s.setOperation handle session none) := by
  rw [Program.bind_apply, orAbort]
  cases f s <;> rfl

theorem requireOrAbort_bind (condition : Prop) [Decidable condition] (e : CkRv)
    (g : Unit → Program Hsm CkRv Result) :
    (requireOrAbort handle session condition e >>= g) s =
      if condition then g () s else (.error e, s.setOperation handle session none) := by
  rw [requireOrAbort, orAbort_bind]
  by_cases h : condition <;> simp [h]

theorem runCipher_bind (run : CipherStatics → Except CkRv Bytes × CipherStatics)
    (g : Bytes → Program Hsm CkRv Result) :
    (runCipher handle session run >>= g) s =
      match (run s.statics).1 with
      | .ok bytes => g bytes { s with statics := (run s.statics).2 }
      | .error e => (.error e,
          { s with statics := (run s.statics).2 }.setOperation handle session none) := by
  rw [Program.bind_apply]
  have hrun : runCipher handle session run s =
      (orAbort handle session fun _ ↦ (run s.statics).1)
        { s with statics := (run s.statics).2 } := rfl
  rw [hrun, orAbort]
  cases (run s.statics).1 <;> rfl

theorem operationObject_bind (keyHandle : Nat) (cachedObject : Option Nat)
    (g : StoredObject → Program Hsm CkRv Result) :
    (operationObject handle session keyHandle cachedObject >>= g) s =
      match s.keyOf keyHandle cachedObject with
      | .ok obj => g obj s
      | .error e => (.error e, s.setOperation handle session none) := by
  rw [operationObject, orAbort_bind]
  cases s.keyOf keyHandle cachedObject <;> rfl

theorem operationKey_bind (obj : StoredObject) (g : Bytes → Program Hsm CkRv Result) :
    (operationKey handle session obj >>= g) s =
      match obj.keyMaterial with
      | some key => g key s
      | none => (.error .keyHandleInvalid, s.setOperation handle session none) := by
  rw [operationKey, orAbort_bind]
  cases obj.keyMaterial <;> rfl

/-- The object of an operation and its key bytes. -/
def Hsm.materialOf (s : Hsm) (keyHandle : Nat) (cachedObject : Option Nat) :
    Except CkRv (StoredObject × Bytes) :=
  match s.keyOf keyHandle cachedObject with
  | .ok obj => obj.keyMaterial.elim (.error .keyHandleInvalid) fun key ↦ .ok (obj, key)
  | .error e => .error e

@[simp]
theorem Hsm.objectStore_setOperation :
    (s.setOperation handle session operation).objectStore = s.objectStore := rfl

@[simp]
theorem Hsm.materialOf_setOperation (keyHandle : Nat) (cachedObject : Option Nat) :
    (s.setOperation handle session operation).materialOf keyHandle cachedObject =
      s.materialOf keyHandle cachedObject := rfl

theorem Hsm.keyOf_none_eq_ok :
    s.keyOf keyHandle none = .ok obj ↔ s.objectStore.objects.get? keyHandle = some obj := by
  unfold Hsm.keyOf ObjectStore.getObject
  cases s.objectStore.objects.get? keyHandle <;> simp [toAbi]

theorem Hsm.materialOf_some {ref : Nat} (hobj : s.objectStore.objects.deref ref = some obj)
    (keyHandle : Nat) :
    s.materialOf keyHandle (some ref) =
      obj.keyMaterial.elim (.error .keyHandleInvalid) fun key ↦ .ok (obj, key) := by
  simp [Hsm.materialOf, Hsm.keyOf, hobj]

theorem Hsm.materialOf_none (hobj : s.objectStore.objects.get? keyHandle = some obj) :
    s.materialOf keyHandle none =
      obj.keyMaterial.elim (.error .keyHandleInvalid) fun key ↦ .ok (obj, key) := by
  simp [Hsm.materialOf, Hsm.keyOf_none_eq_ok.mpr hobj]

theorem Hsm.materialOf_eq_ok {cachedObject : Option Nat} {key : Bytes} :
    s.materialOf keyHandle cachedObject = .ok (obj, key) ↔
      s.keyOf keyHandle cachedObject = .ok obj ∧ obj.keyMaterial = some key := by
  unfold Hsm.materialOf
  cases s.keyOf keyHandle cachedObject with
  | error e => simp
  | ok found => cases hkey : found.keyMaterial <;> simp [hkey] <;> grind

theorem material_bind (keyHandle : Nat) (cachedObject : Option Nat)
    (g : StoredObject → Bytes → Program Hsm CkRv Result) :
    (operationObject handle session keyHandle cachedObject >>= fun obj ↦
        operationKey handle session obj >>= g obj) s =
      match s.materialOf keyHandle cachedObject with
      | .ok material => g material.1 material.2 s
      | .error e => (.error e, s.setOperation handle session none) := by
  rw [operationObject_bind, Hsm.materialOf]
  cases s.keyOf keyHandle cachedObject with
  | error e => rfl
  | ok obj =>
    simp only [operationKey_bind]
    cases obj.keyMaterial <;> rfl

end Steps

/-! ### Output buffers -/

/-- The library after an object has been used and the cipher tables have changed. -/
def Hsm.used (s : Hsm) (use : KeyUse) (obj : StoredObject) (statics : CipherStatics) : Hsm :=
  { s with keyUses := ⟨.operation use, obj⟩ :: s.keyUses, statics := statics }

/-- What a call does with its buffer. -/
structure Delivery where
  /-- The answer to a length query. -/
  length : Except CkRv Nat
  /-- Smaller buffers are refused before anything is computed. -/
  refusesBelow : Nat
  /-- The output, from what the call draws and the cipher tables. -/
  produce : CallEnv → CipherStatics → Except CkRv Bytes × CipherStatics
  /-- Whether the operation ends when the output does not fit. -/
  endsOnShort : Bool
  /-- The key that computing the output uses. -/
  use : Option (KeyUse × StoredObject)

namespace Delivery

variable (d : Delivery)

/-- The library once the output has been computed. -/
def computed (statics : CipherStatics) (s : Hsm) : Hsm :=
  match d.use with
  | some (use, obj) => s.used use obj statics
  | none => { s with statics := statics }

/-- The effect of a call on its buffer. -/
def apply (handle : Nat) (session : Session) (env : CallEnv) (output : Option Nat) (s : Hsm) :
    Except CkRv Reply × Hsm :=
  match output with
  | none =>
    match d.length with
    | .ok length => (.ok (.length length), s)
    | .error e => (.error e, s.setOperation handle session none)
  | some size =>
    if size < d.refusesBelow then (.ok (.tooSmall d.refusesBelow), s)
    else
      let s' := d.computed (d.produce env s.statics).2 s
      match (d.produce env s.statics).1 with
      | .ok bytes =>
        if size < bytes.length then
          (.ok (.tooSmall bytes.length), if d.endsOnShort then s'.setOperation handle session none
            else s')
        else (.ok (.bytes bytes), s'.setOperation handle session none)
      | .error e => (.error e, s'.setOperation handle session none)

end Delivery

/-! ### The calls on an open session -/

section Calls

variable {platform : Platform} {env : CallEnv} {s : Hsm} {handle : Nat} {session : Session}
  {op : CipherOperation} {operation : Option ActiveOperation}

@[simp]
theorem Hsm.statics_setOperation :
    (s.setOperation handle session operation).statics = s.statics := rfl

theorem Hsm.used_setOperation {use : KeyUse} {obj : StoredObject} {statics : CipherStatics} :
    (s.setOperation handle session operation).used use obj statics =
      (s.used use obj statics).setOperation handle session operation := rfl

/-- A single-shot call computes its output once the key is found, and only then looks at the
buffer. -/
theorem singleShot_eq {use : KeyUse} {keyHandle : Nat} {data : Bytes} {output : Option Nat}
    {estimate : StoredObject → Except CkRv Nat}
    {run : StoredObject → Bytes → CipherStatics → Except CkRv Bytes × CipherStatics}
    (env : CallEnv) :
    singleShot handle session use keyHandle data output estimate run s =
      if data.length ≤ maxSingleBuffer then
        match s.materialOf keyHandle none with
        | .ok (obj, key) => Delivery.apply ⟨estimate obj, 0, fun _ ↦ run obj key, false,
            some (use, obj)⟩ handle session env output s
        | .error e => (.error e, s.setOperation handle session none)
      else (.error .dataLenRange, s.setOperation handle session none) := by
  rw [singleShot, requireOrAbort_bind, material_bind]
  split_ifs
  swap
  · rfl
  cases s.materialOf keyHandle none with
  | error e => rfl
  | ok material =>
    cases output with
    | none =>
      simp only [orAbort_bind, Delivery.apply]
      cases estimate material.1 <;> rfl
    | some size =>
      simp only [noteUse_bind, runCipher_bind, Delivery.apply, Nat.not_lt_zero, if_false,
        Bool.false_eq_true]
      cases (run material.1 material.2 s.statics).1 with
      | error e => rfl
      | ok bytes =>
        simp only
        split_ifs <;> rfl

variable (h : s.Open handle session)
include h

section Digests

variable {op : DigestOperation} (hop : session.activeOperation = some (.digest op))
include hop

theorem cDigestFinal_eq (output : Option Nat) :
    cDigestFinal platform handle output s =
      match op.hasher, output with
      | none, _ => (.error .operationNotInitialized, s.setOperation handle session none)
      | some hasher, none => (.ok (.length (hasherOutputLen hasher)), s)
      | some hasher, some size =>
        (if size < hasherOutputLen hasher then .ok (.tooSmall (hasherOutputLen hasher))
          else .ok (.bytes (platform.backend.finalize hasher)),
          s.setOperation handle session none) := by
  rw [cDigestFinal, h.enter]
  simp only [hop, orAbort_bind]
  cases op.hasher with
  | none => rfl
  | some hasher =>
    cases output with
    | none => rfl
    | some size =>
      simp only [Option.elim_some, putOperation_bind]
      split_ifs <;> rfl

theorem cDigest_eq (env : CallEnv) (data : Bytes) (output : Option Nat) :
    cDigest platform handle data output s =
      if op.accumulatedInput = [] then
        if data.length ≤ maxSingleBuffer then
          match toAbi (platform.backend.computeDigest op.mechanism data) with
          | .ok digest => Delivery.apply ⟨.ok digest.length, 0, fun _ statics ↦
              (.ok digest, statics), false, none⟩ handle session env output s
          | .error e => (.error e, s.setOperation handle session none)
        else (.error .dataLenRange, s.setOperation handle session none)
      else (.error .operationActive, s.setOperation handle session none) := by
  rw [cDigest, h.enter]
  simp only [hop, requireOrAbort_bind, orAbort_bind]
  split_ifs
  · cases toAbi (platform.backend.computeDigest op.mechanism data) with
    | error e => rfl
    | ok digest =>
      cases output with
      | none => rfl
      | some size =>
        simp only [Delivery.apply, Nat.not_lt_zero, if_false, Bool.false_eq_true]
        split_ifs <;> rfl
  · rfl
  · rfl

end Digests

/-- The answer of a signature into a buffer. -/
def signReply (size : Nat) (signature : HsmResult Bytes) : Except CkRv Reply :=
  match signature with
  | .ok signature =>
    if size < signature.length then .ok (.tooSmall signature.length) else .ok (.bytes signature)
  | .error e => .error e.toRv

section Signatures

variable {op : SignatureOperation} (hop : session.activeOperation = some (.sign op))
include hop

theorem cSign_eq (data : Bytes) (output : Option Nat) :
    cSign platform env handle data output s =
      singleShot handle session .sign op.keyHandle data output (signatureEstimate op.mechanism)
        (fun obj key statics ↦
          (toAbi (platform.backend.signSingleShot env.seed op.mechanism key data obj),
            statics)) s := by
  rw [cSign, h.enter]
  simp [hop]

/-- A length query looks the key up by its handle, the signature takes the cached one. -/
theorem cSignFinal_eq (output : Option Nat) :
    cSignFinal platform env handle output s =
      match output with
      | none =>
        match s.keyOf op.keyHandle none >>= signatureEstimate op.mechanism with
        | .ok length => (.ok (.length length), s)
        | .error e => (.error e, s.setOperation handle session none)
      | some size =>
        match s.materialOf op.keyHandle op.cachedObject with
        | .ok (obj, key) => (signReply size (signParts platform env op obj key),
            (s.used .sign obj s.statics).setOperation handle session none)
        | .error e => (.error e, s.setOperation handle session none) := by
  rw [cSignFinal, h.enter]
  simp only [hop]
  cases output with
  | none =>
    simp only [operationObject_bind]
    cases s.keyOf op.keyHandle none with
    | error e => rfl
    | ok obj =>
      simp only [bind, Except.bind]
      cases signatureEstimate op.mechanism obj <;> rfl
  | some size =>
    simp only [material_bind]
    cases s.materialOf op.keyHandle op.cachedObject with
    | error e => rfl
    | ok material =>
      simp only [noteUse_bind, putOperation_bind, Program.reads_bind]
      cases signParts platform env op material.1 material.2 with
      | error e => rfl
      | ok signature =>
        simp only [toAbi, signReply]
        split_ifs <;> rfl

end Signatures

section Verifications

variable {op : SignatureOperation} (hop : session.activeOperation = some (.verify op))
include hop

theorem cVerifyFinal_eq (signature : Bytes) :
    cVerifyFinal platform handle signature s =
      if signature.length ≤ maxSingleBuffer then
        match s.keyOf op.keyHandle op.cachedObject with
        | .ok obj => (verifyReply (verifyParts platform op signature obj),
            (s.used .verify obj s.statics).setOperation handle session none)
        | .error e => (.error e, s.setOperation handle session none)
      else (.error .dataLenRange, s.setOperation handle session none) := by
  rw [cVerifyFinal, h.enter]
  simp only [hop, requireOrAbort_bind, operationObject_bind, noteUse_bind, putOperation_bind]
  rfl

theorem cVerify_eq (data signature : Bytes) :
    cVerify platform handle data signature s =
      if data.length ≤ maxSingleBuffer ∧ signature.length ≤ maxSingleBuffer then
        match s.keyOf op.keyHandle none with
        | .ok obj => (verifyReply (platform.backend.verifySingleShot op.mechanism data
            signature obj), (s.used .verify obj s.statics).setOperation handle session none)
        | .error e => (.error e, s.setOperation handle session none)
      else (.error .dataLenRange, s.setOperation handle session none) := by
  rw [cVerify, h.enter]
  simp only [hop, requireOrAbort_bind, operationObject_bind, noteUse_bind, putOperation_bind]
  rfl

end Verifications

omit h in
theorem finalOutput_eq {use : KeyUse}
    {run : Bytes → CipherStatics → Except CkRv Bytes × CipherStatics} :
    finalOutput handle session use op run s =
      match s.materialOf op.keyHandle op.cachedObject with
      | .ok (obj, key) => ((run key s.statics).1,
          (s.used use obj (run key s.statics).2).setOperation handle session none)
      | .error e => (.error e, s.setOperation handle session none) := by
  rw [finalOutput, material_bind]
  cases s.materialOf op.keyHandle op.cachedObject with
  | error e => rfl
  | ok material =>
    simp only [noteUse_bind, runCipher_bind]
    cases (run material.2 s.statics).1 <;> rfl

section Encryptions

variable {op : CipherOperation} (hop : session.activeOperation = some (.encrypt op))
include hop

theorem cEncrypt_eq (data : Bytes) (output : Option Nat) :
    cEncrypt platform env handle data output s =
      singleShot handle session .encrypt op.keyHandle data output
        (estimatedCiphertextLen op.mechanism · data)
        (fun obj key statics ↦ platform.backend.encryptData platform.crates env.seed statics
          op.mechanism op.mechanismParam obj key data) s := by
  rw [cEncrypt, h.enter]
  simp [hop]

theorem cEncryptFinal_eq (output : Option Nat) :
    cEncryptFinal platform handle output s =
      if encryptMechanismSupportsMultipart op.mechanism = true then
        match output with
        | none => (.ok (.length (op.data.length + 16)), s)
        | some size =>
          if size < op.data.length + 16 then (.ok (.tooSmall (op.data.length + 16)), s)
          else
            match s.materialOf op.keyHandle op.cachedObject with
            | .ok (obj, key) =>
              (match (encryptParts platform op key s.statics).1 with
                | .ok bytes =>
                  .ok (if size < bytes.length then .tooSmall bytes.length else .bytes bytes)
                | .error e => .error e,
                (s.used .encrypt obj (encryptParts platform op key s.statics).2).setOperation handle
                  session none)
            | .error e => (.error e, s.setOperation handle session none)
      else (.error .mechanismInvalid, s.setOperation handle session none) := by
  rw [cEncryptFinal, h.enter]
  simp only [hop, requireOrAbort_bind]
  split_ifs
  swap
  · rfl
  cases output with
  | none => rfl
  | some size =>
    simp only
    split_ifs
    · rfl
    rw [Program.bind_apply, finalOutput_eq]
    cases s.materialOf op.keyHandle op.cachedObject with
    | error e => rfl
    | ok material =>
      simp only
      cases (encryptParts platform op material.2 s.statics).1 with
      | error e => rfl
      | ok bytes =>
        simp only
        split_ifs <;> rfl

end Encryptions

section Decryptions

variable {op : CipherOperation} (hop : session.activeOperation = some (.decrypt op))
include hop

theorem cDecrypt_eq (data : Bytes) (output : Option Nat) :
    cDecrypt platform handle data output s =
      singleShot handle session .decrypt op.keyHandle data output
        (fun _ ↦ estimatedPlaintextLen op.mechanism data)
        (fun _ key statics ↦ (platform.backend.decryptData platform.crates op.mechanism
          op.mechanismParam key data, statics)) s := by
  rw [cDecrypt, h.enter]
  simp [hop]

theorem cDecryptFinal_eq (output : Option Nat) :
    cDecryptFinal platform handle output s =
      if encryptMechanismSupportsMultipart op.mechanism = true then
        match output with
        | none => (.ok (.length op.data.length), s)
        | some size =>
          if size < op.data.length then (.ok (.tooSmall op.data.length), s)
          else
            match s.materialOf op.keyHandle op.cachedObject with
            | .ok (obj, key) => ((decryptParts platform op key).map .bytes,
                (s.used .decrypt obj s.statics).setOperation handle session none)
            | .error e => (.error e, s.setOperation handle session none)
      else (.error .mechanismInvalid, s.setOperation handle session none) := by
  rw [cDecryptFinal, h.enter]
  simp only [hop, requireOrAbort_bind]
  split_ifs
  swap
  · rfl
  cases output with
  | none => rfl
  | some size =>
    simp only
    split_ifs
    · rfl
    rw [Program.bind_apply, finalOutput_eq]
    cases s.materialOf op.keyHandle op.cachedObject with
    | error e => rfl
    | ok material =>
      simp only
      cases decryptParts platform op material.2 <;> rfl

end Decryptions

omit h in
/-- The modes that take parts encrypt the accumulated data as the single-shot call does. -/
theorem encryptParts_eq (hparts : encryptMechanismSupportsMultipart op.mechanism = true)
    (seed : Nat) (obj : StoredObject) (key : Bytes) (statics : CipherStatics) :
    encryptParts platform op key statics = platform.backend.encryptData platform.crates seed statics
      op.mechanism op.mechanismParam obj key op.data := by
  unfold encryptParts encryptData
  rw [if_neg (ne_gcm_of_supportsMultipart hparts)]
  by_cases hcbc : op.mechanism ∈ [ckmAesCbc, ckmAesCbcPad]
  · rw [if_pos hcbc, if_pos hcbc]
  · have hctr := eq_ctr_of_supportsMultipart hparts hcbc
    rw [if_neg hcbc, if_neg hcbc, if_pos hctr, if_pos hctr]

omit h in
theorem decryptParts_eq (hparts : encryptMechanismSupportsMultipart op.mechanism = true)
    (key : Bytes) :
    decryptParts platform op key = platform.backend.decryptData platform.crates op.mechanism
      op.mechanismParam key op.data := by
  unfold decryptParts decryptData
  rw [if_neg (ne_gcm_of_supportsMultipart hparts)]
  by_cases hcbc : op.mechanism ∈ [ckmAesCbc, ckmAesCbcPad]
  · rw [if_pos hcbc, if_pos hcbc]
  · have hctr := eq_ctr_of_supportsMultipart hparts hcbc
    rw [if_neg hcbc, if_neg hcbc, if_pos hctr, if_pos hctr]

end Calls

end CratonHsm
