import CratonHsm.Abi.OperationResults

/-!
# Calls that deliver an output

`C_Encrypt`, `C_Decrypt`, `C_Sign`, `C_Digest` and their `Final` calls take an output buffer: none
to ask for a length, or one of some size. On an active operation each of the eight calls does the
same five things with it (`Delivery.apply`): it knows a length to report, may refuse a small buffer
before it computes, computes its output over the cipher tables, and refuses a buffer that the output
does not fit into, which ends the operation or not.

`Delivers` gives these five for each call and operation, and `Delivers.describedBy` shows that the
call is described by them, in every library that differs in its history and cipher tables only.
-/

set_option autoImplicit false

namespace CratonHsm

open Crypto Crypto.Encrypt Library Store
open OperationType Delivery

/-! ### The eight calls -/

/-- A call that delivers an output: a single call with its input, or a final call. -/
structure OutputCall where
  type : OperationType
  input : Option Bytes

/-- The entry point of a call. -/
def OutputCall.run (platform : Platform) (handle : Nat) (c : OutputCall) (env : CallEnv)
    (output : Option Nat) : Entry :=
  match c.input with
  | some data => c.type.single platform env handle data output []
  | none => c.type.finish platform env handle output []

/-- What each call does on an operation that it can finish, with the facts on which this rests. The
length query of `C_SignFinal` looks the key up by its handle, the signature takes the cached one. -/
inductive Delivers (platform : Platform) (s : Hsm) :
    OutputCall → ActiveOperation → Delivery → Prop
  | encrypt {op : CipherOperation} {data key : Bytes} {obj : StoredObject}
      (hlength : data.length ≤ maxSingleBuffer)
      (hobj : s.objectStore.objects.get? op.keyHandle = some obj)
      (hkey : obj.keyMaterial = some key) :
      Delivers platform s ⟨.encrypt, some data⟩ (.encrypt op)
        ⟨CryptoBackend.estimatedCiphertextLen op.mechanism obj data, 0, fun env statics ↦
          platform.backend.encryptData platform.crates env.seed statics op.mechanism
            op.mechanismParam obj key data, false, some (.encrypt, obj)⟩
  | encryptFinal {op : CipherOperation} {key : Bytes} {obj : StoredObject}
      (hparts : encryptMechanismSupportsMultipart op.mechanism = true)
      (hobj : s.keyOf op.keyHandle op.cachedObject = .ok obj)
      (hkey : obj.keyMaterial = some key) :
      Delivers platform s ⟨.encrypt, none⟩ (.encrypt op)
        ⟨.ok (op.data.length + 16), op.data.length + 16, fun _ ↦ encryptParts platform op key, true,
          some (.encrypt, obj)⟩
  | decrypt {op : CipherOperation} {data key : Bytes} {obj : StoredObject}
      (hlength : data.length ≤ maxSingleBuffer)
      (hobj : s.objectStore.objects.get? op.keyHandle = some obj)
      (hkey : obj.keyMaterial = some key) :
      Delivers platform s ⟨.decrypt, some data⟩ (.decrypt op)
        ⟨CryptoBackend.estimatedPlaintextLen op.mechanism data, 0, fun _ statics ↦
          (platform.backend.decryptData platform.crates op.mechanism op.mechanismParam key data,
            statics), false, some (.decrypt, obj)⟩
  | decryptFinal {op : CipherOperation} {key : Bytes} {obj : StoredObject}
      (hparts : encryptMechanismSupportsMultipart op.mechanism = true)
      (hobj : s.keyOf op.keyHandle op.cachedObject = .ok obj)
      (hkey : obj.keyMaterial = some key) :
      Delivers platform s ⟨.decrypt, none⟩ (.decrypt op)
        ⟨.ok op.data.length, op.data.length, fun _ statics ↦
          (decryptParts platform op key, statics), true, some (.decrypt, obj)⟩
  | sign {op : SignatureOperation} {data key : Bytes} {obj : StoredObject}
      (hlength : data.length ≤ maxSingleBuffer)
      (hobj : s.objectStore.objects.get? op.keyHandle = some obj)
      (hkey : obj.keyMaterial = some key) :
      Delivers platform s ⟨.sign, some data⟩ (.sign op)
        ⟨signatureEstimate op.mechanism obj, 0, fun env statics ↦
          (toAbi (platform.backend.signSingleShot env.seed op.mechanism key data obj),
            statics), false,
          some (.sign, obj)⟩
  | signFinal {op : SignatureOperation} {key : Bytes} {obj : StoredObject}
      (hobj : s.keyOf op.keyHandle op.cachedObject = .ok obj)
      (hkey : obj.keyMaterial = some key) :
      Delivers platform s ⟨.sign, none⟩ (.sign op)
        ⟨s.keyOf op.keyHandle none >>= signatureEstimate op.mechanism, 0, fun env statics ↦
          (toAbi (signParts platform env op obj key), statics), true, some (.sign, obj)⟩
  | digest {op : DigestOperation} {data : Bytes} (hfresh : op.accumulatedInput = [])
      (hlength : data.length ≤ maxSingleBuffer)
      (hmechanism : isDigestMechanism op.mechanism = true) :
      Delivers platform s ⟨.digest, some data⟩ (.digest op)
        ⟨.ok (platform.backend.hash op.mechanism data).length, 0, fun _ statics ↦
          (.ok (platform.backend.hash op.mechanism data), statics), false, none⟩
  | digestFinal {op : DigestOperation} {hasher : Hasher} (hhasher : op.hasher = some hasher)
      (hmechanism : isDigestMechanism hasher.mechanism = true) :
      Delivers platform s ⟨.digest, none⟩ (.digest op)
        ⟨.ok (hasherOutputLen hasher), 0, fun _ statics ↦
          (.ok (platform.backend.finalize hasher), statics), true, none⟩

/-! ### The calls are described -/

section Described

variable {platform : Platform} {s : Hsm} {handle : Nat} {session : Session} {c : OutputCall}
  {operation : ActiveOperation} {d : Delivery}

theorem Kept.objectStore_eq {t : Hsm} (h : Kept s t) : t.objectStore = s.objectStore := by
  obtain ⟨statics, uses, rfl⟩ := h
  rfl

theorem Kept.keyOf_eq {t : Hsm} (h : Kept s t) (keyHandle : Nat) (cachedObject : Option Nat) :
    t.keyOf keyHandle cachedObject = s.keyOf keyHandle cachedObject := by
  simp only [Hsm.keyOf, h.objectStore_eq]

theorem Kept.materialOf_eq {t : Hsm} (h : Kept s t) {keyHandle : Nat} {cachedObject : Option Nat}
    {obj : StoredObject} {key : Bytes} (hobj : s.keyOf keyHandle cachedObject = .ok obj)
    (hkey : obj.keyMaterial = some key) : t.materialOf keyHandle cachedObject = .ok (obj, key) :=
  Hsm.materialOf_eq_ok.mpr ⟨(h.keyOf_eq keyHandle cachedObject).trans hobj, hkey⟩

/-- The call does what the delivery says, in every library that differs in its history and cipher
tables only. -/
def OutputCall.DescribedBy (platform : Platform) (s : Hsm) (handle : Nat) (session : Session)
    (c : OutputCall) (d : Delivery) : Prop :=
  ∀ t, Kept s t → ∀ env output,
    c.run platform handle env output t = d.apply handle session env output t

theorem Delivers.describedBy (hcrates : platform.crates.KeepLengths)
    (hdigests : platform.backend.KeepsDigestLengths) (h : Delivers platform s c operation d)
    (hopen : s.Open handle session) (hop : session.activeOperation = some operation) :
    c.DescribedBy platform s handle session d := by
  intro t hkept env output
  have hopen' := hkept.open hopen
  cases h with
  | encrypt hlength hobj hkey =>
    simp only [OutputCall.run, single]
    rw [cEncrypt_eq hopen' hop, singleShot_eq env, if_pos hlength,
      hkept.materialOf_eq (Hsm.keyOf_none_eq_ok.mpr hobj) hkey]
    rfl
  | decrypt hlength hobj hkey =>
    simp only [OutputCall.run, single]
    rw [cDecrypt_eq hopen' hop, singleShot_eq env, if_pos hlength,
      hkept.materialOf_eq (Hsm.keyOf_none_eq_ok.mpr hobj) hkey]
  | sign hlength hobj hkey =>
    simp only [OutputCall.run, single]
    rw [cSign_eq hopen' hop, singleShot_eq env, if_pos hlength,
      hkept.materialOf_eq (Hsm.keyOf_none_eq_ok.mpr hobj) hkey]
    rfl
  | @encryptFinal op key obj hparts hobj hkey =>
    simp only [OutputCall.run, finish]
    rw [cEncryptFinal_eq hopen' hop, if_pos hparts, hkept.materialOf_eq hobj hkey]
    cases output with
    | none => rfl
    | some size =>
      simp only [apply, computed, if_true]
      cases (encryptParts platform op key t.statics).1 with
      | error e => rfl
      | ok bytes => simp only; split_ifs <;> rfl
  | @decryptFinal op key obj hparts hobj hkey =>
    simp only [OutputCall.run, finish]
    rw [cDecryptFinal_eq hopen' hop, if_pos hparts, hkept.materialOf_eq hobj hkey]
    cases output with
    | none => rfl
    | some size =>
      simp only [apply, computed]
      split_ifs
      · rfl
      cases hplain : decryptParts platform op key with
      | error e => rfl
      | ok bytes =>
        rw [decryptParts_eq hparts] at hplain
        have hfits := CryptoBackend.decryptData_length hcrates hparts hplain
        simp only [Except.map]
        rw [if_neg (by omega)]
  | @signFinal op key obj hobj hkey =>
    simp only [OutputCall.run, finish]
    rw [cSignFinal_eq hopen' hop, hkept.materialOf_eq hobj hkey, hkept.keyOf_eq]
    cases output with
    | none => rfl
    | some size =>
      simp only [apply, computed, Nat.not_lt_zero, if_false, if_true]
      cases signParts platform env op obj key with
      | error e => rfl
      | ok bytes => simp only [signReply, toAbi]; split_ifs <;> rfl
  | @digest op data hfresh hlength hmechanism =>
    simp only [OutputCall.run, single]
    rw [cDigest_eq hopen' hop env, if_pos hfresh, if_pos hlength, CryptoBackend.computeDigest,
      if_pos hmechanism]
    rfl
  | @digestFinal op hasher hhasher hmechanism =>
    simp only [OutputCall.run, finish]
    rw [cDigestFinal_eq hopen' hop, hhasher]
    cases output with
    | none => rfl
    | some size =>
      simp only [apply, computed, hdigests hasher hmechanism, Nat.not_lt_zero,
        if_false, if_true]
      split_ifs <;> rfl

/-! ### A call that can succeed is described -/

/-- The mechanism of an operation is one for its kind, and the hasher of a digest is for it. -/
def ActiveOperation.Formed : ActiveOperation → Prop
  | .encrypt op => isEncryptMechanism op.mechanism = true
  | .decrypt op => isEncryptMechanism op.mechanism = true
  | .sign op => isSignMechanism op.mechanism = true
  | .verify op => isSignMechanism op.mechanism = true
  | .digest op => isDigestMechanism op.mechanism = true ∧
      ∀ hasher, op.hasher = some hasher → hasher.mechanism = op.mechanism

variable {env : CallEnv} {reply : Reply}

theorem singleShot_ok (env : CallEnv) {use : KeyUse} {keyHandle : Nat} {data : Bytes}
    {output : Option Nat}
    {estimate : StoredObject → Except CkRv Nat}
    {run : StoredObject → Bytes → CipherStatics → Except CkRv Bytes × CipherStatics}
    (h : (singleShot handle session use keyHandle data output estimate run s).1 = .ok reply) :
    data.length ≤ maxSingleBuffer ∧ ∃ obj key,
      s.objectStore.objects.get? keyHandle = some obj ∧ obj.keyMaterial = some key := by
  rw [singleShot_eq env] at h
  split_ifs at h with hlength
  cases hmaterial : s.materialOf keyHandle none with
  | error e => rw [hmaterial] at h; cases h
  | ok material =>
    obtain ⟨hobj, hkey⟩ := Hsm.materialOf_eq_ok.mp hmaterial
    exact ⟨hlength, _, _, Hsm.keyOf_none_eq_ok.mp hobj, hkey⟩

variable (hopen : s.Open handle session)
include hopen

theorem OutputCall.run_other (hlacks : session.Lacks c.type) (output : Option Nat) :
    c.run platform handle env output s = (.error .operationNotInitialized, s) := by
  unfold OutputCall.run
  cases c.input with
  | some data => exact c.type.single_other hopen hlacks data output []
  | none => exact c.type.finish_other hopen hlacks output []

theorem OutputCall.type_eq (hop : session.activeOperation = some operation) {output : Option Nat}
    (h : (c.run platform handle env output s).1 = .ok reply) : operation.saved.type = c.type := by
  by_contra hother
  rw [OutputCall.run_other hopen (fun operation' h ↦ by
    rwa [Option.mem_unique h hop])] at h
  cases h

theorem Delivers.of_ok (hop : session.activeOperation = some operation) (hformed : operation.Formed)
    (hverify : c.type ≠ .verify) {size : Nat} {bytes : Bytes}
    (h : (c.run platform handle env (some size) s).1 = .ok (.bytes bytes)) :
    ∃ d, Delivers platform s c operation d := by
  have htype := OutputCall.type_eq hopen hop h
  obtain ⟨type, input⟩ := c
  unfold OutputCall.run at h
  cases operation with
  | encrypt op =>
    obtain rfl : type = .encrypt := htype.symm
    cases input with
    | some data =>
      simp only [single] at h
      rw [cEncrypt_eq hopen hop] at h
      obtain ⟨hlength, obj, key, hobj, hkey⟩ := singleShot_ok env h
      exact ⟨_, .encrypt hlength hobj hkey⟩
    | none =>
      simp only [finish, cEncryptFinal_eq hopen hop] at h
      split_ifs at h with hparts
      · cases h
      cases hmaterial : s.materialOf op.keyHandle op.cachedObject with
      | error e => rw [hmaterial] at h; cases h
      | ok material =>
        obtain ⟨hobj, hkey⟩ := Hsm.materialOf_eq_ok.mp hmaterial
        exact ⟨_, .encryptFinal hparts hobj hkey⟩
  | decrypt op =>
    obtain rfl : type = .decrypt := htype.symm
    cases input with
    | some data =>
      simp only [single] at h
      rw [cDecrypt_eq hopen hop] at h
      obtain ⟨hlength, obj, key, hobj, hkey⟩ := singleShot_ok env h
      exact ⟨_, .decrypt hlength hobj hkey⟩
    | none =>
      simp only [finish, cDecryptFinal_eq hopen hop] at h
      split_ifs at h with hparts
      · cases h
      cases hmaterial : s.materialOf op.keyHandle op.cachedObject with
      | error e => rw [hmaterial] at h; cases h
      | ok material =>
        obtain ⟨hobj, hkey⟩ := Hsm.materialOf_eq_ok.mp hmaterial
        exact ⟨_, .decryptFinal hparts hobj hkey⟩
  | sign op =>
    obtain rfl : type = .sign := htype.symm
    cases input with
    | some data =>
      simp only [single] at h
      rw [cSign_eq hopen hop] at h
      obtain ⟨hlength, obj, key, hobj, hkey⟩ := singleShot_ok env h
      exact ⟨_, .sign hlength hobj hkey⟩
    | none =>
      simp only [finish, cSignFinal_eq hopen hop] at h
      cases hmaterial : s.materialOf op.keyHandle op.cachedObject with
      | error e => rw [hmaterial] at h; cases h
      | ok material =>
        obtain ⟨hobj, hkey⟩ := Hsm.materialOf_eq_ok.mp hmaterial
        exact ⟨_, .signFinal hobj hkey⟩
  | verify op => exact absurd htype.symm hverify
  | digest op =>
    obtain rfl : type = .digest := htype.symm
    cases input with
    | some data =>
      simp only [single, cDigest_eq hopen hop env] at h
      split_ifs at h with hfresh hlength
      exact ⟨_, .digest hfresh hlength hformed.1⟩
    | none =>
      simp only [finish, cDigestFinal_eq hopen hop] at h
      cases hhasher : op.hasher with
      | none => rw [hhasher] at h; cases h
      | some hasher => exact ⟨_, .digestFinal hhasher (hformed.2 hasher hhasher ▸ hformed.1)⟩

end Described

end CratonHsm
