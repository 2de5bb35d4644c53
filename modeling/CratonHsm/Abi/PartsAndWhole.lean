import CratonHsm.Abi.OperationCalls
import CratonHsm.Abi.SessionCalls

/-!
# Input in parts and input as a whole

For every digest and for the AES modes that take parts, an operation that is fed part by part and
then ended gives the same answer as one that takes the whole input in a single call, and leaves the
library in the same state (`parts_eq_whole`). The buffer is as large as the length that the final
call reports (`OperationType.finalLength`).
-/

set_option autoImplicit false

namespace CratonHsm

open Crypto Crypto.Encrypt Library Store
open OperationType Hsm CryptoBackend

/-- The operations that this is about: digests, and ciphers in a mode that takes parts. -/
def OperationType.TakesParts (type : OperationType) (mechanism : Nat) : Prop :=
  type = .digest ∨
    (type = .encrypt ∨ type = .decrypt) ∧ encryptMechanismSupportsMultipart mechanism = true

/-- The length that the final call reports and asks for, after `length` bytes of input. -/
def OperationType.finalLength (type : OperationType) (mechanism length : Nat) : Nat :=
  match type with
  | .encrypt => length + 16
  | .decrypt => length
  | _ => hasherOutputLen ⟨mechanism, []⟩

/-! ### The final call and the single call -/

section Agreement

variable {platform : Platform} {s : Hsm} {handle : Nat} {session : Session}
  {type : OperationType} {mechanism size : Nat} {obj : StoredObject} {data : Bytes} {key : Nat}

/-- Parts within the limit are taken. -/
theorem feed_ok {ref : Nat} {mechanismParam part : Bytes} (hparts : type.TakesParts mechanism)
    (hopen : s.Open handle session) (hop : session.activeOperation =
      some (type.operationWith mechanism key mechanismParam ref data))
    (hlimit : data.length + part.length ≤ maxMultipartAccumulation) :
    ∃ reply, (type.feed handle part s).1 = .ok reply := by
  have hpart : (type.operationWith mechanism key mechanismParam ref data).withPart part =
      .ok (type.operationWith mechanism key mechanismParam ref (data ++ part)) := by
    rcases hparts with rfl | ⟨rfl | rfl, hparts⟩
    · simp [operationWith, ActiveOperation.withPart, digestWith, digestPart,
        hasherUpdate, hlimit]
    all_goals
      simp [operationWith, ActiveOperation.withPart, appendPart, cipherWith, hparts,
        Nat.not_lt.mpr hlimit, Except.map]
  exact ⟨_, by rw [feed_eq hopen hop (saved_type_operationWith ..), hpart]⟩

theorem finish_digest_eq_single (env : CallEnv) (hlengths : platform.backend.KeepsDigestLengths)
    (hopen : s.Open handle session) (hdigest : isDigestMechanism mechanism = true)
    (hlength : data.length ≤ maxSingleBuffer) (hsize : hasherOutputLen ⟨mechanism, []⟩ ≤ size) :
    cDigestFinal platform handle (some size) (s.setOperation handle session
        (some (.digest (digestWith mechanism data)))) =
      (.ok (.bytes (platform.backend.hash mechanism data)), s.setOperation handle session none) ∧
    cDigest platform handle data (some size) (s.setOperation handle session
        (some (.digest (digestWith mechanism [])))) =
      (.ok (.bytes (platform.backend.hash mechanism data)),
        s.setOperation handle session none) := by
  have hnot : ¬size < hasherOutputLen ⟨mechanism, data⟩ := Nat.not_lt.mpr hsize
  have hlen : (platform.backend.hash mechanism data).length = hasherOutputLen ⟨mechanism, data⟩ :=
    hlengths ⟨mechanism, data⟩ hdigest
  have hcompute : platform.backend.computeDigest mechanism data =
      .ok (platform.backend.hash mechanism data) := by
    simp [computeDigest, hdigest]
  constructor
  · rw [cDigestFinal_eq (hopen.setOperation _) rfl]
    simp only [digestWith, if_neg hnot, setOperation_setOperation]
    rfl
  · rw [cDigest_eq (hopen.setOperation _) rfl env]
    simp only [digestWith, if_true, hlength, hcompute, toAbi, Delivery.apply, Delivery.computed,
      Nat.not_lt_zero, if_false, hlen, if_neg hnot]
    exact congrArg (Prod.mk _) (@setOperation_setOperation s handle session _ _)

/-- The library after a cipher has run over the whole input, and what it answers. -/
def cipherOutcome (handle : Nat) (session : Session) (use : KeyUse) (obj : StoredObject)
    (run : Bytes → Except CkRv Bytes × CipherStatics) (s : Hsm) : Except CkRv Reply × Hsm :=
  match obj.keyMaterial with
  | none => (.error .keyHandleInvalid, s.setOperation handle session none)
  | some key => ((run key).1.map .bytes, (s.used use obj (run key).2).setOperation handle
    session none)

theorem finish_encrypt_eq {ref : Nat} (hcrates : platform.crates.KeepLengths)
    (hparts : encryptMechanismSupportsMultipart mechanism = true) (hopen : s.Open handle session)
    (hobj : s.objectStore.objects.deref ref = some obj) (hsize : data.length + 16 ≤ size)
    (seed key : Nat) (mechanismParam : Bytes) :
    cEncryptFinal platform handle (some size) (s.setOperation handle session
        (some (.encrypt (cipherWith mechanism key mechanismParam ref data)))) =
      cipherOutcome handle session .encrypt obj (fun material ↦ platform.backend.encryptData
        platform.crates seed s.statics mechanism mechanismParam obj material data) s := by
  have hopen' := hopen.setOperation
    (some (.encrypt (cipherWith mechanism key mechanismParam ref data)))
  have hparts' : encryptMechanismSupportsMultipart
      (cipherWith mechanism key mechanismParam ref data).mechanism = true := hparts
  rw [cEncryptFinal_eq hopen' rfl]
  simp only [hparts', if_true, encryptParts_eq hparts' seed obj]
  simp only [cipherWith, if_neg (Nat.not_lt.mpr hsize), materialOf_setOperation,
    materialOf_some hobj, cipherOutcome]
  cases obj.keyMaterial with
  | none => exact congrArg (Prod.mk _) setOperation_setOperation
  | some material =>
    simp only [Option.elim_some, statics_setOperation, used_setOperation,
      setOperation_setOperation]
    cases hrun : (platform.backend.encryptData platform.crates seed s.statics mechanism
        mechanismParam obj material data).1 with
    | error e => rfl
    | ok output =>
      have hfits := encryptData_length hcrates hparts hrun
      simp only [if_neg (show ¬size < output.length by omega)]
      rfl

theorem singleShot_outcome (env : CallEnv) {use : KeyUse} {operation : Option ActiveOperation}
    {estimate : StoredObject → Except CkRv Nat}
    {run : StoredObject → Bytes → CipherStatics → Except CkRv Bytes × CipherStatics}
    (hobj : s.objectStore.objects.get? key = some obj) (hlength : data.length ≤ maxSingleBuffer)
    (hfits : ∀ material output, (run obj material s.statics).1 = .ok output →
      output.length ≤ size) :
    singleShot handle { session with activeOperation := operation } use key data (some size)
        estimate run (s.setOperation handle session operation) =
      cipherOutcome handle session use obj (run obj · s.statics) s := by
  have hobj' : (s.setOperation handle session operation).objectStore.objects.get? key = some obj :=
    hobj
  rw [singleShot_eq env]
  simp only [hlength, if_true, materialOf_none hobj', cipherOutcome]
  cases obj.keyMaterial with
  | none => exact congrArg (Prod.mk _) setOperation_setOperation
  | some material =>
    simp only [Option.elim_some, Delivery.apply, Nat.not_lt_zero, if_false, Delivery.computed,
      statics_setOperation, used_setOperation, setOperation_setOperation]
    cases hrun : (run obj material s.statics).1 with
    | error e => rfl
    | ok output =>
      simp only [if_neg (Nat.not_lt.mpr (hfits material output hrun))]
      rfl

theorem single_encrypt_eq (hcrates : platform.crates.KeepLengths)
    (hparts : encryptMechanismSupportsMultipart mechanism = true) (hopen : s.Open handle session)
    (hobj : s.objectStore.objects.get? key = some obj) (hlength : data.length ≤ maxSingleBuffer)
    (hsize : data.length + 16 ≤ size) (env : CallEnv) (ref : Nat) (mechanismParam : Bytes) :
    cEncrypt platform env handle data (some size) (s.setOperation handle session
        (some (.encrypt (cipherWith mechanism key mechanismParam ref [])))) =
      cipherOutcome handle session .encrypt obj (fun material ↦ platform.backend.encryptData
        platform.crates env.seed s.statics mechanism mechanismParam obj material data) s := by
  rw [cEncrypt_eq (hopen.setOperation _) rfl]
  exact singleShot_outcome env hobj hlength fun material output hrun ↦
    (encryptData_length hcrates hparts hrun).trans hsize

theorem finish_decrypt_eq (platform : Platform) {ref : Nat}
    (hparts : encryptMechanismSupportsMultipart mechanism = true) (hopen : s.Open handle session)
    (hobj : s.objectStore.objects.deref ref = some obj) (hsize : data.length ≤ size) (key : Nat)
    (mechanismParam : Bytes) :
    cDecryptFinal platform handle (some size) (s.setOperation handle session
        (some (.decrypt (cipherWith mechanism key mechanismParam ref data)))) =
      cipherOutcome handle session .decrypt obj (fun material ↦ (platform.backend.decryptData
        platform.crates mechanism mechanismParam material data, s.statics)) s := by
  have hopen' := hopen.setOperation
    (some (.decrypt (cipherWith mechanism key mechanismParam ref data)))
  have hparts' : encryptMechanismSupportsMultipart
      (cipherWith mechanism key mechanismParam ref data).mechanism = true := hparts
  rw [cDecryptFinal_eq hopen' rfl]
  simp only [hparts', if_true, decryptParts_eq hparts']
  simp only [cipherWith, if_neg (Nat.not_lt.mpr hsize), materialOf_setOperation,
    materialOf_some hobj, cipherOutcome]
  cases obj.keyMaterial <;> simp only [Option.elim_none, Option.elim_some, statics_setOperation,
    used_setOperation, setOperation_setOperation]

theorem single_decrypt_eq (env : CallEnv) (hcrates : platform.crates.KeepLengths)
    (hparts : encryptMechanismSupportsMultipart mechanism = true) (hopen : s.Open handle session)
    (hobj : s.objectStore.objects.get? key = some obj) (hlength : data.length ≤ maxSingleBuffer)
    (hsize : data.length ≤ size) (ref : Nat) (mechanismParam : Bytes) :
    cDecrypt platform handle data (some size) (s.setOperation handle session
        (some (.decrypt (cipherWith mechanism key mechanismParam ref [])))) =
      cipherOutcome handle session .decrypt obj (fun material ↦ (platform.backend.decryptData
        platform.crates mechanism mechanismParam material data, s.statics)) s := by
  rw [cDecrypt_eq (hopen.setOperation _) rfl]
  exact singleShot_outcome env hobj hlength fun material output hrun ↦
    (decryptData_length hcrates hparts hrun).trans hsize

theorem cipherOutcome_operation {use : KeyUse}
    {run : Bytes → Except CkRv Bytes × CipherStatics} :
    (cipherOutcome handle session use obj run s).2.operation handle = none := by
  unfold cipherOutcome
  cases obj.keyMaterial <;> exact operation_setOperation

end Agreement

/-- Feeding an operation in parts and ending it answers as the single call on the whole input, and
leaves the same library behind, without an active operation. Every part is taken, with an empty
output. -/
theorem parts_eq_whole (platform : Platform) (hcrates : platform.crates.KeepLengths)
    (hdigests : platform.backend.KeepsDigestLengths) (type : OperationType) (env later : CallEnv)
    (s : Hsm) (handle mechanism : Nat) (mechanismParam : Bytes) (key size : Nat)
    (parts : List Bytes) (hparts : type.TakesParts mechanism)
    (hstart : (type.start env handle mechanism mechanismParam key s).1 = .ok .done)
    (hsingle : parts.flatten.length ≤ maxSingleBuffer)
    (haccumulated : parts.flatten.length ≤ maxMultipartAccumulation)
    (hsize : type.finalLength mechanism parts.flatten.length ≤ size) :
    (∀ answer ∈ Program.replies (parts.map (type.feed handle))
        (type.start env handle mechanism mechanismParam key s).2, answer = .ok type.partReply) ∧
      type.finish platform later handle (some size) []
          (type.feedAll handle parts (type.start env handle mechanism mechanismParam key s).2) =
        type.single platform later handle parts.flatten (some size) []
          (type.start env handle mechanism mechanismParam key s).2 ∧
      (type.single platform later handle parts.flatten (some size) []
        (type.start env handle mechanism mechanismParam key s).2).2.operation handle = none := by
  obtain ⟨session, ref, obj, hstarted⟩ := Started.of_ok hstart
  have hopen := hstarted.opened
  have hlimit : ([] : Bytes).length + parts.flatten.length ≤ maxMultipartAccumulation := by
    simpa using haccumulated
  obtain ⟨hreplies, hfed⟩ := feedAll_eq (fun _ _ _ _ hopen hop ↦ feed_ok hparts hopen hop) parts []
    (hopen.setOperation _) rfl hlimit
  rw [setOperation_setOperation, List.nil_append] at hfed
  rw [hstarted.state_eq]
  suffices hagree : type.finish platform later handle (some size) [] (s.setOperation handle session
      (some (type.operationWith mechanism key (extractMechanismParam mechanismParam) ref
        parts.flatten))) =
      type.single platform later handle parts.flatten (some size) [] (s.setOperation handle session
        (some (type.operationWith mechanism key (extractMechanismParam mechanismParam) ref []))) ∧
      (type.single platform later handle parts.flatten (some size) [] (s.setOperation handle session
        (some (type.operationWith mechanism key (extractMechanismParam mechanismParam) ref
          [])))).2.operation handle = none from ⟨hreplies, by rw [hfed]; exact hagree.1, hagree.2⟩
  rcases hparts with rfl | ⟨rfl | rfl, hparts⟩
  · obtain ⟨hfinish, hwhole⟩ := finish_digest_eq_single later hdigests hopen hstarted.isMechanism
      hsingle hsize
    simp only [finish, single, operationWith, hfinish,
      hwhole, operation_setOperation, and_self]
  · have hwhole := single_encrypt_eq hcrates hparts hopen (hstarted.obj_eq (by decide))
      hsingle hsize later ref (extractMechanismParam mechanismParam)
    have hfinish := finish_encrypt_eq hcrates hparts hopen (hstarted.deref_eq (by decide)) hsize
      later.seed key (extractMechanismParam mechanismParam)
    simp only [finish, single, operationWith, hfinish,
      hwhole, cipherOutcome_operation, and_self]
  · have hwhole := single_decrypt_eq later hcrates hparts hopen
      (hstarted.obj_eq (by decide)) hsingle hsize ref (extractMechanismParam mechanismParam)
    have hfinish := finish_decrypt_eq platform hparts hopen (hstarted.deref_eq (by decide)) hsize
      key (extractMechanismParam mechanismParam)
    simp only [finish, single, operationWith, hfinish,
      hwhole, cipherOutcome_operation, and_self]

/-- A platform that knows the SHA-256 digest of four bytes. -/
def digestPlatform : Platform :=
  .recorded [(ckmSha256, [1, 2, 3, 4],
    beBytes 32 0x9f64a747e1b97f131fabb6b447296c9b6f0201e79fb3c5356e6c77e89b6a806a)] []

/-- Four bytes are digested as three parts, one of them empty, and at once. -/
theorem digest_parts_eq_whole :
    cDigestFinal digestPlatform firstSession (some 32) (digest.feedAll firstSession
        [[1, 2, 3], [], [4]] (cDigestInit firstSession ckmSha256 (userLibrary false)).2) =
      cDigest digestPlatform firstSession [1, 2, 3, 4] (some 32)
        (cDigestInit firstSession ckmSha256 (userLibrary false)).2 ∧
      (cDigest digestPlatform firstSession [1, 2, 3, 4] (some 32)
        (cDigestInit firstSession ckmSha256 (userLibrary false)).2).1 =
          .ok (.bytes
            (beBytes 32 0x9f64a747e1b97f131fabb6b447296c9b6f0201e79fb3c5356e6c77e89b6a806a)) :=
  ⟨(parts_eq_whole digestPlatform (pinAnswers.keepLengths (by decide +kernel))
      (recorded_keepsDigestLengths (by decide +kernel)) .digest (callEnvAt 5)
      (callEnvAt 5) (userLibrary false) firstSession ckmSha256 [] 0 32 [[1, 2, 3], [], [4]]
      (Or.inl rfl) (by decide +kernel) (by decide) (by decide) (by decide)).2.1,
    by decide +kernel⟩

end CratonHsm
