import CratonHsm.Abi.OperationCalls

/-!
# The results of operations

What it means that an answer is a result for a message (`IsResultFor`): a ciphertext, a plaintext, a
signature, an accepted verification or a digest of it, under the key and the mechanism of the
operation. A signature with a built-in hash may be made of the message or of its digest.

A call that answers `CKR_OK` has told a length, has refused a buffer, or has given a result and
ended the operation (`Outcome`): a single call for its input (`single_outcome`), a final call for
the data that were fed (`finish_outcome`).
-/

set_option autoImplicit false

namespace CratonHsm

open Crypto Crypto.Encrypt Library Store

/-! ### Results -/

/-- The answer is a result of the operation for a message. What was drawn at random, and the state
of the cipher tables, are left open. -/
def IsResultFor (platform : Platform) (type : OperationType) (mechanism : Nat)
    (mechanismParam : Bytes) (obj : StoredObject) (signature message : Bytes) (reply : Reply) :
    Prop :=
  match type with
  | .encrypt => ∃ key seed statics output, obj.keyMaterial = some key ∧
      (platform.backend.encryptData platform.crates seed statics mechanism mechanismParam obj key
        message).1 = .ok output ∧ reply = .bytes output
  | .decrypt => ∃ key output, obj.keyMaterial = some key ∧
      platform.backend.decryptData platform.crates mechanism mechanismParam key message =
        .ok output ∧ reply = .bytes output
  | .sign => ∃ key seed output, obj.keyMaterial = some key ∧
      (platform.backend.signSingleShot seed mechanism key message obj = .ok output ∨
        ∃ digest, signMechanismToDigestMechanism mechanism = some digest ∧
          platform.backend.signPrehashed seed mechanism key (platform.backend.hash digest message)
            obj = .ok output) ∧ reply = .bytes output
  | .verify => (platform.backend.verifySingleShot mechanism message signature obj = .ok true ∨
        ∃ digest, signMechanismToDigestMechanism mechanism = some digest ∧
          platform.backend.verifyPrehashed mechanism (platform.backend.hash digest message)
            signature obj = .ok true) ∧ reply = .done
  | .digest => reply = .bytes (platform.backend.hash mechanism message)

/-- Whether an answer has the form of a result. -/
def OperationType.IsResult (type : OperationType) (reply : Reply) : Prop :=
  match type with
  | .verify => reply = .done
  | _ => ∃ output, reply = .bytes output

/-! ### What an answer of success means -/

section Calls

variable {platform : Platform} {env : CallEnv} {s : Hsm} {handle : Nat} {session : Session}
  {reply : Reply}

/-- The operation of a session has ended, in a library that differs from the one before in its
history and its cipher tables only. -/
def Ended (s s' : Hsm) (handle : Nat) (session : Session) : Prop :=
  ∃ statics uses,
    s' = { s with statics := statics, keyUses := uses }.setOperation handle session none

/-- The library differs from the one before in its history and its cipher tables only, and the
operation goes on. -/
def Kept (s s' : Hsm) : Prop := ∃ statics uses, s' = { s with statics := statics, keyUses := uses }

theorem Kept.refl (s : Hsm) : Kept s s := ⟨s.statics, s.keyUses, rfl⟩

theorem Kept.computed {d : Delivery} {t : Hsm} (h : Kept s t) (statics : CipherStatics) :
    Kept s (d.computed statics t) := by
  obtain ⟨statics', uses, rfl⟩ := h
  unfold Delivery.computed
  split <;> exact ⟨_, _, rfl⟩

theorem Kept.ended {t : Hsm} (h : Kept s t) :
    Ended s (t.setOperation handle session none) handle session := by
  obtain ⟨statics, uses, rfl⟩ := h
  exact ⟨statics, uses, rfl⟩

theorem Kept.open {t : Hsm} (h : Kept s t) (hopen : s.Open handle session) :
    t.Open handle session := by
  obtain ⟨statics, uses, rfl⟩ := h
  exact ⟨hopen.postFailed_eq, hopen.session_eq⟩

theorem Ended.open {s' : Hsm} (h : Ended s s' handle session) (hopen : s.Open handle session) :
    s'.Open handle { session with activeOperation := none } := by
  obtain ⟨statics, uses, rfl⟩ := h
  exact (Kept.open ⟨statics, uses, rfl⟩ hopen).setOperation none

/-- What a call that succeeds has done. -/
inductive Outcome (platform : Platform) (type : OperationType) (mechanism : Nat)
    (mechanismParam : Bytes) (obj : StoredObject) (signature message : Bytes) (s : Hsm)
    (handle : Nat) (session : Session) : Reply → Hsm → Prop
  | length (n : Nat) : Outcome platform type mechanism mechanismParam obj signature message s handle
      session (.length n) s
  | tooSmall (n : Nat) {s' : Hsm} (hstate : Kept s s' ∨ Ended s s' handle session) :
      Outcome platform type mechanism mechanismParam obj signature message s handle session
        (.tooSmall n) s'
  | result {reply : Reply} {s' : Hsm}
      (hresult : IsResultFor platform type mechanism mechanismParam obj signature message reply)
      (hended : Ended s s' handle session) :
      Outcome platform type mechanism mechanismParam obj signature message s handle session reply s'

section Outcomes

variable {type : OperationType} {mechanism : Nat} {mechanismParam : Bytes} {obj : StoredObject}
  {signature message : Bytes} {output : Option Nat}

theorem Delivery.outcome {d : Delivery}
    (hresult : ∀ bytes, (d.produce env s.statics).1 = .ok bytes →
      IsResultFor platform type mechanism mechanismParam obj signature message (.bytes bytes))
    (h : (d.apply handle session env output s).1 = .ok reply) :
    Outcome platform type mechanism mechanismParam obj signature message s handle session reply
      (d.apply handle session env output s).2 := by
  cases output with
  | none =>
    simp only [apply] at h ⊢
    cases hlength : d.length with
    | error e => rw [hlength] at h; cases h
    | ok n => rw [hlength] at h; cases h; exact .length n
  | some size =>
    by_cases hrefused : size < d.refusesBelow
    · simp only [apply, hrefused, if_true] at h ⊢
      cases h
      exact .tooSmall _ (.inl (Kept.refl s))
    simp only [apply, hrefused, if_false] at h ⊢
    cases hproduce : (d.produce env s.statics).1 with
    | error e => rw [hproduce] at h; cases h
    | ok bytes =>
      have hkept : Kept s (d.computed (d.produce env s.statics).2 s) := (Kept.refl s).computed _
      simp only [hproduce] at h ⊢
      by_cases hshort : size < bytes.length
      · simp only [hshort, if_true] at h ⊢
        cases h
        refine .tooSmall _ ?_
        split
        · exact .inr hkept.ended
        · exact .inl hkept
      · simp only [hshort, if_false] at h ⊢
        cases h
        exact .result (hresult bytes hproduce) hkept.ended

theorem singleShot_ok_outcome (env : CallEnv) {use : KeyUse} {keyHandle : Nat} {data : Bytes}
    {estimate : StoredObject → Except CkRv Nat}
    {run : StoredObject → Bytes → CipherStatics → Except CkRv Bytes × CipherStatics}
    (hobj : s.objectStore.objects.get? keyHandle = some obj)
    (hresult : ∀ key bytes, obj.keyMaterial = some key → (run obj key s.statics).1 = .ok bytes →
      IsResultFor platform type mechanism mechanismParam obj signature message (.bytes bytes))
    (h : (singleShot handle session use keyHandle data output estimate run s).1 = .ok reply) :
    Outcome platform type mechanism mechanismParam obj signature message s handle session reply
      (singleShot handle session use keyHandle data output estimate run s).2 := by
  rw [singleShot_eq env] at h ⊢
  split_ifs at h ⊢
  cases hmaterial : s.materialOf keyHandle none with
  | error e => rw [hmaterial] at h; cases h
  | ok material =>
    rw [hmaterial] at h
    obtain ⟨hkeyOf, hkey⟩ := Hsm.materialOf_eq_ok.mp hmaterial
    obtain rfl := Option.mem_unique hobj (Hsm.keyOf_none_eq_ok.mp hkeyOf)
    exact Delivery.outcome (fun bytes hrun ↦ hresult _ bytes hkey hrun) h

end Outcomes

theorem verifyReply_eq_ok {answer : HsmResult Bool} (h : verifyReply answer = .ok reply) :
    answer = .ok true ∧ reply = .done := by
  cases answer with
  | error e => cases h
  | ok valid =>
    cases valid with
    | false => cases h
    | true => exact ⟨rfl, (Except.ok.inj h).symm⟩

theorem signReply_eq_ok {size : Nat} {signature : HsmResult Bytes}
    (h : signReply size signature = .ok reply) :
    (∃ length, reply = .tooSmall length) ∨
      ∃ bytes, signature = .ok bytes ∧ reply = .bytes bytes := by
  cases signature with
  | error e => cases h
  | ok bytes =>
    simp only [signReply] at h
    split_ifs at h
    · exact Or.inl ⟨_, (Except.ok.inj h).symm⟩
    · exact Or.inr ⟨bytes, rfl, (Except.ok.inj h).symm⟩

theorem signParts_signatureWith (mechanism key ref : Nat) (fed : Bytes) (obj : StoredObject)
    (material : Bytes) :
    signParts platform env (signatureWith mechanism key ref fed) obj material =
      match signMechanismToDigestMechanism mechanism with
      | some digest => platform.backend.signPrehashed env.seed mechanism material
          (platform.backend.hash digest fed) obj
      | none => platform.backend.signSingleShot env.seed mechanism material fed obj := by
  unfold signatureWith
  cases signMechanismToDigestMechanism mechanism <;> rfl

theorem verifyParts_signatureWith (mechanism key ref : Nat) (fed signature : Bytes)
    (obj : StoredObject) :
    verifyParts platform (signatureWith mechanism key ref fed) signature obj =
      match signMechanismToDigestMechanism mechanism with
      | some digest => platform.backend.verifyPrehashed mechanism (platform.backend.hash digest fed)
          signature obj
      | none => platform.backend.verifySingleShot mechanism fed signature obj := by
  unfold signatureWith
  cases signMechanismToDigestMechanism mechanism <;> rfl

section Single

variable {type : OperationType} {mechanism key : Nat} {mechanismParam : Bytes} {ref : Nat}
  {fed data : Bytes} {output : Option Nat} {signature : Bytes} {obj : StoredObject}

/-- A single call that succeeds tells a length, refuses its buffer or gives a result for its input.
A digest is refused after parts. -/
theorem single_outcome (hopen : s.Open handle session)
    (hop : session.activeOperation =
      some (type.operationWith mechanism key mechanismParam ref fed))
    (hobj : type ≠ .digest → s.objectStore.objects.get? key = some obj)
    (h : (type.single platform env handle data output signature s).1 = .ok reply) :
    Outcome platform type mechanism mechanismParam obj signature data s handle session reply
      (type.single platform env handle data output signature s).2 ∧
        (type = .digest → fed = []) := by
  obtain ⟨hmechanism, hkey, -⟩ := signatureWith_fields mechanism key ref fed
  cases type with
  | encrypt =>
    rw [OperationType.single, cEncrypt_eq hopen hop] at h ⊢
    exact ⟨singleShot_ok_outcome env (hobj (by decide)) (fun material bytes hmaterial hrun ↦
      ⟨material, env.seed, s.statics, bytes, hmaterial, hrun, rfl⟩) h, by simp⟩
  | decrypt =>
    rw [OperationType.single, cDecrypt_eq hopen hop] at h ⊢
    exact ⟨singleShot_ok_outcome env (hobj (by decide)) (fun material bytes hmaterial hrun ↦
      ⟨material, bytes, hmaterial, hrun, rfl⟩) h, by simp⟩
  | sign =>
    rw [OperationType.single, cSign_eq hopen hop, hkey, hmechanism] at h ⊢
    exact ⟨singleShot_ok_outcome env (hobj (by decide)) (fun material bytes hmaterial hrun ↦
      ⟨material, env.seed, bytes, hmaterial, Or.inl (toAbi_eq_ok_iff.mp hrun), rfl⟩) h, by simp⟩
  | verify =>
    rw [OperationType.single, cVerify_eq hopen hop, hkey, hmechanism,
      Hsm.keyOf_none_eq_ok.mpr (hobj (by decide))] at h ⊢
    split_ifs at h ⊢
    obtain ⟨haccepted, rfl⟩ := verifyReply_eq_ok h
    exact ⟨.result ⟨Or.inl haccepted, rfl⟩ ⟨s.statics, _, rfl⟩, by simp⟩
  | digest =>
    rw [OperationType.single, cDigest_eq hopen hop env] at h ⊢
    split_ifs at h ⊢ with hfresh
    refine ⟨?_, fun _ ↦ hfresh⟩
    unfold CryptoBackend.computeDigest at h ⊢
    split_ifs at h ⊢
    · exact Delivery.outcome (fun bytes hbytes ↦ congrArg Reply.bytes (Except.ok.inj hbytes).symm) h
    · cases h

/-- A final call that succeeds tells a length, refuses its buffer or gives a result for the data
that were fed. -/
theorem finish_outcome (hopen : s.Open handle session)
    (hop : session.activeOperation =
      some (type.operationWith mechanism key mechanismParam ref fed))
    (hobj : type ≠ .digest → s.objectStore.objects.deref ref = some obj)
    (h : (type.finish platform env handle output signature s).1 = .ok reply) :
    Outcome platform type mechanism mechanismParam obj signature fed s handle session reply
      (type.finish platform env handle output signature s).2 := by
  obtain ⟨hmechanism, hkey, href⟩ := signatureWith_fields mechanism key ref fed
  have hkeyOf : ∀ keyHandle, type ≠ .digest → s.keyOf keyHandle (some ref) = .ok obj :=
    fun keyHandle htype ↦ by simp [Hsm.keyOf, hobj htype]
  have hmaterialOf := fun htype ↦ Hsm.materialOf_some (hobj htype)
  cases type with
  | encrypt =>
    rw [OperationType.finish, cEncryptFinal_eq hopen hop] at h ⊢
    split_ifs at h ⊢ with hparts
    cases output with
    | none => cases h; exact .length _
    | some size =>
      simp only [encryptParts_eq hparts env.seed obj] at h ⊢
      simp only [cipherWith, hmaterialOf (by decide)] at h ⊢
      split_ifs at h ⊢
      · cases h
        exact .tooSmall _ (.inl (Kept.refl s))
      cases hmaterial : obj.keyMaterial with
      | none => rw [hmaterial] at h; cases h
      | some material =>
        simp only [hmaterial, Option.elim_some] at h ⊢
        cases hrun : (platform.backend.encryptData platform.crates env.seed s.statics mechanism
            mechanismParam obj material fed).1 with
        | error e => rw [hrun] at h; cases h
        | ok bytes =>
          simp only [hrun] at h
          split_ifs at h <;> cases h
          · exact .tooSmall _ (.inr ⟨_, _, rfl⟩)
          · exact .result ⟨material, env.seed, s.statics, bytes, hmaterial, hrun, rfl⟩ ⟨_, _, rfl⟩
  | decrypt =>
    rw [OperationType.finish, cDecryptFinal_eq hopen hop] at h ⊢
    split_ifs at h ⊢ with hparts
    cases output with
    | none => cases h; exact .length _
    | some size =>
      simp only [decryptParts_eq hparts] at h ⊢
      simp only [cipherWith, hmaterialOf (by decide)] at h ⊢
      split_ifs at h ⊢
      · cases h
        exact .tooSmall _ (.inl (Kept.refl s))
      cases hmaterial : obj.keyMaterial with
      | none => rw [hmaterial] at h; cases h
      | some material =>
        simp only [hmaterial, Option.elim_some] at h ⊢
        cases hrun : platform.backend.decryptData platform.crates mechanism mechanismParam material
            fed with
        | error e => rw [hrun] at h; cases h
        | ok bytes =>
          rw [hrun] at h
          cases h
          exact .result ⟨material, bytes, hmaterial, hrun, rfl⟩ ⟨s.statics, _, rfl⟩
  | sign =>
    rw [OperationType.finish, cSignFinal_eq hopen hop, href, hkey] at h ⊢
    cases output with
    | none =>
      cases hlength : s.keyOf key none >>=
          signatureEstimate (signatureWith mechanism key ref fed).mechanism with
      | error e => rw [hlength] at h; cases h
      | ok length => rw [hlength] at h; cases h; exact .length _
    | some size =>
      simp only [hmaterialOf (by decide)] at h ⊢
      cases hmaterial : obj.keyMaterial with
      | none => rw [hmaterial] at h; cases h
      | some material =>
        simp only [hmaterial, Option.elim_some, signParts_signatureWith] at h ⊢
        rcases signReply_eq_ok h with ⟨length, rfl⟩ | ⟨bytes, hsigned, rfl⟩
        · exact .tooSmall _ (.inr ⟨s.statics, _, rfl⟩)
        refine .result ⟨material, env.seed, bytes, hmaterial, ?_, rfl⟩ ⟨s.statics, _, rfl⟩
        cases hdigest : signMechanismToDigestMechanism mechanism with
        | none => rw [hdigest] at hsigned; exact Or.inl hsigned
        | some digest => rw [hdigest] at hsigned; exact Or.inr ⟨digest, rfl, hsigned⟩
  | verify =>
    rw [OperationType.finish, cVerifyFinal_eq hopen hop, href, hkeyOf _ (by decide)] at h ⊢
    simp only [verifyParts_signatureWith] at h ⊢
    split_ifs at h ⊢
    obtain ⟨haccepted, rfl⟩ := verifyReply_eq_ok h
    refine .result ⟨?_, rfl⟩ ⟨s.statics, _, rfl⟩
    cases hdigest : signMechanismToDigestMechanism mechanism with
    | none => rw [hdigest] at haccepted; exact Or.inl haccepted
    | some digest => rw [hdigest] at haccepted; exact Or.inr ⟨digest, rfl, haccepted⟩
  | digest =>
    rw [OperationType.finish, cDigestFinal_eq hopen hop] at h ⊢
    cases output with
    | none => cases h; exact .length _
    | some size =>
      simp only [digestWith] at h ⊢
      split_ifs at h ⊢ <;> cases h
      · exact .tooSmall _ (.inr ⟨s.statics, s.keyUses, rfl⟩)
      · exact .result rfl ⟨s.statics, s.keyUses, rfl⟩

end Single

end Calls

end CratonHsm
