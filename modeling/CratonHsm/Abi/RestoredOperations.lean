import CratonHsm.Abi.OperationCalls
import CratonHsm.Abi.SessionCalls

/-!
# Operations that are saved and restored

`C_GetOperationState` hands an active operation to the caller, and `C_SetOperationState` puts it
back (`Restores`). Two things are said about the way back.

*Admission.* The checks that the `Init` calls make on a login, a permission flag, the lifecycle of
the key and the policy are not made again, and an active operation is replaced. So a restored
signature or verification is one that `C_SignInit` or `C_VerifyInit` would start exactly if those
checks happen to pass (`restored_admission_iff`).

*Continuation.* The blob holds the accumulated data of an operation but not its running hash. A
restored operation goes on as the saved one exactly if it is a digest or its mechanism has no
built-in hash (`restored_continues_iff`).
-/

set_option autoImplicit false

namespace CratonHsm

open Crypto Crypto.Encrypt Library Store
open Program (ensures_require_iff ensures_reads_iff)
open ActiveOperation OperationType

variable {operation : ActiveOperation} {authenticationKey : Nat} {saved : SavedOperation}

/-! ### The two calls -/

/-- What `C_SetOperationState` makes of a blob on a session. -/
structure Restores (platform : Platform) (s : Hsm) (handle : Nat) (session : Session) (blob : Bytes)
    (authenticationKey : Nat) (saved : SavedOperation) (operation : ActiveOperation) : Prop where
  saved_eq : deserializeState platform.hmacSha256 s.stateHmacKey blob handle session.slotId =
    .ok saved
  key_found : saved.type = .sign ∨ saved.type = .verify →
    ∃ obj, s.objectStore.objects.get? (resolvedKey saved authenticationKey) = some obj
  operation_eq : restoredOperation saved (resolvedKey saved authenticationKey) = .ok operation

section Calls

variable {platform : Platform} {s : Hsm} {handle : Nat} {session : Session} {blob : Bytes}
  {authenticationKey : Nat}

theorem Restores.eq (hopen : s.Open handle session) (hne : blob ≠ [])
    (hlength : blob.length ≤ maxSingleBuffer)
    (h : Restores platform s handle session blob authenticationKey saved operation) :
    cSetOperationState platform handle blob authenticationKey s =
      (.ok .done, s.setOperation handle session (some operation)) := by
  have hkey : ¬((saved.type = .sign ∨ saved.type = .verify) ∧
      s.objectStore.objects.get? (resolvedKey saved authenticationKey) = none) := by
    rintro ⟨htype, hnone⟩
    obtain ⟨obj, hobj⟩ := h.key_found htype
    exact nomatch hnone.symm.trans hobj
  unfold cSetOperationState getHsm getSession
  simp only [Program.reads_bind, hopen.postFailed_eq, Program.require_bind, hne, hlength, ne_eq,
    not_false_eq_true, if_true, Bool.false_eq_true, if_false, SessionManager.getSession,
    hopen.session_eq, toAbi, h.saved_eq, hkey, h.operation_eq]
  rfl

/-- `C_SetOperationState` answers `CKR_OK` only where it restores an operation. -/
theorem Restores.of_ok {reply : Reply}
    (h : (cSetOperationState platform handle blob authenticationKey s).1 = .ok reply) :
    ∃ session saved operation, s.Open handle session ∧
      Restores platform s handle session blob authenticationKey saved operation ∧
      (cSetOperationState platform handle blob authenticationKey s).2 =
        s.setOperation handle session (some operation) := by
  suffices hcall : (cSetOperationState platform handle blob authenticationKey).Ensures s fun r s' ↦
      r = .ok reply → ∃ session saved operation, s.Open handle session ∧
        Restores platform s handle session blob authenticationKey saved operation ∧
        s' = s.setOperation handle session (some operation) from hcall h
  simp only [cSetOperationState, ensures_getHsm, ensures_getSession, ensures_require_iff,
    ensures_reads_iff, reduceCtorEq, false_imp_iff, implies_true, true_and]
  intro hlive _ _ session hsession saved hsaved _ hkey operation hoperation _
  refine ⟨session, saved, operation, ⟨hlive, hsession⟩, ⟨?_, fun htype ↦ ?_, hoperation⟩, rfl⟩
  · split at hsaved
    next saved' hparsed => rw [hparsed, Except.ok.inj hsaved]
    next => cases hsaved
  · refine Option.ne_none_iff_exists'.mp fun hnone ↦ ?_
    rw [if_pos ⟨htype, hnone⟩] at hkey
    cases hkey

/-- A blob is the saved form of the active operation, which is no encryption and no decryption. -/
theorem cGetOperationState_ok {size : Nat}
    (h : (cGetOperationState platform handle (some size) s).1 = .ok (.bytes blob)) :
    ∃ session operation, s.Open handle session ∧ session.activeOperation = some operation ∧
      operation.serializeState platform.hmacSha256 s.stateHmacKey handle session.slotId =
        .ok blob := by
  suffices hcall : (cGetOperationState platform handle (some size)).Ensures s fun r _ ↦
      r = .ok (.bytes blob) → ∃ session operation, s.Open handle session ∧
        session.activeOperation = some operation ∧
        operation.serializeState platform.hmacSha256 s.stateHmacKey handle session.slotId =
          .ok blob from hcall h
  simp only [cGetOperationState, ensures_getHsm, ensures_getSession, ensures_require_iff,
    ensures_reads_iff, reduceCtorEq, false_imp_iff, implies_true, true_and]
  intro hlive session hsession operation hoperation _ bytes hbytes hreply
  have hblob : bytes = blob := by
    simp only [deliver] at hreply
    split_ifs at hreply
    · cases Except.ok.inj hreply
    · exact Reply.bytes.inj (Except.ok.inj hreply)
  refine ⟨session, operation, ⟨hlive, hsession⟩, ?_, ?_⟩
  · cases hactive : session.activeOperation with
    | none => rw [hactive] at hoperation; cases hoperation
    | some other =>
      rw [hactive] at hoperation
      exact congrArg some (Except.ok.inj hoperation)
  · split at hbytes
    next bytes' hserialized => rw [hserialized, Except.ok.inj hbytes, hblob]
    next => cases hbytes

end Calls

/-! ### Admission -/

/-- What `C_SignInit` asks of a session, a mechanism and a key that is there. -/
def SignGranted (env : CallEnv) (s : Hsm) (session : Session) (mechanism : Nat)
    (obj : StoredObject) : Prop :=
  session.state.isLoggedIn = true ∧ session.activeOperation = none ∧
    isSignMechanism mechanism = true ∧
    validateMechanismForPolicy mechanism s.algorithmConfig true = .ok () ∧ obj.canSign = true ∧
    obj.checkLifecycle env.now .sign = .ok (.ok ()) ∧
    enforce mechanism s.algorithmConfig (storedKeyBits obj) = .ok ()

/-- What `C_VerifyInit` asks of a session, a mechanism and a key that is there. -/
def VerifyGranted (env : CallEnv) (s : Hsm) (session : Session) (mechanism : Nat)
    (obj : StoredObject) : Prop :=
  (obj.isPrivate = true → session.state.isLoggedIn = true) ∧ session.activeOperation = none ∧
    isSignMechanism mechanism = true ∧
    validateMechanismForPolicy mechanism s.algorithmConfig false = .ok () ∧ obj.canVerify = true ∧
    obj.checkLifecycle env.now .verify = .ok (.ok ()) ∧
    enforce mechanism s.algorithmConfig (storedKeyBits obj) = .ok ()

section Admission

variable {env : CallEnv} {s : Hsm} {handle : Nat} {session : Session} {mechanism key : Nat}
  {obj : StoredObject}

theorem exists_ref_of_get? (hobj : s.objectStore.objects.get? key = some obj) :
    ∃ ref, s.objectStore.objects.refs[key]? = some ref := by
  obtain ⟨ref, href, -⟩ := Option.bind_eq_some_iff.mp hobj
  exact ⟨ref, href⟩

theorem cSignInit_ok_iff_granted (hopen : s.Open handle session)
    (hobj : s.objectStore.objects.get? key = some obj) :
    (cSignInit env handle mechanism key s).1 = .ok .done ↔
      SignGranted env s session mechanism obj := by
  rw [cSignInit_ok_iff hopen]
  constructor
  · rintro ⟨ref, found, h⟩
    obtain rfl : found = obj := Option.mem_unique h.admitted.obj_eq hobj
    exact ⟨h.loggedIn, h.idle, h.isSign, h.policy, h.admitted.permitted_eq,
      h.admitted.lifecycle_eq, h.admitted.approved_eq⟩
  · rintro ⟨hlogged, hidle, hsign, hpolicy, hpermitted, hlifecycle, happroved⟩
    obtain ⟨ref, href⟩ := exists_ref_of_get? hobj
    exact ⟨ref, obj, hlogged, hidle, hsign, hpolicy,
      href, hobj, hpermitted, hlifecycle, happroved⟩

theorem cVerifyInit_ok_iff_granted (hopen : s.Open handle session)
    (hobj : s.objectStore.objects.get? key = some obj) :
    (cVerifyInit env handle mechanism key s).1 = .ok .done ↔
      VerifyGranted env s session mechanism obj := by
  rw [cVerifyInit_ok_iff hopen]
  constructor
  · rintro ⟨ref, found, h⟩
    obtain rfl : found = obj := Option.mem_unique h.admitted.obj_eq hobj
    exact ⟨h.login, h.idle, h.isSign, h.policy, h.admitted.permitted_eq, h.admitted.lifecycle_eq,
      h.admitted.approved_eq⟩
  · rintro ⟨hlogin, hidle, hsign, hpolicy, hpermitted, hlifecycle, happroved⟩
    obtain ⟨ref, href⟩ := exists_ref_of_get? hobj
    exact ⟨ref, obj, hidle, hsign, hpolicy, hlogin, href, hobj, hpermitted, hlifecycle, happroved⟩

end Admission

/-- A restored operation is what was saved, under the key that was chosen. -/
theorem saved_restoredOperation {keyHandle : Nat}
    (h : restoredOperation saved keyHandle = .ok operation) : operation.saved = { saved with
      keyHandle := if saved.type = .digest then 0 else keyHandle, mechanismParam := [] } := by
  obtain ⟨type, mechanism, key, mechanismParam, data⟩ := saved
  cases type with
  | encrypt => cases h
  | decrypt => cases h
  | sign => obtain rfl := Except.ok.inj h; rfl
  | verify => obtain rfl := Except.ok.inj h; rfl
  | digest =>
    simp only [restoredOperation] at h
    cases hhasher : (createHasher mechanism).map (hasherUpdate · data) with
    | error e => rw [hhasher] at h; cases h
    | ok hasher => rw [hhasher] at h; obtain rfl := Except.ok.inj h; rfl

/-- The key of a restored signature or verification exists. -/
theorem Restores.exists_key {platform : Platform} {s : Hsm} {handle : Nat} {session : Session}
    {blob : Bytes} (h : Restores platform s handle session blob authenticationKey saved operation)
    (htype : operation.saved.type = .sign ∨ operation.saved.type = .verify) :
    ∃ obj, s.objectStore.objects.get? operation.saved.keyHandle = some obj := by
  have hsaved := saved_restoredOperation h.operation_eq
  rw [hsaved] at htype ⊢
  obtain ⟨obj, hobj⟩ := h.key_found htype
  have hdigest : saved.type ≠ .digest := by
    rcases htype with htype | htype <;> rw [htype] <;> decide
  exact ⟨obj, by simpa [if_neg hdigest] using hobj⟩

/-- A signature that `C_SetOperationState` restored could have been started with `C_SignInit`
exactly if the user is logged in, no operation was active, and policy, permission and lifecycle of
the key are in order; likewise for a verification. -/
theorem restored_admission_iff (platform : Platform) (env : CallEnv) (s : Hsm) (handle : Nat)
    (blob : Bytes) (authenticationKey : Nat)
    (hok : (cSetOperationState platform handle blob authenticationKey s).1 = .ok .done) :
    ∃ session, s.Open handle session ∧
      (∀ op, (cSetOperationState platform handle blob authenticationKey s).2.operation handle =
          some (.sign op) → ∃ obj, s.objectStore.objects.get? op.keyHandle = some obj ∧
        ((cSignInit env handle op.mechanism op.keyHandle s).1 = .ok .done ↔
          SignGranted env s session op.mechanism obj)) ∧
      (∀ op, (cSetOperationState platform handle blob authenticationKey s).2.operation handle =
          some (.verify op) → ∃ obj, s.objectStore.objects.get? op.keyHandle = some obj ∧
        ((cVerifyInit env handle op.mechanism op.keyHandle s).1 = .ok .done ↔
          VerifyGranted env s session op.mechanism obj)) := by
  obtain ⟨session, saved, operation, hopen, hrestores, hstate⟩ := Restores.of_ok hok
  refine ⟨session, hopen, fun op hop ↦ ?_, fun op hop ↦ ?_⟩
  · rw [hstate, Hsm.operation_setOperation] at hop
    obtain rfl := Option.some.inj hop
    obtain ⟨obj, hobj⟩ := hrestores.exists_key (Or.inl rfl)
    exact ⟨obj, hobj, cSignInit_ok_iff_granted hopen hobj⟩
  · rw [hstate, Hsm.operation_setOperation] at hop
    obtain rfl := Option.some.inj hop
    obtain ⟨obj, hobj⟩ := hrestores.exists_key (Or.inr rfl)
    exact ⟨obj, hobj, cVerifyInit_ok_iff_granted hopen hobj⟩

/-! ### A signature restored after a logout -/

/-- What the tag of a saved operation without parameters covers. -/
def taggedText (type : OperationType) (mechanism keyHandle : Nat) (data : Bytes) : Bytes :=
  SavedOperation.header ⟨type, mechanism, keyHandle, [], data⟩ firstSession 0 ++ leBytes 4 0 ++
    leBytes 4 data.length ++ data

/-- Three saved operations of the first session and their tags: an ECDSA signature without and with
a built-in hash, neither with data, and a digest of three bytes. -/
def savedTags : List (Bytes × Nat) :=
  [(taggedText .sign ckmEcdsa firstObject [],
      0xeac8d507046e2a66d5d6d258536797c8d559206d4143e5313d55e038339c25a9),
    (taggedText .sign ckmEcdsaSha256 firstObject [],
      0xbf0d69e14ea4907e94c602e7c7e1dd2f1319fbc2eb1eca31ddde1e137eb059ae),
    (taggedText .digest ckmSha256 0 [1, 2, 3],
      0x2bffb3e0a34fed96f1f3df63b4766469d4a8945256ad89236c8ba897b031ad87)]

/-- A platform that knows these tags and a digest of four bytes. -/
def savingPlatform : Platform :=
  .recorded [(ckmSha256, [1, 2, 3, 4],
    beBytes 32 0x9f64a747e1b97f131fabb6b447296c9b6f0201e79fb3c5356e6c77e89b6a806a)] savedTags

/-- The blob of an operation among them. -/
def savedBlob (text : Bytes) : Bytes :=
  text ++ (savingPlatform.hmacSha256 signerLibrary.stateHmacKey text).1

/-- While the user is logged in, the saved signature is restored and could also be started. -/
theorem restored_admission_logged_in :
    (cSetOperationState savingPlatform firstSession
        (savedBlob (taggedText .sign ckmEcdsa firstObject [])) 0 signerLibrary).1 = .ok .done ∧
      (cSignInit (callEnvAt 6) firstSession ckmEcdsa firstObject signerLibrary).1 = .ok .done ∧
      ∃ session obj, signerLibrary.Open firstSession session ∧
        signerLibrary.objectStore.objects.get? firstObject = some obj ∧
        SignGranted (callEnvAt 6) signerLibrary session ckmEcdsa obj := by
  have hok : (cSetOperationState savingPlatform firstSession
      (savedBlob (taggedText .sign ckmEcdsa firstObject [])) 0 signerLibrary).1 = .ok .done := by
    decide +kernel
  have hinit : (cSignInit (callEnvAt 6) firstSession ckmEcdsa firstObject signerLibrary).1 =
      .ok .done := by
    decide +kernel
  obtain ⟨session, hopen, hsign, -⟩ := restored_admission_iff savingPlatform (callEnvAt 6)
    signerLibrary firstSession (savedBlob (taggedText .sign ckmEcdsa firstObject [])) 0 hok
  obtain ⟨obj, hobj, hiff⟩ := hsign ⟨ckmEcdsa, firstObject, [], none, none⟩ (by decide +kernel)
  exact ⟨hok, hinit, session, obj, hopen, hobj, hiff.mp hinit⟩

/-- The user starts a signature and logs out. -/
def signerLoggedOut : Hsm :=
  (cLogout (callEnvAt 7) firstSession
    (cSignInit (callEnvAt 6) firstSession ckmEcdsa firstObject signerLibrary).2).2

/-- The signature, saved before the logout, is restored after it, where `C_SignInit` asks for a
login. -/
theorem restored_without_login :
    (cGetOperationState savingPlatform firstSession (some 1024)
        (cSignInit (callEnvAt 6) firstSession ckmEcdsa firstObject signerLibrary).2).1 =
          .ok (.bytes (savedBlob (taggedText .sign ckmEcdsa firstObject []))) ∧
      (cSetOperationState savingPlatform firstSession
        (savedBlob (taggedText .sign ckmEcdsa firstObject [])) 0 signerLoggedOut).1 = .ok .done ∧
      (cSetOperationState savingPlatform firstSession
        (savedBlob (taggedText .sign ckmEcdsa firstObject [])) 0 signerLoggedOut).2.operation
          firstSession = some (.sign ⟨ckmEcdsa, firstObject, [], none, none⟩) ∧
      (cSignInit (callEnvAt 8) firstSession ckmEcdsa firstObject signerLoggedOut).1 =
        .error .userNotLoggedIn := by
  decide +kernel

/-! ### Going on after a restoration -/

/-- What is left of an operation that is saved and restored: a digest as it was, a signature or
verification without hasher and cached object. -/
def ActiveOperation.restored : ActiveOperation → ActiveOperation
  | .sign op => .sign { op with hasher := none, cachedObject := none }
  | .verify op => .verify { op with hasher := none, cachedObject := none }
  | operation => operation

/-- Two libraries in which an operation and the one restored from it go on: the cached object of the
one is the object under the key handle in both. -/
structure Paired (type : OperationType) (handle mechanism key : Nat) (mechanismParam : Bytes)
    (ref : Nat) (s t : Hsm) : Prop where
  alike : ∃ a b, s.Open handle a ∧ t.Open handle b ∧
    (a.activeOperation = none ∧ b.activeOperation = none ∨
      ∃ data, a.activeOperation =
          some (type.operationWith mechanism key mechanismParam ref data) ∧
        b.activeOperation =
          some (type.operationWith mechanism key mechanismParam ref data).restored)
  held : type ≠ .digest → ∃ obj, s.keyOf key (some ref) = .ok obj ∧ s.keyOf key none = .ok obj ∧
    t.keyOf key none = .ok obj

section Continuing

variable {platform : Platform} {env : CallEnv} {s t : Hsm} {handle mechanism key : Nat}
  {mechanismParam : Bytes} {ref : Nat} {type : OperationType}

/-- Without a built-in hash, only the cached object is lost. -/
theorem signatureWith_plain (hplain : signMechanismToDigestMechanism mechanism = none)
    (data : Bytes) :
    signatureWith mechanism key ref data = ⟨mechanism, key, data, none, some ref⟩ := by
  rw [signatureWith, hplain]

theorem saved_type_restored (operation : ActiveOperation) :
    operation.restored.saved.type = operation.saved.type := by
  cases operation <;> rfl

/-- The saved operation and the restored one take a part alike. -/
theorem withPart_restored
    (hplain : type = .digest ∨ signMechanismToDigestMechanism mechanism = none)
    (data part : Bytes) :
    (type.operationWith mechanism key mechanismParam ref data).restored.withPart part =
      ((type.operationWith mechanism key mechanismParam ref data).withPart part).map
        restored := by
  cases type <;> simp only [operationWith, restored,
    withPart]
  case digest => split_ifs <;> rfl
  case encrypt | decrypt => cases appendPart (cipherWith ..) part <;> rfl
  case sign | verify =>
    simp only [signatureWith_plain (hplain.resolve_left (by decide)), signPart]
    split_ifs <;> rfl

/-- Paired operations answer a part alike and stay paired. -/
theorem Paired.feed (h : Paired type handle mechanism key mechanismParam ref s t)
    (hplain : type = .digest ∨ signMechanismToDigestMechanism mechanism = none) (part : Bytes) :
    (type.feed handle part s).1 = (type.feed handle part t).1 ∧
      Paired type handle mechanism key mechanismParam ref (type.feed handle part s).2
        (type.feed handle part t).2 := by
  obtain ⟨⟨a, b, ha, hb, ⟨hopa, hopb⟩ | ⟨data, hopa, hopb⟩⟩, hheld⟩ := h
  · rw [type.feed_other ha (Session.lacks_of_idle hopa type),
      type.feed_other hb (Session.lacks_of_idle hopb type)]
    exact ⟨rfl, ⟨a, b, ha, hb, Or.inl ⟨hopa, hopb⟩⟩, hheld⟩
  · have htype := saved_type_operationWith type mechanism key mechanismParam ref data
    rw [feed_eq ha hopa htype, feed_eq hb hopb ((saved_type_restored _).trans htype),
      withPart_restored hplain]
    rcases withPart_operationWith type mechanism key mechanismParam ref data part with
      hpart | ⟨e, hpart⟩
    · rw [hpart]
      exact ⟨rfl, ⟨_, _, ha.setOperation _, hb.setOperation _, Or.inr ⟨data ++ part, rfl, rfl⟩⟩,
        hheld⟩
    · rw [hpart]
      exact ⟨rfl, ⟨_, _, ha.setOperation _, hb.setOperation _, Or.inl ⟨rfl, rfl⟩⟩, hheld⟩

theorem Paired.finish (h : Paired type handle mechanism key mechanismParam ref s t)
    (hsaveable : type ≠ .encrypt ∧ type ≠ .decrypt)
    (hplain : type = .digest ∨ signMechanismToDigestMechanism mechanism = none)
    (output : Option Nat) (signature : Bytes) :
    (type.finish platform env handle output signature s).1 =
      (type.finish platform env handle output signature t).1 := by
  obtain ⟨⟨a, b, ha, hb, ⟨hopa, hopb⟩ | ⟨data, hopa, hopb⟩⟩, hheld⟩ := h
  · rw [type.finish_other ha (Session.lacks_of_idle hopa type),
      type.finish_other hb (Session.lacks_of_idle hopb type)]
  · cases type with
    | encrypt => exact absurd rfl hsaveable.1
    | decrypt => exact absurd rfl hsaveable.2
    | digest =>
      rw [finish, cDigestFinal_eq ha hopa, cDigestFinal_eq hb hopb]
      cases output <;> rfl
    | sign =>
      obtain ⟨obj, hcached, hobj, hobj'⟩ := hheld (by decide)
      simp only [operationWith, restored,
        signatureWith_plain (hplain.resolve_left (by decide))] at hopa hopb
      rw [finish, cSignFinal_eq ha hopa, cSignFinal_eq hb hopb]
      cases output with
      | none =>
        simp only [hobj, hobj', bind, Except.bind]
        cases signatureEstimate mechanism obj <;> rfl
      | some size =>
        simp only [Hsm.materialOf, hcached, hobj']
        cases obj.keyMaterial <;> rfl
    | verify =>
      obtain ⟨obj, hcached, -, hobj'⟩ := hheld (by decide)
      simp only [operationWith, restored,
        signatureWith_plain (hplain.resolve_left (by decide))] at hopa hopb
      rw [finish, cVerifyFinal_eq ha hopa, cVerifyFinal_eq hb hopb]
      simp only [hcached, hobj']
      split_ifs <;> rfl

end Continuing

/-! ### What a restoration loses -/

/-- Where an operation that was saved in `s` can be taken up again: the session is there, on the
same slot and in the same process, and so is the key of a signature or a verification. -/
structure Resumes (type : OperationType) (handle key : Nat) (s t : Hsm) : Prop where
  postFailed_eq : t.postFailed = false
  slotId_eq : t.sessionManager.sessions[handle]?.map Session.slotId =
    s.sessionManager.sessions[handle]?.map Session.slotId
  stateHmacKey_eq : t.stateHmacKey = s.stateHmacKey
  key_eq : type ≠ .digest → t.objectStore.objects.get? key = s.objectStore.objects.get? key

/-- No signature mechanism is a digest mechanism. -/
theorem createHasher_of_isSign {mechanism : Nat} (h : isSignMechanism mechanism = true) :
    createHasher mechanism = .error .mechanismInvalid := by
  have hdigest : isDigestMechanism mechanism = false := by
    simp only [isSignMechanism, decide_eq_true_eq] at h
    revert mechanism
    decide
  simp [createHasher, hdigest]

/-- The mechanisms with a built-in hash are those that take parts. -/
theorem supportsMultipart_of_digest {mechanism digest : Nat}
    (h : signMechanismToDigestMechanism mechanism = some digest) :
    signMechanismSupportsMultipart mechanism = true := by
  unfold signMechanismToDigestMechanism at h
  split_ifs at h with h256 h384 h512
  · revert mechanism; decide
  · clear h256; revert mechanism; decide
  · clear h256 h384; revert mechanism; decide

section Loss

variable {handle mechanism key : Nat} {mechanismParam : Bytes} {ref : Nat} {type : OperationType}

theorem saved_operationWith (type : OperationType) (mechanism key : Nat) (mechanismParam : Bytes)
    (ref : Nat) (data : Bytes) :
    (type.operationWith mechanism key mechanismParam ref data).saved.type = type ∧
      (type.operationWith mechanism key mechanismParam ref data).saved.mechanism = mechanism ∧
      (type.operationWith mechanism key mechanismParam ref data).saved.keyHandle =
        if type = .digest then 0 else key := by
  obtain ⟨hmechanism, hkey, -⟩ := signatureWith_fields mechanism key ref data
  cases type with
  | sign => exact ⟨rfl, hmechanism, hkey⟩
  | verify => exact ⟨rfl, hmechanism, hkey⟩
  | _ => exact ⟨rfl, rfl, rfl⟩

variable {data blob : Bytes} {platform : Platform} {s t : Hsm} {digest : Nat}

theorem restoredOperation_operationWith {keyHandle : Nat}
    (hsaveable : type ≠ .encrypt ∧ type ≠ .decrypt) (hmechanism : type.isMechanism mechanism = true)
    (hkey : type ≠ .digest → keyHandle = key) :
    restoredOperation (type.operationWith mechanism key mechanismParam ref data).saved keyHandle =
      .ok (type.operationWith mechanism key mechanismParam ref data).restored := by
  obtain ⟨hfield, hkeyField, -⟩ := signatureWith_fields mechanism key ref data
  cases type with
  | encrypt => exact absurd rfl hsaveable.1
  | decrypt => exact absurd rfl hsaveable.2
  | digest =>
    have hdigest : isDigestMechanism mechanism = true := hmechanism
    simp [restoredOperation, operationWith, digestWith, saved,
      createHasher, hdigest, Except.map, hasherUpdate, restored]
  | sign =>
    have hhasher := createHasher_of_isSign hmechanism
    rw [← hfield] at hhasher
    simp only [restoredOperation, operationWith, saved, hhasher,
      restored, hkeyField, hkey (by decide)]
    rfl
  | verify =>
    have hhasher := createHasher_of_isSign hmechanism
    rw [← hfield] at hhasher
    simp only [restoredOperation, operationWith, saved, hhasher,
      restored, hkeyField, hkey (by decide)]
    rfl

/-- A saved operation and where it is restored. -/
structure Resumed (platform : Platform) (type : OperationType) (handle mechanism key : Nat)
    (mechanismParam blob : Bytes) (authenticationKey : Nat) (s t : Hsm) (a b : Session) (ref : Nat)
    (data : Bytes) : Prop where
  saved_open : s.Open handle a
  saved_eq : a.activeOperation =
    some (type.operationWith mechanism key mechanismParam ref data)
  restored_open : t.Open handle b
  restored_eq : cSetOperationState platform handle blob authenticationKey t =
    (.ok .done, t.setOperation handle b
      (some (type.operationWith mechanism key mechanismParam ref data).restored))
  held : type ≠ .digest → ∃ obj, s.keyOf key (some ref) = .ok obj ∧ s.keyOf key none = .ok obj ∧
    t.keyOf key none = .ok obj

theorem resumed_of_saved {env : CallEnv} {size : Nat} {parts : List Bytes}
    (hsaveable : type ≠ .encrypt ∧ type ≠ .decrypt) (hhandle : handle < 2 ^ 64)
    (hmechanism : mechanism < 2 ^ 64) (hkey : key < 2 ^ 64)
    (hslot : ∀ session, s.sessionManager.sessions[handle]? = some session → session.slotId < 2 ^ 64)
    (hstart : (type.start env handle mechanism mechanismParam key s).1 = .ok .done)
    (hsave : (cGetOperationState platform handle (some size) (type.feedAll handle parts
      (type.start env handle mechanism mechanismParam key s).2)).1 = .ok (.bytes blob))
    (hresumes : Resumes type handle key (type.feedAll handle parts
      (type.start env handle mechanism mechanismParam key s).2) t)
    (hauth : authenticationKey = 0 ∨ authenticationKey = key) :
    ∃ a b ref data, Resumed platform type handle mechanism key
      (extractMechanismParam mechanismParam) blob authenticationKey (type.feedAll handle parts
        (type.start env handle mechanism mechanismParam key s).2) t a b ref data := by
  obtain ⟨session, ref, obj, hstarted⟩ := Started.of_ok hstart
  have hopen := hstarted.opened
  rw [hstarted.state_eq] at hsave hresumes ⊢
  have hlast := feedAll_cases (hopen.setOperation (some (type.operationWith mechanism key
    (extractMechanismParam mechanismParam) ref []))) rfl parts
  rw [Hsm.setOperation_setOperation, Hsm.setOperation_setOperation, List.nil_append] at hlast
  obtain ⟨a, operation, ha, hactive, hserialized⟩ := cGetOperationState_ok hsave
  rcases hlast with hlast | hended
  swap
  · -- A part that was refused ends the operation, and nothing is saved.
    rw [hended] at ha
    obtain rfl : a = { session with activeOperation := none } :=
      Option.mem_unique ha.session_eq (hopen.setOperation none).session_eq
    cases hactive
  rw [hlast] at ha hserialized hresumes ⊢
  obtain rfl : a = { session with activeOperation := some (type.operationWith mechanism key
      (extractMechanismParam mechanismParam) ref parts.flatten) } :=
    Option.mem_unique ha.session_eq (hopen.setOperation _).session_eq
  obtain rfl := Option.some.inj hactive
  have hslotEq := hresumes.slotId_eq
  rw [ha.session_eq, Option.map_some, Option.map_eq_some_iff] at hslotEq
  obtain ⟨b, hb, hbslot⟩ := hslotEq
  have hbopen : t.Open handle b := ⟨hresumes.postFailed_eq, hb⟩
  obtain ⟨hsavedType, hsavedMechanism, hsavedKey⟩ := saved_operationWith type mechanism key
    (extractMechanismParam mechanismParam) ref parts.flatten
  have hresolved : type ≠ .digest → resolvedKey (type.operationWith mechanism key
      (extractMechanismParam mechanismParam) ref parts.flatten).saved authenticationKey = key := by
    intro htype
    rw [resolvedKey, hsavedKey, if_neg htype]
    rcases hauth with rfl | rfl
    · rfl
    · split_ifs <;> rfl
  have hrestores : Restores platform t handle b blob authenticationKey
      (type.operationWith mechanism key (extractMechanismParam mechanismParam) ref
        parts.flatten).saved
      (type.operationWith mechanism key (extractMechanismParam mechanismParam) ref
        parts.flatten).restored := by
    refine ⟨?_, fun htype ↦ ?_, restoredOperation_operationWith hsaveable hstarted.isMechanism
      hresolved⟩
    · rw [hresumes.stateHmacKey_eq, hbslot]
      refine deserializeState_serializeState _ _ hhandle (hslot session hopen.session_eq) ⟨?_, ?_⟩
        hserialized
      · rw [hsavedMechanism]
        exact hmechanism
      · rw [hsavedKey]
        split_ifs
        · decide
        · exact hkey
    · have hnot : type ≠ .digest := by
        rintro rfl
        rcases htype with htype | htype <;> cases htype
      rw [hresolved hnot]
      exact ⟨obj, (hresumes.key_eq hnot).trans (hstarted.obj_eq hnot)⟩
  obtain ⟨hpos, hmax⟩ := serializeState_length hserialized
  refine ⟨_, b, ref, parts.flatten, ha, rfl, hbopen,
    hrestores.eq hbopen (List.ne_nil_of_length_pos hpos) (hmax.trans (by decide)), fun htype ↦ ?_⟩
  have hobj := hstarted.obj_eq htype
  have hobj' := (hresumes.key_eq htype).trans hobj
  exact ⟨obj, by simp [Hsm.keyOf, hstarted.deref_eq htype],
    by simp [Hsm.keyOf, ObjectStore.getObject, hobj, toAbi],
    by simp [Hsm.keyOf, ObjectStore.getObject, hobj', toAbi]⟩

/-- With a built-in hash, the saved signature takes an empty part and the restored one fails. -/
theorem signPart_loses (hdigest : signMechanismToDigestMechanism mechanism = some digest)
    (key ref : Nat) (data : Bytes) :
    (∃ next, signPart (signatureWith mechanism key ref data) [] = .ok next) ∧
      signPart { signatureWith mechanism key ref data with
        hasher := none, cachedObject := none } [] = .error .generalError := by
  have hshort : ¬(0 + 0 > maxMultipartAccumulation) := by decide
  simp only [signatureWith, hdigest, signPart, List.length_nil, hshort, if_false,
    supportsMultipart_of_digest hdigest, if_true, and_true]
  exact ⟨_, rfl⟩

theorem Resumed.feed_ne {a b : Session}
    (h : Resumed platform type handle mechanism key mechanismParam blob authenticationKey s
      t a b ref data) (hsaveable : type ≠ .encrypt ∧ type ≠ .decrypt) (htype : type ≠ .digest)
    (hdigest : signMechanismToDigestMechanism mechanism = some digest) :
    (type.feed handle [] s).1 ≠ (type.feed handle [] (t.setOperation handle b
      (some (type.operationWith mechanism key mechanismParam ref data).restored))).1 := by
  obtain ⟨⟨next, hgo⟩, hstop⟩ := signPart_loses hdigest key ref data
  have htype' := saved_type_operationWith type mechanism key mechanismParam ref data
  rw [feed_eq h.saved_open h.saved_eq htype',
    feed_eq (h.restored_open.setOperation _) rfl ((saved_type_restored _).trans htype')]
  cases type with
  | encrypt => exact absurd rfl hsaveable.1
  | decrypt => exact absurd rfl hsaveable.2
  | digest => exact absurd rfl htype
  | _ =>
    simp only [operationWith, restored, withPart, hgo,
      hstop]
    exact fun heq ↦ by cases heq

end Loss

/-- An operation is started and fed with parts, saved, and restored in a library where its session
and its key are still there. It then answers every further part and the final call as the operation
that was saved would, exactly if it is a digest or its mechanism has no built-in hash. -/
theorem restored_continues_iff (platform : Platform) (type : OperationType) (env : CallEnv)
    (s t : Hsm) (handle mechanism : Nat) (mechanismParam : Bytes) (key authenticationKey size : Nat)
    (parts : List Bytes) (blob : Bytes) (hsaveable : type ≠ .encrypt ∧ type ≠ .decrypt)
    (hhandle : handle < 2 ^ 64) (hmechanism : mechanism < 2 ^ 64) (hkey : key < 2 ^ 64)
    (hslot : ∀ session, s.sessionManager.sessions[handle]? = some session →
      session.slotId < 2 ^ 64)
    (hstart : (type.start env handle mechanism mechanismParam key s).1 = .ok .done)
    (hsave : (cGetOperationState platform handle (some size)
      (type.feedAll handle parts (type.start env handle mechanism mechanismParam key s).2)).1 =
        .ok (.bytes blob))
    (hresumes : Resumes type handle key
      (type.feedAll handle parts (type.start env handle mechanism mechanismParam key s).2) t)
    (hauth : authenticationKey = 0 ∨ authenticationKey = key) :
    (cSetOperationState platform handle blob authenticationKey t).1 = .ok .done ∧
      ((∀ (later : CallEnv) (rest : List Bytes) (output : Option Nat) (signature : Bytes),
        Program.replies (rest.map (type.feed handle) ++
            [type.finish platform later handle output signature])
          (type.feedAll handle parts (type.start env handle mechanism mechanismParam key s).2) =
        Program.replies (rest.map (type.feed handle) ++
            [type.finish platform later handle output signature])
          (cSetOperationState platform handle blob authenticationKey t).2) ↔
        type = .digest ∨ signMechanismToDigestMechanism mechanism = none) := by
  obtain ⟨a, b, ref, data, h⟩ := resumed_of_saved hsaveable hhandle hmechanism hkey hslot
    hstart hsave hresumes hauth
  rw [h.restored_eq]
  refine ⟨rfl, fun hsame ↦ ?_, fun hplain later rest output signature ↦ ?_⟩
  · by_contra hhashing
    obtain ⟨htype, hdigest⟩ := not_or.mp hhashing
    obtain ⟨digest, hdigest⟩ := Option.ne_none_iff_exists'.mp hdigest
    exact h.feed_ne hsaveable htype hdigest (List.cons.inj (hsame env [[]] none [])).1
  · have hpaired : Paired type handle mechanism key (extractMechanismParam mechanismParam) ref
        (type.feedAll handle parts (type.start env handle mechanism mechanismParam key s).2)
        (t.setOperation handle b (some (type.operationWith mechanism key
          (extractMechanismParam mechanismParam) ref data).restored)) :=
      ⟨⟨a, _, h.saved_open, h.restored_open.setOperation _, Or.inr ⟨data, h.saved_eq, rfl⟩⟩, h.held⟩
    refine Program.replies_concat_eq_of_simulates
      (R := Paired type handle mechanism key (extractMechanismParam mechanismParam) ref) ?_
      (fun s t hpaired ↦ hpaired.finish hsaveable hplain output signature) hpaired
    intro x hx s t hpaired
    obtain ⟨part, -, rfl⟩ := List.mem_map.mp hx
    exact hpaired.feed hplain part

/-- A digest of three bytes is saved and given up; restored, it takes the fourth byte as the digest
that was not saved. -/
theorem digest_restored :
    (cSetOperationState savingPlatform firstSession
        (savedBlob (taggedText .digest ckmSha256 0 [1, 2, 3])) 0 signerLibrary).1 = .ok .done ∧
      ∀ output, Program.replies [cDigestUpdate firstSession [4],
          cDigestFinal savingPlatform firstSession output]
        (cDigestUpdate firstSession [1, 2, 3]
          (cDigestInit firstSession ckmSha256 signerLibrary).2).2 =
        Program.replies [cDigestUpdate firstSession [4],
          cDigestFinal savingPlatform firstSession output]
        (cSetOperationState savingPlatform firstSession
          (savedBlob (taggedText .digest ckmSha256 0 [1, 2, 3])) 0 signerLibrary).2 := by
  have hslot : ∀ session, signerLibrary.sessionManager.sessions[firstSession]? = some session →
      session.slotId < 2 ^ 64 := by
    intro session hsession
    have hzero : signerLibrary.sessionManager.sessions[firstSession]?.map Session.slotId =
        some 0 := by
      decide +kernel
    rw [hsession] at hzero
    rw [Option.some.inj hzero]
    decide
  obtain ⟨hok, hiff⟩ := restored_continues_iff savingPlatform .digest (callEnvAt 6) signerLibrary
    signerLibrary firstSession ckmSha256 [] 0 0 1024 [[1, 2, 3]]
    (savedBlob (taggedText .digest ckmSha256 0 [1, 2, 3])) (by decide) (by decide) (by decide)
      (by decide) hslot
    (by decide +kernel) (by decide +kernel)
    ⟨by decide +kernel, by decide +kernel, by decide +kernel, nofun⟩ (Or.inl rfl)
  exact ⟨hok, fun output ↦ hiff.mpr (Or.inl rfl) (callEnvAt 6) [[4]] output []⟩

/-- A signature with a built-in hash is saved after three bytes. Restored, it refuses the fourth,
which the saved operation takes. -/
theorem signature_not_restored :
    (cGetOperationState savingPlatform firstSession (some 1024)
        (cSignUpdate firstSession [1, 2, 3]
          (cSignInit (callEnvAt 6) firstSession ckmEcdsaSha256 firstObject signerLibrary).2).2).1 =
        .ok (.bytes (savedBlob (taggedText .sign ckmEcdsaSha256 firstObject []))) ∧
      (cSetOperationState savingPlatform firstSession
        (savedBlob (taggedText .sign ckmEcdsaSha256 firstObject [])) 0 signerLibrary).1 =
          .ok .done ∧
      (cSignUpdate firstSession [4] (cSignUpdate firstSession [1, 2, 3]
        (cSignInit (callEnvAt 6) firstSession ckmEcdsaSha256 firstObject signerLibrary).2).2).1 =
        .ok .done ∧
      (cSignUpdate firstSession [4] (cSetOperationState savingPlatform firstSession
        (savedBlob (taggedText .sign ckmEcdsaSha256 firstObject [])) 0 signerLibrary).2).1 =
        .error .generalError := by
  decide +kernel

end CratonHsm
