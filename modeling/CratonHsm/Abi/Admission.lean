import CratonHsm.Abi.OperationRules

/-!
# What the `Init` calls admit

`C_EncryptInit`, `C_DecryptInit`, `C_SignInit`, `C_VerifyInit` and `C_DigestInit` answer `CKR_OK`
exactly when their checks pass, and then start the operation (`cSignInit_ok_iff` and the like). The
checks on the key are the same for all but the permission flag (`KeyAdmitted`); a login is asked for
with a private key, and by `C_SignInit` always.
-/

set_option autoImplicit false

namespace CratonHsm

open Crypto Crypto.Encrypt Library Store
open Program (ensures_require_iff ensures_reads_iff)
open Program StoredObject

/-! ### Rules for the checks -/

section Rules

variable {s : Hsm} {Result : Type} {Q : Except CkRv Result → Hsm → Prop}

@[simp]
theorem ensures_keyObject {key : Nat} {f : Nat × StoredObject → Program Hsm CkRv Result} :
    (keyObject key >>= f).Ensures s Q ↔
      (s.objectStore.objects.get? key = none → Q (.error .keyHandleInvalid) s) ∧
      ∀ ref obj, s.objectStore.objects.refs[key]? = some ref →
        s.objectStore.objects.get? key = some obj → (f (ref, obj)).Ensures s Q := by
  cases href : s.objectStore.objects.refs[key]? with
  | none => simp [keyObject, SharedMap.get?, href]
  | some ref => cases hobj : s.objectStore.objects.get? key <;> simp [keyObject, href, hobj]

/-- The checks that every `Init` call makes on its key. -/
structure KeyAdmitted (env : CallEnv) (s : Hsm) (mechanism : Nat) (permitted : StoredObject → Bool)
    (use : KeyUse) (key ref : Nat) (obj : StoredObject) : Prop where
  ref_eq : s.objectStore.objects.refs[key]? = some ref
  obj_eq : s.objectStore.objects.get? key = some obj
  permitted_eq : permitted obj = true
  lifecycle_eq : obj.checkLifecycle env.now use = .ok (.ok ())
  approved_eq : enforce mechanism s.algorithmConfig (storedKeyBits obj) = .ok ()

theorem lifecycleAnswer_eq_ok_iff {verdict : Except Panic (HsmResult Unit)} {answer : Unit} :
    lifecycleAnswer verdict = .ok answer ↔ verdict = .ok (.ok ()) := by
  rcases verdict with _ | (_ | ⟨⟨⟩⟩) <;> simp [lifecycleAnswer]

theorem ensures_admitKey {env : CallEnv} {mechanism : Nat} {permitted : StoredObject → Bool}
    {use : KeyUse} {key ref : Nat} {obj : StoredObject} {f : Unit → Program Hsm CkRv Result}
    (href : s.objectStore.objects.refs[key]? = some ref)
    (hobj : s.objectStore.objects.get? key = some obj) (hstop : ∀ e, Q (.error e) s)
    (hgo : KeyAdmitted env s mechanism permitted use key ref obj → (f ()).Ensures s Q) :
    (admitKey env mechanism (permitted obj) use obj >>= f).Ensures s Q := by
  simp only [admitKey, checkApproved, bind_assoc, ensures_require_iff,
    ensures_reads_iff]
  exact ⟨fun _ ↦ hstop _, fun hpermitted ↦ ⟨fun e _ ↦ hstop e, fun _ hlifecycle ↦
    ⟨fun e _ ↦ hstop e, fun _ happroved ↦ hgo ⟨href, hobj, hpermitted,
      lifecycleAnswer_eq_ok_iff.mp hlifecycle, toAbi_eq_ok_iff.mp happroved⟩⟩⟩⟩

end Rules

/-! ### The five calls -/

section Calls

variable {env : CallEnv} {s : Hsm} {handle : Nat} {session : Session} {mechanism key ref : Nat}
  {obj : StoredObject} {reply : Reply} {mechanismParam : Bytes}

/-- What `C_SignInit` asks for. -/
structure SignAdmits (env : CallEnv) (s : Hsm) (session : Session) (mechanism key ref : Nat)
    (obj : StoredObject) : Prop where
  loggedIn : session.state.isLoggedIn = true
  idle : session.activeOperation = none
  isSign : isSignMechanism mechanism = true
  policy : validateMechanismForPolicy mechanism s.algorithmConfig true = .ok ()
  admitted : KeyAdmitted env s mechanism canSign .sign key ref obj

/-- What `C_VerifyInit` asks for. -/
structure VerifyAdmits (env : CallEnv) (s : Hsm) (session : Session) (mechanism key ref : Nat)
    (obj : StoredObject) : Prop where
  idle : session.activeOperation = none
  isSign : isSignMechanism mechanism = true
  policy : validateMechanismForPolicy mechanism s.algorithmConfig false = .ok ()
  login : obj.isPrivate = true → session.state.isLoggedIn = true
  admitted : KeyAdmitted env s mechanism canVerify .verify key ref obj

/-- What `C_EncryptInit` and `C_DecryptInit` ask for, but for the initialisation vector. -/
structure CipherAdmits (env : CallEnv) (s : Hsm) (session : Session) (mechanism : Nat)
    (permitted : StoredObject → Bool) (use : KeyUse) (key ref : Nat) (obj : StoredObject) :
    Prop where
  idle : session.activeOperation = none
  isEncrypt : isEncryptMechanism mechanism = true
  policy : validateMechanismForPolicy mechanism s.algorithmConfig false = .ok ()
  login : obj.isPrivate = true → session.state.isLoggedIn = true
  admitted : KeyAdmitted env s mechanism permitted use key ref obj

/-- What `C_DigestInit` asks for. -/
structure DigestAdmits (s : Hsm) (session : Session) (mechanism : Nat) : Prop where
  idle : session.activeOperation = none
  isDigest : isDigestMechanism mechanism = true
  policy : validateMechanismForPolicy mechanism s.algorithmConfig false = .ok ()

/-- `CKM_SHA1_RSA_PKCS` is not among the signature mechanisms to begin with. -/
theorem ne_sha1RsaPkcs_of_isSign (h : isSignMechanism mechanism = true) :
    mechanism ≠ ckmSha1RsaPkcs := by
  rintro rfl
  exact absurd h (by decide)

theorem admitKey_bind {permitted : StoredObject → Bool} {use : KeyUse} {Result : Type}
    (h : KeyAdmitted env s mechanism permitted use key ref obj)
    (f : Unit → Program Hsm CkRv Result) :
    (admitKey env mechanism (permitted obj) use obj >>= f) s = f () s := by
  rw [bind_apply]
  simp [admitKey, checkApproved, Program.reads_bind, lifecycleAnswer, h.permitted_eq,
    h.lifecycle_eq, h.approved_eq, toAbi]

theorem keyObject_bind {Result : Type} (href : s.objectStore.objects.refs[key]? = some ref)
    (hobj : s.objectStore.objects.get? key = some obj)
    (f : Nat × StoredObject → Program Hsm CkRv Result) :
    (keyObject key >>= f) s = f (ref, obj) s := by
  rw [keyObject, reads_bind]
  simp only [href, hobj]

section Admitted

variable (hopen : s.Open handle session)
include hopen

theorem SignAdmits.eq (h : SignAdmits env s session mechanism key ref obj) :
    cSignInit env handle mechanism key s = (.ok .done, s.setOperation handle session
      (some (.sign ⟨mechanism, key, [], signHasher mechanism, some ref⟩))) := by
  unfold cSignInit
  rw [hopen.enter]
  simp only [require_bind, h.loggedIn, h.idle, ne_sha1RsaPkcs_of_isSign h.isSign, h.isSign,
    if_true, checkPolicy, reads_bind, h.policy, keyObject_bind h.admitted.ref_eq
      h.admitted.obj_eq, ne_eq, not_false_eq_true]
  rw [admitKey_bind h.admitted]
  rfl

theorem VerifyAdmits.eq (h : VerifyAdmits env s session mechanism key ref obj) :
    cVerifyInit env handle mechanism key s = (.ok .done, s.setOperation handle session
      (some (.verify ⟨mechanism, key, [], signHasher mechanism, some ref⟩))) := by
  unfold cVerifyInit
  rw [hopen.enter]
  simp only [require_bind, h.idle, h.isSign, if_true, checkPolicy, reads_bind,
    h.policy, keyObject_bind h.admitted.ref_eq h.admitted.obj_eq, requireLoginFor]
  rw [if_pos h.login, admitKey_bind h.admitted]
  rfl

theorem CipherAdmits.eq_encrypt
    (h : CipherAdmits env s session mechanism canEncrypt .encrypt key ref obj)
    (hiv : isZeroIv mechanism (extractMechanismParam mechanismParam) = false) :
    cEncryptInit env handle mechanism mechanismParam key s =
      (.ok .done, s.setOperation handle session (some (.encrypt
        ⟨mechanism, key, extractMechanismParam mechanismParam, [], some ref⟩))) := by
  unfold cEncryptInit
  rw [hopen.enter]
  simp only [require_bind, h.idle, h.isEncrypt, if_true, checkPolicy, reads_bind,
    h.policy, keyObject_bind h.admitted.ref_eq h.admitted.obj_eq, requireLoginFor]
  rw [if_pos h.login, admitKey_bind h.admitted]
  simp only [require_bind, hiv, if_true]
  rfl

theorem CipherAdmits.eq_decrypt
    (h : CipherAdmits env s session mechanism canDecrypt .decrypt key ref obj) :
    cDecryptInit env handle mechanism mechanismParam key s =
      (.ok .done, s.setOperation handle session (some (.decrypt
        ⟨mechanism, key, extractMechanismParam mechanismParam, [], some ref⟩))) := by
  unfold cDecryptInit
  rw [hopen.enter]
  simp only [require_bind, h.idle, h.isEncrypt, if_true, checkPolicy, reads_bind,
    h.policy, keyObject_bind h.admitted.ref_eq h.admitted.obj_eq, requireLoginFor]
  rw [if_pos h.login, admitKey_bind h.admitted]
  rfl

theorem DigestAdmits.eq (h : DigestAdmits s session mechanism) :
    cDigestInit handle mechanism s = (.ok .done, s.setOperation handle session
      (some (.digest ⟨mechanism, some ⟨mechanism, []⟩, []⟩))) := by
  unfold cDigestInit
  rw [hopen.enter]
  simp only [require_bind, h.idle, h.isDigest, if_true, checkPolicy, reads_bind,
    h.policy, createHasher, toAbi]
  rfl

end Admitted

/-! ### Nothing else is admitted -/

/-- A call that answered `CKR_OK` found its session open, and every check after that passed on
the session it found. -/
theorem exists_open_of_ok {f : Session → Entry} {P : Session → Prop}
    (hgo : ∀ session, (f session).Ensures s fun r _ ↦ r = .ok reply → P session)
    (h : ((getHsm >>= fun _ ↦ getSession handle >>= f) s).1 = .ok reply) :
    ∃ session, s.Open handle session ∧ P session := by
  have hcall : (getHsm >>= fun _ ↦ getSession handle >>= f).Ensures s fun r _ ↦
      r = .ok reply → ∃ session, s.Open handle session ∧ P session := by
    simp only [ensures_getHsm, ensures_getSession, reduceCtorEq, false_imp_iff, implies_true,
      true_and]
    exact fun hpost session hsession hr ↦ ⟨session, ⟨hpost, hsession⟩, hgo session hr⟩
  exact hcall h

theorem SignAdmits.of_ok (h : (cSignInit env handle mechanism key s).1 = .ok reply) :
    ∃ session, s.Open handle session ∧ ∃ ref obj,
      SignAdmits env s session mechanism key ref obj := by
  refine exists_open_of_ok (fun session ↦ ?_) h
  simp only [checkPolicy, ensures_require_iff, ensures_reads_iff, ensures_keyObject, reduceCtorEq,
    false_imp_iff, implies_true, true_and]
  intro hlogged hidle _ hsign _ hpolicy ref obj href hobj
  refine ensures_admitKey href hobj (by simp) fun hadmitted ↦ ?_
  exact fun _ ↦ ⟨ref, obj, hlogged, hidle, hsign, hpolicy, hadmitted⟩

theorem VerifyAdmits.of_ok (h : (cVerifyInit env handle mechanism key s).1 = .ok reply) :
    ∃ session, s.Open handle session ∧ ∃ ref obj,
      VerifyAdmits env s session mechanism key ref obj := by
  refine exists_open_of_ok (fun session ↦ ?_) h
  simp only [checkPolicy, requireLoginFor, ensures_require_iff, ensures_reads_iff,
    ensures_keyObject, reduceCtorEq, false_imp_iff, implies_true, true_and]
  intro hidle hsign _ hpolicy ref obj href hobj hlogin
  refine ensures_admitKey href hobj (by simp) fun hadmitted ↦ ?_
  exact fun _ ↦ ⟨ref, obj, hidle, hsign, hpolicy, hlogin, hadmitted⟩

theorem CipherAdmits.of_encrypt_ok
    (h : (cEncryptInit env handle mechanism mechanismParam key s).1 = .ok reply) :
    ∃ session, s.Open handle session ∧ ∃ ref obj,
      CipherAdmits env s session mechanism canEncrypt .encrypt key ref obj ∧
      isZeroIv mechanism (extractMechanismParam mechanismParam) = false := by
  refine exists_open_of_ok (fun session ↦ ?_) h
  simp only [checkPolicy, requireLoginFor, ensures_require_iff, ensures_reads_iff,
    ensures_keyObject, reduceCtorEq, false_imp_iff, implies_true, true_and]
  intro hidle hencrypt _ hpolicy ref obj href hobj hlogin
  refine ensures_admitKey href hobj (by simp) fun hadmitted ↦ ?_
  refine ensures_require (by simp) fun hiv ↦ ?_
  exact fun _ ↦ ⟨ref, obj, ⟨hidle, hencrypt, hpolicy, hlogin, hadmitted⟩, hiv⟩

theorem CipherAdmits.of_decrypt_ok
    (h : (cDecryptInit env handle mechanism mechanismParam key s).1 = .ok reply) :
    ∃ session, s.Open handle session ∧ ∃ ref obj,
      CipherAdmits env s session mechanism canDecrypt .decrypt key ref obj := by
  refine exists_open_of_ok (fun session ↦ ?_) h
  simp only [checkPolicy, requireLoginFor, ensures_require_iff, ensures_reads_iff,
    ensures_keyObject, reduceCtorEq, false_imp_iff, implies_true, true_and]
  intro hidle hencrypt _ hpolicy ref obj href hobj hlogin
  refine ensures_admitKey href hobj (by simp) fun hadmitted ↦ ?_
  exact fun _ ↦ ⟨ref, obj, hidle, hencrypt, hpolicy, hlogin, hadmitted⟩

theorem DigestAdmits.of_ok (h : (cDigestInit handle mechanism s).1 = .ok reply) :
    ∃ session, s.Open handle session ∧ DigestAdmits s session mechanism := by
  refine exists_open_of_ok (fun session ↦ ?_) h
  simp only [checkPolicy, ensures_require_iff, ensures_reads_iff, reduceCtorEq, false_imp_iff,
    implies_true, true_and]
  exact fun hidle hdigest _ hpolicy _ _ _ ↦ ⟨hidle, hdigest, hpolicy⟩

theorem cSignInit_ok_iff (hopen : s.Open handle session) :
    (cSignInit env handle mechanism key s).1 = .ok .done ↔
      ∃ ref obj, SignAdmits env s session mechanism key ref obj := by
  constructor
  · intro h
    obtain ⟨found, hfound, ref, obj, hadmits⟩ := SignAdmits.of_ok h
    obtain rfl : found = session :=
      Option.mem_unique hfound.session_eq hopen.session_eq
    exact ⟨ref, obj, hadmits⟩
  · rintro ⟨ref, obj, hadmits⟩
    rw [hadmits.eq hopen]

theorem cVerifyInit_ok_iff (hopen : s.Open handle session) :
    (cVerifyInit env handle mechanism key s).1 = .ok .done ↔
      ∃ ref obj, VerifyAdmits env s session mechanism key ref obj := by
  constructor
  · intro h
    obtain ⟨found, hfound, ref, obj, hadmits⟩ := VerifyAdmits.of_ok h
    obtain rfl : found = session :=
      Option.mem_unique hfound.session_eq hopen.session_eq
    exact ⟨ref, obj, hadmits⟩
  · rintro ⟨ref, obj, hadmits⟩
    rw [hadmits.eq hopen]

end Calls

end CratonHsm
