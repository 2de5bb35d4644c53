import CratonHsm.Daemon.Effects

/-!
# Lifecycle of keys in the daemon

No handler of the daemon calls `check_lifecycle`, which `C_EncryptInit`, `C_DecryptInit`,
`C_SignInit` and `C_VerifyInit` do, and `CopyObject` makes an active key without dates of whatever
it copies. The lifecycle of a key is kept to only if it never forbids anything: an active key that
has no start date in the future at any time and no end date, with no date that cannot be cut. The
converse is read off the uses for a key that encrypts, and off the copies for a key that can be
copied.
-/

set_option autoImplicit false

namespace CratonHsm.Daemon

open Crypto Crypto.Encrypt Library Session Store
open Std (ExtTreeMap)
open StoredObject

/-! ### Uses and copies -/

variable (platform : Platform) (key : StoredObject)

/-- The request uses the object as the key of an operation. -/
def Request.UsesFor (env : RequestEnv) (s : HsmService) (request : Request) (use : KeyUse)
    (key : StoredObject) : Prop :=
  ∃ uses, (request.handle platform env s).2.hsm.keyUses = uses ++ s.hsm.keyUses ∧
    ⟨.operation use, key⟩ ∈ uses

/-- The object comes from a key by accepted `CopyObject` requests, one after the other, whatever
happens between them. -/
inductive CopyChain (platform : Platform) (key : StoredObject) : StoredObject → Prop
  | refl : CopyChain platform key key
  | copy {src obj : StoredObject} {env : RequestEnv} {s : HsmService} {session object handle : Nat}
      {template : Template} (hchain : CopyChain platform key src)
      (hsrc : s.hsm.objectStore.objects.get? object = some src)
      (hok : ((Request.copyObject session object template).handle platform env s).1 =
        .ok (.handle handle))
      (hobj : ((Request.copyObject session object template).handle platform env
        s).2.hsm.objectStore.objects.get? handle = some obj) : CopyChain platform key obj

/-- Every use of the key is allowed when it is made. -/
def KeepsUses : Prop :=
  ∀ (env : RequestEnv) (s : HsmService) (request : Request) (use : KeyUse),
    request.UsesFor platform env s use key → key.checkLifecycle env.call.now use = .ok (.ok ())

/-- The copies of the key are allowed no more than the key is. -/
def KeepsCopies : Prop :=
  ∀ obj, CopyChain platform key obj → ∀ now use,
    obj.checkLifecycle now use = .ok (.ok ()) → key.checkLifecycle now use = .ok (.ok ())

/-- The daemon keeps to the lifecycle of a key. -/
structure KeepsLifecycle (platform : Platform) (key : StoredObject) : Prop where
  uses : KeepsUses platform key
  copies : KeepsCopies platform key

/-- The key is active, and its dates can be read and never say otherwise. -/
def AlwaysActive : Prop :=
  key.lifecycleState = .active ∧ (∃ start, readDate key.startDate = .ok start ∧ start.getD 0 = 0) ∧
    readDate key.endDate = .ok none

theorem computeDateBasedState_eq_active_iff {key : StoredObject} {now : Nat} :
    key.computeDateBasedState now = .ok .active ↔
      (∃ start, readDate key.startDate = .ok start ∧ start.any (now < ·) = false) ∧
        ∃ stop, readDate key.endDate = .ok stop ∧ stop.any (· < now) = false := by
  simp only [computeDateBasedState, bind, Except.bind, pure, Except.pure]
  cases hstart : readDate key.startDate with
  | error e => simp
  | ok start =>
    cases hnow : start.any (now < ·) with
    | true => simp [hnow]
    | false =>
      cases hstop : readDate key.endDate with
      | error e => simp [hnow]
      | ok stop => cases hlate : stop.any (· < now) <;> simp [hnow, hlate]

theorem effectiveLifecycleState_eq_active_iff {key : StoredObject} {now : Nat} :
    key.effectiveLifecycleState now = .ok .active ↔
      key.lifecycleState = .active ∧ key.computeDateBasedState now = .ok .active := by
  by_cases hstate : key.lifecycleState = .active <;> simp [effectiveLifecycleState, hstate]

/-- Nothing but an active key may encrypt. -/
theorem checkLifecycle_encrypt_iff {key : StoredObject} {now : Nat} :
    key.checkLifecycle now .encrypt = .ok (.ok ()) ↔
      key.effectiveLifecycleState now = .ok .active := by
  unfold checkLifecycle
  cases key.effectiveLifecycleState now with
  | error e => simp [Except.map]
  | ok state =>
    cases state <;> simp [Except.map, KeyLifecycleState.permits, KeyUse.processesExisting]

/-- An always active key is allowed every use at every time. -/
theorem AlwaysActive.allowed {key : StoredObject} (hactive : AlwaysActive key) (now : Nat)
    (use : KeyUse) : key.checkLifecycle now use = .ok (.ok ()) := by
  obtain ⟨hstate, ⟨start, hstart, hzero⟩, hstop⟩ := hactive
  have hstarted : start.any (now < ·) = false := by
    cases start with
    | none => rfl
    | some start => simp [show start = 0 from hzero]
  have hdates : key.computeDateBasedState now = .ok .active :=
    computeDateBasedState_eq_active_iff.mpr ⟨⟨start, hstart, hstarted⟩, none, hstop, rfl⟩
  rw [checkLifecycle, effectiveLifecycleState_eq_active_iff.mpr ⟨hstate, hdates⟩]
  rfl

/-- A key that may encrypt at every time is always active. -/
theorem alwaysActive_of_encrypts {key : StoredObject}
    (hallowed : ∀ now, key.checkLifecycle now .encrypt = .ok (.ok ())) : AlwaysActive key := by
  have hactive (now : Nat) :=
    effectiveLifecycleState_eq_active_iff.mp (checkLifecycle_encrypt_iff.mp (hallowed now))
  have hdates (now : Nat) := computeDateBasedState_eq_active_iff.mp (hactive now).2
  refine ⟨(hactive 0).1, ?_, ?_⟩
  · obtain ⟨⟨start, hstart, hzero⟩, -⟩ := hdates 0
    refine ⟨start, hstart, ?_⟩
    cases start with
    | none => rfl
    | some start => simpa using hzero
  · obtain ⟨-, stop, hstop, -⟩ := hdates 0
    cases stop with
    | none => exact hstop
    | some stop =>
      -- the key is asked for one second after its end date
      obtain ⟨-, stop', hstop', hlate⟩ := hdates (stop + 1)
      cases hstop.symm.trans hstop'
      simp at hlate

/-! ### One copy and one use -/

section Authenticated

variable (platform : Platform) (env : RequestEnv) {s : Hsm} {session object : Nat}
  {found : CratonHsm.Session} {stored : StoredToken} {key src : StoredObject} {mech : Mechanism}
  {data : Bytes} (hsession : s.sessionManager.sessions[session]? = some found)
  (hslot : s.storedToken found.slotId = some stored)
  (hlogin : stored.token.auth.login ≠ .publicState)
include hsession hslot hlogin

/-- A copy without a template, from an authenticated session into a store with room. -/
theorem copyObject_copies
    (hsrc : s.objectStore.objects.get? object = some src) (hmine : src.slotId = found.slotId)
    (hcopyable : src.copyable = true) (hroom : s.objectStore.objects.refs.size < maxObjects) :
    ∃ entry, (copyObject platform env session object [] s).1 =
        .ok (entry, .handle s.objectStore.nextHandle.1) ∧
      (copyObject platform env session object [] s).2.objectStore.objects.get?
        s.objectStore.nextHandle.1 =
          some (copiedObject env found.slotId s.objectStore.nextHandle.1 src) := by
  rw [copyObject, requireAuthenticatedSession_bind hsession hslot hlogin,
    objectOfSlot_bind hsrc hmine]
  rw [nextHandle_bind, Program.require_bind, if_pos hcopyable, Program.reads_bind]
  have hsensitive : src.sensitive = true →
      (copiedObject env found.slotId s.objectStore.nextHandle.1 src).sensitive = true := fun h ↦ h
  have hextractable :
      (copiedObject env found.slotId s.objectStore.nextHandle.1 src).extractable = true →
        src.extractable = true := fun h ↦ h
  have hroom' : ({ s with objectStore := s.objectStore.nextHandle.2 } :
      Hsm).objectStore.objects.refs.size < maxObjects := hroom
  have happlied : applyTemplateExcept []
      (copiedObject env found.slotId s.objectStore.nextHandle.1 src) [] =
        .ok (copiedObject env found.slotId s.objectStore.nextHandle.1 src) := rfl
  rw [happlied]
  dsimp only
  rw [Program.require_bind, if_pos hsensitive, Program.require_bind, if_pos hextractable,
    insertObject_bind hroom']
  refine ⟨_, rfl, ?_⟩
  have hget := s.objectStore.objects.get?_insert s.objectStore.nextHandle.1
    s.objectStore.nextHandle.1 (copiedObject env found.slotId s.objectStore.nextHandle.1 src)
  rw [if_pos rfl] at hget
  rw [← hget]
  exact congrArg (·.get? s.objectStore.nextHandle.1) (ObjectStore.addObject_objects ..)

theorem admitRequest_bind {supported : Nat → Bool} {unsupported : String} {signing : Bool}
    {Result : Type} {f : Nat × Mechanism → Core Result}
    (hsupported : supported mech.mechanismType = true)
    (hpolicy : validateMechanismForPolicy mech.mechanismType s.algorithmConfig signing = .ok ()) :
    (admitRequest session (some mech) supported unsupported signing >>= f) s =
      f (found.slotId, mech) s := by
  rw [admitRequest, Program.bind_assoc, requireAuthenticatedSession_bind hsession hslot hlogin,
    Program.bind_assoc, Program.reads_bind]
  dsimp only [Option.elim]
  rw [Program.bind_assoc, Program.require_bind, if_pos hsupported, Program.bind_assoc,
    Program.reads_bind, hpolicy]
  rfl

/-- An admitted `Encrypt` uses its key, whatever comes of the encryption. -/
theorem encrypt_keyUses (hsupported : isEncryptMechanism mech.mechanismType = true)
    (hpolicy : validateMechanismForPolicy mech.mechanismType s.algorithmConfig false = .ok ())
    (hkey : s.objectStore.objects.get? object = some key) (hmine : key.slotId = found.slotId)
    (hcan : key.canEncrypt = true) :
    (encrypt platform env session (some mech) object data s).2.keyUses =
      ⟨.operation .encrypt, key⟩ :: s.keyUses := by
  rw [encrypt, admitRequest_bind hsession hslot hlogin hsupported hpolicy]
  dsimp only
  rw [objectOfSlot_bind hkey hmine, Program.require_bind, if_pos hcan, noteUse,
    Program.update_bind, Program.bind_apply, onStatics]
  split <;> next hrun => exact (congrArg (·.2.keyUses) hrun).symm

end Authenticated

/-! ### When the lifecycle is kept to -/

/-- A slot whose security officer is logged in. -/
def officerSlot : Slot :=
  let token := Token.load .strict ⟨.missing, .missing⟩
  ⟨{ token with auth := { token.auth with login := .soLoggedIn } }, .missing⟩

/-- A service that holds one key, with a session in the slot of the key. -/
def holdingService (key : StoredObject) : HsmService :=
  { freshService with hsm := { freshService.hsm with
      slots := List.replicate (key.slotId + 1) officerSlot
      sessionManager := { freshService.hsm.sessionManager with
        sessions := (∅ : ExtTreeMap Nat CratonHsm.Session).insert firstSession
          (Session.new firstSession key.slotId (sessionFlags true)) }
      objectStore := { freshService.hsm.objectStore with
        objects := SharedMap.empty.insert firstObject key } } }

section Holding

variable (platform : Platform) {key : StoredObject}

theorem holdingService_session :
    (holdingService key).hsm.sessionManager.sessions[firstSession]? =
      some (Session.new firstSession key.slotId (sessionFlags true)) :=
  (getElem?_insert_eq_ite ..).trans (if_pos rfl)

theorem holdingService_slot :
    (holdingService key).hsm.storedToken key.slotId =
      some ⟨officerSlot.token, ⟨(holdingService key).hsm.lockoutFile, officerSlot.stateFile⟩⟩ :=
  Hsm.storedToken_eq_some_iff.mpr ⟨officerSlot, by simp [holdingService], rfl⟩

theorem officerSlot_login : officerSlot.token.auth.login ≠ .publicState := by decide

theorem holdingService_key :
    (holdingService key).hsm.objectStore.objects.get? firstObject = some key :=
  (SharedMap.get?_insert ..).trans (if_pos rfl)

/-- The key is copied by the service that holds it. -/
theorem holdingService_copies (hcopyable : key.copyable = true) :
    ∃ handle, CopyChain platform key (copiedObject (requestAt 0) key.slotId handle key) := by
  have hroom : (holdingService key).hsm.objectStore.objects.refs.size < maxObjects := by
    simp [holdingService, SharedMap.insert, SharedMap.empty, ExtTreeMap.size_insert, maxObjects]
  obtain ⟨entry, hanswer, hcopy⟩ := copyObject_copies platform (requestAt 0)
    holdingService_session holdingService_slot officerSlot_login holdingService_key rfl hcopyable
    hroom
  have hcore := audited_hsm (requestAt 0)
    (copyObject platform (requestAt 0) firstSession firstObject []) (holdingService key)
  rw [← hcore] at hcopy
  exact ⟨_, .copy .refl holdingService_key (audited_of_ok hanswer rfl rfl) hcopy⟩

/-- The key is used to encrypt by the service that holds it, at any time. -/
theorem holdingService_encrypts (hcan : key.canEncrypt = true) (now : Nat) :
    (Request.encrypt firstSession (some ⟨ckmAesCtr, []⟩) firstObject []).UsesFor platform
      (requestAt now) (holdingService key) .encrypt key := by
  have hcore := audited_hsm (requestAt now) (encrypt platform (requestAt now) firstSession
    (some ⟨ckmAesCtr, []⟩) firstObject []) (holdingService key)
  exact ⟨[_], (congrArg Hsm.keyUses hcore).trans (encrypt_keyUses platform (requestAt now)
    holdingService_session holdingService_slot officerSlot_login (by decide) rfl holdingService_key
    rfl hcan), by simp⟩

end Holding

/-- An active key whose dates never say otherwise is never forbidden anything, so there is nothing
to keep to. Every other key that can encrypt is used to encrypt at a time when it is forbidden, and
of every other key that can be copied there is a copy that is allowed what the key is forbidden. -/
theorem keepsLifecycle_iff_alwaysActive (platform : Platform) (key : StoredObject) :
    (AlwaysActive key → KeepsLifecycle platform key) ∧
      (key.canEncrypt = true → KeepsUses platform key → AlwaysActive key) ∧
      (key.copyable = true → KeepsCopies platform key → AlwaysActive key) := by
  refine ⟨fun hactive ↦ ⟨?_, ?_⟩, fun hcan hkeeps ↦ ?_, fun hcopyable hkeeps ↦ ?_⟩
  · exact fun env _ _ use _ ↦ hactive.allowed env.call.now use
  · exact fun _ _ now use _ ↦ hactive.allowed now use
  · exact alwaysActive_of_encrypts fun now ↦
      hkeeps (requestAt now) _ _ .encrypt (holdingService_encrypts platform hcan now)
  · obtain ⟨handle, hcopy⟩ := holdingService_copies platform hcopyable
    have hfree : AlwaysActive (copiedObject (requestAt 0) key.slotId handle key) :=
      ⟨rfl, ⟨none, rfl, rfl⟩, rfl⟩
    exact alwaysActive_of_encrypts fun now ↦
      hkeeps _ hcopy now .encrypt (hfree.allowed now .encrypt)

/-- The date 2 January 1970. -/
def secondDay : Bytes := [0x31, 0x39, 0x37, 0x30, 0x30, 0x31, 0x30, 0x32]

/-- The service of the security officer after the generation of a key with an end date. -/
def expiringService : HsmService :=
  soService.step samplePlatform (requestAt 3, .generateKey firstSession (some ⟨ckmAesKeyGen, []⟩)
    [(ckaValueLen, ckUlongToBytes 32), (ckaEndDate, secondDay)])

/-- After the end date the key still encrypts, and a copy of it has no end date. -/
theorem expiredKey_encryptsAndIsCopied :
    ((Request.encrypt firstSession (some ⟨ckmAesCtr, List.replicate 16 2⟩) secondObject
      [0x68, 0x69]).handle samplePlatform (requestAt 200000) expiringService).1 =
        .ok (.bytes [0x5F, 0x72]) ∧
      ∃ key, expiringService.hsm.objectStore.objects.get? secondObject = some key ∧
        key.checkLifecycle 200000 .encrypt = .ok (.error .keyFunctionNotPermitted) ∧
        ¬KeepsLifecycle samplePlatform key := by
  have hexpired : (expiringService.hsm.objectStore.objects.get? secondObject).map
      (·.checkLifecycle 200000 .encrypt) = some (.ok (.error .keyFunctionNotPermitted)) := by
    decide +kernel
  have hcopied : ((Request.copyObject firstSession secondObject []).handle samplePlatform
      (requestAt 200000) expiringService).1 = .ok (.handle thirdObject) := by
    decide +kernel
  have hfree : (((Request.copyObject firstSession secondObject []).handle samplePlatform
      (requestAt 200000) expiringService).2.hsm.objectStore.objects.get? thirdObject).map
        (·.checkLifecycle 200000 .encrypt) = some (.ok (.ok ())) := by
    decide +kernel
  obtain ⟨key, hkey, hforbidden⟩ := Option.map_eq_some_iff.mp hexpired
  obtain ⟨obj, hobj, hallowed⟩ := Option.map_eq_some_iff.mp hfree
  refine ⟨by decide +kernel, key, hkey, hforbidden, fun hkeeps ↦ ?_⟩
  have hgranted := hkeeps.copies obj (.copy .refl hkey hcopied hobj) 200000 .encrypt hallowed
  rw [hforbidden] at hgranted
  cases hgranted

end CratonHsm.Daemon
