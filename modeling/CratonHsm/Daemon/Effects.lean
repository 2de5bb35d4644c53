import CratonHsm.Daemon.KeyRequests
import CratonHsm.Session.LoginStates

/-!
# Effects of the requests

What a request does to the core, said once for all requests (`CoreEffect`): it leaves tokens,
sessions and objects alone, or makes objects, or destroys one, or opens or closes a session, or runs
one operation of a token. `Request.handle_effect` is the inversion lemma for the handlers; what
follows about runs of the daemon is derived from it.

The effects of a request on the core are in place before the audit log is asked to record it.
-/

set_option autoImplicit false

namespace CratonHsm

open Crypto Crypto.Encrypt Library Session Store
open Program

variable {obj : StoredObject} {missing : String}

theorem Hsm.setStoredToken_self {s : Hsm} {slotId : Nat} {stored : StoredToken}
    (hslot : s.storedToken slotId = some stored) : s.setStoredToken slotId stored = s := by
  obtain ⟨slot, hget, rfl⟩ := Hsm.storedToken_eq_some_iff.mp hslot
  obtain ⟨hlt, rfl⟩ := List.getElem?_eq_some_iff.mp hget
  have hset : s.slots.set slotId ⟨s.slots[slotId].token, s.slots[slotId].stateFile⟩ = s.slots :=
    List.set_getElem_self hlt
  rw [Hsm.setStoredToken, hset]

namespace Daemon

theorem elim_eq_ok {Error Value : Type} {field : Option Value} {e : Error} {value : Value}
    (h : field.elim (.error e) .ok = (.ok value : Except Error Value)) : field = some value := by
  cases field with
  | none => cases h
  | some other => exact congrArg some (Except.ok.inj h)

/-! ### Rules for the steps of handlers -/

section Rules

variable {s : Hsm} {Result : Type} {Q : Except Status Result → Hsm → Prop} {slotId handle : Nat}
  {f : Nat → Core Result} {stored : StoredToken}
  {operation : StoredToken → HsmResult Unit × StoredToken}

section Stops

variable (hstop : ∀ e, Q (.error e) s)
include hstop

theorem ensures_getSession {f : CratonHsm.Session → Core Result}
    (hgo : ∀ session, s.sessionManager.sessions[handle]? = some session → (f session).Ensures s Q) :
    (getSession handle >>= f).Ensures s Q := by
  refine ensures_reads hstop fun session h ↦ hgo session ?_
  have hfound := toStatus_eq_ok_iff.mp h
  unfold SessionManager.getSession at hfound
  split at hfound
  next found hfound' => rw [hfound', Except.ok.inj hfound]
  next => cases hfound

theorem ensures_requireSession
    (hgo : ∀ session, s.sessionManager.sessions[handle]? = some session →
      (f session.slotId).Ensures s Q) : (requireSession handle >>= f).Ensures s Q := by
  rw [requireSession, bind_assoc]
  exact ensures_getSession hstop hgo

theorem ensures_getToken {f : StoredToken → Core Result}
    (hgo : ∀ stored, s.storedToken slotId = some stored → (f stored).Ensures s Q) :
    (getToken slotId >>= f).Ensures s Q := by
  exact ensures_reads hstop fun stored h ↦
    hgo stored (elim_eq_ok (toStatus_eq_ok_iff.mp h))

theorem ensures_requireLoggedIn {f : Unit → Core Result}
    (hgo : ∀ stored, s.storedToken slotId = some stored →
      stored.token.auth.login ≠ .publicState → (f ()).Ensures s Q) :
    (requireLoggedIn slotId >>= f).Ensures s Q := by
  rw [requireLoggedIn, bind_assoc]
  refine ensures_getToken hstop fun stored hslot ↦ ?_
  refine ensures_reads hstop fun _ h ↦ hgo stored hslot fun hpublic ↦ ?_
  simp [Token.requireLogin, hpublic] at h

theorem ensures_requireAuthenticatedSession
    (hgo : ∀ session stored, s.sessionManager.sessions[handle]? = some session →
      s.storedToken session.slotId = some stored → stored.token.auth.login ≠ .publicState →
        (f session.slotId).Ensures s Q) :
    (requireAuthenticatedSession handle >>= f).Ensures s Q := by
  rw [requireAuthenticatedSession, bind_assoc]
  refine ensures_requireSession hstop fun session hsession ↦ ?_
  rw [bind_assoc]
  exact ensures_requireLoggedIn hstop fun stored hslot hlogin ↦
    hgo session stored hsession hslot hlogin

theorem ensures_admit {mechanism : Option Mechanism} {supported : Nat → Bool} {unsupported : String}
    {signing : Bool} {f : Nat × Mechanism → Core Result}
    (hgo : ∀ session mech, s.sessionManager.sessions[handle]? = some session →
      mechanism = some mech → (f (session.slotId, mech)).Ensures s Q) :
    (admitRequest handle mechanism supported unsupported signing >>= f).Ensures s Q := by
  simp only [admitRequest, bind_assoc]
  refine ensures_requireAuthenticatedSession hstop fun session stored hsession _ _ ↦ ?_
  refine ensures_reads hstop fun mech hmech ↦ ?_
  refine ensures_require (hstop _) fun _ ↦ ?_
  exact ensures_reads hstop fun _ _ ↦ hgo session mech hsession (elim_eq_ok hmech)

theorem ensures_objectOfSlot {f : StoredObject → Core Result}
    (hgo : ∀ obj, s.objectStore.objects.get? handle = some obj → obj.slotId = slotId →
      (f obj).Ensures s Q) : (objectOfSlot slotId handle missing >>= f).Ensures s Q := by
  rw [objectOfSlot, bind_assoc]
  refine ensures_reads hstop fun obj h ↦ ?_
  rw [bind_assoc]
  refine ensures_require (hstop _) fun hslot ↦ hgo obj ?_ hslot
  have hfound := toStatus_eq_ok_iff.mp h
  unfold ObjectStore.getObject at hfound
  split at hfound
  next found hfound' => rw [hfound', Except.ok.inj hfound]
  next => cases hfound

end Stops

theorem ensures_tryToken {f : HsmResult Unit → Core Result}
    (hslot : s.storedToken slotId = some stored)
    (hgo : (f (operation stored).1).Ensures (s.setStoredToken slotId (operation stored).2) Q) :
    (tryToken slotId operation >>= f).Ensures s Q := by
  unfold Program.Ensures at hgo ⊢
  rw [bind_apply]
  simpa [tryToken, hslot] using hgo

theorem ensures_onToken {f : Unit → Core Result} (hslot : s.storedToken slotId = some stored)
    (hstop : ∀ e, (operation stored).1 = .error e →
      Q (.error (hsmErrToStatus e)) (s.setStoredToken slotId (operation stored).2))
    (hgo : (operation stored).1 = .ok () →
      (f ()).Ensures (s.setStoredToken slotId (operation stored).2) Q) :
    (onToken slotId operation >>= f).Ensures s Q := by
  rw [onToken, bind_assoc]
  refine ensures_tryToken hslot ?_
  unfold Program.Ensures
  rw [reads_bind]
  cases hresult : (operation stored).1 with
  | error e => exact hstop e hresult
  | ok u => exact hgo hresult

theorem ensures_onSessions {Answer : Type}
    {operation : SessionManager → Token → HsmResult Answer × SessionManager × Token}
    {f : Answer → Core Result} (hslot : s.storedToken slotId = some stored)
    (hstop : ∀ e manager token,
      operation s.sessionManager stored.token = (.error e, manager, token) →
        Q (.error (hsmErrToStatus e)) ({ s with sessionManager := manager }.setStoredToken slotId
          { stored with token := token })) (hgo : ∀ answer manager token,
      operation s.sessionManager stored.token = (.ok answer, manager, token) →
        (f answer).Ensures ({ s with sessionManager := manager }.setStoredToken slotId
          { stored with token := token }) Q) :
    (onSessions slotId operation >>= f).Ensures s Q := by
  unfold Program.Ensures
  rw [bind_apply]
  rcases hrun : operation s.sessionManager stored.token with ⟨e | answer, manager, token⟩
  · simpa [onSessions, hslot, toStatus, hrun] using hstop e manager token hrun
  · simpa [onSessions, hslot, toStatus, hrun, Program.Ensures] using hgo answer manager token hrun

theorem ensures_nextHandle (hgo : (f s.objectStore.nextHandle.1).Ensures
      { s with objectStore := s.objectStore.nextHandle.2 } Q) :
    (nextHandle >>= f).Ensures s Q := by
  unfold Program.Ensures at hgo ⊢
  rw [bind_apply]
  simpa [nextHandle] using hgo

theorem ensures_insertObject {platform : Platform} {draw : StoreDraw}
    (hstop : ∀ e, Q (.error e) s) (hgo : (f obj.handle).Ensures { s with
      objectStore := s.objectStore.addObject platform.crates platform.codec draw obj.handle
        obj } Q) :
    (insertObject platform draw obj >>= f).Ensures s Q := by
  unfold Program.Ensures
  rw [bind_apply]
  by_cases hfull : s.objectStore.objects.refs.size ≥ maxObjects
  · simp only [insertObject, onStore, ObjectStore.insertObject, if_pos hfull, toStatus]
    exact hstop _
  · simp only [insertObject, onStore, ObjectStore.insertObject, if_neg hfull, toStatus]
    exact hgo

theorem keyField_eq_ok {Value : Type} {field : Option Value} {value : Value}
    (h : keyField field missing = .ok value) : field = some value := elim_eq_ok h

theorem ensures_noteUse {role : KeyRole} {f : Unit → Core Result}
    (hgo : (f ()).Ensures { s with keyUses := ⟨role, obj⟩ :: s.keyUses } Q) :
    (noteUse role obj >>= f).Ensures s Q := hgo

end Rules

/-! ### Steps that go through -/

section Steps

variable {s : Hsm} {Result : Type} {handle slotId : Nat} {found : CratonHsm.Session}
  {stored : StoredToken} {f : Nat → Core Result}

theorem getSession_bind {f : CratonHsm.Session → Core Result}
    (hsession : s.sessionManager.sessions[handle]? = some found) :
    (getSession handle >>= f) s = f found s := by
  rw [getSession, reads_bind, SessionManager.getSession, hsession]
  rfl

theorem requireSession_bind (hsession : s.sessionManager.sessions[handle]? = some found) :
    (requireSession handle >>= f) s = f found.slotId s := by
  rw [requireSession, bind_assoc, getSession_bind hsession]
  rfl

theorem getToken_bind {f : StoredToken → Core Result} (hslot : s.storedToken slotId = some stored) :
    (getToken slotId >>= f) s = f stored s := by
  rw [getToken, reads_bind, hslot]
  rfl

theorem requireLoggedIn_bind {f : Unit → Core Result} (hslot : s.storedToken slotId = some stored)
    (hlogin : stored.token.auth.login ≠ .publicState) :
    (requireLoggedIn slotId >>= f) s = f () s := by
  rw [requireLoggedIn, bind_assoc, getToken_bind hslot, reads_bind]
  cases hstate : stored.token.auth.login with
  | publicState => exact absurd hstate hlogin
  | userLoggedIn => simp [Token.requireLogin, hstate]
  | soLoggedIn => simp [Token.requireLogin, hstate]

theorem requireAuthenticatedSession_bind
    (hsession : s.sessionManager.sessions[handle]? = some found)
    (hslot : s.storedToken found.slotId = some stored)
    (hlogin : stored.token.auth.login ≠ .publicState) :
    (requireAuthenticatedSession handle >>= f) s = f found.slotId s := by
  rw [requireAuthenticatedSession, bind_assoc, requireSession_bind hsession,
    bind_assoc, requireLoggedIn_bind hslot hlogin]
  rfl

theorem objectOfSlot_bind {f : StoredObject → Core Result}
    (hobj : s.objectStore.objects.get? handle = some obj) (hmine : obj.slotId = slotId) :
    (objectOfSlot slotId handle missing >>= f) s = f obj s := by
  rw [objectOfSlot, bind_assoc, getObject, reads_bind, ObjectStore.getObject, hobj]
  simp only [toStatus]
  rw [bind_assoc, require_bind, if_pos hmine]
  rfl

theorem nextHandle_bind :
    (nextHandle >>= f) s =
      f s.objectStore.nextHandle.1 { s with objectStore := s.objectStore.nextHandle.2 } := rfl

theorem insertObject_bind {platform : Platform} {draw : StoreDraw}
    (hroom : s.objectStore.objects.refs.size < maxObjects) :
    (insertObject platform draw obj >>= f) s = f obj.handle { s with
      objectStore :=
        s.objectStore.addObject platform.crates platform.codec draw obj.handle obj } := by
  rw [bind_apply, insertObject, onStore, ObjectStore.insertObject,
    if_neg (Nat.not_le.mpr hroom)]
  rfl

end Steps

/-! ### What requests name -/

namespace Request

/-- The session that a request names. -/
def session? : Request → Option Nat
  | .openSession .. | .initToken .. | .healthCheck => none
  | .closeSession session | .login session _ _ | .logout session | .getTokenInfo _ session
  | .generateKey session _ _ | .generateKeyPair session _ _ _ | .destroyObject session _
  | .findObjects session _ _ | .getAttributeValue session _ _ | .wrapKey session _ _ _
  | .unwrapKey session _ _ _ _ | .deriveKey session _ _ _ | .copyObject session _ _
  | .initPin session _ | .setPin session _ _ | .sign session _ _ _ | .verify session _ _ _ _
  | .encrypt session _ _ _ | .decrypt session _ _ _ | .digest session _ _
  | .generateRandom session _ => some session

/-- The slot that a request is about. -/
def slot? (s : Hsm) : Request → Option Nat
  | .openSession slotId _ | .initToken slotId _ _ => some slotId
  | request => (request.session?.bind (s.sessionManager.sessions[·]?)).map Session.slotId

/-- The objects that a request uses as keys. -/
def keys : Request → List (KeyRole × Nat)
  | .sign _ _ key _ => [(.operation .sign, key)]
  | .verify _ _ key _ _ => [(.operation .verify, key)]
  | .encrypt _ _ key _ => [(.operation .encrypt, key)]
  | .decrypt _ _ key _ => [(.operation .decrypt, key)]
  | .wrapKey _ _ wrappingKey key => [(.operation .wrap, wrappingKey), (.wrapped, key)]
  | .unwrapKey _ _ unwrappingKey _ _ => [(.operation .unwrap, unwrappingKey)]
  | .deriveKey _ _ baseKey _ => [(.operation .derive, baseKey)]
  | _ => []

/-- A use of an object that the request names as a key. -/
def Uses (s : Hsm) (request : Request) (use : UsedKey) : Prop :=
  ∃ handle, (use.role, handle) ∈ request.keys ∧ s.objectStore.objects.get? handle = some use.obj

/-- The requests that leave tokens, sessions and objects alone. -/
def onlyReads : Request → Bool
  | .getTokenInfo .. | .findObjects .. | .getAttributeValue .. | .wrapKey .. | .sign .. | .verify ..
  | .encrypt .. | .decrypt .. | .digest .. | .generateRandom .. | .healthCheck => true
  | _ => false

/-- The requests that make objects. -/
def makesObjects : Request → Bool
  | .generateKey .. | .generateKeyPair .. | .unwrapKey .. | .deriveKey .. | .copyObject .. => true
  | _ => false

/-- The operation of the token that a request runs. -/
def tokenOp? : Request → Option TokenOp
  | .login _ userType pin => some (.login userType pin)
  | .logout _ => some .logout
  | .initToken _ soPin label => some (.initToken soPin (labelBytes label))
  | .initPin _ pin => some (.initPin pin)
  | .setPin _ oldPin newPin => some (.setPin oldPin newPin)
  | _ => none

end Request

/-! ### What a request does to the core -/

/-- The core after handles were allocated, ciphers were run and keys were used. -/
def touched (s : Hsm) (handleAlloc : ObjectHandleAllocator) (statics : CipherStatics)
    (uses : List UsedKey) : Hsm :=
  { s with
    objectStore := { s.objectStore with handleAlloc := handleAlloc }
    statics := statics
    keyUses := uses ++ s.keyUses }

/-- A request has changed nothing but allocators, cipher tables and the history of uses. -/
def Touches (request : Request) (s t : Hsm) : Prop :=
  ∃ handleAlloc statics uses, t = touched s handleAlloc statics uses ∧
    ∀ use ∈ uses, request.Uses s use

/-- Objects are inserted one after the other. -/
def insertAll (platform : Platform) (s : Hsm) (objects : List (StoreDraw × StoredObject)) : Hsm :=
  { s with objectStore := objects.foldl (fun store entry ↦
      store.addObject platform.crates platform.codec entry.1 entry.2.handle entry.2) s.objectStore }

/-- What a request does to the core, and whether it gets to the end of what it does there. -/
inductive CoreEffect (platform : Platform) (env : RequestEnv) (s : Hsm) :
    Request → Bool → Hsm → Prop
  | touched {request : Request} {done : Bool} {t : Hsm} (htouches : Touches request s t)
      (hreads : done = true → request.onlyReads = true) : CoreEffect platform env s request done t
  | made {request : Request} {done : Bool} {t : Hsm} (htouches : Touches request s t)
      (hmakes : request.makesObjects = true) (first : StoreDraw × StoredObject)
      (others : List (StoreDraw × StoredObject)) :
      CoreEffect platform env s request done (insertAll platform t (first :: others))
  | destroyed {session object : Nat} {obj : StoredObject}
      (hobj : s.objectStore.objects.get? object = some obj) :
      CoreEffect platform env s (.destroyObject session object) true
        { s with objectStore := { s.objectStore with
            objects := s.objectStore.objects.erase object }.unpersistObject env.call.first object }
  | opened {slotId handle : Nat} {readWrite : Bool} {stored : StoredToken}
      {manager : SessionManager} {token : Token} (hslot : s.storedToken slotId = some stored)
      (hrun : s.sessionManager.openSession slotId (sessionFlags readWrite) stored.token =
        (.ok handle, manager, token)) :
      CoreEffect platform env s (.openSession slotId readWrite) true
        ({ s with sessionManager := manager }.setStoredToken slotId { stored with token := token })
  | closed {session : Nat} {found : Session} {stored : StoredToken} {result : HsmResult Unit}
      {manager : SessionManager} {token : Token}
      (hsession : s.sessionManager.sessions[session]? = some found)
      (hslot : s.storedToken found.slotId = some stored)
      (hrun : s.sessionManager.closeSession session stored.token = (result, manager, token)) :
      CoreEffect platform env s (.closeSession session) result.isOk
        ({ s with sessionManager := manager }.setStoredToken found.slotId
          { stored with token := token })
  | tokenRun {request : Request} {op : TokenOp} {slotId : Nat} {stored : StoredToken}
      (hop : request.tokenOp? = some op) (hrequest : request.slot? s = some slotId)
      (hslot : s.storedToken slotId = some stored) :
      CoreEffect platform env s request (op.apply platform.crates env.call.token stored).1.isOk
        (s.setStoredToken slotId (op.apply platform.crates env.call.token stored).2)

section Touches

variable {request : Request} {s t : Hsm}

theorem Touches.objects_eq (h : Touches request s t) :
    t.objectStore.objects = s.objectStore.objects := by
  obtain ⟨_, _, _, rfl, -⟩ := h
  rfl

theorem Touches.sessionManager_eq (h : Touches request s t) :
    t.sessionManager = s.sessionManager := by
  obtain ⟨_, _, _, rfl, -⟩ := h
  rfl

theorem Touches.refl (request : Request) (s : Hsm) : Touches request s s :=
  ⟨s.objectStore.handleAlloc, s.statics, [], rfl, by simp⟩

variable (h : Touches request s t)
include h

theorem Touches.noteUse {role : KeyRole} {handle : Nat} (hkey : (role, handle) ∈ request.keys)
    (hobj : s.objectStore.objects.get? handle = some obj) :
    Touches request s { t with keyUses := ⟨role, obj⟩ :: t.keyUses } := by
  obtain ⟨handleAlloc, statics, uses, rfl, huses⟩ := h
  refine ⟨handleAlloc, statics, ⟨role, obj⟩ :: uses, rfl, fun use huse ↦ ?_⟩
  rcases List.mem_cons.mp huse with rfl | huse
  · exact ⟨handle, hkey, hobj⟩
  · exact huses use huse

theorem Touches.nextHandle :
    Touches request s { t with objectStore := t.objectStore.nextHandle.2 } := by
  obtain ⟨handleAlloc, statics, uses, rfl, huses⟩ := h
  exact ⟨handleAlloc.allocate.2, statics, uses, rfl, huses⟩

theorem Touches.withStatics (statics : CipherStatics) :
    Touches request s { t with statics := statics } := by
  obtain ⟨handleAlloc, -, uses, rfl, huses⟩ := h
  exact ⟨handleAlloc, statics, uses, rfl, huses⟩

theorem CoreEffect.refused {platform : Platform} {env : RequestEnv} :
    CoreEffect platform env s request false t :=
  .touched h fun hdone ↦ by cases hdone

end Touches

/-! ### Objects and sessions after a request -/

section Consequences

variable {platform : Platform} {env : RequestEnv} {request : Request} {done : Bool} {s t : Hsm}

theorem isRwFlags_sessionFlags (readWrite : Bool) :
    isRwFlags (sessionFlags readWrite) = readWrite := by
  cases readWrite <;> decide

theorem insertAll_evolves {map : SharedMap Nat StoredObject} :
    ∀ (objects : List (StoreDraw × StoredObject)) (s : Hsm),
      map.Evolves s.objectStore.objects → map.Evolves
        (insertAll platform s objects).objectStore.objects
  | [], _, h => h
  | (draw, obj) :: objects, s, h => by
    refine insertAll_evolves objects { s with
      objectStore := s.objectStore.addObject platform.crates platform.codec draw obj.handle obj } ?_
    rw [ObjectStore.addObject_objects]
    exact h.insert map obj.handle obj

/-- No request brings an object back to a handle. -/
theorem CoreEffect.evolves {map : SharedMap Nat StoredObject}
    (h : CoreEffect platform env s request done t) (hs : map.Evolves s.objectStore.objects) :
    map.Evolves t.objectStore.objects := by
  cases h with
  | touched htouches _ => rwa [htouches.objects_eq]
  | made htouches _ first others =>
    refine insertAll_evolves _ _ ?_
    rwa [htouches.objects_eq]
  | destroyed _ =>
    rw [ObjectStore.unpersistObject_objects]
    exact hs.erase map _
  | opened _ _ => exact hs
  | closed _ _ _ => exact hs
  | tokenRun _ _ _ => exact hs

/-- A session changes only by being closed or opened. -/
theorem CoreEffect.session_cases (h : CoreEffect platform env s request done t) (handle : Nat) :
    t.sessionManager.sessions[handle]? = s.sessionManager.sessions[handle]? ∨
      (request = .closeSession handle ∧ t.sessionManager.sessions[handle]? = none) ∨
      ∃ slotId readWrite stored, request = .openSession slotId readWrite ∧
        handle = s.sessionManager.handleAlloc.allocate.1 ∧ s.storedToken slotId = some stored ∧
        stored.token.auth.login.admits readWrite ∧
        t.sessionManager.sessions[handle]? = some
          ((Session.new handle slotId (sessionFlags readWrite)).withLogin
            stored.token.auth.login) := by
  cases h with
  | touched htouches _ => exact Or.inl (by rw [htouches.sessionManager_eq])
  | made htouches _ first others =>
    exact Or.inl (congrArg (·.sessions[handle]?) htouches.sessionManager_eq)
  | destroyed _ => exact Or.inl rfl
  | @opened slotId _ readWrite stored manager token hslot hrun =>
    rcases s.sessionManager.openSession_eq slotId (sessionFlags readWrite) stored.token with
      ⟨e', heq⟩ | ⟨token', _, hadmits, heq⟩
    · simp [heq] at hrun
    · simp only [heq, Prod.mk.injEq] at hrun
      obtain ⟨-, rfl, -⟩ := hrun
      rcases eq_or_ne s.sessionManager.handleAlloc.allocate.1 handle with rfl | hhandle
      · rw [isRwFlags_sessionFlags] at hadmits
        exact Or.inr (Or.inr ⟨slotId, readWrite, stored, rfl, rfl, hslot, hadmits,
          (getElem?_insert_eq_ite ..).trans (if_pos rfl)⟩)
      · exact Or.inl ((getElem?_insert_eq_ite ..).trans (if_neg hhandle))
  | @closed session found stored result manager token hsession _ hrun =>
    simp only [SessionManager.closeSession, hsession, Prod.mk.injEq] at hrun
    obtain ⟨-, rfl, -⟩ := hrun
    rcases eq_or_ne session handle with rfl | hhandle
    · exact Or.inr (Or.inl ⟨rfl, (getElem?_erase_eq_ite ..).trans (if_pos rfl)⟩)
    · exact Or.inl ((getElem?_erase_eq_ite ..).trans (if_neg hhandle))
  | tokenRun _ _ _ => exact Or.inl rfl

end Consequences

/-! ### The parts of the handlers that act on the core -/

section Bodies

variable (platform : Platform) (env : RequestEnv) (s : Hsm)

/-- The program has the effect of the request. -/
abbrev HasEffect {Answer : Type} (request : Request) (x : Core Answer) : Prop :=
  x.Ensures s fun answer s' ↦ CoreEffect platform env s request answer.isOk s'

variable {platform env s}

theorem openSession_effect (slotId : Nat) (readWrite : Bool) :
    HasEffect platform env s (.openSession slotId readWrite) (openSession slotId readWrite) := by
  refine ensures_getToken (fun _ ↦ .refused (.refl _ s)) fun stored hslot ↦ ?_
  refine ensures_onSessions hslot (fun e manager token hrun ↦ ?_) fun handle manager token hrun ↦ ?_
  · rcases s.sessionManager.openSession_eq slotId (sessionFlags readWrite) stored.token with
      ⟨e', heq⟩ | ⟨_, -, -, heq⟩
    · simp only [heq, Prod.mk.injEq] at hrun
      obtain ⟨-, rfl, rfl⟩ := hrun
      have hself : s.setStoredToken slotId stored = s := Hsm.setStoredToken_self hslot
      exact hself.symm ▸ .refused (.refl _ s)
    · simp [heq] at hrun
  · exact .opened hslot hrun

variable (session : Nat)

theorem closeSession_effect :
    HasEffect platform env s (.closeSession session) (closeSession session) := by
  refine ensures_requireSession (fun _ ↦ .refused (.refl _ s)) fun found hsession ↦ ?_
  refine ensures_getToken (fun _ ↦ .refused (.refl _ s)) fun stored hslot ↦ ?_
  refine ensures_onSessions hslot (fun e manager token hrun ↦ ?_) fun _ manager token hrun ↦ ?_
  · exact .closed hsession hslot hrun
  · exact .closed hsession hslot hrun

theorem slot?_of_session {request : Request} {session : Nat} {found : Session}
    (hrequest : request.slot? s =
      (request.session?.bind (s.sessionManager.sessions[·]?)).map Session.slotId)
    (hnamed : request.session? = some session)
    (hsession : s.sessionManager.sessions[session]? = some found) :
    request.slot? s = some found.slotId := by
  rw [hrequest, hnamed, Option.bind_some, hsession, Option.map_some]

/-- A request that ends with one operation of the token of its session. -/
theorem tokenRun_effect (request : Request) (op : TokenOp) {slotId : Nat} {entry : AuditEntry}
    (hop : request.tokenOp? = some op) (hrequest : request.slot? s = some slotId) :
    HasEffect platform env s request (do
      let _ ← getToken slotId
      onToken slotId fun stored ↦ op.apply platform.crates env.call.token stored
      return (entry, Response.done)) := by
  refine ensures_getToken (fun _ ↦ .refused (.refl _ s)) fun stored hslot ↦ ?_
  have heffect : CoreEffect platform env s request
      (op.apply platform.crates env.call.token stored).1.isOk
      (s.setStoredToken slotId (op.apply platform.crates env.call.token stored).2) :=
    .tokenRun hop hrequest hslot
  refine ensures_onToken hslot (fun e hresult ↦ ?_) fun hresult ↦ ?_
  · rwa [hresult] at heffect
  · rwa [hresult] at heffect

theorem logout_effect : HasEffect platform env s (.logout session) (logout env session) := by
  refine ensures_requireSession (fun _ ↦ .refused (.refl _ s)) fun found hsession ↦ ?_
  exact tokenRun_effect (.logout session) .logout rfl (slot?_of_session rfl rfl hsession)

theorem ensures_requireSoSession {Result : Type} {Q : Except Status Result → Hsm → Prop}
    {session : Nat} {f : Nat → Core Result} (hstop : ∀ e, Q (.error e) s)
    (hgo : ∀ found, s.sessionManager.sessions[session]? = some found → found.state.isSo = true →
      (f found.slotId).Ensures s Q) : (requireSoSession session >>= f).Ensures s Q := by
  simp only [requireSoSession, bind_assoc]
  refine ensures_requireAuthenticatedSession hstop fun found _ hsession _ _ ↦ ?_
  refine ensures_getSession hstop fun found' hsession' ↦ ?_
  obtain rfl := Option.mem_unique hsession hsession'
  exact ensures_require (hstop _) fun hso ↦ hgo found hsession hso

theorem initPin_effect (pin : Bytes) :
    HasEffect platform env s (.initPin session pin) (initPin platform env session pin) := by
  refine ensures_requireSoSession (fun _ ↦ .refused (.refl _ s)) fun found hsession _ ↦ ?_
  exact tokenRun_effect (.initPin session pin) (.initPin pin) rfl
    (slot?_of_session rfl rfl hsession)

theorem setPin_effect (oldPin newPin : Bytes) :
    HasEffect platform env s (.setPin session oldPin newPin)
      (setPin platform env session oldPin newPin) := by
  refine ensures_requireAuthenticatedSession (fun _ ↦ .refused (.refl _ s))
    fun found _ hsession _ _ ↦ ?_
  exact tokenRun_effect (.setPin session oldPin newPin) (.setPin oldPin newPin) rfl
    (slot?_of_session rfl rfl hsession)

theorem destroyObject_effect (object : Nat) :
    HasEffect platform env s (.destroyObject session object)
      (destroyObject env session object) := by
  refine ensures_requireAuthenticatedSession (fun _ ↦ .refused (.refl _ s)) fun _ _ _ _ _ ↦ ?_
  refine ensures_objectOfSlot (fun _ ↦ .refused (.refl _ s)) fun obj hobj _ ↦ ?_
  unfold Program.Ensures
  rw [bind_apply]
  cases hdestroyable : obj.destroyable with
  | true =>
    simp only [onStore, ObjectStore.destroyObject, hobj, hdestroyable, toStatus]
    exact .destroyed hobj
  | false =>
    simp only [onStore, ObjectStore.destroyObject, hobj, hdestroyable, toStatus]
    exact .refused (.refl _ s)

end Bodies

/-! ### Requests that read -/

section Reads

variable {platform : Platform} {env : RequestEnv} {s : Hsm} {request : Request}
  {Answer Result : Type} {x : Core Answer} {f : Answer → Core Result}

/-- Whatever the request has touched before, it has touched no more after the program. -/
def Reading (request : Request) (s : Hsm) {Answer : Type} (x : Core Answer) : Prop :=
  ∀ t, Touches request s t → Touches request s (x t).2

theorem Reading.effect (h : Reading request s x) (hreads : request.onlyReads = true) :
    HasEffect platform env s request x := .touched (h s (.refl _ s)) fun _ ↦ hreads

theorem Reading.bind (hx : Reading request s x) (hf : ∀ a, Reading request s (f a)) :
    Reading request s (x >>= f) :=
  fun t ht ↦ Ensures.bind (P := fun _ u ↦ Touches request s u) (Q := fun _ u ↦ Touches request s u)
    (hx t ht) (fun _ _ h ↦ h) hf

theorem Reading.onStatics {operation : CipherStatics → Except Status Answer × CipherStatics} :
    Reading request s (onStatics operation) := fun _ ht ↦ ht.withStatics _

/-- The objects of the store are those that the request began with. -/
theorem Reading.objectOfSlot {slotId handle : Nat} {g : StoredObject → Core Result}
    (hg : ∀ obj, s.objectStore.objects.get? handle = some obj → Reading request s (g obj)) :
    Reading request s (objectOfSlot slotId handle missing >>= g) := by
  intro t ht
  have hrun : (Daemon.objectOfSlot slotId handle missing >>= g).Ensures t fun _ u ↦
      Touches request s u :=
    ensures_objectOfSlot (fun _ ↦ ht) fun obj hobj _ ↦ hg obj (ht.objects_eq ▸ hobj) t ht
  exact hrun

theorem Reading.noteUse {role : KeyRole} {handle : Nat} (hkey : (role, handle) ∈ request.keys)
    (hobj : s.objectStore.objects.get? handle = some obj) :
    Reading request s (noteUse role obj) := fun _ ht ↦ ht.noteUse hkey hobj

end Reads

/-! ### Requests that make objects -/

section Makes

variable (platform : Platform) (env : RequestEnv) (s : Hsm) {Describes : StoredObject → Prop}

/-- The request makes one object, of which something is known, or none. -/
inductive Makes (request : Request) (Describes : StoredObject → Prop) :
    Except Status (AuditEntry × Response) → Hsm → Prop
  | refused {e : Status} {t : Hsm} (htouches : Touches request s t) :
      Makes request Describes (.error e) t
  | made {t : Hsm} {obj : StoredObject} {entry : AuditEntry} (htouches : Touches request s t)
      (hdescribes : Describes obj) :
      Makes request Describes (.ok (entry, .handle obj.handle))
        (insertAll platform t [(env.call.first, obj)])

variable {platform env s}

theorem Makes.effect {request : Request} (hmakes : request.makesObjects = true)
    {answer : Except Status (AuditEntry × Response)} {t : Hsm}
    (h : Makes platform env s request Describes answer t) :
    CoreEffect platform env s request answer.isOk t := by
  cases h with
  | refused htouches => exact .refused htouches
  | made htouches hdescribes => exact .made htouches hmakes _ []

/-- The end of the requests that make one object: a template, then the object store. -/
theorem insertObject_makes {request : Request} {t : Hsm} {f : Nat → AuditEntry}
    (htouches : Touches request s t) (hdescribes : Describes obj) :
    Program.Ensures (do
      let handle ← insertObject platform env.call.first obj
      return (f handle, Response.handle handle)) t (Makes platform env s request Describes) :=
  ensures_insertObject (fun _ ↦ .refused htouches) (.made htouches hdescribes)

variable (session : Nat) (mechanism : Option Mechanism)

theorem generateKey_makes (template : Template) :
    (generateKey platform env session mechanism template).Ensures s
      (Makes platform env s (.generateKey session mechanism template) fun obj ↦
        ∃ slotId handle keyLen key, readUlongAttr template ckaValueLen = some keyLen ∧
          platform.backend.generateAesKey env.call.seed keyLen
            s.algorithmConfig.fipsApprovedOnly = .ok key ∧
          applyTemplateExcept [ckaValueLen] (generatedKey env slotId handle keyLen key) template =
            .ok obj) := by
  refine ensures_admit (fun _ ↦ .refused (.refl _ s)) fun found _ _ _ ↦ ?_
  refine ensures_reads (fun _ ↦ .refused (.refl _ s)) fun keyLen hlen ↦ ?_
  refine ensures_reads (fun _ ↦ .refused (.refl _ s)) fun key hkey ↦ ?_
  have htouches := (Touches.refl (.generateKey session mechanism template) s).nextHandle
  refine ensures_nextHandle (ensures_reads (fun _ ↦ .refused htouches) fun obj hobj ↦ ?_)
  exact insertObject_makes htouches ⟨found.slotId, _, keyLen, key, elim_eq_ok hlen,
    toStatus_eq_ok_iff.mp hkey, hobj⟩

theorem unwrapKey_makes (unwrappingKey : Nat) (wrapped : Bytes) (template : Template) :
    (unwrapKey platform env session mechanism unwrappingKey wrapped template).Ensures s
      (Makes platform env s (.unwrapKey session mechanism unwrappingKey wrapped template) fun obj ↦
        ∃ slotId handle unwrapping material key,
          s.objectStore.objects.get? unwrappingKey = some unwrapping ∧
          unwrapping.keyMaterial = some material ∧
          platform.backend.aesKeyUnwrap material wrapped s.algorithmConfig.fipsApprovedOnly =
            .ok key ∧
          applyTemplateExcept [] (unwrappedKey env slotId handle key template) template =
            .ok obj) := by
  refine ensures_admit (fun _ ↦ .refused (.refl _ s)) fun found _ _ _ ↦ ?_
  refine ensures_objectOfSlot (fun _ ↦ .refused (.refl _ s)) fun unwrapping hunwrapping _ ↦ ?_
  refine ensures_require (.refused (.refl _ s)) fun _ ↦ ?_
  refine ensures_reads (fun _ ↦ .refused (.refl _ s)) fun material hmaterial ↦ ?_
  have hused := (Touches.refl (.unwrapKey session mechanism unwrappingKey wrapped template)
    s).noteUse List.mem_cons_self hunwrapping
  refine ensures_noteUse (ensures_reads (fun _ ↦ .refused hused) fun key hkey ↦ ?_)
  refine ensures_nextHandle
    (ensures_reads (fun _ ↦ .refused hused.nextHandle) fun obj hobj ↦ ?_)
  refine insertObject_makes hused.nextHandle
    ⟨found.slotId, _, unwrapping, material, key, hunwrapping, ?_, toStatus_eq_ok_iff.mp hkey, hobj⟩
  exact keyField_eq_ok hmaterial

theorem deriveKey_makes (baseKey : Nat) (template : Template) :
    (deriveKey platform env session mechanism baseKey template).Ensures s
      (Makes platform env s (.deriveKey session mechanism baseKey template) fun obj ↦
        ∃ slotId handle base material parameter key,
          s.objectStore.objects.get? baseKey = some base ∧ base.keyMaterial = some material ∧
          mechanism.map Mechanism.parameter = some parameter ∧
          deriveBytes platform.backend base material parameter
            (readUlongAttr template ckaValueLen) = .ok key ∧
          applyTemplateExcept [ckaValueLen] (derivedKey env slotId handle key) template =
            .ok obj) := by
  refine ensures_admit (fun _ ↦ .refused (.refl _ s)) fun found mech _ hmech ↦ ?_
  refine ensures_objectOfSlot (fun _ ↦ .refused (.refl _ s)) fun base hbase _ ↦ ?_
  refine ensures_require (.refused (.refl _ s)) fun _ ↦ ?_
  refine ensures_reads (fun _ ↦ .refused (.refl _ s)) fun material hmaterial ↦ ?_
  refine ensures_require (.refused (.refl _ s)) fun _ ↦ ?_
  have hused := (Touches.refl (.deriveKey session mechanism baseKey template) s).noteUse
    List.mem_cons_self hbase
  refine ensures_noteUse (ensures_reads (fun _ ↦ .refused hused) fun key hkey ↦ ?_)
  refine ensures_nextHandle
    (ensures_reads (fun _ ↦ .refused hused.nextHandle) fun obj hobj ↦ ?_)
  refine insertObject_makes hused.nextHandle ⟨found.slotId, _, base, material, mech.parameter, key,
    hbase, keyField_eq_ok hmaterial, by rw [hmech]; rfl, hkey, hobj⟩

theorem copyObject_makes (object : Nat) (template : Template) :
    (copyObject platform env session object template).Ensures s
      (Makes platform env s (.copyObject session object template) fun obj ↦
        ∃ slotId handle src, s.objectStore.objects.get? object = some src ∧
          applyTemplateExcept [] (copiedObject env slotId handle src) template = .ok obj) := by
  refine ensures_requireAuthenticatedSession (fun _ ↦ .refused (.refl _ s)) fun found _ _ _ _ ↦ ?_
  refine ensures_objectOfSlot (fun _ ↦ .refused (.refl _ s)) fun src hsrc _ ↦ ?_
  have htouches := (Touches.refl (.copyObject session object template) s).nextHandle
  refine ensures_nextHandle (ensures_require (.refused htouches) fun _ ↦ ?_)
  refine ensures_reads (fun _ ↦ .refused htouches) fun obj hobj ↦ ?_
  refine ensures_require (.refused htouches) fun _ ↦ ?_
  refine ensures_require (.refused htouches) fun _ ↦ ?_
  exact insertObject_makes htouches ⟨found.slotId, _, src, hsrc, hobj⟩

theorem generateKeyPair_effect (pubTemplate privTemplate : Template) :
    HasEffect platform env s (.generateKeyPair session mechanism pubTemplate privTemplate)
      (generateKeyPair platform env session mechanism pubTemplate privTemplate) := by
  refine ensures_admit (fun _ ↦ .refused (.refl _ s)) fun found _ _ _ ↦ ?_
  have htouches := (Touches.refl
    (.generateKeyPair session mechanism pubTemplate privTemplate) s).nextHandle.nextHandle
  refine ensures_nextHandle (ensures_nextHandle ?_)
  refine ensures_reads (fun _ ↦ .refused htouches) fun draft _ ↦ ?_
  refine ensures_reads (fun _ ↦ .refused htouches) fun pub _ ↦ ?_
  refine ensures_reads (fun _ ↦ .refused htouches) fun priv _ ↦ ?_
  -- A store that is full after the first object keeps it.
  refine ensures_insertObject (fun _ ↦ .refused htouches) ?_
  refine ensures_insertObject (fun _ ↦ ?_) ?_
  · exact .made htouches rfl (env.call.first, pub) []
  · exact .made htouches rfl (env.call.first, pub) [(env.call.second, priv)]

end Makes

/-! ### Handlers -/

section Handlers

variable {platform : Platform} {env : RequestEnv} {s : HsmService} {body : Body} {Result : Type}
  {entry : AuditEntry} {request : Request} {Q : Except Status Result → HsmService → Prop}
  {f : Unit → Handler Result}

/-- A `Login` or an `InitToken`, which also record that they failed. -/
def Request.recordsFailures : Request → Bool
  | .login .. | .initToken .. => true
  | _ => false

/-- The request has run its operation of the token. -/
def RunsToken (platform : Platform) (env : RequestEnv) (s : Hsm) (request : Request) (t : Hsm) :
    Prop :=
  ∃ op slotId stored, request.tokenOp? = some op ∧ request.slot? s = some slotId ∧
    s.storedToken slotId = some stored ∧
    t = s.setStoredToken slotId (op.apply platform.crates env.call.token stored).2

/-- What becomes of the event of a request: there is none, the audit log refuses it and the request
is answered with an error, or it is handed to the worker of the log. What is recorded is what was
gone through, or the failure of an operation of the token. -/
inductive EventFate (platform : Platform) (env : RequestEnv) (s : HsmService) (request : Request)
    (answer : Except Status Response) (done : Bool) (s' : HsmService) : Prop
  | unrecorded (hevents : s'.refusedEvents = s.refusedEvents)
      (hsent : s'.auditLog.sent = s.auditLog.sent)
  | refused (hevents : s'.refusedEvents ≠ s.refusedEvents) (hanswer : answer.isOk = false)
      (hwhat : done = true ∨
        request.recordsFailures = true ∧ RunsToken platform env s.hsm request s'.hsm)
  | handed (hevents : s'.refusedEvents = s.refusedEvents)
      (hwhat : answer.isOk = true ∨ answer.isOk = false ∧ request.recordsFailures = true ∧
        RunsToken platform env s.hsm request s'.hsm)

/-- What a handler does: the effect on the core, and an answer that is good only if the core was
gone through and the audit log took the event. -/
structure HandleEffect (platform : Platform) (env : RequestEnv) (s : HsmService) (request : Request)
    (answer : Except Status Response) (s' : HsmService) : Prop where
  config_eq : s'.config = s.config
  core : ∃ done, CoreEffect platform env s.hsm request done s'.hsm ∧
    (answer.isOk = true → done = true) ∧ EventFate platform env s request answer done s'

theorem ensures_onCore {Answer : Type} {x : Core Answer} {f : Answer → Handler Result}
    {P : Except Status Answer → Hsm → Prop} (hx : x.Ensures s.hsm P)
    (hstop : ∀ e t, P (.error e) t → Q (.error e) { s with hsm := t })
    (hgo : ∀ a t, P (.ok a) t → (f a).Ensures { s with hsm := t } Q) :
    (onCore x >>= f).Ensures s Q :=
  Program.Ensures.bind (P := fun answer s' ↦ ∃ t, s' = { s with hsm := t } ∧ P answer t)
    ⟨(x s.hsm).2, rfl, hx⟩
    (fun e s' ⟨t, hs', ht⟩ ↦ by rw [hs']; exact hstop e t ht)
    (fun a s' ⟨t, hs', ht⟩ ↦ by rw [hs']; exact hgo a t ht)

theorem requireSession_ensures (handle : Nat) (s : Hsm) :
    (requireSession handle).Ensures s fun answer t ↦ t = s ∧ ∀ slotId, answer = .ok slotId →
      ∃ found, s.sessionManager.sessions[handle]? = some found ∧ slotId = found.slotId := by
  refine ensures_getSession (fun e ↦ ⟨rfl, fun _ h ↦ by cases h⟩) fun found hfound ↦ ⟨rfl, ?_⟩
  rintro slotId h
  exact ⟨found, hfound, (Except.ok.inj h).symm⟩

theorem getToken_ensures (slotId : Nat) (s : Hsm) :
    (getToken slotId).Ensures s fun answer t ↦ t = s ∧ ∀ stored, answer = .ok stored →
      s.storedToken slotId = some stored :=
  ⟨rfl, fun _ h ↦ elim_eq_ok (toStatus_eq_ok_iff.mp h)⟩

/-- The audit log changes nothing but itself and the history of refusals. -/
theorem audit_eq (env : RequestEnv) (s : HsmService) (entry : AuditEntry)
    (result : Audit.AuditResult) :
    (∃ auditLog, audit env entry result s = (.ok (), { s with auditLog := auditLog })) ∨
      ∃ auditLog, audit env entry result s = (.error ⟨.internal, "Audit system failure"⟩, { s with
        auditLog := auditLog
        refusedEvents := auditRequest env entry result :: s.refusedEvents }) := by
  unfold audit
  split
  · exact Or.inl ⟨_, rfl⟩
  · exact Or.inr ⟨_, rfl⟩

theorem ensures_audit {result : Audit.AuditResult}
    (hstop : ∀ e auditLog event, Q (.error e) { s with
      auditLog := auditLog
      refusedEvents := event :: s.refusedEvents })
    (hgo : ∀ auditLog, (f ()).Ensures { s with auditLog := auditLog } Q) :
    (audit env entry result >>= f).Ensures s Q := by
  unfold Program.Ensures
  rw [bind_apply]
  rcases audit_eq env s entry result with ⟨auditLog, heq⟩ | ⟨auditLog, heq⟩ <;>
    rw [heq]
  · exact hgo auditLog
  · exact hstop _ auditLog _

/-- A request has its effect whether or not its event is recorded afterwards. -/
theorem audited_effect (hbody : HasEffect platform env s.hsm request body) :
    (audited env body).Ensures s (HandleEffect platform env s request) := by
  refine ensures_onCore hbody (fun e t ht ↦ ⟨rfl, false, ht, by simp [Except.toBool],
    .unrecorded rfl rfl⟩) fun answer t ht ↦ ?_
  refine ensures_audit (fun e auditLog event ↦ ?_) fun auditLog ↦ ?_
  · exact ⟨rfl, true, ht, fun _ ↦ rfl, .refused (List.cons_ne_self _ _) rfl (Or.inl rfl)⟩
  · exact ⟨rfl, true, ht, fun _ ↦ rfl, .handed rfl (Or.inl rfl)⟩

/-- Whether or not the audit log takes the event, the core is as the body of the handler left it. -/
theorem audited_hsm (env : RequestEnv) (body : Body) (s : HsmService) :
    (audited env body s).2.hsm = (body s.hsm).2 := by
  have hrun : (audited env body).Ensures s fun _ t ↦ t.hsm = (body s.hsm).2 :=
    ensures_onCore (P := fun _ t ↦ t = (body s.hsm).2) rfl (fun _ _ h ↦ h) fun _ _ h ↦
      ensures_audit (fun _ _ _ ↦ h) fun _ ↦ h
  exact hrun

variable {response : Response} {e : Status} {kind : Throttled}

/-- A handler answers only with what its body answered. -/
theorem audited_eq_ok (hok : (audited env body s).1 = .ok response) :
    ∃ entry, (body s.hsm).1 = .ok (entry, response) := by
  have hrun : (audited env body).Ensures s fun answer _ ↦ answer = .ok response →
      ∃ entry, (body s.hsm).1 = .ok (entry, response) := by
    refine ensures_onCore (P := fun answer _ ↦ answer = (body s.hsm).1) rfl
      (fun _ _ _ h ↦ by cases h) fun answer _ hanswer ↦ ?_
    refine ensures_audit (fun _ _ _ h ↦ by cases h) fun _ h ↦ ⟨answer.1, ?_⟩
    rw [← hanswer, ← Except.ok.inj h]
  exact hrun hok

/-- A handler is refused by its body or by the audit log. -/
theorem audited_eq_error (herror : (audited env body s).1 = .error e) :
    (body s.hsm).1 = .error e ∨ e = ⟨.internal, "Audit system failure"⟩ := by
  rw [audited, bind_apply, onCore] at herror
  cases hbody : (body s.hsm).1 with
  | error e' =>
    rw [hbody] at herror
    exact Or.inl (congrArg Except.error (Except.error.inj herror))
  | ok result =>
    rw [hbody] at herror
    dsimp only at herror
    rw [bind_apply] at herror
    rcases audit_eq env { s with hsm := (body s.hsm).2 } result.1 .success with
      ⟨auditLog, heq⟩ | ⟨auditLog, heq⟩
    · rw [heq] at herror
      cases herror
    · rw [heq] at herror
      exact Or.inr (Except.error.inj herror).symm

theorem audited_of_refused (hbody : body s.hsm = (.error e, s.hsm)) :
    audited env body s = (.error e, s) := by
  rw [audited, bind_apply, onCore, hbody]

/-- A request that did what it does is answered if the audit log takes the event. -/
theorem audited_of_ok (hbody : (body s.hsm).1 = .ok (entry, response))
    (htamper : s.auditLog.system.log.tamperFlag = false) (hworker : s.workerRunning = true) :
    (audited env body s).1 = .ok response := by
  have hcore : onCore body s = (.ok (entry, response), { s with hsm := (body s.hsm).2 }) := by
    rw [onCore, hbody]
  rw [audited, bind_apply, hcore]
  simp [bind_apply, audit, recordEvent, htamper, hworker]

/-- A request that does not record anything. -/
theorem onCore_effect {x : Core Response} (hx : HasEffect platform env s.hsm request x) :
    (onCore x).Ensures s (HandleEffect platform env s request) :=
  ⟨rfl, _, hx, fun h ↦ h, .unrecorded rfl rfl⟩

/-- The two services differ at most in their throttle tables. -/
structure SameBut (s t : HsmService) : Prop where
  config_eq : t.config = s.config
  hsm_eq : t.hsm = s.hsm
  refusedEvents_eq : t.refusedEvents = s.refusedEvents
  auditLog_eq : t.auditLog = s.auditLog

theorem setAttempts_sameBut (s : HsmService) (kind : Throttled) (table : ThrottleTable) :
    SameBut s (s.setAttempts kind table) := by
  cases kind <;> exact ⟨rfl, rfl, rfl, rfl⟩

theorem ensures_onAttempts_ok {update : ServiceConfig → ThrottleTable → ThrottleTable}
    (hgo : ∀ t, SameBut s t → (f ()).Ensures t Q) :
    ((onAttempts kind fun config table ↦ (.ok (), update config table)) >>= f).Ensures s Q :=
  hgo _ (setAttempts_sameBut s kind _)

/-- A throttled request runs its operation after the check, and then counts the outcome. -/
theorem attemptToken_effect (op : TokenOp) {slotId : Nat}
    (hrecords : request.recordsFailures = true) (hop : request.tokenOp? = some op)
    (hrequest : request.slot? s.hsm = some slotId) :
    (attemptToken env kind slotId entry fun stored ↦
      op.apply platform.crates env.call.token stored).Ensures s
        (HandleEffect platform env s request) := by
  have hrefused : ∀ t, SameBut s t → ∀ e, HandleEffect platform env s request (.error e) t := by
    rintro t ⟨hconfig, hhsm, hevents, hlog⟩ e
    refine ⟨hconfig, false, ?_, by simp [Except.toBool], .unrecorded hevents (by rw [hlog])⟩
    rw [hhsm]
    exact .refused (.refl _ _)
  refine Program.Ensures.bind (P := fun _ t ↦ SameBut s t) (setAttempts_sameBut s kind _)
    (fun e t ht ↦ hrefused t ht e) fun _ t ht ↦ ?_
  refine ensures_onCore (getToken_ensures slotId t.hsm) (fun e hsm h ↦ ?_) fun stored hsm h ↦ ?_
  · obtain ⟨rfl, -⟩ := h
    exact hrefused t ht e
  obtain ⟨rfl, hstored⟩ := h
  have hslot : t.hsm.storedToken slotId = some stored := hstored stored rfl
  -- the clearing and the recording of an attempt leave the rest of the service alone
  have hafter : ∀ t', SameBut { t with
        hsm := t.hsm.setStoredToken slotId (op.apply platform.crates env.call.token stored).2 } t' →
      t'.config = s.config ∧ t'.refusedEvents = s.refusedEvents ∧
        CoreEffect platform env s.hsm request
          (op.apply platform.crates env.call.token stored).1.isOk t'.hsm ∧
        RunsToken platform env s.hsm request t'.hsm := by
    intro t' ht'
    rw [ht'.hsm_eq, ht'.config_eq, ht'.refusedEvents_eq]
    refine ⟨ht.config_eq, ht.refusedEvents_eq, ?_⟩
    rw [ht.hsm_eq] at hslot ⊢
    exact ⟨.tokenRun hop hrequest hslot, op, slotId, stored, hop, hrequest, hslot, rfl⟩
  refine ensures_onCore (P := fun answer hsm ↦
    answer = .ok (op.apply platform.crates env.call.token stored).1 ∧
      hsm = t.hsm.setStoredToken slotId (op.apply platform.crates env.call.token stored).2)
    (by simp [Program.Ensures, tryToken, hslot]) (fun e hsm h ↦ by cases h.1) ?_
  rintro result hsm ⟨hresult, rfl⟩
  rw [← Except.ok.inj hresult] at hafter
  cases result with
  | ok u =>
    refine ensures_onAttempts_ok fun t' ht' ↦ ?_
    obtain ⟨hconfig, hevents, hcore, -⟩ := hafter t' ht'
    refine ensures_audit (fun e auditLog event ↦ ?_) fun auditLog ↦ ?_
    · refine ⟨hconfig, true, hcore, fun _ ↦ rfl, .refused ?_ rfl (Or.inl rfl)⟩
      rw [← hevents]
      exact List.cons_ne_self _ _
    · exact ⟨hconfig, true, hcore, fun _ ↦ rfl, .handed hevents (Or.inl rfl)⟩
  | error e =>
    refine ensures_onAttempts_ok fun t' ht' ↦ ?_
    obtain ⟨hconfig, hevents, hcore, hran⟩ := hafter t' ht'
    change HandleEffect platform env s request _ (audit env entry (.failure 0) t').2
    rcases audit_eq env t' entry (.failure 0) with ⟨auditLog, heq⟩ | ⟨auditLog, heq⟩ <;> rw [heq]
    · exact ⟨hconfig, false, hcore, by simp [Except.toBool],
        .handed hevents (Or.inr ⟨rfl, hrecords, hran⟩)⟩
    · refine ⟨hconfig, false, hcore, by simp [Except.toBool],
        .refused ?_ rfl (Or.inr ⟨hrecords, hran⟩)⟩
      rw [← hevents]
      exact List.cons_ne_self _ _

theorem login_effect (session userType : Nat) (pin : Bytes) :
    (login platform env session userType pin).Ensures s
      (HandleEffect platform env s (.login session userType pin)) := by
  have hrefused : ∀ e, HandleEffect platform env s (.login session userType pin) (.error e) s :=
    fun e ↦ ⟨rfl, false, .refused (.refl _ _), by simp [Except.toBool], .unrecorded rfl rfl⟩
  refine ensures_require (hrefused _) fun _ ↦ ?_
  refine ensures_onCore (requireSession_ensures session s.hsm) (fun e hsm h ↦ ?_)
    fun slotId hsm h ↦ ?_
  · obtain ⟨rfl, -⟩ := h
    exact hrefused e
  · obtain ⟨rfl, hslot⟩ := h
    obtain ⟨found, hfound, rfl⟩ := hslot slotId rfl
    exact attemptToken_effect (.login userType pin) rfl rfl (slot?_of_session rfl rfl hfound)

/-- Every request has an effect of the listed kinds. -/
theorem Request.handle_effect (request : Request) :
    (request.handle platform env).Ensures s (HandleEffect platform env s request) := by
  cases request with
  | openSession slotId readWrite => exact audited_effect (openSession_effect slotId readWrite)
  | closeSession session => exact audited_effect (closeSession_effect session)
  | login session userType pin => exact login_effect session userType pin
  | logout session => exact audited_effect (logout_effect session)
  | initToken slotId soPin label =>
    exact attemptToken_effect (.initToken soPin (labelBytes label)) rfl rfl rfl
  | generateKey session mechanism template =>
    exact audited_effect ((generateKey_makes session mechanism template).mono
      fun _ _ h ↦ h.effect rfl)
  | generateKeyPair session mechanism pubTemplate privTemplate =>
    exact audited_effect (generateKeyPair_effect session mechanism pubTemplate privTemplate)
  | destroyObject session object => exact audited_effect (destroyObject_effect session object)
  | unwrapKey session mechanism unwrappingKey wrapped template =>
    exact audited_effect ((unwrapKey_makes session mechanism unwrappingKey wrapped template).mono
      fun _ _ h ↦ h.effect rfl)
  | deriveKey session mechanism baseKey template =>
    exact audited_effect ((deriveKey_makes session mechanism baseKey template).mono
      fun _ _ h ↦ h.effect rfl)
  | copyObject session object template =>
    exact audited_effect ((copyObject_makes session object template).mono fun _ _ h ↦ h.effect rfl)
  | initPin session pin => exact audited_effect (initPin_effect session pin)
  | setPin session oldPin newPin => exact audited_effect (setPin_effect session oldPin newPin)
  | findObjects | generateRandom =>
    refine audited_effect (Reading.effect ?_ rfl)
    repeat' first | exact fun _ ht ↦ ht | refine Reading.bind ?_ fun _ ↦ ?_
  | getTokenInfo | digest =>
    refine onCore_effect (Reading.effect ?_ rfl)
    repeat' first | exact fun _ ht ↦ ht | refine Reading.bind ?_ fun _ ↦ ?_
  | getAttributeValue =>
    refine audited_effect (Reading.effect ?_ rfl)
    repeat' first | exact fun _ ht ↦ ht | split | refine Reading.bind ?_ fun _ ↦ ?_
  | sign | verify | encrypt | decrypt | wrapKey =>
    refine audited_effect (Reading.effect ?_ rfl)
    repeat' first
      | exact fun _ ht ↦ ht
      | exact Reading.onStatics
      | exact Reading.noteUse List.mem_cons_self ‹_›
      | exact Reading.noteUse (List.mem_cons_of_mem _ List.mem_cons_self) ‹_›
      | refine Reading.objectOfSlot fun _ _ ↦ ?_
      | refine Reading.bind ?_ fun _ ↦ ?_
  | healthCheck =>
    exact ⟨rfl, true, .touched (.refl _ _) fun _ ↦ rfl, fun _ ↦ rfl, .unrecorded rfl rfl⟩

/-- The core after a request is one that an effect of the request leaves. -/
theorem HsmService.step_effect (platform : Platform) (s : HsmService)
    (request : RequestEnv × Request) :
    ∃ done, CoreEffect platform request.1 s.hsm request.2 done (s.step platform request).hsm :=
  (request.2.handle_effect (s := s)).core.imp fun _ h ↦ h.1

/-- What the effects of guarded requests preserve of the core holds after every guarded run. -/
theorem run_invariant (inv : Hsm → Prop) {guard : HsmService → RequestEnv × Request → Prop}
    (hstep : ∀ s request done t, inv s.hsm → guard s request →
      CoreEffect platform request.1 s.hsm request.2 done t → inv t)
    {requests : List (RequestEnv × Request)} (hs : inv s.hsm)
    (hrun : FoldMeets (HsmService.step platform) guard s requests) :
    inv (s.run platform requests).hsm := by
  have hpreserves (u : HsmService) (request : RequestEnv × Request) (hu : inv u.hsm)
      (hguard : guard u request) : inv (u.step platform request).hsm := by
    obtain ⟨done, heffect⟩ := u.step_effect platform request
    exact hstep u request done _ hu hguard heffect
  exact @foldl_invariant _ _ guard (fun u ↦ inv u.hsm) _ hpreserves requests s hs hrun

end Handlers

end Daemon

end CratonHsm
