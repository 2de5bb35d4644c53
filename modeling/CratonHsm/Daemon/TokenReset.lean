import CratonHsm.Abi.InitTokenFailure
import CratonHsm.Daemon.Effects
import CratonHsm.Store.Places

/-!
# What InitToken leaves behind

`InitToken` of the daemon resets the token of its slot and nothing else. `C_InitToken` resets the
same token after it has closed the sessions of the slot, emptied the object store and dropped the
persist key; the daemon takes none of these steps, so a reset leaves nothing of the old token behind
only if there was nothing to leave: no open session of the slot, no object, no persist key.
-/

set_option autoImplicit false

namespace CratonHsm.Daemon

open Crypto Library Session Store
open Std (ExtTreeMap)

/-! ### Refused sessions -/

/-- The program stopped with an error and has changed nothing. -/
def Stopped {State Result : Type} (s : State) (answer : Except Status Result) (t : State) : Prop :=
  (∃ e, answer = .error e) ∧ t = s

/-- Every request that names the session is refused and changes nothing. -/
def HsmService.RefusesSession (platform : Platform) (s : HsmService) (handle : Nat) : Prop :=
  ∀ (env : RequestEnv) (request : Request), request.session? = some handle →
    Stopped s (request.handle platform env s).1 (request.handle platform env s).2

/-! ### What later requests reach -/

section Later

variable {platform : Platform} {stored : StoredToken}

/-- The request opens a session and takes this handle for it. -/
def HsmService.Issues (s : HsmService) (handle : Nat) (request : Request) : Prop :=
  (∃ slotId readWrite, request = .openSession slotId readWrite) ∧
    s.hsm.sessionManager.handleAlloc.allocate.1 = handle

/-- A handle of the store stands for an object that was created in an earlier state of it. -/
def StandsForOld (earlier store : ObjectStore) (handle : Nat) : Prop :=
  ∃ ref, store.objects.refs[handle]? = some ref ∧ ref < earlier.objects.cells.length

theorem run_evolves (s : HsmService) (later : List (RequestEnv × Request)) :
    s.hsm.objectStore.objects.Evolves (s.run platform later).hsm.objectStore.objects :=
  run_invariant (fun t ↦ s.hsm.objectStore.objects.Evolves t.objectStore.objects)
    (fun _ _ _ _ hu (_ : True) heffect ↦ heffect.evolves hu) (.refl _)
    (.of_always fun _ _ _ ↦ trivial)

theorem run_cells_extend (s : HsmService) (requests : List (RequestEnv × Request)) :
    s.hsm.objectStore.objects.cells <+: (s.run platform
      requests).hsm.objectStore.objects.cells := by
  refine run_invariant (fun t ↦ s.hsm.objectStore.objects.cells <+: t.objectStore.objects.cells)
    (fun u request done t hu (_ : True) heffect ↦ hu.trans ?_) List.prefix_rfl
    (.of_always fun _ _ _ ↦ trivial)
  obtain ⟨env, request⟩ := request
  cases heffect with
  | touched htouches _ => rw [htouches.objects_eq]
  | made htouches _ first others =>
    rw [← htouches.objects_eq]
    exact List.prefix_iff_getElem?.mpr fun _ hlt ↦
      ObjectStore.addAll_deref (List.getElem?_eq_getElem hlt)
  | destroyed _ =>
    rw [ObjectStore.unpersistObject_objects]
    exact List.prefix_rfl
  | opened _ _ | closed _ _ _ | tokenRun _ _ _ => exact List.prefix_rfl

/-- No request changes an object or takes it from who holds it, and a handle that stands for an old
object has stood for it all along: requests unbind handles, and bind them to what they make. -/
theorem cells_kept (platform : Platform) (s : HsmService) (requests : List (RequestEnv × Request)) :
    let before := s.hsm.objectStore.objects
    let after := (s.run platform requests).hsm.objectStore.objects
    before.cells <+: after.cells ∧ ∀ handle ref : Nat, after.refs[handle]? = some ref →
      ref < before.cells.length → before.refs[handle]? = some ref :=
  ⟨run_cells_extend s requests, fun _ _ ↦ (run_evolves s requests).refs_old⟩

/-- Nothing of the token of a slot, and no object, is left of the state `s` in the state `s'`: the
sessions of the slot are refused ever after, unless their handle is given out again; no handle ever
stands for an object that was there; there is no persist key. -/
structure NothingLeft (platform : Platform) (slotId : Nat) (s s' : HsmService) : Prop where
  sessions : ∀ (handle : Nat) (found : CratonHsm.Session),
    s.hsm.sessionManager.sessions[handle]? = some found → found.slotId = slotId →
      ∀ later, FoldMeets (HsmService.step platform)
        (fun u request ↦ ¬u.Issues handle request.2) s' later →
          (s'.run platform later).RefusesSession platform handle
  objects : ∀ later handle,
    ¬StandsForOld s.hsm.objectStore (s'.run platform later).hsm.objectStore handle
  persistKey : s'.hsm.objectStore.persistKey = none

/-- There is nothing of the token of a slot that could be left. -/
structure NothingThere (slotId : Nat) (s : Hsm) : Prop where
  sessions : ∀ (handle : Nat) (found : CratonHsm.Session),
    s.sessionManager.sessions[handle]? = some found → found.slotId ≠ slotId
  objects : s.objectStore.objects.refs = ∅
  persistKey : s.objectStore.persistKey = none

variable {env : RequestEnv} {s : HsmService} {slotId handle : Nat} {soPin label : Bytes}
  {found : CratonHsm.Session}

/-- A successful `InitToken` has reset the token, and the rest of the core is as it was. -/
theorem initToken_core
    (hok : ((Request.initToken slotId soPin label).handle platform env s).1.isOk = true) :
    ∃ stored stored', s.hsm.storedToken slotId = some stored ∧
      ((Request.initToken slotId soPin label).handle platform env s).2.hsm =
        s.hsm.setStoredToken slotId stored' := by
  obtain ⟨done, heffect, hdone, -⟩ :=
    ((Request.initToken slotId soPin label).handle_effect (s := s)).core
  have hend := hdone hok
  generalize ((Request.initToken slotId soPin label).handle platform env s).2.hsm = t at heffect ⊢
  cases heffect with
  | touched _ hreads => cases hreads hend
  | made _ hmakes _ _ => cases hmakes
  | tokenRun _ hrequest hslot =>
    obtain rfl := Option.some.inj hrequest
    exact ⟨_, _, hslot, rfl⟩

theorem closeSession_closes {s : Hsm} (hsession : s.sessionManager.sessions[handle]? = some found)
    (hslot : s.storedToken found.slotId = some stored) :
    (closeSession handle s).2.sessionManager.sessions[handle]? = none := by
  have herased (result : HsmResult Unit) (manager : SessionManager) (token : Token)
      (hrun : s.sessionManager.closeSession handle stored.token = (result, manager, token)) :
      manager.sessions[handle]? = none := by
    simp only [SessionManager.closeSession, hsession, Prod.mk.injEq] at hrun
    obtain ⟨-, rfl, -⟩ := hrun
    exact (getElem?_erase_eq_ite ..).trans (if_pos rfl)
  rw [closeSession, requireSession_bind hsession, getToken_bind hslot]
  exact ensures_onSessions (Q := fun _ t ↦ t.sessionManager.sessions[handle]? = none) hslot
    (fun _ manager token ↦ herased _ manager token) fun _ manager token ↦ herased _ manager token

/-- An open session is not refused: at least it can be closed. -/
theorem not_refusesSession (hsession : s.hsm.sessionManager.sessions[handle]? = some found)
    (hslot : s.hsm.storedToken found.slotId = some stored) : ¬s.RefusesSession platform handle := by
  intro hrefuses
  obtain ⟨-, hstate⟩ := hrefuses (requestAt 0) (.closeSession handle) rfl
  have hclosed := closeSession_closes hsession hslot
  have hhsm : ((Request.closeSession handle).handle platform (requestAt 0) s).2.hsm =
      (closeSession handle s.hsm).2 := audited_hsm _ _ s
  rw [← hhsm, hstate, hsession] at hclosed
  cases hclosed

/-- A successful `InitToken` leaves nothing behind exactly when there was nothing. -/
theorem initToken_nothingLeft_iff
    (hok : ((Request.initToken slotId soPin label).handle platform env s).1.isOk = true) :
    NothingLeft platform slotId s ((Request.initToken slotId soPin label).handle platform env s).2 ↔
      NothingThere slotId s.hsm := by
  obtain ⟨stored, stored', hslot, hcore⟩ := initToken_core hok
  generalize ((Request.initToken slotId soPin label).handle platform env s).2 = s' at hcore ⊢
  have hsessions : s'.hsm.sessionManager = s.hsm.sessionManager := by rw [hcore]; rfl
  have hobjects : s'.hsm.objectStore = s.hsm.objectStore := by rw [hcore]; rfl
  have htoken : s'.hsm.storedToken slotId = some stored' := by
    rw [hcore]
    exact Hsm.storedToken_setStoredToken hslot
  constructor
  · intro hleft
    refine ⟨fun handle found hfound hmine ↦ ?_, ?_, ?_⟩
    · have hopen : s'.hsm.sessionManager.sessions[handle]? = some found := by rw [hsessions, hfound]
      exact not_refusesSession hopen (hmine ▸ htoken)
        (hleft.sessions handle found hfound hmine [] trivial)
    · refine ExtTreeMap.ext_getElem? fun handle ↦ ?_
      rw [ExtTreeMap.getElem?_empty]
      cases href : s.hsm.objectStore.objects.refs[handle]? with
      | none => rfl
      | some ref =>
        have hbound : s'.hsm.objectStore.objects.refs[handle]? = some ref := by rw [hobjects, href]
        exact absurd ⟨ref, hbound, s.hsm.objectStore.objects.refs_lt href⟩ (hleft.objects [] handle)
    · rw [← hobjects]
      exact hleft.persistKey
  · intro hthere
    refine ⟨fun handle found hfound hmine ↦ absurd hmine (hthere.sessions handle found hfound),
      ?_, ?_⟩
    · rintro later handle ⟨ref, href, hlt⟩
      have hold := (run_evolves s' later).refs_old href (by rwa [hobjects])
      rw [hobjects, hthere.objects] at hold
      simp at hold
    · rw [hobjects]
      exact hthere.persistKey

/-- The security officer has destroyed the key and closed the session. -/
def emptiedService : HsmService :=
  soService.run samplePlatform
    [(requestAt 3, .destroyObject firstSession firstObject),
      (requestAt 4, .closeSession firstSession)]

/-- On a token that was emptied before the reset there is nothing to leave. -/
theorem emptiedService_initToken_nothingLeft :
    NothingLeft samplePlatform 0 emptiedService
      ((Request.initToken 0 soPin1 []).handle samplePlatform (requestAt 9) emptiedService).2 := by
  have hsessions : emptiedService.hsm.sessionManager.sessions = ∅ :=
    ExtTreeMap.isEmpty_iff.mp (by decide +kernel)
  refine (initToken_nothingLeft_iff (by decide +kernel)).mpr ⟨fun handle found hfound ↦ ?_,
    ExtTreeMap.isEmpty_iff.mp (by decide +kernel), by decide +kernel⟩
  simp [hsessions] at hfound

/-- The security officer resets the token on which a session is open and a key was generated. The
session is accepted afterwards, also for a new login, and finds the key. -/
theorem initToken_keepsSessionsAndObjects :
    let reset := (Request.initToken 0 soPin1 []).handle samplePlatform (requestAt 10) soService
    let login := (Request.login firstSession ckuSo soPin1).handle samplePlatform
      (requestAt 20) reset.2
    let found := (Request.findObjects firstSession [] 0).handle samplePlatform
      (requestAt 30) login.2
    reset.1 = .ok .done ∧ login.1 = .ok .done ∧ found.1 = .ok (.handles [firstObject]) ∧
      ¬NothingLeft samplePlatform 0 soService reset.2 := by
  refine ⟨by decide +kernel, by decide +kernel, by decide +kernel, fun hleft ↦ ?_⟩
  exact hleft.objects [] firstObject ⟨0, by decide +kernel, by decide +kernel⟩

end Later

end CratonHsm.Daemon
