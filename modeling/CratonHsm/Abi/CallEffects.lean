import CratonHsm.Abi.Calls
import CratonHsm.Abi.ObjectEffects

/-!
# What every call does to the object store

`Call.entry_store` puts the calls together: a call makes objects, writes one, destroys one, erases
the store, loads its records, forgets the persistence key, or leaves the store as it is
(`StoreChange`). An invariant of the objects along a run is a case analysis over these.

The calls on operations, the searches and the reading calls leave the store alone. They are walked
down step by step, and no step of theirs writes it (`Program.Keeps`).
-/

set_option autoImplicit false

namespace CratonHsm

open Crypto Crypto.Encrypt Library Session Store
open Program (Keeps keeps_pure keeps_fail keeps_require keeps_reads keeps_view keeps_update
  ensures_require_iff ensures_reads_iff ensures_view ensures_update ensures_pure)

/-! ### Changes of the store -/

/-- The calls that make objects. -/
def Call.makesObjects : Call → Bool
  | .createObject .. | .copyObject .. | .generateKey .. | .generateKeyPair .. | .unwrapKey ..
  | .deriveKey .. => true
  | _ => false

/-- What a call does to the object store. -/
inductive StoreChange (platform : Platform) (env : CallEnv) (store : ObjectStore) :
    Call → ObjectStore → Prop
  | same (call : Call) : StoreChange platform env store call store
  | created {call : Call} (hmakes : call.makesObjects = true) (handleAlloc : ObjectHandleAllocator)
    (made : List (StoreDraw × StoredObject)) :
    StoreChange platform env store call
      ({ store with handleAlloc := handleAlloc }.addAll platform.crates platform.codec made)
  | changed {session object ref : Nat} {template : Template} {obj : StoredObject}
    (href : store.objects.refs[object]? = some ref) (hobj : store.objects.get? object = some obj) :
    StoreChange platform env store (.setAttributeValue session object template)
      { store with objects := store.objects.modify ref fun _ ↦ (setAttributes obj template).2 }
  | destroyed {session object : Nat} :
    StoreChange platform env store (.destroyObject session object)
      ({ store with objects := store.objects.erase object }.unpersistObject env.first object)
  | cleared {slotId : Nat} {pin : Bytes} {label : FixedBytes 32} :
    StoreChange platform env store (.slotCall (.initToken slotId pin label))
      (store.clear env.first.writes).clearPersistKey
  | loaded {session userType : Nat} {pin : Bytes} (key : FixedBytes 32) :
    StoreChange platform env store (.slotCall (.login session userType pin))
      ((store.setPersistKey key).loadFromStore platform.crates platform.codec).2
  | locked {session : Nat} :
    StoreChange platform env store (.slotCall (.logout session)) store.clearPersistKey

section Calls

variable {platform : Platform} {env : CallEnv} {s : Hsm} {call : Call}

theorem StoreChange.of_creates {store store' : ObjectStore} (hmakes : call.makesObjects = true)
    (h : ∃ made, Creates platform made store store') :
    StoreChange platform env store call store' := by
  obtain ⟨made, handleAlloc, rfl⟩ := h
  exact .created hmakes handleAlloc made

theorem Makes.storeChange (hmakes : call.makesObjects = true) {draw : StoreDraw}
    {P : Nat → StoredObject → Prop} {answer : Except CkRv Reply} {s' : Hsm}
    (h : Makes platform draw P s answer s') :
    StoreChange platform env s.objectStore call s'.objectStore :=
  .of_creates hmakes h.creates

/-- `C_SetAttributeValue` writes the object as far as its loop comes. -/
theorem cSetAttributeValue_changes (session object : Nat) (template : Template) :
    (cSetAttributeValue session object template).Ensures s fun _ s' ↦
      StoreChange platform env s.objectStore (.setAttributeValue session object template)
        s'.objectStore := by
  simp only [cSetAttributeValue, requireRw, requireLoginFor, ensures_getHsm, ensures_getSession,
    ensures_getObject, ensures_require_iff, ensures_reads_iff, StoreChange.same, implies_true,
    true_and]
  intro _ x hsession _ obj hobj _ _ parsed hparse
  obtain rfl := parseTemplate_eq_ok hparse
  obtain ⟨ref, href, -⟩ := s.objectStore.objects.get?_eq_some_iff.mp hobj
  rw [putObject, ensures_update]
  simp only [href]
  exact Program.ensures_reads (fun _ ↦ .changed href hobj) fun _ _ ↦ StoreChange.changed href hobj

/-- `C_DestroyObject` removes the object and its record. -/
theorem cDestroyObject_destroys (session object : Nat) :
    (cDestroyObject platform.crates env session object).Ensures s fun _ s' ↦
      StoreChange platform env s.objectStore (.destroyObject session object) s'.objectStore := by
  simp only [cDestroyObject, requireRw, ensures_getHsm, ensures_getSession, ensures_getObject,
    ensures_require_iff, StoreChange.same, implies_true, true_and]
  intro _ x hsession _ obj hobj hdestroyable
  unfold Program.Ensures
  rw [Program.bind_apply]
  simp only [onStore, ObjectStore.destroyObject, hobj, hdestroyable, Bool.not_true,
    Bool.false_eq_true, if_false, toAbi]
  exact .destroyed

/-! ### Calls on slots, tokens and sessions -/

variable {slotId handle : Nat} {session : Session}

theorem keeps_onToken {operation : StoredToken → HsmResult Unit × StoredToken} :
    (onToken slotId operation).Keeps Hsm.objectStore := by
  intro s
  unfold onToken
  split <;> rfl

theorem keeps_onSessions {Result : Type}
    {operation : SessionManager → Token → HsmResult Result × SessionManager × Token} :
    (onSessions slotId operation).Keeps Hsm.objectStore := by
  intro s
  unfold onSessions
  split <;> rfl

/-- `C_InitToken` erases the store once the sessions are closed. -/
theorem cInitToken_clears (slotId : Nat) (pin : Bytes) (label : FixedBytes 32) :
    (cInitToken platform.crates env slotId pin label).Ensures s fun _ s' ↦
      StoreChange platform env s.objectStore (.slotCall (.initToken slotId pin label))
        s'.objectStore := by
  simp only [cInitToken, ensures_getHsm, ensures_getToken, ensures_require_iff, StoreChange.same,
    implies_true, true_and]
  intro _ stored hslot _
  refine ensures_onSessions hslot (fun _ _ _ hrun ↦ by simp at hrun) fun _ manager token hrun ↦ ?_
  simp only [ensures_update]
  have hslot' : ({ s with sessionManager := manager }.setStoredToken slotId
      { stored with token := token }).storedToken slotId = some { stored with token := token } :=
    Hsm.storedToken_setStoredToken hslot
  exact ensures_onToken hslot' (fun _ _ ↦ .cleared) fun _ ↦ StoreChange.cleared

/-- `C_Logout` forgets the persistence key. -/
theorem cLogout_locks (session : Nat) :
    (cLogout env session).Ensures s fun _ s' ↦
      StoreChange platform env s.objectStore (.slotCall (.logout session)) s'.objectStore := by
  simp only [cLogout, ensures_getHsm, ensures_getSession, ensures_getToken, StoreChange.same,
    implies_true, true_and]
  intro _ found _ stored hslot
  exact ensures_onToken hslot (fun _ _ ↦ .same _) fun _ ↦ StoreChange.locked

theorem loginSessions_objectStore (slotId userType : Nat) (s : Hsm) :
    (loginSessions slotId userType s).objectStore = s.objectStore := by
  unfold loginSessions
  split <;> rfl

/-- `C_Login` loads the records with the key of the user. -/
theorem cLogin_loads (session userType : Nat) (pin : Bytes) :
    (cLogin platform.crates platform.codec env session userType pin).Ensures s fun _ s' ↦
      StoreChange platform env s.objectStore (.slotCall (.login session userType pin))
        s'.objectStore := by
  simp only [cLogin, ensures_getHsm, ensures_getSession, ensures_getToken, ensures_view,
    ensures_require_iff, StoreChange.same, implies_true, true_and]
  intro _ found _ stored hslot _ _
  refine ensures_onToken hslot (fun _ _ ↦ .same _) fun _ ↦ ?_
  simp only [ensures_update, ensures_pure]
  have hstore := loginSessions_objectStore found.slotId userType
    (s.setStoredToken found.slotId (stored.login platform.crates env.token userType pin).2)
  generalize loginSessions found.slotId userType _ = logged at hstore ⊢
  have hsame : logged.objectStore = s.objectStore := hstore
  unfold loadPersisted
  rw [← hsame]
  split_ifs
  · split
    · exact .loaded _
    · exact .same _
  · exact .same _

/-! ### Calls that leave the objects alone -/

theorem keeps_orAbort {Result : Type} {f : Hsm → Except CkRv Result} :
    (orAbort handle session f).Keeps Hsm.objectStore := by
  intro s
  unfold orAbort
  split <;> rfl

theorem keeps_runCipher {run : CipherStatics → Except CkRv Bytes × CipherStatics} :
    (runCipher handle session run).Keeps Hsm.objectStore :=
  .bind keeps_view fun _ ↦ .bind (keeps_update fun _ ↦ rfl) fun _ ↦ keeps_orAbort

end Calls

/-- The calls that do not touch the object store. -/
def Call.leavesObjects : Call → Bool
  | .slotCall (.initToken ..) | .slotCall (.login ..) | .slotCall (.logout ..) | .destroyObject ..
  | .setAttributeValue .. => false
  | call => !call.makesObjects

section Keeps

variable {platform : Platform} {env : CallEnv} {s : Hsm}

theorem Call.entry_keeps {call : Call} (h : call.leavesObjects = true) :
    (call.entry platform env).Keeps Hsm.objectStore := by
  cases call
  all_goals try cases ‹SessionCall›
  all_goals cases h
  all_goals try cases ‹OperationType›
  -- what is left are the programs of the calls, each a chain of steps that do not write the store
  all_goals repeat' first
    | with_reducible refine Keeps.bind ?_ fun _ ↦ ?_
    | with_reducible exact keeps_pure
    | with_reducible exact keeps_fail
    | with_reducible exact keeps_orAbort
    | with_reducible exact keeps_runCipher
    | with_reducible exact keeps_onToken
    | with_reducible exact keeps_onSessions
    | split
    | exact keeps_reads
    | exact keeps_require
    | exact keeps_update fun _ ↦ rfl
    | exact keeps_orAbort
    | refine Keeps.bind ?_ fun _ ↦ ?_

/-- What every call does to the object store. -/
theorem Call.entry_store (call : Call) :
    (call.entry platform env).Ensures s fun _ s' ↦
      StoreChange platform env s.objectStore call s'.objectStore := by
  by_cases hleaves : call.leavesObjects = true
  · have hsame : ((call.entry platform env s).2).objectStore = s.objectStore :=
      Call.entry_keeps hleaves s
    exact hsame ▸ .same call
  · cases call with
    | createObject session template =>
      exact (cCreateObject_makes template).mono fun _ _ h ↦ h.storeChange rfl
    | copyObject session object template =>
      exact (cCopyObject_makes object template).mono fun _ _ h ↦ h.storeChange rfl
    | generateKey session mechanism template =>
      exact (cGenerateKey_makes mechanism template).mono fun _ _ h ↦ h.storeChange rfl
    | generateKeyPair session mechanism pubTemplate privTemplate =>
      exact (cGenerateKeyPair_creates mechanism pubTemplate privTemplate).mono
        fun _ _ h ↦ .of_creates rfl h
    | unwrapKey session mechanism unwrappingKey wrapped template =>
      exact (cUnwrapKey_makes mechanism unwrappingKey wrapped template).mono
        fun _ _ h ↦ h.storeChange rfl
    | deriveKey session mechanism mechanismParam baseKey template =>
      exact (cDeriveKey_makes mechanism mechanismParam baseKey template).mono
        fun _ _ h ↦ h.storeChange rfl
    | destroyObject session object => exact cDestroyObject_destroys session object
    | setAttributeValue session object template =>
      exact cSetAttributeValue_changes session object template
    | slotCall call =>
      cases call with
      | initToken slotId pin label => exact cInitToken_clears slotId pin label
      | login session userType pin => exact cLogin_loads session userType pin
      | logout session => exact cLogout_locks session
      | _ => exact absurd rfl hleaves
    | _ => exact absurd rfl hleaves

end Keeps

end CratonHsm
