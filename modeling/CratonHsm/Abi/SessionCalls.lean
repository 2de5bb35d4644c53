import CratonHsm.Abi.ObjectCalls

/-!
# Slot, token and session entry points

`C_InitToken`, `C_InitPIN`, `C_SetPIN`, `C_OpenSession`, `C_CloseSession`, `C_CloseAllSessions`,
`C_Login` and `C_Logout` of `pkcs11_abi/functions.rs`, each with its effects in the order of the
source.
-/

set_option autoImplicit false

namespace CratonHsm

open Crypto Crypto.Encrypt Library Store

/-- `MAX_PIN_BYTES`. -/
def maxPinBytes : Nat := 256

section Calls

variable (crates : Crates) (codec : ObjectCodec) (env : CallEnv) (slotId session : Nat)

/-- `C_InitToken`. Sessions, objects, the persistence key and the cipher tables are erased before
the token looks at the PIN. -/
def cInitToken (pin : Bytes) (label : FixedBytes 32) : Entry := do
  getHsm
  let _ ← getToken slotId
  .require (pin.length ≤ maxPinBytes) .pinLenRange
  onSessions slotId fun manager token ↦ (.ok (), manager.closeAllSessions slotId token)
  .update fun s ↦ { s with objectStore := s.objectStore.clear env.first.writes }
  .update fun s ↦ { s with objectStore := s.objectStore.clearPersistKey }
  .update fun s ↦ { s with statics := forceResetAllCounters s.statics }
  onToken slotId fun stored ↦ stored.initToken crates env.token pin label
  return .done

/-- `C_InitPIN`. -/
def cInitPIN (pin : Bytes) : Entry := do
  getHsm
  let session ← getSession session
  let _ ← getToken session.slotId
  .require session.state.isSo .userNotLoggedIn
  .require (pin.length ≤ maxPinBytes) .pinLenRange
  onToken session.slotId fun stored ↦ stored.initPin crates env.token pin
  return .done

/-- `C_SetPIN`. -/
def cSetPIN (oldPin newPin : Bytes) : Entry := do
  getHsm
  let session ← getSession session
  let _ ← getToken session.slotId
  .require (oldPin.length ≤ maxPinBytes ∧ newPin.length ≤ maxPinBytes) .pinLenRange
  onToken session.slotId fun stored ↦ stored.setPin crates env.token oldPin newPin
  return .done

/-- `C_OpenSession`. -/
def cOpenSession (flags : Nat) : Entry := do
  getHsm
  let _ ← getToken slotId
  let handle ← onSessions slotId fun manager token ↦ manager.openSession slotId flags token
  return .handle handle

/-- `C_CloseSession`. -/
def cCloseSession (handle : Nat) : Entry := do
  getHsm
  let session ← getSession handle
  let _ ← getToken session.slotId
  onSessions session.slotId fun manager token ↦ manager.closeSession handle token
  return .done

/-- `C_CloseAllSessions`. The token stays logged in. -/
def cCloseAllSessions : Entry := do
  getHsm
  let _ ← getToken slotId
  onSessions slotId fun manager token ↦ (.ok (), manager.closeAllSessions slotId token)
  return .done

/-- The user types that `login_all` accepts. -/
def roleOfUserType (userType : Nat) : Option Role :=
  if userType = ckuUser then some .user else if userType = ckuSo then some .so else none

theorem roleOfUserType_eq (role : Role) : roleOfUserType role.userType = some role := by
  cases role <;> decide

/-- The part of `C_Login` that carries a login of the token to the sessions of its slot; the error
of `login_all` is ignored. -/
def loginSessions (userType : Nat) (s : Hsm) : Hsm :=
  match roleOfUserType userType with
  | some role => { s with sessionManager := (s.sessionManager.loginAll slotId role).2 }
  | none => s

/-- The part of `C_Login` that unwraps the object key and loads the persisted objects; an error is
logged and ignored. -/
def loadPersisted (userType : Nat) (pin : Bytes) (s : Hsm) : Hsm :=
  if s.persistObjects && userType = ckuUser then
    match (s.storedToken slotId).bind fun stored ↦ stored.token.unwrapObjectKey crates pin with
    | some key =>
      { s with objectStore := ((s.objectStore.setPersistKey key).loadFromStore crates codec).2 }
    | none => s
  else s

theorem loadPersisted_eq (userType : Nat) (pin : Bytes) (s : Hsm) :
    ∃ store, loadPersisted crates codec slotId userType pin s =
      { s with objectStore := store } := by
  unfold loadPersisted
  split_ifs
  · split
    · exact ⟨_, rfl⟩
    · exact ⟨s.objectStore, rfl⟩
  · exact ⟨s.objectStore, rfl⟩

/-- `C_Login`. -/
def cLogin (userType : Nat) (pin : Bytes) : Entry := do
  getHsm
  let session ← getSession session
  let _ ← getToken session.slotId
  let hasRoSessions ← .view fun s ↦ s.sessionManager.hasRoSessions session.slotId
  .require (¬(userType = ckuSo ∧ hasRoSessions)) .sessionReadOnlyExists
  .require (pin.length ≤ maxPinBytes) .pinLenRange
  onToken session.slotId fun stored ↦ stored.login crates env.token userType pin
  .update (loginSessions session.slotId userType)
  .update (loadPersisted crates codec session.slotId userType pin)
  return .done

/-- `C_Logout`. -/
def cLogout : Entry := do
  getHsm
  let session ← getSession session
  let _ ← getToken session.slotId
  onToken session.slotId fun stored ↦ stored.logout env.token
  .update fun s ↦
    { s with sessionManager := s.sessionManager.cancelSessionsForSlot session.slotId }
  .update fun s ↦ { s with objectStore := s.objectStore.clearPersistKey }
  return .done

end Calls

/-! ### A concrete session -/

/-- The handle of the first session of a concrete library. -/
def firstSession : Nat := 30064771105

/-- The handle of the first object of a concrete library. -/
def firstObject : Nat := 1009317316705

/-- A token is initialised, its security officer sets the user PIN on a read-write session, and the
user logs in there. -/
def userLibrary (persistObjects : Bool) : Hsm :=
  let platform := Platform.recorded [] []
  let entries : List Entry :=
    [cInitToken platform.crates (callEnvAt 0) 0 soPin1 blankLabel,
      cOpenSession 0 (ckfSerialSession + ckfRwSession),
      cLogin platform.crates platform.codec (callEnvAt 1) firstSession ckuSo soPin1,
      cInitPIN platform.crates (callEnvAt 2) firstSession user01,
      cLogout (callEnvAt 3) firstSession,
      cLogin platform.crates platform.codec (callEnvAt 4) firstSession ckuUser user01]
  entries.foldl (fun s entry ↦ (entry s).2)
    (.cInitialize (.singleSlot persistObjects) .blank .empty .sample)

/-- The library of a logged-in user with a private EC key for signatures. -/
def signerLibrary : Hsm :=
  (cCreateObject (Platform.recorded [] []).crates (Platform.recorded [] []).codec (callEnvAt 5)
    firstSession [(ckaClass, ckUlongToBytes ckoPrivateKey), (ckaKeyType, ckUlongToBytes ckkEc),
      (ckaSign, [1]), (ckaValue, List.replicate 32 7)] (userLibrary false)).2

end CratonHsm
