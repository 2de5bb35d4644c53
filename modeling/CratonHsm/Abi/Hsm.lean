import CratonHsm.Crypto.Backend
import CratonHsm.Store.ObjectStore
import CratonHsm.Token.Outcomes

/-!
# The library behind the entry points

The state that the `C_*` functions share (`Hsm`): the tokens of all slots with their files, the
session table, the object store with its database, and the process-wide tables of the ciphers. An
entry point is a `Program` over this state: it may fail half-way, and what it has changed by then
stays changed.

The field `keyUses` is a history variable: the objects that the calls have used as keys, newest
first, each with what for. No function reads it.

Scope. The entry points are modelled on an initialised library; `Hsm.cInitialize` is what
`C_Initialize` builds from the configuration and the disk, and `Hsm.disk` is what `C_Finalize` and
the end of the process leave. Checks for null pointers other than output buffers, the fork check,
the audit log and the caches of parsed keys are left out.
-/

set_option autoImplicit false

namespace CratonHsm

open Crypto Crypto.Encrypt Library Session Store
open Std (ExtTreeMap)

/-! ### State -/

/-- A slot: its token and the state file of the token. The lockout file is shared by all slots. -/
structure Slot where
  token : Token
  stateFile : StoredFile TokenStateData

/-- The settings an initialisation reads. -/
structure HsmConfig where
  slots : List TokenConfig
  persistObjects : Bool
  algorithms : AlgorithmConfig

/-- What survives the process. -/
structure Disk where
  lockout : StoredFile LockoutData
  tokenStates : List (StoredFile TokenStateData)
  records : ExtTreeMap Nat Bytes

/-- What an object is used for: an operation of a key, or its own bytes as data that are wrapped or
digested. -/
inductive KeyRole where
  | operation (use : KeyUse)
  | wrapped
  | digested
  deriving DecidableEq

/-- A use of an object as a key. -/
structure UsedKey where
  role : KeyRole
  obj : StoredObject
  deriving DecidableEq

/-- `HsmCore`, with the process-wide `POST_FAILED` and cipher tables. -/
structure Hsm where
  slots : List Slot
  lockoutFile : StoredFile LockoutData
  sessionManager : SessionManager
  objectStore : ObjectStore
  algorithmConfig : AlgorithmConfig
  stateHmacKey : FixedBytes 32
  persistObjects : Bool
  statics : CipherStatics
  postFailed : Bool
  keyUses : List UsedKey

/-- What an initialisation draws: the round keys of the two handle allocators and the key that
authenticates operation states. -/
structure InitDraw where
  sessionScrambler : HandleScrambler
  objectScrambler : HandleScrambler
  stateHmacKey : FixedBytes 32

/-- `C_Initialize` with a self-test that passes: tokens come from their files, and the encryption
counters of the process stay. -/
def Hsm.cInitialize (config : HsmConfig) (disk : Disk) (statics : CipherStatics) (draw : InitDraw) :
    Hsm where
  slots := config.slots.mapIdx fun slotId token ↦
    let stateFile := disk.tokenStates.getD slotId .missing
    ⟨.load token ⟨disk.lockout, stateFile⟩, stateFile⟩
  lockoutFile := disk.lockout
  sessionManager := .new draw.sessionScrambler
  objectStore := .new draw.objectScrambler config.persistObjects disk.records
  algorithmConfig := config.algorithms
  stateHmacKey := draw.stateHmacKey
  persistObjects := config.persistObjects
  statics := resetGcmCounters statics
  postFailed := false
  keyUses := []

variable (s : Hsm) (slotId : Nat)

/-- The files and the database. -/
def Hsm.disk : Disk := ⟨s.lockoutFile, s.slots.map Slot.stateFile, s.objectStore.records⟩

/-- The token of a slot with its files. -/
def Hsm.storedToken : Option StoredToken :=
  s.slots[slotId]?.map fun slot ↦ ⟨slot.token, ⟨s.lockoutFile, slot.stateFile⟩⟩

/-- Replace the token of a slot and its files. -/
def Hsm.setStoredToken (stored : StoredToken) : Hsm :=
  { s with
    slots := s.slots.set slotId ⟨stored.token, stored.files.state⟩
    lockoutFile := stored.files.lockout }

/-! ### Entry points -/

/-- What the library is linked with: the primitives and the back end, the JSON encoding of objects,
and HMAC-SHA-256 under a key. -/
structure Platform where
  crates : Crates
  codec : ObjectCodec
  backend : CryptoBackend
  hmacSha256 : FixedBytes 32 → Bytes → FixedBytes 32

/-- What an entry point takes from outside when it is called: the time in seconds, the readings and
draws of a token operation, the draws of up to two records, and a seed for the random numbers of the
cryptographic back end. -/
structure CallEnv where
  now : Nat
  token : TokenEnv
  first : StoreDraw
  second : StoreDraw
  seed : Nat

/-- What an entry point hands back. `length` answers a length query and `tooSmall` is
`CKR_BUFFER_TOO_SMALL` with the length that is needed. -/
inductive Reply where
  | done
  | handle (handle : Nat)
  | handlePair (publicKey privateKey : Nat)
  | handles (handles : List Nat)
  | bytes (bytes : Bytes)
  | length (length : Nat)
  | tooSmall (length : Nat)
  | attributes (rv : CkRv) (values : List (Option Bytes × Option Nat))
  deriving DecidableEq

/-- An entry point. -/
abbrev Entry := Program Hsm CkRv Reply

/-- `get_hsm`: after a failed self-test nothing answers. -/
def getHsm : Program Hsm CkRv Unit :=
  .reads fun s ↦ if s.postFailed then .error .generalError else .ok ()

/-- `get_session`. -/
def getSession (handle : Nat) : Program Hsm CkRv CratonHsm.Session :=
  .reads fun s ↦ toAbi (s.sessionManager.getSession handle)

/-- `get_token`. -/
def getToken : Program Hsm CkRv StoredToken :=
  .reads fun s ↦ (s.storedToken slotId).elim (.error .slotIdInvalid) .ok

/-- Run an operation on the token of a slot. Its effects stay when it fails. -/
def onToken (operation : StoredToken → HsmResult Unit × StoredToken) :
    Program Hsm CkRv Unit := fun s ↦
  match s.storedToken slotId with
  | none => (.error .slotIdInvalid, s)
  | some stored =>
    let (result, stored) := operation stored
    (toAbi result, s.setStoredToken slotId stored)

/-- Run an operation on the session table and the token of a slot. -/
def onSessions {Result : Type}
    (operation : SessionManager → Token → HsmResult Result × SessionManager × Token) :
    Program Hsm CkRv Result := fun s ↦
  match s.storedToken slotId with
  | none => (.error .slotIdInvalid, s)
  | some stored =>
    let (result, manager, token) := operation s.sessionManager stored.token
    (toAbi result, { s with sessionManager := manager }.setStoredToken slotId
      { stored with token := token })

/-- Run an operation on the object store. -/
def onStore {Result : Type} (operation : ObjectStore → HsmResult Result × ObjectStore) :
    Program Hsm CkRv Result := fun s ↦
  let (result, store) := operation s.objectStore
  (toAbi result, { s with objectStore := store })

/-! ### Rules for the steps of entry points -/

section Rules

variable {s : Hsm} {Result : Type} {Q : Except CkRv Result → Hsm → Prop} {slotId : Nat}
  {stored : StoredToken} {f : Unit → Program Hsm CkRv Result}

theorem Hsm.storedToken_eq_some_iff :
    s.storedToken slotId = some stored ↔ ∃ slot, s.slots[slotId]? = some slot ∧
      stored = ⟨slot.token, ⟨s.lockoutFile, slot.stateFile⟩⟩ := by
  simp [Hsm.storedToken, eq_comm]

theorem Hsm.storedToken_setStoredToken {old : StoredToken}
    (hslot : s.storedToken slotId = some old) :
    (s.setStoredToken slotId stored).storedToken slotId = some stored := by
  obtain ⟨slot, hslot, -⟩ := Hsm.storedToken_eq_some_iff.mp hslot
  obtain ⟨hlt, -⟩ := List.getElem?_eq_some_iff.mp hslot
  simp [Hsm.storedToken, Hsm.setStoredToken, hlt]

@[simp]
theorem ensures_getHsm : (getHsm >>= f).Ensures s Q ↔
    (s.postFailed = true → Q (.error .generalError) s) ∧
      (s.postFailed = false → (f ()).Ensures s Q) := by
  cases h : s.postFailed <;> simp [getHsm, Program.Ensures, Program.reads_bind, h]

@[simp]
theorem ensures_getSession {handle : Nat} {f : CratonHsm.Session → Program Hsm CkRv Result} :
    (getSession handle >>= f).Ensures s Q ↔
      (s.sessionManager.sessions[handle]? = none → Q (.error .sessionHandleInvalid) s) ∧
      ∀ session, s.sessionManager.sessions[handle]? = some session → (f session).Ensures s Q := by
  cases h : s.sessionManager.sessions[handle]? <;>
    simp [getSession, SessionManager.getSession, toAbi, HsmError.toRv, h]

@[simp]
theorem ensures_getToken {f : StoredToken → Program Hsm CkRv Result} :
    (getToken slotId >>= f).Ensures s Q ↔
      (s.storedToken slotId = none → Q (.error .slotIdInvalid) s) ∧
      ∀ stored, s.storedToken slotId = some stored → (f stored).Ensures s Q := by
  cases h : s.storedToken slotId <;> simp [getToken, h]

theorem ensures_onToken {operation : StoredToken → HsmResult Unit × StoredToken}
    (hslot : s.storedToken slotId = some stored) (hstop : ∀ e, (operation stored).1 = .error e →
      Q (.error e.toRv) (s.setStoredToken slotId (operation stored).2))
    (hgo : (operation stored).1 = .ok () →
      (f ()).Ensures (s.setStoredToken slotId (operation stored).2) Q) :
    (onToken slotId operation >>= f).Ensures s Q := by
  unfold Program.Ensures
  rw [Program.bind_apply]
  cases hresult : (operation stored).1 with
  | error e => simpa [onToken, hslot, toAbi, hresult] using hstop e hresult
  | ok u => simpa [onToken, hslot, toAbi, hresult, Program.Ensures] using hgo hresult

theorem ensures_onSessions {Answer : Type}
    {operation : SessionManager → Token → HsmResult Answer × SessionManager × Token}
    {f : Answer → Program Hsm CkRv Result} (hslot : s.storedToken slotId = some stored)
    (hstop : ∀ e manager token,
      operation s.sessionManager stored.token = (.error e, manager, token) →
        Q (.error e.toRv) ({ s with sessionManager := manager }.setStoredToken slotId
          { stored with token := token })) (hgo : ∀ answer manager token,
      operation s.sessionManager stored.token = (.ok answer, manager, token) →
        (f answer).Ensures ({ s with sessionManager := manager }.setStoredToken slotId
          { stored with token := token }) Q) :
    (onSessions slotId operation >>= f).Ensures s Q := by
  unfold Program.Ensures
  rw [Program.bind_apply]
  rcases hrun : operation s.sessionManager stored.token with ⟨e | answer, manager, token⟩
  · simpa [onSessions, hslot, toAbi, hrun] using hstop e manager token hrun
  · simpa [onSessions, hslot, toAbi, hrun, Program.Ensures] using hgo answer manager token hrun

end Rules

/-! ### A concrete library -/

/-- One slot with the strictest token settings and default algorithms. -/
def HsmConfig.singleSlot (persistObjects : Bool) : HsmConfig :=
  ⟨[.strict], persistObjects, ⟨false, true, false⟩⟩

/-- The disk before the first use. -/
def Disk.blank : Disk := ⟨.missing, [], ∅⟩

/-- Small round keys and a constant authentication key. -/
def InitDraw.sample : InitDraw where
  sessionScrambler := ⟨[1, 2, 3, 4]⟩
  objectScrambler := ⟨[5, 6, 7, 8]⟩
  stateHmacKey := ⟨List.replicate 32 9, rfl⟩

/-- A platform of known answers: digests, and HMAC-SHA-256 tags of texts under the constant
authentication key. -/
def Platform.recorded (digests : List (Nat × Bytes × Bytes)) (tags : List (Bytes × Nat)) :
    Platform where
  crates := pinAnswers.crates
  codec := ⟨fun _ ↦ [], fun _ ↦ none⟩
  backend := .recorded digests
  hmacSha256 _ text := ⟨beBytes 32 ((tags.lookup text).getD 0), beBytes_length _ _⟩

/-- A call at a time in seconds, whose writes succeed. -/
def callEnvAt (seconds : Nat) : CallEnv where
  now := seconds
  token := envAt seconds
  first := ⟨seconds, .ok nonceFours, true⟩
  second := ⟨seconds + 1000, .ok nonceFours, true⟩
  seed := seconds

end CratonHsm
