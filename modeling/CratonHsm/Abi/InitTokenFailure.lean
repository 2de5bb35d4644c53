import CratonHsm.Abi.SessionCalls
import CratonHsm.Session.LoginStates

/-!
# C_InitToken with a PIN that is refused

`C_InitToken` closes the sessions of the slot, empties the object store in memory and on disk, drops
the persistence key and resets the cipher tables, and only then asks the token about the PIN. Of the
refusals only that of an overlong PIN comes first. So a call that is refused leaves everything but
the counter of such failures as it was exactly if the PIN is overlong or there was nothing to erase
(`initToken_unchanged_iff`), and a caller who does not know the SO PIN erases keys
(`wrong_pin_erases_keys`).
-/

set_option autoImplicit false

namespace CratonHsm

open Crypto Crypto.Encrypt Library Store
open ObjectStore

/-! ### Refusals and changes -/

/-- The PIN is refused by the token: by its length or complexity, by the backoff window of an
initialised token, or because it is not the current SO PIN of one. -/
def Token.refusesInit (crates : Crates) (now : Nat) (token : Token) (pin : Bytes) : Bool :=
  token.config.validatePin pin ≠ .ok () ||
    (token.auth.initialized &&
      (checkRateLimit now token.auth.initTokenNextAllowed ≠ .ok () ||
        token.soPinHash.any fun stored ↦ !token.verifyPin crates stored pin))

/-- `C_InitToken` reaches the PIN, which is overlong or refused by the token. -/
def Hsm.RefusesInit (crates : Crates) (env : CallEnv) (s : Hsm) (slotId : Nat)
    (pin : Bytes) : Prop :=
  s.postFailed = false ∧ ∃ stored, s.storedToken slotId = some stored ∧
    (maxPinBytes < pin.length ∨ stored.token.refusesInit crates env.token.now pin = true)

/-- The token without the counter of failed initialisations and its deadline. -/
def Token.forgetInitFailures (token : Token) : Token :=
  { token with auth := { token.auth with
    failedInitTokenLogins := 0
    initTokenNextAllowed := none } }

/-- The library without that counter and deadline of a slot, and without the file that saves the
counter. -/
def Hsm.forgetInitFailures (slotId : Nat) (s : Hsm) : Hsm :=
  { s with
    slots := s.slots.modify slotId fun slot ↦ { slot with token := slot.token.forgetInitFailures }
    lockoutFile := .missing }

/-- There is nothing an initialisation of the slot would erase. -/
structure Hsm.NothingToErase (writes : Bool) (slotId : Nat) (s : Hsm) : Prop where
  sessions : ∀ (handle : Nat) (session : Session),
    s.sessionManager.sessions[handle]? = some session → session.slotId ≠ slotId
  objects : s.objectStore.objects.refs = ∅
  storeKeys : s.objectStore.handleToStoreKey = ∅
  records : s.objectStore.persistent = true → writes = true → s.objectStore.records = ∅
  persistKey : s.objectStore.persistKey = none
  statics : s.statics = .empty

/-! ### The run of a call -/

theorem modify_set_self {Value : Type} (values : List Value) (i : Nat) (value : Value)
    (f : Value → Value) : (values.set i value).modify i f = values.set i (f value) := by
  refine List.ext_getElem? fun j ↦ ?_
  by_cases hsame : i = j
  · subst hsame
    by_cases hlt : i < values.length <;> simp [hlt]
  · simp [hsame]

section Run

variable (crates : Crates) (env : CallEnv) {s : Hsm} {slotId : Nat} {stored : StoredToken}

/-- The token once the sessions of its slot are closed. -/
def Hsm.closedToken (s : Hsm) (slotId : Nat) (stored : StoredToken) : StoredToken :=
  { stored with token := (s.sessionManager.closeAllSessions slotId stored.token).2 }

/-- The library when the token is asked about the PIN. -/
def Hsm.eraseForInit (writes : Bool) (s : Hsm) (slotId : Nat) (stored : StoredToken) : Hsm :=
  { s with
    sessionManager := (s.sessionManager.closeAllSessions slotId stored.token).1
    objectStore := (s.objectStore.clear writes).clearPersistKey
    statics := .empty }.setStoredToken slotId (s.closedToken slotId stored)

theorem cInitToken_run (hlive : s.postFailed = false) (hslot : s.storedToken slotId = some stored)
    {pin : Bytes} (hlength : pin.length ≤ maxPinBytes) (label : FixedBytes 32) :
    cInitToken crates env slotId pin label s =
      ((toAbi ((s.closedToken slotId stored).initToken crates env.token pin label).1).map
          fun _ ↦ .done,
        (s.eraseForInit env.first.writes slotId stored).setStoredToken slotId
          ((s.closedToken slotId stored).initToken crates env.token pin label).2) := by
  have hslot' : (s.eraseForInit env.first.writes slotId stored).storedToken slotId =
      some (s.closedToken slotId stored) := Hsm.storedToken_setStoredToken hslot
  have herased : cInitToken crates env slotId pin label s =
      (onToken slotId (fun stored ↦ stored.initToken crates env.token pin label) >>=
        fun _ ↦ pure .done) (s.eraseForInit env.first.writes slotId stored) := by
    simp only [cInitToken, getHsm, Program.reads_bind, hlive, getToken, hslot,
      Program.require_bind, hlength]
    rw [Program.bind_apply]
    simp [onSessions, hslot, toAbi, Hsm.eraseForInit, Hsm.closedToken, Hsm.setStoredToken]
  rw [herased, Program.bind_apply]
  cases hresult : ((s.closedToken slotId stored).initToken crates env.token pin label).1 with
  | error e => simp [onToken, hslot', hresult, toAbi, Except.map]
  | ok u => simp [onToken, hslot', hresult, toAbi, Except.map]

/-- A PIN that the token refuses changes nothing of it but the counter and the deadline. -/
theorem initToken_refused {pin : Bytes} (label : FixedBytes 32)
    (hrefused : stored.token.refusesInit crates env.token.now pin = true) :
    (∃ e, (stored.initToken crates env.token pin label).1 = .error e) ∧
      (stored.initToken crates env.token pin label).2.token.forgetInitFailures =
        stored.token.forgetInitFailures ∧
      (stored.initToken crates env.token pin label).2.files.state = stored.files.state := by
  unfold Token.refusesInit at hrefused
  unfold StoredToken.initToken
  cases hvalid : stored.token.config.validatePin pin with
  | error e => exact ⟨⟨e, rfl⟩, rfl, rfl⟩
  | ok u =>
    cases hinit : stored.token.auth.initialized with
    | false => simp [hvalid, hinit] at hrefused
    | true =>
      cases hrate : checkRateLimit env.token.now stored.token.auth.initTokenNextAllowed with
      | error e => exact ⟨⟨e, by simp⟩, by simp, by simp⟩
      | ok u =>
        cases hhash : stored.token.soPinHash with
        | none => simp [hvalid, hrate, hhash] at hrefused
        | some hash =>
          have hwrong : stored.token.verifyPin crates hash pin = false := by
            simpa [hvalid, hinit, hrate, hhash] using hrefused
          simp only [if_true, hwrong, Bool.not_false]
          exact ⟨⟨.pinIncorrect, rfl⟩, by rw [failInitToken_token]; rfl, failInitToken_state _ _⟩

theorem closedToken_refusesInit (s : Hsm) (slotId : Nat) (stored : StoredToken) (pin : Bytes) :
    (s.closedToken slotId stored).token.refusesInit crates env.token.now pin =
      stored.token.refusesInit crates env.token.now pin := by
  obtain ⟨sessionCount, rwSessionCount, heq⟩ :=
    s.sessionManager.closeAllSessions_token slotId stored.token
  simp only [Hsm.closedToken, heq]
  rfl

/-- A PIN of admissible length that the token refuses leaves the erased library, apart from the
counter and the deadline. -/
theorem cInitToken_refused (hlive : s.postFailed = false)
    (hslot : s.storedToken slotId = some stored) {pin : Bytes} (hlength : pin.length ≤ maxPinBytes)
    (label : FixedBytes 32) (hrefused : stored.token.refusesInit crates env.token.now pin = true) :
    (∃ e, (cInitToken crates env slotId pin label s).1 = .error e) ∧
      (cInitToken crates env slotId pin label s).2.forgetInitFailures slotId =
        (s.eraseForInit env.first.writes slotId stored).forgetInitFailures slotId := by
  obtain ⟨⟨e, herror⟩, htoken, hstate⟩ := initToken_refused crates env label
    ((closedToken_refusesInit crates env s slotId stored pin).trans hrefused)
  rw [cInitToken_run crates env hlive hslot hlength]
  refine ⟨⟨e.toRv, by simp [herror, toAbi, Except.map]⟩, ?_⟩
  have hslots : ∀ next : StoredToken,
      next.token.forgetInitFailures = (s.closedToken slotId stored).token.forgetInitFailures →
      next.files.state = (s.closedToken slotId stored).files.state →
      ((s.eraseForInit env.first.writes slotId stored).setStoredToken slotId
        next).forgetInitFailures
        slotId = (s.eraseForInit env.first.writes slotId stored).forgetInitFailures slotId := by
    intro next htoken hstate
    simp [Hsm.forgetInitFailures, Hsm.eraseForInit, Hsm.setStoredToken, modify_set_self, htoken,
      hstate]
  exact hslots _ htoken hstate

end Run

/-! ### What a refused call leaves -/

theorem closeAllSessions_eq_self {manager : SessionManager} {slotId : Nat}
    (hnone : ∀ (handle : Nat) (session : Session),
      manager.sessions[handle]? = some session → session.slotId ≠ slotId) (token : Token) :
    manager.closeAllSessions slotId token = (manager, token) := by
  have hempty : manager.sessionsOfSlot slotId = [] := by
    refine List.eq_nil_iff_forall_not_mem.mpr fun entry hentry ↦ ?_
    obtain ⟨hsession, hslot⟩ := manager.mem_sessionsOfSlot.mp hentry
    exact hnone _ _ hsession hslot
  have hsessions : (manager.closeAllSessions slotId token).1.sessions = manager.sessions := by
    refine Std.ExtTreeMap.ext_getElem? fun handle ↦ ?_
    rw [SessionManager.closeAllSessions_sessions]
    cases hsession : manager.sessions[handle]? with
    | none => rfl
    | some session => simp [hnone handle session hsession]
  refine Prod.ext ?_ ?_
  · exact congrArg (fun sessions ↦ { manager with sessions := sessions }) hsessions
  · simp [SessionManager.closeAllSessions, hempty]

theorem Hsm.NothingToErase.eraseForInit {writes : Bool} {s : Hsm} {slotId : Nat}
    {stored : StoredToken} (h : s.NothingToErase writes slotId)
    (hslot : s.storedToken slotId = some stored) : s.eraseForInit writes slotId stored = s := by
  obtain ⟨slot, hat, rfl⟩ := Hsm.storedToken_eq_some_iff.mp hslot
  have hclosed := closeAllSessions_eq_self h.sessions slot.token
  have hrecords : (if s.objectStore.persistent && writes then ∅ else s.objectStore.records) =
      s.objectStore.records := by
    split_ifs with hboth
    · rw [Bool.and_eq_true] at hboth
      exact (h.records hboth.1 hboth.2).symm
    · rfl
  have hstore : (s.objectStore.clear writes).clearPersistKey = s.objectStore := by
    simp only [clear, clearPersistKey, hrecords,
      SharedMap.clear_eq_self _ h.objects, ← h.storeKeys, ← h.persistKey]
  have hsame : s.slots.set slotId slot = s.slots := by
    obtain ⟨hlt, rfl⟩ := List.getElem?_eq_some_iff.mp hat
    exact List.set_getElem_self hlt
  simp only [Hsm.eraseForInit, Hsm.closedToken, hclosed, hstore, Hsm.setStoredToken, ← h.statics,
    hsame]

/-- There is nothing to erase exactly if the erased library is the same. -/
theorem eraseForInit_eq_iff {writes : Bool} {s : Hsm} {slotId : Nat} {stored : StoredToken}
    (hslot : s.storedToken slotId = some stored) :
    (s.eraseForInit writes slotId stored).forgetInitFailures slotId =
        s.forgetInitFailures slotId ↔ s.NothingToErase writes slotId := by
  refine ⟨fun heq ↦ ?_, fun h ↦ by rw [h.eraseForInit hslot]⟩
  have hstore := congrArg Hsm.objectStore heq
  have hmanager : (s.sessionManager.closeAllSessions slotId stored.token).1 = s.sessionManager :=
    congrArg Hsm.sessionManager heq
  refine ⟨fun handle session hsession hmine ↦ ?_, ?_, ?_, fun hpersistent hwrites ↦ ?_, ?_, ?_⟩
  · have hopen := hsession
    rw [← hmanager, SessionManager.closeAllSessions_sessions, hsession] at hopen
    simp [hmine] at hopen
  · exact (congrArg (fun store : ObjectStore ↦ store.objects.refs) hstore).symm
  · exact (congrArg handleToStoreKey hstore).symm
  · have hrecords : (if s.objectStore.persistent && writes then ∅ else s.objectStore.records) =
        s.objectStore.records := congrArg records hstore
    rw [hpersistent, hwrites] at hrecords
    exact hrecords.symm
  · exact (congrArg persistKey hstore).symm
  · exact (congrArg Hsm.statics heq).symm

/-- A call of `C_InitToken` whose PIN is refused fails, and it leaves the library as it was, apart
from the counter of such failures and its deadline, exactly if the PIN is overlong or there was
nothing to erase. -/
theorem initToken_unchanged_iff (crates : Crates) (env : CallEnv) (s : Hsm) (slotId : Nat)
    (pin : Bytes) (label : FixedBytes 32) (hrefused : s.RefusesInit crates env slotId pin) :
    (∃ e, (cInitToken crates env slotId pin label s).1 = .error e) ∧
      ((cInitToken crates env slotId pin label s).2.forgetInitFailures slotId =
          s.forgetInitFailures slotId ↔
        maxPinBytes < pin.length ∨ s.NothingToErase env.first.writes slotId) := by
  obtain ⟨hlive, stored, hslot, hrefused⟩ := hrefused
  by_cases hlength : pin.length ≤ maxPinBytes
  · have hshort : ¬maxPinBytes < pin.length := Nat.not_lt.mpr hlength
    obtain ⟨herror, hleft⟩ := cInitToken_refused crates env hlive hslot hlength label
      (hrefused.resolve_left hshort)
    refine ⟨herror, ?_⟩
    rw [hleft, eraseForInit_eq_iff hslot]
    exact ⟨Or.inr, fun h ↦ h.resolve_left hshort⟩
  · have hrun : cInitToken crates env slotId pin label s = (.error .pinLenRange, s) := by
      simp [cInitToken, getHsm, Program.reads_bind, hlive, getToken, hslot, hlength]
    rw [hrun]
    exact ⟨⟨_, rfl⟩, iff_of_true rfl (Or.inl (Nat.not_le.mp hlength))⟩

/-- A token that is initialised and not used yet. -/
def unusedLibrary : Hsm :=
  (cInitToken pinAnswers.crates (callEnvAt 0) 0 soPin1 blankLabel
    (.cInitialize (.singleSlot false) .blank .empty .sample)).2

/-- A wrong PIN changes nothing there. -/
theorem wrong_pin_changes_unused_library_not :
    unusedLibrary.RefusesInit pinAnswers.crates (callEnvAt 1) 0 guess9 ∧
      (cInitToken pinAnswers.crates (callEnvAt 1) 0 guess9 blankLabel
        unusedLibrary).2.forgetInitFailures 0 = unusedLibrary.forgetInitFailures 0 := by
  have hany : ((unusedLibrary.storedToken 0).any fun stored ↦
      stored.token.refusesInit pinAnswers.crates (callEnvAt 1).token.now guess9) = true := by
    decide +kernel
  obtain ⟨stored, hslot, hwrong⟩ := (Option.any_eq_true _ _).mp hany
  have hrefused : unusedLibrary.RefusesInit pinAnswers.crates (callEnvAt 1) 0 guess9 :=
    ⟨by decide +kernel, stored, hslot, Or.inr hwrong⟩
  have hsessions : unusedLibrary.sessionManager.sessions = ∅ := by decide +kernel
  have hnothing : unusedLibrary.NothingToErase (callEnvAt 1).first.writes 0 := by
    refine ⟨?_, by decide +kernel, by decide +kernel,
      fun _ _ ↦ by decide +kernel, by decide +kernel, by decide +kernel⟩
    rw [hsessions]
    simp
  exact ⟨hrefused, (initToken_unchanged_iff pinAnswers.crates (callEnvAt 1) unusedLibrary 0 guess9
    blankLabel hrefused).2.mpr (Or.inr hnothing)⟩

/-! ### Keys erased by a caller who does not know the PIN -/

/-- A token is initialised, and its security officer creates an AES key on a session. -/
def officerCreatesKey : Hsm :=
  let entries : List Entry :=
    [cInitToken pinAnswers.crates (callEnvAt 0) 0 soPin1 blankLabel,
      cOpenSession 0 (ckfSerialSession + ckfRwSession),
      cLogin pinAnswers.crates ⟨fun _ ↦ [], fun _ ↦ none⟩ (callEnvAt 1) 30064771105 ckuSo soPin1,
      cCreateObject pinAnswers.crates ⟨fun _ ↦ [], fun _ ↦ none⟩ (callEnvAt 2) 30064771105
        [(ckaClass, ckUlongToBytes ckoSecretKey), (ckaKeyType, ckUlongToBytes ckkAes),
          (ckaValue, List.replicate 32 7)]]
  entries.foldl (fun s entry ↦ (entry s).2) (.cInitialize (.singleSlot false) .blank .empty .sample)

/-- Somebody else offers a wrong PIN. The answer is `CKR_PIN_INCORRECT`; the session and the key are
gone. -/
theorem wrong_pin_erases_keys :
    (officerCreatesKey.objectStore.objects.toList.map fun entry ↦ entry.2.keyMaterial) =
        [some (List.replicate 32 7)] ∧
      officerCreatesKey.sessionManager.sessions.toList.length = 1 ∧
      (cInitToken pinAnswers.crates (callEnvAt 3) 0 guess9 blankLabel officerCreatesKey).1 =
        .error .pinIncorrect ∧
      (cInitToken pinAnswers.crates (callEnvAt 3) 0 guess9 blankLabel
        officerCreatesKey).2.objectStore.objects.toList = [] ∧
      (cInitToken pinAnswers.crates (callEnvAt 3) 0 guess9 blankLabel
        officerCreatesKey).2.sessionManager.sessions.toList = [] := by
  decide +kernel

end CratonHsm
