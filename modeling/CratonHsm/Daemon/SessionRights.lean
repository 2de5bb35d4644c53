import CratonHsm.Abi.LoginAgreement
import CratonHsm.Daemon.TokenReset

/-!
# Rights of sessions

Which requests the daemon refuses for the lack of a login. `require_logged_in` looks at the token of
the slot, never at the session, and is content with a user and with a security officer; `init_pin`
also looks at the state that the session was opened in. So the login of the token decides over every
request that checks a login, on every session of the slot (`Request.handle_followsLogin`), and with
it a logout ends the rights of all of them (`run_public`).

That a request is refused for the lack of a login is read off its answer: the status of
`require_logged_in` is given by no other check. `ChecksLogin` is the shape of the handlers that this
rests on, and each of them is taken through its steps once.
-/

set_option autoImplicit false

namespace CratonHsm.Daemon

open Audit Crypto Crypto.Encrypt Library Session
open Store
open Library.Program (Errors errors_ok errors_error errors_elim FailsWith failsWith_pure
  failsWith_reads failsWith_require failsWith_update failsWith_view)

/-! ### The refusal for the lack of a login -/

/-- The refusal of `require_logged_in`. -/
def notLoggedIn : Status := ⟨.permissionDenied, "Not logged in — call Login first"⟩

/-- A refusal for another reason. -/
def ForOther (e : Status) : Prop := e ≠ notLoggedIn

instance : DecidablePred ForOther := fun e ↦ inferInstanceAs (Decidable (e ≠ notLoggedIn))

section Errors

@[simp]
theorem hsmErrToStatus_forOther (e : HsmError) : ForOther (hsmErrToStatus e) := by
  cases e <;> simp [ForOther, hsmErrToStatus, notLoggedIn]

@[simp]
theorem forOther_iff {code : Code} {message : String} :
    ForOther ⟨code, message⟩ ↔ code ≠ .permissionDenied ∨
      message ≠ "Not logged in — call Login first" := by
  simp [ForOther, notLoggedIn, imp_iff_not_or]

@[simp]
theorem toStatus_errors {Result : Type} (x : HsmResult Result) : Errors ForOther (toStatus x) := by
  cases x with
  | ok result => exact errors_ok result
  | error e => exact errors_error (hsmErrToStatus_forOther e)

@[simp]
theorem keyField_errors {Value : Type} (field : Option Value) (missing : String) :
    Errors ForOther (keyField field missing) := errors_elim (by simp)

@[simp]
theorem checkIv_errors (mode : String) (iv : Bytes) : Errors ForOther (checkIv mode iv) := by
  unfold checkIv
  split_ifs
  · exact errors_ok ()
  · exact errors_error (by simp)

@[simp]
theorem applyTemplateExcept_errors (handled : List Nat) (obj : StoredObject)
    (template : Template) : Errors ForOther (applyTemplateExcept handled obj template) :=
  toStatus_errors _

variable (env : RequestEnv) (backend : CryptoBackend)

@[simp]
theorem draftPair_errors (config : AlgorithmConfig) (mechanism : Nat) (pubTemplate : Template) :
    Errors ForOther (draftPair env backend config mechanism pubTemplate) := by
  have hcode {message : String} : ForOther ⟨.invalidArgument, message⟩ := by simp
  unfold draftPair
  split_ifs
  · exact (errors_elim hcode).bind fun _ ↦ (toStatus_errors _).bind fun _ ↦ errors_ok _
  · refine Errors.bind ?_ fun _ ↦ (toStatus_errors _).bind fun _ ↦ errors_ok _
    cases pubTemplate.find? (·.1 = ckaEcParams) with
    | none => exact errors_error hcode
    | some entry => exact errors_ok entry.2
  · exact (toStatus_errors _).bind fun _ ↦ errors_ok _
  · exact errors_error hcode

@[simp]
theorem verifyData_errors (mechanism : Nat) (obj : StoredObject) (data signature : Bytes) :
    Errors ForOther (verifyData backend mechanism obj data signature) := by
  unfold verifyData
  split_ifs
  all_goals repeat' first | simp | refine Errors.bind ?_ fun _ ↦ ?_

@[simp]
theorem deriveBytes_errors (base : StoredObject) (baseBytes peer : Bytes)
    (derivedLen : Option Nat) :
    Errors ForOther (deriveBytes backend base baseBytes peer derivedLen) := by
  unfold deriveBytes
  dsimp only
  split_ifs
  · simp
  · simp
  · exact errors_error (by simp)

variable (platform : Platform) (mech : Mechanism) (obj : StoredObject) (data : Bytes)

@[simp]
theorem encryptData_errors (statics : CipherStatics) :
    Errors ForOther (encryptData platform env mech obj data statics).1 := by
  have hmaterial := keyField_errors obj.keyMaterial "Key has no material"
  unfold encryptData
  dsimp only
  split_ifs
  · cases hkey : keyField obj.keyMaterial "Key has no material" with
    | error e => exact errors_error (hmaterial e hkey)
    | ok key => exact toStatus_errors _
  · cases hiv : checkIv "AES-CBC" mech.parameter with
    | error e => exact errors_error (checkIv_errors _ _ e hiv)
    | ok u =>
      cases hkey : keyField obj.keyMaterial "Key has no material" with
      | error e => exact errors_error (hmaterial e hkey)
      | ok key => exact toStatus_errors _
  · cases hiv : checkIv "AES-CTR" mech.parameter with
    | error e => exact errors_error (checkIv_errors _ _ e hiv)
    | ok u =>
      cases hkey : keyField obj.keyMaterial "Key has no material" with
      | error e => exact errors_error (hmaterial e hkey)
      | ok key => exact toStatus_errors _
  · exact (keyField_errors _ _).bind fun _ ↦ (keyField_errors _ _).bind fun _ ↦ toStatus_errors _

@[simp]
theorem decryptData_errors : Errors ForOther (decryptData platform mech obj data) := by
  unfold decryptData
  dsimp only
  split_ifs
  all_goals repeat' first | simp | refine Errors.bind ?_ fun _ ↦ ?_

end Errors

/-! ### Steps that do not ask for a login -/

section Steps

@[simp]
theorem getSession_failsWith (handle : Nat) : (getSession handle).FailsWith ForOther :=
  failsWith_reads fun _ ↦ toStatus_errors _

@[simp]
theorem getToken_failsWith (slotId : Nat) : (getToken slotId).FailsWith ForOther :=
  failsWith_reads fun _ ↦ toStatus_errors _

@[simp]
theorem onToken_failsWith (slotId : Nat)
    (operation : StoredToken → HsmResult Unit × StoredToken) :
    (onToken slotId operation).FailsWith ForOther := by
  refine FailsWith.bind (fun s ↦ ?_) fun _ ↦ failsWith_reads fun _ ↦ toStatus_errors _
  unfold tryToken
  cases s.storedToken slotId with
  | none => exact errors_error (hsmErrToStatus_forOther _)
  | some stored => exact errors_ok _

@[simp]
theorem objectOfSlot_failsWith (slotId handle : Nat) (missing : String) :
    (objectOfSlot slotId handle missing).FailsWith ForOther :=
  FailsWith.bind (failsWith_reads fun _ ↦ toStatus_errors _) fun _ ↦
    FailsWith.bind (failsWith_require (by simp)) fun _ ↦ failsWith_pure _

@[simp]
theorem nextHandle_failsWith : nextHandle.FailsWith ForOther := fun _ ↦ errors_ok _

@[simp]
theorem onStore_failsWith {Result : Type}
    (operation : ObjectStore → HsmResult Result × ObjectStore) :
    (onStore operation).FailsWith ForOther := fun _ ↦ toStatus_errors _

@[simp]
theorem insertObject_failsWith (platform : Platform) (draw : StoreDraw) (obj : StoredObject) :
    (insertObject platform draw obj).FailsWith ForOther := onStore_failsWith _

@[simp]
theorem onStatics_failsWith {Answer : Type}
    {operation : CipherStatics → Except Status Answer × CipherStatics}
    (h : ∀ statics, Errors ForOther (operation statics).1) :
    (onStatics operation).FailsWith ForOther := fun s ↦ h s.statics

@[simp]
theorem noteUse_failsWith (role : KeyRole) (obj : StoredObject) :
    (noteUse role obj).FailsWith ForOther := failsWith_update _

end Steps

/-! ### Handlers that check a login -/

/-- The program checks for a login on the session before anything else, and asks for one nowhere
else. -/
def ChecksLogin {Result : Type} (session : Nat) (x : Core Result) : Prop :=
  ∃ rest : Nat → Core Result, x = requireAuthenticatedSession session >>= rest ∧
    ∀ slotId, (rest slotId).FailsWith ForOther

section Handlers

variable (platform : Platform) (env : RequestEnv) (session : Nat) (mechanism : Option Mechanism)

theorem checksLogin_admits {Result : Type} {supported : Nat → Bool} {unsupported : String}
    {signing : Bool} {f : Nat × Mechanism → Core Result}
    (hf : ∀ admitted, (f admitted).FailsWith ForOther) :
    ChecksLogin session (admitRequest session mechanism supported unsupported signing >>= f) := by
  refine ⟨_, Program.bind_assoc _ _ _, fun slotId ↦ ?_⟩
  refine FailsWith.bind ?_ hf
  refine FailsWith.bind (failsWith_reads fun _ ↦ errors_elim (by simp)) fun _ ↦ ?_
  refine FailsWith.bind (failsWith_require (by simp)) fun _ ↦ ?_
  refine FailsWith.bind (failsWith_reads fun s ↦ ?_) fun _ ↦ failsWith_pure _
  split
  · exact errors_ok ()
  · exact errors_error (by decide)

variable {platform env session mechanism}

theorem initPin_checksLogin (pin : Bytes) :
    ChecksLogin session (initPin platform env session pin) := by
  refine ⟨_, Program.bind_assoc _ _ _, fun _ ↦ ?_⟩
  refine ((getSession_failsWith _).bind fun _ ↦ (failsWith_require (by decide)).bind fun _ ↦
    failsWith_pure _).bind fun _ ↦ ?_
  exact (getToken_failsWith _).bind fun _ ↦ (onToken_failsWith _ _).bind fun _ ↦ failsWith_pure _

end Handlers

/-! ### The login of the token decides -/

/-- The outcome of something that checks a login: without one it is refused for that and changes
nothing, with one it is not refused for that. -/
def FollowsLogin {State Result : Type} (login : LoginState) (s : State)
    (outcome : Except Status Result × State) : Prop :=
  if login = .publicState then outcome = (.error notLoggedIn, s)
  else outcome.1 ≠ .error notLoggedIn

section Decides

variable {platform : Platform} {env : RequestEnv} {handle slotId : Nat} {found : CratonHsm.Session}
  {stored : StoredToken} {Result : Type} {s : Hsm} {f : Unit → Core Result}

theorem requireLoggedIn_of_public (hslot : s.storedToken slotId = some stored)
    (hpublic : stored.token.auth.login = .publicState) :
    (requireLoggedIn slotId >>= f) s = (.error notLoggedIn, s) := by
  rw [requireLoggedIn, Program.bind_assoc, getToken_bind hslot, Program.reads_bind]
  simp [Token.requireLogin, hpublic, notLoggedIn]

theorem requireLoggedIn_followsLogin (hslot : s.storedToken slotId = some stored)
    (hf : (f ()).FailsWith ForOther) :
    FollowsLogin stored.token.auth.login s ((requireLoggedIn slotId >>= f) s) := by
  unfold FollowsLogin
  split_ifs with hpublic
  · exact requireLoggedIn_of_public hslot hpublic
  · rw [requireLoggedIn_bind hslot hpublic]
    exact fun h ↦ hf s _ h rfl

theorem ChecksLogin.followsLogin {x : Core Result} (h : ChecksLogin handle x)
    (hsession : s.sessionManager.sessions[handle]? = some found)
    (hslot : s.storedToken found.slotId = some stored) :
    FollowsLogin stored.token.auth.login s (x s) := by
  obtain ⟨rest, rfl, hrest⟩ := h
  rw [requireAuthenticatedSession, Program.bind_assoc, requireSession_bind hsession,
    Program.bind_assoc]
  exact requireLoggedIn_followsLogin hslot (hrest found.slotId)

variable {s : HsmService} {login : LoginState}

theorem FollowsLogin.onCore {x : Core Response} (h : FollowsLogin login s.hsm (x s.hsm)) :
    FollowsLogin login s (onCore x s) := by
  unfold FollowsLogin Daemon.onCore at *
  split_ifs at * with hpublic
  · rw [h]
  · exact h

theorem FollowsLogin.audited {body : Body} (h : FollowsLogin login s.hsm (body s.hsm)) :
    FollowsLogin login s (audited env body s) := by
  unfold FollowsLogin at *
  split_ifs at * with hpublic
  · exact audited_of_refused h
  · intro hrefused
    rcases audited_eq_error hrefused with hbody | haudit
    · exact h hbody
    · cases haudit

theorem storedToken_of_loginAt {s : Hsm} (hlogin : s.loginAt slotId = some login) :
    ∃ stored, s.storedToken slotId = some stored ∧ stored.token.auth.login = login := by
  obtain ⟨slot, hslot, rfl⟩ := Option.map_eq_some_iff.mp hlogin
  exact ⟨_, Hsm.storedToken_eq_some_iff.mpr ⟨slot, hslot, rfl⟩, rfl⟩

/-- The request, made on a session of the slot, checks that somebody is logged in. An attribute is
read without a login, unless it belongs to a private object of the slot. -/
def Request.NeedsLogin (s : Hsm) (slotId : Nat) : Request → Prop
  | .openSession .. | .closeSession .. | .login .. | .logout .. | .getTokenInfo .. | .initToken ..
  | .healthCheck => False
  | .getAttributeValue _ object _ => ∃ obj, s.objectStore.objects.get? object = some obj ∧
      obj.slotId = slotId ∧ obj.isPrivate = true
  | _ => True

theorem attributeBool_private (obj : StoredObject) :
    attributeBool (readOrEmpty obj ckaPrivate) = obj.isPrivate := by
  have hread : obj.readAttribute ckaPrivate true = .ok (some (boolBytes obj.isPrivate)) := by
    simp [StoredObject.readAttribute, ckaPrivate, ckaClass, ckaKeyType, ckaLabel, ckaId, ckaToken]
  rw [readOrEmpty, hread]
  cases obj.isPrivate <;> rfl

/-- A request that checks a login, made on an open session, is refused for the lack of one exactly
when nobody is logged in to the token of the slot. -/
theorem Request.handle_followsLogin {request : Request} (hrequest : request.session? = some handle)
    (hsession : s.hsm.sessionManager.sessions[handle]? = some found)
    (hlogin : s.hsm.loginAt found.slotId = some login)
    (hneeds : request.NeedsLogin s.hsm found.slotId) :
    FollowsLogin login s (request.handle platform env s) := by
  obtain ⟨stored, hslot, rfl⟩ := storedToken_of_loginAt hlogin
  have hfollows := fun {Result : Type} {x : Core Result} (h : ChecksLogin handle x) ↦
    h.followsLogin hsession hslot
  cases request with
  | openSession _ _ | closeSession _ | login _ _ _ | logout _ | getTokenInfo _ _ | initToken _ _ _
  | healthCheck => exact hneeds.elim
  | getAttributeValue _ object _ =>
    cases hrequest
    obtain ⟨obj, hobj, hmine, hprivate⟩ := hneeds
    refine FollowsLogin.audited ?_
    unfold Daemon.getAttributeValue
    rw [requireSession_bind hsession, objectOfSlot_bind hobj hmine,
      if_pos (by rw [attributeBool_private, hprivate])]
    exact requireLoggedIn_followsLogin hslot (failsWith_pure _)
  | initPin _ _ =>
    cases hrequest
    exact (hfollows (initPin_checksLogin _)).audited
  | digest _ _ _ =>
    cases hrequest
    refine (hfollows ⟨_, rfl, fun _ ↦ ?_⟩).onCore
    repeat' first | (simp; done) | refine FailsWith.bind ?_ fun _ ↦ ?_
  | generateRandom _ _ =>
    cases hrequest
    refine (hfollows ⟨_, rfl, fun _ ↦ ?_⟩).audited
    refine FailsWith.bind (by simp) fun _ ↦ FailsWith.bind (by simp) fun _ ↦ ?_
    refine FailsWith.bind (failsWith_reads fun _ ↦ ?_) fun _ ↦ failsWith_pure _
    split
    · exact errors_ok _
    · exact errors_error (by simp)
  | generateKey | generateKeyPair | wrapKey | unwrapKey | deriveKey | sign | verify | encrypt
  | decrypt =>
    cases hrequest
    refine (hfollows (checksLogin_admits _ _ fun _ ↦ ?_)).audited
    repeat' first | (simp; done) | refine FailsWith.bind ?_ fun _ ↦ ?_
  | destroyObject | findObjects | copyObject | setPin =>
    cases hrequest
    refine (hfollows ⟨_, rfl, fun _ ↦ ?_⟩).audited
    repeat' first | (simp; done) | refine FailsWith.bind ?_ fun _ ↦ ?_

/-! ### InitPIN -/

/-- The refusals of `init_pin` for the role: nobody is logged in, the session was not opened by a
security officer, or the token is not logged in as one. -/
def officerRefusals : List Status :=
  [notLoggedIn, ⟨.permissionDenied, "C_InitPIN requires SO login"⟩, hsmErrToStatus .userNotLoggedIn]

theorem initPin_of_not_officer {s : Hsm} {pin : Bytes}
    (hsession : s.sessionManager.sessions[handle]? = some found)
    (hslot : s.storedToken found.slotId = some stored)
    (hlogin : stored.token.auth.login ≠ .soLoggedIn) :
    ∃ e ∈ officerRefusals, initPin platform env handle pin s = (.error e, s) := by
  by_cases hpublic : stored.token.auth.login = .publicState
  · have hchecks : ChecksLogin handle (initPin platform env handle pin) := initPin_checksLogin pin
    have hrefused := hchecks.followsLogin hsession hslot
    rw [FollowsLogin, if_pos hpublic] at hrefused
    exact ⟨notLoggedIn, List.mem_cons_self, hrefused⟩
  · unfold initPin requireSoSession
    rw [Program.bind_assoc, requireAuthenticatedSession_bind hsession hslot hpublic,
      Program.bind_assoc, getSession_bind hsession, Program.bind_assoc, Program.require_bind]
    split_ifs with hso
    · refine ⟨hsmErrToStatus .userNotLoggedIn, by simp [officerRefusals], ?_⟩
      rw [Program.pure_bind, getToken_bind hslot, onToken, Program.bind_assoc]
      simp [Program.bind_apply, tryToken, hslot, StoredToken.initPin, hlogin, toStatus,
        Hsm.setStoredToken_self hslot]
    · exact ⟨_, by simp [officerRefusals], rfl⟩

theorem validatePin_error {config : TokenConfig} {pin : Bytes} {e : HsmError}
    (h : config.validatePin pin = .error e) : e = .pinLenRange ∨ e = .pinInvalid := by
  unfold TokenConfig.validatePin at h
  split_ifs at h <;> simp_all

theorem initPin_of_officer {s : Hsm} {pin : Bytes}
    (hsession : s.sessionManager.sessions[handle]? = some found)
    (hslot : s.storedToken found.slotId = some stored)
    (hlogin : stored.token.auth.login = .soLoggedIn) (hso : found.state.isSo = true) {e : Status}
    (herror : (initPin platform env handle pin s).1 = .error e) : e ∉ officerRefusals := by
  unfold initPin requireSoSession at herror
  rw [Program.bind_assoc, requireAuthenticatedSession_bind hsession hslot (by simp [hlogin]),
    Program.bind_assoc, getSession_bind hsession, Program.bind_assoc, Program.require_bind,
    if_pos hso, Program.pure_bind, getToken_bind hslot, onToken, Program.bind_assoc,
    Program.bind_apply] at herror
  -- Only the PIN itself is looked at from here on.
  cases hvalid : stored.token.config.validatePin pin with
  | ok u =>
    simp [tryToken, hslot, StoredToken.initPin, hlogin, hvalid, Program.reads_bind, toStatus]
      at herror
  | error e' =>
    simp only [tryToken, hslot, StoredToken.initPin, hlogin, ne_eq, not_true_eq_false, if_false,
      hvalid, Program.reads_bind, toStatus] at herror
    rcases validatePin_error hvalid with rfl | rfl <;>
      exact Except.error.inj herror ▸ by decide

end Decides

/-! ### Runs -/

section Runs

variable {platform : Platform} {s : HsmService} {handle slotId : Nat} {found : CratonHsm.Session}
  {later : List (RequestEnv × Request)}

/-- The session is neither closed nor its handle given out again. -/
def HsmService.KeepsSession (handle : Nat) (u : HsmService) (request : RequestEnv × Request) :
    Prop :=
  request.2 ≠ .closeSession handle ∧ ¬u.Issues handle request.2

/-- The request is a login, successful or not, on a session of the slot. -/
def HsmService.LogsInto (slotId : Nat) (u : HsmService) (request : RequestEnv × Request) : Prop :=
  (∃ session userType pin, request.2 = .login session userType pin) ∧
    request.2.slot? u.hsm = some slotId

/-- The session that `open_session` opens has taken over the login of its token. -/
theorem openSession_ok {s : Hsm} {readWrite : Bool} {entry : AuditEntry}
    (hok : (openSession slotId readWrite s).1 = .ok (entry, .handle handle)) :
    ∃ stored, s.storedToken slotId = some stored ∧
      stored.token.auth.login.admits readWrite ∧
      (openSession slotId readWrite s).2.sessionManager.sessions[handle]? =
        some ((Session.new handle slotId (sessionFlags readWrite)).withLogin
          stored.token.auth.login) := by
  have hrun : (openSession slotId readWrite).Ensures s fun answer t ↦
      answer = .ok (entry, .handle handle) → ∃ stored, s.storedToken slotId = some stored ∧
        stored.token.auth.login.admits readWrite ∧ t.sessionManager.sessions[handle]? =
          some ((Session.new handle slotId (sessionFlags readWrite)).withLogin
            stored.token.auth.login) := by
    refine ensures_getToken (fun _ h ↦ by cases h) fun stored hslot ↦ ?_
    refine ensures_onSessions hslot (fun _ _ _ _ h ↦ by cases h) fun made manager token hrun h ↦ ?_
    obtain rfl : made = handle := Response.handle.inj (Prod.mk.inj (Except.ok.inj h)).2
    rcases s.sessionManager.openSession_eq slotId (sessionFlags readWrite) stored.token with
      ⟨e, heq⟩ | ⟨token', -, hadmits, heq⟩
    · simp [heq] at hrun
    · simp only [heq, Prod.mk.injEq, Except.ok.injEq] at hrun
      obtain ⟨rfl, rfl, -⟩ := hrun
      rw [isRwFlags_sessionFlags] at hadmits
      exact ⟨stored, hslot, hadmits, (getElem?_insert_eq_ite ..).trans (if_pos rfl)⟩
  exact hrun hok

/-- A session keeps its state for as long as it is open. -/
theorem run_session (hsession : s.hsm.sessionManager.sessions[handle]? = some found)
    (hlater : FoldMeets (HsmService.step platform) (HsmService.KeepsSession handle) s later) :
    (s.run platform later).hsm.sessionManager.sessions[handle]? = some found := by
  refine run_invariant (·.sessionManager.sessions[handle]? = some found)
    (fun u request done t hu hkeeps heffect ↦ ?_) hsession hlater
  rcases heffect.session_cases handle with hsame | ⟨hclose, -⟩ |
    ⟨slotId, readWrite, _, hrequest, hhandle, -⟩
  · rw [hsame, hu]
  · exact absurd hclose hkeeps.1
  · exact absurd ⟨⟨slotId, readWrite, hrequest⟩, hhandle.symm⟩ hkeeps.2

/-- No request but a login on the slot logs anybody in. -/
theorem CoreEffect.public {env : RequestEnv} {request : Request} {done : Bool} {s t : Hsm}
    (h : CoreEffect platform env s request done t) (hs : s.loginAt slotId = some .publicState)
    (hlogin : ¬((∃ session userType pin, request = .login session userType pin) ∧
      request.slot? s = some slotId)) : t.loginAt slotId = some .publicState := by
  have hset {u : Hsm} {other : Nat} {old next : StoredToken} (hslots : u.slots = s.slots)
      (hold : u.storedToken other = some old)
      (hnext : other = slotId → old.token.auth.login = .publicState →
        next.token.auth.login = .publicState) :
      (u.setStoredToken other next).loginAt slotId = some .publicState := by
    have hu : u.loginAt slotId = some .publicState := by rw [Hsm.loginAt, hslots]; exact hs
    rw [Hsm.loginAt_setStoredToken hold]
    split_ifs with heq
    · subst heq
      rw [Hsm.loginAt_of_storedToken hold] at hu
      rw [hnext rfl (Option.some.inj hu)]
    · exact hu
  cases h with
  | touched htouches _ =>
    obtain ⟨_, _, _, rfl, -⟩ := htouches
    exact hs
  | made htouches _ _ _ =>
    obtain ⟨_, _, _, rfl, -⟩ := htouches
    exact hs
  | destroyed _ => exact hs
  | @opened other _ readWrite stored manager token hslot hrun =>
    refine hset rfl hslot fun _ hpublic ↦ ?_
    rcases s.sessionManager.openSession_eq other (sessionFlags readWrite) stored.token with
      ⟨e, heq⟩ | ⟨token', hcount, -, heq⟩
    · simp [heq] at hrun
    · simp only [heq, Prod.mk.injEq] at hrun
      obtain ⟨-, -, rfl⟩ := hrun
      rw [← hpublic, Token.incrementSessionCount_auth hcount]
  | @closed session found stored result manager token hsession hslot hrun =>
    refine hset rfl hslot fun _ hpublic ↦ ?_
    simp only [SessionManager.closeSession, hsession, Prod.mk.injEq] at hrun
    obtain ⟨-, -, rfl⟩ := hrun
    rw [← hpublic, Token.decrementSessionCount_auth]
  | @tokenRun _ op other stored hop hrequest hslot =>
    refine hset rfl hslot fun heq hpublic ↦ ?_
    rcases (op.apply_effect platform.crates env.call.token stored).login_cases with
      hsame | hends | ⟨userType, pin, rfl⟩
    · rw [hsame, hpublic]
    · exact hends
    · refine absurd ⟨?_, heq ▸ hrequest⟩ hlogin
      cases request with
      | login session userType pin => exact ⟨session, userType, pin, rfl⟩
      | _ => cases hop

theorem run_public (hpublic : s.hsm.loginAt slotId = some .publicState)
    (hlater : FoldMeets (HsmService.step platform) (¬HsmService.LogsInto slotId · ·) s later) :
    (s.run platform later).hsm.loginAt slotId = some .publicState :=
  run_invariant (·.loginAt slotId = some .publicState)
    (fun _ _ _ _ hu hlogs heffect ↦ heffect.public hu hlogs) hpublic hlater

/-- A logout that is answered has left the token public. -/
theorem logout_ok {env : RequestEnv} {response : Response}
    (hsession : s.hsm.sessionManager.sessions[handle]? = some found)
    (hok : ((Request.logout handle).handle platform env s).1 = .ok response) :
    (s.step platform (env, .logout handle)).hsm.loginAt found.slotId = some .publicState := by
  obtain ⟨entry, hbody⟩ := audited_eq_ok hok
  have hrun : (logout env handle).Ensures s.hsm fun answer t ↦
      answer = .ok (entry, response) → t.loginAt found.slotId = some .publicState := by
    refine ensures_requireSession (fun _ h ↦ by cases h) fun found' hfound' ↦ ?_
    obtain rfl : found = found' := Option.mem_unique hsession hfound'
    refine ensures_getToken (fun _ h ↦ by cases h) fun stored hslot ↦ ?_
    refine ensures_onToken hslot (fun _ _ h ↦ by cases h) fun hlogout ↦
      Program.ensures_pure.mpr fun _ ↦ ?_
    rw [Hsm.loginAt_setStoredToken hslot, if_pos rfl]
    rcases logout_outcome env.call.token stored with ⟨-, e, heq⟩ | ⟨-, heq⟩
    · rw [heq] at hlogout
      cases hlogout
    · simp [heq]
  have hstep : (s.step platform (env, .logout handle)).hsm = (logout env handle s.hsm).2 :=
    audited_hsm env _ s
  rw [hstep]
  exact hrun hbody

/-- No session has an operation or a search. -/
def HsmService.NothingPending (s : HsmService) : Prop :=
  ∀ (handle : Nat) (found : CratonHsm.Session),
    s.hsm.sessionManager.sessions[handle]? = some found →
      found.activeOperation = none ∧ found.findContext = none

/-- No request of the daemon begins an operation or a search of a session. -/
theorem run_nothingPending (hs : s.NothingPending) (requests : List (RequestEnv × Request)) :
    (s.run platform requests).NothingPending := by
  refine run_invariant (fun u ↦ ∀ (handle : Nat) (found : CratonHsm.Session),
      u.sessionManager.sessions[handle]? = some found →
        found.activeOperation = none ∧ found.findContext = none)
    (fun u request done t hu (_ : True) heffect handle found hfound ↦ ?_) hs
    (.of_always fun _ _ _ ↦ trivial)
  rcases heffect.session_cases handle with hsame | ⟨-, hnone⟩ | ⟨_, _, _, _, _, _, _, hopened⟩
  · exact hu handle found (hsame ▸ hfound)
  · rw [hnone] at hfound
    cases hfound
  · rw [hopened] at hfound
    obtain rfl := Option.some.inj hfound
    exact ⟨rfl, rfl⟩

/-! ### Rights after every run -/

section Rights

variable (platform : Platform) (s : HsmService)

/-- Every request that checks a login, on any open session, follows the login of the token. -/
def HsmService.LoginDecides : Prop :=
  ∀ (env : RequestEnv) (request : Request) (handle : Nat) (found : CratonHsm.Session)
    (login : LoginState), request.session? = some handle →
    s.hsm.sessionManager.sessions[handle]? = some found →
    s.hsm.loginAt found.slotId = some login → request.NeedsLogin s.hsm found.slotId →
      FollowsLogin login s (request.handle platform env s)

/-- `InitPIN`, on any open session, is refused for the role and changes nothing when the token is
not logged in as security officer. -/
def HsmService.OfficerNeeded : Prop :=
  ∀ (env : RequestEnv) (pin : Bytes) (handle : Nat) (found : CratonHsm.Session)
    (login : LoginState),
    s.hsm.sessionManager.sessions[handle]? = some found →
    s.hsm.loginAt found.slotId = some login → login ≠ .soLoggedIn →
      ∃ e ∈ officerRefusals, (Request.initPin handle pin).handle platform env s = (.error e, s)

/-- A session that is opened while the security officer is logged in is, for as long as it is open,
not refused `InitPIN` for the role whenever the token is logged in as security officer. -/
def HsmService.OfficerEnough : Prop :=
  ∀ (env : RequestEnv) (slotId handle : Nat) (readWrite : Bool)
    (later : List (RequestEnv × Request)),
    s.hsm.loginAt slotId = some .soLoggedIn →
    ((Request.openSession slotId readWrite).handle platform env s).1 = .ok (.handle handle) →
    FoldMeets (HsmService.step platform) (HsmService.KeepsSession handle)
      (s.step platform (env, .openSession slotId readWrite)) later →
    let t := (s.step platform (env, .openSession slotId readWrite)).run platform later
    t.hsm.loginAt slotId = some .soLoggedIn →
      ∀ (env' : RequestEnv) (pin : Bytes), ∀ e ∈ officerRefusals,
        ((Request.initPin handle pin).handle platform env' t).1 ≠ .error e

/-- After a logout, and until the next login on the slot, every request that checks a login is
refused on every session of the slot and changes nothing. -/
def HsmService.LogoutEnds : Prop :=
  ∀ (env : RequestEnv) (session : Nat) (found : CratonHsm.Session) (response : Response)
    (later : List (RequestEnv × Request)),
    s.hsm.sessionManager.sessions[session]? = some found →
    ((Request.logout session).handle platform env s).1 = .ok response →
    FoldMeets (HsmService.step platform) (¬HsmService.LogsInto found.slotId · ·)
      (s.step platform (env, .logout session)) later →
    let t := (s.step platform (env, .logout session)).run platform later
    ∀ (env' : RequestEnv) (request : Request) (handle : Nat) (other : CratonHsm.Session),
      request.session? = some handle → t.hsm.sessionManager.sessions[handle]? = some other →
      other.slotId = found.slotId → request.NeedsLogin t.hsm found.slotId →
        request.handle platform env' t = (.error notLoggedIn, t)

variable {platform s}

theorem officerNeeded : s.OfficerNeeded platform := by
  intro env pin handle found login hsession hlogin hofficer
  obtain ⟨stored, hslot, rfl⟩ := storedToken_of_loginAt hlogin
  obtain ⟨e, he, hrefused⟩ := initPin_of_not_officer hsession hslot hofficer
  exact ⟨e, he, audited_of_refused hrefused⟩

theorem officerEnough : s.OfficerEnough platform := by
  intro env slotId handle readWrite later hofficer hopen hlater t hlogin env' pin e he herror
  obtain ⟨entry, hbody⟩ := audited_eq_ok hopen
  obtain ⟨stored, hslot, hadmits, hopened⟩ := openSession_ok hbody
  have hso : stored.token.auth.login = .soLoggedIn := by
    rw [Hsm.loginAt_of_storedToken hslot] at hofficer
    exact Option.some.inj hofficer
  have hstep : (s.step platform (env, .openSession slotId readWrite)).hsm =
      (openSession slotId readWrite s.hsm).2 := audited_hsm env _ s
  have hkept := run_session (hstep ▸ hopened) hlater
  obtain ⟨stored', hslot', hlogin'⟩ := storedToken_of_loginAt hlogin
  have hflags : stored.token.auth.login.admits (isRwFlags (sessionFlags readWrite)) := by
    rwa [isRwFlags_sessionFlags]
  have hisSo : ((Session.new handle slotId (sessionFlags readWrite)).withLogin
      stored.token.auth.login).state.isSo = true :=
    (Session.withLogin_agrees hflags).isSo_iff.mpr hso
  rcases audited_eq_error herror with hinit | haudit
  · exact initPin_of_officer hkept hslot' hlogin' hisSo hinit he
  · subst haudit
    revert he
    decide

theorem logoutEnds : s.LogoutEnds platform := by
  intro env session found response later hsession hok hlater t env' request handle other hrequest
    hother hslot hneeds
  have hpublic : t.hsm.loginAt found.slotId = some .publicState :=
    run_public (logout_ok hsession hok) hlater
  rw [← hslot] at hpublic hneeds
  have hfollows : FollowsLogin .publicState t (request.handle platform env' t) :=
    Request.handle_followsLogin hrequest hother hpublic hneeds
  rwa [FollowsLogin, if_pos rfl] at hfollows

/-- Over every run of the daemon, the login of the token decides which requests are refused for the
lack of one: a user or a security officer for the use of keys, a security officer for `InitPIN`. A
logout ends these rights, and no session has an operation or a search that could outlive it. -/
theorem sessionRights_after_every_run (platform : Platform) (config : ServiceConfig)
    (hsmConfig : HsmConfig) (disk : Disk) (statics : CipherStatics) (draw : InitDraw)
    (auditLog : AuditSystem) (requests : List (RequestEnv × Request)) :
    let started := HsmService.new config (.cInitialize hsmConfig disk statics draw) auditLog
    let s := started.run platform requests
    s.LoginDecides platform ∧ s.OfficerNeeded platform ∧ s.OfficerEnough platform ∧
      s.LogoutEnds platform ∧ s.NothingPending := by
  refine ⟨fun _ _ _ _ _ hrequest hsession hlogin hneeds ↦
    Request.handle_followsLogin hrequest hsession hlogin hneeds, officerNeeded, officerEnough,
    logoutEnds, run_nothingPending (fun handle found hfound ↦ ?_) requests⟩
  simp [HsmService.new, Hsm.cInitialize, SessionManager.new] at hfound

/-- The security officer, and nobody as user, is logged in to the token, and encrypts with a key. -/
theorem officer_usesKey :
    soService.hsm.loginAt 0 = some .soLoggedIn ∧
      ((Request.encrypt firstSession (some ⟨ckmAesCtr, List.replicate 16 2⟩) firstObject
        [0, 0]).handle samplePlatform (requestAt 3) soService).1 = .ok (.bytes [0x37, 0x1B]) := by
  decide +kernel

end Rights

end Runs

end CratonHsm.Daemon
