import CratonHsm.Daemon.Effects

/-!
# Effects without an audit record

The handlers act on the core and then record what they did. When the audit log refuses the event,
the request is answered with an error, but what it did stays: a key, a session, a login, a new PIN,
a destroyed object, or a count of wrong PINs. An event that is not refused is put into the channel
of the worker, and the request is answered before the worker writes it; that the write failed is
nowhere looked at. A request whose event is lost leaves nothing exactly when it only reads and the
event is refused at once, or when the token has refused it before it looked at the PIN.

That a new PIN changes the token needs a salt that the token does not have already.
-/

set_option autoImplicit false

namespace CratonHsm

open Crypto Library Session Store
open StoredToken

/-! ### Tokens that change -/

section Tokens

variable {crates : Crates} {env : TokenEnv} {s s' : StoredToken}

/-- The salt of the next PIN hash is not the salt of one that is stored. -/
def Token.FreshSalt (token : Token) (salt : FixedBytes 32) : Prop :=
  ∀ (role : Role) (hash : Bytes), token.pinHash role = some hash → ¬salt.1 <+: hash

theorem Token.FreshSalt.hashPin_ne {token : Token} (h : token.FreshSalt env.pinSalt)
    (crates : Crates) (role : Role) (pin : Bytes) :
    token.pinHash role ≠ some (token.hashPin crates env pin) :=
  fun hsame ↦ h role _ hsame (List.prefix_append ..)

theorem u32Succ_ne_self (n : Nat) : u32Succ n ≠ n := by
  unfold u32Succ
  omega

theorem enter_token_ne (hpublic : s.token.auth.login = .publicState) (role : Role) :
    (s.enter env role).token ≠ s.token := by
  intro hsame
  have hlogin : role.loginState = s.token.auth.login := by
    simpa using congrArg (·.auth.login) hsame
  rw [hpublic] at hlogin
  cases role <;> cases hlogin

theorem failPin_token_ne (role : Role) : (s.failPin env role).2.token ≠ s.token := by
  intro hsame
  rw [failPin_token] at hsame
  have hcount := congrArg (fun token ↦ (token.auth.lockout role).failedLogins) hsame
  exact u32Succ_ne_self (s.token.auth.lockout role).failedLogins (by cases role <;> exact hcount)

theorem reinitialize_token_ne (hfresh : s.token.FreshSalt env.pinSalt) (soPin : Bytes)
    (label : FixedBytes 32) : (s.reinitialize crates env soPin label).token ≠ s.token := by
  intro hsame
  rw [reinitialize_token] at hsame
  exact hfresh.hashPin_ne crates .so soPin (congrArg (·.pinHash .so) hsame).symm

/-- An operation that goes through changes the token. -/
theorem TokenEffect.token_ne {op : TokenOp} (h : TokenEffect crates env s op (.ok ()) s')
    (hop : op ≠ .restart) (hfresh : s.token.FreshSalt env.pinSalt) : s'.token ≠ s.token := by
  cases h with
  | loggedIn role pin hright => exact enter_token_ne (loginVerdict_login hright) role
  | pinChanged role oldPin newPin hright =>
    intro hsame
    rw [changePin_token] at hsame
    refine hfresh.hashPin_ne crates role newPin ((congrArg (·.pinHash role) hsame).symm.trans ?_)
    cases role <;> rfl
  | pinInstalled pin hso hvalid =>
    intro hsame
    rw [installUserPin_token] at hsame
    exact hfresh.hashPin_ne crates .user pin (congrArg (·.pinHash .user) hsame).symm
  | loggedOut hin =>
    exact fun hsame ↦ hin (by simpa using (congrArg (·.auth.login) hsame).symm)
  | reinitialized soPin label hright => exact reinitialize_token_ne hfresh soPin label
  | restarted => exact absurd rfl hop

/-- The token refuses the operation before it compares a PIN, or without counting the comparison. -/
def StoredToken.RefusesUncounted (crates : Crates) (env : TokenEnv) (s : StoredToken) :
    TokenOp → Prop
  | .login userType pin => ∀ role : Role, userType = role.userType →
      s.loginVerdict crates env role pin = none
  | .initToken soPin _ => s.token.config.validatePin soPin ≠ .ok () ∨
      s.token.auth.initialized = true ∧
        checkRateLimit env.now s.token.auth.initTokenNextAllowed ≠ .ok ()
  | _ => False

theorem login_eq_self_iff (userType : Nat) (pin : Bytes) :
    (s.login crates env userType pin).2 = s ↔
      s.RefusesUncounted crates env (.login userType pin) := by
  by_cases hrole : ∃ role : Role, userType = role.userType
  · obtain ⟨role, rfl⟩ := hrole
    have hrefuses : s.RefusesUncounted crates env (.login role.userType pin) ↔
        s.loginVerdict crates env role pin = none := by
      refine ⟨fun h ↦ h role rfl, fun h other hother ↦ ?_⟩
      have hsame : other = role := by cases role <;> cases other <;> first | rfl | cases hother
      rwa [hsame]
    rw [hrefuses]
    rcases login_outcome crates env s role pin with
      ⟨hnone, e, heq⟩ | ⟨hwrong, -, heq⟩ | ⟨hright, heq⟩
    · simp [heq, hnone]
    · rw [heq, hwrong]
      exact iff_of_false (fun h ↦ failPin_token_ne role (congrArg token h)) (by simp)
    · rw [heq, hright]
      exact iff_of_false (fun h ↦ enter_token_ne (loginVerdict_login hright) role
        (congrArg token h)) (by simp)
  · obtain ⟨e, heq⟩ := login_of_not_role crates env s pin fun role h ↦ hrole ⟨role, h⟩
    rw [heq]
    exact iff_of_true rfl fun role h ↦ absurd ⟨role, h⟩ hrole

theorem initToken_eq_self_iff (soPin : Bytes) (label : FixedBytes 32)
    (hfresh : s.token.FreshSalt env.pinSalt) :
    (s.initToken crates env soPin label).2 = s ↔
      s.RefusesUncounted crates env (.initToken soPin label) := by
  have hreinit : (s.reinitialize crates env soPin label) ≠ s :=
    fun hsame ↦ reinitialize_token_ne hfresh soPin label (congrArg token hsame)
  have hfail : (s.failInitToken env).2 ≠ s := fun hsame ↦ by
    refine u32Succ_ne_self s.token.auth.failedInitTokenLogins ?_
    simpa using congrArg (·.token.auth.failedInitTokenLogins) hsame
  simp only [initToken, StoredToken.RefusesUncounted]
  cases hvalid : s.token.config.validatePin soPin with
  | error e => simp
  | ok u =>
    cases hinit : s.token.auth.initialized with
    | false => simp [hreinit]
    | true =>
      cases hrate : checkRateLimit env.now s.token.auth.initTokenNextAllowed with
      | error e => simp
      | ok u =>
        cases hhash : s.token.soPinHash with
        | none => simp [hreinit]
        | some hash =>
          cases hpin : s.token.verifyPin crates hash soPin <;> simp [hreinit, hfail, hpin]

end Tokens

namespace Daemon

open Audit

/-! ### What stays -/

/-- Tokens, sessions and objects are as they were. -/
structure Untouched (s t : Hsm) : Prop where
  slots : t.slots = s.slots
  lockoutFile : t.lockoutFile = s.lockoutFile
  sessions : t.sessionManager.sessions = s.sessionManager.sessions
  objects : t.objectStore.objects = s.objectStore.objects
  records : t.objectStore.records = s.objectStore.records

/-- The request is answered with an error and leaves nothing behind. -/
structure LeavesNothing (platform : Platform) (env : RequestEnv) (s : HsmService)
    (request : Request) : Prop where
  answer : (request.handle platform env s).1.isOk = false
  untouched : Untouched s.hsm (request.handle platform env s).2.hsm

/-- The token refuses the request before it compares a PIN, or without counting the comparison. -/
def Request.RefusedUncounted (platform : Platform) (env : RequestEnv) (s : Hsm)
    (request : Request) : Prop :=
  ∃ op slotId stored, request.tokenOp? = some op ∧ request.slot? s = some slotId ∧
    s.storedToken slotId = some stored ∧ stored.RefusesUncounted platform.crates env.call.token op

section Effects

variable {platform : Platform} {env : RequestEnv} {request : Request} {s t : Hsm}

theorem Untouched.refl (s : Hsm) : Untouched s s := ⟨rfl, rfl, rfl, rfl, rfl⟩

theorem Touches.untouched (h : Touches request s t) : Untouched s t := by
  obtain ⟨_, _, _, rfl, -⟩ := h
  exact ⟨rfl, rfl, rfl, rfl, rfl⟩

theorem Untouched.storedToken_eq (h : Untouched s t) (slotId : Nat) :
    t.storedToken slotId = s.storedToken slotId := by
  simp only [Hsm.storedToken, h.slots, h.lockoutFile]

/-- A token that is replaced by another is touched. -/
theorem Untouched.stored_eq {slotId : Nat} {stored stored' : StoredToken}
    (hslot : s.storedToken slotId = some stored)
    (h : Untouched s (s.setStoredToken slotId stored')) : stored' = stored := by
  have hafter := h.storedToken_eq slotId
  rw [Hsm.storedToken_setStoredToken hslot, hslot] at hafter
  exact Option.some.inj hafter

theorem insertAll_length :
    ∀ (objects : List (StoreDraw × StoredObject)) (s : Hsm),
      (insertAll platform s objects).objectStore.objects.cells.length =
        s.objectStore.objects.cells.length + objects.length
  | [], _ => rfl
  | (draw, obj) :: objects, s => by
    have hrest := insertAll_length objects { s with
      objectStore := s.objectStore.addObject platform.crates platform.codec draw obj.handle obj }
    simp only [ObjectStore.addObject_objects, SharedMap.length_insert] at hrest
    rw [List.length_cons, ← Nat.add_assoc, Nat.add_right_comm]
    exact hrest

theorem tokenOp?_ne_restart {op : TokenOp} (hop : request.tokenOp? = some op) : op ≠ .restart := by
  rintro rfl
  cases request <;> cases hop

theorem incrementSessionCount_ne {token token' : Token} {rw : Bool}
    (h : token.incrementSessionCount rw = .ok token') : token' ≠ token := by
  intro hsame
  have hcount := congrArg Token.sessionCount hsame
  unfold Token.incrementSessionCount at h
  split_ifs at h <;> cases h <;> simp at hcount

/-- What a request has gone through leaves something behind, unless it only reads. -/
theorem CoreEffect.onlyReads_of_untouched {done : Bool}
    (heffect : CoreEffect platform env s request done t) (hdone : done = true)
    (hfresh : ∀ slotId stored, s.storedToken slotId = some stored →
      stored.token.FreshSalt env.call.token.pinSalt) (h : Untouched s t) :
    request.onlyReads = true := by
  cases heffect with
  | touched _ hreads => exact hreads hdone
  | made htouches _ first others =>
    have hlength := congrArg (·.cells.length) h.objects
    simp only [insertAll_length, htouches.objects_eq, List.length_cons] at hlength
    omega
  | @destroyed session object obj hobj =>
    have hobjects : s.objectStore.objects.erase object = s.objectStore.objects :=
      (ObjectStore.unpersistObject_objects ..).symm.trans h.objects
    have hgone := s.objectStore.objects.get?_erase object object
    rw [if_pos rfl, hobjects, hobj] at hgone
    cases hgone
  | @opened slotId handle readWrite stored manager token hslot hrun =>
    rcases s.sessionManager.openSession_eq slotId (sessionFlags readWrite) stored.token with
      ⟨e, heq⟩ | ⟨token', hcount, -, heq⟩
    · simp [heq] at hrun
    · simp only [heq, Prod.mk.injEq] at hrun
      obtain ⟨-, -, rfl⟩ := hrun
      have hafter := h.storedToken_eq slotId
      rw [Hsm.storedToken_setStoredToken (s := { s with sessionManager := manager }) hslot,
        hslot] at hafter
      exact absurd (congrArg token (Option.some.inj hafter))
        (incrementSessionCount_ne hcount)
  | @closed session found stored result manager token hsession _ hrun =>
    simp only [SessionManager.closeSession, hsession, Prod.mk.injEq] at hrun
    obtain ⟨-, rfl, -⟩ := hrun
    have hgone : (s.sessionManager.sessions.erase session)[session]? = none :=
      (getElem?_erase_eq_ite ..).trans (if_pos rfl)
    rw [show s.sessionManager.sessions.erase session = s.sessionManager.sessions from h.sessions,
      hsession] at hgone
    cases hgone
  | @tokenRun _ op slotId stored hop _ hslot =>
    have hrun := op.apply_effect platform.crates env.call.token stored
    cases hresult : (op.apply platform.crates env.call.token stored).1 with
    | error e => rw [hresult] at hdone; cases hdone
    | ok u =>
      rw [hresult] at hrun
      exact absurd (congrArg token (h.stored_eq hslot))
        (hrun.token_ne (tokenOp?_ne_restart hop) (hfresh slotId stored hslot))

theorem Request.kind_of_makesObjects (h : request.makesObjects = true) :
    request.onlyReads = false ∧ request.tokenOp? = none := by
  cases request <;> first | exact ⟨rfl, rfl⟩ | cases h

theorem Request.kind_of_onlyReads (h : request.onlyReads = true) : request.tokenOp? = none := by
  cases request <;> first | rfl | cases h

theorem CoreEffect.untouched_of_onlyReads {done : Bool}
    (heffect : CoreEffect platform env s request done t) (hreads : request.onlyReads = true) :
    Untouched s t := by
  cases heffect with
  | touched htouches _ => exact htouches.untouched
  | made _ hmakes _ _ =>
    rw [(Request.kind_of_makesObjects hmakes).1] at hreads
    cases hreads
  | destroyed _ => cases hreads
  | opened _ _ => cases hreads
  | closed _ _ _ => cases hreads
  | tokenRun hop _ _ =>
    rw [Request.kind_of_onlyReads hreads] at hop
    cases hop

theorem CoreEffect.untouched_of_refusedUncounted {done : Bool}
    (heffect : CoreEffect platform env s request done t)
    (hfresh : ∀ slotId stored, s.storedToken slotId = some stored →
      stored.token.FreshSalt env.call.token.pinSalt)
    (hrefused : request.RefusedUncounted platform env s) : Untouched s t := by
  obtain ⟨op, slotId, stored, hop, hrequest, hslot, hrefuses⟩ := hrefused
  cases heffect with
  | touched htouches _ => exact htouches.untouched
  | made _ hmakes _ _ =>
    rw [(Request.kind_of_makesObjects hmakes).2] at hop
    cases hop
  | destroyed _ => cases hop
  | opened _ _ => cases hop
  | closed _ _ _ => cases hop
  | tokenRun hop' hrequest' hslot' =>
    obtain rfl := Option.mem_unique hop hop'
    obtain rfl := Option.mem_unique hrequest hrequest'
    obtain rfl := Option.mem_unique hslot hslot'
    have hself : (op.apply platform.crates env.call.token stored).2 = stored := by
      cases op with
      | login userType pin => exact (login_eq_self_iff userType pin).mpr hrefuses
      | initToken soPin label =>
        exact (initToken_eq_self_iff soPin label (hfresh slotId stored hslot)).mpr hrefuses
      | _ => exact hrefuses.elim
    rw [hself, Hsm.setStoredToken_self hslot]
    exact .refl s

/-- A token that was left as it was by a request that records its failures has refused it. -/
theorem RunsToken.refusedUncounted (h : RunsToken platform env s request t)
    (hfresh : ∀ slotId stored, s.storedToken slotId = some stored →
      stored.token.FreshSalt env.call.token.pinSalt)
    (hrecords : request.recordsFailures = true) (huntouched : Untouched s t) :
    request.RefusedUncounted platform env s := by
  obtain ⟨op, slotId, stored, hop, hrequest, hslot, rfl⟩ := h
  have hself := huntouched.stored_eq hslot
  refine ⟨op, slotId, stored, hop, hrequest, hslot, ?_⟩
  cases request with
  | login session userType pin =>
    obtain rfl := Option.some.inj hop
    exact (login_eq_self_iff userType pin).mp hself
  | initToken slotId' soPin label =>
    obtain rfl := Option.some.inj hop
    exact (initToken_eq_self_iff soPin _ (hfresh slotId stored hslot)).mp hself
  | _ => cases hrecords

end Effects

/-! ### Requests whose event is not recorded -/

/-- `record` refuses the event of a request at once. -/
def RefusedAtOnce (s after : HsmService) : Prop := after.refusedEvents ≠ s.refusedEvents

/-- The event of a request is not recorded: `record` refuses it at once, or takes it, and the worker
fails with it in what it does later. -/
def RecordingFails (codec : AuditCodec) (later : List ServiceStep) (s after : HsmService) : Prop :=
  RefusedAtOnce s after ∨ after.auditLog.sent ≠ s.auditLog.sent ∧
    ∃ e, (s.auditLog.sent.length, .error e) ∈ (after.auditLog.run codec later).processed

/-- If the event of a request is not recorded, nothing of the request stays exactly when it only
reads and the event is refused at once, or when the token has refused the request without counting a
PIN. -/
theorem leavesNothing_iff {platform : Platform} {env : RequestEnv} {s : HsmService}
    {request : Request} {codec : AuditCodec} {later : List ServiceStep}
    (hfails : RecordingFails codec later s (request.handle platform env s).2)
    (hfresh : ∀ slotId stored, s.hsm.storedToken slotId = some stored →
      stored.token.FreshSalt env.call.token.pinSalt) :
    LeavesNothing platform env s request ↔
      request.onlyReads = true ∧ RefusedAtOnce s (request.handle platform env s).2 ∨
        request.RefusedUncounted platform env s.hsm := by
  obtain ⟨done, heffect, hdone, hfate⟩ := (request.handle_effect (s := s)).core
  constructor
  · rintro ⟨hanswer, huntouched⟩
    cases hfate with
    | unrecorded hevents hsent =>
      exact absurd hfails (not_or.mpr ⟨fun h ↦ h hevents, fun h ↦ h.1 hsent⟩)
    | refused hevents _ hwhat =>
      rcases hwhat with hdone | ⟨hrecords, hruns⟩
      · exact Or.inl ⟨heffect.onlyReads_of_untouched hdone hfresh huntouched, hevents⟩
      · exact Or.inr (hruns.refusedUncounted hfresh hrecords huntouched)
    | handed hevents hwhat =>
      -- a request whose event the worker takes fails only with its token
      rcases hwhat with hok | ⟨-, hrecords, hruns⟩
      · rw [hanswer] at hok
        cases hok
      · exact Or.inr (hruns.refusedUncounted hfresh hrecords huntouched)
  · rintro (⟨hreads, hevents⟩ | hrefused)
    · cases hfate with
      | unrecorded hsame _ => exact absurd hsame hevents
      | refused _ hanswer _ => exact ⟨hanswer, heffect.untouched_of_onlyReads hreads⟩
      | handed hsame _ => exact absurd hsame hevents
    · have huntouched := heffect.untouched_of_refusedUncounted hfresh hrefused
      refine ⟨Bool.eq_false_iff.mpr fun hok ↦ ?_, huntouched⟩
      -- an operation that went through would have left something
      have hreads := heffect.onlyReads_of_untouched (hdone hok) hfresh huntouched
      obtain ⟨op, -, -, hop, -⟩ := hrefused
      rw [Request.kind_of_onlyReads hreads] at hop
      cases hop

/-- The service of the security officer whose audit log has found tampering. -/
def tamperedService : HsmService :=
  { soService with auditLog := { soService.auditLog with system := { soService.auditLog.system with
      log := { soService.auditLog.system.log with tamperFlag := true } } } }

/-- A request with another salt than those of the stored PIN hashes. -/
def freshRequest : RequestEnv :=
  { requestAt 5 with call := { callEnvAt 5 with token := { envAt 5 with pinSalt := keySaltTwos } } }

theorem soService_freshSalt (slotId : Nat) (stored : StoredToken)
    (hslot : soService.hsm.storedToken slotId = some stored) :
    stored.token.FreshSalt freshRequest.call.token.pinSalt := by
  have hslots : ∀ slot ∈ soService.hsm.slots,
      (slot.token.pinHash .user).all (fun hash ↦ !keySaltTwos.1.isPrefixOf hash) = true ∧
        (slot.token.pinHash .so).all (fun hash ↦ !keySaltTwos.1.isPrefixOf hash) = true := by
    decide +kernel
  obtain ⟨slot, hget, rfl⟩ := Hsm.storedToken_eq_some_iff.mp hslot
  obtain ⟨huser, hso⟩ := hslots slot (List.mem_of_getElem? hget)
  intro role hash hhash hstarts
  have hstarts' : keySaltTwos.1.isPrefixOf hash = true := List.isPrefixOf_iff_prefix.mpr hstarts
  have hhash' : slot.token.pinHash role = some hash := hhash
  cases role with
  | user => simp [hhash', hstarts'] at huser
  | so => simp [hhash', hstarts'] at hso

/-- The service of the security officer whose audit log is kept in a file. -/
def loggingService : HsmService :=
  { soService with auditLog := { soService.auditLog with system := { soService.auditLog.system with
      log := { soService.auditLog.system.log with logPath := true } } } }

/-- Events as empty texts. -/
def emptyCodec : AuditCodec :=
  ⟨fun _ ↦ some [], fun _ ↦ some [], fun _ ↦ none, fun _ ↦ zeroHash, fun _ ↦ true, id⟩

/-- The worker takes five events, and can open the file for none. -/
def unwritable : List ServiceStep :=
  List.replicate 5 (.work 9 { DiskOutcome.success with opens := false })

/-- A search leaves nothing when its event is refused at once; it is answered when the worker loses
the event, the fifth since the start. -/
theorem findObjects_leavesNothing :
    LeavesNothing samplePlatform freshRequest tamperedService (.findObjects firstSession [] 0) ∧
      ¬LeavesNothing samplePlatform freshRequest loggingService
        (.findObjects firstSession [] 0) := by
  let search : Request := .findObjects firstSession [] 0
  constructor
  · have hrefused : RefusedAtOnce tamperedService
        (search.handle samplePlatform freshRequest tamperedService).2 :=
      fun h ↦ absurd (congrArg List.length h) (by decide +kernel)
    have hfails : RecordingFails emptyCodec [] tamperedService
        (search.handle samplePlatform freshRequest tamperedService).2 := Or.inl hrefused
    exact (leavesNothing_iff hfails soService_freshSalt).mpr (Or.inl ⟨rfl, hrefused⟩)
  · have hfails : RecordingFails emptyCodec unwritable loggingService
        (search.handle samplePlatform freshRequest loggingService).2 :=
      Or.inr ⟨fun h ↦ absurd (congrArg List.length h) (by decide +kernel), .generalError,
        by decide +kernel⟩
    intro hleaves
    rcases (leavesNothing_iff hfails soService_freshSalt).mp hleaves with
      ⟨-, hrefused⟩ | ⟨op, -, -, hop, -⟩
    · exact hrefused ((List.length_eq_zero_iff.mp (by decide +kernel)).trans
        (List.length_eq_zero_iff.mp (by decide +kernel)).symm)
    · cases hop

/-- The key of the security officer is destroyed although the audit log refuses the event: the
request is answered with an error, and the key is gone. -/
theorem destroyObject_withoutRecord :
    let answered := (Request.destroyObject firstSession firstObject).handle samplePlatform
      freshRequest tamperedService
    answered.1 = .error ⟨.internal, "Audit system failure"⟩ ∧
      answered.2.refusedEvents.length = 1 ∧
      (tamperedService.hsm.objectStore.objects.get? firstObject).isSome = true ∧
      answered.2.hsm.objectStore.objects.get? firstObject = none ∧
      ¬LeavesNothing samplePlatform freshRequest tamperedService
        (.destroyObject firstSession firstObject) := by
  intro answered
  have hthere : (tamperedService.hsm.objectStore.objects.get? firstObject).isSome = true := by
    decide +kernel
  have hgone : answered.2.hsm.objectStore.objects.get? firstObject = none := by decide +kernel
  refine ⟨by decide +kernel, by decide +kernel, hthere, hgone, fun hleaves ↦ ?_⟩
  rw [← hleaves.untouched.objects] at hthere
  exact absurd hthere (by rw [hgone]; exact Bool.false_ne_true)

end Daemon

end CratonHsm
