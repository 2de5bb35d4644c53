import CratonHsm.Abi.OperationResults
import CratonHsm.Abi.SessionCalls

/-!
# Supplied data and the result

After an operation is started, a caller may mix parts, single calls and final calls of all kinds
(`OperationCall`). The data supplied so far are those of the calls that answered `CKR_OK` with more
than a length (`suppliedBy`).

As long as no call fails, the operation holds exactly the supplied data (`reaches_last`). A final
call gives a result for them. A single call gives a result for its own input and drops the parts
before it, which only `C_Digest` refuses to do (`result_for_supplied_iff`).
-/

set_option autoImplicit false

namespace CratonHsm

open Crypto Crypto.Encrypt Library Store

/-! ### Calls and what they supply -/

/-- A call that feeds an operation or asks it for its result, up to the kind of the operation. -/
inductive DataCall where
  | part (data : Bytes)
  | single (data : Bytes) (output : Option Nat) (signature : Bytes)
  | finish (output : Option Nat) (signature : Bytes)

/-- A call of some kind of operation. -/
structure OperationCall where
  type : OperationType
  env : CallEnv
  call : DataCall

namespace OperationCall

/-- The entry point of a call. -/
def run (platform : Platform) (handle : Nat) (c : OperationCall) : Entry :=
  match c.call with
  | .part data => c.type.feed handle data
  | .single data output signature => c.type.single platform c.env handle data output signature
  | .finish output signature => c.type.finish platform c.env handle output signature

/-- The input of a call. -/
def data (c : OperationCall) : Bytes :=
  match c.call with
  | .part data => data
  | .single data _ _ => data
  | .finish _ _ => []

/-- The signature that a call asks to verify. -/
def signature (c : OperationCall) : Bytes :=
  match c.call with
  | .part _ => []
  | .single _ _ signature => signature
  | .finish _ signature => signature

variable (c : OperationCall)

/-- Whether a call takes the whole input at once. -/
def isSingle : Bool :=
  match c.call with
  | .single _ _ _ => true
  | _ => false

/-- Whether an answer is a result of the call. A part has none. -/
def Gives (reply : Reply) : Prop :=
  match c.call with
  | .part _ => False
  | _ => c.type.IsResult reply

/-- What a call supplied, by its answer. A call that fails, or is told a length only, supplies
nothing. -/
def supplies : Except CkRv Reply → Bytes
  | .ok (.bytes _) => c.data
  | .ok .done => c.data
  | _ => []

theorem data_eq_nil {c : OperationCall} {reply : Reply} (hgives : c.Gives reply)
    (hsingle : c.isSingle = false) : c.data = [] := by
  obtain ⟨type, env, call⟩ := c
  cases call with
  | part data => exact hgives.elim
  | single data output signature => cases hsingle
  | finish output signature => rfl

@[simp]
theorem supplies_length (length : Nat) : c.supplies (.ok (.length length)) = [] := rfl

@[simp]
theorem supplies_tooSmall (length : Nat) : c.supplies (.ok (.tooSmall length)) = [] := rfl

end OperationCall

/-- The data that calls made in order supply. -/
def suppliedBy (platform : Platform) (handle : Nat) : List OperationCall → Hsm → Bytes
  | [], _ => []
  | c :: calls, s => c.supplies (c.run platform handle s).1 ++
      suppliedBy platform handle calls (c.run platform handle s).2

/-- The library after calls made in order. -/
def afterCalls (platform : Platform) (handle : Nat) (calls : List OperationCall) (s : Hsm) : Hsm :=
  calls.foldl (fun s c ↦ (c.run platform handle s).2) s

/-- No answer is a result for two messages at once. For signatures and digests: the two messages do
not collide. -/
def TellsApart (platform : Platform) (type : OperationType) (mechanism : Nat)
    (mechanismParam : Bytes) (obj : StoredObject) (signature message message' : Bytes) : Prop :=
  ∀ reply, IsResultFor platform type mechanism mechanismParam obj signature message reply →
    IsResultFor platform type mechanism mechanismParam obj signature message' reply →
      message = message'

/-! ### The operation holds what was supplied -/

section Run

variable {platform : Platform} {s : Hsm} {handle : Nat} {session : Session} {type : OperationType}
  {mechanism key : Nat} {mechanismParam : Bytes} {ref : Nat} {fed : Bytes} {obj : StoredObject}

/-- The library in the course of an operation that has been fed, with the objects as they were. -/
structure Holding (s : Hsm) (handle : Nat) (type : OperationType) (mechanism key : Nat)
    (mechanismParam : Bytes) (ref : Nat) (obj : StoredObject) (fed : Bytes) : Prop where
  active : ∃ session, s.Open handle session ∧ session.activeOperation =
    some (type.operationWith mechanism key mechanismParam ref fed)
  get_eq : type ≠ .digest → s.objectStore.objects.get? key = some obj
  deref_eq : type ≠ .digest → s.objectStore.objects.deref ref = some obj

/-- No operation is active. -/
def Idle (s : Hsm) (handle : Nat) : Prop :=
  ∃ session, s.Open handle session ∧ session.activeOperation = none

theorem OperationCall.run_other (c : OperationCall) (hopen : s.Open handle session)
    (hlacks : session.Lacks c.type) :
    c.run platform handle s = (.error .operationNotInitialized, s) := by
  unfold OperationCall.run
  cases c.call with
  | part data => exact c.type.feed_other hopen hlacks data
  | single data output signature =>
    exact c.type.single_other hopen hlacks data output signature
  | finish output signature => exact c.type.finish_other hopen hlacks output signature

theorem Idle.run_error (h : Idle s handle) (c : OperationCall) (reply : Reply) :
    (c.run platform handle s).1 ≠ .ok reply := by
  obtain ⟨session, hopen, hidle⟩ := h
  rw [c.run_other hopen (Session.lacks_of_idle hidle c.type)]
  nofun

theorem Ended.idle {s' : Hsm} (h : Ended s s' handle session) (hopen : s.Open handle session) :
    Idle s' handle :=
  ⟨_, h.open hopen, rfl⟩

namespace Holding

variable {c : OperationCall} {reply : Reply}

variable (h : Holding s handle type mechanism key mechanismParam ref obj fed)
include h

/-- A call that succeeds is one of the operation. -/
theorem type_eq (hok : (c.run platform handle s).1 = .ok reply) : c.type = type := by
  obtain ⟨session, hopen, hop⟩ := h.active
  by_contra hother
  rw [c.run_other hopen ?_] at hok
  · cases hok
  · intro operation hoperation htype
    rw [Option.mem_unique hoperation hop, saved_type_operationWith] at htype
    exact hother htype.symm

theorem keep {s' : Hsm} (hkept : Kept s s') :
    Holding s' handle type mechanism key mechanismParam ref obj fed := by
  obtain ⟨statics, uses, rfl⟩ := hkept
  obtain ⟨session, hopen, hop⟩ := h.active
  exact ⟨⟨session, ⟨hopen.postFailed_eq, hopen.session_eq⟩, hop⟩, h.get_eq, h.deref_eq⟩

/-- A call that ends no operation has told a length or refused a buffer, and supplied nothing. -/
theorem of_outcome {signature message : Bytes} {s' : Hsm} (hopen : s.Open handle session)
    (houtcome : Outcome platform type mechanism mechanismParam obj signature message s
      handle session reply s') :
    Holding s' handle type mechanism key mechanismParam ref obj (fed ++ c.supplies (.ok reply)) ∨
      Idle s' handle := by
  cases houtcome with
  | length n =>
    rw [OperationCall.supplies_length, List.append_nil]
    exact Or.inl h
  | tooSmall n hstate =>
    rw [OperationCall.supplies_tooSmall, List.append_nil]
    exact hstate.imp h.keep (·.idle hopen)
  | result _ hended => exact Or.inr (hended.idle hopen)

/-- A call that succeeds leaves the operation with what it supplied, or ends it. -/
theorem run_ok (hok : (c.run platform handle s).1 = .ok reply) :
    Holding (c.run platform handle s).2 handle type mechanism key mechanismParam ref obj
        (fed ++ c.supplies (.ok reply)) ∨ Idle (c.run platform handle s).2 handle := by
  have htype := h.type_eq hok
  obtain ⟨session, hopen, hop⟩ := h.active
  obtain ⟨type, env, call⟩ := c
  subst htype
  unfold OperationCall.run at hok ⊢
  cases call with
  | part data =>
    rcases feed_step hopen hop data with hfeed | ⟨e, hfeed⟩
    · simp only [hfeed] at hok ⊢
      obtain rfl := Except.ok.inj hok
      refine Or.inl ⟨⟨_, hopen.setOperation _, ?_⟩, h.get_eq, h.deref_eq⟩
      cases type <;> rfl
    · simp only [hfeed] at hok
      cases hok
  | single data output signature =>
    exact h.of_outcome hopen (single_outcome hopen hop h.get_eq hok).1
  | finish output signature => exact h.of_outcome hopen (finish_outcome hopen hop h.deref_eq hok)

/-- Where calls all succeed and one more does, the operation holds what the earlier ones
supplied. -/
theorem reaches_last {calls : List OperationCall}
    (hquiet : ∀ answer ∈ Program.replies (calls.map (·.run platform handle)) s,
      ∃ reply, answer = .ok reply)
    (hlast : (c.run platform handle (afterCalls platform handle calls s)).1 = .ok reply) :
    Holding (afterCalls platform handle calls s) handle type mechanism key mechanismParam ref obj
      (fed ++ suppliedBy platform handle calls s) := by
  induction calls generalizing s fed with
  | nil =>
    rw [suppliedBy, List.append_nil]
    exact h
  | cons first calls ih =>
    obtain ⟨answer, hanswer⟩ := hquiet _ List.mem_cons_self
    have hrest := fun answer hmem ↦ hquiet answer (List.mem_cons_of_mem _ hmem)
    rcases h.run_ok hanswer with hholding | hidle
    · rw [suppliedBy, hanswer, ← List.append_assoc]
      exact ih hholding hrest hlast
    · -- an ended operation refuses the next call, whichever that is
      cases calls with
      | nil => exact absurd hlast (hidle.run_error c reply)
      | cons next calls =>
        obtain ⟨answer, hanswer⟩ := hrest _ List.mem_cons_self
        exact absurd hanswer (hidle.run_error next answer)

/-- What a result is for: the own input of a single call, and what was fed for a final call. A
digest at once comes before any part. -/
theorem result_for (hok : (c.run platform handle s).1 = .ok reply) (hgives : c.Gives reply) :
    IsResultFor platform type mechanism mechanismParam obj c.signature
        (if c.isSingle then c.data else fed) reply ∧
      (c.isSingle = true → type = .digest → fed = []) := by
  have htype := h.type_eq hok
  obtain ⟨session, hopen, hop⟩ := h.active
  obtain ⟨type, env, call⟩ := c
  subst htype
  have hresult : ∀ {message s'}, Outcome platform type mechanism mechanismParam obj
      (OperationCall.signature ⟨type, env, call⟩) message s handle session reply s' →
      type.IsResult reply →
        IsResultFor platform type mechanism mechanismParam obj
          (OperationCall.signature ⟨type, env, call⟩) message reply := by
    rintro message s' houtcome hform
    cases houtcome with
    | length n => cases type <;> simp [OperationType.IsResult] at hform
    | tooSmall n => cases type <;> simp [OperationType.IsResult] at hform
    | result hresult => exact hresult
  cases call with
  | part data => exact hgives.elim
  | single data output signature =>
    obtain ⟨houtcome, hfresh⟩ := single_outcome hopen hop h.get_eq hok
    exact ⟨hresult houtcome hgives, fun _ ↦ hfresh⟩
  | finish output signature =>
    exact ⟨hresult (finish_outcome hopen hop h.deref_eq hok) hgives, nofun⟩

end Holding

end Run

theorem Started.holding {type : OperationType} {env : CallEnv} {s : Hsm} {handle : Nat}
    {session : Session} {mechanism : Nat} {mechanismParam : Bytes} {key ref : Nat}
    {obj : StoredObject}
    (h : Started type env s handle session mechanism mechanismParam key ref obj) :
    Holding (type.start env handle mechanism mechanismParam key s).2 handle type mechanism key
      (extractMechanismParam mechanismParam) ref obj [] := by
  rw [h.state_eq]
  exact ⟨⟨_, h.opened.setOperation _, rfl⟩, h.obj_eq, h.deref_eq⟩

/-- An operation is started, and calls of any kind are made on its session, none of which fails. The
result that the last one gives is the one for all data supplied since the start exactly if the last
call is not a single one, or no part before it supplied anything. -/
theorem result_for_supplied_iff (platform : Platform) (type : OperationType) (env : CallEnv)
    (s : Hsm) (handle mechanism : Nat) (mechanismParam : Bytes) (key : Nat) (obj : StoredObject)
    (calls : List OperationCall) (last : OperationCall) (reply : Reply)
    (hobj : type ≠ .digest → s.objectStore.objects.get? key = some obj)
    (hstart : (type.start env handle mechanism mechanismParam key s).1 = .ok .done)
    (hquiet : ∀ answer ∈ Program.replies (calls.map (·.run platform handle))
      (type.start env handle mechanism mechanismParam key s).2, ∃ reply, answer = .ok reply)
    (hlast : (last.run platform handle (afterCalls platform handle calls
      (type.start env handle mechanism mechanismParam key s).2)).1 = .ok reply)
    (hgives : last.Gives reply)
    (happart : last.isSingle = true → type ≠ .digest → TellsApart platform type mechanism
      (extractMechanismParam mechanismParam) obj last.signature last.data
      (suppliedBy platform handle calls
        (type.start env handle mechanism mechanismParam key s).2 ++ last.data)) :
    IsResultFor platform type mechanism (extractMechanismParam mechanismParam) obj last.signature
        (suppliedBy platform handle calls
          (type.start env handle mechanism mechanismParam key s).2 ++ last.data) reply ↔
      last.isSingle = false ∨ suppliedBy platform handle calls
        (type.start env handle mechanism mechanismParam key s).2 = [] := by
  obtain ⟨session, ref, obj', hstarted⟩ := Started.of_ok hstart
  have hholding := hstarted.holding.reaches_last hquiet hlast
  obtain ⟨hresult, hfresh⟩ := hholding.result_for hlast hgives
  have hsame : type ≠ .digest → obj' = obj := fun htype ↦
    Option.mem_unique (hstarted.obj_eq htype) (hobj htype)
  have hresult : IsResultFor platform type mechanism (extractMechanismParam mechanismParam) obj
      last.signature (if last.isSingle then last.data else suppliedBy platform handle calls
        (type.start env handle mechanism mechanismParam key s).2) reply := by
    cases type with
    | digest => exact hresult
    | _ => rwa [hsame nofun] at hresult
  cases hsingle : last.isSingle with
  | false =>
    rw [hsingle] at hresult
    rw [OperationCall.data_eq_nil hgives hsingle, List.append_nil]
    exact iff_of_true hresult (Or.inl rfl)
  | true =>
    rw [hsingle, if_pos rfl] at hresult
    constructor
    · intro hwhole
      by_cases htype : type = .digest
      · exact Or.inr (hfresh hsingle htype)
      · exact Or.inr (List.self_eq_append_left.mp (happart hsingle htype reply hresult hwhole))
    · rintro (hfalse | hnone)
      · cases hfalse
      · rwa [hnone, List.nil_append]

/-! ### A part that is dropped -/

/-- An initialisation vector. -/
def ivFives : Bytes := List.replicate 16 5

/-- A platform that knows the first block of AES-256-CTR under a key of nines. -/
def keystreamPlatform : Platform :=
  { Platform.recorded [] [] with
    crates := pinAnswers.crates.withKeystream (List.replicate 32 9) ivFives
      (beBytes 16 0xd3e1c38163de496e939c478f87bdaf24) }

/-- The library of a logged-in user with that key. -/
def cipherLibrary : Hsm :=
  (cCreateObject keystreamPlatform.crates keystreamPlatform.codec (callEnvAt 5) firstSession
    [(ckaClass, ckUlongToBytes ckoSecretKey), (ckaKeyType, ckUlongToBytes ckkAes),
      (ckaEncrypt, [1]), (ckaValue, List.replicate 32 9)] (userLibrary false)).2

/-- An encryption is started with it. -/
def ctrStarted : Hsm :=
  (cEncryptInit (callEnvAt 6) firstSession ckmAesCtr ivFives firstObject cipherLibrary).2

/-- Two parts of an encryption and its final call: the ciphertext is the one of both. -/
theorem ctr_final_result :
    ∃ obj, cipherLibrary.objectStore.objects.get? firstObject = some obj ∧
      (cEncryptFinal keystreamPlatform firstSession (some 32) (cEncryptUpdate firstSession [2]
        (cEncryptUpdate firstSession [1] ctrStarted).2).2).1 = .ok (.bytes [0xd2, 0xe3]) ∧
      IsResultFor keystreamPlatform .encrypt ckmAesCtr ivFives obj [] [1, 2]
        (.bytes [0xd2, 0xe3]) := by
  have hlast : (cEncryptFinal keystreamPlatform firstSession (some 32) (cEncryptUpdate firstSession
      [2] (cEncryptUpdate firstSession [1] ctrStarted).2).2).1 = .ok (.bytes [0xd2, 0xe3]) := by
    decide +kernel
  have hkey : (cipherLibrary.objectStore.objects.get? firstObject).isSome = true := by
    decide +kernel
  obtain ⟨obj, hobj⟩ := Option.isSome_iff_exists.mp hkey
  have hreplies : Program.replies [cEncryptUpdate firstSession [1], cEncryptUpdate firstSession [2]]
      ctrStarted = [.ok (.bytes []), .ok (.bytes [])] := by
    decide +kernel
  have hquiet : ∀ answer ∈ Program.replies [cEncryptUpdate firstSession [1],
      cEncryptUpdate firstSession [2]] ctrStarted, ∃ reply, answer = .ok reply := by
    simp [hreplies]
  exact ⟨obj, hobj, hlast, (result_for_supplied_iff keystreamPlatform .encrypt (callEnvAt 6)
    cipherLibrary firstSession ckmAesCtr ivFives firstObject obj
    [⟨.encrypt, callEnvAt 6, .part [1]⟩, ⟨.encrypt, callEnvAt 6, .part [2]⟩]
    ⟨.encrypt, callEnvAt 6, .finish (some 32) []⟩ (.bytes [0xd2, 0xe3]) (fun _ ↦ hobj)
    (by decide +kernel) hquiet hlast ⟨_, rfl⟩ nofun).mpr (Or.inl rfl)⟩

/-- A part and then a single call: both succeed, and the ciphertext is not the one of the two bytes
that were supplied. -/
theorem single_drops_part :
    (cEncryptUpdate firstSession [1] ctrStarted).1 = .ok (.bytes []) ∧
      (cEncrypt keystreamPlatform (callEnvAt 6) firstSession [2] (some 16)
        (cEncryptUpdate firstSession [1] ctrStarted).2).1 = .ok (.bytes [0xd1]) ∧
      ∀ obj, ¬IsResultFor keystreamPlatform .encrypt ckmAesCtr ivFives obj [] [1, 2]
        (.bytes [0xd1]) := by
  refine ⟨by decide +kernel, by decide +kernel, ?_⟩
  rintro obj ⟨key, seed, statics, output, -, hrun, houtput⟩
  have hctr : (aesCtrEncrypt keystreamPlatform.crates statics key ivFives [1, 2]).1 = .ok output :=
    toAbi_eq_ok_iff.mp hrun
  have hlength : output.length = 2 := by
    rw [(aesCtrEncrypt_eq_ok hctr).1]
    simp only [keystreamPlatform, Crates.withKeystream]
    split_ifs <;> simp
  rw [← Reply.bytes.inj houtput] at hlength
  cases hlength

end CratonHsm
