import CratonHsm.Abi.Admission

/-!
# The calls of an operation

The five kinds of operation have the same four calls: one that starts the operation, one that feeds
a part, one that ends it, and one that does everything at once (`OperationType.start`, `feed`,
`finish`, `single`). Results that hold for all kinds are stated over these.

Between its start and its end an operation is determined by how it was started and by the data it
has been fed (`OperationType.operationWith`): a call that starts one leaves it without data
(`Started.of_ok`), and a part is appended to its data or ends it (`feed_step`, `feedAll_cases`).
-/

set_option autoImplicit false

namespace CratonHsm

open Crypto Crypto.Encrypt Library Store

namespace OperationType

variable (type : OperationType)

/-- The call that starts an operation. Only a cipher takes a parameter, and a digest takes no
key. -/
def start (env : CallEnv) (handle mechanism : Nat) (mechanismParam : Bytes) (key : Nat) : Entry :=
  match type with
  | .encrypt => cEncryptInit env handle mechanism mechanismParam key
  | .decrypt => cDecryptInit env handle mechanism mechanismParam key
  | .sign => cSignInit env handle mechanism key
  | .verify => cVerifyInit env handle mechanism key
  | .digest => cDigestInit handle mechanism

/-- The call that feeds a part. -/
def feed (handle : Nat) (part : Bytes) : Entry :=
  match type with
  | .encrypt => cEncryptUpdate handle part
  | .decrypt => cDecryptUpdate handle part
  | .sign => cSignUpdate handle part
  | .verify => cVerifyUpdate handle part
  | .digest => cDigestUpdate handle part

/-- The call that ends an operation, with an output buffer or the signature to verify. -/
def finish (platform : Platform) (env : CallEnv) (handle : Nat) (output : Option Nat)
    (signature : Bytes) : Entry :=
  match type with
  | .encrypt => cEncryptFinal platform handle output
  | .decrypt => cDecryptFinal platform handle output
  | .sign => cSignFinal platform env handle output
  | .verify => cVerifyFinal platform handle signature
  | .digest => cDigestFinal platform handle output

/-- The call that takes the whole input at once. -/
def single (platform : Platform) (env : CallEnv) (handle : Nat) (data : Bytes) (output : Option Nat)
    (signature : Bytes) : Entry :=
  match type with
  | .encrypt => cEncrypt platform env handle data output
  | .decrypt => cDecrypt platform handle data output
  | .sign => cSign platform env handle data output
  | .verify => cVerify platform handle data signature
  | .digest => cDigest platform handle data output

/-- The state after parts have been fed. -/
def feedAll (handle : Nat) (parts : List Bytes) (s : Hsm) : Hsm :=
  parts.foldl (fun s part ↦ (type.feed handle part s).2) s

/-- What feeding a part answers: ciphers hand back an empty output. -/
def partReply : OperationType → Reply
  | .encrypt | .decrypt => .bytes []
  | _ => .done

end OperationType

/-! ### The operation between its start and its end -/

variable (mechanism key : Nat)

/-- An encryption or a decryption that has been fed. -/
def cipherWith (mechanismParam : Bytes) (ref : Nat) (data : Bytes) :
    CipherOperation := ⟨mechanism, key, mechanismParam, data, some ref⟩

/-- A signature or a verification that has been fed: with a built-in hash the data are in the
hasher. -/
def signatureWith (ref : Nat) (data : Bytes) : SignatureOperation :=
  match signMechanismToDigestMechanism mechanism with
  | some digest => ⟨mechanism, key, [], some ⟨digest, data⟩, some ref⟩
  | none => ⟨mechanism, key, data, none, some ref⟩

theorem signatureWith_fields (ref : Nat) (data : Bytes) :
    (signatureWith mechanism key ref data).mechanism = mechanism ∧
      (signatureWith mechanism key ref data).keyHandle = key ∧
      (signatureWith mechanism key ref data).cachedObject = some ref := by
  unfold signatureWith
  cases signMechanismToDigestMechanism mechanism <;> exact ⟨rfl, rfl, rfl⟩

/-- A digest that has been fed. -/
def digestWith (data : Bytes) : DigestOperation :=
  ⟨mechanism, some ⟨mechanism, data⟩, data⟩

/-- An operation that has been fed. -/
def OperationType.operationWith (type : OperationType) (mechanism key : Nat)
    (mechanismParam : Bytes) (ref : Nat) (data : Bytes) : ActiveOperation :=
  match type with
  | .encrypt => .encrypt (cipherWith mechanism key mechanismParam ref data)
  | .decrypt => .decrypt (cipherWith mechanism key mechanismParam ref data)
  | .sign => .sign (signatureWith mechanism key ref data)
  | .verify => .verify (signatureWith mechanism key ref data)
  | .digest => .digest (digestWith mechanism data)

/-- The mechanisms with which an operation can be started. -/
def OperationType.isMechanism : OperationType → Nat → Bool
  | .encrypt | .decrypt => isEncryptMechanism
  | .sign | .verify => isSignMechanism
  | .digest => isDigestMechanism

/-- What is known after an operation was started. A digest has no key. -/
structure Started (type : OperationType) (env : CallEnv) (s : Hsm) (handle : Nat)
    (session : Session)
    (mechanism : Nat) (mechanismParam : Bytes) (key ref : Nat) (obj : StoredObject) : Prop where
  opened : s.Open handle session
  isMechanism : type.isMechanism mechanism = true
  state_eq : (type.start env handle mechanism mechanismParam key s).2 =
    s.setOperation handle session (some
      (type.operationWith mechanism key (extractMechanismParam mechanismParam) ref []))
  ref_eq : type ≠ .digest → s.objectStore.objects.refs[key]? = some ref
  obj_eq : type ≠ .digest → s.objectStore.objects.get? key = some obj

section Start

variable {env : CallEnv} {s : Hsm} {handle mechanism key : Nat} {mechanismParam : Bytes}

theorem Started.deref_eq {type : OperationType} {session : Session} {ref : Nat} {obj : StoredObject}
    (h : Started type env s handle session mechanism mechanismParam key ref obj)
    (htype : type ≠ .digest) : s.objectStore.objects.deref ref = some obj := by
  have hobj := h.obj_eq htype
  rwa [SharedMap.get?, h.ref_eq htype, Option.bind_some] at hobj

theorem signatureWith_nil (mechanism key ref : Nat) :
    signatureWith mechanism key ref [] =
      ⟨mechanism, key, [], signHasher mechanism, some ref⟩ := by
  unfold signatureWith signHasher
  cases h : signMechanismToDigestMechanism mechanism with
  | none => rfl
  | some digest =>
    have hdigest : isDigestMechanism digest = true := by
      unfold signMechanismToDigestMechanism at h
      split_ifs at h <;> obtain rfl := Option.some.inj h <;> decide
    simp [createHasher, hdigest, Except.toOption]

theorem Started.of_ok {type : OperationType} {reply : Reply}
    (h : (type.start env handle mechanism mechanismParam key s).1 = .ok reply) :
    ∃ session ref obj, Started type env s handle session mechanism mechanismParam key ref obj := by
  cases type with
  | encrypt =>
    obtain ⟨session, hopen, ref, obj, hadmits, hiv⟩ := CipherAdmits.of_encrypt_ok h
    exact ⟨session, ref, obj, hopen, hadmits.isEncrypt,
      congrArg Prod.snd (hadmits.eq_encrypt hopen hiv), fun _ ↦ hadmits.admitted.ref_eq,
      fun _ ↦ hadmits.admitted.obj_eq⟩
  | decrypt =>
    obtain ⟨session, hopen, ref, obj, hadmits⟩ := CipherAdmits.of_decrypt_ok h
    exact ⟨session, ref, obj, hopen, hadmits.isEncrypt,
      congrArg Prod.snd (hadmits.eq_decrypt hopen), fun _ ↦ hadmits.admitted.ref_eq,
      fun _ ↦ hadmits.admitted.obj_eq⟩
  | sign =>
    obtain ⟨session, hopen, ref, obj, hadmits⟩ := SignAdmits.of_ok h
    refine ⟨session, ref, obj, hopen, hadmits.isSign, ?_, fun _ ↦ hadmits.admitted.ref_eq,
      fun _ ↦ hadmits.admitted.obj_eq⟩
    rw [OperationType.operationWith, signatureWith_nil]
    exact congrArg Prod.snd (hadmits.eq hopen)
  | verify =>
    obtain ⟨session, hopen, ref, obj, hadmits⟩ := VerifyAdmits.of_ok h
    refine ⟨session, ref, obj, hopen, hadmits.isSign, ?_, fun _ ↦ hadmits.admitted.ref_eq,
      fun _ ↦ hadmits.admitted.obj_eq⟩
    rw [OperationType.operationWith, signatureWith_nil]
    exact congrArg Prod.snd (hadmits.eq hopen)
  | digest =>
    obtain ⟨session, hopen, hadmits⟩ := DigestAdmits.of_ok h
    exact ⟨session, 0, .new 0 0 0, hopen, hadmits.isDigest, congrArg Prod.snd (hadmits.eq hopen),
      fun htype ↦ absurd rfl htype, fun htype ↦ absurd rfl htype⟩

end Start

/-! ### Without an operation of the kind -/

section Idle

variable {platform : Platform} {env : CallEnv} {s : Hsm} {handle : Nat} {session : Session}

/-- The session has no operation of this kind. -/
def Session.Lacks (session : Session) (type : OperationType) : Prop :=
  ∀ operation, session.activeOperation = some operation → operation.saved.type ≠ type

theorem Session.lacks_of_idle (hidle : session.activeOperation = none) (type : OperationType) :
    session.Lacks type := by
  simp [Session.Lacks, hidle]

namespace OperationType

variable (type : OperationType) (hopen : s.Open handle session) (hlacks : session.Lacks type)
include hopen hlacks

/-- Every call looks for an operation of its kind first. -/
theorem feed_other (part : Bytes) :
    type.feed handle part s = (.error .operationNotInitialized, s) := by
  cases type
  all_goals
    simp only [feed, cEncryptUpdate, cDecryptUpdate, cSignUpdate, cVerifyUpdate, cDigestUpdate]
    rw [hopen.enter]
    cases hactive : session.activeOperation with
    | none => rfl
    | some operation => cases operation <;> first | rfl | exact absurd rfl (hlacks _ hactive)

theorem single_other (data : Bytes) (output : Option Nat) (signature : Bytes) :
    type.single platform env handle data output signature s =
      (.error .operationNotInitialized, s) := by
  cases type
  all_goals
    simp only [single, cEncrypt, cDecrypt, cSign, cVerify, cDigest]
    rw [hopen.enter]
    cases hactive : session.activeOperation with
    | none => rfl
    | some operation => cases operation <;> first | rfl | exact absurd rfl (hlacks _ hactive)

theorem finish_other (output : Option Nat) (signature : Bytes) :
    type.finish platform env handle output signature s = (.error .operationNotInitialized, s) := by
  cases type
  all_goals
    simp only [finish, cEncryptFinal, cDecryptFinal, cSignFinal, cVerifyFinal, cDigestFinal]
    rw [hopen.enter]
    cases hactive : session.activeOperation with
    | none => rfl
    | some operation => cases operation <;> first | rfl | exact absurd rfl (hlacks _ hactive)

end OperationType

end Idle

/-! ### Parts accumulate -/

section Feeding

variable {s : Hsm} {handle : Nat} {session : Session} {type : OperationType} {mechanism key : Nat}
  {mechanismParam : Bytes} {ref : Nat} {data : Bytes}

/-- The operation with a further part, if it takes it. -/
def ActiveOperation.withPart (part : Bytes) : ActiveOperation → Except CkRv ActiveOperation
  | .encrypt op => (appendPart op part).map .encrypt
  | .decrypt op => (appendPart op part).map .decrypt
  | .sign op => (signPart op part).map .sign
  | .verify op => (signPart op part).map .verify
  | .digest op =>
    if op.accumulatedInput.length + part.length ≤ maxMultipartAccumulation then
      .ok (.digest (digestPart op part))
    else .error .dataLenRange

theorem feed_eq {operation : ActiveOperation} (hopen : s.Open handle session)
    (hop : session.activeOperation = some operation) (htype : operation.saved.type = type)
    (part : Bytes) :
    type.feed handle part s =
      match operation.withPart part with
      | .ok next => (.ok type.partReply, s.setOperation handle session (some next))
      | .error e => (.error e, s.setOperation handle session none) := by
  subst htype
  cases operation
  all_goals
    simp only [ActiveOperation.saved, OperationType.feed, cEncryptUpdate, cDecryptUpdate,
      cSignUpdate, cVerifyUpdate, cDigestUpdate]
    rw [hopen.enter]
    simp only [hop, orAbort_bind, requireOrAbort_bind, ActiveOperation.withPart]
  case digest => split_ifs <;> rfl
  case encrypt op | decrypt op => cases appendPart op part <;> rfl
  case sign op | verify op => cases signPart op part <;> rfl

theorem saved_type_operationWith (type : OperationType) (mechanism key : Nat)
    (mechanismParam : Bytes) (ref : Nat) (fed : Bytes) :
    (type.operationWith mechanism key mechanismParam ref fed).saved.type = type := by
  cases type <;> rfl

theorem appendPart_cipherWith (mechanism key : Nat) (mechanismParam : Bytes) (ref : Nat)
    (data part : Bytes) :
    appendPart (cipherWith mechanism key mechanismParam ref data) part =
      .ok (cipherWith mechanism key mechanismParam ref (data ++ part)) ∨
    ∃ e, appendPart (cipherWith mechanism key mechanismParam ref data) part = .error e := by
  unfold appendPart
  split_ifs <;> simp [cipherWith]

theorem signPart_signatureWith (mechanism key ref : Nat) (data part : Bytes) :
    signPart (signatureWith mechanism key ref data) part =
      .ok (signatureWith mechanism key ref (data ++ part)) ∨
    ∃ e, signPart (signatureWith mechanism key ref data) part = .error e := by
  unfold signatureWith
  cases signMechanismToDigestMechanism mechanism <;> simp only [signPart] <;> split_ifs <;>
    simp [hasherUpdate]

theorem withPart_operationWith (type : OperationType) (mechanism key : Nat) (mechanismParam : Bytes)
    (ref : Nat) (data part : Bytes) :
    (type.operationWith mechanism key mechanismParam ref data).withPart part =
      .ok (type.operationWith mechanism key mechanismParam ref (data ++ part)) ∨
    ∃ e, (type.operationWith mechanism key mechanismParam ref data).withPart part = .error e := by
  have hcipher := appendPart_cipherWith mechanism key mechanismParam ref data part
  have hsigned := signPart_signatureWith mechanism key ref data part
  cases type <;> simp only [OperationType.operationWith, ActiveOperation.withPart]
  case digest => split_ifs <;> simp [digestWith, digestPart, hasherUpdate]
  case encrypt | decrypt => rcases hcipher with h | ⟨e, h⟩ <;> simp [h, Except.map]
  case sign | verify => rcases hsigned with h | ⟨e, h⟩ <;> simp [h, Except.map]

section Steps

variable (hopen : s.Open handle session) (hop : session.activeOperation =
  some (type.operationWith mechanism key mechanismParam ref data))
include hopen hop

/-- A part is taken and appended to the data, or the operation ends with an error. -/
theorem feed_step (part : Bytes) :
    type.feed handle part s = (.ok type.partReply, s.setOperation handle session (some
        (type.operationWith mechanism key mechanismParam ref (data ++ part)))) ∨
      ∃ e, type.feed handle part s = (.error e, s.setOperation handle session none) := by
  have hfeed := feed_eq hopen hop (saved_type_operationWith ..) part
  rcases withPart_operationWith type mechanism key mechanismParam ref data part with h | ⟨e, h⟩
  · exact .inl (by rw [hfeed, h])
  · exact .inr ⟨e, by rw [hfeed, h]⟩

/-- After any number of parts the operation has them all, or has ended. -/
theorem feedAll_cases (parts : List Bytes) :
    type.feedAll handle parts s = s.setOperation handle session (some
        (type.operationWith mechanism key mechanismParam ref (data ++ parts.flatten))) ∨
      type.feedAll handle parts s = s.setOperation handle session none := by
  have hended : ∀ (parts : List Bytes) (s : Hsm) (session : Session), s.Open handle session →
      session.activeOperation = none → type.feedAll handle parts s = s := by
    intro parts
    induction parts with
    | nil => intros; rfl
    | cons part parts ih =>
      intro s session hopen hidle
      rw [OperationType.feedAll, List.foldl_cons,
        type.feed_other hopen (Session.lacks_of_idle hidle type)]
      exact ih s session hopen hidle
  induction parts generalizing s session data with
  | nil =>
    refine Or.inl ?_
    rw [List.flatten_nil, List.append_nil, ← hop, hopen.setOperation_self]
    rfl
  | cons part parts ih =>
    rw [OperationType.feedAll, List.foldl_cons, List.flatten_cons, ← List.append_assoc]
    rcases feed_step hopen hop part with h | ⟨e, h⟩
    · rw [h]
      have hrest := ih (hopen.setOperation (some
        (type.operationWith mechanism key mechanismParam ref (data ++ part)))) rfl
      rwa [Hsm.setOperation_setOperation, Hsm.setOperation_setOperation] at hrest
    · rw [h]
      exact Or.inr (hended parts _ _ (hopen.setOperation none) rfl)

/-- If every part is taken, the operation has them all. -/
theorem feedAll_of_replies (parts : List Bytes)
    (h : ∀ answer ∈ Program.replies (parts.map (type.feed handle)) s,
      answer = .ok type.partReply) :
    type.feedAll handle parts s = s.setOperation handle session (some
      (type.operationWith mechanism key mechanismParam ref (data ++ parts.flatten))) := by
  induction parts generalizing s session data with
  | nil =>
    rw [List.flatten_nil, List.append_nil, ← hop, hopen.setOperation_self]
    rfl
  | cons part parts ih =>
    rw [List.map_cons, Program.replies, List.forall_mem_cons] at h
    rcases feed_step hopen hop part with hpart | ⟨e, hpart⟩
    · rw [hpart] at h
      have hrest := ih (hopen.setOperation (some
        (type.operationWith mechanism key mechanismParam ref (data ++ part)))) rfl h.2
      rw [Hsm.setOperation_setOperation, List.append_assoc] at hrest
      rwa [OperationType.feedAll, List.foldl_cons, hpart, List.flatten_cons]
    · rw [hpart] at h
      cases h.1

end Steps

/-- Parts within the limits are all taken. -/
theorem feedAll_eq {limit : Nat}
    (hfeed : ∀ (s : Hsm) (session : Session) (data part : Bytes), s.Open handle session →
      session.activeOperation =
        some (type.operationWith mechanism key mechanismParam ref data) →
      data.length + part.length ≤ limit → ∃ reply, (type.feed handle part s).1 = .ok reply)
    (parts : List Bytes) (data : Bytes) (hopen : s.Open handle session)
    (hop : session.activeOperation =
      some (type.operationWith mechanism key mechanismParam ref data))
    (hlimit : data.length + parts.flatten.length ≤ limit) :
    (∀ answer ∈ Program.replies (parts.map (type.feed handle)) s, answer = .ok type.partReply) ∧
      type.feedAll handle parts s = s.setOperation handle session (some
        (type.operationWith mechanism key mechanismParam ref (data ++ parts.flatten))) := by
  suffices hreplies : ∀ answer ∈ Program.replies (parts.map (type.feed handle)) s,
      answer = .ok type.partReply from
    ⟨hreplies, feedAll_of_replies hopen hop parts hreplies⟩
  induction parts generalizing s session data with
  | nil => nofun
  | cons part parts ih =>
    rw [List.flatten_cons, List.length_append] at hlimit
    obtain ⟨reply, hreply⟩ := hfeed s session data part hopen hop (by omega)
    rcases feed_step hopen hop part with hpart | ⟨e, hpart⟩
    · rw [List.map_cons, Program.replies, List.forall_mem_cons, hpart]
      exact ⟨rfl, ih (data ++ part) (hopen.setOperation (some
        (type.operationWith mechanism key mechanismParam ref (data ++ part)))) rfl
        (by rw [List.length_append]; omega)⟩
    · rw [hpart] at hreply
      cases hreply

end Feeding

end CratonHsm
