import CratonHsm.Abi.OperationResults
import CratonHsm.Abi.SessionCalls
import CratonHsm.Crypto.SignAgreement

/-!
# Signing at once and signing in parts

A signature can be made by one `C_Sign`, or by `C_SignUpdate` for each part and a `C_SignFinal`. The
module compares the two for the default back end (`SigningAgrees`): whether they succeed together,
whether a signature of either is accepted by `C_Verify` and by the multi-part verification, and
whether both sign the digest of the hash that the mechanism names.

For a mechanism without a built-in hash they always agree. For the others they agree exactly if the
key cannot sign at all, or if the message has at most 64 MiB and the hash of an ECDSA mechanism is
the one of the curve (`signing_agrees_iff`); apart from these only calls that fail either way agree.
With `CKM_ECDSA_SHA384` and a key on P-256 `C_Sign` signs the SHA-256 digest, and `C_SignFinal`
refuses (`p256_sha384_disagrees`).
-/

set_option autoImplicit false

namespace CratonHsm

open Crypto Crypto.Encrypt Library Store
open OperationType SignatureCrates

/-! ### The property -/

/-- A platform with the default back end over given signature schemes. -/
def Platform.rustCrypto (platform : Platform) (schemes : SignatureCrates) : Platform :=
  { platform with backend := .rustCrypto schemes platform.backend }

section Property

variable (platform : Platform) (env : CallEnv) (handle : Nat) (s : Hsm)

/-- `C_Sign` gives the signature, into a buffer that is large enough. -/
def SignsWhole (data signature : Bytes) : Prop :=
  ∃ size, (cSign platform env handle data (some size) s).1 = .ok (.bytes signature)

/-- The parts are all taken and `C_SignFinal` gives the signature. -/
def SignsInParts (parts : List Bytes) (signature : Bytes) : Prop :=
  (∀ answer ∈ Program.replies (parts.map (cSignUpdate handle)) s, answer = .ok .done) ∧
    ∃ size, (cSignFinal platform env handle (some size)
      (sign.feedAll handle parts s)).1 = .ok (.bytes signature)

/-- `C_Verify` accepts the signature. -/
def VerifiesWhole (data signature : Bytes) : Prop :=
  (cVerify platform handle data signature s).1 = .ok .done

/-- The parts are all taken and `C_VerifyFinal` accepts the signature. -/
def VerifiesInParts (parts : List Bytes) (signature : Bytes) : Prop :=
  (∀ answer ∈ Program.replies (parts.map (cVerifyUpdate handle)) s, answer = .ok .done) ∧
    (cVerifyFinal platform handle signature (verify.feedAll handle parts s)).1 =
      .ok .done

end Property

/-- Signing at once and in parts agree after `C_SignInit` with a key. Verification is on any session
of any library, with an object that holds the public half of the key, and takes the message in any
parts. -/
structure SigningAgrees (platform : Platform) (schemes : SignatureCrates) (env later : CallEnv)
    (s : Hsm) (handle mechanism key : Nat) (parts : List Bytes) : Prop where
  succeed : (∃ signature, SignsWhole (platform.rustCrypto schemes) later handle
      (cSignInit env handle mechanism key s).2 parts.flatten signature) ↔
    ∃ signature, SignsInParts (platform.rustCrypto schemes) later handle
      (cSignInit env handle mechanism key s).2 parts signature
  accepted : ∀ signature,
    SignsWhole (platform.rustCrypto schemes) later handle (cSignInit env handle mechanism key s).2
        parts.flatten signature ∨
      SignsInParts (platform.rustCrypto schemes) later handle
        (cSignInit env handle mechanism key s).2 parts signature →
    ∀ obj material, s.objectStore.objects.get? key = some obj → obj.keyMaterial = some material →
    ∀ env' t handle' key' pub, (cVerifyInit env' handle' mechanism key' t).1 = .ok .done →
      t.objectStore.objects.get? key' = some pub → schemes.KeyPair mechanism obj pub material →
      VerifiesWhole (platform.rustCrypto schemes) handle'
          (cVerifyInit env' handle' mechanism key' t).2 parts.flatten signature ∧
        ∀ parts', parts'.flatten = parts.flatten →
          VerifiesInParts (platform.rustCrypto schemes) handle'
            (cVerifyInit env' handle' mechanism key' t).2 parts' signature
  digest : ∀ digest, signMechanismToDigestMechanism mechanism = some digest → ∀ signature,
    SignsWhole (platform.rustCrypto schemes) later handle (cSignInit env handle mechanism key s).2
        parts.flatten signature ∨
      SignsInParts (platform.rustCrypto schemes) later handle
        (cSignInit env handle mechanism key s).2 parts signature →
    ∃ obj material, s.objectStore.objects.get? key = some obj ∧ obj.keyMaterial = some material ∧
      schemes.signatureOf mechanism later.seed obj material
        (platform.backend.hash digest parts.flatten) = some signature

/-- The condition, for a mechanism with a built-in hash and a key that can sign: up to 64 MiB the
hash must be the one of the curve, and beyond only calls that fail either way agree. -/
def SigningCondition (schemes : SignatureCrates) (seed : Nat) (s : Hsm) (mechanism key : Nat)
    (parts : List Bytes) : Prop :=
  ∀ digest obj material, signMechanismToDigestMechanism mechanism = some digest →
    s.objectStore.objects.get? key = some obj → obj.keyMaterial = some material →
    schemes.Usable mechanism seed obj material →
      if parts.flatten.length ≤ signMaxDataSize then SignatureCrates.HashFits mechanism digest obj
      else ¬SignatureCrates.HashFits mechanism digest obj ∨
        ∃ part ∈ parts, maxMultipartAccumulation < part.length

/-! ### The parts of a message -/

/-- The parts that are taken after some accumulated bytes: a hasher takes each part within the
limit, and without one everything together stays within it. -/
def TakesAll (mechanism accumulated : Nat) (parts : List Bytes) : Prop :=
  if (signMechanismToDigestMechanism mechanism).isSome then
    ∀ part ∈ parts, part.length ≤ maxMultipartAccumulation
  else accumulated + parts.flatten.length ≤ maxMultipartAccumulation

theorem TakesAll.cons {mechanism accumulated : Nat} {part : Bytes} {parts : List Bytes} :
    TakesAll mechanism accumulated (part :: parts) ↔
      (if (signMechanismToDigestMechanism mechanism).isSome then part.length
        else accumulated + part.length) ≤ maxMultipartAccumulation ∧
      TakesAll mechanism (accumulated + part.length) parts := by
  unfold TakesAll
  split_ifs
  · exact List.forall_mem_cons
  · rw [List.flatten_cons, List.length_append]
    omega

theorem signMechanismSupportsMultipart_of_none {mechanism : Nat}
    (h : signMechanismToDigestMechanism mechanism = none) :
    signMechanismSupportsMultipart mechanism = false := by
  simp only [signMechanismToDigestMechanism] at h
  split_ifs at h with h256 h384 h512
  simp only [List.mem_cons, List.not_mem_nil, or_false, not_or] at h256 h384 h512
  simp [signMechanismSupportsMultipart, h256, h384, h512]

section Feeding

variable {s : Hsm} {handle : Nat} {session : Session} {type : OperationType} {mechanism key : Nat}
  {mechanismParam : Bytes} {ref : Nat} {data : Bytes}

/-- Whether a part is taken after some data. -/
theorem signPart_ok_iff (part : Bytes) :
    signPart (signatureWith mechanism key ref data) part =
        .ok (signatureWith mechanism key ref (data ++ part)) ↔
      (if (signMechanismToDigestMechanism mechanism).isSome then part.length
        else data.length + part.length) ≤ maxMultipartAccumulation := by
  unfold signatureWith
  cases hdigest : signMechanismToDigestMechanism mechanism with
  | some digest =>
    simp only [signPart, List.length_nil, Nat.zero_add, Option.isSome_some, if_true]
    split_ifs with hlength
    · exact ⟨by simp, fun h ↦ absurd h (Nat.not_le.mpr hlength)⟩
    · exact ⟨fun _ ↦ Nat.not_lt.mp hlength, fun _ ↦ rfl⟩
  | none =>
    simp only [signPart, signMechanismSupportsMultipart_of_none hdigest, Option.isSome_none,
      Bool.false_eq_true, if_false]
    split_ifs with hlength
    · exact ⟨by simp, fun h ↦ absurd h (Nat.not_le.mpr hlength)⟩
    · exact ⟨fun _ ↦ Nat.not_lt.mp hlength, fun _ ↦ rfl⟩

/-- The two kinds of operation over a message and a signature. -/
theorem feed_signature_iff (htype : type = .sign ∨ type = .verify) (hopen : s.Open handle session)
    (hop : session.activeOperation =
      some (type.operationWith mechanism key mechanismParam ref data)) (part : Bytes) :
    (type.feed handle part s).1 = .ok .done ↔
      (if (signMechanismToDigestMechanism mechanism).isSome then part.length
        else data.length + part.length) ≤ maxMultipartAccumulation := by
  have hreply : type.partReply = .done := by rcases htype with rfl | rfl <;> rfl
  have hpart : (type.operationWith mechanism key mechanismParam ref data).withPart part =
        .ok (type.operationWith mechanism key mechanismParam ref (data ++ part)) ↔
      signPart (signatureWith mechanism key ref data) part =
        .ok (signatureWith mechanism key ref (data ++ part)) := by
    rcases htype with rfl | rfl <;> simp only [operationWith, ActiveOperation.withPart]
    all_goals
      rcases signPart_signatureWith mechanism key ref data part with h | ⟨e, h⟩ <;>
        simp [h, Except.map]
  rw [← signPart_ok_iff part, ← hpart, feed_eq hopen hop (saved_type_operationWith ..), hreply]
  rcases withPart_operationWith type mechanism key mechanismParam ref data part with h | ⟨e, h⟩ <;>
    simp [h]

theorem replies_ok_iff (htype : type = .sign ∨ type = .verify) (parts : List Bytes)
    (hopen : s.Open handle session)
    (hop : session.activeOperation =
      some (type.operationWith mechanism key mechanismParam ref data))
    (hdata : signMechanismToDigestMechanism mechanism = none →
      data.length ≤ maxMultipartAccumulation) :
    (∀ answer ∈ Program.replies (parts.map (type.feed handle)) s, answer = .ok .done) ↔
      TakesAll mechanism data.length parts := by
  induction parts generalizing s session data with
  | nil => cases hdigest : signMechanismToDigestMechanism mechanism <;>
      simp_all [TakesAll, Program.replies]
  | cons part parts ih =>
    have hpart := feed_signature_iff htype hopen hop part
    rw [List.map_cons, Program.replies, List.forall_mem_cons, hpart, TakesAll.cons]
    refine and_congr_right fun htaken ↦ ?_
    obtain hstep | ⟨e, hstep⟩ := feed_step hopen hop part
    · rw [hstep]
      refine (ih (hopen.setOperation (some (type.operationWith mechanism key mechanismParam ref
        (data ++ part)))) rfl fun hdigest ↦ ?_).trans (by rw [List.length_append])
      simpa [hdigest] using htaken
    · rw [hstep] at hpart
      cases hpart.mpr htaken

end Feeding

/-! ### What each way computes -/

section Ways

variable {platform : Platform} {env later : CallEnv} {s : Hsm} {handle : Nat} {session : Session}
  {mechanism key ref : Nat} {obj : StoredObject} {data signature : Bytes} {parts : List Bytes}

theorem signsWhole_iff (h : Started .sign env s handle session mechanism [] key ref obj) :
    SignsWhole platform later handle (cSignInit env handle mechanism key s).2 data signature ↔
      ∃ material, obj.keyMaterial = some material ∧ data.length ≤ maxSingleBuffer ∧
        platform.backend.signSingleShot later.seed mechanism material data obj = .ok signature := by
  have hstate : (cSignInit env handle mechanism key s).2 = _ := h.state_eq
  obtain ⟨hmechanism, hkey, -⟩ := signatureWith_fields mechanism key ref []
  unfold SignsWhole
  rw [hstate]
  simp only [operationWith, cSign_eq (h.opened.setOperation _) rfl, hmechanism, hkey,
    singleShot_eq env, Hsm.materialOf_setOperation, Hsm.materialOf_none (h.obj_eq (by decide))]
  by_cases hlength : data.length ≤ maxSingleBuffer
  swap
  · simp [hlength]
  simp only [hlength, if_true, true_and]
  cases obj.keyMaterial with
  | none => simp
  | some material =>
    simp only [Option.elim_some, Option.some.injEq, exists_eq_left', Delivery.apply,
      Nat.not_lt_zero, Bool.false_eq_true, if_false]
    cases platform.backend.signSingleShot later.seed mechanism material data obj with
    | error e => simp [toAbi]
    | ok bytes =>
      simp only [toAbi, Except.ok.injEq]
      constructor
      · rintro ⟨size, hsize⟩
        split_ifs at hsize <;> cases hsize
        rfl
      · rintro rfl
        exact ⟨bytes.length, by rw [if_neg (Nat.lt_irrefl _)]⟩

theorem signsInParts_iff (h : Started .sign env s handle session mechanism [] key ref obj) :
    SignsInParts platform later handle (cSignInit env handle mechanism key s).2 parts signature ↔
      TakesAll mechanism 0 parts ∧ ∃ material, obj.keyMaterial = some material ∧
        signParts platform later (signatureWith mechanism key ref parts.flatten) obj material =
          .ok signature := by
  have hstate : (cSignInit env handle mechanism key s).2 = _ := h.state_eq
  have hreplies := replies_ok_iff (Or.inl rfl) parts (h.opened.setOperation (some
    (sign.operationWith mechanism key (extractMechanismParam []) ref []))) rfl
    fun _ ↦ Nat.zero_le _
  rw [hstate]
  refine (and_congr_left' hreplies).trans (and_congr_right fun htakes ↦ ?_)
  have hfed := feedAll_of_replies (h.opened.setOperation (some
    (sign.operationWith mechanism key (extractMechanismParam []) ref []))) rfl parts
    (hreplies.mpr htakes)
  rw [Hsm.setOperation_setOperation, List.nil_append] at hfed
  rw [hfed]
  simp only [operationWith, cSignFinal_eq (h.opened.setOperation _) rfl,
    Hsm.materialOf_setOperation, (signatureWith_fields mechanism key ref parts.flatten).2.2,
    Hsm.materialOf_some (h.deref_eq (by decide))]
  cases obj.keyMaterial with
  | none => simp
  | some material =>
    simp only [Option.elim_some, Option.some.injEq, exists_eq_left']
    constructor
    · rintro ⟨size, hsize⟩
      rcases signReply_eq_ok hsize with ⟨length, hreply⟩ | ⟨bytes, hbytes, hreply⟩ <;> cases hreply
      exact hbytes
    · intro hok
      exact ⟨signature.length, by rw [hok, signReply, if_neg (Nat.lt_irrefl _)]⟩

theorem verifiesWhole_of (h : Started .verify env s handle session mechanism [] key ref obj)
    (hdata : data.length ≤ maxSingleBuffer) (hsignature : signature.length ≤ maxSingleBuffer)
    (hverify : platform.backend.verifySingleShot mechanism data signature obj = .ok true) :
    VerifiesWhole platform handle (cVerifyInit env handle mechanism key s).2 data signature := by
  have hstate : (cVerifyInit env handle mechanism key s).2 = _ := h.state_eq
  obtain ⟨hmechanism, hkey, -⟩ := signatureWith_fields mechanism key ref []
  have hobj : (s.setOperation handle session (some (.verify (signatureWith mechanism key ref
      [])))).keyOf key none = .ok obj := Hsm.keyOf_none_eq_ok.mpr (h.obj_eq nofun)
  rw [VerifiesWhole, hstate, operationWith, cVerify_eq (h.opened.setOperation _) rfl,
    if_pos ⟨hdata, hsignature⟩, hkey, hobj, hmechanism]
  simp only [hverify]
  rfl

theorem verifiesInParts_of (h : Started .verify env s handle session mechanism [] key ref obj)
    (htakes : TakesAll mechanism 0 parts) (hsignature : signature.length ≤ maxSingleBuffer)
    (hverify : verifyParts platform (signatureWith mechanism key ref parts.flatten) signature obj =
      .ok true) :
    VerifiesInParts platform handle (cVerifyInit env handle mechanism key s).2 parts signature := by
  have hstate : (cVerifyInit env handle mechanism key s).2 = _ := h.state_eq
  have hopen := h.opened.setOperation (some
    (verify.operationWith mechanism key (extractMechanismParam []) ref []))
  have hreplies := (replies_ok_iff (Or.inr rfl) parts hopen rfl fun _ ↦ Nat.zero_le _).mpr htakes
  have hfed := feedAll_of_replies hopen rfl parts hreplies
  rw [Hsm.setOperation_setOperation, List.nil_append] at hfed
  rw [VerifiesInParts, hstate]
  refine ⟨hreplies, ?_⟩
  have hobj : (s.setOperation handle session (some (.verify (signatureWith mechanism key ref
      parts.flatten)))).keyOf (signatureWith mechanism key ref parts.flatten).keyHandle
        (some ref) = .ok obj := by
    simp [Hsm.keyOf, h.deref_eq (by decide)]
  rw [hfed, operationWith, cVerifyFinal_eq (h.opened.setOperation _) rfl,
    if_pos hsignature, (signatureWith_fields mechanism key ref parts.flatten).2.2, hobj]
  simp only [hverify]
  rfl

end Ways

/-! ### Agreement -/

section Agreement

variable {platform : Platform} {schemes : SignatureCrates} {env later : CallEnv} {s : Hsm}
  {handle : Nat} {session : Session} {mechanism key ref : Nat} {obj : StoredObject}
  {parts : List Bytes}

theorem takesAll_of_length (h : parts.flatten.length ≤ signMaxDataSize) :
    TakesAll mechanism 0 parts := by
  unfold TakesAll
  split_ifs
  · exact fun part hpart ↦ (List.sublist_flatten_of_mem hpart).length_le.trans h
  · rwa [Nat.zero_add]

/-- Where the ways give the same signatures, it remains to look at these. -/
theorem SigningAgrees.of_same {P : Bytes → Prop}
    (hwhole : ∀ signature, SignsWhole (platform.rustCrypto schemes) later handle
      (cSignInit env handle mechanism key s).2 parts.flatten signature ↔ P signature)
    (hparts : ∀ signature, SignsInParts (platform.rustCrypto schemes) later handle
      (cSignInit env handle mechanism key s).2 parts signature ↔ P signature)
    (h : Started .sign env s handle session mechanism [] key ref obj)
    (haccepted : ∀ signature material, P signature → obj.keyMaterial = some material →
      ∀ pub, schemes.KeyPair mechanism obj pub material →
        parts.flatten.length ≤ signMaxDataSize ∧ signature.length ≤ maxSingleBuffer ∧
        (platform.rustCrypto schemes).backend.verifySingleShot mechanism parts.flatten signature
          pub = .ok true ∧
        ∀ key ref, verifyParts (platform.rustCrypto schemes)
          (signatureWith mechanism key ref parts.flatten) signature pub = .ok true)
    (hdigest : ∀ digest, signMechanismToDigestMechanism mechanism = some digest → ∀ signature,
      P signature → ∃ material, obj.keyMaterial = some material ∧
        schemes.signatureOf mechanism later.seed obj material
          (platform.backend.hash digest parts.flatten) = some signature) :
    SigningAgrees platform schemes env later s handle mechanism key parts where
  succeed := exists_congr fun signature ↦ (hwhole signature).trans (hparts signature).symm
  accepted := by
    intro signature hsigned obj' material hobj hmaterial env' t handle' key' pub hverify hpub hpair
    have hsigned := hsigned.elim (hwhole signature).mp (hparts signature).mp
    obtain rfl := Option.mem_unique (h.obj_eq nofun) hobj
    have hstart : (verify.start env' handle' mechanism [] key' t).1 = .ok .done :=
      hverify
    obtain ⟨session', ref', pub', hstarted⟩ := Started.of_ok hstart
    obtain rfl := Option.mem_unique (hstarted.obj_eq nofun) hpub
    obtain ⟨hlength, hshort, hsingle, hfinal⟩ :=
      haccepted signature material hsigned hmaterial pub' hpair
    refine ⟨verifiesWhole_of hstarted hlength hshort hsingle, fun parts' hparts' ↦ ?_⟩
    refine verifiesInParts_of hstarted (takesAll_of_length (hparts' ▸ hlength)) hshort ?_
    rw [hparts']
    exact hfinal key' ref'
  digest := by
    intro digest hbuiltIn signature hsigned
    obtain ⟨material, hmaterial, hsignature⟩ := hdigest digest hbuiltIn signature
      (hsigned.elim (hwhole signature).mp (hparts signature).mp)
    exact ⟨obj, material, h.obj_eq nofun, hmaterial, hsignature⟩

/-- Without a built-in hash both ways sign the same message by the same function. -/
theorem signing_agrees_of_no_hash (hdigests : platform.backend.KeepsDigestLengths)
    (h : Started .sign env s handle session mechanism [] key ref obj)
    (hnone : signMechanismToDigestMechanism mechanism = none) :
    SigningAgrees platform schemes env later s handle mechanism key parts := by
  have hparts : TakesAll mechanism 0 parts ↔ parts.flatten.length ≤ maxSingleBuffer := by
    simp [TakesAll, hnone, maxMultipartAccumulation, maxSingleBuffer]
  refine SigningAgrees.of_same (fun _ ↦ signsWhole_iff h) (fun signature ↦ ?_) h
    (fun signature material hsigned hmaterial pub hpair ↦ ?_)
    fun digest hsome ↦ nomatch hnone.symm.trans hsome
  · rw [signsInParts_iff h, hparts]
    simp only [signParts_signatureWith, hnone]
    tauto
  · obtain ⟨material', hmaterial', hlength, hsignature⟩ := hsigned
    obtain rfl := Option.mem_unique hmaterial hmaterial'
    obtain ⟨haccepts, hshort⟩ := hpair.accepts_message hdigests h.isMechanism hnone hsignature
    refine ⟨hlength, hshort.le.trans (by decide), haccepts, fun key ref ↦ ?_⟩
    rw [verifyParts_signatureWith, hnone]
    exact haccepts

section BuiltIn

variable {digest : Nat} (hdigests : platform.backend.KeepsDigestLengths)
  (h : Started .sign env s handle session mechanism [] key ref obj)
  (hdigest : signMechanismToDigestMechanism mechanism = some digest)
include hdigests h hdigest

/-- `C_Sign` needs a usable key and a message of at most 64 MiB. -/
theorem usable_of_signsWhole {signature : Bytes} (hsigns : schemes.SignsDigests)
    (hsigned : SignsWhole (platform.rustCrypto schemes) later handle
      (cSignInit env handle mechanism key s).2 parts.flatten signature) :
    parts.flatten.length ≤ signMaxDataSize ∧ ∃ material, obj.keyMaterial = some material ∧
      schemes.Usable mechanism later.seed obj material := by
  obtain ⟨material, hmaterial, -, hsignature⟩ := (signsWhole_iff h).mp hsigned
  obtain ⟨husable, hlength⟩ :=
    (signSingleShot_ok_iff hdigests hdigest hsigns).mp ⟨signature, hsignature⟩
  exact ⟨hlength, material, hmaterial, husable⟩

/-- Signing in parts needs a usable key, a hash that fits, and parts within the limit. -/
theorem usable_of_signsInParts {signature : Bytes}
    (hsigned : SignsInParts (platform.rustCrypto schemes) later handle
      (cSignInit env handle mechanism key s).2 parts signature) :
    (∀ part ∈ parts, part.length ≤ maxMultipartAccumulation) ∧
      SignatureCrates.HashFits mechanism digest obj ∧ ∃ material,
        obj.keyMaterial = some material ∧ schemes.Usable mechanism later.seed obj material := by
  obtain ⟨htakes, material, hmaterial, hsignature⟩ := (signsInParts_iff h).mp hsigned
  rw [signParts_signatureWith, hdigest] at hsignature
  obtain ⟨husable, hfits, -⟩ := (signPrehashed_eq_ok hdigests hdigest).mp hsignature
  rw [TakesAll, hdigest, Option.isSome_some, if_pos rfl] at htakes
  exact ⟨htakes, hfits, material, hmaterial, husable⟩

/-- With a hash that fits, a message of at most 64 MiB is signed the same way. -/
theorem signing_agrees_of_fits (hfits : SignatureCrates.HashFits mechanism digest obj)
    (hlength : parts.flatten.length ≤ signMaxDataSize) :
    SigningAgrees platform schemes env later s handle mechanism key parts := by
  have hsingle : ∀ material, (platform.rustCrypto schemes).backend.signSingleShot later.seed
      mechanism material parts.flatten obj = _ := fun material ↦
    signSingleShot_eq hdigests hdigest hfits hlength
  refine SigningAgrees.of_same (fun _ ↦ signsWhole_iff h) (fun signature ↦ ?_) h
    (fun signature material hsigned hmaterial pub hpair ↦ ?_)
    fun digest' hdigest' signature hsigned ↦ ?_
  · rw [signsInParts_iff h]
    simp only [signParts_signatureWith, hdigest, hsingle]
    have htakes : TakesAll mechanism 0 parts := takesAll_of_length hlength
    exact ⟨fun ⟨_, material, hmaterial, hsignature⟩ ↦ ⟨material, hmaterial, hlength, hsignature⟩,
      fun ⟨material, hmaterial, _, hsignature⟩ ↦ ⟨htakes, material, hmaterial, hsignature⟩⟩
  · obtain ⟨material', hmaterial', -, hsignature⟩ := hsigned
    obtain rfl := Option.mem_unique hmaterial hmaterial'
    obtain ⟨hsingle, hprehashed, hshort⟩ := hpair.accepts_digest hdigests hdigest hfits hlength
      ((signPrehashed_eq_ok hdigests hdigest).mp ((hsingle material).symm.trans hsignature)).2.2
    refine ⟨hlength, hshort.le.trans (by decide), hsingle, fun key ref ↦ ?_⟩
    rw [verifyParts_signatureWith, hdigest]
    exact hprehashed
  · obtain rfl := Option.mem_unique hdigest hdigest'
    obtain ⟨material, hmaterial, -, hsignature⟩ := hsigned
    exact ⟨material, hmaterial, ((signPrehashed_eq_ok hdigests hdigest).mp
      ((hsingle material).symm.trans hsignature)).2.2⟩

end BuiltIn

end Agreement

/-- Signing at once and signing in parts agree, for every key that `C_SignInit` accepts and every
split of a message, exactly under `SigningCondition`. -/
theorem signing_agrees_iff (platform : Platform) (schemes : SignatureCrates)
    (hdigests : platform.backend.KeepsDigestLengths) (hsigns : schemes.SignsDigests)
    (env later : CallEnv) (s : Hsm) (handle mechanism key : Nat) (parts : List Bytes)
    (hstart : (cSignInit env handle mechanism key s).1 = .ok .done) :
    SigningAgrees platform schemes env later s handle mechanism key parts ↔
      SigningCondition schemes later.seed s mechanism key parts := by
  have hstart : (sign.start env handle mechanism [] key s).1 = .ok .done := hstart
  obtain ⟨session, ref, obj, h⟩ := Started.of_ok hstart
  cases hdigest : signMechanismToDigestMechanism mechanism with
  | none =>
    exact iff_of_true (signing_agrees_of_no_hash hdigests h hdigest)
      fun digest _ _ hsome ↦ nomatch hdigest.symm.trans hsome
  | some digest =>
    constructor
    · intro hagrees digest' obj' material hdigest' hobj hmaterial husable
      obtain rfl := Option.mem_unique hdigest hdigest'
      obtain rfl := Option.mem_unique (h.obj_eq nofun) hobj
      split_ifs with hlength
      · -- `C_Sign` succeeds, so the other way has to, which needs a hash that fits.
        obtain ⟨signature, hsignature⟩ :=
          (signSingleShot_ok_iff hdigests hdigest hsigns).mpr ⟨husable, hlength⟩
        obtain ⟨signature', hparts⟩ := hagrees.succeed.mp ⟨signature, (signsWhole_iff h).mpr
          ⟨material, hmaterial, hlength, hsignature⟩⟩
        exact (usable_of_signsInParts hdigests h hdigest hparts).2.1
      · -- `C_Sign` fails, so the other way has to.
        by_contra hnot
        simp only [not_or, not_not, not_exists, not_and, Nat.not_lt] at hnot
        obtain ⟨hfits, hparts⟩ := hnot
        obtain ⟨signature, hsignature⟩ := Option.isSome_iff_exists.mp
          (hsigns.signatureOf_isSome hdigests hdigest husable hfits parts.flatten)
        obtain ⟨signature', hwhole⟩ := hagrees.succeed.mpr ⟨signature, (signsInParts_iff h).mpr
          ⟨by rw [TakesAll, hdigest]; exact hparts, material, hmaterial, by
            rw [signParts_signatureWith, hdigest]
            exact (signPrehashed_eq_ok hdigests hdigest).mpr
              ⟨husable, hfits, hsignature⟩⟩⟩
        exact hlength (usable_of_signsWhole hdigests h hdigest hsigns hwhole).1
    · intro hcondition
      by_cases hboth : parts.flatten.length ≤ signMaxDataSize ∧
          SignatureCrates.HashFits mechanism digest obj
      · exact signing_agrees_of_fits hdigests h hdigest hboth.2 hboth.1
      -- Neither way gives a signature.
      refine SigningAgrees.of_same (P := fun _ ↦ False)
        (fun signature ↦ iff_false_intro fun hsigned ↦ ?_)
        (fun signature ↦ iff_false_intro fun hsigned ↦ ?_) h (fun _ _ hsigned ↦ hsigned.elim)
        fun _ _ _ hsigned ↦ hsigned.elim
      · obtain ⟨hlength, material, hmaterial, husable⟩ :=
          usable_of_signsWhole hdigests h hdigest hsigns hsigned
        have hfits := hcondition digest obj material hdigest (h.obj_eq nofun) hmaterial husable
        rw [if_pos hlength] at hfits
        exact hboth ⟨hlength, hfits⟩
      · obtain ⟨htakes, hfits, material, hmaterial, husable⟩ :=
          usable_of_signsInParts hdigests h hdigest hsigned
        have hfails := hcondition digest obj material hdigest (h.obj_eq nofun) hmaterial husable
        rw [if_neg fun hlength ↦ hboth ⟨hlength, hfits⟩] at hfails
        rcases hfails with hmisfit | ⟨part, hpart, hlong⟩
        · exact hmisfit hfits
        · exact Nat.not_lt.mpr (htakes part hpart) hlong

/-! ### A key on P-256 -/

/-- A scheme that signs nothing. -/
def refusingScheme {PublicKey : Type} : Scheme PublicKey where
  sign _ _ _ := none
  readsSignature _ := false
  verify _ _ _ := false

/-- The order of the group of a curve. -/
def groupOrder : EcCurve → Nat
  | .p256 => 0xffffffff00000000ffffffffffffffffbce6faada7179e84f3b9cac2fc632551
  | .p384 =>
    0xffffffffffffffffffffffffffffffffffffffffffffffff * 2 ^ 192 +
      0xc7634d81f4372ddf581a0db248b0a77aecec196accc52973

/-- ECDSA signatures of digests from a table, with the digest itself outside the table; the other
schemes sign nothing. -/
def recordedSchemes (answers : List (Bytes × Bytes)) : SignatureCrates where
  rsaPrivateBits _ := none
  rsaReadsPublic _ := false
  pkcs1v15 _ := refusingScheme
  pss _ := refusingScheme
  ecdsaReadsPrivate curve key := 0 < beNat key && beNat key < groupOrder curve
  ecdsaReadsPublic _ _ := true
  ecdsa _ :=
    { sign := fun _ _ digest ↦ some ((answers.lookup digest).getD digest)
      readsSignature := fun _ ↦ true
      verify := fun _ digest signature ↦ (answers.lookup digest).getD digest == signature }
  ed25519ReadsPublic _ := false
  ed25519 := refusingScheme
  mlDsaReadsPublic _ _ := false
  mlDsa _ := refusingScheme
  slhDsaReadsPrivate _ _ := false
  slhDsaReadsPublic _ _ := false
  slhDsa _ := refusingScheme
  drbg _ := .ok ()

theorem recordedSchemes_signsDigests (answers : List (Bytes × Bytes)) :
    (recordedSchemes answers).SignsDigests where
  pkcs1v15 _ _ _ _ h := nomatch h
  pss _ _ _ _ h := nomatch h
  ecdsa _ _ _ _ _ _ := rfl

/-- The SHA-256 digest of the bytes 1, 2, 3. -/
def sha256OneTwoThree : Bytes :=
  beBytes 32 0x039058c6f2c0cb492c533b0a4d14ef77cc0f78abccced5287d84a1a2011cfb81

/-- The DER encoding of an ECDSA signature of that digest on P-256, by the key of 32 bytes 7. -/
def p256Signature : Bytes :=
  [0x30, 0x45] ++ [0x02, 0x20] ++
    beBytes 32 0x088bb9ff22ab291a74c86fc677ba897baadee370cc6129b82d170ba3fc26415c ++
      [0x02, 0x21, 0] ++
    beBytes 32 0xeeaf7c363e435be0c7f94097e3ab013447a65bbdbda30143cc64b1b748f461d1

/-- The schemes with that signature. -/
def p256Schemes : SignatureCrates := recordedSchemes [(sha256OneTwoThree, p256Signature)]

/-- A platform that knows the SHA-256 and SHA-384 digests of the bytes 1, 2, 3. -/
def shaPlatform : Platform :=
  .recorded [(ckmSha256, [1, 2, 3], sha256OneTwoThree),
    (ckmSha384, [1, 2, 3], beBytes 24 0x86229dc6d2ffbeac7380744154aa700291c064352a0dbdc7 ++
      beBytes 24 0x7b9ed3f2c8e1dac4dc325867d39ddff1d2629b7a393d47f6)]
    []

/-- With `CKM_ECDSA_SHA256` and a key on P-256 both ways give the same signature. -/
theorem p256_sha256_agrees :
    SigningAgrees shaPlatform p256Schemes (callEnvAt 6) (callEnvAt 7) signerLibrary firstSession
        ckmEcdsaSha256 firstObject [[1, 2], [], [3]] ∧
      (cSign (shaPlatform.rustCrypto p256Schemes) (callEnvAt 7) firstSession [1, 2, 3] (some 72)
        (cSignInit (callEnvAt 6) firstSession ckmEcdsaSha256 firstObject signerLibrary).2).1 =
          .ok (.bytes p256Signature) ∧
      (cSignFinal (shaPlatform.rustCrypto p256Schemes) (callEnvAt 7) firstSession (some 72)
        (sign.feedAll firstSession [[1, 2], [], [3]]
          (cSignInit (callEnvAt 6) firstSession ckmEcdsaSha256 firstObject signerLibrary).2)).1 =
          .ok (.bytes p256Signature) := by
  have hkey : ((signerLibrary.objectStore.objects.get? firstObject).map CryptoBackend.curveOf) =
      some EcCurve.p256 := by
    decide +kernel
  refine ⟨(signing_agrees_iff shaPlatform p256Schemes
    (CryptoBackend.recorded_keepsDigestLengths (by decide +kernel)) (recordedSchemes_signsDigests _)
    (callEnvAt 6) (callEnvAt 7) signerLibrary firstSession ckmEcdsaSha256 firstObject
    [[1, 2], [], [3]] (by decide +kernel)).mpr ?_, by decide +kernel, by decide +kernel⟩
  intro digest obj material hdigest hobj _ _
  rw [if_pos (by decide)]
  intro _
  obtain rfl := Option.some.inj hdigest
  rw [hobj, Option.map_some] at hkey
  rw [Option.some.inj hkey]
  rfl

/-- With `CKM_ECDSA_SHA384` and the same key `C_Sign` gives the signature of the SHA-256 digest, and
the parts are taken but not signed. -/
theorem p256_sha384_disagrees :
    (cSignInit (callEnvAt 6) firstSession ckmEcdsaSha384 firstObject signerLibrary).1 = .ok .done ∧
      (cSign (shaPlatform.rustCrypto p256Schemes) (callEnvAt 7) firstSession [1, 2, 3] (some 72)
        (cSignInit (callEnvAt 6) firstSession ckmEcdsaSha384 firstObject signerLibrary).2).1 =
          .ok (.bytes p256Signature) ∧
      Program.replies [cSignUpdate firstSession [1, 2, 3],
          cSignFinal (shaPlatform.rustCrypto p256Schemes) (callEnvAt 7) firstSession (some 72)]
        (cSignInit (callEnvAt 6) firstSession ckmEcdsaSha384 firstObject signerLibrary).2 =
          [.ok .done, .error .dataLenRange] := by
  decide +kernel

end CratonHsm
