import CratonHsm.Abi.Templates
import CratonHsm.Abi.SessionCalls

/-!
# Key pair generation as a whole

`C_GenerateKeyPair` has one shape for all key families: checks, a pair from the back end with its
pairwise test (`keyPairDraft`), two handles, two templates, and two insertions one after the other.
A request that passes every check before the insertions is `KeyPairAccepted`; any other leaves the
objects and the records as they were (`cGenerateKeyPair_refused`).

The two insertions check the room for an object each by itself. An accepted request at one object
below the limit inserts the public key and then fails (`KeyPairAccepted.publicOnly`), so the call is
all or nothing exactly where an accepted request finds room for both objects, and two handles that
are different and not in use, or no room at all (`generateKeyPair_all_or_nothing_iff`).
-/

set_option autoImplicit false

namespace CratonHsm

open Crypto Crypto.Encrypt Library Store
open Std (ExtTreeMap)
open Program (ensures_require_iff ensures_reads_iff)
open CryptoBackend Program

/-! ### What is generated -/

/-- A public key in the fields of an object. -/
structure PublicPart where
  modulus : Option Bytes := none
  modulusBits : Option Nat := none
  publicExponent : Option Bytes := none
  ecParams : Option Bytes := none
  ecPoint : Option Bytes := none
  publicKeyData : Option Bytes := none
  deriving DecidableEq

/-- The public key that an object carries. -/
def publicPart (obj : StoredObject) : PublicPart where
  modulus := obj.modulus
  modulusBits := obj.modulusBits
  publicExponent := obj.publicExponent
  ecParams := obj.ecParams
  ecPoint := obj.ecPoint
  publicKeyData := obj.publicKeyData

/-- What identifies an object of a key pair, which the templates leave alone. -/
structure KeyIdentity where
  handle : Nat
  objectClass : Nat
  keyMaterial : Option Bytes
  part : PublicPart

/-- The identity of an object. -/
def keyIdentity (obj : StoredObject) : KeyIdentity :=
  ⟨obj.handle, obj.objectClass, obj.keyMaterial, publicPart obj⟩

theorem keyIdentity_setFlag (obj : StoredObject) (attrType : Nat) (bit : Bool) :
    keyIdentity (setFlag obj attrType bit) = keyIdentity obj := by
  simp only [setFlag, apply_ite keyIdentity]
  simp [keyIdentity, publicPart]

theorem overrideTemplate_identity (flags : List Nat) (dates : Bool) (obj : StoredObject)
    (template : Template) :
    Answers (fun obj' ↦ keyIdentity obj' = keyIdentity obj)
      (overrideTemplate flags dates obj template) := by
  refine template_keeps keyIdentity (fun obj attrType value ↦ ?_) obj template
  exact overrideAttribute_answers flags dates obj attrType value (fun _ ↦ rfl) (fun _ ↦ rfl)
    (fun _ ↦ rfl) (fun _ ↦ keyIdentity_setFlag obj attrType _) fun _ ↦ ⟨rfl, rfl⟩

/-- What the back end generates for a mechanism and the template of the public key: a private key,
and its public key in the fields of an object. -/
inductive Generated (backend : CryptoBackend) (seed : Nat) (fips : Bool) (pubTemplate : Template) :
    Nat → Bytes → PublicPart → Prop
  | rsa {key modulus exponent : Bytes}
      (h : backend.generateRsaKeyPair seed (modulusBitsOf pubTemplate) fips =
        .ok (key, modulus, exponent)) :
      Generated backend seed fips pubTemplate ckmRsaPkcsKeyPairGen key
        { modulus := some modulus
          modulusBits := some (modulusBitsOf pubTemplate)
          publicExponent := some exponent }
  | ec {key point : Bytes}
      (h : backend.generateEcKeyPair (curveOfParams (ecParamsOf pubTemplate)) seed =
        .ok (key, point)) :
      Generated backend seed fips pubTemplate ckmEcKeyPairGen key
        { ecParams := some (ecParamsOf pubTemplate), ecPoint := some point }
  | ed25519 {key point : Bytes} (h : backend.generateEd25519KeyPair seed = .ok (key, point)) :
      Generated backend seed fips pubTemplate ckmEddsa key
        { publicKeyData := some point, ecPoint := some point }
  | pqc {mechanism keyType : Nat} {key publicKey : Bytes} {passed : Bool}
      (h : pqcKeygen backend seed mechanism = .ok (keyType, key, publicKey, passed)) :
      Generated backend seed fips pubTemplate mechanism key { publicKeyData := some publicKey }

section Draft

variable (platform : Platform) (env : CallEnv)

/-- The pair of every key family, with the outcome of its pairwise test. -/
def keyPairDraft (fips : Bool) (mechanism : Nat) (pubTemplate : Template) :
    Except CkRv (KeyPairDraft × Bool) :=
  if mechanism = ckmRsaPkcsKeyPairGen then rsaPair platform env fips pubTemplate
  else if mechanism = ckmEcKeyPairGen then
    ecPair platform env (ecParamsOf pubTemplate) (curveOfParams (ecParamsOf pubTemplate))
  else if mechanism = ckmEddsa then ed25519Pair platform env
  else pqcPair platform env mechanism

/-- Both objects of a pair carry the generated public key, and the private one the private key. -/
structure KeyPairDraft.Carries (draft : KeyPairDraft) (key : Bytes) (part : PublicPart) : Prop where
  publicObject_eq : ∀ now handle,
    keyIdentity (draft.publicObject now handle) = ⟨handle, ckoPublicKey, none, part⟩
  privateObject_eq : ∀ now handle,
    keyIdentity (draft.privateObject now handle) = ⟨handle, ckoPrivateKey, some key, part⟩

variable {platform env}

theorem keyPairDraft_generated (fips : Bool) (mechanism : Nat) (pubTemplate : Template) :
    Answers (fun result : KeyPairDraft × Bool ↦ ∃ key part,
        Generated platform.backend env.seed fips pubTemplate mechanism key part ∧
          result.1.Carries key part)
      (keyPairDraft platform env fips mechanism pubTemplate) := by
  unfold keyPairDraft
  split_ifs with hrsa hec hed
  · subst hrsa
    refine answers_bind ?_
    rintro ⟨key, modulus, exponent⟩ hpair
    exact ⟨key, _, .rsa (toAbi_eq_ok_iff.mp hpair), fun _ _ ↦ rfl, fun _ _ ↦ rfl⟩
  · subst hec
    refine answers_bind ?_
    rintro ⟨key, point⟩ hpair
    exact ⟨key, _, .ec (toAbi_eq_ok_iff.mp hpair), fun _ _ ↦ rfl, fun _ _ ↦ rfl⟩
  · subst hed
    refine answers_bind ?_
    rintro ⟨key, point⟩ hpair
    exact ⟨key, _, .ed25519 (toAbi_eq_ok_iff.mp hpair), fun _ _ ↦ rfl, fun _ _ ↦ rfl⟩
  · refine answers_bind ?_
    rintro ⟨keyType, key, publicKey, passed⟩ hpair
    exact ⟨key, _, .pqc hpair, fun _ _ ↦ rfl, fun _ _ ↦ rfl⟩

/-- The four key generations have one shape. -/
theorem generateKeypair_eq (mechanism : Nat) (pubTemplate privTemplate : Template) :
    (if mechanism = ckmRsaPkcsKeyPairGen then
      generateRsaKeypair platform env pubTemplate privTemplate
    else if mechanism = ckmEcKeyPairGen then
      generateEcKeypair platform env pubTemplate privTemplate
    else if mechanism = ckmEddsa then
      generateEd25519Keypair platform env pubTemplate privTemplate
    else generatePqcKeypair platform env mechanism pubTemplate privTemplate) = (do
      let (draft, passed) ← .reads fun s ↦
        keyPairDraft platform env s.algorithmConfig.fipsApprovedOnly mechanism pubTemplate
      requirePairwise passed
      insertKeyPair platform env draft pubTemplate privTemplate) := by
  unfold keyPairDraft
  split_ifs <;> rfl

end Draft

/-! ### Accepted requests -/

/-- The handles that the object store issues next, and the store after the second. -/
def Hsm.nextHandles (s : Hsm) : Nat × Nat :=
  (s.objectStore.nextHandle.1, s.objectStore.nextHandle.2.nextHandle.1)

/-- The library after two handles have been issued. -/
def Hsm.issued (s : Hsm) : Hsm := { s with objectStore := s.objectStore.nextHandle.2.nextHandle.2 }

/-- The request passes every check before the first insertion, and these are the two objects. -/
structure KeyPairAccepted (platform : Platform) (env : CallEnv) (s : Hsm) (session mechanism : Nat)
    (pubTemplate privTemplate : Template) (pub priv : StoredObject) : Prop where
  postFailed_eq : s.postFailed = false
  isRw : ∃ found, s.sessionManager.sessions[session]? = some found ∧ found.state.isRw = true
  isKeypairGen : isKeypairGenMechanism mechanism = true
  policy : validateMechanismForPolicy mechanism s.algorithmConfig false = .ok ()
  pubParsed : parseTemplate pubTemplate = .ok pubTemplate
  privParsed : parseTemplate privTemplate = .ok privTemplate
  approved : enforce mechanism s.algorithmConfig
    (if mechanism = ckmRsaPkcsKeyPairGen then some (modulusBitsOf pubTemplate) else none) = .ok ()
  objects : ∃ draft, keyPairDraft platform env s.algorithmConfig.fipsApprovedOnly mechanism
      pubTemplate = .ok (draft, true) ∧
    applyPubTemplate (draft.publicObject env.now s.nextHandles.1) pubTemplate = .ok pub ∧
    applyPrivTemplate (draft.privateObject env.now s.nextHandles.2) privTemplate = .ok priv

section Accepted

variable {platform : Platform} {env : CallEnv} {s : Hsm} {session mechanism : Nat}
  {pubTemplate privTemplate : Template} {pub priv : StoredObject}
  {objects : SharedMap Nat StoredObject}

/-- Objects and records are what they were. -/
def Hsm.SameObjects (s s' : Hsm) : Prop :=
  s'.objectStore.objects = s.objectStore.objects ∧ s'.objectStore.records = s.objectStore.records

theorem ensures_requirePairwise {Result : Type} {Q : Except CkRv Result → Hsm → Prop}
    {passed : Bool} {f : Unit → Program Hsm CkRv Result}
    (hstop : Q (.error .generalError) { s with postFailed := true })
    (hgo : passed = true → (f ()).Ensures s Q) : (requirePairwise passed >>= f).Ensures s Q := by
  cases passed with
  | false => exact hstop
  | true => exact hgo rfl

/-- A request that is not accepted fails and leaves the objects alone. -/
theorem cGenerateKeyPair_refused (mechanism : Nat) (pubTemplate privTemplate : Template) :
    (cGenerateKeyPair platform env session mechanism pubTemplate privTemplate).Ensures s
      fun answer s' ↦ ((∃ e, answer = .error e) ∧ s.SameObjects s') ∨
        ∃ pub priv, KeyPairAccepted platform env s session mechanism pubTemplate privTemplate
          pub priv := by
  have hfails : ∀ (e : CkRv) (s' : Hsm), s.SameObjects s' →
      ((∃ e', (.error e : Except CkRv Reply) = .error e') ∧ s.SameObjects s') ∨
        ∃ pub priv, KeyPairAccepted platform env s session mechanism pubTemplate privTemplate
          pub priv := fun e s' hsame ↦ Or.inl ⟨⟨e, rfl⟩, hsame⟩
  simp only [cGenerateKeyPair, requireRw, checkPolicy, checkApproved, generateKeypair_eq,
    ensures_getHsm, ensures_getSession, ensures_require_iff, ensures_reads_iff,
    hfails _ s ⟨rfl, rfl⟩, implies_true, true_and]
  intro hpost found hfound hrw hkind _ hpolicy parsed hpub parsed' hpriv _ happroved pair hpair
  obtain rfl := parseTemplate_eq_ok hpub
  obtain rfl := parseTemplate_eq_ok hpriv
  obtain ⟨draft, passed⟩ := pair
  refine ensures_requirePairwise (hfails _ _ ⟨rfl, rfl⟩) fun hpassed ↦ ?_
  subst hpassed
  simp only [insertKeyPair, ensures_nextHandle, ensures_reads_iff]
  refine ⟨fun e _ ↦ hfails e _ ⟨rfl, rfl⟩, fun pub hpub' ↦
    ⟨fun e _ ↦ hfails e _ ⟨rfl, rfl⟩, fun priv hpriv' ↦ ?_⟩⟩
  exact Or.inr ⟨pub, priv, hpost, ⟨found, hfound, hrw⟩, hkind, hpolicy, hpub, hpriv,
    toAbi_eq_ok_iff.mp happroved, draft, hpair, hpub', hpriv'⟩

/-! ### The two insertions -/

/-- `insert_object` fails without an effect when the store is full. -/
theorem insertObject_bind {Result : Type} (crates : Crates) (codec : ObjectCodec) (draw : StoreDraw)
    (obj : StoredObject) (f : Nat → Program Hsm CkRv Result) :
    (insertObject crates codec draw obj >>= f) s =
      if s.objectStore.objects.refs.size ≥ maxObjects then (.error .deviceMemory, s)
      else f obj.handle
        { s with objectStore := s.objectStore.addObject crates codec draw obj.handle obj } := by
  rw [bind_apply]
  by_cases hfull : s.objectStore.objects.refs.size ≥ maxObjects
  · rw [if_pos hfull]
    simp [insertObject, onStore, ObjectStore.insertObject, hfull, toAbi, HsmError.toRv]
  · rw [if_neg hfull]
    simp [insertObject, onStore, ObjectStore.insertObject, hfull, toAbi]

/-- The library after the public object has been inserted. -/
def Hsm.withPublic (s : Hsm) (platform : Platform) (env : CallEnv) (pub : StoredObject) : Hsm :=
  { s.issued with
    objectStore := s.issued.objectStore.addObject platform.crates platform.codec env.first
      pub.handle pub }

theorem Hsm.withPublic_objects :
    (s.withPublic platform env pub).objectStore.objects =
      s.objectStore.objects.insert pub.handle pub := by
  rw [Hsm.withPublic, ObjectStore.addObject_objects]
  rfl

/-- An object under a new handle is one more. -/
theorem size_refs_insert {handle : Nat} (obj : StoredObject) (hfree : objects.get? handle = none) :
    (objects.insert handle obj).refs.size = objects.refs.size + 1 := by
  have hnew : objects.refs.contains handle = false := by
    rw [ExtTreeMap.contains_eq_isSome_getElem?, objects.get?_eq_none_iff.mp hfree]
    rfl
  simp [SharedMap.insert, ExtTreeMap.size_insert, hnew]

/-- An object under a handle in use takes the place of the other. -/
theorem size_refs_insert_of_used {handle : Nat} (obj : StoredObject)
    (hused : objects.get? handle ≠ none) :
    (objects.insert handle obj).refs.size = objects.refs.size := by
  have hold : objects.refs.contains handle = true := by
    rw [ExtTreeMap.contains_eq_isSome_getElem?, Option.isSome_iff_ne_none]
    exact mt objects.get?_eq_none_iff.mpr hused
  simp [SharedMap.insert, ExtTreeMap.size_insert, hold]

namespace KeyPairAccepted

variable (h : KeyPairAccepted platform env s session mechanism pubTemplate privTemplate pub priv)
include h

/-- An accepted request is its two insertions. -/
theorem eq : cGenerateKeyPair platform env session mechanism pubTemplate privTemplate s = (do
      let _ ← insertObject platform.crates platform.codec env.first pub
      let _ ← insertObject platform.crates platform.codec env.second priv
      return .handlePair s.nextHandles.1 s.nextHandles.2 : Entry) s.issued := by
  obtain ⟨found, hfound, hrw⟩ := h.isRw
  obtain ⟨draft, hdraft, hpub, hpriv⟩ := h.objects
  have hsession : toAbi (s.sessionManager.getSession session) = .ok found := by
    simp [SessionManager.getSession, hfound, toAbi]
  unfold cGenerateKeyPair
  simp only [generateKeypair_eq]
  simp only [getHsm, getSession, requireRw, checkPolicy, checkApproved, reads_bind,
    require_bind, h.postFailed_eq, hsession, hrw, h.isKeypairGen, h.policy, h.pubParsed,
    h.privParsed, toAbi_eq_ok_iff.mpr h.approved, hdraft, Bool.false_eq_true, if_false, if_true]
  have hpairwise : ∀ f : Unit → Entry, (requirePairwise true >>= f) s = f () s := fun _ ↦ rfl
  rw [hpairwise]
  unfold insertKeyPair
  have hnext : ∀ (f : Nat → Entry) (s : Hsm), (nextHandle >>= f) s =
      f s.objectStore.nextHandle.1 { s with objectStore := s.objectStore.nextHandle.2 } :=
    fun _ _ ↦ rfl
  rw [hnext, reads_bind, show applyPubTemplate (draft.publicObject env.now
    s.objectStore.nextHandle.1) pubTemplate = .ok pub from hpub]
  dsimp only
  rw [hnext, reads_bind, show applyPrivTemplate (draft.privateObject env.now
    s.objectStore.nextHandle.2.nextHandle.1) privTemplate = .ok priv from hpriv]
  rfl

/-- The two objects of an accepted request. -/
theorem identities :
    ∃ key part, Generated platform.backend env.seed s.algorithmConfig.fipsApprovedOnly pubTemplate
        mechanism key part ∧
      keyIdentity pub = ⟨s.nextHandles.1, ckoPublicKey, none, part⟩ ∧
      keyIdentity priv = ⟨s.nextHandles.2, ckoPrivateKey, some key, part⟩ := by
  obtain ⟨draft, hdraft, hpub, hpriv⟩ := h.objects
  obtain ⟨key, part, hgenerated, hcarries⟩ := (keyPairDraft_generated _ _ _).of_eq_ok hdraft
  have hpub := (overrideTemplate_identity _ _ _ pubTemplate).of_eq_ok hpub
  have hpriv := (overrideTemplate_identity _ _ _ privTemplate).of_eq_ok hpriv
  exact ⟨key, part, hgenerated, hpub.trans (hcarries.publicObject_eq _ _),
    hpriv.trans (hcarries.privateObject_eq _ _)⟩

/-- Without room for any object nothing is inserted. -/
theorem full (hfull : maxObjects ≤ s.objectStore.objects.refs.size) :
    cGenerateKeyPair platform env session mechanism pubTemplate privTemplate s =
      (.error .deviceMemory, s.issued) := by
  rw [h.eq, insertObject_bind, if_pos (show s.issued.objectStore.objects.refs.size ≥ _ from hfull)]

/-- With room for one object only, the public one stays while the call fails. -/
theorem publicOnly (hfree : s.objectStore.objects.get? s.nextHandles.1 = none)
    (hsize : s.objectStore.objects.refs.size + 1 = maxObjects) :
    cGenerateKeyPair platform env session mechanism pubTemplate privTemplate s =
      (.error .deviceMemory, s.withPublic platform env pub) := by
  obtain ⟨key, part, -, hpub, -⟩ := h.identities
  have hhandle : pub.handle = s.nextHandles.1 := congrArg KeyIdentity.handle hpub
  have hroom : ¬s.issued.objectStore.objects.refs.size ≥ maxObjects := by
    have hsame : s.issued.objectStore.objects = s.objectStore.objects := rfl
    rw [hsame]
    omega
  have hnow : (s.withPublic platform env pub).objectStore.objects.refs.size ≥ maxObjects := by
    rw [Hsm.withPublic_objects, hhandle, size_refs_insert pub hfree, hsize]
  rw [h.eq, insertObject_bind, if_neg hroom, insertObject_bind]
  exact if_pos hnow

/-- With room for the second object, both are inserted. -/
theorem both (hroom : s.objectStore.objects.refs.size < maxObjects)
    (hsecond : (s.objectStore.objects.insert pub.handle pub).refs.size < maxObjects) :
    cGenerateKeyPair platform env session mechanism pubTemplate privTemplate s =
      (.ok (.handlePair s.nextHandles.1 s.nextHandles.2),
        { s.withPublic platform env pub with
          objectStore := (s.withPublic platform env pub).objectStore.addObject platform.crates
            platform.codec env.second priv.handle priv }) := by
  have hroom : ¬s.issued.objectStore.objects.refs.size ≥ maxObjects := Nat.not_le.mpr hroom
  have hsecond : ¬(s.withPublic platform env pub).objectStore.objects.refs.size ≥ maxObjects := by
    rw [Hsm.withPublic_objects]
    exact Nat.not_le.mpr hsecond
  rw [h.eq, insertObject_bind, if_neg hroom, insertObject_bind]
  exact if_neg hsecond

end KeyPairAccepted

/-- What an answered `C_GenerateKeyPair` has done. -/
theorem cGenerateKeyPair_eq_ok {reply : Reply} {s' : Hsm}
    (h : cGenerateKeyPair platform env session mechanism pubTemplate privTemplate s =
      (.ok reply, s')) :
    ∃ pub priv, KeyPairAccepted platform env s session mechanism pubTemplate privTemplate pub priv ∧
      reply = .handlePair s.nextHandles.1 s.nextHandles.2 ∧
      ∀ handle, s'.objectStore.objects.get? handle =
        if handle = s.nextHandles.2 then some priv
        else if handle = s.nextHandles.1 then some pub
        else s.objectStore.objects.get? handle := by
  have hcall : (cGenerateKeyPair platform env session mechanism pubTemplate privTemplate).Ensures
      s _ := cGenerateKeyPair_refused mechanism pubTemplate privTemplate
  rw [Program.Ensures, h] at hcall
  rcases hcall with ⟨⟨e, he⟩, -⟩ | ⟨pub, priv, haccepted⟩
  · cases he
  refine ⟨pub, priv, haccepted, ?_⟩
  obtain ⟨key, part, -, hpub, hpriv⟩ := haccepted.identities
  have hpubHandle : pub.handle = s.nextHandles.1 := congrArg KeyIdentity.handle hpub
  have hprivHandle : priv.handle = s.nextHandles.2 := congrArg KeyIdentity.handle hpriv
  rw [haccepted.eq, insertObject_bind] at h
  split_ifs at h
  · cases h
  rw [insertObject_bind] at h
  split_ifs at h
  · cases h
  obtain ⟨hreply, rfl⟩ := Prod.mk.inj h
  refine ⟨(Except.ok.inj hreply).symm, fun handle ↦ ?_⟩
  rw [ObjectStore.addObject_objects, ObjectStore.addObject_objects, SharedMap.get?_insert,
    SharedMap.get?_insert, hpubHandle, hprivHandle]
  simp only [eq_comm]
  rfl

end Accepted

/-! ### All or nothing -/

section Atomic

variable (platform : Platform) (env : CallEnv) (session mechanism : Nat)
  (pubTemplate privTemplate : Template)

/-- The two handles are new and different, and under them are, beside all objects there were, a
public and a private object, of which the public one carries the public key of the private key. -/
structure PairAdded (s s' : Hsm) (pubHandle privHandle : Nat) : Prop where
  distinct : pubHandle ≠ privHandle
  unused : s.objectStore.objects.get? pubHandle = none ∧
    s.objectStore.objects.get? privHandle = none
  added : ∃ pub priv key part, Generated platform.backend env.seed
      s.algorithmConfig.fipsApprovedOnly pubTemplate mechanism key part ∧
    keyIdentity pub = ⟨pubHandle, ckoPublicKey, none, part⟩ ∧
    keyIdentity priv = ⟨privHandle, ckoPrivateKey, some key, part⟩ ∧
    ∀ handle, s'.objectStore.objects.get? handle =
      if handle = privHandle then some priv
      else if handle = pubHandle then some pub
      else s.objectStore.objects.get? handle

/-- A call that fails leaves the objects in memory and the records as they were, and one that
succeeds adds the pair. -/
def AllOrNothing (s : Hsm) : Prop :=
  match cGenerateKeyPair platform env session mechanism pubTemplate privTemplate s with
  | (.error _, s') => (∀ handle, s'.objectStore.objects.get? handle =
      s.objectStore.objects.get? handle) ∧ s'.objectStore.records = s.objectStore.records
  | (.ok reply, s') => ∃ pubHandle privHandle, reply = .handlePair pubHandle privHandle ∧
      PairAdded platform env mechanism pubTemplate s s' pubHandle privHandle

/-- There is no room for an object, or room for two and two new handles for them. -/
def Hsm.HasRoom (s : Hsm) : Prop :=
  maxObjects ≤ s.objectStore.objects.refs.size ∨
    s.objectStore.objects.refs.size + 2 ≤ maxObjects ∧ s.nextHandles.1 ≠ s.nextHandles.2 ∧
      s.objectStore.objects.get? s.nextHandles.1 = none ∧
      s.objectStore.objects.get? s.nextHandles.2 = none

variable {platform env session mechanism pubTemplate privTemplate} {s : Hsm}
  {pub priv : StoredObject}

theorem KeyPairAccepted.allOrNothing_iff (h : KeyPairAccepted platform env s session mechanism
      pubTemplate privTemplate pub priv) :
    AllOrNothing platform env session mechanism pubTemplate privTemplate s ↔ s.HasRoom := by
  obtain ⟨key, part, hgenerated, hpub, hpriv⟩ := h.identities
  have hpubHandle : pub.handle = s.nextHandles.1 := congrArg KeyIdentity.handle hpub
  have hprivHandle : priv.handle = s.nextHandles.2 := congrArg KeyIdentity.handle hpriv
  unfold AllOrNothing
  by_cases hfull : maxObjects ≤ s.objectStore.objects.refs.size
  · rw [h.full hfull]
    exact iff_of_true ⟨fun _ ↦ rfl, rfl⟩ (Or.inl hfull)
  have hroom : s.objectStore.objects.refs.size < maxObjects := Nat.not_le.mp hfull
  by_cases honly : s.objectStore.objects.refs.size + 1 = maxObjects ∧
      s.objectStore.objects.get? s.nextHandles.1 = none
  · rw [h.publicOnly honly.2 honly.1]
    refine iff_of_false (fun hsame ↦ ?_) fun hfits ↦ ?_
    · have hleft := hsame.1 s.nextHandles.1
      rw [Hsm.withPublic_objects, hpubHandle, SharedMap.get?_insert, if_pos rfl, honly.2] at hleft
      cases hleft
    · rcases hfits with h | h <;> omega
  -- both insertions succeed, so it is a matter of the handles
  have hsecond : (s.objectStore.objects.insert pub.handle pub).refs.size < maxObjects := by
    rw [hpubHandle]
    by_cases hfree : s.objectStore.objects.get? s.nextHandles.1 = none
    · rw [size_refs_insert pub hfree]
      have hne : s.objectStore.objects.refs.size + 1 ≠ maxObjects :=
        fun hsize ↦ honly ⟨hsize, hfree⟩
      omega
    · rw [size_refs_insert_of_used pub hfree]
      exact hroom
  rw [h.both hroom hsecond]
  constructor
  · rintro ⟨pubHandle, privHandle, hreply, hadded⟩
    obtain ⟨rfl, rfl⟩ := Reply.handlePair.inj hreply
    refine Or.inr ⟨?_, hadded.distinct, hadded.unused⟩
    have hne : s.objectStore.objects.refs.size + 1 ≠ maxObjects :=
      fun hsize ↦ honly ⟨hsize, hadded.unused.1⟩
    omega
  · rintro (hbad | ⟨-, hdistinct, hunused⟩)
    · exact absurd hbad hfull
    · refine ⟨_, _, rfl, hdistinct, hunused, pub, priv, key, part, hgenerated, hpub, hpriv, ?_⟩
      intro handle
      rw [ObjectStore.addObject_objects, Hsm.withPublic_objects, SharedMap.get?_insert,
        SharedMap.get?_insert, hpubHandle, hprivHandle]
      simp [eq_comm]

/-- `C_GenerateKeyPair` is all or nothing exactly where an accepted request finds room. -/
theorem generateKeyPair_all_or_nothing_iff (platform : Platform) (env : CallEnv) (s : Hsm)
    (session mechanism : Nat) (pubTemplate privTemplate : Template) :
    AllOrNothing platform env session mechanism pubTemplate privTemplate s ↔
      ((∃ pub priv, KeyPairAccepted platform env s session mechanism pubTemplate privTemplate
        pub priv) → s.HasRoom) := by
  by_cases haccepted : ∃ pub priv, KeyPairAccepted platform env s session mechanism pubTemplate
      privTemplate pub priv
  · obtain ⟨pub, priv, h⟩ := haccepted
    rw [h.allOrNothing_iff]
    exact ⟨fun hroom _ ↦ hroom, fun himp ↦ himp ⟨pub, priv, h⟩⟩
  · refine iff_of_true ?_ fun h ↦ absurd h haccepted
    have hrefused : (cGenerateKeyPair platform env session mechanism pubTemplate
        privTemplate).Ensures s _ := cGenerateKeyPair_refused mechanism pubTemplate privTemplate
    unfold AllOrNothing
    rcases hrun : cGenerateKeyPair platform env session mechanism pubTemplate privTemplate s with
      ⟨answer, s'⟩
    unfold Program.Ensures at hrefused
    rw [hrun] at hrefused
    rcases hrefused with ⟨⟨e, rfl⟩, hobjects, hrecords⟩ | h
    · exact ⟨fun handle ↦ by rw [hobjects], hrecords⟩
    · exact absurd h haccepted

end Atomic

/-! ### A concrete pair -/

/-- The Ed25519 private key of 32 bytes with value 1, and its public key. -/
def onesKeyPair : Bytes × Bytes :=
  (List.replicate 32 1, beBytes 32
    62661036972089873194988114229977232981811067054527611535751773680930539925340)

/-- The signature of the pairwise test data under that key. -/
def onesSignature : Bytes :=
  beBytes 32 0x8a0d8380540ae6d87d8b150b0e6a25017c8afcf6901b86ef2e050d44b547899f ++
    beBytes 32 0x6c8643a60adcf86cea7ae41da1840204f9edb0667ad84630908d65af955bdf0c

/-- A platform that generates that pair, and knows that signature. -/
def onesPlatform : Platform :=
  { Platform.recorded [] [] with
    backend := { recorded [] with
      generateEd25519KeyPair := fun _ ↦ .ok onesKeyPair
      ed25519Sign := fun _ key data ↦
        if key = onesKeyPair.1 ∧ data = pairwiseTestData then .ok onesSignature
        else .error .generalError
      ed25519Verify := fun publicKey data signature ↦
        .ok (publicKey = onesKeyPair.2 ∧ data = pairwiseTestData ∧
          signature = onesSignature) } }

/-- The pair as it is inserted. -/
def onesDraft : KeyPairDraft where
  keyType := ckkEcEdwards
  privateKey := onesKeyPair.1
  publicFields := fun obj ↦ { obj with
    publicKeyData := some onesKeyPair.2, ecPoint := some onesKeyPair.2 }
  publicUses := fun obj ↦ { obj with canVerify := true }
  privateUses := fun obj ↦ { obj with canSign := true }

theorem onesDraft_eq (env : CallEnv) (fips : Bool) :
    keyPairDraft onesPlatform env fips ckmEddsa [] = .ok (onesDraft, true) := by
  have hpassed : pairwiseSignTest
      (onesPlatform.backend.ed25519Sign env.seed onesKeyPair.1)
      (onesPlatform.backend.ed25519Verify onesKeyPair.2) = true := by
    simp [pairwiseSignTest, onesPlatform]
  have hdraft : keyPairDraft onesPlatform env fips ckmEddsa [] =
      .ok (onesDraft, pairwiseSignTest
        (onesPlatform.backend.ed25519Sign env.seed onesKeyPair.1)
        (onesPlatform.backend.ed25519Verify onesKeyPair.2)) := rfl
  rw [hdraft, hpassed]

variable (objects : SharedMap Nat StoredObject)

/-- The library of a logged-in user, with other objects. -/
def userLibraryWith : Hsm :=
  { userLibrary false with
    objectStore := { (userLibrary false).objectStore with objects := objects } }

theorem onesAccepted :
    KeyPairAccepted onesPlatform (callEnvAt 5) (userLibraryWith objects) firstSession ckmEddsa [] []
      (onesDraft.publicObject 5 (userLibraryWith objects).nextHandles.1)
      (onesDraft.privateObject 5 (userLibraryWith objects).nextHandles.2) where
  postFailed_eq := by
    change (userLibrary false).postFailed = false
    decide +kernel
  isRw := by
    have hopen : ((userLibrary false).sessionManager.sessions[firstSession]?.map
        (·.state.isRw)) = some true := by decide +kernel
    exact Option.map_eq_some_iff.mp hopen
  isKeypairGen := by decide
  policy := by
    change validateMechanismForPolicy ckmEddsa (userLibrary false).algorithmConfig false = .ok ()
    decide +kernel
  pubParsed := rfl
  privParsed := rfl
  approved := by
    change enforce ckmEddsa (userLibrary false).algorithmConfig none = .ok ()
    decide +kernel
  objects := ⟨onesDraft, onesDraft_eq _ _, rfl, rfl⟩

theorem nextHandles_userLibraryWith : (userLibraryWith objects).nextHandles.1 = firstObject := by
  have hfirst : (userLibrary false).objectStore.handleAlloc.allocate.1 = firstObject := by
    decide +kernel
  simpa [userLibraryWith, Hsm.nextHandles, ObjectStore.nextHandle] using hfirst

/-- Objects under the handles from 1 on. -/
def crowd (count : Nat) : SharedMap Nat StoredObject :=
  (List.range count).foldl
    (fun objects i ↦ objects.insert (i + 1) (.new 0 (i + 1) ckoSecretKey)) .empty

theorem crowd_succ (count : Nat) : crowd (count + 1) =
    (crowd count).insert (count + 1) (.new 0 (count + 1) ckoSecretKey) := by
  simp [crowd, List.range_succ]

theorem crowd_spec (count : Nat) : (crowd count).refs.size = count ∧
    ∀ handle, count < handle → (crowd count).get? handle = none := by
  induction count with
  | zero => exact ⟨rfl, fun handle _ ↦ SharedMap.get?_empty handle⟩
  | succ count ih =>
    obtain ⟨hsize, hfree⟩ := ih
    rw [crowd_succ]
    refine ⟨?_, fun handle hlt ↦ ?_⟩
    · rw [size_refs_insert _ (hfree _ (Nat.lt_succ_self _)), hsize]
    · rw [SharedMap.get?_insert, if_neg (by omega), hfree handle (by omega)]

/-- One object below the limit the call fails, and the public key stays behind. -/
theorem public_key_left_behind :
    let s := userLibraryWith (crowd (maxObjects - 1))
    let result := cGenerateKeyPair onesPlatform (callEnvAt 5) firstSession ckmEddsa [] [] s
    result.1 = .error .deviceMemory ∧ s.objectStore.objects.get? firstObject = none ∧
      result.2.objectStore.objects.get? firstObject =
        some (onesDraft.publicObject 5 firstObject) ∧
      ¬AllOrNothing onesPlatform (callEnvAt 5) firstSession ckmEddsa [] [] s := by
  obtain ⟨hcrowd, hnone⟩ := crowd_spec (maxObjects - 1)
  generalize crowd (maxObjects - 1) = objects at hcrowd hnone
  intro s result
  have haccepted := onesAccepted objects
  have hhandle : s.nextHandles.1 = firstObject := nextHandles_userLibraryWith objects
  have hfree : s.objectStore.objects.get? firstObject = none := hnone _ (by decide)
  have hsize : s.objectStore.objects.refs.size + 1 = maxObjects := by
    have hobjects : s.objectStore.objects = objects := rfl
    rw [hobjects, hcrowd]
    decide
  have hrun : result = (.error .deviceMemory, s.withPublic onesPlatform (callEnvAt 5)
      (onesDraft.publicObject 5 s.nextHandles.1)) :=
    haccepted.publicOnly (by rw [nextHandles_userLibraryWith]; exact hfree) hsize
  refine ⟨by rw [hrun], hfree, ?_, fun hatomic ↦ ?_⟩
  · rw [hrun, Hsm.withPublic_objects, hhandle, SharedMap.get?_insert]
    rfl
  · rcases haccepted.allOrNothing_iff.mp hatomic with hroom | ⟨hroom, -⟩
    · have hle : maxObjects ≤ s.objectStore.objects.refs.size := hroom
      omega
    · have hle : s.objectStore.objects.refs.size + 2 ≤ maxObjects := hroom
      omega

end CratonHsm
