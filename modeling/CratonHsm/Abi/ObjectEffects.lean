import CratonHsm.Abi.KeyPairs
import CratonHsm.Store.Places

/-!
# What the calls that make objects do

One lemma for each entry point that makes objects, which says what the call does to the object
store, whatever it answers. It moves the allocator of handles and adds at most the object its
template describes, or the two of a pair, in order (`Creates`), and the answer names what was made
(`Makes`).
-/

set_option autoImplicit false

namespace CratonHsm

open Crypto Crypto.Encrypt Library Session Store
open Program (ensures_require_iff ensures_reads_iff ensures_update)

/-! ### Adding objects -/

/-- The allocator of handles moves, and the objects `made` are added. -/
def Creates (platform : Platform) (made : List (StoreDraw × StoredObject))
    (store store' : ObjectStore) : Prop :=
  ∃ handleAlloc, store' =
    { store with handleAlloc := handleAlloc }.addAll platform.crates platform.codec made

section Steps

variable {platform : Platform} {made : List (StoreDraw × StoredObject)} {store store' : ObjectStore}

theorem Creates.refl (platform : Platform) (store : ObjectStore) :
    Creates platform [] store store :=
  ⟨store.handleAlloc, rfl⟩

theorem Creates.nextHandle (h : Creates platform [] store store') :
    Creates platform [] store store'.nextHandle.2 := by
  obtain ⟨handleAlloc, rfl⟩ := h
  exact ⟨_, rfl⟩

theorem Creates.addObject (h : Creates platform made store store') (draw : StoreDraw)
    (obj : StoredObject) :
    Creates platform (made ++ [(draw, obj)]) store
      (store'.addObject platform.crates platform.codec draw obj.handle obj) := by
  obtain ⟨handleAlloc, rfl⟩ := h
  refine ⟨handleAlloc, ?_⟩
  rw [ObjectStore.addAll, ObjectStore.addAll, List.foldl_append]
  rfl

end Steps

/-! ### Making objects -/

/-- The call makes one object with the next handle, or fails and makes none. -/
inductive Makes (platform : Platform) (draw : StoreDraw) (P : Nat → StoredObject → Prop) (s : Hsm) :
    Except CkRv Reply → Hsm → Prop
  | nothing {e : CkRv} {s' : Hsm} (h : Creates platform [] s.objectStore s'.objectStore) :
    Makes platform draw P s (.error e) s'
  | one {obj : StoredObject} {s' : Hsm} (hobj : P s.objectStore.nextHandle.1 obj)
    (hhandle : obj.handle = s.objectStore.nextHandle.1)
    (h : Creates platform [(draw, obj)] s.objectStore s'.objectStore) :
    Makes platform draw P s (.ok (.handle obj.handle)) s'

section Making

variable {platform : Platform} {env : CallEnv} {s : Hsm} {session : Nat} {draw : StoreDraw}
  {P : Nat → StoredObject → Prop}

theorem makes_error {e : CkRv} {s' : Hsm} : Makes platform draw P s (.error e) s' ↔
    Creates platform [] s.objectStore s'.objectStore :=
  ⟨fun h ↦ by cases h; assumption, .nothing⟩

theorem Makes.creates {answer : Except CkRv Reply} {s' : Hsm}
    (h : Makes platform draw P s answer s') :
    ∃ made, Creates platform made s.objectStore s'.objectStore := by
  cases h with
  | nothing h => exact ⟨[], h⟩
  | one _ _ h => exact ⟨_, h⟩

/-- The end of every call that makes one object. -/
theorem ensures_makes {s' : Hsm} (hstore : s'.objectStore = s.objectStore)
    {build : Nat → Except CkRv StoredObject} {reply : Nat → Nat → Reply}
    (hreply : ∀ handle, reply handle handle = .handle handle)
    (hbuild : ∀ handle obj, build handle = .ok obj → P handle obj ∧ obj.handle = handle) :
    (do
      let handle ← nextHandle
      let obj ← .reads fun _ ↦ build handle
      let inserted ← insertObject platform.crates platform.codec draw obj
      return reply handle inserted : Entry).Ensures s' (Makes platform draw P s) := by
  have hmoved : Creates platform [] s.objectStore s'.objectStore.nextHandle.2 := by
    rw [hstore]
    exact (Creates.refl platform _).nextHandle
  rw [ensures_nextHandle]
  refine Program.ensures_reads (fun _ ↦ .nothing hmoved) fun obj hobj ↦ ?_
  refine ensures_insertObject (fun _ ↦ .nothing hmoved) ?_
  obtain ⟨hP, hhandle⟩ := hbuild _ obj hobj
  rw [← hhandle, hreply]
  rw [hstore] at hP hhandle
  exact .one hP hhandle (hmoved.addObject draw obj)

/-- `C_CreateObject` makes the object that its template describes. -/
theorem cCreateObject_makes (template : Template) :
    (cCreateObject platform.crates platform.codec env session template).Ensures s
      (Makes platform env.first (fun handle obj ↦ ∃ objectClass,
        (StoredObject.new env.now handle objectClass).applyTemplate template = .ok obj) s) := by
  simp only [cCreateObject, requireRw, ensures_getHsm, ensures_getSession, ensures_require_iff,
    ensures_reads_iff, makes_error, Creates.refl, implies_true, true_and]
  intro _ x hsession _ parsed hparse _
  obtain rfl := parseTemplate_eq_ok hparse
  have hmoved : Creates platform [] s.objectStore s.objectStore.nextHandle.2 :=
    (Creates.refl platform _).nextHandle
  refine ensures_createObject (fun _ ↦ .nothing (.refl platform _)) (fun _ ↦ .nothing hmoved)
    fun objectClass obj hobj ↦ ?_
  have hhandle : obj.handle = s.objectStore.nextHandle.1 :=
    congrArg Prod.fst ((applyTemplate_keeps _ parsed).of_eq_ok hobj)
  rw [← hhandle]
  exact Makes.one ⟨objectClass, hobj⟩ hhandle (hmoved.addObject env.first obj)

/-- `C_CopyObject` makes the object with the changes of its template. -/
theorem cCopyObject_makes (object : Nat) (template : Template) :
    (cCopyObject platform.crates platform.codec env session object template).Ensures s
      (Makes platform env.first (fun handle obj ↦ ∃ source,
        s.objectStore.objects.get? object = some source ∧
        copyTemplate { source with handle := handle } template = .ok obj) s) := by
  simp only [cCopyObject, requireRw, requireLoginFor, ensures_getHsm, ensures_getSession,
    ensures_getObject, ensures_require_iff, makes_error, Creates.refl, implies_true, true_and]
  intro _ x hsession _ source hsource _ _
  refine ensures_makes rfl (fun _ ↦ rfl) fun handle obj hobj ↦ ?_
  exact ⟨⟨source, hsource, hobj⟩,
    congrArg ObjectCore.handle ((copyTemplate_keeps _ template).of_eq_ok hobj)⟩

/-- `C_GenerateKey` makes a secret key. -/
theorem cGenerateKey_makes (mechanism : Nat) (template : Template) :
    (cGenerateKey platform env session mechanism template).Ensures s
      (Makes platform env.first (fun handle obj ↦ ∃ key keyLen, applySecretTemplate
        { newSecretKey env.now handle key keyLen with isPrivate := true } template =
          .ok obj) s) := by
  simp only [cGenerateKey, requireRw, checkPolicy, checkApproved, ensures_getHsm,
    ensures_getSession,
    ensures_require_iff, ensures_reads_iff, makes_error, Creates.refl, implies_true, true_and]
  intro _ x hsession _ _ _ _ parsed hparse _ _ key _
  obtain rfl := parseTemplate_eq_ok hparse
  refine ensures_makes rfl (fun _ ↦ rfl) fun handle obj hobj ↦ ?_
  exact ⟨⟨key, _, hobj⟩,
    congrArg ObjectCore.handle ((overrideTemplate_keeps _ _ _ parsed).of_eq_ok hobj)⟩

/-- A key that is made from another, whose sensitivity decides what the template may say. -/
def MadeFrom (s : Hsm) (source : Nat) (flags : List Nat) (now : Nat) (template : Template)
    (handle : Nat) (obj : StoredObject) : Prop :=
  ∃ key base, s.objectStore.objects.get? source = some base ∧
    inheritTemplate flags base.sensitive (newSecretKey now handle key key.length) template = .ok obj

/-- `C_UnwrapKey` makes a secret key from the unwrapping key. -/
theorem cUnwrapKey_makes (mechanism unwrappingKey : Nat) (wrapped : Bytes) (template : Template) :
    (cUnwrapKey platform env session mechanism unwrappingKey wrapped template).Ensures s
      (Makes platform env.first
        (MadeFrom s unwrappingKey [ckaToken, ckaEncrypt, ckaDecrypt] env.now template) s) := by
  simp only [cUnwrapKey, requireRw, requireLoginFor, checkPolicy, checkApproved, keyBytes, noteUse,
    ensures_getHsm, ensures_getSession, ensures_getObject, ensures_require_iff, ensures_reads_iff,
    ensures_update, makes_error, Creates.refl, implies_true, true_and]
  intro _ x hsession _ _ _ _ unwrapping hunwrapping _ _ _ _ bytes _ _ key _ parsed hparse
  obtain rfl := parseTemplate_eq_ok hparse
  refine ensures_makes (s := s) (by rfl) (fun _ ↦ rfl) fun handle obj hobj ↦ ?_
  exact ⟨⟨key, unwrapping, hunwrapping, hobj⟩,
    congrArg ObjectCore.handle ((inheritTemplate_keeps _ _ _ parsed).of_eq_ok hobj)⟩

/-- `C_DeriveKey` makes a secret key from the base key. -/
theorem cDeriveKey_makes (mechanism : Nat) (mechanismParam : Bytes) (baseKey : Nat)
    (template : Template) :
    (cDeriveKey platform env session mechanism mechanismParam baseKey template).Ensures s
      (Makes platform env.first (MadeFrom s baseKey [ckaToken] env.now template) s) := by
  simp only [cDeriveKey, requireRw, checkPolicy, checkApproved, keyBytes, noteUse, ensures_getHsm,
    ensures_getSession, ensures_getObject, ensures_require_iff, ensures_reads_iff, ensures_update,
    makes_error, Creates.refl, implies_true, true_and]
  intro _ x hsession _ _ _ _ base hbase _ _ _ bytes _ _ parsed hparse _ secret _ _
  obtain rfl := parseTemplate_eq_ok hparse
  refine ensures_makes (s := s) (by rfl) (fun _ ↦ rfl) fun handle obj hobj ↦ ?_
  exact ⟨⟨secret, base, hbase, hobj⟩,
    congrArg ObjectCore.handle ((inheritTemplate_keeps _ _ _ parsed).of_eq_ok hobj)⟩

/-- `C_GenerateKeyPair` makes two objects, the first, or none. -/
theorem cGenerateKeyPair_creates (mechanism : Nat) (pubTemplate privTemplate : Template) :
    (cGenerateKeyPair platform env session mechanism pubTemplate privTemplate).Ensures s
      fun _ s' ↦ ∃ made, Creates platform made s.objectStore s'.objectStore := by
  have hsame : ∃ made, Creates platform made s.objectStore s.objectStore := ⟨[], .refl platform _⟩
  have hissued := (Creates.refl platform s.objectStore).nextHandle.nextHandle
  simp only [cGenerateKeyPair, requireRw, checkPolicy, checkApproved, generateKeypair_eq,
    ensures_getHsm, ensures_getSession, ensures_require_iff, ensures_reads_iff, hsame, implies_true,
    true_and]
  intros
  refine ensures_requirePairwise hsame fun _ ↦ ?_
  simp only [insertKeyPair, ensures_nextHandle, ensures_reads_iff]
  refine ⟨fun _ _ ↦ ⟨_, (Creates.refl platform _).nextHandle⟩, fun pub _ ↦
    ⟨fun _ _ ↦ ⟨_, hissued⟩, fun priv _ ↦ ensures_insertObject (fun _ ↦ ⟨_, hissued⟩) ?_⟩⟩
  have hfirst := hissued.addObject env.first pub
  exact ensures_insertObject (fun _ ↦ ⟨_, hfirst⟩) ⟨_, hfirst.addObject env.second priv⟩

end Making

end CratonHsm
