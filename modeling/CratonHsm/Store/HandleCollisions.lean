import CratonHsm.Store.Interleaving

/-!
# Handles of objects

Objects come under handles from three sources: the allocator of the process, the records of the
database, and backups. A step of a run is one object's: a creation, an insertion under a new handle,
the insertion of a restored object whose handle is not in use, one record of a load
(`loadFromStore_eq_run`), or a destruction. A step collides when it stores its object under the
handle of another live object (`StoreStep.Collides`); an object that is loaded again from its own
record is not another one.

A load reserves the handles of its records, and a restored object's handle is not reserved: the
allocator may issue it later. A load may also bring the handle of an object that was created before
it, or one handle twice (`handles_collide`). When the counter of the allocator stays below a limit,
restored handles are known to the allocator or not among those that it issues below the limit, and
loads bring handles that the allocator does not know and no restored object has
(`StoreStep.Separate`), the allocator avoids every handle in use (`AllAvoided`) and no step collides
(`no_collision`).
-/

set_option autoImplicit false

namespace CratonHsm.Store

open Crypto Library Session Store.Interleaving
open ObjectHandleAllocator

/-! ### Steps -/

/-- A step of a run. -/
inductive StoreStep where
  | create (draw : StoreDraw) (now : Nat) (template : List (Nat × Bytes))
  | insertFresh (draw : StoreDraw) (obj : StoredObject)
  | restore (draw : StoreDraw) (obj : StoredObject)
  | destroy (draw : StoreDraw) (handle : Nat)
  | loadRecord (key : FixedBytes 32) (storeKey : Nat) (record : Bytes)

namespace ObjectStore

variable (crates : Crates) (codec : ObjectCodec)

/-- `insert_object` of an object that was built under a handle of `next_handle`. -/
def insertFresh (draw : StoreDraw) (obj : StoredObject) (store : ObjectStore) :
    HsmResult Nat × ObjectStore :=
  let (handle, store) := store.nextHandle
  store.insertObject crates codec draw { obj with handle := handle }

/-- `insert_object` of a restored object, which is skipped when its handle is in use. -/
def restoreObject (draw : StoreDraw) (obj : StoredObject) (store : ObjectStore) :
    Option (HsmResult Nat) × ObjectStore :=
  if (store.objects.get? obj.handle).isSome then (none, store)
  else
    let (result, store) := store.insertObject crates codec draw obj
    (some result, store)

/-- The object that a load takes from a record. -/
def openObject (key : FixedBytes 32) (record : Bytes) : Option StoredObject :=
  match openRecord crates key record with
  | .error _ => none
  | .ok text => (codec.deserialize text).filter validateDeserializedObject

/-- A load comes to a record. -/
def loadRecord (key : FixedBytes 32) (storeKey : Nat) (record : Bytes) (store : ObjectStore) :
    ObjectStore :=
  match openObject crates codec key record with
  | none => store
  | some obj => store.loadObject storeKey obj

end ObjectStore

namespace StoreStep

variable (crates : Crates) (codec : ObjectCodec) (store : ObjectStore)

/-- The store after a step. -/
def run : StoreStep → ObjectStore
  | .create draw now template => (store.createObject crates codec draw now template).2
  | .insertFresh draw obj => (store.insertFresh crates codec draw obj).2
  | .restore draw obj => (store.restoreObject crates codec draw obj).2
  | .destroy draw handle => (store.destroyObject draw handle).2
  | .loadRecord key storeKey record => store.loadRecord crates codec key storeKey record

/-- The handle under which the step stores an object. -/
def stores : StoreStep → Option Nat
  | .create draw now template => (store.createObject crates codec draw now template).1.toOption
  | .insertFresh draw obj => (store.insertFresh crates codec draw obj).1.toOption
  | .restore draw obj => (store.restoreObject crates codec draw obj).1.bind Except.toOption
  | .destroy _ _ => none
  | .loadRecord key _ record =>
    (ObjectStore.openObject crates codec key record).map StoredObject.handle

/-- The step reads the record of the object that is in memory under the handle. -/
def Reloads (handle : Nat) : StoreStep → Prop
  | .loadRecord _ storeKey _ => store.handleToStoreKey[handle]? = some storeKey
  | _ => False

/-- The step stores an object under the handle of another live object. -/
def Collides (step : StoreStep) : Prop :=
  ∃ handle, step.stores crates codec store = some handle ∧
    (store.objects.get? handle).isSome ∧ ¬step.Reloads store handle

end StoreStep

/-! ### Handles that the allocator knows -/

variable (limit : Nat) (store : ObjectStore) (handle : Nat)

/-- The allocator has issued the handle or keeps it reserved, and will not issue it again. -/
def ObjectStore.Knows : Prop :=
  store.handleAlloc.Issued handle ∨ handle ∈ store.handleAlloc.reserved

/-- The handle is none of those of the counter values below the limit. -/
def ObjectStore.Beyond : Prop :=
  ∀ n < limit, (store.handleAlloc.scrambler.scramble (BitVec.ofNat 64 n)).toNat ≠ handle

/-- The allocator does not issue the handle while its counter is below the limit. -/
def ObjectStore.Avoids : Prop :=
  store.Knows handle ∨ store.Beyond limit handle

/-- The allocator avoids every handle in use. -/
def ObjectStore.AllAvoided : Prop :=
  ∀ handle, (store.objects.get? handle).isSome → store.Avoids limit handle

/-- The next allocation leaves the counter below the limit. -/
def ObjectStore.RoomBelow : Prop :=
  store.handleAlloc.next.toNat + store.handleAlloc.reserved.length + 2 < limit

/-- The counter of the allocator stays below the limit; a restored object has a handle that the
allocator avoids; a record is that of an object with a handle that the allocator does not know, and
that no restored object has, or of the object that is there. -/
def StoreStep.Separate (crates : Crates) (codec : ObjectCodec) (limit : Nat) (store : ObjectStore) :
    StoreStep → Prop
  | .create _ _ _ | .insertFresh _ _ => store.RoomBelow limit
  | .restore _ obj => store.Avoids limit obj.handle
  | .destroy _ _ => True
  | .loadRecord key storeKey record =>
    ∀ obj, ObjectStore.openObject crates codec key record = some obj →
      ¬store.Knows obj.handle ∧
          (store.Beyond limit obj.handle → store.objects.get? obj.handle = none) ∨
        store.handleToStoreKey[obj.handle]? = some storeKey

/-! ### One step -/

section OneStep

variable {crates : Crates} {codec : ObjectCodec} {store : ObjectStore} {limit : Nat}
  (hlimit : limit ≤ 2 ^ 64)

include hlimit

theorem hasRoom_of_below (hroom : store.RoomBelow limit) : store.handleAlloc.HasRoom :=
  hroom.trans_le hlimit

theorem avoids_nextHandle (hroom : store.RoomBelow limit) {handle : Nat}
    (h : handle = store.nextHandle.1 ∨ store.Avoids limit handle) :
    store.nextHandle.2.Avoids limit handle := by
  have hroom := hasRoom_of_below hlimit hroom
  rcases h with hnext | (hold | hreserved) | hbeyond
  · exact .inl (.inl (issued_of_allocate hroom (.inl hnext)))
  · exact .inl (.inl (issued_of_allocate hroom (.inr hold)))
  · exact .inl (.inr hreserved)
  · exact .inr hbeyond

theorem not_avoids_nextHandle (hroom : store.RoomBelow limit) :
    ¬store.Avoids limit store.nextHandle.1 := by
  have hroom' := hasRoom_of_below hlimit hroom
  rintro ((hissued | hreserved) | hbeyond)
  · exact not_issued_allocate hroom' hissued
  · exact not_reserved_allocate hroom' hreserved
  · obtain ⟨counter, ⟨-, hlt⟩, -, heq, -⟩ := allocate_eq hroom'
    refine hbeyond counter.toNat (hlt.trans hroom) ?_
    rw [BitVec.ofNat_toNat, BitVec.setWidth_eq]
    exact (congrArg Prod.fst heq).symm

omit hlimit in
theorem avoids_addObject {draw : StoreDraw} {handle other : Nat} {obj : StoredObject} :
    (store.addObject crates codec draw handle obj).Avoids limit other ↔
      store.Avoids limit other := by
  obtain ⟨records, handleToStoreKey, heq⟩ := store.persistObject_frame crates codec draw obj
  rw [ObjectStore.addObject, heq]
  rfl

theorem ObjectStore.AllAvoided.nextHandle (h : store.AllAvoided limit)
    (hroom : store.RoomBelow limit) : store.nextHandle.2.AllAvoided limit := fun handle hlive ↦
  avoids_nextHandle hlimit hroom (.inr (h handle hlive))

omit hlimit in
theorem ObjectStore.AllAvoided.addObject (h : store.AllAvoided limit) {draw : StoreDraw}
    {handle : Nat} (hhandle : store.Avoids limit handle) (obj : StoredObject) :
    (store.addObject crates codec draw handle obj).AllAvoided limit := by
  intro other hlive
  rw [avoids_addObject]
  rw [ObjectStore.addObject_objects, SharedMap.get?_insert] at hlive
  split_ifs at hlive with heq
  · exact heq ▸ hhandle
  · exact h other hlive

/-- An object that is built under a new handle is stored under one that is not in use. -/
theorem insertFresh_separate (h : store.AllAvoided limit) (hroom : store.RoomBelow limit)
    (draw : StoreDraw) (obj : StoredObject) :
    (store.insertFresh crates codec draw obj).2.AllAvoided limit ∧
      ∀ handle, (store.insertFresh crates codec draw obj).1.toOption = some handle →
        ¬(store.objects.get? handle).isSome := by
  have hnext := h.nextHandle hlimit hroom
  unfold ObjectStore.insertFresh ObjectStore.insertObject
  dsimp only
  split_ifs
  · exact ⟨hnext, nofun⟩
  · refine ⟨hnext.addObject (avoids_nextHandle hlimit hroom (.inl rfl)) _, ?_⟩
    rintro handle ⟨⟩ hlive
    exact not_avoids_nextHandle hlimit hroom (h _ hlive)

theorem createObject_separate (h : store.AllAvoided limit) (hroom : store.RoomBelow limit)
    (draw : StoreDraw) (now : Nat) (template : List (Nat × Bytes)) :
    (store.createObject crates codec draw now template).2.AllAvoided limit ∧
      ∀ handle, (store.createObject crates codec draw now template).1.toOption = some handle →
        ¬(store.objects.get? handle).isSome := by
  have hnext := h.nextHandle hlimit hroom
  unfold ObjectStore.createObject
  split_ifs
  · exact ⟨h, nofun⟩
  split
  · exact ⟨h, nofun⟩
  dsimp only
  split
  · exact ⟨hnext, nofun⟩
  · refine ⟨hnext.addObject (avoids_nextHandle hlimit hroom (.inl rfl)) _, ?_⟩
    rintro handle ⟨⟩ hlive
    exact not_avoids_nextHandle hlimit hroom (h _ hlive)

omit hlimit

/-- A restored object is stored under a handle that is not in use. -/
theorem restoreObject_separate (h : store.AllAvoided limit) {obj : StoredObject}
    (havoids : store.Avoids limit obj.handle) (draw : StoreDraw) :
    (store.restoreObject crates codec draw obj).2.AllAvoided limit ∧
      ∀ handle, (store.restoreObject crates codec draw obj).1.bind Except.toOption = some handle →
        ¬(store.objects.get? handle).isSome := by
  unfold ObjectStore.restoreObject ObjectStore.insertObject
  split_ifs with hlive
  · exact ⟨h, nofun⟩
  · exact ⟨h, nofun⟩
  · refine ⟨h.addObject havoids _, ?_⟩
    rintro handle ⟨⟩
    exact hlive

theorem destroyObject_allAvoided (h : store.AllAvoided limit) (draw : StoreDraw) (handle : Nat) :
    (store.destroyObject draw handle).2.AllAvoided limit := by
  unfold ObjectStore.destroyObject
  split
  · exact h
  split_ifs
  · exact h
  obtain ⟨records, handleToStoreKey, heq⟩ :=
    { store with objects := store.objects.erase handle }.unpersistObject_frame draw handle
  rw [heq]
  intro other hlive
  refine h other ?_
  change ((store.objects.erase handle).get? other).isSome at hlive
  rw [SharedMap.get?_erase] at hlive
  split_ifs at hlive
  · cases hlive
  · exact hlive

theorem loadObject_allAvoided (h : store.AllAvoided limit) (storeKey : Nat) (obj : StoredObject) :
    (store.loadObject storeKey obj).AllAvoided limit := by
  intro handle hlive
  have hget : (if obj.handle = handle then some obj else store.objects.get? handle).isSome :=
    (congrArg Option.isSome (SharedMap.get?_insert ..)).symm.trans hlive
  split_ifs at hget with heq
  · exact .inl (.inr (List.mem_cons.mpr (.inl heq.symm)))
  · exact (h handle hget).imp (Or.imp id (List.mem_cons_of_mem _)) id

/-- After a separate step the allocator avoids what is in use, and the step does not collide. -/
theorem StoreStep.Separate.run {step : StoreStep} (hstep : step.Separate crates codec limit store)
    (hlimit : limit ≤ 2 ^ 64) (h : store.AllAvoided limit) :
    (step.run crates codec store).AllAvoided limit ∧ ¬step.Collides crates codec store := by
  cases step with
  | create draw now template =>
    obtain ⟨havoided, hfree⟩ := createObject_separate hlimit h hstep draw now template
    exact ⟨havoided, fun ⟨handle, hstores, hlive, _⟩ ↦ hfree handle hstores hlive⟩
  | insertFresh draw obj =>
    obtain ⟨havoided, hfree⟩ := insertFresh_separate hlimit h hstep draw obj
    exact ⟨havoided, fun ⟨handle, hstores, hlive, _⟩ ↦ hfree handle hstores hlive⟩
  | restore draw obj =>
    obtain ⟨havoided, hfree⟩ := restoreObject_separate h hstep draw
    exact ⟨havoided, fun ⟨handle, hstores, hlive, _⟩ ↦ hfree handle hstores hlive⟩
  | destroy draw handle =>
    exact ⟨destroyObject_allAvoided h draw handle, fun ⟨_, hstores, _⟩ ↦ nomatch hstores⟩
  | loadRecord key storeKey record =>
    cases hopen : ObjectStore.openObject crates codec key record with
    | none =>
      refine ⟨by simpa [StoreStep.run, ObjectStore.loadRecord, hopen] using h, ?_⟩
      rintro ⟨handle, hstores, -⟩
      simp [StoreStep.stores, hopen] at hstores
    | some obj =>
      refine ⟨?_, ?_⟩
      · simpa [StoreStep.run, ObjectStore.loadRecord, hopen] using
          loadObject_allAvoided h storeKey obj
      · rintro ⟨handle, hstores, hlive, hother⟩
        obtain rfl : obj.handle = handle := by simpa [StoreStep.stores, hopen] using hstores
        rcases hstep obj hopen with ⟨hunknown, hfree⟩ | hsame
        · rw [hfree ((h _ hlive).resolve_left hunknown)] at hlive
          cases hlive
        · exact hother hsame

end OneStep

/-! ### Runs -/

variable (crates : Crates) (codec : ObjectCodec)

/-- The iterations of a load are steps: it comes to the records one after the other, up to the first
that it cannot decrypt. -/
theorem loadRecords_eq_run (key : FixedBytes 32) (records : List (Nat × Bytes)) (loaded : Nat)
    (store : ObjectStore) : (store.loadRecords crates codec key records loaded).2 =
      ((records.takeWhile fun entry ↦ (ObjectStore.openRecord crates key entry.2).isOk).map
        fun entry ↦ StoreStep.loadRecord key entry.1 entry.2).foldl (StoreStep.run crates codec)
          store := by
  induction records generalizing loaded store with
  | nil => rfl
  | cons entry records ih =>
    unfold ObjectStore.loadRecords
    cases hopen : ObjectStore.openRecord crates key entry.2 with
    | error e => rw [List.takeWhile_cons_of_neg (by rw [hopen]; exact Bool.false_ne_true)]; rfl
    | ok text =>
      -- a record that is decrypted is the first step, whatever it holds
      rw [List.takeWhile_cons_of_pos (by rw [hopen]; rfl), List.map_cons, List.foldl_cons,
        StoreStep.run]
      cases hobj : codec.deserialize text with
      | none =>
        have hsame : store.loadRecord crates codec key entry.1 entry.2 = store := by
          simp [ObjectStore.loadRecord, ObjectStore.openObject, hopen, hobj]
        simpa [hobj, hsame] using ih loaded store
      | some obj =>
        cases hvalid : ObjectStore.validateDeserializedObject obj with
        | false =>
          have hsame : store.loadRecord crates codec key entry.1 entry.2 = store := by
            simp [ObjectStore.loadRecord, ObjectStore.openObject, hopen, hobj, hvalid,
              Option.filter]
          simpa [hobj, hvalid, hsame] using ih loaded store
        | true =>
          have hload : store.loadRecord crates codec key entry.1 entry.2 =
              store.loadObject entry.1 obj := by
            simp [ObjectStore.loadRecord, ObjectStore.openObject, hopen, hobj, hvalid,
              Option.filter]
          simpa [hobj, hvalid, hload] using ih (loaded + 1) _

/-- The records that a load comes to, as steps. There are none without a database and its key. -/
def ObjectStore.loadSteps (store : ObjectStore) : List StoreStep :=
  match if store.persistent then store.persistKey else none with
  | none => []
  | some key =>
    (store.records.toList.takeWhile fun entry ↦ (openRecord crates key entry.2).isOk).map
      fun entry ↦ .loadRecord key entry.1 entry.2

/-- `load_from_store` is a run of single steps. -/
theorem loadFromStore_eq_run (store : ObjectStore) : (store.loadFromStore crates codec).2 =
      (store.loadSteps crates).foldl (StoreStep.run crates codec) store := by
  unfold ObjectStore.loadFromStore ObjectStore.loadSteps
  cases store.persistent with
  | false => rfl
  | true =>
    cases store.persistKey with
    | none => rfl
    | some key => exact loadRecords_eq_run crates codec key _ 0 store

/-- In every run from a new store, over any records and with any round keys, whose steps are
separate under some limit of the counter, no step collides. -/
theorem no_collision (scrambler : HandleScrambler) (persistent : Bool)
    (records : Std.ExtTreeMap Nat Bytes) (steps : List StoreStep) {limit : Nat}
    (hlimit : limit ≤ 2 ^ 64)
    (hsteps : FoldMeets (StoreStep.run crates codec)
      (fun store step ↦ step.Separate crates codec limit store)
        (.new scrambler persistent records) steps) :
    FoldMeets (StoreStep.run crates codec) (fun store step ↦ ¬step.Collides crates codec store)
      (.new scrambler persistent records) steps := by
  have hstep : ∀ (store : ObjectStore) (step : StoreStep), store.AllAvoided limit →
      step.Separate crates codec limit store →
        (step.run crates codec store).AllAvoided limit ∧ ¬step.Collides crates codec store :=
    fun store step h hseparate ↦ hseparate.run hlimit h
  refine foldMeets_of_invariant hstep steps _ ?_ hsteps
  intro handle hlive
  simp [ObjectStore.new] at hlive

/-- A template of a secret key, for the session only. -/
def secretKeyTemplate : List (Nat × Bytes) := [(ckaClass, [4, 0, 0, 0, 0, 0, 0, 0])]

/-- A store of a process with round keys 1 to 4. -/
def sampleStore : ObjectStore := .new ⟨[1, 2, 3, 4]⟩ true ∅

/-- An object of another process is restored into the new store, an object is created, destroyed
and restored, and another one is created. -/
def restoredRun : List StoreStep :=
  [.restore unusedDraw (.new 0 77 4), .create unusedDraw 0 secretKeyTemplate,
    .destroy unusedDraw sampleStore.nextHandle.1,
    .restore unusedDraw (.new 0 sampleStore.nextHandle.1 4), .create unusedDraw 1 secretKeyTemplate]

/-- The handle 77 is not among the first hundred. -/
theorem restoredRun_no_collision : FoldMeets (StoreStep.run pinAnswers.crates unusedCodec)
    (fun store step ↦ ¬step.Collides pinAnswers.crates unusedCodec store) sampleStore
      restoredRun := by
  refine no_collision _ _ _ _ _ restoredRun (show 100 ≤ 2 ^ 64 by decide)
    ⟨.inr ?_, ?_, trivial, .inl (.inl ⟨1, ?_, ?_⟩), ?_, trivial⟩
  · change ∀ _ < _, _
    decide +kernel
  · change _ < _
    decide +kernel
  · decide +kernel
  · decide +kernel
  · change _ < _
    decide +kernel

/-- A restored object whose handle the allocator comes to later, and an object that was created
before a record with its handle is loaded: both are replaced. -/
theorem handles_collide :
    (StoreStep.create unusedDraw 0 secretKeyTemplate).Collides pinAnswers.crates .enumerated
      ((StoreStep.restore unusedDraw (.new 0 sampleStore.nextHandle.1 3)).run pinAnswers.crates
        .enumerated sampleStore) ∧
    ∃ record, (StoreStep.loadRecord zeroKey 5 record).Collides pinAnswers.crates .enumerated
      ((StoreStep.create unusedDraw 0 secretKeyTemplate).run pinAnswers.crates .enumerated
        sampleStore) := by
  obtain ⟨record, -, text, hopen, hobj⟩ :=
    exists_sealRecord zeroKey nonceFours (.new 0 sampleStore.nextHandle.1 4)
  have hloaded : ObjectStore.openObject pinAnswers.crates .enumerated zeroKey record =
      some (.new 0 sampleStore.nextHandle.1 4) := by
    simp only [ObjectStore.openObject, hopen, hobj]
    rfl
  refine ⟨⟨sampleStore.nextHandle.1, rfl, rfl, id⟩,
    record, sampleStore.nextHandle.1, ?_, rfl, ?_⟩
  · simp only [StoreStep.stores, hloaded, Option.map_some]
    rfl
  · -- a session object has no record
    change ¬_ = some 5
    decide +kernel

end CratonHsm.Store
