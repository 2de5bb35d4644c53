import CratonHsm.Crypto.KnownAnswers
import CratonHsm.Library.StepSystem
import CratonHsm.Store.Persistence

/-!
# Concurrent calls of the object store

Any number of threads call `create_object`, `insert_object`, `load_from_store`, `destroy_object` and
`sweep_lifecycle` on one store, each call cut into its accesses. `create_object` and `insert_object`
compare the number of objects with the limit and add their object later. `load_from_store` lists the
records, and then decrypts one record and inserts its object, one after the other. `destroy_object`
removes the object from memory and then deletes its record. `sweep_lifecycle` updates and clones one
object after the other, and then writes the clones. A thread whose call has returned may start
another one.

`load_from_store` holds the lock of the persistence key until it returns, and `persist_object` takes
it: no record is written while a load is going on (`State.keyFree`).

Scope. Writing the record of a new object and inserting the object are one access. The sweep visits
the objects it has found at its start, in any order, and any others that are there.
-/

set_option autoImplicit false

namespace CratonHsm.Store.Interleaving

open Crypto Library
open ObjectStore

/-- Where a thread stands between two accesses. -/
inductive Pc where
  | idle
  | creating (now : Nat) (template : List (Nat × Bytes))
  | adding (handle : Nat) (obj : StoredObject)
  | loading (key : FixedBytes 32) (pending : List Nat)
  | loaded (key : FixedBytes 32) (storeKey : Nat) (obj : StoredObject) (pending : List Nat)
  | deleting (handle : Nat)
  | sweeping (pending : List Nat) (clones : List StoredObject)
  | persisting (clones : List StoredObject)

/-- The accesses. -/
inductive Action where
  | create (now : Nat) (template : List (Nat × Bytes))
  | insertObject (obj : StoredObject)
  | build
  | add (draw : StoreDraw)
  | load
  | decrypt
  | insertLoaded
  | remove (handle : Nat)
  | delete (draw : StoreDraw)
  | sweep
  | visit (handle now : Nat)
  | finishVisits
  | persist (draw : StoreDraw)

/-- The store, the threads, and the handles for which `destroy_object` has answered `Ok`. -/
structure State where
  store : ObjectStore
  threads : List Pc
  destroyed : List Nat

/-- Any store, with idle threads. -/
def State.start (store : ObjectStore) (threads : Nat) : State :=
  ⟨store, List.replicate threads .idle, []⟩

/-- Thread `thread` moves on to `pc`. -/
def State.goto (s : State) (thread : Nat) (pc : Pc) : State :=
  { s with threads := s.threads.set thread pc }

/-- A load is going on. -/
def Pc.loads : Pc → Bool
  | .loading _ _ => true
  | .loaded _ _ _ _ => true
  | _ => false

/-- The lock of the persistence key is free. -/
def State.keyFree (s : State) : Bool := s.threads.all fun pc ↦ !pc.loads

/-- `persist_object` can go on: it comes to the lock for token objects of a persistent store. -/
def State.mayPersist (s : State) (obj : StoredObject) : Bool :=
  !(obj.tokenObject && s.store.persistent) || s.keyFree

section Steps

variable (crates : Crates) (codec : ObjectCodec) (s : State) (thread : Nat)

/-- `create_object` between the check and the insertion. -/
def build (now : Nat) (template : List (Nat × Bytes)) : State :=
  match templateClass template with
  | none => s.goto thread .idle
  | some objectClass =>
    let (handle, store) := s.store.nextHandle
    match (StoredObject.new now handle objectClass).applyTemplate template with
    | .error _ => { s with store := store }.goto thread .idle
    | .ok obj => { s with store := store }.goto thread (.adding handle obj)

/-- `load_from_store` decrypts the next record it has listed, if it is still there. -/
def decrypt (key : FixedBytes 32) (storeKey : Nat) (pending : List Nat) : State :=
  match s.store.records[storeKey]? with
  | none => s.goto thread (.loading key pending)
  | some record =>
    match openRecord crates key record with
    | .error _ => s.goto thread .idle
    | .ok text =>
      match codec.deserialize text with
      | none => s.goto thread (.loading key pending)
      | some obj =>
        if validateDeserializedObject obj then
          s.goto thread (.loaded key storeKey obj pending)
        else s.goto thread (.loading key pending)

/-- `destroy_object` up to the removal from memory. -/
def remove (handle : Nat) : State :=
  match s.store.objects.get? handle with
  | none => s
  | some obj =>
    if !obj.destroyable then s
    else { s with store := { s.store with objects := s.store.objects.erase handle } }.goto thread
      (.deleting handle)

/-- `sweep_lifecycle` visits an object. A panic ends the sweep, and its clones are lost. -/
def visit (pending : List Nat) (clones : List StoredObject) (handle now : Nat) : State :=
  match s.store.objects.refs[handle]?,
    (s.store.objects.get? handle).map (StoredObject.transitionLifecycleIfNeeded · now) with
  | _, some (.error _) => s.goto thread .idle
  | some ref, some (.ok (some obj)) =>
    { s with store := { s.store with objects := s.store.objects.modify ref fun _ ↦ obj } }.goto
      thread (.sweeping (pending.erase handle)
        (if obj.tokenObject then clones ++ [obj] else clones))
  | _, _ => s.goto thread (.sweeping (pending.erase handle) clones)

/-- A thread at `pc` makes its next access. -/
def access : Pc → Action → Option State
  | .idle, .create now template =>
    if s.store.objects.refs.size ≥ maxObjects then some s
    else some (s.goto thread (.creating now template))
  | .idle, .insertObject obj =>
    if s.store.objects.refs.size ≥ maxObjects then some s
    else some (s.goto thread (.adding obj.handle obj))
  | .creating now template, .build => some (build s thread now template)
  | .adding handle obj, .add draw =>
    if s.mayPersist obj then
      some ({ s with store := s.store.addObject crates codec draw handle obj }.goto thread .idle)
    else none
  | .idle, .load =>
    if !s.store.persistent then some s
    else if !s.keyFree then none
    else
      match s.store.persistKey with
      | none => some s
      | some key => some (s.goto thread (.loading key s.store.records.keys))
  | .loading _ [], .decrypt => some (s.goto thread .idle)
  | .loading key (storeKey :: pending), .decrypt =>
    some (decrypt crates codec s thread key storeKey pending)
  | .loaded key storeKey obj pending, .insertLoaded =>
    some ({ s with store := s.store.loadObject storeKey obj }.goto thread (.loading key pending))
  | .idle, .remove handle => some (remove s thread handle)
  | .deleting handle, .delete draw =>
    some ({ s with
      store := s.store.unpersistObject draw handle
      destroyed := handle :: s.destroyed }.goto thread .idle)
  | .idle, .sweep =>
    some (s.goto thread (.sweeping (s.store.objects.toList.map Prod.fst) []))
  | .sweeping pending clones, .visit handle now =>
    some (visit s thread pending clones handle now)
  | .sweeping [] clones, .finishVisits => some (s.goto thread (.persisting clones))
  | .persisting [], .persist _ => some (s.goto thread .idle)
  | .persisting (obj :: clones), .persist draw =>
    if s.mayPersist obj then
      some ({ s with store := s.store.persistObject crates codec draw obj }.goto thread
        (.persisting clones))
    else none
  | _, _ => none

/-- A step: a thread and its access. -/
def step (label : Nat × Action) : Option State :=
  s.threads[label.1]?.bind fun pc ↦ access crates codec s label.1 pc label.2

end Steps

/-- A codec that no run of session objects uses. -/
def unusedCodec : ObjectCodec := ⟨fun _ ↦ [], fun _ ↦ none⟩

/-- A draw that no run of session objects uses. -/
def unusedDraw : StoreDraw := ⟨0, .error .generalError, false⟩

/-- A persistence key. -/
def zeroKey : FixedBytes 32 := ⟨List.replicate 32 0, rfl⟩

/-- The recorded answers seal every object. -/
theorem exists_sealRecord (key : FixedBytes 32) (nonce : FixedBytes 12) (obj : StoredObject) :
    ∃ record, sealRecord pinAnswers.crates key nonce
        (ObjectCodec.enumerated.serialize obj) = some record ∧
      RecordOf pinAnswers.crates .enumerated key record obj := by
  have hseals : (sealRecord pinAnswers.crates key nonce
      (ObjectCodec.enumerated.serialize obj)).isSome = true := by
    simp only [sealRecord, KnownAnswers.crates]
    split <;> rfl
  obtain ⟨record, hrecord⟩ := Option.isSome_iff_exists.mp hseals
  exact ⟨record, hrecord,
    recordOf_sealRecord pinAnswers.gcmInverts ObjectCodec.enumerated_roundTrips hrecord⟩

end CratonHsm.Store.Interleaving
