import CratonHsm.Library.Enumeration
import CratonHsm.Store.ObjectStore

/-!
# Records

What the records of the database hold. A record opens to an object under a key (`RecordOf`), the one
that was sealed in it (`recordOf_sealRecord`), and deleting the record of a handle is one erasure in
each of the two maps (`unpersistObject_eq`). Objects are countable, so there is an encoding of them
that is read back (`ObjectCodec.enumerated`).
-/

set_option autoImplicit false

namespace CratonHsm.Store

open Crypto Library
open Std (ExtTreeMap)

/-- The record opens to the object. -/
def RecordOf (crates : Crates) (codec : ObjectCodec) (key : FixedBytes 32) (record : Bytes)
    (obj : StoredObject) : Prop :=
  ∃ text, ObjectStore.openRecord crates key record = .ok text ∧ codec.deserialize text = some obj

section Records

variable {crates : Crates} {codec : ObjectCodec} {key : FixedBytes 32}

theorem RecordOf.unique {record : Bytes} {obj other : StoredObject}
    (h : RecordOf crates codec key record obj) (h' : RecordOf crates codec key record other) :
    obj = other := by
  obtain ⟨text, htext, hobj⟩ := h
  obtain ⟨text', htext', hother⟩ := h'
  obtain rfl : text = text' := Except.ok.inj (htext.symm.trans htext')
  exact Option.mem_unique hobj hother

/-- What was sealed opens. -/
theorem recordOf_sealRecord (hinverts : crates.GcmInverts) (hcodec : codec.RoundTrips)
    {nonce : FixedBytes 12} {obj : StoredObject} {record : Bytes}
    (h : ObjectStore.sealRecord crates key nonce (codec.serialize obj) = some record) :
    RecordOf crates codec key record obj := by
  obtain ⟨ciphertext, hciphertext, rfl⟩ := Option.map_eq_some_iff.mp h
  refine ⟨codec.serialize obj, ?_, hcodec obj⟩
  have hnonce := nonce.2
  have hopen := hinverts _ _ _ _ _ hciphertext
  simp [ObjectStore.openRecord, hnonce, hopen]

end Records

namespace ObjectStore

/-- The store key under which the record of a handle is deleted. -/
def erasedKey (store : ObjectStore) (draw : StoreDraw) (handle : Nat) : Nat :=
  store.handleToStoreKey[handle]?.getD draw.storeKey

theorem unpersistObject_eq (store : ObjectStore) (hpersistent : store.persistent = true)
    {draw : StoreDraw} (hwrites : draw.writes = true) (handle : Nat) :
    store.unpersistObject draw handle = { store with
      records := store.records.erase (store.erasedKey draw handle)
      handleToStoreKey := store.handleToStoreKey.erase handle } := by
  have hforget : (store.handleToStoreKey.insert handle draw.storeKey).erase handle =
      store.handleToStoreKey.erase handle := by
    refine ExtTreeMap.ext_getElem? fun other ↦ ?_
    rw [getElem?_erase_eq_ite, getElem?_erase_eq_ite, getElem?_insert_eq_ite]
    split_ifs <;> rfl
  cases hmap : store.handleToStoreKey[handle]? with
  | none => simp [unpersistObject, hpersistent, getStoreKey, hmap, hwrites, erasedKey, hforget]
  | some storeKey => simp [unpersistObject, hpersistent, getStoreKey, hmap, hwrites, erasedKey]

end ObjectStore

/-! ### An encoding that is read back

There are countably many objects, so their numbers can stand for them. -/

section Enumeration

deriving instance Countable for KeyLifecycleState

theorem toList_injective :
    Function.Injective (ExtTreeMap.toList : ExtTreeMap Nat Bytes → List (Nat × Bytes)) := by
  intro first second h
  refine ExtTreeMap.ext_getElem? fun key ↦ ?_
  ext value
  rw [← ExtTreeMap.mem_toList_iff_getElem?_eq_some, h, ExtTreeMap.mem_toList_iff_getElem?_eq_some]

instance countable_attributes : Countable (ExtTreeMap Nat Bytes) := toList_injective.countable

deriving instance Countable for StoredObject

/-- The number of an object in unary. -/
noncomputable def ObjectCodec.enumerated : ObjectCodec := ⟨unary, ofUnary⟩

theorem ObjectCodec.enumerated_roundTrips : ObjectCodec.enumerated.RoundTrips := ofUnary_unary

end Enumeration

end CratonHsm.Store
