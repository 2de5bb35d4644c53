import CratonHsm.Crypto.Crates
import CratonHsm.Library.Program
import CratonHsm.Library.SharedMap
import CratonHsm.Session.Handle
import CratonHsm.Store.Attributes

/-!
# The object store

`ObjectStore` of `store/attributes.rs` with the encrypted database of `store/encrypted_store.rs`.
Objects are in memory under their handles; an object that a session holds is a shared cell, which
outlives its handle. With persistence, a token object is also a database record: its JSON text under
AES-256-GCM, as nonce and ciphertext, under a random store key. A record is written when its object
is created or inserted while the persistence key is set, deleted when the object is destroyed, and
read back by `loadFromStore` at login. Failures to write are logged and ignored.

Scope. The JSON encoding is a parameter (`ObjectCodec`), and so are the random draws and the success
of a database write (`StoreDraw`). Reading the database does not fail. A store key is the number its
sixteen random bytes spell, so that the order of records is that of their keys. The order in which a
search visits the objects, which the source leaves open, is that of handles.
-/

set_option autoImplicit false

namespace CratonHsm.Store

open Crypto Library Session
open Std (ExtTreeMap)

/-- The JSON encoding of objects. -/
structure ObjectCodec where
  serialize : StoredObject → Bytes
  deserialize : Bytes → Option StoredObject

/-- What is written as JSON is read back. -/
def ObjectCodec.RoundTrips (codec : ObjectCodec) : Prop :=
  ∀ obj, codec.deserialize (codec.serialize obj) = some obj

/-- What writing one record takes from outside: a store key, a nonce, and whether the database
accepts the write. -/
structure StoreDraw where
  storeKey : Nat
  nonce : HsmResult (FixedBytes 12)
  writes : Bool

/-- `ObjectStore`. -/
structure ObjectStore where
  objects : SharedMap Nat StoredObject
  handleAlloc : ObjectHandleAllocator
  persistent : Bool
  records : ExtTreeMap Nat Bytes
  persistKey : Option (FixedBytes 32)
  handleToStoreKey : ExtTreeMap Nat Nat

/-- `MAX_OBJECTS`. -/
def maxObjects : Nat := 10000

/-- `ObjectStore::new` and `ObjectStore::with_persistence`, over the records of the database. -/
def ObjectStore.new (scrambler : HandleScrambler) (persistent : Bool)
    (records : ExtTreeMap Nat Bytes) : ObjectStore where
  objects := .empty
  handleAlloc := ⟨0, scrambler, []⟩
  persistent := persistent
  records := records
  persistKey := none
  handleToStoreKey := ∅

namespace ObjectStore

/-! ### Records -/

variable (crates : Crates) (codec : ObjectCodec) (store : ObjectStore) (draw : StoreDraw)

/-- The record of a text: nonce, then ciphertext. -/
def sealRecord (key : FixedBytes 32) (nonce : FixedBytes 12) (text : Bytes) : Option Bytes :=
  (crates.gcmEncrypt key.1 nonce.1 text []).map (nonce.1 ++ ·)

/-- The decryption of `load_encrypted`. -/
def openRecord (key : FixedBytes 32) (record : Bytes) : HsmResult Bytes :=
  if record.length < 12 then .error .encryptedDataInvalid
  else
    match crates.gcmDecrypt key.1 (record.take 12) (record.drop 12) [] with
    | some text => .ok text
    | none => .error .encryptedDataInvalid

/-- `EncryptedStore::store_encrypted`. -/
def storeEncrypted (storeKey : Nat) (text : Bytes) (key : FixedBytes 32) (store : ObjectStore) :
    HsmResult Unit × ObjectStore :=
  match draw.nonce with
  | .error e => (.error e, store)
  | .ok nonce =>
    match sealRecord crates key nonce text with
    | none => (.error .generalError, store)
    | some record =>
      if draw.writes then (.ok (), { store with records := store.records.insert storeKey record })
      else (.error .generalError, store)

/-- `get_store_key`: the store key of a handle, or a new one. -/
def getStoreKey (handle : Nat) (store : ObjectStore) : Nat × ObjectStore :=
  match store.handleToStoreKey[handle]? with
  | some storeKey => (storeKey, store)
  | none => (draw.storeKey,
      { store with handleToStoreKey := store.handleToStoreKey.insert handle draw.storeKey })

/-- `persist_object`. -/
def persistObject (obj : StoredObject) (store : ObjectStore) : ObjectStore :=
  if !obj.tokenObject then store
  else if !store.persistent then store
  else
    match store.persistKey with
    | none => store
    | some key =>
      let (storeKey, store) := store.getStoreKey draw obj.handle
      (store.storeEncrypted crates draw storeKey (codec.serialize obj) key).2

/-- `unpersist_object`. -/
def unpersistObject (handle : Nat) (store : ObjectStore) : ObjectStore :=
  if !store.persistent then store
  else
    let (storeKey, store) := store.getStoreKey draw handle
    { store with
      records := if draw.writes then store.records.erase storeKey else store.records
      handleToStoreKey := store.handleToStoreKey.erase handle }

/-! ### Objects -/

/-- `get_object`. -/
def getObject (handle : Nat) : HsmResult StoredObject :=
  match store.objects.get? handle with
  | some obj => .ok obj
  | none => .error .objectHandleInvalid

/-- `next_handle`. -/
def nextHandle : Nat × ObjectStore :=
  let (handle, handleAlloc) := store.handleAlloc.allocate
  (handle, { store with handleAlloc := handleAlloc })

/-- The end of `create_object` and `insert_object`: the record first, then the memory. -/
def addObject (handle : Nat) (obj : StoredObject) (store : ObjectStore) : ObjectStore :=
  let store := store.persistObject crates codec draw obj
  { store with objects := store.objects.insert handle obj }

/-- `insert_object`. -/
def insertObject (obj : StoredObject) (store : ObjectStore) : HsmResult Nat × ObjectStore :=
  if store.objects.refs.size ≥ maxObjects then (.error .deviceMemory, store)
  else (.ok obj.handle, store.addObject crates codec draw obj.handle obj)

/-- The class of a creation template. -/
def templateClass (template : List (Nat × Bytes)) : Option Nat :=
  (template.find? (·.1 = ckaClass)).bind fun entry ↦ readCkUlong entry.2

/-- `create_object`, at a time in seconds. -/
def createObject (now : Nat) (template : List (Nat × Bytes)) (store : ObjectStore) :
    HsmResult Nat × ObjectStore :=
  if store.objects.refs.size ≥ maxObjects then (.error .deviceMemory, store)
  else
    match templateClass template with
    | none => (.error .templateIncomplete, store)
    | some objectClass =>
      let (handle, store) := store.nextHandle
      match (StoredObject.new now handle objectClass).applyTemplate template with
      | .error e => (.error e, store)
      | .ok obj => (.ok handle, store.addObject crates codec draw handle obj)

/-- `destroy_object`. -/
def destroyObject (handle : Nat) (store : ObjectStore) : HsmResult Unit × ObjectStore :=
  match store.objects.get? handle with
  | none => (.error .objectHandleInvalid, store)
  | some obj =>
    if !obj.destroyable then (.error .generalError, store)
    else (.ok (), { store with objects := store.objects.erase handle }.unpersistObject draw handle)

/-- `clear`, with the success of the database write. -/
def clear (writes : Bool) (store : ObjectStore) : ObjectStore :=
  { store with
    objects := store.objects.clear
    handleToStoreKey := ∅
    records := if store.persistent && writes then ∅ else store.records }

/-- `set_persist_key`. -/
def setPersistKey (key : FixedBytes 32) (store : ObjectStore) : ObjectStore :=
  { store with persistKey := some key }

/-- `clear_persist_key`. -/
def clearPersistKey : ObjectStore := { store with persistKey := none }

/-- `find_objects`. -/
def findObjects (template : List (Nat × Bytes)) (isLoggedIn : Bool) : List Nat :=
  (store.objects.toList.filter fun entry ↦
    entry.2.matchesTemplate template && (!entry.2.isPrivate || isLoggedIn)).map Prod.fst

/-! ### Loading -/

/-- `validate_deserialized_object`. -/
def validateDeserializedObject (obj : StoredObject) : Bool :=
  obj.handle != 0 && !(obj.keyMaterial.isSome && !obj.sensitive && !obj.extractable) &&
    obj.lifecycleState != .destroyed

/-- An object read from a record enters the memory. -/
def loadObject (storeKey : Nat) (obj : StoredObject) (store : ObjectStore) : ObjectStore :=
  { store with
    handleToStoreKey := store.handleToStoreKey.insert obj.handle storeKey
    handleAlloc := store.handleAlloc.ensurePast obj.handle
    objects := store.objects.insert obj.handle obj }

/-- The loop of `load_from_store`: a record that does not decrypt ends it, a text that is not an
object or an object that is refused is skipped. -/
def loadRecords (crates : Crates) (codec : ObjectCodec) (key : FixedBytes 32) :
    List (Nat × Bytes) → Nat → ObjectStore → HsmResult Nat × ObjectStore
  | [], loaded, store => (.ok loaded, store)
  | (storeKey, record) :: records, loaded, store =>
    match openRecord crates key record with
    | .error e => (.error e, store)
    | .ok text =>
      match codec.deserialize text with
      | none => loadRecords crates codec key records loaded store
      | some obj =>
        if validateDeserializedObject obj then
          loadRecords crates codec key records (loaded + 1) (store.loadObject storeKey obj)
        else loadRecords crates codec key records loaded store

/-- `load_from_store`. -/
def loadFromStore : HsmResult Nat × ObjectStore :=
  if !store.persistent then (.ok 0, store)
  else
    match store.persistKey with
    | none => (.ok 0, store)
    | some key => store.loadRecords crates codec key store.records.toList 0

/-! ### What the functions leave alone -/

section Frames

variable (crates : Crates) (codec : ObjectCodec) (draw : StoreDraw) (store : ObjectStore)
  (handle : Nat) (obj : StoredObject)

/-- Writing a record changes nothing but the database and the table of store keys. -/
theorem persistObject_frame : ∃ records handleToStoreKey,
    store.persistObject crates codec draw obj =
      { store with records := records, handleToStoreKey := handleToStoreKey } := by
  unfold persistObject getStoreKey storeEncrypted
  dsimp only
  repeat' split
  all_goals exact ⟨_, _, rfl⟩

/-- Deleting a record changes nothing but the database and the table of store keys. -/
theorem unpersistObject_frame : ∃ records handleToStoreKey,
    store.unpersistObject draw handle =
      { store with records := records, handleToStoreKey := handleToStoreKey } := by
  unfold unpersistObject getStoreKey
  dsimp only
  repeat' split
  all_goals exact ⟨_, _, rfl⟩

@[simp]
theorem persistObject_objects :
    (store.persistObject crates codec draw obj).objects = store.objects := by
  obtain ⟨records, handleToStoreKey, heq⟩ := store.persistObject_frame crates codec draw obj
  rw [heq]

@[simp]
theorem unpersistObject_objects : (store.unpersistObject draw handle).objects = store.objects := by
  obtain ⟨records, handleToStoreKey, heq⟩ := store.unpersistObject_frame draw handle
  rw [heq]

@[simp]
theorem addObject_objects :
    (store.addObject crates codec draw handle obj).objects = store.objects.insert handle obj := by
  simp [addObject]

end Frames

end ObjectStore

end CratonHsm.Store
