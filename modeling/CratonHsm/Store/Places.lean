import CratonHsm.Store.Persistence

/-!
# Where objects are

An object is in a cell of the memory or in a record of the database, which opens to it under a key
(`Place`, `ObjectStore.Holds`). Adding objects and loading records leave the cells there are alone
and fill new ones: an added object fills the next cell (`addAll_cells`), and a record that is
written with it opens to it (`addAll_records`); a load fills cells from records
(`loadFromStore_cells`) and writes none.
-/

set_option autoImplicit false

namespace CratonHsm.Store

open Crypto Library
open Std (ExtTreeMap)

variable {obj : StoredObject}

/-- A cell, or a record with the key that opens it. -/
inductive Place where
  | cell (ref : Nat)
  | record (storeKey : Nat) (key : FixedBytes 32)

/-- The object in a place. -/
def ObjectStore.Holds (crates : Crates) (codec : ObjectCodec) (store : ObjectStore) :
    Place → StoredObject → Prop
  | .cell ref, obj => store.objects.deref ref = some obj
  | .record storeKey key, obj => ∃ record, store.records[storeKey]? = some record ∧
      RecordOf crates codec key record obj

/-- Add objects in order. -/
def ObjectStore.addAll (crates : Crates) (codec : ObjectCodec)
    (made : List (StoreDraw × StoredObject)) (store : ObjectStore) : ObjectStore :=
  made.foldl (fun store entry ↦ store.addObject crates codec entry.1 entry.2.handle entry.2) store

namespace ObjectStore

variable {crates : Crates} {codec : ObjectCodec} {key : FixedBytes 32} {store : ObjectStore}

/-- A place holds one object. -/
theorem Holds.unique {place : Place} {obj' : StoredObject} (h : store.Holds crates codec place obj)
    (h' : store.Holds crates codec place obj') : obj = obj' := by
  cases place with
  | cell ref => exact Option.some.inj (Eq.trans (Eq.symm h) h')
  | record storeKey key =>
    obtain ⟨record, hrecord, text, htext, hobj⟩ := h
    obtain ⟨record', hrecord', text', htext', hobj'⟩ := h'
    obtain rfl := Option.mem_unique hrecord hrecord'
    obtain rfl := Except.ok.inj (htext.symm.trans htext')
    exact Option.mem_unique hobj hobj'

/-! ### Adding -/

theorem addObject_persistKey (draw : StoreDraw) (handle : Nat) (obj : StoredObject) :
    (store.addObject crates codec draw handle obj).persistKey = store.persistKey := by
  obtain ⟨records, handleToStoreKey, heq⟩ := store.persistObject_frame crates codec draw obj
  rw [addObject, heq]

variable {draw : StoreDraw} {handle storeKey : Nat} {record : Bytes}

/-- The database is written with a record that the object was sealed into. -/
theorem addObject_records
    (h : (store.addObject crates codec draw handle obj).records[storeKey]? = some record) :
    store.records[storeKey]? = some record ∨ ∃ key nonce, store.persistKey = some key ∧
      sealRecord crates key nonce (codec.serialize obj) = some record := by
  have hrecords : (store.persistObject crates codec draw obj).records[storeKey]? = some record := h
  unfold persistObject at hrecords
  split_ifs at hrecords
  · exact Or.inl hrecords
  · exact Or.inl hrecords
  · cases hkey : store.persistKey with
    | none =>
      simp only [hkey] at hrecords
      exact Or.inl hrecords
    | some key =>
      simp only [hkey] at hrecords
      have hsame : (store.getStoreKey draw obj.handle).2.records = store.records := by
        unfold getStoreKey
        split <;> rfl
      unfold storeEncrypted at hrecords
      cases hnonce : draw.nonce with
      | error e =>
        simp only [hnonce, hsame] at hrecords
        exact Or.inl hrecords
      | ok nonce =>
        cases hseal : sealRecord crates key nonce (codec.serialize obj) with
        | none =>
          simp only [hnonce, hseal, hsame] at hrecords
          exact Or.inl hrecords
        | some sealed =>
          simp only [hnonce, hseal] at hrecords
          split_ifs at hrecords
          · rw [hsame, getElem?_insert_eq_ite] at hrecords
            split_ifs at hrecords
            · obtain rfl := Option.some.inj hrecords
              exact Or.inr ⟨key, nonce, rfl, hseal⟩
            · exact Or.inl hrecords
          · rw [hsame] at hrecords
            exact Or.inl hrecords

/-- Deleting writes no record. -/
theorem unpersistObject_records
    (h : (store.unpersistObject draw handle).records[storeKey]? = some record) :
    store.records[storeKey]? = some record := by
  have hsame : (store.getStoreKey draw handle).2.records = store.records := by
    unfold getStoreKey
    split <;> rfl
  unfold unpersistObject at h
  split_ifs at h
  · exact h
  · simp only [hsame] at h
    rw [getElem?_erase_eq_ite] at h
    split_ifs at h
    exact h
  · simp only [hsame] at h
    exact h

section AddAll

variable {made : List (StoreDraw × StoredObject)}

theorem addAll_cons (entry : StoreDraw × StoredObject) (made : List (StoreDraw × StoredObject)) :
    store.addAll crates codec (entry :: made) =
      (store.addObject crates codec entry.1 entry.2.handle entry.2).addAll crates codec made := rfl

theorem addAll_persistKey : (store.addAll crates codec made).persistKey = store.persistKey := by
  induction made generalizing store with
  | nil => rfl
  | cons entry made ih => rw [addAll_cons, ih, addObject_persistKey]

/-- The cells there are stay. -/
theorem addAll_deref {ref : Nat} (h : store.objects.deref ref = some obj) :
    (store.addAll crates codec made).objects.deref ref = some obj := by
  induction made generalizing store with
  | nil => exact h
  | cons entry made ih =>
    rw [addAll_cons]
    refine ih ?_
    rw [addObject_objects]
    exact store.objects.deref_insert h _ _

/-- The new cells hold the added objects. -/
theorem addAll_cells {ref : Nat}
    (h : (store.addAll crates codec made).objects.deref ref = some obj) :
    store.objects.deref ref = some obj ∨
      store.objects.cells.length ≤ ref ∧ obj ∈ made.map Prod.snd := by
  induction made generalizing store with
  | nil => exact Or.inl h
  | cons entry made ih =>
    rw [addAll_cons] at h
    rcases ih h with hold | ⟨hle, hmem⟩
    · rw [addObject_objects] at hold
      rcases store.objects.deref_insert_cases hold with hold | ⟨rfl, rfl⟩
      · exact Or.inl hold
      · exact Or.inr ⟨le_rfl, List.mem_cons_self⟩
    · refine Or.inr ⟨?_, List.mem_cons_of_mem _ hmem⟩
      rw [addObject_objects] at hle
      exact Nat.le_of_succ_le (by simpa [SharedMap.insert] using hle)

/-- A record that is written opens to an added object, which fills a new cell. -/
theorem addAll_records (hinverts : crates.GcmInverts) (hcodec : codec.RoundTrips) {storeKey : Nat}
    {record : Bytes} (h : (store.addAll crates codec made).records[storeKey]? = some record) :
    store.records[storeKey]? = some record ∨ ∃ key ref obj, store.persistKey = some key ∧
      store.objects.cells.length ≤ ref ∧
      (store.addAll crates codec made).objects.deref ref = some obj ∧
      RecordOf crates codec key record obj := by
  induction made generalizing store with
  | nil => exact Or.inl h
  | cons entry made ih =>
    rw [addAll_cons] at h ⊢
    rcases ih h with hold | ⟨key, ref, obj, hkey, hle, hderef, hof⟩
    · rcases addObject_records hold with hold | ⟨key, nonce, hkey, hseal⟩
      · exact Or.inl hold
      · refine Or.inr ⟨key, store.objects.cells.length, entry.2, hkey, le_rfl, ?_,
          recordOf_sealRecord hinverts hcodec hseal⟩
        refine addAll_deref ?_
        rw [addObject_objects]
        exact List.getElem?_concat_length
    · rw [addObject_persistKey] at hkey
      rw [addObject_objects] at hle
      have hle' : store.objects.cells.length + 1 ≤ ref := by simpa [SharedMap.insert] using hle
      exact Or.inr ⟨key, ref, obj, hkey, Nat.le_of_succ_le hle', hderef, hof⟩

end AddAll

/-! ### Loading -/

variable (records : List (Nat × Bytes))

theorem loadRecords_records (loaded : Nat) (store : ObjectStore) :
    (store.loadRecords crates codec key records loaded).2.records = store.records ∧
      (store.loadRecords crates codec key records loaded).2.persistKey = store.persistKey := by
  induction records generalizing loaded store with
  | nil => exact ⟨rfl, rfl⟩
  | cons entry records ih =>
    unfold loadRecords
    split
    · exact ⟨rfl, rfl⟩
    · split
      · exact ih loaded store
      · split_ifs
        · exact ih (loaded + 1) _
        · exact ih loaded store

theorem loadRecords_deref (loaded : Nat) (store : ObjectStore) {ref : Nat}
    (h : store.objects.deref ref = some obj) :
    (store.loadRecords crates codec key records loaded).2.objects.deref ref = some obj := by
  induction records generalizing loaded store with
  | nil => exact h
  | cons entry records ih =>
    unfold loadRecords
    split
    · exact h
    · split
      · exact ih loaded store h
      · split_ifs
        · exact ih (loaded + 1) _ (store.objects.deref_insert h _ _)
        · exact ih loaded store h

/-- The new cells hold what the records open to. -/
theorem loadRecords_cells (loaded : Nat) (store : ObjectStore) {ref : Nat}
    (h : (store.loadRecords crates codec key records loaded).2.objects.deref ref = some obj) :
    store.objects.deref ref = some obj ∨ store.objects.cells.length ≤ ref ∧
      ∃ entry ∈ records, RecordOf crates codec key entry.2 obj := by
  induction records generalizing loaded store with
  | nil => exact Or.inl h
  | cons entry records ih =>
    have hskip : ∀ {loaded}, (store.loadRecords crates codec key records
        loaded).2.objects.deref ref =
        some obj → store.objects.deref ref = some obj ∨ store.objects.cells.length ≤ ref ∧
          ∃ other ∈ entry :: records, RecordOf crates codec key other.2 obj := by
      intro loaded hrest
      refine (ih loaded store hrest).imp id ?_
      rintro ⟨hle, other, hmem, hof⟩
      exact ⟨hle, other, List.mem_cons_of_mem _ hmem, hof⟩
    obtain ⟨storeKey, record⟩ := entry
    unfold loadRecords at h
    split at h
    next => exact Or.inl h
    next text htext =>
      split at h
      next => exact hskip h
      next found hfound =>
        split_ifs at h
        · rcases ih (loaded + 1) _ h with hold | ⟨hle, other, hmem, hof⟩
          · rcases store.objects.deref_insert_cases hold with hold | ⟨rfl, rfl⟩
            · exact Or.inl hold
            · exact Or.inr ⟨le_rfl, _, List.mem_cons_self, text, htext, hfound⟩
          · have hle' : store.objects.cells.length + 1 ≤ ref := by
              simpa [loadObject, SharedMap.insert] using hle
            exact Or.inr ⟨Nat.le_of_succ_le hle', other, List.mem_cons_of_mem _ hmem, hof⟩
        · exact hskip h

/-- What a load of the database into the memory does: it changes no record, leaves the cells there
are alone, and fills new ones from records. -/
theorem loadFromStore_spec (hkey : store.persistKey = some key) :
    let after := (store.loadFromStore crates codec).2
    after.records = store.records ∧ after.persistKey = some key ∧
      (∀ ref obj, store.objects.deref ref = some obj → after.objects.deref ref = some obj) ∧
      ∀ ref obj, after.objects.deref ref = some obj → store.objects.deref ref = some obj ∨
        store.objects.cells.length ≤ ref ∧ ∃ storeKey,
          store.Holds crates codec (.record storeKey key) obj := by
  unfold loadFromStore
  split_ifs
  · exact ⟨rfl, hkey, fun _ _ h ↦ h, fun _ _ h ↦ Or.inl h⟩
  · simp only [hkey]
    have hkept : (store.loadRecords crates codec key store.records.toList 0).2.records =
        store.records ∧ _ := loadRecords_records store.records.toList 0 store
    obtain ⟨hrecords, hpersist⟩ := hkept
    refine ⟨hrecords, hpersist.trans hkey, fun ref obj h ↦ loadRecords_deref _ _ _ h,
      fun ref obj h ↦ ?_⟩
    refine (loadRecords_cells _ _ _ h).imp id ?_
    rintro ⟨hle, ⟨storeKey, record⟩, hmem, hof⟩
    exact ⟨hle, storeKey, record, ExtTreeMap.mem_toList_iff_getElem?_eq_some.mp hmem, hof⟩

end ObjectStore

end CratonHsm.Store
