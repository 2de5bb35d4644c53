import CratonHsm.Store.Interleaving
import CratonHsm.Store.Places

/-!
# Destroyed objects

`destroy_object` beside `load_from_store` and `sweep_lifecycle`. A load that has decrypted a record
and a sweep that has cloned an object hold copies, and bring the object back when its destruction
falls in between: the load into memory, the sweep into the database, from where the next load takes
it (`destroyed_object_comes_back`).

An object that is being destroyed or has been destroyed is out of memory, no thread holds a copy of
it, and its records are those that the deletion will delete, or has deleted (`Inv`). The accesses of
the three calls keep this as long as no copy is held when the object is removed, no load decrypts
its record before the deletion, the table of store keys knows its record, and the deletion succeeds
(`Undisturbed`); so in these runs no destroyed object is in memory or in the database ever after
(`destroyed_objects_stay_away`).
-/

set_option autoImplicit false

namespace CratonHsm.Store.Interleaving

open Crypto Library
open Std (ExtTreeMap)
open ObjectStore

variable {handle : Nat} {obj : StoredObject}

/-! ### Copies and records -/

/-- The copies of objects that a thread holds. -/
def Pc.copies : Pc → List StoredObject
  | .loaded _ _ obj _ => [obj]
  | .sweeping _ clones => clones
  | .persisting clones => clones
  | _ => []

/-- The key with which a thread decrypts. -/
def Pc.key? : Pc → Option (FixedBytes 32)
  | .loading key _ => some key
  | .loaded key _ _ _ => some key
  | _ => none

/-- Some thread holds a copy of the object with the handle. -/
def State.HoldsCopy (s : State) (handle : Nat) : Prop :=
  ∃ pc ∈ s.threads, ∃ obj ∈ pc.copies, obj.handle = handle

/-- The access is one of `destroy_object`, `load_from_store` or `sweep_lifecycle`. -/
def Action.keepsObjects : Action → Bool
  | .create _ _ => false
  | .insertObject _ => false
  | .build => false
  | .add _ => false
  | _ => true

section Records

variable (crates : Crates) (codec : ObjectCodec) (key : FixedBytes 32)

/-- The record under the store key opens to an object with the handle. -/
def RecordAt (store : ObjectStore) (storeKey handle : Nat) : Prop :=
  ∃ record obj, store.records[storeKey]? = some record ∧ RecordOf crates codec key record obj ∧
    obj.handle = handle

/-- The object with the handle is neither in memory nor in the database. -/
def Gone (store : ObjectStore) (handle : Nat) : Prop :=
  store.objects.get? handle = none ∧
    (store.persistent = true → ∀ storeKey, ¬RecordAt crates codec key store storeKey handle)

/-- An object is removed from memory when no thread holds a copy of it and the table of store keys
knows all its records, a load decrypts no record of an object that is being destroyed, and the
deletion of a record succeeds. -/
def Undisturbed (s : State) (label : Nat × Action) : Prop :=
  match label.2 with
  | .remove handle => ¬s.HoldsCopy handle ∧ ∀ storeKey,
      RecordAt crates codec key s.store storeKey handle →
        s.store.handleToStoreKey[handle]? = some storeKey
  | .decrypt => ∀ other storeKey pending,
      s.threads[label.1]? = some (.loading other (storeKey :: pending)) →
        ∀ handle, RecordAt crates codec key s.store storeKey handle → .deleting handle ∉ s.threads
  | .delete draw => draw.writes = true
  | _ => True

/-- The object with the handle is being destroyed or has been destroyed. -/
def State.Away (s : State) (handle : Nat) : Prop :=
  handle ∈ s.destroyed ∨ .deleting handle ∈ s.threads

/-- What the accesses keep. -/
structure Inv (s : State) : Prop where
  handles : ∀ handle obj, s.store.objects.get? handle = some obj → obj.handle = handle
  persistKey : ∀ other, s.store.persistKey = some other → other = key
  keys : ∀ pc ∈ s.threads, ∀ other, pc.key? = some other → other = key ∧ s.store.persistent = true
  memory : ∀ handle, s.Away handle → s.store.objects.get? handle = none
  copies : ∀ handle, s.Away handle → ¬s.HoldsCopy handle
  deleting : ∀ handle, .deleting handle ∈ s.threads → s.store.persistent = true → ∀ storeKey,
    RecordAt crates codec key s.store storeKey handle →
      s.store.handleToStoreKey[handle]? = some storeKey
  destroyed : ∀ handle ∈ s.destroyed, s.store.persistent = true → ∀ storeKey,
    ¬RecordAt crates codec key s.store storeKey handle

end Records

section Writing

variable {crates : Crates} {codec : ObjectCodec} {key : FixedBytes 32} {store : ObjectStore}
  {draw : StoreDraw} {handle : Nat}

/-- The table of store keys is written at the handle of the object. -/
theorem persistObject_handleToStoreKey (hne : obj.handle ≠ handle) :
    (store.persistObject crates codec draw obj).handleToStoreKey[handle]? =
      store.handleToStoreKey[handle]? := by
  have hget : (store.getStoreKey draw obj.handle).2.handleToStoreKey[handle]? =
      store.handleToStoreKey[handle]? := by
    unfold getStoreKey
    split
    · rfl
    · exact (getElem?_insert_eq_ite ..).trans (if_neg hne)
  have hstore : ∀ (other : ObjectStore) (storeKey : Nat) (text : Bytes) (key : FixedBytes 32),
      (other.storeEncrypted crates draw storeKey text key).2.handleToStoreKey =
        other.handleToStoreKey := by
    intro other storeKey text key
    unfold storeEncrypted
    repeat' split
    all_goals rfl
  unfold persistObject
  split_ifs
  · rfl
  · rfl
  split
  · rfl
  · exact (congrArg (·[handle]?) (hstore ..)).trans hget

/-- Writing a record leaves the records of other objects, or replaces them. -/
theorem recordAt_persistObject (hinverts : crates.GcmInverts) (hcodec : codec.RoundTrips)
    (hkey : ∀ other, store.persistKey = some other → other = key) {storeKey : Nat}
    (hne : obj.handle ≠ handle)
    (h : RecordAt crates codec key (store.persistObject crates codec draw obj) storeKey handle) :
    RecordAt crates codec key store storeKey handle := by
  obtain ⟨record, held, hrecord, hheld, rfl⟩ := h
  have hadded : (store.addObject crates codec draw obj.handle obj).records[storeKey]? =
      some record := hrecord
  rcases addObject_records hadded with hrecord | ⟨other, nonce, hother, hseal⟩
  · exact ⟨record, held, hrecord, hheld, rfl⟩
  · obtain rfl := hkey other hother
    have hobj := recordOf_sealRecord hinverts hcodec hseal
    exact absurd (congrArg StoredObject.handle (hobj.unique hheld)) hne

/-- Deleting a record leaves none that the table of store keys knew for the handle. -/
theorem recordAt_unpersistObject {storeKey other : Nat}
    (h : RecordAt crates codec key (store.unpersistObject draw handle) storeKey other) :
    RecordAt crates codec key store storeKey other := by
  obtain ⟨record, held, hrecord, hheld, rfl⟩ := h
  exact ⟨record, held, unpersistObject_records hrecord, hheld, rfl⟩

theorem not_recordAt_unpersistObject (hpersistent : store.persistent = true)
    (hwrites : draw.writes = true)
    (hknown : ∀ storeKey, RecordAt crates codec key store storeKey handle →
      store.handleToStoreKey[handle]? = some storeKey) (storeKey : Nat) :
    ¬RecordAt crates codec key (store.unpersistObject draw handle) storeKey handle := by
  intro h
  have herased : store.erasedKey draw handle = storeKey := by
    rw [erasedKey, hknown storeKey (recordAt_unpersistObject h), Option.getD_some]
  obtain ⟨record, -, hrecord, -⟩ := h
  rw [store.unpersistObject_eq hpersistent hwrites, herased] at hrecord
  simp at hrecord

theorem unpersistObject_handleToStoreKey {other : Nat} (hne : handle ≠ other) :
    (store.unpersistObject draw handle).handleToStoreKey[other]? =
      store.handleToStoreKey[other]? := by
  unfold unpersistObject getStoreKey
  split_ifs
  · rfl
  all_goals
    dsimp only
    split
    · rw [getElem?_erase_eq_ite, if_neg hne]
    · rw [getElem?_erase_eq_ite, if_neg hne, getElem?_insert_eq_ite, if_neg hne]

end Writing

/-! ### Accesses -/

namespace Inv

variable {crates : Crates} {codec : ObjectCodec} {key : FixedBytes 32} {s : State} {thread : Nat}

/-- A thread moves on, with copies of objects that are not away. -/
theorem goto (h : Inv crates codec key s) {next : Pc}
    (hkey : ∀ other, next.key? = some other → other = key ∧ s.store.persistent = true)
    (hcopies : ∀ obj ∈ next.copies, ¬s.Away obj.handle)
    (hnext : ∀ handle, next ≠ .deleting handle) :
    Inv crates codec key (s.goto thread next) := by
  obtain ⟨⟩ := h
  constructor <;> grind [State.Away, State.HoldsCopy, State.goto]

/-- A thread that moves on without copies adds none. -/
theorem holdsCopy_of_goto {next : Pc} (hnext : next.copies = [])
    (h : (s.goto thread next).HoldsCopy handle) : s.HoldsCopy handle := by
  obtain ⟨pc, hpc, obj, hobj, hhandle⟩ := h
  grind [State.goto, State.HoldsCopy]

section Kept

variable (h : Inv crates codec key s)
include h

/-- A thread moves on without copies. -/
theorem gotoEmpty {next : Pc}
    (hkey : ∀ other, next.key? = some other → other = key ∧ s.store.persistent = true)
    (hcopies : next.copies = []) (hnext : ∀ handle, next ≠ .deleting handle) :
    Inv crates codec key (s.goto thread next) :=
  h.goto hkey (by simp [hcopies]) hnext

/-- A load inserts an object that is not away. -/
theorem loadObject (hobj : ¬s.Away obj.handle) (storeKey : Nat) :
    Inv crates codec key { s with store := s.store.loadObject storeKey obj } := by
  have hobjects : ∀ handle, (s.store.loadObject storeKey obj).objects.get? handle =
      if obj.handle = handle then some obj else s.store.objects.get? handle :=
    fun _ ↦ s.store.objects.get?_insert ..
  have htable : ∀ handle, (s.store.loadObject storeKey obj).handleToStoreKey[handle]? =
      if obj.handle = handle then some storeKey else s.store.handleToStoreKey[handle]? :=
    fun _ ↦ getElem?_insert_eq_ite ..
  obtain ⟨handles, persistKey, keys, memory, copies, deleting, destroyed⟩ := h
  refine ⟨?_, persistKey, keys, ?_, copies, ?_, destroyed⟩
  all_goals grind [State.Away, RecordAt, loadObject]

/-- An object is removed from memory. -/
theorem remove (hcopy : ¬s.HoldsCopy handle)
    (hrecords : ∀ storeKey, RecordAt crates codec key s.store storeKey handle →
      s.store.handleToStoreKey[handle]? = some storeKey) :
    Inv crates codec key (Interleaving.remove s thread handle) := by
  unfold Interleaving.remove
  split
  · exact h
  split_ifs
  · exact h
  have hobjects : ∀ other, (s.store.objects.erase handle).get? other =
      if handle = other then none else s.store.objects.get? other :=
    s.store.objects.get?_erase _
  constructor
  case copies =>
    intro other haway hcopies
    have hcopies : s.HoldsCopy other := holdsCopy_of_goto rfl hcopies
    grind [State.Away, State.goto, h.copies]
  case destroyed => exact h.destroyed
  all_goals
    obtain ⟨⟩ := h
    grind [State.Away, State.goto, RecordAt, Pc.key?]

/-- The record of a removed object is deleted. -/
theorem delete {draw : StoreDraw} (hthread : s.threads[thread]? = some (.deleting handle))
    (hwrites : draw.writes = true) :
    Inv crates codec key ({ s with
      store := s.store.unpersistObject draw handle
      destroyed := handle :: s.destroyed }.goto thread .idle) := by
  have hdeleting : .deleting handle ∈ s.threads := List.mem_of_getElem? hthread
  obtain ⟨records, handleToStoreKey, hframe⟩ := s.store.unpersistObject_frame draw handle
  have hobjects : (s.store.unpersistObject draw handle).objects = s.store.objects := by rw [hframe]
  have hpersistent : (s.store.unpersistObject draw handle).persistent = s.store.persistent := by
    rw [hframe]
  have hpersistKey : (s.store.unpersistObject draw handle).persistKey = s.store.persistKey := by
    rw [hframe]
  have hgone : s.store.persistent = true → ∀ storeKey,
      ¬RecordAt crates codec key (s.store.unpersistObject draw handle) storeKey handle := fun hp ↦
    not_recordAt_unpersistObject hp hwrites (h.deleting handle hdeleting hp)
  constructor
  case copies =>
    intro other haway hcopies
    have hcopies : s.HoldsCopy other := holdsCopy_of_goto rfl hcopies
    grind [State.Away, State.goto, h.copies]
  all_goals
    obtain ⟨⟩ := h
    grind [State.Away, State.goto, Pc.key?, → recordAt_unpersistObject,
      unpersistObject_handleToStoreKey]

theorem not_away_of_copy {pc : Pc} (hthread : s.threads[thread]? = some pc)
    (hobj : obj ∈ pc.copies) : ¬s.Away obj.handle := fun haway ↦
  h.copies _ haway ⟨pc, List.mem_of_getElem? hthread, obj, hobj, rfl⟩

theorem not_away_of_get? (hget : s.store.objects.get? handle = some obj) : ¬s.Away handle := by
  intro haway
  rw [h.memory handle haway] at hget
  cases hget

/-- An object in memory changes, and keeps its handle. -/
theorem modify {ref : Nat} (href : s.store.objects.refs[handle]? = some ref)
    (hobj : obj.handle = handle) :
    Inv crates codec key { s with
      store := { s.store with objects := s.store.objects.modify ref fun _ ↦ obj } } := by
  have hobjects := s.store.objects.get?_modify href fun _ ↦ obj
  refine ⟨?_, h.persistKey, h.keys, ?_, h.copies, h.deleting, h.destroyed⟩
  all_goals
    obtain ⟨⟩ := h
    grind [State.Away, Option.map_eq_some_iff]

end Kept

theorem transitionLifecycleIfNeeded_handle {later : StoredObject} {now : Nat}
    (h : obj.transitionLifecycleIfNeeded now = .ok (some later)) : later.handle = obj.handle := by
  unfold StoredObject.transitionLifecycleIfNeeded at h
  split_ifs at h
  · cases h
  cases hstate : obj.computeDateBasedState now with
  | error e =>
    rw [hstate] at h
    cases h
  | ok state =>
    rw [hstate] at h
    have hlater := Except.ok.inj h
    split_ifs at hlater
    rw [← Option.some.inj hlater]

variable (h : Inv crates codec key s)
include h

/-- A sweep visits an object. -/
theorem visit {pending : List Nat} {clones : List StoredObject}
    (hthread : s.threads[thread]? = some (.sweeping pending clones)) (handle now : Nat) :
    Inv crates codec key (Interleaving.visit s thread pending clones handle now) := by
  unfold Interleaving.visit
  split
  · exact h.gotoEmpty (by simp [Pc.key?]) rfl (by simp)
  · rename_i ref obj href hobj
    obtain ⟨held, hheld, hlater⟩ := Option.map_eq_some_iff.mp hobj
    have hhandle : obj.handle = handle :=
      (transitionLifecycleIfNeeded_handle hlater).trans (h.handles handle held hheld)
    refine (h.modify href hhandle).goto (by simp [Pc.key?]) ?_ (by simp)
    intro clone hclone
    have hcases : clone ∈ clones ∨ clone = obj := by
      change clone ∈ (if obj.tokenObject then clones ++ [obj] else clones) at hclone
      split_ifs at hclone
      · simpa using hclone
      · exact .inl hclone
    rcases hcases with hclone | rfl
    · exact h.not_away_of_copy hthread hclone
    · rw [hhandle]
      exact h.not_away_of_get? hheld
  · exact h.goto (by simp [Pc.key?]) (fun clone hclone ↦ h.not_away_of_copy hthread hclone)
      (by simp)

/-- A sweep writes a clone. -/
theorem persist (hinverts : crates.GcmInverts) (hcodec : codec.RoundTrips)
    (hobj : ¬s.Away obj.handle) (draw : StoreDraw) :
    Inv crates codec key { s with store := s.store.persistObject crates codec draw obj } := by
  obtain ⟨records, handleToStoreKey, hframe⟩ := s.store.persistObject_frame crates codec draw obj
  have hobjects : (s.store.persistObject crates codec draw obj).objects = s.store.objects := by
    rw [hframe]
  have hpersistent : (s.store.persistObject crates codec draw obj).persistent =
      s.store.persistent := by
    rw [hframe]
  have hpersistKey : (s.store.persistObject crates codec draw obj).persistKey =
      s.store.persistKey := by
    rw [hframe]
  -- the records of the objects that are away were there before
  have hold : ∀ handle, s.Away handle → ∀ storeKey,
      RecordAt crates codec key (s.store.persistObject crates codec draw obj) storeKey handle →
        RecordAt crates codec key s.store storeKey handle ∧ obj.handle ≠ handle := by
    intro handle haway storeKey hrecord
    have hne : obj.handle ≠ handle := fun heq ↦ hobj (heq ▸ haway)
    exact ⟨recordAt_persistObject hinverts hcodec h.persistKey hne hrecord, hne⟩
  refine ⟨?_, ?_, ?_, ?_, h.copies, ?_, ?_⟩
  all_goals
    obtain ⟨⟩ := h
    grind [State.Away, persistObject_handleToStoreKey]

/-- A load decrypts a record. -/
theorem decrypt (hpersistent : s.store.persistent = true) {storeKey : Nat} {pending : List Nat}
    (hrecord : ∀ handle, RecordAt crates codec key s.store storeKey handle →
      .deleting handle ∉ s.threads) :
    Inv crates codec key (Interleaving.decrypt crates codec s thread key storeKey pending) := by
  have hload : ∀ other, (Pc.loading key pending).key? = some other →
      other = key ∧ s.store.persistent = true := by
    rintro other ⟨⟩
    exact ⟨rfl, hpersistent⟩
  unfold Interleaving.decrypt
  split
  · exact h.gotoEmpty hload rfl nofun
  rename_i record hget
  split
  · exact h.gotoEmpty nofun rfl nofun
  rename_i text htext
  split
  · exact h.gotoEmpty hload rfl nofun
  rename_i obj hobj
  split_ifs
  · have hat : RecordAt crates codec key s.store storeKey obj.handle :=
      ⟨record, obj, hget, ⟨text, htext, hobj⟩, rfl⟩
    refine h.goto (by rintro other ⟨⟩; exact ⟨rfl, hpersistent⟩) ?_ nofun
    intro copy hcopy haway
    obtain rfl := List.mem_singleton.mp hcopy
    rcases haway with hdestroyed | hdeleting
    · exact h.destroyed _ hdestroyed hpersistent storeKey hat
    · exact hrecord _ hat hdeleting
  · exact h.gotoEmpty hload rfl nofun

theorem access (hinverts : crates.GcmInverts) (hcodec : codec.RoundTrips) {pc : Pc}
    {action : Action} {t : State} (hthread : s.threads[thread]? = some pc)
    (hkeeps : action.keepsObjects = true)
    (hundisturbed : Undisturbed crates codec key s (thread, action))
    (haccess : Interleaving.access crates codec s thread pc action = some t) :
    Inv crates codec key t := by
  unfold Interleaving.access at haccess
  split at haccess
  · cases hkeeps
  · cases hkeeps
  · cases hkeeps
  · cases hkeeps
  -- a load
  · split_ifs at haccess with hpersistent
    · cases haccess
      exact h
    · split at haccess
      · cases haccess
        exact h
      · rename_i other hother
        cases haccess
        refine h.gotoEmpty ?_ rfl nofun
        rintro _ ⟨⟩
        exact ⟨h.persistKey _ hother, by simpa using hpersistent⟩
  · cases haccess
    exact h.gotoEmpty nofun rfl nofun
  · cases haccess
    obtain ⟨rfl, hpersistent⟩ := h.keys _ (List.mem_of_getElem? hthread) _ rfl
    exact h.decrypt hpersistent (hundisturbed _ _ _ hthread)
  · cases haccess
    have hobj := h.not_away_of_copy hthread (List.mem_singleton_self _)
    refine (h.loadObject hobj _).gotoEmpty ?_ rfl nofun
    rintro _ ⟨⟩
    exact h.keys _ (List.mem_of_getElem? hthread) _ rfl
  -- a destruction
  · cases haccess
    exact h.remove hundisturbed.1 hundisturbed.2
  · cases haccess
    exact h.delete hthread hundisturbed
  -- a sweep
  · cases haccess
    exact h.gotoEmpty nofun rfl nofun
  · cases haccess
    exact h.visit hthread _ _
  · cases haccess
    exact h.goto nofun (fun clone hclone ↦ h.not_away_of_copy hthread hclone) nofun
  · cases haccess
    exact h.gotoEmpty nofun rfl nofun
  · split_ifs at haccess
    cases haccess
    refine (h.persist hinverts hcodec ?_ _).goto nofun ?_ nofun
    · exact h.not_away_of_copy hthread List.mem_cons_self
    · exact fun clone hclone ↦ h.not_away_of_copy hthread (List.mem_cons_of_mem _ hclone)
  · cases haccess

end Inv

/-! ### Runs -/

/-- In every run of the three calls whose accesses are undisturbed, an object whose destruction has
succeeded is in memory no more and has no record, in every state that follows. -/
theorem destroyed_objects_stay_away (crates : Crates) (hinverts : crates.GcmInverts)
    (codec : ObjectCodec) (hcodec : codec.RoundTrips) {key : FixedBytes 32} {store : ObjectStore}
    (hhandles : ∀ handle obj, store.objects.get? handle = some obj → obj.handle = handle)
    (hkey : ∀ other, store.persistKey = some other → other = key) {threads : Nat}
    {labels : List (Nat × Action)} {s : State}
    (hcalls : ∀ label ∈ labels, label.2.keepsObjects = true)
    (hundisturbed : StepsMeet (step crates codec) (Undisturbed crates codec key)
      (.start store threads) labels)
    (hrun : runSteps (step crates codec) (.start store threads) labels = some s) :
    ∀ handle ∈ s.destroyed, Gone crates codec key s.store handle := by
  have hidle : ∀ pc ∈ (State.start store threads).threads, pc = .idle := fun pc hpc ↦
    List.eq_of_mem_replicate hpc
  have hnone : ∀ handle, ¬(State.start store threads).Away handle := by
    rintro handle (hdestroyed | hdeleting)
    · cases hdestroyed
    · cases hidle _ hdeleting
  have hstart : Inv crates codec key (.start store threads) := by
    refine ⟨hhandles, hkey, ?_, fun handle haway ↦ absurd haway (hnone handle),
      fun handle haway ↦ absurd haway (hnone handle),
      fun handle hdeleting ↦ absurd (.inr hdeleting) (hnone handle), nofun⟩
    rintro pc hpc other hother
    rw [hidle pc hpc] at hother
    cases hother
  have hstep : ∀ s label t, Inv crates codec key s →
      (label.2.keepsObjects = true ∧ Undisturbed crates codec key s label) →
        step crates codec s label = some t → Inv crates codec key t := by
    intro s label t hs hlabel hstep
    obtain ⟨pc, hthread, haccess⟩ := Option.bind_eq_some_iff.mp hstep
    exact hs.access hinverts hcodec hthread hlabel.1 hlabel.2 haccess
  have hinv := runSteps_invariant hstep labels _ s hstart
    ((StepsMeet.of_forall hcalls).and hundisturbed) hrun
  exact fun handle hhandle ↦ ⟨hinv.memory handle (.inl hhandle), hinv.destroyed handle hhandle⟩

/-! ### Copies that come back -/

/-- A token object whose last day has passed. -/
def expiredObject : StoredObject :=
  { StoredObject.new 0 7 4 with
    tokenObject := true
    endDate := some ⟨[0x32, 0x30, 0x32, 0x30, 0x30, 0x31, 0x30, 0x31], rfl⟩ }

/-- The object after the sweep. -/
def deactivatedObject : StoredObject := { expiredObject with lifecycleState := .deactivated }

variable (key : FixedBytes 32)

/-- The object in memory, with its record. -/
def recordedStore (record : Bytes) : ObjectStore :=
  { new ⟨[]⟩ true (.insert ∅ 5 record) with
    objects := SharedMap.empty.insert 7 expiredObject
    persistKey := some key
    handleToStoreKey := .insert ∅ 7 5 }

/-- The store when the object has been destroyed. -/
def removedStore (record : Bytes) : ObjectStore :=
  { recordedStore key record with
    objects := (recordedStore key record).objects.erase 7
    records := (recordedStore key record).records.erase 5
    handleToStoreKey := (recordedStore key record).handleToStoreKey.erase 7 }

/-- One thread destroys the object and loads the store again: neither memory nor database has it. -/
theorem undisturbed_destruction : ∃ record s,
    RecordOf pinAnswers.crates .enumerated zeroKey record expiredObject ∧
      runSteps (step pinAnswers.crates .enumerated) (.start (recordedStore zeroKey record) 1)
        [(0, .remove 7), (0, .delete ⟨8, .ok nonceFours, true⟩), (0, .load), (0, .decrypt)] =
          some s ∧
      s.destroyed = [7] ∧ Gone pinAnswers.crates .enumerated zeroKey s.store 7 := by
  obtain ⟨record, -, hrecord⟩ := exists_sealRecord zeroKey nonceFours expiredObject
  have hrun : runSteps (step pinAnswers.crates .enumerated)
      (.start (recordedStore zeroKey record) 1)
      [(0, .remove 7), (0, .delete ⟨8, .ok nonceFours, true⟩), (0, .load), (0, .decrypt)] =
        some ⟨removedStore zeroKey record, [.idle], [7]⟩ := rfl
  have hhandles : ∀ handle obj, (recordedStore zeroKey record).objects.get? handle = some obj →
      obj.handle = handle := by
    intro handle obj hobj
    have hget : (if 7 = handle then some expiredObject else none) = some obj :=
      (SharedMap.get?_insert ..).symm.trans hobj
    split_ifs at hget with heq
    rw [← Option.some.inj hget, ← heq]
    rfl
  have hundisturbed : StepsMeet (step pinAnswers.crates .enumerated)
      (Undisturbed pinAnswers.crates .enumerated zeroKey) (.start (recordedStore zeroKey record) 1)
      [(0, .remove 7), (0, .delete ⟨8, .ok nonceFours, true⟩), (0, .load), (0, .decrypt)] := by
    refine ⟨⟨?_, ?_⟩, rfl, trivial, ?_, trivial⟩
    · rintro ⟨pc, hpc, obj, hobj, -⟩
      rw [List.mem_singleton.mp hpc] at hobj
      cases hobj
    · rintro storeKey ⟨held, obj, hheld, -, -⟩
      have hget : (if 5 = storeKey then some record else none) = some held :=
        (getElem?_insert_eq_ite ..).symm.trans hheld
      split_ifs at hget with heq
      rw [← heq]
      rfl
    · rintro other storeKey pending hthread
      cases hthread
  refine ⟨record, _, hrecord, hrun, rfl, ?_⟩
  exact destroyed_objects_stay_away _ pinAnswers.gcmInverts _ ObjectCodec.enumerated_roundTrips
    hhandles (fun _ hother ↦ (Option.some.inj hother).symm) (by decide) hundisturbed hrun 7
    List.mem_cons_self

/-- The store when the object has been swept and destroyed. -/
def destroyedStore (record : Bytes) : ObjectStore :=
  { recordedStore key record with
    objects := ((recordedStore key record).objects.modify 0 fun _ ↦ deactivatedObject).erase 7
    records := (recordedStore key record).records.erase 5
    handleToStoreKey := (recordedStore key record).handleToStoreKey.erase 7 }

/-- The store when the sweep has written its clone. -/
def rewrittenStore (record later : Bytes) : ObjectStore :=
  { destroyedStore key record with
    records := (destroyedStore key record).records.insert 9 later
    handleToStoreKey := (destroyedStore key record).handleToStoreKey.insert 7 9 }

/-- A sweep clones the object, and the object is destroyed. -/
def destroyWithinSweep (nonce : FixedBytes 12) : List (Nat × Action) :=
  [(0, .sweep), (0, .visit 7 1700000000), (0, .finishVisits), (1, .remove 7),
    (1, .delete ⟨8, .ok nonce, true⟩)]

/-- The sweep writes its clone and returns. -/
def finishSweep (nonce : FixedBytes 12) : List (Nat × Action) :=
  [(0, .persist ⟨9, .ok nonce, true⟩), (0, .persist ⟨9, .ok nonce, true⟩)]

/-- A load of one record. -/
def loadRecord : List (Nat × Action) :=
  [(1, .load), (1, .decrypt), (1, .insertLoaded), (1, .decrypt)]

/-- A load decrypts the record of the object, the object is destroyed, and the load goes on. -/
def destroyWithinLoad (nonce : FixedBytes 12) : List (Nat × Action) :=
  [(0, .load), (0, .decrypt)] ++
    [(1, .remove 7), (1, .delete ⟨8, .ok nonce, true⟩), (0, .insertLoaded), (0, .decrypt)]

section ComesBack

variable {crates : Crates} {codec : ObjectCodec} {key : FixedBytes 32} {nonce : FixedBytes 12}
  {record later : Bytes}

theorem runSteps_finishSweep
    (hseal : sealRecord crates key nonce (codec.serialize deactivatedObject) =
      some later) :
    runSteps (step crates codec)
        ⟨destroyedStore key record, [.persisting [deactivatedObject], .idle], [7]⟩
        (finishSweep nonce) = some ⟨rewrittenStore key record later, [.idle, .idle], [7]⟩ := by
  have hpersistent : (destroyedStore key record).persistent = true := rfl
  have hkey : (destroyedStore key record).persistKey = some key := rfl
  have hunmapped : (destroyedStore key record).handleToStoreKey[7]? = none := rfl
  have htoken : deactivatedObject.tokenObject = true := rfl
  have hhandle : deactivatedObject.handle = 7 := rfl
  have hwritten : (destroyedStore key record).persistObject crates codec ⟨9, .ok nonce, true⟩
      deactivatedObject = rewrittenStore key record later := by
    simp [persistObject, getStoreKey, storeEncrypted,
      rewrittenStore, hpersistent, hkey, hunmapped, htoken, hhandle, hseal]
  rw [← hwritten]
  rfl

theorem runSteps_loadRecord (hlater : RecordOf crates codec key later deactivatedObject) :
    runSteps (step crates codec) ⟨rewrittenStore key record later, [.idle, .idle], [7]⟩ loadRecord =
      some ⟨(rewrittenStore key record later).loadObject 9 deactivatedObject, [.idle, .idle],
        [7]⟩ := by
  obtain ⟨text, htext, hobj⟩ := hlater
  have hpersistent : (rewrittenStore key record later).persistent = true := rfl
  have hkey : (rewrittenStore key record later).persistKey = some key := rfl
  have hkeys : (rewrittenStore key record later).records.keys = [9] := rfl
  have hget : (rewrittenStore key record later).records[9]? = some later := rfl
  have hvalid : validateDeserializedObject deactivatedObject = true := rfl
  simp [runSteps, step, access, State.goto, State.keyFree, Pc.loads, decrypt, loadRecord,
    hpersistent, hkey, hkeys, hget, htext, hobj, hvalid]

/-- A sweep writes the clone of an object that has been destroyed, and the next load takes it from
there. -/
theorem runSteps_sweep_comesBack
    (hseal : sealRecord crates key nonce (codec.serialize deactivatedObject) =
      some later) (hlater : RecordOf crates codec key later deactivatedObject) :
    runSteps (step crates codec) (.start (recordedStore key record) 2)
        (destroyWithinSweep nonce ++ (finishSweep nonce ++ loadRecord)) =
      some ⟨(rewrittenStore key record later).loadObject 9 deactivatedObject, [.idle, .idle],
        [7]⟩ := by
  have hdestroyed : runSteps (step crates codec) (.start (recordedStore key record) 2)
      (destroyWithinSweep nonce) =
        some ⟨destroyedStore key record, [.persisting [deactivatedObject], .idle], [7]⟩ := rfl
  rw [runSteps_append, hdestroyed, Option.bind_some, runSteps_append, runSteps_finishSweep hseal,
    Option.bind_some, runSteps_loadRecord hlater]

/-- A load decrypts the record of an object before it is destroyed and inserts it afterwards. -/
theorem runSteps_load_comesBack (hrecord : RecordOf crates codec key record expiredObject) :
    runSteps (step crates codec) (.start (recordedStore key record) 2)
        (destroyWithinLoad nonce) =
      some ⟨(removedStore key record).loadObject 5 expiredObject, [.idle, .idle], [7]⟩ := by
  obtain ⟨text, htext, hobj⟩ := hrecord
  have hpersistent : (recordedStore key record).persistent = true := rfl
  have hkey : (recordedStore key record).persistKey = some key := rfl
  have hkeys : (recordedStore key record).records.keys = [5] := rfl
  have hget : (recordedStore key record).records[5]? = some record := rfl
  have hvalid : validateDeserializedObject expiredObject = true := rfl
  have hdecrypted : runSteps (step crates codec) (.start (recordedStore key record) 2)
      [(0, .load), (0, .decrypt)] =
        some ⟨recordedStore key record, [.loaded key 5 expiredObject [], .idle], []⟩ := by
    simp [runSteps, step, access, State.start, State.goto, State.keyFree, Pc.loads, decrypt,
      hpersistent, hkey, hkeys, hget, htext, hobj, hvalid]
  have hrest : runSteps (step crates codec)
      ⟨recordedStore key record, [.loaded key 5 expiredObject [], .idle], []⟩
      [(1, .remove 7), (1, .delete ⟨8, .ok nonce, true⟩), (0, .insertLoaded), (0, .decrypt)] =
        some ⟨(removedStore key record).loadObject 5 expiredObject, [.idle, .idle], [7]⟩ := rfl
  rw [destroyWithinLoad, runSteps_append, hdecrypted, Option.bind_some, hrest]

end ComesBack

/-- An object that was destroyed during a sweep, and one that was destroyed during a load: when all
calls have returned, they are in memory again. -/
theorem destroyed_object_comes_back :
    (∃ record labels s,
      runSteps (step pinAnswers.crates .enumerated) (.start (recordedStore zeroKey record) 2)
        (destroyWithinSweep nonceFours ++ labels) = some s ∧ s.threads = [.idle, .idle] ∧
      s.destroyed = [7] ∧ s.store.objects.get? 7 = some deactivatedObject) ∧
    ∃ record s,
      runSteps (step pinAnswers.crates .enumerated) (.start (recordedStore zeroKey record) 2)
        (destroyWithinLoad nonceFours) = some s ∧ s.threads = [.idle, .idle] ∧
      s.destroyed = [7] ∧ s.store.objects.get? 7 = some expiredObject := by
  obtain ⟨record, -, hrecord⟩ := exists_sealRecord zeroKey nonceFours expiredObject
  obtain ⟨later, hseal, hlater⟩ := exists_sealRecord zeroKey nonceFours deactivatedObject
  exact ⟨⟨record, _, _, runSteps_sweep_comesBack hseal hlater, rfl, rfl,
    (SharedMap.get?_insert ..).trans (if_pos rfl)⟩, record, _, runSteps_load_comesBack hrecord, rfl,
    rfl, (SharedMap.get?_insert ..).trans (if_pos rfl)⟩

end CratonHsm.Store.Interleaving
