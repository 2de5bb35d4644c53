import CratonHsm.Store.Interleaving

/-!
# The limit on the number of objects

`create_object` and `insert_object` compare the number of objects with `MAX_OBJECTS` before they add
theirs, and `load_from_store` does not. Two calls that both pass the check with one place left
exceed the limit, and so does a load into a full memory (`limit_exceeded`).

The number that stays within the limit counts the calls between their check and their insertion as
well (`State.claimed`). No access but a check that passes and an insertion by a load makes it larger
(`claimed_access`), so runs in which these two leave room for the calls under way stay within the
limit (`objects_within_limit`).
-/

set_option autoImplicit false

namespace CratonHsm.Store.Interleaving

open Crypto Library
open Std (ExtTreeMap)
open ObjectStore State

/-- The call has passed its check and not yet added its object. -/
def Pc.adds : Pc → Bool
  | .creating _ _ => true
  | .adding _ _ => true
  | _ => false

/-- The objects in memory and those under way. -/
def State.claimed (s : State) : Nat := s.store.objects.refs.size + s.threads.countP Pc.adds

/-- A check that passes and the insertion of a new object by a load find room beside the calls under
way. -/
def LeavesRoom (s : State) (label : Nat × Action) : Prop :=
  match s.threads[label.1]?, label.2 with
  | some .idle, .create _ _ | some .idle, .insertObject _ =>
    s.store.objects.refs.size < maxObjects → s.claimed < maxObjects
  | some (.loaded _ _ obj _), .insertLoaded =>
    obj.handle ∈ s.store.objects.refs ∨ s.claimed < maxObjects
  | _, _ => True

/-! ### What an access does to the number -/

section Accesses

variable {crates : Crates} {codec : ObjectCodec} {s t : State} {thread : Nat} {old next : Pc}

theorem claimed_goto (hthread : s.threads[thread]? = some old) (next : Pc) :
    (s.goto thread next).claimed + (if old.adds then 1 else 0) =
      s.claimed + (if next.adds then 1 else 0) := by
  obtain ⟨hlt, rfl⟩ := List.getElem?_eq_some_iff.mp hthread
  have hcounted : (if s.threads[thread].adds then 1 else 0) ≤ s.threads.countP Pc.adds := by
    split_ifs with hadds
    · exact List.countP_pos_iff.mpr ⟨_, List.getElem_mem hlt, hadds⟩
    · exact Nat.zero_le _
  simp only [claimed, goto, List.countP_set hlt]
  omega

/-- A check that passes claims one object. -/
theorem claimed_goto_le_succ (hthread : s.threads[thread]? = some old) (next : Pc) :
    (s.goto thread next).claimed ≤ s.claimed + 1 := by
  have hgoto := claimed_goto hthread next
  split_ifs at hgoto <;> omega

variable {store : ObjectStore} {obj : StoredObject}

variable (hthread : s.threads[thread]? = some old)
include hthread

/-- Other accesses claim nothing while the store has no more objects. -/
theorem claimed_goto_le (hsize : store.objects.refs.size ≤ s.store.objects.refs.size)
    (hadds : next.adds = true → old.adds = true) :
    ({ s with store := store }.goto thread next).claimed ≤ s.claimed := by
  have hgoto : ({ s with store := store }.goto thread next).claimed + (if old.adds then 1 else 0) =
      store.objects.refs.size + s.threads.countP Pc.adds + (if next.adds then 1 else 0) :=
    claimed_goto (s := { s with store := store }) hthread next
  simp only [claimed] at hgoto ⊢
  by_cases hnext : next.adds = true
  · rw [if_pos hnext, if_pos (hadds hnext)] at hgoto
    omega
  · rw [if_neg hnext] at hgoto
    omega

/-- A call under way inserts its object. -/
theorem claimed_add (hadds : old.adds = true) {handle : Nat}
    (hobjects : store.objects = s.store.objects.insert handle obj) :
    ({ s with store := store }.goto thread .idle).claimed ≤ s.claimed := by
  have hgoto : ({ s with store := store }.goto thread .idle).claimed + (if old.adds then 1 else 0) =
      store.objects.refs.size + s.threads.countP Pc.adds + 0 :=
    claimed_goto (s := { s with store := store }) hthread .idle
  have hsize : store.objects.refs.size ≤ s.store.objects.refs.size + 1 := by
    rw [hobjects]
    exact ExtTreeMap.size_insert_le
  rw [if_pos hadds] at hgoto
  simp only [claimed] at hgoto ⊢
  omega

/-- A load inserts an object, which is a new one or not. -/
theorem claimed_insertLoaded (hroom : obj.handle ∈ s.store.objects.refs ∨ s.claimed < maxObjects)
    (hclaimed : s.claimed ≤ maxObjects) (storeKey : Nat) (hnext : next.adds = false) :
    ({ s with store := s.store.loadObject storeKey obj }.goto thread next).claimed ≤
      maxObjects := by
  have hobjects : (s.store.loadObject storeKey obj).objects =
      s.store.objects.insert obj.handle obj := rfl
  have hgoto : ({ s with store := s.store.loadObject storeKey obj }.goto thread next).claimed +
      (if old.adds then 1 else 0) = (s.store.loadObject storeKey obj).objects.refs.size +
        s.threads.countP Pc.adds + (if next.adds then 1 else 0) :=
    claimed_goto (s := { s with store := s.store.loadObject storeKey obj }) hthread next
  simp only [claimed, hnext, hobjects, Bool.false_eq_true, if_false]
    at hgoto hroom hclaimed ⊢
  rcases hroom with hmem | hlt
  · have hsize : (s.store.objects.insert obj.handle obj).refs.size = s.store.objects.refs.size :=
      ExtTreeMap.size_insert.trans (if_pos (ExtTreeMap.contains_iff_mem.mpr hmem))
    omega
  · have hsize : (s.store.objects.insert obj.handle obj).refs.size ≤
        s.store.objects.refs.size + 1 := ExtTreeMap.size_insert_le
    omega

theorem claimed_build (hadds : old.adds = true) (now : Nat) (template : List (Nat × Bytes)) :
    (build s thread now template).claimed ≤ s.claimed := by
  unfold build
  split
  · exact claimed_goto_le hthread le_rfl nofun
  · dsimp only
    split
    · exact claimed_goto_le hthread le_rfl nofun
    · exact claimed_goto_le hthread le_rfl fun _ ↦ hadds

theorem claimed_decrypt (key : FixedBytes 32) (storeKey : Nat) (pending : List Nat) :
    (decrypt crates codec s thread key storeKey pending).claimed ≤ s.claimed := by
  unfold decrypt
  repeat' split
  all_goals exact claimed_goto_le hthread le_rfl nofun

theorem claimed_remove (handle : Nat) : (remove s thread handle).claimed ≤ s.claimed := by
  unfold remove
  split
  · exact le_rfl
  split
  · exact le_rfl
  exact claimed_goto_le hthread ExtTreeMap.size_erase_le nofun

theorem claimed_visit (pending : List Nat) (clones : List StoredObject) (handle now : Nat) :
    (visit s thread pending clones handle now).claimed ≤ s.claimed := by
  unfold visit
  split <;> exact claimed_goto_le hthread le_rfl nofun

/-- An access that leaves room keeps objects and calls under way within the limit. -/
theorem claimed_access {action : Action} (hroom : LeavesRoom s (thread, action))
    (hclaimed : s.claimed ≤ maxObjects) (haccess : access crates codec s thread old action = some t)
    : t.claimed ≤ maxObjects := by
  simp only [LeavesRoom, hthread] at hroom
  unfold access at haccess
  split at haccess
  -- the checks of `create_object` and `insert_object`
  · split_ifs at haccess with hfull <;> cases haccess
    · exact hclaimed
    · exact (claimed_goto_le_succ hthread _).trans (hroom (Nat.lt_of_not_le hfull))
  · split_ifs at haccess with hfull <;> cases haccess
    · exact hclaimed
    · exact (claimed_goto_le_succ hthread _).trans (hroom (Nat.lt_of_not_le hfull))
  · cases haccess
    exact (claimed_build hthread rfl _ _).trans hclaimed
  · split_ifs at haccess
    cases haccess
    exact (claimed_add hthread rfl (addObject_objects ..)).trans hclaimed
  -- a load
  · split_ifs at haccess
    · cases haccess
      exact hclaimed
    · split at haccess <;> cases haccess
      · exact hclaimed
      · exact le_trans (claimed_goto_le hthread le_rfl nofun) hclaimed
  · cases haccess
    exact le_trans (claimed_goto_le hthread le_rfl nofun) hclaimed
  · cases haccess
    exact (claimed_decrypt hthread _ _ _).trans hclaimed
  · cases haccess
    exact claimed_insertLoaded hthread hroom hclaimed _ rfl
  -- a destruction
  · cases haccess
    exact (claimed_remove hthread _).trans hclaimed
  · cases haccess
    refine le_trans (claimed_goto_le hthread ?_ nofun) hclaimed
    rw [unpersistObject_objects]
  -- a sweep
  · cases haccess
    exact le_trans (claimed_goto_le hthread le_rfl nofun) hclaimed
  · cases haccess
    exact (claimed_visit hthread _ _ _ _).trans hclaimed
  · cases haccess
    exact le_trans (claimed_goto_le hthread le_rfl nofun) hclaimed
  · cases haccess
    exact le_trans (claimed_goto_le hthread le_rfl nofun) hclaimed
  · split_ifs at haccess
    cases haccess
    refine le_trans (claimed_goto_le hthread ?_ nofun) hclaimed
    rw [persistObject_objects]
  · cases haccess

end Accesses

/-! ### The limit -/

/-- From every store within the limit, in every run in which a check that passes and an insertion by
a load leave room for the calls under way, the number of objects stays within the limit. -/
theorem objects_within_limit (crates : Crates) (codec : ObjectCodec) {store : ObjectStore}
    (hstart : store.objects.refs.size ≤ maxObjects) {threads : Nat} {labels : List (Nat × Action)}
    {s : State} (hroom : StepsMeet (step crates codec) LeavesRoom (.start store threads) labels)
    (hrun : runSteps (step crates codec) (.start store threads) labels = some s) :
    s.store.objects.refs.size ≤ maxObjects := by
  have hclaimed : (start store threads).claimed ≤ maxObjects := by
    have hidle : (List.replicate threads Pc.idle).countP Pc.adds = 0 := by
      simp [List.countP_replicate, Pc.adds]
    simpa [claimed, start, hidle] using hstart
  have hstep : ∀ s label t, claimed s ≤ maxObjects → LeavesRoom s label →
      step crates codec s label = some t → t.claimed ≤ maxObjects := by
    intro s label t hs hlabel hstep
    obtain ⟨pc, hthread, haccess⟩ := Option.bind_eq_some_iff.mp hstep
    exact claimed_access hthread hlabel hs haccess
  exact le_trans (Nat.le_add_right _ _) (runSteps_invariant hstep labels _ s hclaimed hroom hrun)

/-- Both calls pass their check before either inserts its object. -/
def overlappingInserts (first second : StoredObject) : List (Nat × Action) :=
  [(0, .insertObject first), (1, .insertObject second), (0, .add unusedDraw), (1, .add unusedDraw)]

/-- Two overlapping calls on an empty store stay within the limit. -/
theorem overlappingInserts_within_limit : ∃ s,
    runSteps (step pinAnswers.crates unusedCodec) (.start (.new ⟨[]⟩ false ∅) 2)
      (overlappingInserts (.new 0 7 4) (.new 0 8 4)) = some s ∧
      s.store.objects.refs.size ≤ maxObjects := by
  have hrun : runSteps (step pinAnswers.crates unusedCodec) (.start (.new ⟨[]⟩ false ∅) 2)
      (overlappingInserts (.new 0 7 4) (.new 0 8 4)) = some _ := rfl
  have hroom : StepsMeet (step pinAnswers.crates unusedCodec) LeavesRoom
      (.start (.new ⟨[]⟩ false ∅) 2) (overlappingInserts (.new 0 7 4) (.new 0 8 4)) :=
    ⟨fun _ ↦ by decide, fun _ ↦ by decide, trivial, trivial, trivial⟩
  exact ⟨_, hrun, objects_within_limit _ _ (by decide) hroom hrun⟩

section Exceeded

variable {obj : StoredObject} {objects : SharedMap Nat StoredObject}

/-- A map of `count` objects. -/
def filled (obj : StoredObject) : Nat → SharedMap Nat StoredObject
  | 0 => .empty
  | count + 1 => (filled obj count).insert count obj

theorem mem_insert_refs {handle other : Nat} :
    other ∈ (objects.insert handle obj).refs ↔ handle = other ∨ other ∈ objects.refs := by
  exact ExtTreeMap.mem_insert.trans (or_congr_left Std.LawfulEqCmp.compare_eq_iff_eq)

theorem size_insert_refs {handle : Nat} (hfree : handle ∉ objects.refs) (obj : StoredObject) :
    (objects.insert handle obj).refs.size = objects.refs.size + 1 :=
  ExtTreeMap.size_insert.trans (if_neg (mt ExtTreeMap.contains_iff_mem.mp hfree))

theorem lt_of_mem_filled : ∀ {count handle : Nat},
    handle ∈ (filled obj count).refs → handle < count := by
  intro count
  induction count with
  | zero => intro handle hmem; simp [filled, SharedMap.empty] at hmem
  | succ count ih =>
    intro handle hmem
    rcases mem_insert_refs.mp hmem with rfl | hmem
    · exact Nat.lt_succ_self _
    · exact Nat.lt_succ_of_lt (ih hmem)

theorem size_filled (obj : StoredObject) (count : Nat) : (filled obj count).refs.size = count := by
  induction count with
  | zero => rfl
  | succ count ih =>
    rw [filled, size_insert_refs (fun hmem ↦ Nat.lt_irrefl _ (lt_of_mem_filled hmem)), ih]

variable {crates : Crates} {codec : ObjectCodec} {store : ObjectStore}

/-- With one place left, both calls pass the check. -/
theorem overlappingInserts_exceed (first second : StoredObject)
    (hsize : store.objects.refs.size + 1 = maxObjects) (hfirst : first.handle ∉ store.objects.refs)
    (hsecond : second.handle ∉ store.objects.refs) (hne : first.handle ≠ second.handle)
    (hsession : first.tokenObject = false) (hsession' : second.tokenObject = false) :
    ∃ s, runSteps (step crates codec) (.start store 2) (overlappingInserts first second) = some s ∧
      s.store.objects.refs.size = maxObjects + 1 := by
  have hroom : ¬maxObjects ≤ store.objects.refs.size := by omega
  have hrun : runSteps (step crates codec) (.start store 2) (overlappingInserts first second) =
      some ⟨(store.addObject crates codec unusedDraw first.handle first).addObject crates codec
        unusedDraw second.handle second, [.idle, .idle], []⟩ := by
    simp [runSteps, step, access, start, goto, mayPersist, overlappingInserts,
      hroom, hsession, hsession']
  refine ⟨_, hrun, ?_⟩
  have hfree : second.handle ∉ (store.objects.insert first.handle first).refs := fun hmem ↦
    (mem_insert_refs.mp hmem).elim hne hsecond
  rw [addObject_objects, addObject_objects, size_insert_refs hfree,
    size_insert_refs hfirst, hsize]

/-- A load does not ask how many objects there are. -/
theorem load_exceeds {key : FixedBytes 32} {storeKey : Nat} {record : Bytes}
    (hsize : store.objects.refs.size = maxObjects) (hpersistent : store.persistent = true)
    (hkey : store.persistKey = some key)
    (hrecords : store.records = (∅ : ExtTreeMap Nat Bytes).insert storeKey record)
    (hrecord : RecordOf crates codec key record obj)
    (hvalid : validateDeserializedObject obj = true)
    (hfree : obj.handle ∉ store.objects.refs) :
    ∃ s, runSteps (step crates codec) (.start store 1)
        [(0, .load), (0, .decrypt), (0, .insertLoaded), (0, .decrypt)] = some s ∧
      s.store.objects.refs.size = maxObjects + 1 := by
  obtain ⟨text, hopen, hobj⟩ := hrecord
  have hkeys : store.records.keys = [storeKey] := by
    rw [hrecords]
    rfl
  have hget : store.records[storeKey]? = some record := by simp [hrecords]
  have hrun : runSteps (step crates codec) (.start store 1)
      [(0, .load), (0, .decrypt), (0, .insertLoaded), (0, .decrypt)] =
        some ⟨store.loadObject storeKey obj, [.idle], []⟩ := by
    simp [runSteps, step, access, start, goto, keyFree, Pc.loads, decrypt,
      hpersistent, hkey, hkeys, hget, hopen, hobj, hvalid]
  refine ⟨_, hrun, ?_⟩
  exact (size_insert_refs hfree obj).trans (by rw [hsize])

end Exceeded

/-- Two overlapping insertions with one place left, and a load into a full memory: the limit is
exceeded. -/
theorem limit_exceeded :
    (∃ store s, store.objects.refs.size ≤ maxObjects ∧
      runSteps (step pinAnswers.crates .enumerated) (.start store 2)
        (overlappingInserts (.new 0 20000 4) (.new 0 20001 4)) = some s ∧
      maxObjects < s.store.objects.refs.size) ∧
    ∃ store s, store.objects.refs.size ≤ maxObjects ∧
      runSteps (step pinAnswers.crates .enumerated) (.start store 1)
        [(0, .load), (0, .decrypt), (0, .insertLoaded), (0, .decrypt)] = some s ∧
      maxObjects < s.store.objects.refs.size := by
  have hfree : ∀ {count handle : Nat}, count ≤ handle →
      handle ∉ (filled (.new 0 1 4) count).refs := fun hle hmem ↦
    absurd (lt_of_mem_filled hmem) (Nat.not_lt.mpr hle)
  constructor
  · let store : ObjectStore := { new ⟨[]⟩ false ∅ with
      objects := filled (.new 0 1 4) 9999 }
    have hsize : store.objects.refs.size + 1 = maxObjects := by
      rw [size_filled]
      rfl
    obtain ⟨s, hrun, hover⟩ := overlappingInserts_exceed (.new 0 20000 4) (.new 0 20001 4) hsize
      (hfree (by decide)) (hfree (by decide)) (by decide) rfl rfl
    exact ⟨store, s, by omega, hrun, by omega⟩
  · let obj : StoredObject := { StoredObject.new 0 20000 4 with tokenObject := true }
    obtain ⟨record, -, hrecord⟩ := exists_sealRecord zeroKey nonceFours obj
    let store : ObjectStore := { new ⟨[]⟩ true (.insert ∅ 0 record) with
      objects := filled (.new 0 1 4) 10000
      persistKey := some zeroKey }
    have hsize : store.objects.refs.size = maxObjects := size_filled _ _
    obtain ⟨s, hrun, hover⟩ := load_exceeds hsize rfl rfl rfl hrecord (by decide)
      (hfree (by decide))
    exact ⟨store, s, by omega, hrun, by omega⟩

end CratonHsm.Store.Interleaving
