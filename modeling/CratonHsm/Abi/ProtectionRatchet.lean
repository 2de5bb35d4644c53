import CratonHsm.Abi.CallEffects
import CratonHsm.Library.StepSystem

/-!
# Protection only ratchets up

An object that is sensitive and not extractable (`Protected`) stays so wherever it goes. It goes
from place to place as a run goes on (`Continues`): a cell stays the cell it is while the process
runs, a copy comes from the cell that was copied, a record stays the record it is until it is
written again, also across restarts, and a login fills a new cell from it. A token object has a
record from the moment it is made (`Hsm.Saved`). `Follows` is any chain of such moves along a run.

`protection_ratchets` says that protection is kept along every chain, that no chain is missed
(`Accounted`: after every step each cell and each record continues one before it, is the record of a
cell, or is new), and that a key which `C_DeriveKey` or `C_UnwrapKey` makes from a sensitive key is
protected (`Inherits`). No run of calls changes the `fixedPart` of an object (`fixedParts_kept`).

A record is followed under the key that seals it, which is the key it is loaded under: AES-GCM opens
it under no other.
-/

set_option autoImplicit false

namespace CratonHsm

open Crypto Crypto.Encrypt Library Session Store
open Std (ExtTreeMap)
open ObjectStore

/-! ### Templates -/

/-- Sensitive and not extractable. -/
def Protected (obj : StoredObject) : Prop := obj.sensitive = true ∧ obj.extractable = false

instance (obj : StoredObject) : Decidable (Protected obj) :=
  inferInstanceAs (Decidable (_ ∧ _))

section Templates

variable {obj : StoredObject}

/-- A flag other than the two that protect. -/
theorem Protected.setFlag (h : Protected obj) {attrType : Nat}
    (hsensitive : attrType ≠ ckaSensitive) (hextractable : attrType ≠ ckaExtractable) (bit : Bool) :
    Protected (setFlag obj attrType bit) := by
  have hs : AccessFlag.sensitive.of (CratonHsm.setFlag obj attrType bit) = obj.sensitive :=
    (AccessFlag.of_setFlag .sensitive).trans (if_neg hsensitive)
  have he : AccessFlag.extractable.of (CratonHsm.setFlag obj attrType bit) = obj.extractable :=
    (AccessFlag.of_setFlag .extractable).trans (if_neg hextractable)
  exact ⟨hs.trans h.1, he.trans h.2⟩

/-- The request that a sensitive object refuses is the one that would expose it. -/
theorem Protected.sensitive_of_not_refused (h : Protected obj) {bit : Bool}
    (hbit : (obj.sensitive && !bit) = false) : Protected { obj with sensitive := bit } := by
  refine ⟨?_, h.2⟩
  simpa [h.1] using hbit

theorem Protected.extractable_of_not_refused (h : Protected obj) {bit : Bool}
    (hbit : (!obj.extractable && bit) = false) : Protected { obj with extractable := bit } := by
  refine ⟨h.1, ?_⟩
  simpa [h.2] using hbit

theorem copyAttribute_protected (h : Protected obj) (attrType : Nat) (value : Bytes) :
    Answers Protected (copyAttribute obj attrType value) :=
  copyAttribute_answers obj attrType value (fun _ ↦ h)
    (fun _ hbit ↦ h.sensitive_of_not_refused hbit)
    (fun _ hbit ↦ h.extractable_of_not_refused hbit) (fun _ ↦ h) (fun _ ↦ h)
    (fun _ hs he ↦ h.setFlag hs he _) fun _ ↦ h

/-- Whatever the template of a copy says, and however often. -/
theorem copyTemplate_protected {copy : StoredObject} {template : Template} (h : Protected obj)
    (hcopy : copyTemplate obj template = .ok copy) : Protected copy :=
  (answers_foldlM (P := fun (_ : Unit) obj ↦ Protected obj) (fun shadow _ ↦ shadow)
    (fun _ _ entry hobj ↦ copyAttribute_protected hobj entry.1 entry.2) _ () h).of_eq_ok hcopy

theorem inheritAttribute_protected (flags : List Nat) (h : Protected obj) (attrType : Nat)
    (value : Bytes) :
    Answers Protected (inheritAttribute flags true obj attrType value) := by
  refine inheritAttribute_answers flags true obj attrType value (fun _ hbit ↦ ?_)
    (fun _ hbit ↦ h.extractable_of_not_refused hbit) fun hs he ↦ ?_
  · exact ⟨by simpa using hbit, h.2⟩
  · exact overrideAttribute_answers flags false obj attrType value (fun _ ↦ h) (fun _ ↦ h)
      (fun _ ↦ h) (fun _ ↦ h.setFlag hs he _) fun _ ↦ ⟨h, h⟩

/-- Whatever the template of a key made from a sensitive key says. -/
theorem inheritTemplate_protected {flags : List Nat} {made : StoredObject} {template : Template}
    (h : Protected obj) (hmade : inheritTemplate flags true obj template = .ok made) :
    Protected made :=
  (answers_foldlM (P := fun (_ : Unit) obj ↦ Protected obj) (fun shadow _ ↦ shadow)
    (fun _ _ entry hobj ↦ inheritAttribute_protected flags hobj entry.1 entry.2) _ ()
      h).of_eq_ok hmade

/-- All of an object but its label, its identifier and the public key kept with an ML-DSA key. -/
def fixedPart (obj : StoredObject) : StoredObject :=
  { obj with
    label := []
    id := []
    extraAttributes :=
      if obj.keyType = some ckkMlDsa then obj.extraAttributes.erase ckaEcPoint
      else obj.extraAttributes }

/-- `C_SetAttributeValue` does not reach the rest of the object. -/
theorem setAttributes_fixedPart (obj : StoredObject) (template : Template) :
    fixedPart (setAttributes obj template).2 = fixedPart obj := by
  fun_induction setAttributes obj template with
  | case1 => rfl
  | case2 obj value template ih => exact ih
  | case3 obj value template _ ih => exact ih
  | case4 obj attrType value template _ _ htype ih =>
    have herase : (obj.extraAttributes.insert attrType value).erase ckaEcPoint =
        obj.extraAttributes.erase ckaEcPoint := by
      ext k v
      grind [getElem?_insert_eq_ite, getElem?_erase_eq_ite]
    rw [ih]
    simp only [fixedPart, if_pos htype.2, herase]
  | case5 => rfl

theorem Protected.of_fixedPart {obj' : StoredObject} (h : Protected obj)
    (hfixed : fixedPart obj' = fixedPart obj) : Protected obj' := by
  have hfixed' : Protected (fixedPart obj) := h
  rwa [← hfixed] at hfixed'

end Templates

/-! ### Where an object goes -/

/-- The object in a place is protected. -/
def Hsm.ProtectedAt (platform : Platform) (s : Hsm) (place : Place) : Prop :=
  ∃ obj, s.objectStore.Holds platform.crates platform.codec place obj ∧ Protected obj

/-- A record of the object in a cell, sealed under the key of the user who is logged in. -/
def Hsm.Saved (platform : Platform) (s : Hsm) (ref storeKey : Nat) (key : FixedBytes 32) : Prop :=
  s.objectStore.persistKey = some key ∧
    ∃ obj, s.objectStore.Holds platform.crates platform.codec (.cell ref) obj ∧
      s.objectStore.Holds platform.crates platform.codec (.record storeKey key) obj

/-- Where a step takes the object in a place. -/
inductive Continues (platform : Platform) (config : HsmConfig) (s : Hsm) :
    LibraryStep → Place → Place → Prop
  | stays {env : CallEnv} {call : Call} {ref : Nat}
    (hcell : ref < s.objectStore.objects.cells.length) :
    Continues platform config s (.call env call) (.cell ref) (.cell ref)
  | copied {env : CallEnv} {session object handle ref copy : Nat} {template : Template}
    (hanswer : ((Call.copyObject session object template).entry platform env s).1 =
      .ok (.handle handle))
    (href : s.objectStore.objects.refs[object]? = some ref)
    (hcopy : (s.step platform config
      (.call env (.copyObject session object template))).objectStore.objects.refs[handle]? =
        some copy) :
    Continues platform config s (.call env (.copyObject session object template)) (.cell ref)
      (.cell copy)
  | recordStays {step : LibraryStep} {storeKey : Nat} {record : Bytes} (key : FixedBytes 32)
    (hbefore : s.objectStore.records[storeKey]? = some record)
    (hafter : (s.step platform config step).objectStore.records[storeKey]? = some record) :
    Continues platform config s step (.record storeKey key) (.record storeKey key)
  | loaded {env : CallEnv} {session userType storeKey ref : Nat} {pin : Bytes} {key : FixedBytes 32}
    {obj : StoredObject}
    (hkey : (s.step platform config
      (.call env (.slotCall (.login session userType pin)))).objectStore.persistKey = some key)
    (hrecord : s.objectStore.Holds platform.crates platform.codec (.record storeKey key) obj)
    (hnew : s.objectStore.objects.cells.length ≤ ref)
    (hcell : (s.step platform config (.call env (.slotCall (.login session userType
      pin)))).objectStore.Holds platform.crates platform.codec (.cell ref) obj) :
    Continues platform config s (.call env (.slotCall (.login session userType pin)))
      (.record storeKey key) (.cell ref)

/-- A chain of places along a run: what is obtained from the object in the first place. -/
inductive Follows (platform : Platform) (config : HsmConfig) :
    Hsm → List LibraryStep → Place → Place → Prop
  | here (s : Hsm) (place : Place) : Follows platform config s [] place place
  | saved {s : Hsm} {steps : List LibraryStep} {ref storeKey : Nat} {key : FixedBytes 32}
    {last : Place} (h : s.Saved platform ref storeKey key)
    (hrest : Follows platform config s steps (.record storeKey key) last) :
    Follows platform config s steps (.cell ref) last
  | step {s : Hsm} {step : LibraryStep} {steps : List LibraryStep} {place next last : Place}
    (h : Continues platform config s step place next)
    (hrest : Follows platform config (s.step platform config step) steps next last) :
    Follows platform config s (step :: steps) place last

/-- A step that can make an object out of nothing: a call that makes objects and is no copy. -/
def LibraryStep.makesNew : LibraryStep → Bool
  | .call _ (.copyObject ..) => false
  | .call _ made => made.makesObjects
  | _ => false

/-- After the step, every cell continues a place before it or is a new object of the step, and every
record continues a record before it or is the record of a cell. -/
structure Accounted (platform : Platform) (config : HsmConfig) (s : Hsm) (step : LibraryStep) :
    Prop where
  cells : ∀ ref < (s.step platform config step).objectStore.objects.cells.length,
    (∃ place, Continues platform config s step place (.cell ref)) ∨
      step.makesNew = true ∧ s.objectStore.objects.cells.length ≤ ref
  records : ∀ storeKey ∈ (s.step platform config step).objectStore.records,
    (∀ key, Continues platform config s step (.record storeKey key) (.record storeKey key)) ∨
      ∃ ref key, (s.step platform config step).Saved platform ref storeKey key

/-- The object that a key is derived from, or unwrapped with. -/
def Call.sourceKey? : Call → Option Nat
  | .unwrapKey _ _ unwrappingKey _ _ => some unwrappingKey
  | .deriveKey _ _ _ baseKey _ => some baseKey
  | _ => none

/-- A key that the step derives or unwraps from a sensitive key is protected. -/
def Inherits (platform : Platform) (config : HsmConfig) (s : Hsm) (step : LibraryStep) : Prop :=
  ∀ (env : CallEnv) (call : Call) (source handle : Nat) (base : StoredObject),
    step = .call env call → call.sourceKey? = some source →
    s.objectStore.objects.get? source = some base → base.sensitive = true →
    (call.entry platform env s).1 = .ok (.handle handle) →
    ∃ obj, (s.step platform config step).objectStore.objects.get? handle = some obj ∧ Protected obj

/-! ### One step -/

section Step

variable {platform : Platform} {config : HsmConfig} {env : CallEnv} {s : Hsm} {call : Call}
  {store store' : ObjectStore} {ref : Nat} {P : Nat → StoredObject → Prop}

/-- No call takes a cell away, or changes the fixed part of the object in it. -/
theorem StoreChange.cell_fixedPart (h : StoreChange platform env store call store')
    {obj : StoredObject} (hcell : store.objects.deref ref = some obj) :
    ∃ obj', store'.objects.deref ref = some obj' ∧ fixedPart obj' = fixedPart obj := by
  cases h with
  | same => exact ⟨obj, hcell, rfl⟩
  | created _ handleAlloc made =>
    exact ⟨obj, addAll_deref hcell, rfl⟩
  | @changed session object changedRef template before href hbefore =>
    rw [SharedMap.deref_modify, hcell]
    by_cases hsame : changedRef = ref
    · subst hsame
      obtain ⟨ref', href', hderef⟩ := store.objects.get?_eq_some_iff.mp hbefore
      obtain rfl := Option.mem_unique href href'
      obtain rfl := Option.mem_unique hcell hderef
      exact ⟨_, congrArg some (if_pos rfl), setAttributes_fixedPart _ template⟩
    · exact ⟨obj, congrArg some (if_neg hsame), rfl⟩
  | @destroyed session object =>
    obtain ⟨records, keys, heq⟩ :=
      { store with objects := store.objects.erase object }.unpersistObject_frame env.first object
    rw [heq]
    exact ⟨obj, hcell, rfl⟩
  | cleared => exact ⟨obj, hcell, rfl⟩
  | loaded key =>
    have hkey : (store.setPersistKey key).persistKey = some key := rfl
    exact ⟨obj, (loadFromStore_spec hkey).2.2.1 ref obj hcell, rfl⟩
  | locked => exact ⟨obj, hcell, rfl⟩

/-- A cell that is new after a call holds an object that the call makes, or what a record opens to
under the key of the login. -/
theorem StoreChange.cell_cases (h : StoreChange platform env store call store') {obj : StoredObject}
    (hcell : store'.objects.deref ref = some obj) :
    ref < store.objects.cells.length ∨ store.objects.cells.length ≤ ref ∧
      (call.makesObjects = true ∨ ∃ session userType pin storeKey key,
        call = .slotCall (.login session userType pin) ∧ store'.persistKey = some key ∧
        store.Holds platform.crates platform.codec (.record storeKey key) obj) := by
  cases h with
  | same => exact Or.inl (store.objects.lt_of_deref hcell)
  | created hmakes handleAlloc made =>
    rcases addAll_cells hcell with hold | ⟨hle, -⟩
    · exact Or.inl (store.objects.lt_of_deref hold)
    · exact Or.inr ⟨hle, Or.inl hmakes⟩
  | changed =>
    have hlt := SharedMap.lt_of_deref _ hcell
    exact Or.inl (by simpa [SharedMap.modify] using hlt)
  | @destroyed session object =>
    obtain ⟨records, keys, heq⟩ :=
      { store with objects := store.objects.erase object }.unpersistObject_frame env.first object
    rw [heq] at hcell
    exact Or.inl (store.objects.lt_of_deref hcell)
  | cleared => exact Or.inl (store.objects.lt_of_deref hcell)
  | @loaded session userType pin key =>
    have hkey : (store.setPersistKey key).persistKey = some key := rfl
    obtain ⟨-, hafter, -, hcells⟩ := loadFromStore_spec hkey
    rcases hcells ref obj hcell with hold | ⟨hle, storeKey, hrecord⟩
    · exact Or.inl (store.objects.lt_of_deref hold)
    · exact Or.inr ⟨hle, Or.inr ⟨session, userType, pin, storeKey, key, rfl, hafter, hrecord⟩⟩
  | locked => exact Or.inl (store.objects.lt_of_deref hcell)

/-- A record that is there after a call was there before it, or is that of a cell. -/
theorem StoreChange.record_cases (hinverts : platform.crates.GcmInverts)
    (hcodec : platform.codec.RoundTrips) (h : StoreChange platform env store call store')
    {storeKey : Nat} {record : Bytes} (hrecord : store'.records[storeKey]? = some record) :
    store.records[storeKey]? = some record ∨ ∃ key ref obj, store'.persistKey = some key ∧
      store'.objects.deref ref = some obj ∧
      RecordOf platform.crates platform.codec key record obj := by
  cases h with
  | same => exact Or.inl hrecord
  | created _ handleAlloc made =>
    refine (addAll_records hinverts hcodec hrecord).imp id ?_
    rintro ⟨key, ref, obj, hkey, -, hcell, hof⟩
    exact ⟨key, ref, obj, addAll_persistKey.trans hkey, hcell, hof⟩
  | changed => exact Or.inl hrecord
  | @destroyed session object =>
    have hkept := unpersistObject_records hrecord
    exact Or.inl hkept
  | cleared =>
    have hcleared : (if store.persistent && env.first.writes then ∅ else store.records)[storeKey]? =
        some record := hrecord
    split_ifs at hcleared
    · simp at hcleared
    · exact Or.inl hcleared
  | @loaded session userType pin key =>
    have hkey : (store.setPersistKey key).persistKey = some key := rfl
    obtain ⟨hrecords, -⟩ := loadFromStore_spec hkey
    rw [hrecords] at hrecord
    exact Or.inl hrecord
  | locked => exact Or.inl hrecord

/-- A call that makes an object binds a new cell to the handle it answers, or changes no cell. -/
theorem Makes.objects {draw : StoreDraw} {answer : Except CkRv Reply} {s' : Hsm}
    (h : Makes platform draw P s answer s') :
    (∃ e, answer = .error e) ∧ s'.objectStore.objects = s.objectStore.objects ∨
      ∃ obj, answer = .ok (.handle obj.handle) ∧ P obj.handle obj ∧
        s'.objectStore.objects = s.objectStore.objects.insert obj.handle obj := by
  cases h with
  | nothing h =>
    obtain ⟨handleAlloc, hstore⟩ := h
    refine Or.inl ⟨⟨_, rfl⟩, ?_⟩
    rw [hstore]
    rfl
  | one hobj hhandle h =>
    obtain ⟨handleAlloc, hstore⟩ := h
    refine Or.inr ⟨_, rfl, hhandle ▸ hobj, ?_⟩
    rw [hstore]
    exact addObject_objects ..

/-- The object under the handle that a call answers. -/
theorem Makes.get? {draw : StoreDraw} {handle : Nat} {s' : Hsm}
    (h : Makes platform draw P s (.ok (.handle handle)) s') :
    ∃ obj, s'.objectStore.objects.get? handle = some obj ∧ P handle obj := by
  obtain ⟨⟨e, herror⟩, -⟩ | ⟨obj, hanswer, hobj, hobjects⟩ := h.objects
  · cases herror
  · injection hanswer with hreply
    injection hreply with hhandle
    subst hhandle
    rw [hobjects, SharedMap.get?_insert, if_pos rfl]
    exact ⟨obj, rfl, hobj⟩

/-- A copy is in a new cell under the handle the call answers. -/
theorem copyObject_objects (platform : Platform) (config : HsmConfig) (env : CallEnv) (s : Hsm)
    (session object : Nat) (template : Template) :
    ((∃ e, ((Call.copyObject session object template).entry platform env s).1 = .error e) ∧
      (s.step platform config (.call env (.copyObject session object
        template))).objectStore.objects = s.objectStore.objects) ∨
    ∃ source copy, s.objectStore.objects.get? object = some source ∧
      copyTemplate { source with handle := copy.handle } template = .ok copy ∧
      ((Call.copyObject session object template).entry platform env s).1 =
        .ok (.handle copy.handle) ∧
      (s.step platform config (.call env (.copyObject session object
        template))).objectStore.objects = s.objectStore.objects.insert copy.handle copy := by
  have hensures : ((Call.copyObject session object template).entry platform env).Ensures s _ :=
    cCopyObject_makes object template
  refine (Makes.objects hensures).imp id ?_
  rintro ⟨copy, hanswer, ⟨source, hsource, hcopy⟩, hobjects⟩
  exact ⟨source, copy, hsource, hcopy, hanswer, hobjects⟩

/-- Protection goes with the object. -/
theorem Continues.keeps {step : LibraryStep} {place next : Place}
    (h : Continues platform config s step place next) (hplace : s.ProtectedAt platform place) :
    (s.step platform config step).ProtectedAt platform next := by
  obtain ⟨obj, hheld, hobj⟩ := hplace
  cases h with
  | @stays env call ref hcell =>
    obtain ⟨obj', hcell, hfixed⟩ := call.entry_store.cell_fixedPart hheld
    exact ⟨obj', hcell, hobj.of_fixedPart hfixed⟩
  | @copied env session object handle ref copy template hanswer href hcopy =>
    obtain ⟨⟨e, herror⟩, -⟩ | ⟨source, made, hsource, hmade, hhandle, hobjects⟩ :=
      copyObject_objects platform config env s session object template
    · cases hanswer.symm.trans herror
    · have hfound : s.objectStore.objects.get? object = some obj :=
        (SharedMap.get?_eq_some_iff _).mpr ⟨ref, href, hheld⟩
      obtain rfl := Option.mem_unique hsource hfound
      injection hanswer.symm.trans hhandle with hreply
      injection hreply with hsame
      rw [hobjects, hsame, SharedMap.refs_insert_self] at hcopy
      obtain rfl := Option.some.inj hcopy
      have hrenamed : Protected { source with handle := made.handle } := hobj
      refine ⟨made, ?_, copyTemplate_protected hrenamed hmade⟩
      change SharedMap.deref _ _ = _
      rw [hobjects]
      exact List.getElem?_concat_length
  | recordStays key hbefore hafter =>
    obtain ⟨record, hrecord, hof⟩ := hheld
    obtain rfl := Option.mem_unique hbefore hrecord
    exact ⟨obj, ⟨_, hafter, hof⟩, hobj⟩
  | loaded hkey hrecord hnew hcell =>
    obtain rfl := hheld.unique hrecord
    exact ⟨obj, hcell, hobj⟩

/-- A copy continues the object it is made from. -/
theorem copyObject_continues {session object : Nat} {template : Template}
    (hnew : s.objectStore.objects.cells.length ≤ ref) (hlt : ref < (s.step platform config
      (.call env (.copyObject session object template))).objectStore.objects.cells.length) :
    ∃ place, Continues platform config s (.call env (.copyObject session object template)) place
      (.cell ref) := by
  obtain ⟨-, hobjects⟩ | ⟨source, copy, hsource, -, hanswer, hobjects⟩ :=
    copyObject_objects platform config env s session object template
  · rw [hobjects] at hlt
    omega
  · rw [hobjects, SharedMap.length_insert] at hlt
    obtain rfl : ref = s.objectStore.objects.cells.length := by omega
    obtain ⟨sourceRef, hsourceRef, -⟩ := (SharedMap.get?_eq_some_iff _).mp hsource
    refine ⟨.cell sourceRef, .copied hanswer hsourceRef ?_⟩
    rw [hobjects, SharedMap.refs_insert_self]

/-- Every cell after a call has an origin. -/
theorem accounted_cells (env : CallEnv) (call : Call)
    (hlt : ref < (s.step platform config (.call env call)).objectStore.objects.cells.length) :
    (∃ place, Continues platform config s (.call env call) place (.cell ref)) ∨
      (LibraryStep.call env call).makesNew = true ∧ s.objectStore.objects.cells.length ≤ ref := by
  obtain ⟨obj, hcell⟩ : ∃ obj, (s.step platform config
    (.call env call)).objectStore.objects.deref ref = some obj := ⟨_, List.getElem?_eq_getElem hlt⟩
  rcases call.entry_store.cell_cases hcell with hbefore | ⟨hle, hmakes | hlogin⟩
  · exact Or.inl ⟨.cell ref, .stays hbefore⟩
  · cases call with
    | copyObject session object template => exact Or.inl (copyObject_continues hle hlt)
    | _ => exact Or.inr ⟨hmakes, hle⟩
  · obtain ⟨session, userType, pin, storeKey, key, rfl, hkey, hrecord⟩ := hlogin
    exact Or.inl ⟨.record storeKey key, .loaded hkey hrecord hle hcell⟩

/-- No object comes from nowhere. -/
theorem accounted (hinverts : platform.crates.GcmInverts) (hcodec : platform.codec.RoundTrips)
    (s : Hsm) (step : LibraryStep) : Accounted platform config s step := by
  have hstays : ∀ {storeKey : Nat} {record : Bytes}, s.objectStore.records[storeKey]? =
      some record → (s.step platform config step).objectStore.records[storeKey]? = some record →
      ∀ key, Continues platform config s step (.record storeKey key) (.record storeKey key) :=
    fun hbefore hafter key ↦ .recordStays key hbefore hafter
  cases step with
  | call env call =>
    refine ⟨fun ref hlt ↦ accounted_cells env call hlt, fun storeKey hmem ↦ ?_⟩
    have hrecord := ExtTreeMap.getElem?_eq_some_getElem hmem
    rcases call.entry_store.record_cases hinverts hcodec hrecord with
      hbefore | ⟨key, ref, obj, hkey, hcell, hof⟩
    · exact Or.inl (hstays hbefore hrecord)
    · exact Or.inr ⟨ref, key, hkey, obj, hcell, _, hrecord, hof⟩
  -- An initialisation starts with no cell and with the records there are.
  | reinitialize draw =>
    refine ⟨fun ref hlt ↦ absurd hlt (Nat.not_lt_zero ref), fun storeKey hmem ↦ ?_⟩
    have hrecord := ExtTreeMap.getElem?_eq_some_getElem hmem
    exact Or.inl (hstays hrecord hrecord)
  | restart draw =>
    refine ⟨fun ref hlt ↦ absurd hlt (Nat.not_lt_zero ref), fun storeKey hmem ↦ ?_⟩
    have hrecord := ExtTreeMap.getElem?_eq_some_getElem hmem
    exact Or.inl (hstays hrecord hrecord)

/-- Both calls that make a key from another take the sensitivity of the other over. -/
theorem inherits (s : Hsm) (step : LibraryStep) : Inherits platform config s step := by
  rintro env call source handle base rfl hsource hbase hsensitive hanswer
  have hkey : ∀ {flags : List Nat} {template : Template},
      Makes platform env.first (MadeFrom s source flags env.now template) s
        (call.entry platform env s).1 (s.step platform config (.call env call)) →
      ∃ obj, (s.step platform config (.call env call)).objectStore.objects.get? handle = some obj ∧
        Protected obj := by
    intro flags template hmakes
    rw [hanswer] at hmakes
    obtain ⟨obj, hobj, bytes, found, hfound, hmade⟩ := hmakes.get?
    obtain rfl := Option.mem_unique hbase hfound
    rw [hsensitive] at hmade
    exact ⟨obj, hobj, inheritTemplate_protected ⟨rfl, rfl⟩ hmade⟩
  cases call with
  | unwrapKey session mechanism unwrappingKey wrapped template =>
    obtain rfl := Option.some.inj hsource
    exact hkey (cUnwrapKey_makes mechanism unwrappingKey wrapped template)
  | deriveKey session mechanism mechanismParam baseKey template =>
    obtain rfl := Option.some.inj hsource
    exact hkey (cDeriveKey_makes mechanism mechanismParam baseKey template)
  | _ => cases hsource

end Step

/-! ### Runs -/

/-- Protection goes with the object along a run. -/
theorem Follows.keeps {platform : Platform} {config : HsmConfig} {s : Hsm}
    {steps : List LibraryStep} {place last : Place} (h : Follows platform config s steps place last)
    (hplace : s.ProtectedAt platform place) :
    (s.run platform config steps).ProtectedAt platform last := by
  induction h with
  | here => exact hplace
  | saved hsaved hrest ih =>
    obtain ⟨obj, hheld, hobj⟩ := hplace
    obtain ⟨-, obj', hcell, hrecord⟩ := hsaved
    obtain rfl := hheld.unique hcell
    exact ih ⟨obj, hrecord, hobj⟩
  | step hstep hrest ih => exact ih (hstep.keeps hplace)

/-- Protection only ratchets up, and every object of a run has been followed. -/
theorem protection_ratchets {platform : Platform} (hinverts : platform.crates.GcmInverts)
    (hcodec : platform.codec.RoundTrips) (config : HsmConfig) (s : Hsm) (steps : List LibraryStep) :
    (∀ place last, Follows platform config s steps place last → s.ProtectedAt platform place →
      (s.run platform config steps).ProtectedAt platform last) ∧
    FoldMeets (Hsm.step platform config)
      (fun s step ↦ Accounted platform config s step ∧ Inherits platform config s step) s steps :=
  ⟨fun _ _ hfollows hplace ↦ hfollows.keeps hplace,
    .of_always fun step _ s ↦ ⟨accounted hinverts hcodec s step, inherits s step⟩⟩

/-- No run of calls takes a cell away or changes the fixed part of its object. -/
theorem fixedParts_kept (platform : Platform) (config : HsmConfig) (s : Hsm)
    (calls : List (CallEnv × Call)) :
    s.objectStore.objects.cells.map fixedPart <+: (s.run platform config
      (calls.map fun call ↦ .call call.1 call.2)).objectStore.objects.cells.map fixedPart := by
  induction calls generalizing s with
  | nil => exact List.prefix_rfl
  | cons call calls ih =>
    refine List.IsPrefix.trans (List.prefix_iff_getElem?.mpr fun ref hlt ↦ ?_) (ih _)
    rw [List.length_map] at hlt
    have hchange : StoreChange platform call.1 s.objectStore call.2
      (call.2.entry platform call.1 s).2.objectStore := call.2.entry_store
    obtain ⟨obj, hcell, hfixed⟩ := hchange.cell_fixedPart (List.getElem?_eq_getElem hlt)
    rw [List.getElem_map, ← hfixed, List.getElem?_map]
    exact congrArg (Option.map fixedPart) hcell

/-! ### A copied key -/

/-- The signing key of a logged-in user is copied with a template that asks twice for protection,
the copy gets a label, and the user logs out. -/
def copyAndLogout : List LibraryStep :=
  [.call (callEnvAt 6) (.copyObject firstSession firstObject
      [(ckaExtractable, [0]), (ckaSensitive, [1]), (ckaExtractable, [0])]),
    .call (callEnvAt 7) (.setAttributeValue firstSession 2018634633410 [(ckaLabel, [7])]),
    .call (callEnvAt 8) (.slotCall (.logout firstSession))]

/-- The recorded answers with a text for every object. -/
noncomputable def Platform.enumerated : Platform :=
  { Platform.recorded [] [] with codec := .enumerated }

/-- The copy is protected as the key is. -/
theorem copied_key_protected :
    Follows .enumerated (.singleSlot false) signerLibrary copyAndLogout (.cell 0) (.cell 1) ∧
      (signerLibrary.run .enumerated (.singleSlot false) copyAndLogout).ProtectedAt .enumerated
        (.cell 1) := by
  have hanswer : ((Call.copyObject firstSession firstObject [(ckaExtractable, [0]),
      (ckaSensitive, [1]), (ckaExtractable, [0])]).entry .enumerated (callEnvAt 6)
        signerLibrary).1 = .ok (.handle 2018634633410) := by decide +kernel
  have hcopied : Continues .enumerated (.singleSlot false) signerLibrary _ (.cell 0) (.cell 1) :=
    .copied hanswer (by decide +kernel) (by decide +kernel)
  have hfollows : Follows .enumerated (.singleSlot false) signerLibrary copyAndLogout (.cell 0)
      (.cell 1) := by
    refine .step hcopied (.step (.stays ?_) (.step (.stays ?_) (.here _ _)))
    · decide +kernel
    · decide +kernel
  have hkey : (signerLibrary.objectStore.objects.deref 0).map (fun obj ↦ decide (Protected obj)) =
      some true := by decide +kernel
  obtain ⟨obj, hobj, hprotected⟩ := Option.map_eq_some_iff.mp hkey
  have hinverts : Platform.enumerated.crates.GcmInverts := pinAnswers.gcmInverts
  obtain ⟨hkeeps, -⟩ := protection_ratchets hinverts ObjectCodec.enumerated_roundTrips
    (.singleSlot false) signerLibrary copyAndLogout
  exact ⟨hfollows, hkeeps _ _ hfollows ⟨obj, hobj, of_decide_eq_true hprotected⟩⟩

end CratonHsm
