import CratonHsm.Abi.ObjectEffects

/-!
# How protected a copy is

`C_CopyObject` copies an object and lets the template override what the source calls modifiable
boolean attributes: a private key can be copied to a public object, and to one that allows more
operations (`private_key_copied_public`). What the copy is like is decided entry by entry
(`copy_follows_template`): every flag has the value of the last entry of the template for it, and
the value of the source if there is none; the lifecycle state and the dates are those of the source.
With a template that is silent about protection, the copy is no less protected than its source.

Scope. `CKA_TRUSTED` and `CKA_WRAP_WITH_TRUSTED` are entries of the map of extra attributes, which a
template may also write; nothing is said here about a template that does. `CKA_COPYABLE` is read
from a field that no call writes.
-/

set_option autoImplicit false

namespace CratonHsm

open Crypto Library Store

/-! ### What protects an object -/

/-- The flags that allow an operation. -/
def usageFlags : List AccessFlag := [.encrypt, .decrypt, .sign, .verify, .wrap, .unwrap, .derive]

/-- The copy is at least as protected as its source. -/
structure NoLessProtected (source copy : StoredObject) : Prop where
  isPrivate : source.isPrivate = true → copy.isPrivate = true
  wrapWithTrusted : extraFlag source ckaWrapWithTrusted = true →
    extraFlag copy ckaWrapWithTrusted = true
  trusted : extraFlag copy ckaTrusted = true → extraFlag source ckaTrusted = true
  uses : ∀ flag ∈ usageFlags, flag.of copy = true → flag.of source = true
  modifiable : copy.modifiable = true → source.modifiable = true
  lifecycleState : copy.lifecycleState = source.lifecycleState
  startDate : copy.startDate = source.startDate
  endDate : copy.endDate = source.endDate

/-- The attributes that decide how protected an object is. -/
def protectionTypes : List Nat :=
  [ckaPrivate, ckaModifiable, ckaTrusted, ckaWrapWithTrusted] ++
    usageFlags.map AccessFlag.attrType

/-- The copy has the flags that the template gives it, and everything else of its source. -/
structure FollowsTemplate (source : StoredObject) (template : Template) (copy : StoredObject) :
    Prop where
  flags : ∀ flag : AccessFlag,
    flag.of copy = templateFlag flag.attrType (flag.of source) template
  trust : ∀ attrType ∈ [ckaTrusted, ckaWrapWithTrusted],
    (∀ entry ∈ template, entry.1 ≠ attrType) → extraFlag copy attrType = extraFlag source attrType
  lifecycleState : copy.lifecycleState = source.lifecycleState
  startDate : copy.startDate = source.startDate
  endDate : copy.endDate = source.endDate

/-- A template that is silent about protection takes none away. -/
theorem FollowsTemplate.noLessProtected {source copy : StoredObject} {template : Template}
    (h : FollowsTemplate source template copy)
    (hsilent : ∀ entry ∈ template, entry.1 ∉ protectionTypes) : NoLessProtected source copy := by
  have hflag : ∀ flag : AccessFlag, flag.attrType ∈ protectionTypes →
      flag.of copy = flag.of source := by
    intro flag hmem
    rw [h.flags flag]
    exact templateValue_of_forall_ne fun entry hentry heq ↦ hsilent entry hentry (heq ▸ hmem)
  have htrust : ∀ attrType ∈ [ckaTrusted, ckaWrapWithTrusted],
      extraFlag copy attrType = extraFlag source attrType := by
    intro attrType hmem
    refine h.trust attrType hmem fun entry hentry heq ↦ hsilent entry hentry (heq ▸ ?_)
    rcases List.mem_pair.mp hmem with rfl | rfl <;> decide
  have hprivate : copy.isPrivate = source.isPrivate := hflag .isPrivate (by decide)
  have hmodifiable : copy.modifiable = source.modifiable := hflag .modifiable (by decide)
  refine ⟨fun hsource ↦ hprivate ▸ hsource, fun hsource ↦ ?_, fun hcopy ↦ ?_,
    fun flag hmem hcopy ↦ ?_, fun hcopy ↦ hmodifiable ▸ hcopy, h.lifecycleState, h.startDate,
    h.endDate⟩
  · rwa [htrust _ (by decide)]
  · rwa [← htrust _ (by decide)]
  · have hmember : flag.attrType ∈ protectionTypes :=
      List.mem_append_right _ (List.mem_map_of_mem hmem)
    rwa [← hflag flag hmember]

/-! ### The template of a copy -/

section Copies

variable {obj : StoredObject} {attrType : Nat} {value : Bytes} {bit : Bool}

/-- The parts of an object that setting a flag leaves alone. -/
theorem setFlag_keeps :
    ((setFlag obj attrType bit).startDate, (setFlag obj attrType bit).endDate) =
      (obj.startDate, obj.endDate) ∧
    (setFlag obj attrType bit).extraAttributes = obj.extraAttributes := by
  constructor <;>
    simp only [setFlag, apply_ite StoredObject.startDate, apply_ite StoredObject.endDate,
      apply_ite StoredObject.extraAttributes, ite_self]

theorem copyTemplate_dates (obj : StoredObject) (template : Template) :
    Answers (fun obj' ↦ (obj'.startDate, obj'.endDate) = (obj.startDate, obj.endDate))
      (copyTemplate obj template) := by
  refine template_keeps (fun obj ↦ (obj.startDate, obj.endDate)) (fun obj attrType value ↦ ?_) obj _
  exact copyAttribute_answers obj attrType value (fun _ ↦ rfl) (fun _ _ ↦ rfl) (fun _ _ ↦ rfl)
    (fun _ ↦ rfl) (fun _ ↦ rfl) (fun _ _ _ ↦ setFlag_keeps.1) fun _ ↦ rfl

/-- An attribute without a field of its own follows the template too. -/
theorem copyTemplate_extra (hkey : attrType ∉ [ckaClass, ckaKeyType, ckaLabel, ckaId])
    (hflag : ∀ flag : AccessFlag, attrType ≠ flag.attrType) (obj : StoredObject)
    (template : Template) :
    Answers (fun obj' ↦ obj'.extraAttributes[attrType]? =
      templateValue attrType some obj.extraAttributes[attrType]? (template.take maxTemplateAttrs))
        (copyTemplate obj template) := by
  refine template_value (fun obj ↦ obj.extraAttributes[attrType]?) attrType some
    (fun obj other value ↦ ?_) obj _
  -- the entries with a field of their own are of another type
  have hother : other ∈ [ckaClass, ckaKeyType, ckaLabel, ckaId] → other ≠ attrType :=
    fun hmem heq ↦ hkey (heq ▸ hmem)
  refine copyAttribute_answers obj other value (fun h ↦ ?_) (fun h _ ↦ ?_) (fun h _ ↦ ?_)
    (fun h ↦ ?_) (fun h ↦ ?_) (fun h _ _ ↦ ?_) fun _ ↦ ?_
  · rw [if_neg (hother (by rcases h with rfl | rfl <;> decide))]
  · rw [if_neg (h ▸ (hflag .sensitive).symm)]
  · rw [if_neg (h ▸ (hflag .extractable).symm)]
  · rw [if_neg (hother (by rw [h]; decide))]
  · rw [if_neg (hother (by rw [h]; decide))]
  · obtain ⟨flag, rfl⟩ := h
    rw [if_neg (hflag flag).symm, setFlag_keeps.2]
  · rw [Std.ExtTreeMap.getElem?_insert]
    simp only [Std.compare_eq_iff_eq]

theorem copyTemplate_follows {copy : StoredObject} {template : Template}
    (h : copyTemplate obj template = .ok copy) :
    FollowsTemplate obj (template.take maxTemplateAttrs) copy := by
  have hdates := (copyTemplate_dates obj template).of_eq_ok h
  refine ⟨fun flag ↦ (copyTemplate_flag flag obj template).of_eq_ok h, fun attrType hmem hnone ↦ ?_,
    congrArg ObjectCore.lifecycleState ((copyTemplate_keeps obj template).of_eq_ok h),
    congrArg Prod.fst hdates, congrArg Prod.snd hdates⟩
  have hkey : attrType ∉ [ckaClass, ckaKeyType, ckaLabel, ckaId] := by
    rcases List.mem_pair.mp hmem with rfl | rfl <;> decide
  have hflag : ∀ flag : AccessFlag, attrType ≠ flag.attrType := by
    rcases List.mem_pair.mp hmem with rfl | rfl <;> intro flag <;> cases flag <;> decide
  have hextra := (copyTemplate_extra hkey hflag obj template).of_eq_ok h
  rw [templateValue_of_forall_ne hnone] at hextra
  rw [extraFlag, extraFlag, hextra]

end Copies

/-! ### The call -/

section Calls

variable {crates : Crates} {codec : ObjectCodec} {env : CallEnv}

/-- An answered `C_CopyObject` names the copy. -/
theorem cCopyObject_copies (s : Hsm) (session object : Nat) (template : Template) :
    (cCopyObject crates codec env session object template).Ensures s fun result s' ↦
      ∀ reply, result = .ok reply → ∃ source copy handle,
        s.objectStore.objects.get? object = some source ∧ source.copyable = true ∧
        copyTemplate { source with handle := handle } template = .ok copy ∧
        reply = .handle copy.handle ∧ s'.objectStore.objects.get? copy.handle = some copy := by
  simp only [cCopyObject, requireRw, requireLoginFor, ensures_getHsm, ensures_getSession,
    ensures_getObject, ensures_nextHandle, Program.ensures_require_iff, Program.ensures_reads_iff,
    reduceCtorEq, false_imp_iff, implies_true, true_and]
  intro _ _ _ _ source hsource _ hcopyable copy hcopy
  refine ensures_insertObject (by simp) ?_
  intro reply hreply
  refine ⟨source, copy, _, hsource, hcopyable, hcopy, (Except.ok.inj hreply).symm, ?_⟩
  change (ObjectStore.addObject _ _ _ _ _ _).objects.get? copy.handle = some copy
  rw [ObjectStore.addObject_objects, SharedMap.get?_insert, if_pos rfl]

/-- The copy that `C_CopyObject` makes follows the entries of the template that are read. -/
theorem copy_follows_template (crates : Crates) (codec : ObjectCodec) (env : CallEnv) (s s' : Hsm)
    (session object handle : Nat) (template : Template)
    (h : cCopyObject crates codec env session object template s = (.ok (.handle handle), s')) :
    ∃ source copy, s.objectStore.objects.get? object = some source ∧
      s'.objectStore.objects.get? handle = some copy ∧ source.copyable = true ∧
      FollowsTemplate source (template.take maxTemplateAttrs) copy ∧
      ((∀ entry ∈ template.take maxTemplateAttrs, entry.1 ∉ protectionTypes) →
        NoLessProtected source copy) := by
  have hcopies : (cCopyObject crates codec env session object template).Ensures s _ :=
    cCopyObject_copies s session object template
  rw [Program.Ensures, h] at hcopies
  obtain ⟨source, copy, newHandle, hsource, hcopyable, hcopy, hreply, hstored⟩ := hcopies _ rfl
  obtain rfl := Reply.handle.inj hreply
  -- the new handle is not part of what protects an object
  obtain ⟨hflags, htrust, hstate, hstart, hend⟩ := copyTemplate_follows hcopy
  have hfollows : FollowsTemplate source (template.take maxTemplateAttrs) copy :=
    ⟨fun flag ↦ by rw [hflags flag]; cases flag <;> rfl, htrust, hstate, hstart, hend⟩
  exact ⟨source, copy, hsource, hstored, hcopyable, hfollows, hfollows.noLessProtected⟩

end Calls

/-! ### A key with a copy -/

/-- The second object of a concrete library. -/
def copiedObject : Nat := 2018634633410

/-- The signing key of a logged-in user is copied with a template. -/
def copySigningKey (template : Template) : Except CkRv Reply × Hsm :=
  cCopyObject (Platform.recorded [] []).crates (Platform.recorded [] []).codec (callEnvAt 6)
    firstSession firstObject template signerLibrary

/-- A copy with another label is as protected as the key. -/
theorem relabelled_key_protected :
    (copySigningKey [(ckaLabel, [7])]).1 = .ok (.handle copiedObject) ∧
      ∃ source copy, signerLibrary.objectStore.objects.get? firstObject = some source ∧
        (copySigningKey [(ckaLabel, [7])]).2.objectStore.objects.get? copiedObject = some copy ∧
        NoLessProtected source copy := by
  have hanswer : (copySigningKey [(ckaLabel, [7])]).1 = .ok (.handle copiedObject) := by
    decide +kernel
  obtain ⟨source, copy, hsource, hcopy, -, -, hprotected⟩ :=
    copy_follows_template _ _ _ signerLibrary _ firstSession firstObject copiedObject
      [(ckaLabel, [7])] (Prod.ext hanswer rfl)
  exact ⟨hanswer, source, copy, hsource, hcopy, hprotected (by decide)⟩

/-- The private key is copied to a public object that also decrypts. -/
theorem private_key_copied_public :
    let copied := copySigningKey [(ckaPrivate, [0]), (ckaDecrypt, [1])]
    copied.1 = .ok (.handle copiedObject) ∧
      ∃ source copy, signerLibrary.objectStore.objects.get? firstObject = some source ∧
        copied.2.objectStore.objects.get? copiedObject = some copy ∧
        source.isPrivate = true ∧ copy.isPrivate = false ∧ source.canDecrypt = false ∧
        copy.canDecrypt = true ∧ ¬NoLessProtected source copy := by
  intro copied
  have hsource : (signerLibrary.objectStore.objects.get? firstObject).map
      (fun obj ↦ (obj.isPrivate, obj.canDecrypt)) = some (true, false) := by decide +kernel
  have hcopy : (copied.2.objectStore.objects.get? copiedObject).map
      (fun obj ↦ (obj.isPrivate, obj.canDecrypt)) = some (false, true) := by decide +kernel
  obtain ⟨source, hsource, hkey⟩ := Option.map_eq_some_iff.mp hsource
  obtain ⟨copy, hcopy, hcopied⟩ := Option.map_eq_some_iff.mp hcopy
  obtain ⟨hprivate, hdecrypt⟩ := Prod.mk.inj hkey
  obtain ⟨hpublic, hdecrypts⟩ := Prod.mk.inj hcopied
  refine ⟨by decide +kernel, source, copy, hsource, hcopy, hprivate, hpublic, hdecrypt, hdecrypts,
    fun hprotected ↦ ?_⟩
  have hkept : copy.isPrivate = true := hprotected.isPrivate hprivate
  simp [hpublic] at hkept

end CratonHsm
