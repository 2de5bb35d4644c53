import CratonHsm.Daemon.Effects

/-!
# Keys that clients choose

`GenerateKey`, `UnwrapKey`, `DeriveKey` and `CopyObject` build the new object from the key that the
operation gives and then apply the template of the request to it, entry by entry. `apply_attribute`
was written for objects whose template is all there is, so an entry for the value, the class or the
key type takes the place of what the operation gave. The object is the one of the operation exactly
when no entry asks for anything else.
-/

set_option autoImplicit false

namespace CratonHsm.Daemon

open Crypto Crypto.Encrypt Library Store
open StoredObject

/-! ### The key of an operation -/

/-- The bytes, the class and the key type of a key. -/
structure KeyIdentity where
  material : Option Bytes
  objectClass : Nat
  keyType : Option Nat
  deriving DecidableEq

/-- The bytes, the class and the key type of an object. -/
def identityOf (obj : StoredObject) : KeyIdentity :=
  ⟨obj.keyMaterial, obj.objectClass, obj.keyType⟩

/-- The entry does not ask for another value, class or key type. -/
def KeyIdentity.agrees (key : KeyIdentity) (entry : Nat × Bytes) : Bool :=
  (entry.1 = ckaValue → some entry.2 = key.material) ∧
    (entry.1 = ckaClass → readCkUlong entry.2 = some key.objectClass) ∧
    (entry.1 = ckaKeyType → readCkUlong entry.2 = key.keyType)

namespace Request

/-- The template for the key that a request makes. -/
def keyTemplate? : Request → Option Template
  | .generateKey _ _ template | .unwrapKey _ _ _ _ template | .deriveKey _ _ _ template
  | .copyObject _ _ template => some template
  | _ => none

/-- The key that the operation of a request gives: drawn, unwrapped, derived, or that of the source.
`UnwrapKey` takes the key type from the first entry that names one. -/
def operationKey (platform : Platform) (env : RequestEnv) (s : Hsm) :
    Request → Option KeyIdentity
  | .generateKey _ _ template => do
    let keyLen ← readUlongAttr template ckaValueLen
    let key ← (platform.backend.generateAesKey env.call.seed keyLen
      s.algorithmConfig.fipsApprovedOnly).toOption
    return ⟨some key, ckoSecretKey, some ckkAes⟩
  | .unwrapKey _ _ unwrappingKey wrapped template => do
    let material ← (← s.objectStore.objects.get? unwrappingKey).keyMaterial
    let key ← (platform.backend.aesKeyUnwrap material wrapped
      s.algorithmConfig.fipsApprovedOnly).toOption
    return ⟨some key, ckoSecretKey,
      some ((readUlongAttr template ckaKeyType).getD ckkGenericSecret)⟩
  | .deriveKey _ mechanism baseKey template => do
    let base ← s.objectStore.objects.get? baseKey
    let key ← (deriveBytes platform.backend base (← base.keyMaterial)
      (← mechanism).parameter (readUlongAttr template ckaValueLen)).toOption
    return ⟨some key, ckoSecretKey, some ckkGenericSecret⟩
  | .copyObject _ object _ => (s.objectStore.objects.get? object).map identityOf
  | _ => none

end Request

/-- The template asks for no other value, class or key type than those of the operation. -/
def AsksNothingElse (platform : Platform) (env : RequestEnv) (s : Hsm) (request : Request)
    (template : Template) : Prop :=
  ∀ entry ∈ template, (request.operationKey platform env s).any (·.agrees entry) = true

/-- The request makes the key of its operation; a template that asks for anything else is refused
and not applied. -/
structure MakesOperationKey (platform : Platform) (env : RequestEnv) (s : HsmService)
    (request : Request) (template : Template) : Prop where
  made : ∃ handle obj, (request.handle platform env s).1 = .ok (.handle handle) ∧
    (request.handle platform env s).2.hsm.objectStore.objects.get? handle = some obj ∧
    request.operationKey platform env s.hsm = some (identityOf obj)
  refused : ¬AsksNothingElse platform env s.hsm request template →
    (request.handle platform env s).1.isOk = false ∧
      (request.handle platform env s).2.hsm.objectStore.objects = s.hsm.objectStore.objects

/-! ### Templates -/

section Templates

variable {key : KeyIdentity} {obj : StoredObject}

/-- Entries for other attributes leave the key alone. -/
theorem applyAttribute_identity_of_ne (obj : StoredObject) {attrType : Nat} (value : Bytes)
    (hvalue : attrType ≠ ckaValue) (hclass : attrType ≠ ckaClass) (htype : attrType ≠ ckaKeyType) :
    Answers (fun obj' ↦ identityOf obj' = identityOf obj) (obj.applyAttribute attrType value) := by
  have hbind : ∀ {Result : Type} {x : HsmResult Result} {f : Result → StoredObject},
      (∀ a, identityOf (f a) = identityOf obj) →
        Answers (fun obj' ↦ identityOf obj' = identityOf obj) (x >>= fun a ↦ pure (f a)) :=
    fun h ↦ answers_bind_pure fun a _ ↦ h a
  simp only [identityOf] at hbind ⊢
  simp only [applyAttribute, setExtraAttribute, hvalue, hclass, htype, hbind,
    apply_ite (Answers _), answers_ok, answers_error, ite_self, implies_true, if_false]

theorem ulongAttribute_eq_ok {value : Bytes} {number : Nat}
    (h : ulongAttribute value = .ok number) : readCkUlong value = some number := by
  unfold ulongAttribute at h
  split at h
  next found hfound => rw [hfound, Except.ok.inj h]
  next => cases h

/-- An entry that agrees with the key of the object leaves it as it is. -/
theorem applyAttribute_identity (hobj : identityOf obj = key) {entry : Nat × Bytes}
    (hagrees : key.agrees entry = true) :
    Answers (fun obj' ↦ identityOf obj' = key) (obj.applyAttribute entry.1 entry.2) := by
  obtain ⟨attrType, value⟩ := entry
  obtain ⟨hvalue, hclass, htype⟩ := of_decide_eq_true hagrees
  subst hobj
  by_cases hisValue : attrType = ckaValue
  · subst hisValue
    change Answers _ (if _ then _ else _)
    split_ifs
    · trivial
    · exact congrArg (KeyIdentity.mk · obj.objectClass obj.keyType) (hvalue rfl)
  by_cases hisClass : attrType = ckaClass
  · subst hisClass
    refine answers_bind_pure fun number hnumber ↦ ?_
    have hsame := (ulongAttribute_eq_ok hnumber).symm.trans (hclass rfl)
    exact congrArg (KeyIdentity.mk obj.keyMaterial · obj.keyType) (Option.some.inj hsame)
  by_cases hisType : attrType = ckaKeyType
  · subst hisType
    refine answers_bind_pure fun number hnumber ↦ ?_
    exact congrArg (KeyIdentity.mk obj.keyMaterial obj.objectClass)
      ((ulongAttribute_eq_ok hnumber).symm.trans (htype rfl))
  · exact applyAttribute_identity_of_ne obj value hisValue hisClass hisType

theorem applyTemplate_identity (template : Template) :
    ∀ {obj : StoredObject}, identityOf obj = key → (∀ entry ∈ template, key.agrees entry = true) →
      Answers (fun obj' ↦ identityOf obj' = key) (obj.applyTemplate template) := by
  induction template with
  | nil => exact fun hobj _ ↦ hobj
  | cons entry template ih =>
    intro obj hobj hagrees
    refine answers_bind fun obj' hobj' ↦ ?_
    exact ih ((applyAttribute_identity hobj (hagrees entry List.mem_cons_self)).of_eq_ok hobj')
      fun other hother ↦ hagrees other (List.mem_cons_of_mem _ hother)

theorem applyTemplateExcept_identity {handled : List Nat} {template : Template}
    {obj' : StoredObject}
    (hobj : identityOf obj = key) (hagrees : ∀ entry ∈ template, key.agrees entry = true)
    (happlied : applyTemplateExcept handled obj template = .ok obj') : identityOf obj' = key :=
  (applyTemplate_identity _ hobj fun entry hentry ↦
    hagrees entry (List.mem_of_mem_filter hentry)).of_eq_ok (toStatus_eq_ok_iff.mp happlied)

end Templates

/-! ### Requests -/

section Requests

variable {platform : Platform} {env : RequestEnv} {s : HsmService} {request : Request}
  {template : Template}

/-- The new object is the key of an operation with a template applied. -/
def FromTemplate (operationKey : Option KeyIdentity) (template : Template) (obj : StoredObject) :
    Prop :=
  ∃ handled base, operationKey = some (identityOf base) ∧
    applyTemplateExcept handled base template = .ok obj

/-- What an accepted request has put under the handle that it answers with. -/
theorem audited_makes {body : Body} {Describes : StoredObject → Prop}
    (hbody : body.Ensures s.hsm (Makes platform env s.hsm request Describes))
    (hok : (audited env body s).1.isOk = true) :
    ∃ obj, (audited env body s).1 = .ok (.handle obj.handle) ∧
      (audited env body s).2.hsm.objectStore.objects.get? obj.handle = some obj ∧
        Describes obj := by
  cases hanswer : (audited env body s).1 with
  | error e => rw [hanswer] at hok; cases hok
  | ok response =>
    obtain ⟨entry, hbodyOk⟩ := audited_eq_ok hanswer
    rw [audited_hsm]
    unfold Program.Ensures at hbody
    generalize (body s.hsm).2 = t at hbody ⊢
    rw [hbodyOk] at hbody
    cases hbody with
    | made _ hdescribes =>
      refine ⟨_, rfl, ?_, hdescribes⟩
      simp [insertAll]

theorem handle_makes (htemplate : request.keyTemplate? = some template)
    (hok : (request.handle platform env s).1.isOk = true) :
    ∃ obj, (request.handle platform env s).1 = .ok (.handle obj.handle) ∧
      (request.handle platform env s).2.hsm.objectStore.objects.get? obj.handle = some obj ∧
        FromTemplate (request.operationKey platform env s.hsm) template obj := by
  cases request with
  | generateKey session mechanism _ =>
    obtain rfl := Option.some.inj htemplate
    obtain ⟨obj, hanswer, hobj, _, _, _, _, hlen, hkey, happlied⟩ :=
      audited_makes (generateKey_makes session mechanism _) hok
    refine ⟨obj, hanswer, hobj, _, _, ?_, happlied⟩
    simp [Request.operationKey, hlen, hkey, Except.toOption, generatedKey, identityOf, newObject,
      new]
  | unwrapKey session mechanism unwrappingKey wrapped _ =>
    obtain rfl := Option.some.inj htemplate
    obtain ⟨obj, hanswer, hobj, _, _, _, _, _, hunwrapping, hmaterial, hkey, happlied⟩ :=
      audited_makes (unwrapKey_makes session mechanism unwrappingKey wrapped _) hok
    refine ⟨obj, hanswer, hobj, _, _, ?_, happlied⟩
    simp [Request.operationKey, hunwrapping, hmaterial, hkey, Except.toOption, unwrappedKey,
      identityOf, newObject, new]
  | deriveKey session mechanism baseKey _ =>
    obtain rfl := Option.some.inj htemplate
    obtain ⟨obj, hanswer, hobj, _, _, _, _, _, _, hbase, hmaterial, hparameter, hkey, happlied⟩ :=
      audited_makes (deriveKey_makes session mechanism baseKey _) hok
    obtain ⟨mech, rfl, rfl⟩ := Option.map_eq_some_iff.mp hparameter
    refine ⟨obj, hanswer, hobj, _, _, ?_, happlied⟩
    simp [Request.operationKey, hbase, hmaterial, hkey, Except.toOption, derivedKey, identityOf,
      newObject, new]
  | copyObject session object _ =>
    obtain rfl := Option.some.inj htemplate
    obtain ⟨obj, hanswer, hobj, _, _, _, hsrc, happlied⟩ :=
      audited_makes (copyObject_makes session object _) hok
    refine ⟨obj, hanswer, hobj, _, _, ?_, happlied⟩
    simp [Request.operationKey, hsrc, copiedObject, identityOf, newObject, new]
  | _ => cases htemplate

/-- An accepted request makes the key of its operation, and no client has chosen anything of it,
exactly when its template asks for nothing else. -/
theorem makesOperationKey_iff (htemplate : request.keyTemplate? = some template)
    (hok : (request.handle platform env s).1.isOk = true) :
    MakesOperationKey platform env s request template ↔
      AsksNothingElse platform env s.hsm request template := by
  constructor
  · intro hmakes
    by_contra hasks
    rw [(hmakes.refused hasks).1] at hok
    cases hok
  · intro hagrees
    obtain ⟨obj, hanswer, hobj, handled, base, hkey, happlied⟩ := handle_makes htemplate hok
    refine ⟨⟨obj.handle, obj, hanswer, hobj, ?_⟩, fun hasks ↦ absurd hagrees hasks⟩
    rw [AsksNothingElse, hkey] at hagrees
    rw [hkey, applyTemplateExcept_identity rfl hagrees happlied]

/-- A template with the length and the class that an AES key has. -/
theorem soService_makesOperationKey :
    MakesOperationKey samplePlatform (requestAt 3) soService
      (.generateKey firstSession (some ⟨ckmAesKeyGen, []⟩)
        [(ckaValueLen, ckUlongToBytes 32), (ckaClass, ckUlongToBytes ckoSecretKey)])
      [(ckaValueLen, ckUlongToBytes 32), (ckaClass, ckUlongToBytes ckoSecretKey)] :=
  (makesOperationKey_iff rfl (by decide +kernel)).mpr (by unfold AsksNothingElse; decide +kernel)

/-- `GenerateKey` with a template that gives the bytes of the key, and calls it a public RSA key. It
is accepted, and the object is what the client asked for. -/
theorem generateKey_takesChosenKey :
    let template : Template := [(ckaValueLen, ckUlongToBytes 32), (ckaValue, List.replicate 16 1),
      (ckaClass, ckUlongToBytes ckoPublicKey), (ckaKeyType, ckUlongToBytes ckkRsa)]
    let request : Request := .generateKey firstSession (some ⟨ckmAesKeyGen, []⟩) template
    let answered := request.handle samplePlatform (requestAt 3) soService
    answered.1 = .ok (.handle secondObject) ∧
      (answered.2.hsm.objectStore.objects.get? secondObject).map identityOf =
        some ⟨some (List.replicate 16 1), ckoPublicKey, some ckkRsa⟩ ∧
      ¬MakesOperationKey samplePlatform (requestAt 3) soService request template := by
  intro template request answered
  have hanswer : answered.1 = .ok (.handle secondObject) := by decide +kernel
  refine ⟨hanswer, by decide +kernel, fun hmakes ↦ ?_⟩
  have hasks : ¬AsksNothingElse samplePlatform (requestAt 3) soService.hsm request template := by
    unfold AsksNothingElse
    decide +kernel
  have hrefused := (hmakes.refused hasks).1
  rw [hanswer] at hrefused
  cases hrefused

end Requests

end CratonHsm.Daemon
