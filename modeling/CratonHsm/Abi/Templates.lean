import CratonHsm.Abi.KeyCalls

/-!
# What templates decide

Four loops read the template of a new object: those of `C_CreateObject` (`applyTemplate`),
`C_CopyObject` (`copyTemplate`), the key generations (`overrideTemplate`), and unwrapping and
deriving (`inheritTemplate`). Whether the object is a token object, private, sensitive or
extractable is decided by the last entry of the template for the attribute, and by the value it had
before if there is none (`templateFlag`); an attribute that the loop does not read keeps its value.
The handle, the lifecycle state and, except in `applyTemplate`, the key material are not the
template's to change.
-/

set_option autoImplicit false

namespace CratonHsm

open Crypto Library Store

/-! ### Flags -/

/-- The boolean attributes that have a field of their own and can be in a template. -/
inductive AccessFlag where
  | token
  | isPrivate
  | sensitive
  | extractable
  | modifiable
  | destroyable
  | encrypt
  | decrypt
  | sign
  | verify
  | wrap
  | unwrap
  | derive
  deriving DecidableEq

/-- The attribute type of a flag. -/
def AccessFlag.attrType : AccessFlag → Nat
  | token => ckaToken
  | isPrivate => ckaPrivate
  | sensitive => ckaSensitive
  | extractable => ckaExtractable
  | modifiable => ckaModifiable
  | destroyable => ckaDestroyable
  | encrypt => ckaEncrypt
  | decrypt => ckaDecrypt
  | sign => ckaSign
  | verify => ckaVerify
  | wrap => ckaWrap
  | unwrap => ckaUnwrap
  | derive => ckaDerive

/-- The value of a flag. -/
def AccessFlag.of (obj : StoredObject) : AccessFlag → Bool
  | token => obj.tokenObject
  | isPrivate => obj.isPrivate
  | sensitive => obj.sensitive
  | extractable => obj.extractable
  | modifiable => obj.modifiable
  | destroyable => obj.destroyable
  | encrypt => obj.canEncrypt
  | decrypt => obj.canDecrypt
  | sign => obj.canSign
  | verify => obj.canVerify
  | wrap => obj.canWrap
  | unwrap => obj.canUnwrap
  | derive => obj.canDerive

/-- The value that a template gives to a boolean attribute. -/
def templateFlag (attrType : Nat) (before : Bool) (template : Template) : Bool :=
  template.foldl
    (fun flag entry ↦ if entry.1 = attrType then attributeBool entry.2 else flag) before

/-- What a template gives to any attribute: what the last entry says, read by `read`. -/
def templateValue {Value : Type} (attrType : Nat) (read : Bytes → Value) (before : Value)
    (template : Template) : Value :=
  template.foldl (fun value entry ↦ if entry.1 = attrType then read entry.2 else value) before

theorem templateValue_of_forall_ne {Value : Type} {attrType : Nat} {read : Bytes → Value}
    {before : Value} {template : Template} (h : ∀ entry ∈ template, entry.1 ≠ attrType) :
    templateValue attrType read before template = before := by
  induction template with
  | nil => rfl
  | cons entry template ih =>
    have hhead : entry.1 ≠ attrType := h entry List.mem_cons_self
    rw [templateValue, List.foldl_cons, if_neg hhead]
    exact ih fun other hother ↦ h other (List.mem_cons_of_mem _ hother)

/-- The parts of an object that templates leave alone. -/
structure ObjectCore where
  handle : Nat
  keyMaterial : Option Bytes
  lifecycleState : KeyLifecycleState

/-- The core of an object. -/
def coreOf (obj : StoredObject) : ObjectCore := ⟨obj.handle, obj.keyMaterial, obj.lifecycleState⟩

section Loops

variable {Error : Type} {step : StoredObject → Nat → Bytes → Except Error StoredObject}

/-- What every entry leaves alone, the loop leaves alone. -/
theorem template_keeps {Value : Type} (field : StoredObject → Value)
    (hstep : ∀ obj attrType value,
      Answers (fun obj' ↦ field obj' = field obj) (step obj attrType value))
    (obj : StoredObject) (template : Template) :
    Answers (fun obj' ↦ field obj' = field obj)
      (template.foldlM (fun obj entry ↦ step obj entry.1 entry.2) obj) := by
  refine answers_foldlM (P := fun (_ : Unit) obj' ↦ field obj' = field obj) (fun shadow _ ↦ shadow)
    (fun _ other entry hkept ↦ ?_) template () rfl
  rw [← hkept]
  exact hstep other entry.1 entry.2

/-- A field that the entries of one type set follows the last of them. -/
theorem template_value {Value : Type} (field : StoredObject → Value) (attrType : Nat)
    (read : Bytes → Value)
    (hstep : ∀ obj other value, Answers (fun obj' ↦ field obj' =
      if other = attrType then read value else field obj) (step obj other value))
    (obj : StoredObject) (template : Template) :
    Answers (fun obj' ↦ field obj' = templateValue attrType read (field obj) template)
      (template.foldlM (fun obj entry ↦ step obj entry.1 entry.2) obj) := by
  refine answers_foldlM (P := fun value obj' ↦ field obj' = value) _
    (fun value other entry hvalue ↦ ?_) template _ rfl
  rw [← hvalue]
  exact hstep other entry.1 entry.2

/-- A flag that every entry may set follows the template. -/
theorem template_flag (flag : AccessFlag)
    (hstep : ∀ obj attrType value, Answers (fun obj' ↦ flag.of obj' =
      if attrType = flag.attrType then attributeBool value else flag.of obj)
        (step obj attrType value))
    (obj : StoredObject) (template : Template) :
    Answers (fun obj' ↦ flag.of obj' = templateFlag flag.attrType (flag.of obj) template)
      (template.foldlM (fun obj entry ↦ step obj entry.1 entry.2) obj) :=
  template_value (fun obj ↦ flag.of obj) flag.attrType attributeBool hstep obj template

end Loops

/-! ### One entry -/

section Entries

variable {obj obj' : StoredObject} {attrType : Nat} {value : Bytes} {bit : Bool}
  {P : StoredObject → Prop} (flag : AccessFlag)

theorem AccessFlag.of_setFlag : flag.of (setFlag obj attrType bit) =
      if attrType = flag.attrType then bit else flag.of obj := by
  by_cases hflag : attrType = flag.attrType
  · subst hflag
    cases flag <;> rfl
  · -- only the branch of the flag itself touches its field
    rw [if_neg hflag]
    cases flag <;> simp only [AccessFlag.attrType] at hflag <;>
      simp only [AccessFlag.of, setFlag, hflag, if_false, ite_self,
        apply_ite StoredObject.tokenObject, apply_ite StoredObject.isPrivate,
        apply_ite StoredObject.sensitive, apply_ite StoredObject.extractable,
        apply_ite StoredObject.modifiable, apply_ite StoredObject.destroyable,
        apply_ite StoredObject.canEncrypt, apply_ite StoredObject.canDecrypt,
        apply_ite StoredObject.canSign, apply_ite StoredObject.canVerify,
        apply_ite StoredObject.canWrap, apply_ite StoredObject.canUnwrap,
        apply_ite StoredObject.canDerive]

theorem coreOf_setFlag : coreOf (setFlag obj attrType bit) = coreOf obj := by
  simp only [setFlag, apply_ite coreOf]
  simp only [coreOf, ite_self]

theorem parseCkBbool_eq_ok (h : parseCkBbool value = .ok bit) : bit = attributeBool value := by
  unfold parseCkBbool at h
  split_ifs at h
  exact (Except.ok.inj h).symm

/-- A boolean attribute is parsed, then set. -/
theorem setFlag_answers (h : P (setFlag obj attrType (attributeBool value))) :
    Answers P (do return setFlag obj attrType (← parseCkBbool value) : Except CkRv StoredObject) :=
  answers_bind_pure fun _ hparse ↦ parseCkBbool_eq_ok hparse ▸ h

/-! ### Creating -/

theorem applyAttribute_flag (obj : StoredObject) (attrType : Nat) (value : Bytes) :
    Answers (fun obj' ↦ flag.of obj' =
      if attrType = flag.attrType then attributeBool value else flag.of obj)
        (obj.applyAttribute attrType value) := by
  by_cases hflag : attrType = flag.attrType
  · subst hflag
    simp only [if_true]
    cases flag with
    | sensitive =>
      change Answers _ (if _ then _ else _)
      split_ifs
      · trivial
      · rfl
    | extractable =>
      change Answers _ (if _ then _ else _)
      split_ifs
      · trivial
      · rfl
    | _ => exact rfl
  · simp only [if_neg hflag]
    have hbind : ∀ {Result : Type} {x : HsmResult Result} {f : Result → StoredObject},
        (∀ a, flag.of (f a) = flag.of obj) →
          Answers (fun obj' ↦ flag.of obj' = flag.of obj) (x >>= fun a ↦ pure (f a)) :=
      fun h ↦ answers_bind_pure fun a _ ↦ h a
    -- every other entry leaves the field alone
    cases flag <;> simp only [AccessFlag.of, AccessFlag.attrType] at hflag hbind ⊢ <;>
      simp only [StoredObject.applyAttribute, StoredObject.setExtraAttribute, hflag, hbind,
        apply_ite (Answers _), answers_ok, answers_error, ite_self, implies_true, if_false]

theorem applyAttribute_keeps (obj : StoredObject) (attrType : Nat) (value : Bytes) :
    Answers (fun obj' ↦ (obj'.handle, obj'.lifecycleState) = (obj.handle, obj.lifecycleState))
      (obj.applyAttribute attrType value) := by
  have hbind : ∀ {Result : Type} {x : HsmResult Result} {f : Result → StoredObject},
      (∀ a, ((f a).handle, (f a).lifecycleState) = (obj.handle, obj.lifecycleState)) →
        Answers (fun obj' ↦ (obj'.handle, obj'.lifecycleState) = (obj.handle, obj.lifecycleState))
          (x >>= fun a ↦ pure (f a)) :=
    fun h ↦ answers_bind_pure fun a _ ↦ h a
  simp only [StoredObject.applyAttribute, StoredObject.setExtraAttribute, hbind,
    apply_ite (Answers _), answers_ok, answers_error, ite_self, implies_true]

theorem applyTemplate_flag (obj : StoredObject) (template : Template) :
    Answers (fun obj' ↦ flag.of obj' = templateFlag flag.attrType (flag.of obj) template)
      (obj.applyTemplate template) :=
  template_flag flag (applyAttribute_flag flag) obj template

theorem applyTemplate_keeps (obj : StoredObject) (template : Template) :
    Answers (fun obj' ↦ (obj'.handle, obj'.lifecycleState) = (obj.handle, obj.lifecycleState))
      (obj.applyTemplate template) :=
  template_keeps (fun obj ↦ (obj.handle, obj.lifecycleState)) applyAttribute_keeps obj template

/-! ### Copying -/

/-- A sensitivity or extractability that may only move one way. -/
theorem ratchet_answers {refuses : Bool → Bool} {set : Bool → StoredObject}
    (h : refuses (attributeBool value) = false → P (set (attributeBool value))) :
    Answers P (do
      let requested ← parseCkBbool value
      if refuses requested then .error .templateInconsistent else return set requested :
        Except CkRv StoredObject) := by
  cases hparse : parseCkBbool value with
  | error e => trivial
  | ok bit =>
    rw [parseCkBbool_eq_ok hparse]
    change Answers P (if _ then _ else _)
    split_ifs with hrefuses
    · trivial
    · exact h (by simpa using hrefuses)

/-- The flags that a copy may be given. -/
theorem copyFlags_attrType (h : attrType ∈ [ckaToken, ckaPrivate, ckaModifiable, ckaDestroyable,
      ckaEncrypt, ckaDecrypt, ckaSign, ckaVerify, ckaWrap, ckaUnwrap, ckaDerive]) :
    ∃ flag : AccessFlag, attrType = flag.attrType := by
  have hflags : [AccessFlag.token, .isPrivate, .modifiable, .destroyable, .encrypt, .decrypt, .sign,
      .verify, .wrap, .unwrap, .derive].map AccessFlag.attrType =
    [ckaToken, ckaPrivate, ckaModifiable, ckaDestroyable, ckaEncrypt, ckaDecrypt, ckaSign,
      ckaVerify, ckaWrap, ckaUnwrap, ckaDerive] := rfl
  rw [← hflags] at h
  obtain ⟨flag, -, hflag⟩ := List.mem_map.mp h
  exact ⟨flag, hflag.symm⟩

/-- What one entry of the template of a copy can do. -/
theorem copyAttribute_answers (obj : StoredObject) (attrType : Nat) (value : Bytes)
    (hsame : attrType = ckaClass ∨ attrType = ckaKeyType → P obj)
    (hsensitive : attrType = ckaSensitive → (obj.sensitive && !attributeBool value) = false →
      P { obj with sensitive := attributeBool value })
    (hextractable : attrType = ckaExtractable → (!obj.extractable && attributeBool value) = false →
      P { obj with extractable := attributeBool value })
    (hlabel : attrType = ckaLabel → P { obj with label := value })
    (hid : attrType = ckaId → P { obj with id := value })
    (hflag : (∃ flag : AccessFlag, attrType = flag.attrType) → attrType ≠ ckaSensitive →
      attrType ≠ ckaExtractable → P (setFlag obj attrType (attributeBool value)))
    (hextra : (∀ flag : AccessFlag, attrType ≠ flag.attrType) →
      P { obj with extraAttributes := obj.extraAttributes.insert attrType value }) :
    Answers P (copyAttribute obj attrType value) := by
  unfold copyAttribute
  refine iteInduction (fun _ ↦ trivial) fun _ ↦ ?_
  refine iteInduction (fun hclass ↦ answers_bind_pure fun _ _ ↦ hsame (Or.inl hclass)) fun _ ↦ ?_
  refine iteInduction (fun hkeyType ↦ ?_) fun _ ↦ ?_
  · cases obj.keyType with
    | none => exact hsame (Or.inr hkeyType)
    | some keyType => exact answers_bind_pure fun _ _ ↦ hsame (Or.inr hkeyType)
  refine iteInduction (fun hs ↦ ratchet_answers (hsensitive hs)) fun hs ↦ ?_
  refine iteInduction (fun he ↦ ratchet_answers (hextractable he)) fun he ↦ ?_
  refine iteInduction hlabel fun _ ↦ iteInduction hid fun _ ↦ ?_
  refine iteInduction (fun hflags ↦ setFlag_answers (hflag (copyFlags_attrType hflags) hs he))
    fun hflags ↦ iteInduction (fun _ ↦ trivial) fun _ ↦ hextra fun flag ↦ ?_
  cases flag with
  | sensitive => exact hs
  | extractable => exact he
  | _ => rintro rfl; exact hflags (by decide)

theorem copyAttribute_flag (obj : StoredObject) (attrType : Nat) (value : Bytes) :
    Answers (fun obj' ↦ flag.of obj' =
      if attrType = flag.attrType then attributeBool value else flag.of obj)
        (copyAttribute obj attrType value) := by
  refine copyAttribute_answers obj attrType value ?_ ?_ ?_ ?_ ?_ (fun _ _ _ ↦ flag.of_setFlag)
    fun hne ↦ ?_
  · rintro (rfl | rfl) <;> cases flag <;> rfl
  · rintro rfl -; cases flag <;> rfl
  · rintro rfl -; cases flag <;> rfl
  · rintro rfl; cases flag <;> rfl
  · rintro rfl; cases flag <;> rfl
  · rw [if_neg (hne flag)]
    cases flag <;> rfl

theorem copyAttribute_keeps (obj : StoredObject) (attrType : Nat) (value : Bytes) :
    Answers (fun obj' ↦ coreOf obj' = coreOf obj) (copyAttribute obj attrType value) :=
  copyAttribute_answers obj attrType value (fun _ ↦ rfl) (fun _ _ ↦ rfl) (fun _ _ ↦ rfl)
    (fun _ ↦ rfl) (fun _ ↦ rfl) (fun _ _ _ ↦ coreOf_setFlag) fun _ ↦ rfl

theorem copyTemplate_flag (obj : StoredObject) (template : Template) :
    Answers (fun obj' ↦ flag.of obj' =
      templateFlag flag.attrType (flag.of obj) (template.take maxTemplateAttrs))
        (copyTemplate obj template) :=
  template_flag flag (copyAttribute_flag flag) obj _

theorem copyTemplate_keeps (obj : StoredObject) (template : Template) :
    Answers (fun obj' ↦ coreOf obj' = coreOf obj) (copyTemplate obj template) :=
  template_keeps coreOf copyAttribute_keeps obj _

/-! ### Generating -/

/-- What one entry of the template of a new key can do. -/
theorem overrideAttribute_answers (flags : List Nat) (dates : Bool) (obj : StoredObject)
    (attrType : Nat) (value : Bytes) (hsame : attrType ∉ flags → P obj)
    (hlabel : attrType = ckaLabel → P { obj with label := value })
    (hid : attrType = ckaId → P { obj with id := value })
    (hflag : attrType ∈ flags → P (setFlag obj attrType (attributeBool value)))
    (hdates : attrType ∉ flags → P { obj with startDate := dateOverride obj.startDate value } ∧
      P { obj with endDate := dateOverride obj.endDate value }) :
    Answers P (overrideAttribute flags dates obj attrType value) := by
  unfold overrideAttribute
  refine iteInduction hlabel fun _ ↦ iteInduction hid fun _ ↦ ?_
  refine iteInduction (fun hflags ↦ setFlag_answers (hflag hflags)) fun hflags ↦ ?_
  refine iteInduction (fun _ ↦ (hdates hflags).1) fun _ ↦ ?_
  exact iteInduction (fun _ ↦ (hdates hflags).2) fun _ ↦ hsame hflags

section Override

variable (flags : List Nat) (dates : Bool)

/-- A flag that the loop does not read. -/
theorem overrideAttribute_ignores {flag : AccessFlag} (hignored : flag.attrType ∉ flags)
    (obj : StoredObject) (attrType : Nat) (value : Bytes) :
    Answers (fun obj' ↦ flag.of obj' = flag.of obj)
      (overrideAttribute flags dates obj attrType value) := by
  refine overrideAttribute_answers flags dates obj attrType value (fun _ ↦ rfl) ?_ ?_ ?_ ?_
  · rintro rfl; cases flag <;> rfl
  · rintro rfl; cases flag <;> rfl
  · intro hmem
    rw [flag.of_setFlag, if_neg]
    rintro rfl
    exact hignored hmem
  · intro _
    cases flag <;> exact ⟨rfl, rfl⟩

theorem overrideAttribute_keeps (obj : StoredObject) (attrType : Nat) (value : Bytes) :
    Answers (fun obj' ↦ coreOf obj' = coreOf obj)
      (overrideAttribute flags dates obj attrType value) :=
  overrideAttribute_answers flags dates obj attrType value (fun _ ↦ rfl) (fun _ ↦ rfl)
    (fun _ ↦ rfl) (fun _ ↦ coreOf_setFlag) fun _ ↦ ⟨rfl, rfl⟩

theorem overrideTemplate_ignores {flag : AccessFlag} (hignored : flag.attrType ∉ flags)
    (obj : StoredObject) (template : Template) :
    Answers (fun obj' ↦ flag.of obj' = flag.of obj) (overrideTemplate flags dates obj template) :=
  template_keeps flag.of (overrideAttribute_ignores flags dates hignored) obj template

theorem overrideTemplate_keeps (obj : StoredObject) (template : Template) :
    Answers (fun obj' ↦ coreOf obj' = coreOf obj) (overrideTemplate flags dates obj template) :=
  template_keeps coreOf (overrideAttribute_keeps flags dates) obj template

end Override

/-! ### Unwrapping and deriving -/

section Inherit

variable (flags : List Nat) (sourceSensitive : Bool)

/-- What one entry of the template of an unwrapped or derived key can do. -/
theorem inheritAttribute_answers {P : StoredObject → Prop} (obj : StoredObject) (attrType : Nat)
    (value : Bytes)
    (hsensitive : attrType = ckaSensitive → (sourceSensitive && !attributeBool value) = false →
      P { obj with sensitive := attributeBool value })
    (hextractable : attrType = ckaExtractable → (!obj.extractable && attributeBool value) = false →
      P { obj with extractable := attributeBool value })
    (hother : attrType ≠ ckaSensitive → attrType ≠ ckaExtractable →
      Answers P (overrideAttribute flags false obj attrType value)) :
    Answers P (inheritAttribute flags sourceSensitive obj attrType value) := by
  unfold inheritAttribute
  refine iteInduction (fun hs ↦ ratchet_answers (hsensitive hs)) fun hs ↦ ?_
  exact iteInduction (fun he ↦ ratchet_answers (hextractable he)) fun he ↦ hother hs he

theorem inheritAttribute_keeps (obj : StoredObject) (attrType : Nat) (value : Bytes) :
    Answers (fun obj' ↦ coreOf obj' = coreOf obj)
      (inheritAttribute flags sourceSensitive obj attrType value) :=
  inheritAttribute_answers flags sourceSensitive obj attrType value (fun _ _ ↦ rfl) (fun _ _ ↦ rfl)
    fun _ _ ↦ overrideAttribute_keeps flags false obj attrType value

theorem inheritTemplate_keeps (obj : StoredObject) (template : Template) :
    Answers (fun obj' ↦ coreOf obj' = coreOf obj)
      (inheritTemplate flags sourceSensitive obj template) :=
  template_keeps coreOf (inheritAttribute_keeps flags sourceSensitive) obj template

end Inherit

end Entries

end CratonHsm
