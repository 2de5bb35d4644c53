import CratonHsm.Abi.Hsm

/-!
# Object entry points

`C_CreateObject`, `C_CopyObject`, `C_DestroyObject`, `C_GetObjectSize`, `C_GetAttributeValue`,
`C_SetAttributeValue` and the search calls of `pkcs11_abi/functions.rs`, each with its checks in the
order of the source. A template is the list of its attribute types and values; where the caller
hands over buffers, it is the list of attribute types and buffer sizes.
-/

set_option autoImplicit false

namespace CratonHsm

open Crypto Crypto.Encrypt Library Store
open Std (ExtTreeMap)

/-- An attribute template. -/
abbrev Template := List (Nat × Bytes)

/-- `MAX_TEMPLATE_ATTRS`. -/
def maxTemplateAttrs : Nat := 256

/-- `MAX_ATTR_VALUE_LEN`. -/
def maxAttrValueLen : Nat := 65536

/-- `MAX_FIND_OBJECTS_PER_CALL`. -/
def maxFindObjectsPerCall : Nat := 65536

/-- `parse_template`. -/
def parseTemplate (template : Template) : Except CkRv Template :=
  if template.length > maxTemplateAttrs then .error .argumentsBad
  else if template.any fun entry ↦ entry.2.length > maxAttrValueLen then
    .error .attributeValueInvalid
  else .ok template

theorem parseTemplate_eq_ok {template parsed : Template} (h : parseTemplate template = .ok parsed) :
    parsed = template := by
  unfold parseTemplate at h
  split_ifs at h
  exact (Except.ok.inj h).symm

/-- `parse_ck_bbool`. -/
def parseCkBbool (value : Bytes) : Except CkRv Bool :=
  if value.length = 1 then .ok (attributeBool value) else .error .attributeValueInvalid

/-- The field of a boolean attribute, set to a value. -/
def setFlag (obj : StoredObject) (attrType : Nat) (flag : Bool) : StoredObject :=
  if attrType = ckaToken then { obj with tokenObject := flag }
  else if attrType = ckaPrivate then { obj with isPrivate := flag }
  else if attrType = ckaSensitive then { obj with sensitive := flag }
  else if attrType = ckaExtractable then { obj with extractable := flag }
  else if attrType = ckaModifiable then { obj with modifiable := flag }
  else if attrType = ckaDestroyable then { obj with destroyable := flag }
  else if attrType = ckaEncrypt then { obj with canEncrypt := flag }
  else if attrType = ckaDecrypt then { obj with canDecrypt := flag }
  else if attrType = ckaSign then { obj with canSign := flag }
  else if attrType = ckaVerify then { obj with canVerify := flag }
  else if attrType = ckaWrap then { obj with canWrap := flag }
  else if attrType = ckaUnwrap then { obj with canUnwrap := flag }
  else if attrType = ckaDerive then { obj with canDerive := flag }
  else obj

/-! ### Steps shared by entry points -/

/-- `get_object` through a handle. -/
def getObject (handle : Nat) : Program Hsm CkRv StoredObject :=
  .reads fun s ↦ toAbi (s.objectStore.getObject handle)

/-- The check that a session is read-write. -/
def requireRw (session : Session) : Program Hsm CkRv Unit :=
  .require (session.state.isRw = true) .sessionReadOnly

/-- The check that private objects are out of reach before a login. -/
def requireLoginFor (session : Session) (obj : StoredObject) : Program Hsm CkRv Unit :=
  .require (obj.isPrivate = true → session.state.isLoggedIn = true) .userNotLoggedIn

/-- Replace a session. -/
def putSession (handle : Nat) (session : Session) : Program Hsm CkRv Unit :=
  .update fun s ↦ { s with sessionManager := s.sessionManager.setSession handle session }

/-- Write an object through its handle. -/
def putObject (handle : Nat) (obj : StoredObject) : Program Hsm CkRv Unit :=
  .update fun s ↦
    match s.objectStore.objects.refs[handle]? with
    | some ref => { s with objectStore := { s.objectStore with
        objects := s.objectStore.objects.modify ref fun _ ↦ obj } }
    | none => s

/-- `next_handle`. -/
def nextHandle : Program Hsm CkRv Nat :=
  onStore fun store ↦ (.ok store.nextHandle.1, store.nextHandle.2)

/-- `insert_object`. -/
def insertObject (crates : Crates) (codec : ObjectCodec) (draw : StoreDraw) (obj : StoredObject) :
    Program Hsm CkRv Nat :=
  onStore fun store ↦ store.insertObject crates codec draw obj

/-! ### Creating and destroying -/

section Objects

variable (crates : Crates) (codec : ObjectCodec) (env : CallEnv)

/-- The template is one of a private or secret key. -/
def isKeyTemplate (template : Template) : Bool :=
  template.any fun entry ↦ entry.1 = ckaClass &&
    (readCkUlong entry.2).any fun objectClass ↦
      objectClass = ckoPrivateKey || objectClass = ckoSecretKey

variable (session : Nat) (obj : StoredObject) (handle : Nat)

/-- `C_CreateObject`. -/
def cCreateObject (template : Template) : Entry := do
  getHsm
  let session ← getSession session
  requireRw session
  let template ← .reads fun _ ↦ parseTemplate template
  .require (isKeyTemplate template = true → session.state.isLoggedIn = true) .userNotLoggedIn
  let handle ← onStore fun store ↦ store.createObject crates codec env.first env.now template
  return .handle handle

/-- `C_DestroyObject`. The session need not be logged in. -/
def cDestroyObject (object : Nat) : Entry := do
  getHsm
  let session ← getSession session
  requireRw session
  let obj ← getObject object
  .require (obj.destroyable = true) .attributeReadOnly
  onStore fun store ↦ store.destroyObject env.first object
  .update fun s ↦ { s with
    statics := (obj.keyMaterial.map (removeGcmCounter crates s.statics)).getD s.statics }
  return .done

/-! ### Copying -/

/-- A `CKA_CLASS` or `CKA_KEY_TYPE` in the template of a copy must name the current value. -/
def copyMustKeep (current : Nat) (value : Bytes) : Except CkRv Unit :=
  if readCkUlong value = some current then .ok () else .error .templateInconsistent

/-- One attribute of the template of a copy. -/
def copyAttribute (attrType : Nat) (value : Bytes) : Except CkRv StoredObject :=
  if value.length > maxAttrValueLen then .error .attributeValueInvalid
  else if attrType = ckaClass then do
    copyMustKeep obj.objectClass value
    return obj
  else if attrType = ckaKeyType then
    match obj.keyType with
    | some keyType => do
      copyMustKeep keyType value
      return obj
    | none => .ok obj
  else if attrType = ckaSensitive then do
    let requested ← parseCkBbool value
    if obj.sensitive && !requested then .error .templateInconsistent
    else return { obj with sensitive := requested }
  else if attrType = ckaExtractable then do
    let requested ← parseCkBbool value
    if !obj.extractable && requested then .error .templateInconsistent
    else return { obj with extractable := requested }
  else if attrType = ckaLabel then .ok { obj with label := value }
  else if attrType = ckaId then .ok { obj with id := value }
  else if attrType ∈ [ckaToken, ckaPrivate, ckaModifiable, ckaDestroyable, ckaEncrypt, ckaDecrypt,
      ckaSign, ckaVerify, ckaWrap, ckaUnwrap, ckaDerive] then do
    return setFlag obj attrType (← parseCkBbool value)
  else if attrType ∈ [ckaValue, ckaPrivateExponent, ckaPrime1, ckaPrime2, ckaExponent1,
      ckaExponent2, ckaCoefficient] then .error .attributeReadOnly
  else .ok { obj with extraAttributes := obj.extraAttributes.insert attrType value }

/-- The template of a copy, of which only the first `MAX_TEMPLATE_ATTRS` entries are read. -/
def copyTemplate (template : Template) : Except CkRv StoredObject :=
  (template.take maxTemplateAttrs).foldlM (fun obj entry ↦ copyAttribute obj entry.1 entry.2) obj

/-- `C_CopyObject`. -/
def cCopyObject (object : Nat) (template : Template) : Entry := do
  getHsm
  let session ← getSession session
  requireRw session
  let obj ← getObject object
  requireLoginFor session obj
  .require (obj.copyable = true) .attributeReadOnly
  let handle ← nextHandle
  let copy ← .reads fun _ ↦ copyTemplate { obj with handle := handle } template
  let handle ← insertObject crates codec env.first copy
  return .handle handle

/-! ### Attributes -/

/-- `C_GetObjectSize`, over the size of the record itself. -/
def cGetObjectSize (recordSize session object : Nat) : Entry := do
  getHsm
  let session ← getSession session
  let obj ← getObject object
  requireLoginFor session obj
  return .length (obj.approximateSize recordSize)

/-- One attribute of `C_GetAttributeValue` into a buffer of a size, or none: the value that is
written, the length that is reported, and an error. A length of `none` stands for
`CK_UNAVAILABLE_INFORMATION`. -/
def readInto (isLoggedIn : Bool) (attrType : Nat) (buffer : Option Nat) :
    CkRv × Option Bytes × Option Nat :=
  match obj.readAttribute attrType isLoggedIn with
  | .ok (some value) =>
    match buffer with
    | none => (.ok, none, some value.length)
    | some size =>
      if size < value.length then (.bufferTooSmall, none, some value.length)
      else (.ok, some value, some value.length)
  | .ok none => (.attributeTypeInvalid, none, none)
  | .error .attributeSensitive => (.attributeSensitive, none, none)
  | .error _ => (.generalError, none, none)

/-- The answer to a list of attribute requests; of several errors the last one is returned. -/
def readAttributes (isLoggedIn : Bool) (requests : List (Nat × Option Nat)) : Reply :=
  let results := requests.map fun request ↦ readInto obj isLoggedIn request.1 request.2
  .attributes (results.foldl (fun rv result ↦ if result.1 = .ok then rv else result.1) .ok)
    (results.map Prod.snd)

/-- `C_GetAttributeValue`. -/
def cGetAttributeValue (object : Nat) (requests : List (Nat × Option Nat)) : Entry := do
  getHsm
  .require (requests.length ≤ maxTemplateAttrs) .argumentsBad
  let session ← getSession session
  let obj ← getObject object
  requireLoginFor session obj
  return readAttributes obj session.state.isLoggedIn requests

/-- The loop of `C_SetAttributeValue`: what precedes an attribute that is refused stays. -/
def setAttributes (obj : StoredObject) : Template → Except CkRv Unit × StoredObject
  | [] => (.ok (), obj)
  | (attrType, value) :: template =>
    if attrType = ckaLabel then setAttributes { obj with label := value } template
    else if attrType = ckaId then setAttributes { obj with id := value } template
    else if attrType = ckaEcPoint ∧ obj.keyType = some ckkMlDsa then
      setAttributes { obj with extraAttributes :=
        obj.extraAttributes.insert attrType value } template
    else (.error .attributeReadOnly, obj)

/-- `C_SetAttributeValue`. The record of a token object is not written again. -/
def cSetAttributeValue (object : Nat) (template : Template) : Entry := do
  getHsm
  let session ← getSession session
  requireRw session
  let obj ← getObject object
  requireLoginFor session obj
  .require (obj.modifiable = true) .attributeReadOnly
  let template ← .reads fun _ ↦ parseTemplate template
  putObject object (setAttributes obj template).2
  .reads fun _ ↦ (setAttributes obj template).1
  return .done

/-! ### Searching -/

/-- `C_FindObjectsInit`. -/
def cFindObjectsInit (template : Template) : Entry := do
  getHsm
  let session ← getSession handle
  .require (session.findContext = none) .operationActive
  let template ← .reads fun _ ↦ parseTemplate template
  let results ← .view fun s ↦ s.objectStore.findObjects template session.state.isLoggedIn
  putSession handle { session with findContext := some ⟨results, 0⟩ }
  return .done

/-- `C_FindObjects`. -/
def cFindObjects (maxCount : Nat) : Entry := do
  getHsm
  let session ← getSession handle
  let context ← .reads fun _ ↦ session.findContext.elim (.error .operationNotInitialized) .ok
  let found := (context.results.drop context.position).take (min maxCount maxFindObjectsPerCall)
  putSession handle { session with
    findContext := some { context with position := context.position + found.length } }
  return .handles found

/-- `C_FindObjectsFinal`. -/
def cFindObjectsFinal : Entry := do
  getHsm
  let session ← getSession handle
  .require (session.findContext.isSome = true) .operationNotInitialized
  putSession handle { session with findContext := none }
  return .done

end Objects

/-! ### Rules for the steps of entry points -/

section Rules

variable {s : Hsm} {Result : Type} {Q : Except CkRv Result → Hsm → Prop}
  {f : Nat → Program Hsm CkRv Result}

@[simp]
theorem ensures_getObject {handle : Nat} {f : StoredObject → Program Hsm CkRv Result} :
    (getObject handle >>= f).Ensures s Q ↔
      (s.objectStore.objects.get? handle = none → Q (.error .objectHandleInvalid) s) ∧
      ∀ obj, s.objectStore.objects.get? handle = some obj → (f obj).Ensures s Q := by
  cases h : s.objectStore.objects.get? handle <;>
    simp [getObject, ObjectStore.getObject, toAbi, HsmError.toRv, h]

@[simp]
theorem ensures_nextHandle : (nextHandle >>= f).Ensures s Q ↔
    (f s.objectStore.nextHandle.1).Ensures
      { s with objectStore := s.objectStore.nextHandle.2 } Q := by
  simp [Program.Ensures, Program.bind_apply, nextHandle, onStore, toAbi]

variable {crates : Crates} {codec : ObjectCodec} {draw : StoreDraw}

theorem ensures_insertObject {obj : StoredObject} (hstop : ∀ e, Q (.error e) s)
    (hgo : (f obj.handle).Ensures
      { s with objectStore := s.objectStore.addObject crates codec draw obj.handle obj } Q) :
    (insertObject crates codec draw obj >>= f).Ensures s Q := by
  unfold Program.Ensures
  rw [Program.bind_apply]
  by_cases hfull : s.objectStore.objects.refs.size ≥ maxObjects
  · simpa [insertObject, onStore, ObjectStore.insertObject, hfull, toAbi] using hstop _
  · simpa [insertObject, onStore, ObjectStore.insertObject, hfull, toAbi, Program.Ensures] using hgo

theorem ensures_createObject {now : Nat} {template : Template} (hstop : ∀ e, Q (.error e) s)
    (hmoved : ∀ e, Q (.error e) { s with objectStore := s.objectStore.nextHandle.2 })
    (hgo : ∀ objectClass obj,
      (StoredObject.new now s.objectStore.nextHandle.1 objectClass).applyTemplate template =
        .ok obj → (f s.objectStore.nextHandle.1).Ensures { s with
          objectStore := s.objectStore.nextHandle.2.addObject crates codec draw
            s.objectStore.nextHandle.1 obj } Q) :
    ((onStore fun store ↦ store.createObject crates codec draw now template) >>=
      f).Ensures s Q := by
  unfold Program.Ensures
  rw [Program.bind_apply]
  simp only [onStore, ObjectStore.createObject]
  by_cases hfull : s.objectStore.objects.refs.size ≥ maxObjects
  · simpa only [if_pos hfull, toAbi] using hstop _
  rw [if_neg hfull]
  cases hclass : ObjectStore.templateClass template with
  | none => simpa only [toAbi] using hstop _
  | some objectClass =>
    simp only
    cases hobj : (StoredObject.new now s.objectStore.nextHandle.1 objectClass).applyTemplate
        template with
    | error e => simpa only [toAbi] using hmoved _
    | ok obj => simpa only [toAbi, Program.Ensures] using hgo objectClass obj hobj

end Rules

end CratonHsm
