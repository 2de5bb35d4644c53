import CratonHsm.Store.Object

/-!
# Attributes of stored objects

`apply_attribute` and `read_attribute` of `store/attributes.rs`. Known attribute types go to typed
fields; every other type goes to the map of extra attributes, from which it is read back without a
guard. Only `CKA_VALUE` is withheld, when the object is sensitive and not extractable.
-/

set_option autoImplicit false

namespace CratonHsm.Store

/-- `MAX_KEY_MATERIAL_LEN`. -/
def maxKeyMaterialLen : Nat := 8192

/-- The largest extra attribute value. -/
def maxExtraAttributeLen : Nat := 8192

/-- The largest number of extra attributes. -/
def maxExtraAttributes : Nat := 64

/-- `read_ck_ulong` of `attributes.rs`: the first eight bytes, if there are that many. -/
def readCkUlong (value : Bytes) : Option Nat :=
  if value.length < 8 then none else some (ckUlongOfBytes (value.take 8))

/-- The number in an attribute value, or its error. -/
def ulongAttribute (value : Bytes) : HsmResult Nat :=
  match readCkUlong value with
  | some number => .ok number
  | none => .error .attributeValueInvalid

/-- A date attribute: eight bytes, or empty for no date. -/
def dateAttribute (value : Bytes) : HsmResult (Option (FixedBytes 8)) :=
  if h : value.length = 8 then .ok (some ⟨value, h⟩)
  else if value.isEmpty then .ok none
  else .error .generalError

variable (obj : StoredObject)

/-- The catch-all branch of `apply_attribute`. -/
def StoredObject.setExtraAttribute (attrType : Nat) (value : Bytes) : HsmResult StoredObject :=
  if value.length > maxExtraAttributeLen then .error .argumentsBad
  else if obj.extraAttributes.size ≥ maxExtraAttributes ∧ attrType ∉ obj.extraAttributes then
    .error .argumentsBad
  else .ok { obj with extraAttributes := obj.extraAttributes.insert attrType value }

/-- `apply_attribute`. Sensitivity can only be raised and extractability only be lowered. -/
def StoredObject.applyAttribute (attrType : Nat) (value : Bytes) : HsmResult StoredObject :=
  let flag := attributeBool value
  if attrType = ckaClass then do return { obj with objectClass := ← ulongAttribute value }
  else if attrType = ckaKeyType then do return { obj with keyType := some (← ulongAttribute value) }
  else if attrType = ckaLabel then .ok { obj with label := value }
  else if attrType = ckaId then .ok { obj with id := value }
  else if attrType = ckaToken then .ok { obj with tokenObject := flag }
  else if attrType = ckaPrivate then .ok { obj with isPrivate := flag }
  else if attrType = ckaSensitive then
    if obj.sensitive && !flag then .error .attributeReadOnly else .ok { obj with sensitive := flag }
  else if attrType = ckaExtractable then
    if !obj.extractable && flag then .error .attributeReadOnly
    else .ok { obj with extractable := flag }
  else if attrType = ckaModifiable then .ok { obj with modifiable := flag }
  else if attrType = ckaDestroyable then .ok { obj with destroyable := flag }
  else if attrType = ckaEncrypt then .ok { obj with canEncrypt := flag }
  else if attrType = ckaDecrypt then .ok { obj with canDecrypt := flag }
  else if attrType = ckaSign then .ok { obj with canSign := flag }
  else if attrType = ckaVerify then .ok { obj with canVerify := flag }
  else if attrType = ckaWrap then .ok { obj with canWrap := flag }
  else if attrType = ckaUnwrap then .ok { obj with canUnwrap := flag }
  else if attrType = ckaDerive then .ok { obj with canDerive := flag }
  else if attrType = ckaValue then
    if value.length > maxKeyMaterialLen then .error .attributeValueInvalid
    else .ok { obj with keyMaterial := some value }
  else if attrType = ckaModulus then .ok { obj with modulus := some value }
  else if attrType = ckaModulusBits then do
    return { obj with modulusBits := some (← ulongAttribute value) }
  else if attrType = ckaPublicExponent then .ok { obj with publicExponent := some value }
  else if attrType = ckaEcParams then .ok { obj with ecParams := some value }
  else if attrType = ckaEcPoint then .ok { obj with ecPoint := some value }
  else if attrType = ckaValueLen then do
    return { obj with valueLen := some (← ulongAttribute value) }
  else if attrType = ckaStartDate then do return { obj with startDate := ← dateAttribute value }
  else if attrType = ckaEndDate then do return { obj with endDate := ← dateAttribute value }
  else obj.setExtraAttribute attrType value

/-- The attributes of a template, applied in order up to the first error. -/
def StoredObject.applyTemplate (template : List (Nat × Bytes)) : HsmResult StoredObject :=
  template.foldlM (fun obj entry ↦ obj.applyAttribute entry.1 entry.2) obj

/-- A boolean attribute as one byte. -/
def boolBytes (flag : Bool) : Bytes := [if flag then 1 else 0]

/-- `read_attribute`. -/
def StoredObject.readAttribute (attrType : Nat) (isLoggedIn : Bool) : HsmResult (Option Bytes) :=
  if obj.isPrivate && !isLoggedIn then .error .objectHandleInvalid
  else if attrType = ckaClass then .ok (some (ckUlongToBytes obj.objectClass))
  else if attrType = ckaKeyType then .ok (obj.keyType.map ckUlongToBytes)
  else if attrType = ckaLabel then .ok (some obj.label)
  else if attrType = ckaId then .ok (some obj.id)
  else if attrType = ckaToken then .ok (some (boolBytes obj.tokenObject))
  else if attrType = ckaPrivate then .ok (some (boolBytes obj.isPrivate))
  else if attrType = ckaSensitive then .ok (some (boolBytes obj.sensitive))
  else if attrType = ckaExtractable then .ok (some (boolBytes obj.extractable))
  else if attrType = ckaModifiable then .ok (some (boolBytes obj.modifiable))
  else if attrType = ckaDestroyable then .ok (some (boolBytes obj.destroyable))
  else if attrType = ckaEncrypt then .ok (some (boolBytes obj.canEncrypt))
  else if attrType = ckaDecrypt then .ok (some (boolBytes obj.canDecrypt))
  else if attrType = ckaSign then .ok (some (boolBytes obj.canSign))
  else if attrType = ckaVerify then .ok (some (boolBytes obj.canVerify))
  else if attrType = ckaWrap then .ok (some (boolBytes obj.canWrap))
  else if attrType = ckaUnwrap then .ok (some (boolBytes obj.canUnwrap))
  else if attrType = ckaDerive then .ok (some (boolBytes obj.canDerive))
  else if attrType = ckaValue then
    if obj.sensitive && !obj.extractable then .error .attributeSensitive else .ok obj.keyMaterial
  else if attrType = ckaModulus then .ok obj.modulus
  else if attrType = ckaModulusBits then .ok (obj.modulusBits.map ckUlongToBytes)
  else if attrType = ckaPublicExponent then .ok obj.publicExponent
  else if attrType = ckaEcParams then .ok obj.ecParams
  else if attrType = ckaEcPoint then .ok obj.ecPoint
  else if attrType = ckaValueLen then .ok (obj.valueLen.map ckUlongToBytes)
  else if attrType = ckaStartDate then .ok (obj.startDate.map Subtype.val)
  else if attrType = ckaEndDate then .ok (obj.endDate.map Subtype.val)
  else .ok obj.extraAttributes[attrType]?

end CratonHsm.Store
