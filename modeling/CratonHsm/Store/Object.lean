import CratonHsm.Pkcs11
import Std.Data.ExtTreeMap

/-!
# Stored objects

`store/object.rs`: an object with its typed attributes, the map of all other attributes, and its
lifecycle fields. `matchesTemplate` is the search of `C_FindObjectsInit`, `checkLifecycle` the
date-dependent permission of SP 800-57.

Scope. A key's bytes are a plain byte string: locking them in memory and erasing them are not
modelled. Cutting a date inside a character panics (`Panic`), and so does every function that reads
the date.
-/

set_option autoImplicit false

namespace CratonHsm.Store

open Std (ExtTreeMap)

/-- `KeyLifecycleState`. -/
inductive KeyLifecycleState where
  | preActivation
  | active
  | deactivated
  | compromised
  | destroyed
  deriving DecidableEq

/-- `StoredObject`. -/
structure StoredObject where
  handle : Nat
  slotId : Nat
  objectClass : Nat
  keyType : Option Nat
  label : Bytes
  id : Bytes
  tokenObject : Bool
  isPrivate : Bool
  sensitive : Bool
  extractable : Bool
  modifiable : Bool
  destroyable : Bool
  copyable : Bool
  canEncrypt : Bool
  canDecrypt : Bool
  canSign : Bool
  canVerify : Bool
  canWrap : Bool
  canUnwrap : Bool
  canDerive : Bool
  keyMaterial : Option Bytes
  publicKeyData : Option Bytes
  modulus : Option Bytes
  modulusBits : Option Nat
  publicExponent : Option Bytes
  ecParams : Option Bytes
  ecPoint : Option Bytes
  valueLen : Option Nat
  extraAttributes : ExtTreeMap Nat Bytes
  startDate : Option (FixedBytes 8)
  endDate : Option (FixedBytes 8)
  lifecycleState : KeyLifecycleState
  creationTime : Nat
  deriving DecidableEq

variable (obj : StoredObject) (now : Nat)

/-- `StoredObject::new`, at a time in seconds. -/
def StoredObject.new (handle objectClass : Nat) : StoredObject where
  handle := handle
  slotId := 0
  objectClass := objectClass
  keyType := none
  label := []
  id := []
  tokenObject := false
  isPrivate := true
  sensitive := true
  extractable := false
  modifiable := true
  destroyable := true
  copyable := true
  canEncrypt := false
  canDecrypt := false
  canSign := false
  canVerify := false
  canWrap := false
  canUnwrap := false
  canDerive := false
  keyMaterial := none
  publicKeyData := none
  modulus := none
  modulusBits := none
  publicExponent := none
  ecParams := none
  ecPoint := none
  valueLen := none
  extraAttributes := ∅
  startDate := none
  endDate := none
  lifecycleState := .active
  creationTime := now

/-! ### Template matching -/

/-- `read_ck_ulong` of `object.rs`: exactly eight bytes. -/
def readCkUlongExact (value : Bytes) : Option Nat :=
  if value.length = 8 then some (ckUlongOfBytes value) else none

/-- A boolean entry of a search template: an empty value matches anything. -/
def matchesBool (value : Bytes) (field : Bool) : Bool :=
  value.isEmpty || attributeBool value == field

/-- One entry of a search template. -/
def StoredObject.matchesAttribute (attrType : Nat) (value : Bytes) : Bool :=
  if attrType = ckaClass then readCkUlongExact value == some obj.objectClass
  else if attrType = ckaKeyType then obj.keyType.isSome && readCkUlongExact value == obj.keyType
  else if attrType = ckaLabel then value == obj.label
  else if attrType = ckaId then value == obj.id
  else if attrType = ckaToken then matchesBool value obj.tokenObject
  else if attrType = ckaPrivate then matchesBool value obj.isPrivate
  else if attrType = ckaSensitive then matchesBool value obj.sensitive
  else if attrType = ckaSign then matchesBool value obj.canSign
  else if attrType = ckaVerify then matchesBool value obj.canVerify
  else if attrType = ckaEncrypt then matchesBool value obj.canEncrypt
  else if attrType = ckaDecrypt then matchesBool value obj.canDecrypt
  else obj.extraAttributes[attrType]? == some value

/-- `matches_template`. -/
def StoredObject.matchesTemplate (template : List (Nat × Bytes)) : Bool :=
  template.all fun entry ↦ obj.matchesAttribute entry.1 entry.2

/-- `approximate_size`, over the size of the record itself. -/
def StoredObject.approximateSize (recordSize : Nat) (obj : StoredObject) : Nat :=
  let bytes (value : Option Bytes) : Nat := (value.map List.length).getD 0
  min (recordSize + bytes obj.keyMaterial + bytes obj.publicKeyData + bytes obj.modulus +
    obj.label.length + obj.id.length) (2 ^ 64 - 1)

/-! ### Lifecycle -/

/-- The number that decimal digits in ASCII spell. -/
def digitsValue (digits : Bytes) : Option Nat :=
  digits.foldl (fun value digit ↦ value.bind fun n ↦
    if 0x30 ≤ digit ∧ digit ≤ 0x39 then some (10 * n + (digit.toNat - 0x30)) else none) (some 0)

/-- The `parse` of a `u64`: digits, after an optional plus sign. -/
def parseDecimal : Bytes → Option Nat
  | [] => none
  | 0x2B :: [] => none
  | 0x2B :: digits => digitsValue digits
  | digits => digitsValue digits

/-- `is_leap_year`. -/
def isLeapYear (year : Nat) : Bool :=
  (year % 4 = 0 && year % 100 != 0) || year % 400 = 0

/-- The leap years before a year. -/
def leapYearsBefore (year : Nat) : Nat :=
  if year = 0 then 0
  else (year - 1) / 4 - (year - 1) / 100 + (year - 1) / 400

/-- The days of a common year before a month. -/
def cumulativeDays : List Nat := [0, 0, 31, 59, 90, 120, 151, 181, 212, 243, 273, 304, 334]

/-- A panic of the source. -/
inductive Panic where
  | panic
  deriving DecidableEq

/-- A text can be cut before the byte: it does not continue a character of UTF-8. -/
def isCharBoundary (byte : UInt8) : Bool := byte < 0x80 || 0xC0 ≤ byte

/-- The seconds up to midnight of a day, from 1970 to 2200. -/
def epochOf (year month day : Nat) : Option Nat :=
  if year < 1970 ∨ 2200 < year ∨ month < 1 ∨ 12 < month ∨ day < 1 ∨ 31 < day then none
  else
    let leaps := leapYearsBefore year - leapYearsBefore 1970
    let days := (year - 1970) * 365 + leaps + cumulativeDays.getD month 0 +
      (if month > 2 ∧ isLeapYear year then 1 else 0) + (day - 1)
    some (days * 86400)

/-- `ck_date_to_epoch`: midnight of a date `YYYYMMDD`, in seconds. A text that is not UTF-8 is no
date, and one that is cannot be cut inside a character. -/
def ckDateToEpoch (date : FixedBytes 8) : Except Panic (Option Nat) :=
  if !ByteArray.validateUTF8 ⟨date.1.toArray⟩ then .ok none
  else if !isCharBoundary (date.1.getD 4 0) then .error .panic
  else
    match parseDecimal (date.1.take 4) with
    | none => .ok none
    | some year =>
      if !isCharBoundary (date.1.getD 6 0) then .error .panic
      else .ok do
        let month ← parseDecimal ((date.1.drop 4).take 2)
        let day ← parseDecimal (date.1.drop 6)
        epochOf year month day

/-- A date of an object as an epoch, if it has one that can be read. -/
def readDate (date : Option (FixedBytes 8)) : Except Panic (Option Nat) :=
  date.elim (.ok none) ckDateToEpoch

/-- `compute_date_based_state`. -/
def StoredObject.computeDateBasedState : Except Panic KeyLifecycleState := do
  if (← readDate obj.startDate).any (now < ·) then return .preActivation
  -- the end date is not looked at before the start date
  if (← readDate obj.endDate).any (· < now) then return .deactivated
  return .active

/-- `effective_lifecycle_state`: the dates count for an active object only. -/
def StoredObject.effectiveLifecycleState : Except Panic KeyLifecycleState :=
  if obj.lifecycleState ≠ .active then .ok obj.lifecycleState else obj.computeDateBasedState now

/-- `transition_lifecycle_if_needed`: the object in its new state, if that is another one. -/
def StoredObject.transitionLifecycleIfNeeded : Except Panic (Option StoredObject) := do
  if obj.lifecycleState = .compromised ∨ obj.lifecycleState = .destroyed then return none
  let state ← obj.computeDateBasedState now
  return if state = obj.lifecycleState then none else some { obj with lifecycleState := state }

/-- The operations that the lifecycle of a key can forbid. -/
inductive KeyUse where
  | encrypt
  | decrypt
  | sign
  | verify
  | wrap
  | unwrap
  | derive
  deriving DecidableEq

/-- A deactivated key still processes existing data. -/
def KeyUse.processesExisting : KeyUse → Bool
  | .verify => true
  | .decrypt => true
  | .unwrap => true
  | _ => false

/-- What a lifecycle state says to a use. -/
def KeyLifecycleState.permits (use : KeyUse) : KeyLifecycleState → HsmResult Unit
  | .active => .ok ()
  | .preActivation => .error .keyFunctionNotPermitted
  | .deactivated =>
    if use.processesExisting then .ok () else .error .keyFunctionNotPermitted
  | .compromised => .error .keyFunctionNotPermitted
  | .destroyed => .error .objectHandleInvalid

/-- `check_lifecycle`. -/
def StoredObject.checkLifecycle (use : KeyUse) : Except Panic (HsmResult Unit) :=
  (obj.effectiveLifecycleState now).map (·.permits use)

end CratonHsm.Store
