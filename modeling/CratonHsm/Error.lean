import CratonHsm.Library.Bytes

/-!
# Errors and return values

The error type of the library (`error.rs`) and the PKCS#11 return values it maps to. `HsmError.toRv`
is the conversion the C entry points apply to every error of the layers below; two different errors
may share a return value, as a rate-limited PIN shares that of a locked one.
-/

set_option autoImplicit false

namespace CratonHsm

export Library (Bytes FixedBytes)

/-- `HsmError`: every way an internal operation fails. -/
inductive HsmError where
  | notInitialized
  | alreadyInitialized
  | argumentsBad
  | slotIdInvalid
  | tokenNotPresent
  | tokenNotInitialized
  | sessionHandleInvalid
  | sessionCount
  | sessionReadOnly
  | sessionParallelNotSupported
  | sessionExists
  | sessionReadOnlyExists
  | sessionReadWriteSoExists
  | userAlreadyLoggedIn
  | userNotLoggedIn
  | userTypeInvalid
  | userAnotherAlreadyLoggedIn
  | userPinNotInitialized
  | pinIncorrect
  | pinInvalid
  | pinLenRange
  | pinLocked
  | pinRateLimited
  | objectHandleInvalid
  | attributeTypeInvalid
  | attributeValueInvalid
  | attributeReadOnly
  | attributeSensitive
  | templateIncomplete
  | templateInconsistent
  | mechanismInvalid
  | mechanismParamInvalid
  | keyHandleInvalid
  | keyTypeInconsistent
  | keySizeRange
  | keyFunctionNotPermitted
  | operationActive
  | operationNotInitialized
  | dataInvalid
  | dataLenRange
  | encryptedDataInvalid
  | encryptedDataLenRange
  | signatureInvalid
  | signatureLenRange
  | bufferTooSmall
  | functionNotSupported
  | generalError
  | hostMemory
  | deviceMemory
  | tokenWriteProtected
  | randomSeedNotSupported
  | configError (reason : String)
  | auditChainBroken (reason : String)
  | sessionClosed
  deriving DecidableEq, Repr

/-- `HsmResult`: a value or an `HsmError`. -/
abbrev HsmResult := Except HsmError

/-- The `CKR_*` return values the entry points produce. -/
inductive CkRv where
  | ok
  | slotIdInvalid
  | generalError
  | functionFailed
  | argumentsBad
  | noEvent
  | attributeReadOnly
  | attributeSensitive
  | attributeTypeInvalid
  | attributeValueInvalid
  | dataInvalid
  | dataLenRange
  | deviceMemory
  | encryptedDataInvalid
  | encryptedDataLenRange
  | functionNotParallel
  | functionNotSupported
  | hostMemory
  | keyHandleInvalid
  | keySizeRange
  | keyTypeInconsistent
  | keyNeeded
  | keyNotNeeded
  | keyIndigestible
  | keyFunctionNotPermitted
  | mechanismInvalid
  | mechanismParamInvalid
  | objectHandleInvalid
  | operationActive
  | operationNotInitialized
  | pinIncorrect
  | pinInvalid
  | pinLenRange
  | pinLocked
  | sessionClosed
  | sessionCount
  | sessionHandleInvalid
  | sessionParallelNotSupported
  | sessionReadOnly
  | sessionExists
  | sessionReadOnlyExists
  | sessionReadWriteSoExists
  | signatureInvalid
  | signatureLenRange
  | templateIncomplete
  | templateInconsistent
  | tokenNotPresent
  | tokenNotRecognized
  | tokenWriteProtected
  | unwrappingKeyHandleInvalid
  | userAlreadyLoggedIn
  | userNotLoggedIn
  | userPinNotInitialized
  | userTypeInvalid
  | userAnotherAlreadyLoggedIn
  | wrappedKeyInvalid
  | wrappedKeyLenRange
  | wrappingKeyHandleInvalid
  | randomSeedNotSupported
  | bufferTooSmall
  | savedStateInvalid
  | stateUnsaveable
  | cryptokiNotInitialized
  | cryptokiAlreadyInitialized
  deriving DecidableEq, Repr

/-- `From<HsmError> for CK_RV`. -/
def HsmError.toRv : HsmError → CkRv
  | notInitialized => .cryptokiNotInitialized
  | alreadyInitialized => .cryptokiAlreadyInitialized
  | argumentsBad => .argumentsBad
  | slotIdInvalid => .slotIdInvalid
  | tokenNotPresent => .tokenNotPresent
  | tokenNotInitialized => .tokenNotRecognized
  | sessionHandleInvalid => .sessionHandleInvalid
  | sessionCount => .sessionCount
  | sessionReadOnly => .sessionReadOnly
  | sessionParallelNotSupported => .sessionParallelNotSupported
  | sessionExists => .sessionExists
  | sessionReadOnlyExists => .sessionReadOnlyExists
  | sessionReadWriteSoExists => .sessionReadWriteSoExists
  | userAlreadyLoggedIn => .userAlreadyLoggedIn
  | userNotLoggedIn => .userNotLoggedIn
  | userTypeInvalid => .userTypeInvalid
  | userAnotherAlreadyLoggedIn => .userAnotherAlreadyLoggedIn
  | userPinNotInitialized => .userPinNotInitialized
  | pinIncorrect => .pinIncorrect
  | pinInvalid => .pinInvalid
  | pinLenRange => .pinLenRange
  | pinLocked => .pinLocked
  | pinRateLimited => .pinLocked
  | objectHandleInvalid => .objectHandleInvalid
  | attributeTypeInvalid => .attributeTypeInvalid
  | attributeValueInvalid => .attributeValueInvalid
  | attributeReadOnly => .attributeReadOnly
  | attributeSensitive => .attributeSensitive
  | templateIncomplete => .templateIncomplete
  | templateInconsistent => .templateInconsistent
  | mechanismInvalid => .mechanismInvalid
  | mechanismParamInvalid => .mechanismParamInvalid
  | keyHandleInvalid => .keyHandleInvalid
  | keyTypeInconsistent => .keyTypeInconsistent
  | keySizeRange => .keySizeRange
  | keyFunctionNotPermitted => .keyFunctionNotPermitted
  | operationActive => .operationActive
  | operationNotInitialized => .operationNotInitialized
  | dataInvalid => .dataInvalid
  | dataLenRange => .dataLenRange
  | encryptedDataInvalid => .encryptedDataInvalid
  | encryptedDataLenRange => .encryptedDataLenRange
  | signatureInvalid => .signatureInvalid
  | signatureLenRange => .signatureLenRange
  | bufferTooSmall => .bufferTooSmall
  | functionNotSupported => .functionNotSupported
  | generalError => .generalError
  | hostMemory => .hostMemory
  | deviceMemory => .deviceMemory
  | tokenWriteProtected => .tokenWriteProtected
  | randomSeedNotSupported => .randomSeedNotSupported
  | configError _ => .generalError
  | auditChainBroken _ => .generalError
  | sessionClosed => .sessionClosed

/-- A result of the layers below, with the error as a return value. -/
def toAbi {Result : Type} : HsmResult Result → Except CkRv Result
  | .ok result => .ok result
  | .error e => .error e.toRv

theorem toAbi_eq_ok_iff {Result : Type} {x : HsmResult Result} {result : Result} :
    toAbi x = .ok result ↔ x = .ok result := by
  cases x <;> simp [toAbi]

section Results

variable {Error Result Result' : Type} {x : Except Error Result}

/-- A computation has a result if its first part has one and the rest goes on from there. -/
theorem bind_eq_ok_iff {f : Result → Except Error Result'} {result : Result'} :
    x >>= f = .ok result ↔ ∃ a, x = .ok a ∧ f a = .ok result := by
  cases x <;> simp [bind, Except.bind]

theorem elim_eq_ok_iff {field : Option Result} {e : Error} {result : Result} :
    field.elim (.error e) .ok = (.ok result : Except Error Result) ↔ field = some result := by
  cases field <;> simp

end Results

end CratonHsm
