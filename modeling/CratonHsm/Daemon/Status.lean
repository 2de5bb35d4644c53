import CratonHsm.Error

/-!
# Status codes of the daemon

The gRPC statuses that the daemon answers with, and `hsm_err_to_status`, which turns an error of the
core into a status. Errors of PINs and of the system are deliberately vague; the others say what the
client can change.
-/

set_option autoImplicit false

namespace CratonHsm.Daemon

/-- The codes of `tonic::Code` in use. -/
inductive Code where
  | aborted
  | alreadyExists
  | failedPrecondition
  | internal
  | invalidArgument
  | notFound
  | permissionDenied
  | resourceExhausted
  | unauthenticated
  | unimplemented
  deriving DecidableEq

/-- `tonic::Status`. -/
structure Status where
  code : Code
  message : String
  deriving DecidableEq

/-- `hsm_err_to_status`. -/
def hsmErrToStatus : HsmError → Status
  | .pinIncorrect | .pinLocked => ⟨.unauthenticated, "Authentication failed"⟩
  | .pinInvalid => ⟨.invalidArgument, "PIN does not meet complexity requirements"⟩
  | .pinLenRange => ⟨.invalidArgument, "PIN length out of range"⟩
  | .pinRateLimited => ⟨.resourceExhausted, "Too many attempts — try again later"⟩
  | .userNotLoggedIn => ⟨.permissionDenied, "Login required"⟩
  | .userAlreadyLoggedIn => ⟨.alreadyExists, "Already logged in"⟩
  | .userAnotherAlreadyLoggedIn => ⟨.failedPrecondition, "Another user already logged in"⟩
  | .userTypeInvalid => ⟨.invalidArgument, "Invalid user type"⟩
  | .userPinNotInitialized =>
    ⟨.failedPrecondition, "User PIN not initialized — SO must call InitPIN first"⟩
  | .sessionHandleInvalid => ⟨.notFound, "Session not found"⟩
  | .sessionCount => ⟨.resourceExhausted, "Session limit reached"⟩
  | .sessionReadOnly => ⟨.permissionDenied, "Session is read-only"⟩
  | .sessionParallelNotSupported => ⟨.invalidArgument, "Parallel sessions not supported"⟩
  | .sessionExists => ⟨.alreadyExists, "Session already exists"⟩
  | .sessionReadOnlyExists => ⟨.failedPrecondition, "Read-only session exists"⟩
  | .sessionReadWriteSoExists => ⟨.failedPrecondition, "R/W SO session already exists"⟩
  | .slotIdInvalid => ⟨.notFound, "Slot not found"⟩
  | .tokenNotPresent => ⟨.notFound, "Token not present"⟩
  | .tokenNotInitialized => ⟨.failedPrecondition, "Token not initialized — call InitToken first"⟩
  | .tokenWriteProtected => ⟨.permissionDenied, "Token is write-protected"⟩
  | .objectHandleInvalid => ⟨.notFound, "Object not found"⟩
  | .attributeTypeInvalid => ⟨.invalidArgument, "Invalid attribute type"⟩
  | .attributeValueInvalid => ⟨.invalidArgument, "Invalid attribute value"⟩
  | .attributeReadOnly => ⟨.permissionDenied, "Attribute is read-only"⟩
  | .attributeSensitive => ⟨.permissionDenied, "Attribute is sensitive — cannot read"⟩
  | .templateIncomplete => ⟨.invalidArgument, "Template is incomplete"⟩
  | .templateInconsistent => ⟨.invalidArgument, "Template is inconsistent"⟩
  | .mechanismInvalid => ⟨.invalidArgument, "Unsupported mechanism"⟩
  | .mechanismParamInvalid => ⟨.invalidArgument, "Invalid mechanism parameters"⟩
  | .keyHandleInvalid => ⟨.notFound, "Key not found"⟩
  | .keyTypeInconsistent => ⟨.invalidArgument, "Key type does not match mechanism"⟩
  | .keySizeRange => ⟨.invalidArgument, "Key size out of range"⟩
  | .keyFunctionNotPermitted => ⟨.permissionDenied, "Key not permitted for this operation"⟩
  | .operationActive => ⟨.failedPrecondition, "Another operation is already active"⟩
  | .operationNotInitialized =>
    ⟨.failedPrecondition, "No operation initialized — call *Init first"⟩
  | .argumentsBad => ⟨.invalidArgument, "Invalid argument"⟩
  | .dataInvalid => ⟨.invalidArgument, "Invalid input data"⟩
  | .dataLenRange => ⟨.invalidArgument, "Input data length out of range"⟩
  | .encryptedDataInvalid => ⟨.invalidArgument, "Invalid encrypted data"⟩
  | .encryptedDataLenRange => ⟨.invalidArgument, "Encrypted data length out of range"⟩
  | .signatureInvalid => ⟨.invalidArgument, "Signature verification failed"⟩
  | .signatureLenRange => ⟨.invalidArgument, "Signature length out of range"⟩
  | .bufferTooSmall => ⟨.internal, "Buffer too small"⟩
  | .functionNotSupported => ⟨.unimplemented, "Operation not supported"⟩
  | .randomSeedNotSupported => ⟨.unimplemented, "Random seed not supported"⟩
  | .notInitialized => ⟨.failedPrecondition, "Cryptoki not initialized"⟩
  | .alreadyInitialized => ⟨.alreadyExists, "Already initialized"⟩
  | .generalError | .hostMemory | .deviceMemory | .configError _ | .auditChainBroken _ =>
    ⟨.internal, "Internal error"⟩
  | .sessionClosed => ⟨.aborted, "Session closed"⟩

/-- An outcome of the core as the daemon passes it on. -/
def toStatus {Result : Type} : HsmResult Result → Except Status Result
  | .ok result => .ok result
  | .error e => .error (hsmErrToStatus e)

theorem toStatus_eq_ok_iff {Result : Type} {x : HsmResult Result} {result : Result} :
    toStatus x = .ok result ↔ x = .ok result := by
  cases x <;> simp [toStatus]

end CratonHsm.Daemon
