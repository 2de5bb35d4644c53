import CratonHsm.Abi.LoginAgreement
import CratonHsm.Abi.OperationCalls

/-!
# Runs of the library

A call with its arguments is a `Call`, and its entry point is `Call.entry`. A run of the library is
a list of steps: calls, each with the clock and the draws it sees, and initialisations. A step
`reinitialize` is a `C_Finalize` with the `C_Initialize` that follows it, and a step `restart` is
the same with a new process in between, which starts with empty cipher tables.

Scope. The calls that only report on the library, slots, mechanisms and sessions change nothing and
are left out, and so are those that answer `CKR_FUNCTION_NOT_SUPPORTED`. Calls between `C_Finalize`
and `C_Initialize` are refused.
-/

set_option autoImplicit false

namespace CratonHsm

open Crypto Crypto.Encrypt Library Store

/-- A call with its arguments. The calls of the five kinds of operation are grouped by what they do
with the operation. -/
inductive Call where
  | slotCall (call : SessionCall)
  | createObject (session : Nat) (template : Template)
  | destroyObject (session object : Nat)
  | copyObject (session object : Nat) (template : Template)
  | getObjectSize (recordSize session object : Nat)
  | getAttributeValue (session object : Nat) (requests : List (Nat × Option Nat))
  | setAttributeValue (session object : Nat) (template : Template)
  | findObjectsInit (session : Nat) (template : Template)
  | findObjects (session maxCount : Nat)
  | findObjectsFinal (session : Nat)
  | generateKey (session mechanism : Nat) (template : Template)
  | generateKeyPair (session mechanism : Nat) (pubTemplate privTemplate : Template)
  | wrapKey (session mechanism wrappingKey key : Nat) (output : Option Nat)
  | unwrapKey (session mechanism unwrappingKey : Nat) (wrapped : Bytes) (template : Template)
  | deriveKey (session mechanism : Nat) (mechanismParam : Bytes) (baseKey : Nat)
      (template : Template)
  | start (type : OperationType) (session mechanism : Nat) (mechanismParam : Bytes) (key : Nat)
  | feed (type : OperationType) (session : Nat) (part : Bytes)
  | finish (type : OperationType) (session : Nat) (output : Option Nat) (signature : Bytes)
  | single (type : OperationType) (session : Nat) (data : Bytes) (output : Option Nat)
      (signature : Bytes)
  | digestKey (session key : Nat)
  | getOperationState (session : Nat) (output : Option Nat)
  | setOperationState (session : Nat) (blob : Bytes) (authenticationKey : Nat)
  | generateRandom (session length : Nat)

/-- The entry point of a call. -/
def Call.entry (platform : Platform) (env : CallEnv) : Call → Entry
  | .slotCall call => call.entry platform.crates platform.codec env
  | .createObject session template =>
    cCreateObject platform.crates platform.codec env session template
  | .destroyObject session object => cDestroyObject platform.crates env session object
  | .copyObject session object template =>
    cCopyObject platform.crates platform.codec env session object template
  | .getObjectSize recordSize session object => cGetObjectSize recordSize session object
  | .getAttributeValue session object requests => cGetAttributeValue session object requests
  | .setAttributeValue session object template => cSetAttributeValue session object template
  | .findObjectsInit session template => cFindObjectsInit session template
  | .findObjects session maxCount => cFindObjects session maxCount
  | .findObjectsFinal session => cFindObjectsFinal session
  | .generateKey session mechanism template => cGenerateKey platform env session mechanism template
  | .generateKeyPair session mechanism pubTemplate privTemplate =>
    cGenerateKeyPair platform env session mechanism pubTemplate privTemplate
  | .wrapKey session mechanism wrappingKey key output =>
    cWrapKey platform session mechanism wrappingKey key output
  | .unwrapKey session mechanism unwrappingKey wrapped template =>
    cUnwrapKey platform env session mechanism unwrappingKey wrapped template
  | .deriveKey session mechanism mechanismParam baseKey template =>
    cDeriveKey platform env session mechanism mechanismParam baseKey template
  | .start type session mechanism mechanismParam key =>
    type.start env session mechanism mechanismParam key
  | .feed type session part => type.feed session part
  | .finish type session output signature => type.finish platform env session output signature
  | .single type session data output signature =>
    type.single platform env session data output signature
  | .digestKey session key => cDigestKey session key
  | .getOperationState session output => cGetOperationState platform session output
  | .setOperationState session blob authenticationKey =>
    cSetOperationState platform session blob authenticationKey
  | .generateRandom session length => cGenerateRandom platform env session length

/-- A step of a run. -/
inductive LibraryStep where
  | call (env : CallEnv) (call : Call)
  | reinitialize (draw : InitDraw)
  | restart (draw : InitDraw)

/-- The library after a step. -/
def Hsm.step (platform : Platform) (config : HsmConfig) (s : Hsm) : LibraryStep → Hsm
  | .call env call => (call.entry platform env s).2
  | LibraryStep.reinitialize draw => .cInitialize config s.disk s.statics draw
  | .restart draw => .cInitialize config s.disk .empty draw

/-- The library after a run. -/
def Hsm.run (platform : Platform) (config : HsmConfig) (s : Hsm) (steps : List LibraryStep) : Hsm :=
  steps.foldl (Hsm.step platform config) s

end CratonHsm
