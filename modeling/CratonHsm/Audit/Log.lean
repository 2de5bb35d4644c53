import CratonHsm.Error
import CratonHsm.Library.HashChain
import CratonHsm.Library.Program
import Mathlib.Logic.Function.Basic

/-!
# The audit log

The audit log of `audit/log.rs`: events chained by SHA-256 hashes, kept in memory and, when a path
is configured, as one JSON line each in a file that is rotated through five generations. A worker
owns the running hash and the last timestamp; the shared state has its own copy of both, written
when an event is committed. `processRecord` is the worker's handling of one event, `writeRecord` its
disk part, `recoverChainFromFile` the check of an existing file when the log is created.

Requests reach the worker through one queue and are handled one at a time, so a run of the log is a
sequence of requests. What the operating system answers to the file operations of one request is
its `DiskOutcome`. JSON texts, SHA-256 and the treatment of text lines come from outside the library
and are parameters (`AuditCodec`); `AuditCodec.Lawful` says that a serialised event is one line of
text that is read back as the event.

Left out: `validate_log_path` (the path is a regular file throughout), and the pages and exports of
the entries. The queue with its callers and `flush` is in `Audit.Worker`, `verify_chain` in
`Audit.Tampering`.
-/

set_option autoImplicit false

namespace CratonHsm.Audit

open Library (Program followChain joinLines splitOn_joinLines)
open Library.Program

/-! ### Events -/

/-- `AuditOperation`. -/
inductive AuditOperation where
  | initializeLibrary
  | finalizeLibrary
  | openSession (slotId : Nat)
  | closeSession
  | login (userType : Nat)
  | logout
  | initToken (slotId : Nat)
  | initPin (slotId : Nat)
  | setPin
  | generateKey (mechanism keyLength : Nat) (fipsApproved : Bool)
  | generateKeyPair (mechanism keyLength : Nat) (fipsApproved : Bool)
  | sign (mechanism : Nat) (fipsApproved : Bool)
  | verify (mechanism : Nat) (fipsApproved : Bool)
  | encrypt (mechanism : Nat) (fipsApproved : Bool)
  | decrypt (mechanism : Nat) (fipsApproved : Bool)
  | digest (mechanism : Nat) (fipsApproved : Bool)
  | createObject
  | destroyObject
  | generateRandom (length : Nat)
  | wrapKey (mechanism : Nat) (fipsApproved : Bool)
  | unwrapKey (mechanism : Nat) (fipsApproved : Bool)
  | deriveKey (mechanism : Nat) (fipsApproved : Bool)
  | findObjects (resultCount : Nat)
  | getAttributeValue
  | zeroize (keyLength : Nat)
  deriving DecidableEq, Repr

/-- `AuditResult`. -/
inductive AuditResult where
  | success
  | failure (rv : Nat)
  deriving DecidableEq, Repr

/-- `AuditEventPayload`: what is hashed of an event. -/
structure AuditEventPayload where
  timestamp : Nat
  sessionHandle : Nat
  operation : AuditOperation
  keyId : Option String
  result : AuditResult
  deriving DecidableEq, Repr

/-- `AuditEvent`. -/
structure AuditEvent extends AuditEventPayload where
  previousHash : FixedBytes 32
  deriving DecidableEq, Repr

/-- The hash an empty log starts from. -/
def zeroHash : FixedBytes 32 := ⟨List.replicate 32 0, by decide⟩

/-- What the log uses of `serde_json`, `sha2` and the reading of text lines. -/
structure AuditCodec where
  toVec : AuditEventPayload → Option Bytes
  toString : AuditEvent → Option Bytes
  fromStr : Bytes → Option AuditEvent
  sha256 : Bytes → FixedBytes 32
  /-- The bytes of a line are text. -/
  isUtf8 : Bytes → Bool
  trim : Bytes → Bytes

/-- The byte that ends a line. -/
abbrev newline : UInt8 := 10

/-- Serialised events are single lines of trimmed text that are read back as the event. -/
structure AuditCodec.Lawful (codec : AuditCodec) : Prop where
  fromStr_toString {event : AuditEvent} {line : Bytes} :
    codec.toString event = some line → codec.fromStr line = some event
  isLine {event : AuditEvent} {line : Bytes} :
    codec.toString event = some line → line ≠ [] ∧ newline ∉ line
  isText {event : AuditEvent} {line : Bytes} :
    codec.toString event = some line → codec.isUtf8 line = true ∧ codec.trim line = line
  nil_isText : codec.isUtf8 [] = true ∧ codec.trim [] = []

/-- `compute_chain_hash`. -/
def computeChainHash (codec : AuditCodec) (previousHash : FixedBytes 32) (event : AuditEvent) :
    HsmResult (FixedBytes 32) :=
  match codec.toVec event.toAuditEventPayload with
  | none => .error .generalError
  | some payloadBytes => .ok (codec.sha256 (previousHash.val ++ payloadBytes))

/-- The hash a list of events reaches from `start`, if they are a chain. -/
def chainHash (codec : AuditCodec) (start : FixedBytes 32) (events : List AuditEvent) :
    Option (FixedBytes 32) :=
  followChain AuditEvent.previousHash (fun hash event ↦
    (computeChainHash codec hash event).toOption) start events

/-! ### Files -/

/-- The current file, `0`, and its rotated generations, where they exist. -/
abbrev LogFiles := Nat → Option Bytes

def maxLogFileBytes : Nat := 100 * 1024 * 1024

def maxRotatedFiles : Nat := 5

def maxInMemoryEntries : Nat := 100000

/-- What a write of a line comes to. -/
inductive WriteOutcome where
  | written
  /-- The write fails and leaves nothing in the file. -/
  | nothing
  /-- The write fails with the whole line in the file. -/
  | wholeLine
  deriving DecidableEq, Repr

/-- What the operating system answers to the file operations of one request. -/
structure DiskOutcome where
  opens : Bool
  /-- The size of the open file can be read. -/
  reportsSize : Bool
  /-- The file of a generation can be renamed to the next one. -/
  renames : Nat → Bool
  reopens : Bool
  write : WriteOutcome
  syncs : Bool

namespace LogFiles

variable (files : LogFiles)

/-- Open for appending: the current file is created if it is missing. -/
def touch : LogFiles := Function.update files 0 (some ((files 0).getD []))

/-- The file of generation `gen` becomes the file of generation `gen + 1`. -/
def rename (gen : Nat) : LogFiles :=
  Function.update (Function.update files (gen + 1) (files gen)) gen none

def append (bytes : Bytes) : LogFiles :=
  Function.update files 0 (some ((files 0).getD [] ++ bytes))

/-- The length of the current file. -/
def size : Nat := ((files 0).getD []).length

end LogFiles

variable (codec : AuditCodec) (disk : DiskOutcome)

/-- One rename of `rotate_log_files`. -/
def renameGeneration (gen : Nat) : Program LogFiles HsmError Unit := do
  require (disk.renames gen = true) .generalError
  update fun files ↦ files.rename gen

/-- The renames of `rotate_log_files` from generation `gen` down: a rotated file is shifted if it
exists, and then the current file becomes generation 1. -/
def shiftGenerations (disk : DiskOutcome) : Nat → Program LogFiles HsmError Unit
  | 0 => renameGeneration disk 0
  | gen + 1 => do
    let present ← view fun files : LogFiles ↦ (files (gen + 1)).isSome
    if present then renameGeneration disk (gen + 1) else pure ()
    shiftGenerations disk gen

/-- `rotate_log_files`. -/
def rotateLogFiles : Program LogFiles HsmError Unit :=
  shiftGenerations disk (maxRotatedFiles - 1)

/-- The rotation of a current file of the given size, and the file that is opened in its place. -/
def rotateIfFull (fileSize : Nat) : Program LogFiles HsmError Unit :=
  if maxLogFileBytes ≤ fileSize then do
    rotateLogFiles disk
    require (disk.reopens = true) .generalError
    update LogFiles.touch
  else pure ()

/-- `writeln!` and `sync_all` on the open file. -/
def appendLine (line : Bytes) : Program LogFiles HsmError Unit :=
  match disk.write with
  | .written => do
    update fun files ↦ files.append (line ++ [newline])
    require (disk.syncs = true) .generalError
  | .nothing => fail .generalError
  | .wholeLine => do
    update fun files ↦ files.append (line ++ [newline])
    fail .generalError

/-- The disk part of `process_record`. -/
def writeRecord (event : AuditEvent) : Program LogFiles HsmError Unit := do
  require (disk.opens = true) .generalError
  update LogFiles.touch
  let fileSize ← view fun files : LogFiles ↦ if disk.reportsSize then files.size else 0
  rotateIfFull disk fileSize
  match codec.toString event with
  | none => fail .generalError
  | some line => appendLine disk line

/-! ### The log and its worker -/

/-- `AuditLogState`. -/
structure AuditLogState where
  entries : List AuditEvent
  lastHash : FixedBytes 32
  tamperDetected : Bool
  lastTimestamp : Nat

/-- The worker's own copies. -/
structure Worker where
  lastHash : FixedBytes 32
  lastTimestamp : Nat

/-- `AuditLog`. -/
structure AuditLog where
  state : AuditLogState
  /-- A log path is configured. -/
  logPath : Bool
  tamperFlag : Bool
  worker : Worker

/-- A log and the files on its path. -/
structure AuditSystem where
  log : AuditLog
  files : LogFiles

/-- One request to record an event, with the wall clock (in nanoseconds) when it is handled. -/
structure RecordRequest where
  wall : Nat
  sessionHandle : Nat
  operation : AuditOperation
  result : AuditResult
  keyId : Option String
  /-- The caller waits for the outcome (`record_sync`). -/
  sync : Bool

/-- The timestamp after `last`, unless the 64-bit timestamps are used up. -/
def nextTimestamp (wall last : Nat) : Option Nat :=
  let wallTimestamp := min wall (2 ^ 64 - 1)
  if wallTimestamp ≤ last then
    if last + 1 < 2 ^ 64 then some (last + 1) else none
  else some wallTimestamp

/-- `char::is_control`: the Unicode category `Cc`. -/
def isControl (c : Char) : Bool := c.toNat < 32 || (127 ≤ c.toNat && c.toNat < 160)

/-- `sanitize_audit_field`. -/
def sanitizeAuditField (s : String) : String :=
  String.ofList ((s.toList.filter fun c ↦ !isControl c).take 256)

/-- The request as it is queued. -/
def RecordRequest.sanitized (request : RecordRequest) : RecordRequest :=
  { request with keyId := request.keyId.map sanitizeAuditField }

/-- The event that a request adds after the worker's last hash. -/
def AuditLog.eventAt (log : AuditLog) (request : RecordRequest) (timestamp : Nat) : AuditEvent where
  timestamp := timestamp
  sessionHandle := request.sessionHandle
  operation := request.operation
  keyId := request.keyId
  result := request.result
  previousHash := log.worker.lastHash

/-- The commit of an event to the shared state. -/
def AuditLogState.commit (state : AuditLogState) (event : AuditEvent) (newHash : FixedBytes 32) :
    AuditLogState :=
  let entries := state.entries ++ [event]
  { state with
    lastHash := newHash
    lastTimestamp := event.timestamp
    entries := entries.drop (entries.length - maxInMemoryEntries) }

/-- `process_record`. -/
def processRecord (request : RecordRequest) : Program AuditSystem HsmError Unit := fun s ↦
  if s.log.tamperFlag then
    (.error (.auditChainBroken "audit chain tamper previously detected"), s)
  else match nextTimestamp request.wall s.log.worker.lastTimestamp with
    | none =>
      (.error (.auditChainBroken "timestamp space exhausted"),
        { s with log := { s.log with tamperFlag := true } })
    | some timestamp =>
      let event := s.log.eventAt request timestamp
      match computeChainHash codec s.log.worker.lastHash event with
      | .error e =>
        (.error e,
          { s with log := { s.log with worker.lastTimestamp := timestamp } })
      | .ok newHash =>
        -- The worker's hash moves on before the event is on disk.
        let log := { s.log with worker := { lastHash := newHash, lastTimestamp := timestamp } }
        let committed := { log with state := s.log.state.commit event newHash }
        if s.log.logPath then
          match writeRecord codec disk event s.files with
          | (.error e, files) => (.error e, { log, files })
          | (.ok (), files) => (.ok (), { log := committed, files })
        else (.ok (), { s with log := committed })

/-- `record_internal` with the worker's handling of the request: the caller of `record_sync` gets
the outcome, the caller of `record` is answered once the request is queued. -/
def recordInternal (request : RecordRequest) : Program AuditSystem HsmError Unit := fun s ↦
  if s.log.tamperFlag then
    (.error (.auditChainBroken "refusing to record: audit chain tamper previously detected"), s)
  else
    let (outcome, s') := processRecord codec disk request.sanitized s
    (if request.sync then outcome else .ok (), s')

/-! ### Recovery -/

/-- Why an existing file is refused, with the line. -/
inductive BrokenChain where
  | unreadable (line : Nat)
  | undecodable (line : Nat)
  | tampered (line : Nat) (expected found : Bytes)
  | unserialisable (line : Nat)
  deriving DecidableEq, Repr

/-- `ChainRecoveryResult`. -/
inductive ChainRecoveryResult where
  | noFile
  | verified (hash : FixedBytes 32)
  | broken (reason : BrokenChain)
  deriving DecidableEq, Repr

/-- The loop of `recover_chain_from_file` over the lines from number `line` on. -/
def recoverLines (codec : AuditCodec) :
    FixedBytes 32 → Nat → List Bytes → Except BrokenChain (FixedBytes 32)
  | runningHash, _, [] => .ok runningHash
  | runningHash, line, bytes :: lines =>
    if codec.isUtf8 bytes then
      if codec.trim bytes = [] then recoverLines codec runningHash (line + 1) lines
      else match codec.fromStr (codec.trim bytes) with
        | none => .error (.undecodable line)
        | some event =>
          if event.previousHash = runningHash then
            match computeChainHash codec runningHash event with
            | .ok hash => recoverLines codec hash (line + 1) lines
            | .error _ => .error (.unserialisable line)
          else .error
            (.tampered line (runningHash.val.take 8) (event.previousHash.val.take 8))
    else .error (.unreadable line)

/-- What the loop comes to: a file that reaches the zero hash counts as empty. -/
def recoveryResult : Except BrokenChain (FixedBytes 32) → ChainRecoveryResult
  | .error reason => .broken reason
  | .ok runningHash => if runningHash = zeroHash then .noFile else .verified runningHash

/-- `recover_chain_from_file`. -/
def recoverChainFromFile (file : Option Bytes) : ChainRecoveryResult :=
  match file with
  | none => .noFile
  | some bytes => recoveryResult (recoverLines codec zeroHash 1 (bytes.splitOn newline))

/-- `new_with_path`, on a path that is accepted. -/
def newWithPath (files : LogFiles) : AuditSystem :=
  let (recoveredHash, tampered) := match recoverChainFromFile codec (files 0) with
    | .noFile => (zeroHash, false)
    | .verified hash => (hash, false)
    | .broken _ => (zeroHash, true)
  { log :=
      { state :=
          { entries := [], lastHash := recoveredHash, tamperDetected := tampered,
            lastTimestamp := 0 }
        logPath := true
        tamperFlag := tampered
        worker := { lastHash := recoveredHash, lastTimestamp := 0 } }
    files }

end CratonHsm.Audit
