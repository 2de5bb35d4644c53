import CratonHsm.Audit.Restart
import CratonHsm.Library.Enumeration

/-!
# The audit worker

Callers of `record`, `record_sync` and `flush` put commands into one channel, and a worker takes
them out in order. On a `Flush` the worker takes commands out until the channel is empty, answering
the flushes among them at once, and then answers the flush. `AuditService` is the channel with the
worker on one side and the callers on the other; a step is a send of some caller, or one turn of the
worker with what the clock and the operating system give it. A caller of `record_sync` or `flush`
returns once the worker has answered it, and the answers are kept in `replies`.

A service keeps the history of what was sent, received, processed and committed. As long as the file
operations succeed and the tamper flag is not set, every request is committed once, in the order of
the sends, before its caller is answered (`requests_kept_in_order`): what is received is what was
sent, less what is still in the channel, and what is committed are the requests among it.
-/

set_option autoImplicit false

namespace CratonHsm.Audit

open Library (Program FoldMeets foldl_invariant foldMeets_of_invariant)
open Library.Program

variable {disk : DiskOutcome}

variable {codec : AuditCodec}

/-! ### One request -/

/-- Serialising a payload or an event does not fail. -/
structure AuditCodec.Total (codec : AuditCodec) : Prop where
  toVec (payload : AuditEventPayload) : (codec.toVec payload).isSome = true
  toString (event : AuditEvent) : (codec.toString event).isSome = true

theorem rotateIfFull_clean (h : disk.Clean) (files : LogFiles) :
    (rotateIfFull disk (disk.seenSize files) files.touch).1 = .ok () := by
  by_cases hfull : disk.FindsFull files
  · have hcurrent := current_of_findsFull hfull
    have hrotates : (rotateLogFiles disk files).1 = .ok () :=
      (rotateLogFiles_ok_iff hcurrent).mpr fun gen hgen _ ↦ h.2.2.1 gen hgen
    rw [touch_of_ne_none hcurrent, rotateIfFull, if_pos (findsFull_iff.mp hfull)]
    rcases hrotated : rotateLogFiles disk files with ⟨answer, files'⟩
    rw [hrotated] at hrotates
    obtain rfl : answer = .ok () := hrotates
    rw [bind_apply, hrotated]
    dsimp only
    rw [require_bind, if_pos h.2.2.2.1]
    rfl
  · rw [rotateIfFull, if_neg fun hsize ↦ hfull (findsFull_iff.mpr hsize)]
    rfl

/-- A request whose file operations succeed leaves the line of its event at the end of the current
file. -/
theorem writeRecord_clean (h : disk.Clean) {event : AuditEvent} {line : Bytes}
    (hline : codec.toString event = some line) (files : LogFiles) :
    ∃ mid : LogFiles, writeRecord codec disk event files =
      (.ok (), mid.append (line ++ [newline])) := by
  have hrotated := rotateIfFull_clean h files
  rcases hmid : rotateIfFull disk (disk.seenSize files) files.touch with ⟨answer, mid⟩
  rw [hmid] at hrotated
  obtain rfl : answer = .ok () := hrotated
  refine ⟨mid, ?_⟩
  unfold writeRecord
  rw [require_bind, if_pos h.1, update_bind, view_bind, bind_apply]
  have hseen : (if disk.reportsSize then files.touch.size else 0) = disk.seenSize files := rfl
  rw [hseen, hmid]
  rw [hline]
  dsimp only
  rw [appendLine_apply, if_neg (by rw [h.2.2.2.2.1]; exact nofun),
    if_pos ⟨h.2.2.2.2.1, h.2.2.2.2.2⟩]

/-- How a request ends when nothing fails: it is refused and the tamper flag is set, or its event is
committed, with its line at the end of the current file. -/
inductive Processed (codec : AuditCodec) (request : RecordRequest) (s : AuditSystem) :
    HsmResult Unit → AuditSystem → Prop where
  | refused {e : HsmError} {s' : AuditSystem} (htamper : s'.log.tamperFlag = true)
      (hstate : s'.log.state = s.log.state) (hworker : s'.log.worker = s.log.worker)
      (hpath : s'.log.logPath = s.log.logPath) : Processed codec request s (.error e) s'
  | committed {timestamp : Nat} {hash : FixedBytes 32} {s' : AuditSystem}
      (htamper : s.log.tamperFlag = false)
      (htime : nextTimestamp request.wall s.log.worker.lastTimestamp = some timestamp)
      (hhash : computeChainHash codec s.log.worker.lastHash (s.log.eventAt request timestamp) =
        .ok hash)
      (hlog : s'.log = { s.log with
        worker := { lastHash := hash, lastTimestamp := timestamp }
        state := s.log.state.commit (s.log.eventAt request timestamp) hash })
      (hfiles : s.log.logPath = true → ∃ (mid : LogFiles) (line : Bytes),
        codec.toString (s.log.eventAt request timestamp) = some line ∧
          s'.files = mid.append (line ++ [newline])) :
      Processed codec request s (.ok ()) s'

theorem processRecord_clean (htotal : codec.Total) (request : RecordRequest) {s : AuditSystem}
    (hclean : s.log.logPath = true → disk.Clean) :
    (processRecord codec disk request).Ensures s (Processed codec request s) := by
  unfold Ensures processRecord
  by_cases htamper : s.log.tamperFlag = true
  · rw [if_pos htamper]
    exact .refused htamper rfl rfl rfl
  rw [if_neg htamper]
  cases htime : nextTimestamp request.wall s.log.worker.lastTimestamp with
  | none => exact .refused rfl rfl rfl rfl
  | some timestamp =>
    dsimp only
    have hfalse : s.log.tamperFlag = false := by simpa using htamper
    obtain ⟨text, htext⟩ := Option.isSome_iff_exists.mp
      (htotal.toVec (s.log.eventAt request timestamp).toAuditEventPayload)
    obtain ⟨hash, hhash⟩ : ∃ hash, computeChainHash codec s.log.worker.lastHash
        (s.log.eventAt request timestamp) = .ok hash := by
      rw [computeChainHash, htext]
      exact ⟨_, rfl⟩
    rw [hhash]
    dsimp only
    -- The committed state is compared as a whole.
    obtain ⟨committed, hcommit⟩ : ∃ committed,
      s.log.state.commit (s.log.eventAt request timestamp) hash = committed := ⟨_, rfl⟩
    by_cases hpath : s.log.logPath = true
    · obtain ⟨line, hline⟩ := Option.isSome_iff_exists.mp
        (htotal.toString (s.log.eventAt request timestamp))
      obtain ⟨mid, hwrite⟩ := writeRecord_clean (hclean hpath) hline s.files
      rw [if_pos hpath, hwrite, hcommit]
      exact .committed hfalse htime hhash (by rw [hcommit]) fun _ ↦ ⟨mid, line, hline, rfl⟩
    · rw [if_neg hpath, hcommit]
      exact .committed hfalse htime hhash (by rw [hcommit]) fun htrue ↦ absurd htrue hpath

theorem lt_of_nextTimestamp {wall last timestamp : Nat}
    (h : nextTimestamp wall last = some timestamp) : last < timestamp := by
  unfold nextTimestamp at h
  dsimp only at h
  split_ifs at h with hwall hroom
  · obtain rfl := Option.some.inj h
    exact Nat.lt_succ_self last
  · obtain rfl := Option.some.inj h
    exact Nat.lt_of_not_le hwall

/-- `AuditLog::new`: no file, and the files of others. -/
def AuditSystem.new (files : LogFiles) : AuditSystem where
  log :=
    { state := { entries := [], lastHash := zeroHash, tamperDetected := false, lastTimestamp := 0 }
      logPath := false
      tamperFlag := false
      worker := { lastHash := zeroHash, lastTimestamp := 0 } }
  files := files

/-! ### The service -/

/-- `AuditCommand`. -/
inductive AuditCommand where
  | record (request : RecordRequest)
  | flush

/-- The channel with the worker and the callers. Commands are numbered in the order of the sends. -/
structure AuditService where
  system : AuditSystem
  channel : List (Nat × AuditCommand)
  /-- The flush for which the worker is emptying the channel. -/
  draining : Option Nat
  /-- What the callers that wait have been answered. -/
  replies : List (Nat × HsmResult Unit)
  /-- Every command that was sent. -/
  sent : List AuditCommand
  /-- Every command that the worker has taken out of the channel. -/
  received : List (Nat × AuditCommand)
  /-- The requests that the worker has processed, with their outcomes. -/
  processed : List (Nat × HsmResult Unit)
  /-- The events that the worker has committed, with the numbers of their requests. -/
  committed : List (Nat × AuditEvent)

/-- A step: a caller sends a command, or the worker takes a turn. -/
inductive ServiceStep where
  | send (command : AuditCommand)
  | work (wall : Nat) (disk : DiskOutcome)

namespace AuditService

/-- The worker and the channel of a log that was just created. -/
def start (system : AuditSystem) : AuditService where
  system := system
  channel := []
  draining := none
  replies := []
  sent := []
  received := []
  processed := []
  committed := []

def enqueue (s : AuditService) (command : AuditCommand) : AuditService :=
  { s with
    channel := s.channel ++ [(s.sent.length, command)]
    sent := s.sent ++ [command] }

/-- `record_internal` and `flush` up to the send: a request is sanitised, and refused once the
tamper flag is set. -/
def send (s : AuditService) : AuditCommand → AuditService
  | .record request => if s.system.log.tamperFlag then s else s.enqueue (.record request.sanitized)
  | .flush => s.enqueue .flush

/-- A request is processed, and its caller is answered if it waits. -/
def process (codec : AuditCodec) (wall : Nat) (disk : DiskOutcome) (s : AuditService) (number : Nat)
    (request : RecordRequest) : AuditService :=
  let (outcome, system) := processRecord codec disk { request with wall := wall } s.system
  { s with
    system := system
    processed := s.processed ++ [(number, outcome)]
    committed := s.committed ++ match outcome with
      | .ok () => (system.log.state.entries.getLast?.map (number, ·)).toList
      | .error _ => []
    replies := s.replies ++ if request.sync then [(number, outcome)] else [] }

/-- What the worker does with a command: both loops process a request alike; a flush starts the
inner loop, and is answered at once inside it. -/
def handle (codec : AuditCodec) (wall : Nat) (disk : DiskOutcome) (s : AuditService)
    (number : Nat) : AuditCommand → AuditService
  | .record request => s.process codec wall disk number request
  | .flush => match s.draining with
    | none => { s with draining := some number }
    | some _ => { s with replies := s.replies ++ [(number, .ok ())] }

/-- One turn of the worker: `recv` in the outer loop waits for a command; `try_recv` in the inner
loop ends it when there is none. -/
def work (codec : AuditCodec) (wall : Nat) (disk : DiskOutcome) (s : AuditService) : AuditService :=
  match s.channel with
  | (number, command) :: channel =>
    { s with channel := channel, received := s.received ++ [(number, command)] }.handle codec
      wall disk number command
  | [] => match s.draining with
    | none => s
    | some number =>
      { s with draining := none, replies := s.replies ++ [(number, .ok ())] }

def step (codec : AuditCodec) (s : AuditService) : ServiceStep → AuditService
  | .send command => s.send command
  | .work wall disk => s.work codec wall disk

def run (codec : AuditCodec) (s : AuditService) (steps : List ServiceStep) : AuditService :=
  steps.foldl (step codec) s

end AuditService

/-! ### What is guaranteed -/

/-- Commands with their numbers. -/
def numbered (commands : List AuditCommand) : List (Nat × AuditCommand) :=
  commands.zipIdx.map Prod.swap

/-- The numbers of the requests among commands. -/
def requestNumbers (commands : List (Nat × AuditCommand)) : List Nat :=
  commands.filterMap fun entry ↦ match entry.2 with
    | .record _ => some entry.1
    | .flush => none

/-- The event says what the request asked to record. -/
def Carries (request : RecordRequest) (event : AuditEvent) : Prop :=
  event.sessionHandle = request.sessionHandle ∧ event.operation = request.operation ∧
    event.keyId = request.keyId ∧ event.result = request.result

/-- The last entries, as many as are kept in memory. -/
@[irreducible]
def lastEntries (events : List AuditEvent) : List AuditEvent :=
  events.drop (events.length - maxInMemoryEntries)

/-- Requests are processed and committed once and in the order they were sent. -/
structure InOrder (s : AuditService) : Prop where
  /-- What was processed and what is still in the channel is what was sent. -/
  processed : s.processed.map Prod.fst ++ requestNumbers s.channel =
    requestNumbers (numbered s.sent)
  /-- What was processed was committed. -/
  committed : s.committed.map Prod.fst = s.processed.map Prod.fst
  carries : ∀ entry ∈ s.committed, ∃ request, s.sent[entry.1]? = some (.record request) ∧
    Carries request entry.2
  /-- The entries in memory are the last of the committed events. -/
  entries : s.system.log.state.entries = lastEntries (s.committed.map Prod.snd)
  /-- Whoever is answered is answered after the requests before were committed, and its own. -/
  answered : ∀ reply ∈ s.replies, ∀ number ≤ reply.1, ∀ request,
    s.sent[number]? = some (.record request) → ∃ event, (number, event) ∈ s.committed
  timestamps : s.system.log.state.entries.Pairwise fun event later ↦
    event.timestamp < later.timestamp

/-- When a caller of `record_sync` is answered, its event is the last one in memory and, if there is
a log file, on its last line. -/
def AnswersDurable (codec : AuditCodec) (s : AuditService) (step : ServiceStep) : Prop :=
  ∀ number request, (number, .ok ()) ∈ (s.step codec step).replies → (number, .ok ()) ∉ s.replies →
    s.sent[number]? = some (.record request) →
    ∃ event, (number, event) ∈ (s.step codec step).committed ∧
      (s.step codec step).system.log.state.entries.getLast? = some event ∧
      ((s.step codec step).system.log.logPath = true → ∃ before line,
        codec.toString event = some line ∧
          (s.step codec step).system.files 0 = some (before ++ (line ++ [newline])))

/-- The file operations of the step succeed. -/
def IoSucceeds (s : AuditService) : ServiceStep → Prop
  | .send _ => True
  | .work _ disk => s.system.log.logPath = true → disk.Clean

/-- The file operations of the step succeed and the tamper flag is not set. -/
def Undisturbed (codec : AuditCodec) (s : AuditService) (step : ServiceStep) : Prop :=
  IoSucceeds s step ∧ (s.step codec step).system.log.tamperFlag = false

instance (s : AuditService) : DecidablePred (IoSucceeds s)
  | .send _ => .isTrue trivial
  | .work _ disk => inferInstanceAs (Decidable (s.system.log.logPath = true → disk.Clean))

instance (s : AuditService) (step : ServiceStep) : Decidable (Undisturbed codec s step) :=
  inferInstanceAs (Decidable (_ ∧ _))

/-! ### One step -/

theorem getElem?_numbered (commands : List AuditCommand) (number : Nat) :
    (numbered commands)[number]? = commands[number]?.map (number, ·) := by
  rw [numbered, List.getElem?_map, List.getElem?_zipIdx, Option.map_map]
  simp only [Nat.zero_add]
  rfl

theorem numbered_concat (commands : List AuditCommand) (command : AuditCommand) :
    numbered (commands ++ [command]) = numbered commands ++ [(commands.length, command)] := by
  simp [numbered, List.zipIdx_append]

theorem requestNumbers_append (commands later : List (Nat × AuditCommand)) :
    requestNumbers (commands ++ later) = requestNumbers commands ++ requestNumbers later :=
  List.filterMap_append

theorem mem_requestNumbers {commands : List (Nat × AuditCommand)} {number : Nat}
    {request : RecordRequest}
    (h : (number, .record request) ∈ commands) : number ∈ requestNumbers commands :=
  List.mem_filterMap.mpr ⟨_, h, rfl⟩

theorem lastEntries_nil : lastEntries [] = [] := by
  unfold lastEntries
  exact List.drop_nil

theorem lastEntries_sublist (events : List AuditEvent) : (lastEntries events).Sublist events := by
  unfold lastEntries
  exact List.drop_sublist ..

theorem lastEntries_of_room {events : List AuditEvent} (hroom : events.length < maxInMemoryEntries)
    (event : AuditEvent) : lastEntries (events ++ [event]) = events ++ [event] := by
  unfold lastEntries
  rw [List.length_append, List.length_singleton, Nat.sub_eq_zero_of_le hroom, List.drop_zero]

theorem commit_entries (state : AuditLogState) (event : AuditEvent) (hash : FixedBytes 32) :
    (state.commit event hash).entries = lastEntries (state.entries ++ [event]) := by
  unfold AuditLogState.commit lastEntries
  dsimp only

/-- Keeping the last entries of what was kept and one more is keeping the last of all. -/
theorem lastEntries_concat (events : List AuditEvent) (event : AuditEvent) :
    lastEntries (lastEntries events ++ [event]) = lastEntries (events ++ [event]) := by
  unfold lastEntries
  obtain ⟨cap, hcap⟩ : ∃ cap, maxInMemoryEntries = cap := ⟨_, rfl⟩
  rw [hcap, ← List.drop_append_of_le_length (Nat.sub_le events.length cap), List.drop_drop,
    List.length_drop, List.length_append, List.length_singleton]
  have hcount : events.length - cap + (events.length + 1 - (events.length - cap) - cap) =
      events.length + 1 - cap := by omega
  rw [hcount]

namespace AuditService

/-- What every undisturbed step keeps. The worker has received a first part of what was sent, and
has committed the requests in it. -/
structure Inv (s : AuditService) : Prop where
  order : numbered s.sent = s.received ++ s.channel
  processed : s.processed.map Prod.fst = requestNumbers s.received
  committed : s.committed.map Prod.fst = requestNumbers s.received
  carries : ∀ entry ∈ s.committed, ∃ request, (entry.1, .record request) ∈ s.received ∧
    Carries request entry.2
  entries : s.system.log.state.entries = lastEntries (s.committed.map Prod.snd)
  draining : ∀ number ∈ s.draining, (number, .flush) ∈ s.received
  answered : ∀ reply ∈ s.replies, reply.1 < s.received.length
  increasing : (s.committed.map Prod.snd).Pairwise fun event later ↦
    event.timestamp < later.timestamp
  times : ∀ entry ∈ s.committed, entry.2.timestamp ≤ s.system.log.worker.lastTimestamp

section Step

variable {s : AuditService} {number : Nat} {channel : List (Nat × AuditCommand)}

theorem inv_start {system : AuditSystem} (hnew : system.log.state.entries = []) :
    (start system).Inv where
  order := rfl
  processed := rfl
  committed := rfl
  carries := by simp [start]
  entries := hnew.trans lastEntries_nil.symm
  draining := by simp [start]
  answered := by simp [start]
  increasing := .nil
  times := by simp [start]

theorem Inv.enqueue (h : s.Inv) (command : AuditCommand) : (s.enqueue command).Inv :=
  { h with
    order := by
      change numbered (s.sent ++ [command]) =
        s.received ++ (s.channel ++ [(s.sent.length, command)])
      rw [numbered_concat, h.order, List.append_assoc] }

/-- The commands received are the first that were sent. -/
theorem Inv.getElem?_received (h : s.Inv) (hlt : number < s.received.length) :
    s.received[number]? = s.sent[number]?.map (number, ·) := by
  rw [← getElem?_numbered, h.order, List.getElem?_append_left hlt]

theorem Inv.sent_of_mem (h : s.Inv) {command : AuditCommand}
    (hmem : (number, command) ∈ s.received) :
    number < s.received.length ∧ s.sent[number]? = some command := by
  obtain ⟨index, hlt, hindex⟩ := List.mem_iff_getElem.mp hmem
  have hfound := h.getElem?_received hlt
  rw [List.getElem?_eq_getElem hlt, hindex] at hfound
  obtain ⟨found, hsent, heq⟩ := Option.map_eq_some_iff.mp hfound.symm
  obtain ⟨rfl, rfl⟩ := Prod.mk.inj heq
  exact ⟨hlt, hsent⟩

/-- The next command in the channel is the one that was sent after those received. -/
theorem Inv.next (h : s.Inv) {command : AuditCommand}
    (hchannel : s.channel = (number, command) :: channel) :
    number = s.received.length ∧ s.sent[number]? = some command := by
  have hnext : (numbered s.sent)[s.received.length]? = some (number, command) := by
    rw [h.order, hchannel]
    simp
  rw [getElem?_numbered] at hnext
  obtain ⟨found, hfound, heq⟩ := Option.map_eq_some_iff.mp hnext
  obtain ⟨rfl, rfl⟩ := Prod.mk.inj heq
  exact ⟨rfl, hfound⟩

/-- A request is committed when it is taken out of the channel. -/
theorem Inv.process (h : s.Inv) (htotal : codec.Total) {request : RecordRequest}
    (hchannel : s.channel = (number, .record request) :: channel) {wall : Nat}
    (hclean : s.system.log.logPath = true → disk.Clean) {s' : AuditService} (hs' : s' = { s with
      channel := channel
      received := s.received ++ [(number, AuditCommand.record request)] }.process codec wall disk
        number request)
    (htamper : s'.system.log.tamperFlag = false) :
    s'.Inv ∧ ∃ event, (number, event) ∈ s'.committed ∧
      s'.system.log.state.entries.getLast? = some event ∧
      s'.replies = s.replies ++ (if request.sync then [(number, .ok ())] else []) ∧
      (s'.system.log.logPath = true → ∃ before line, codec.toString event = some line ∧
        s'.system.files 0 = some (before ++ (line ++ [newline]))) := by
  have hprocessed : Processed codec { request with wall := wall } s.system _ _ :=
    processRecord_clean htotal { request with wall := wall } hclean
  rcases hresult : processRecord codec disk { request with wall := wall }
    s.system with ⟨outcome, system⟩
  rw [hresult] at hprocessed
  unfold AuditService.process at hs'
  simp only [hresult] at hs'
  cases hprocessed with
  | refused htampered =>
    rw [hs'] at htamper
    cases htampered.symm.trans htamper
  | @committed timestamp hash _ hclear htime hhash hlog hfiles =>
    obtain ⟨event, hevent⟩ : ∃ event,
      s.system.log.eventAt { request with wall := wall } timestamp = event := ⟨_, rfl⟩
    rw [hevent] at hlog hfiles
    have hlast : system.log.state.entries.getLast? = some event := by
      rw [hlog]
      exact getLast?_commit ..
    have hentries : system.log.state.entries =
        lastEntries (s.system.log.state.entries ++ [event]) := by
      rw [hlog, ← commit_entries _ event hash]
    have hcommitted : s'.committed = s.committed ++ [(number, event)] := by
      rw [hs', hlast]
      rfl
    have hlater : ∀ entry ∈ s.committed, entry.2.timestamp < event.timestamp :=
      fun entry hentry ↦ by
      rw [← hevent]
      exact lt_of_le_of_lt (h.times entry hentry) (lt_of_nextTimestamp htime)
    have hcarries : Carries request event := by
      rw [← hevent]
      exact ⟨rfl, rfl, rfl, rfl⟩
    have hreceived : s'.received = s.received ++ [(number, .record request)] := by rw [hs']
    have hnumbers : requestNumbers s'.received = requestNumbers s.received ++ [number] := by
      rw [hreceived, requestNumbers_append]
      rfl
    have hreplies : s'.replies = s.replies ++
        (if request.sync then [(number, .ok ())] else []) := by
      rw [hs']
    have hnumber : number = s.received.length := (h.next hchannel).1
    have hworker : s'.system.log.worker.lastTimestamp = event.timestamp := by
      rw [hs', hlog, ← hevent]
      rfl
    refine ⟨?_, event, by simp [hcommitted], by rwa [hs'], hreplies, fun hpath ↦ ?_⟩
    · constructor
      case order => simp [hs', h.order, hchannel]
      case processed =>
        rw [hnumbers, ← h.processed, hs']
        simp
      case committed => simp [hnumbers, hcommitted, h.committed]
      case entries =>
        rw [hcommitted, List.map_append, List.map_singleton, ← lastEntries_concat, ← h.entries,
          ← hentries, hs']
      case draining => simpa [hs'] using h.draining
      case increasing =>
        rw [hcommitted, List.map_append, List.pairwise_append]
        exact ⟨h.increasing, List.pairwise_singleton _ _, by grind⟩
      -- What was committed or answered before stays so.
      all_goals
        have := h.carries
        have := h.answered
        grind
    · rw [hs', hlog] at hpath
      obtain ⟨mid, line, hline, hwritten⟩ := hfiles hpath
      refine ⟨(mid 0).getD [], line, hline, ?_⟩
      rw [hs']
      rw [hwritten, LogFiles.append, Function.update_self]

/-- A flush is taken out of the channel: it starts the inner loop, or is answered in it. -/
theorem Inv.flush (h : s.Inv) (hchannel : s.channel = (number, .flush) :: channel)
    {draining : Option Nat} {replies : List (Nat × HsmResult Unit)}
    (hdraining : ∀ flush ∈ draining, flush = number ∨ flush ∈ s.draining)
    (hreplies : ∀ reply ∈ replies, reply.1 = number ∨ reply ∈ s.replies) :
    ({ s with
      channel := channel
      received := s.received ++ [(number, .flush)]
      draining := draining
      replies := replies } : AuditService).Inv := by
  have hnumber : number = s.received.length := (h.next hchannel).1
  have hnumbers : requestNumbers (s.received ++ [(number, .flush)]) =
      requestNumbers s.received := by
    rw [requestNumbers_append]
    exact List.append_nil _
  constructor
  case order => simp [h.order, hchannel]
  case processed => exact h.processed.trans hnumbers.symm
  case committed => exact h.committed.trans hnumbers.symm
  case entries => exact h.entries
  case increasing => exact h.increasing
  case times => exact h.times
  all_goals
    have := h.carries
    have := h.draining
    have := h.answered
    grind

/-- The inner loop ends. -/
theorem Inv.drained (h : s.Inv) (hdraining : s.draining = some number) :
    ({ s with draining := none, replies := s.replies ++ [(number, .ok ())] } : AuditService).Inv :=
  { h with
    draining := fun _ hnone ↦ nomatch hnone
    answered := fun reply hreply ↦ by
      rcases List.mem_append.mp hreply with hreply | hreply
      · exact h.answered reply hreply
      · rw [List.mem_singleton.mp hreply]
        exact (h.sent_of_mem (h.draining number hdraining)).1 }

/-- Answers to flushes say nothing about requests. -/
theorem answersDurable_of_flushes {step : ServiceStep}
    (h : ∀ reply ∈ (s.step codec step).replies, s.sent[reply.1]? = some .flush ∨
      reply ∈ s.replies) :
    AnswersDurable codec s step := by
  intro number request hnew hold hsent
  rcases h _ hnew with hflush | hmem
  · cases hsent.symm.trans hflush
  · exact absurd hmem hold

/-- One turn of the worker. -/
theorem Inv.work (h : s.Inv) (htotal : codec.Total) {wall : Nat}
    (hmeets : Undisturbed codec s (.work wall disk)) :
    (s.work codec wall disk).Inv ∧ AnswersDurable codec s (.work wall disk) := by
  obtain ⟨hclean, htamper⟩ := hmeets
  cases hchannel : s.channel with
  | cons entry channel =>
    obtain ⟨number, command⟩ := entry
    have hwork : s.work codec wall disk = { s with
        channel := channel
        received := s.received ++ [(number, command)] }.handle codec wall disk number command := by
      rw [AuditService.work, hchannel]
    have hsent : s.sent[number]? = some command := (h.next hchannel).2
    cases command with
    | record request =>
      obtain ⟨hinv, event, hcommitted, hlast, hreplies, hfile⟩ :=
        h.process htotal hchannel hclean hwork htamper
      refine ⟨hinv, fun other found hnew hold hfound ↦ ?_⟩
      -- The only new answer is that of the request.
      have hother : other = number := by
        have hmem : (other, .ok ()) ∈ s.replies ++
            (if request.sync then [(number, .ok ())] else []) :=
          hreplies ▸ hnew
        rcases List.mem_append.mp hmem with hmem | hmem
        · exact absurd hmem hold
        · split_ifs at hmem
          · exact congrArg Prod.fst (List.mem_singleton.mp hmem)
          · cases hmem
      subst hother
      exact ⟨event, hcommitted, hlast, hfile⟩
    | flush =>
      rw [handle] at hwork
      refine ⟨?_, answersDurable_of_flushes fun reply hreply ↦ ?_⟩
      · rw [hwork]
        cases hdraining : s.draining with
        | none => exact h.flush hchannel (by simp) fun _ hreply ↦ Or.inr hreply
        | some outer => exact h.flush hchannel (by simp [hdraining]) (by grind)
      · change reply ∈ (s.work codec wall disk).replies at hreply
        cases hdraining : s.draining <;> grind
  | nil =>
    have hwork : s.work codec wall disk = match s.draining with
        | none => s
        | some number =>
          { s with draining := none, replies := s.replies ++ [(number, .ok ())] } := by
      rw [AuditService.work, hchannel]
    have hflush := fun number hnumber ↦ (h.sent_of_mem (h.draining number hnumber)).2
    refine ⟨?_, answersDurable_of_flushes fun reply hreply ↦ ?_⟩
    · rw [hwork]
      cases hdraining : s.draining with
      | none => exact h
      | some number => exact h.drained hdraining
    · change reply ∈ (s.work codec wall disk).replies at hreply
      cases hdraining : s.draining <;> grind

theorem Inv.send (h : s.Inv) (command : AuditCommand) :
    (s.send command).Inv ∧ AnswersDurable codec s (.send command) := by
  have hreplies : ∀ reply ∈ (s.send command).replies, reply ∈ s.replies := by
    intro reply hreply
    cases command with
    | record request =>
      rw [AuditService.send] at hreply
      split_ifs at hreply
      · exact hreply
      · exact hreply
    | flush => exact hreply
  refine ⟨?_, answersDurable_of_flushes fun reply hreply ↦ Or.inr (hreplies reply hreply)⟩
  cases command with
  | record request =>
    rw [AuditService.send]
    split_ifs
    · exact h
    · exact h.enqueue _
  | flush => exact h.enqueue _

/-- An undisturbed step keeps the invariant, and what it answers is on disk. -/
theorem Inv.step (h : s.Inv) (htotal : codec.Total) {step : ServiceStep}
    (hmeets : Undisturbed codec s step) :
    (s.step codec step).Inv ∧ AnswersDurable codec s step := by
  cases step with
  | send command => exact h.send command
  | work wall disk => exact h.work htotal hmeets

/-- The requests before an answered command are committed. -/
theorem Inv.inOrder (h : s.Inv) : InOrder s where
  processed := by rw [h.processed, h.order, requestNumbers_append]
  committed := h.committed.trans h.processed.symm
  carries entry hentry := by
    obtain ⟨request, hrequest, hcarries⟩ := h.carries entry hentry
    exact ⟨request, (h.sent_of_mem hrequest).2, hcarries⟩
  entries := h.entries
  answered reply hreply number hle request hsent := by
    have hlt : number < s.received.length := lt_of_le_of_lt hle (h.answered reply hreply)
    have hreceived : s.received[number]? = some (number, .record request) := by
      rw [h.getElem?_received hlt, hsent]
      rfl
    have hmem := mem_requestNumbers (List.mem_of_getElem? hreceived)
    rw [← h.committed] at hmem
    obtain ⟨entry, hentry, rfl⟩ := List.mem_map.mp hmem
    exact ⟨entry.2, hentry⟩
  timestamps := by
    rw [h.entries]
    exact h.increasing.sublist (lastEntries_sublist _)

/-- A turn of the worker takes a command out of the channel, if there is one. -/
theorem length_channel_work (codec : AuditCodec) (wall : Nat) (disk : DiskOutcome)
    (s : AuditService) : (s.work codec wall disk).channel.length = s.channel.length - 1 := by
  unfold AuditService.work
  cases hchannel : s.channel with
  | nil =>
    cases s.draining with
    | none => exact congrArg List.length hchannel
    | some number => rfl
  | cons entry channel =>
    obtain ⟨number, command⟩ := entry
    cases command with
    | record request => rfl
    | flush =>
      cases s.draining with
      | none => rfl
      | some outer => rfl

theorem channel_emptied (turns : List (Nat × DiskOutcome)) (h : s.channel.length ≤ turns.length) :
    (s.run codec (turns.map fun turn ↦ .work turn.1 turn.2)).channel = [] := by
  induction turns generalizing s with
  | nil => exact List.eq_nil_of_length_eq_zero (Nat.le_zero.mp h)
  | cons turn turns ih =>
    refine ih ?_
    have hlength := length_channel_work codec turn.1 turn.2 s
    change (s.work codec turn.1 turn.2).channel.length ≤ turns.length
    rw [List.length_cons] at h
    omega

end Step

end AuditService

/-! ### Every run -/

/-- The logs that a worker is started for. -/
inductive Created (codec : AuditCodec) : AuditSystem → Prop
  | new (files : LogFiles) : Created codec (.new files)
  | withPath (files : LogFiles) : Created codec (newWithPath codec files)

/-- In every undisturbed run, requests are processed and committed once and in the order of the
sends, before their callers are answered; and as many turns of the worker as there are commands in
the channel empty it. -/
theorem requests_kept_in_order (htotal : codec.Total) {system : AuditSystem}
    (hnew : Created codec system) (steps : List ServiceStep)
    (hmeets : FoldMeets (AuditService.step codec) (Undisturbed codec) (.start system) steps) :
    InOrder ((AuditService.start system).run codec steps) ∧
      FoldMeets (AuditService.step codec) (AnswersDurable codec) (.start system) steps ∧
      ∀ turns : List (Nat × DiskOutcome),
        ((AuditService.start system).run codec steps).channel.length ≤ turns.length →
          (((AuditService.start system).run codec steps).run codec
            (turns.map fun turn ↦ .work turn.1 turn.2)).channel = [] := by
  have hentries : system.log.state.entries = [] := by
    cases hnew with
    | new files => rfl
    | withPath files => rfl
  have hstart : (AuditService.start system).Inv := AuditService.inv_start hentries
  have hinv : ((AuditService.start system).run codec steps).Inv :=
    foldl_invariant (fun _ _ h hmeet ↦ (h.step htotal hmeet).1) steps _ hstart hmeets
  refine ⟨hinv.inOrder, ?_, fun turns hturns ↦ ?_⟩
  · exact foldMeets_of_invariant (fun _ _ h hmeet ↦ h.step htotal hmeet) steps _ hstart hmeets
  · exact AuditService.channel_emptied turns hturns

/-! ### A run with two flushes -/

deriving instance Countable for AuditOperation, AuditResult

deriving instance Countable for AuditEventPayload

/-- The number of a payload in unary, after a byte that no JSON text starts with. -/
noncomputable def payloadNumber (payload : AuditEventPayload) : Bytes :=
  0 :: Library.unary payload

theorem payloadNumber_injective : Function.Injective payloadNumber :=
  fun _ _ h ↦ Library.unary_injective (List.cons.inj h).2

/-- The codec of initialisation events, with a text for the others, too. -/
noncomputable def totalCodec : AuditCodec where
  toVec payload := some ((recordedCodec.toVec payload).getD (payloadNumber payload))
  toString event := some ((recordedCodec.toString event).getD
    (payloadNumber event.toAuditEventPayload))
  fromStr := recordedCodec.fromStr
  sha256 := recordedSha256
  isUtf8 := recordedCodec.isUtf8
  trim := recordedCodec.trim

theorem totalCodec_total : totalCodec.Total := ⟨fun _ ↦ rfl, fun _ ↦ rfl⟩

/-- Two callers record and two flush; the clock stands still while the worker takes its turns. -/
def flushedSteps : List ServiceStep :=
  [.send (.record (initializeRequest 0)), .send .flush,
    .send (.record { initializeRequest 0 with sync := false }), .work 1 .success, .work 1 .success,
    .send .flush, .work 1 .success, .work 1 .success, .work 1 .success]

/-- Both requests are committed in order, and everyone who waits is answered. -/
theorem flushed_in_order :
    FoldMeets (AuditService.step totalCodec) (Undisturbed totalCodec)
        (.start (newWithPath totalCodec fun _ ↦ none)) flushedSteps ∧
      ((AuditService.start (newWithPath totalCodec fun _ ↦ none)).run totalCodec
        flushedSteps).committed =
          [(0, initializeEvent 1 zeroHash), (2, initializeEvent 2 firstHash)] ∧
      ((AuditService.start (newWithPath totalCodec fun _ ↦ none)).run totalCodec
        flushedSteps).replies = [(0, .ok ()), (3, .ok ()), (1, .ok ())] ∧
      InOrder ((AuditService.start (newWithPath totalCodec fun _ ↦ none)).run totalCodec
        flushedSteps) := by
  have hmeets : FoldMeets (AuditService.step totalCodec) (Undisturbed totalCodec)
      (.start (newWithPath totalCodec fun _ ↦ none)) flushedSteps := by decide +kernel
  exact ⟨hmeets, by decide +kernel, by decide +kernel,
    (requests_kept_in_order totalCodec_total (.withPath fun _ ↦ none) flushedSteps hmeets).1⟩

end CratonHsm.Audit
