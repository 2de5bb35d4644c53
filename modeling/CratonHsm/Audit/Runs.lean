import CratonHsm.Audit.Disk
import CratonHsm.Library.StepSystem

/-!
# Runs of the audit log

A run is a sequence of requests, each with what the operating system answers to its file operations,
and of restarts on the same path. Beside the log and its files, `AuditRun` keeps two histories: the
events whose lines have reached the disk (`written`), and whether a request since the last start was
chained without leaving its line (`lost`). In such a state the worker's hash is that of an event
that is on no disk, and the next line that is written names it.

`AuditRun.Inv` is what holds as long as that does not happen and no restart finds a rotated file:
the written events are a chain from the zero hash, the files hold its most recent part, and the
worker's hash is its last one unless a line was lost (`Inv.record`, `Inv.restart`).
-/

set_option autoImplicit false

namespace CratonHsm.Audit

open Library (Program followChain_concat followChain_suffix)
open Library.Program
open AuditSystem

variable {s : AuditSystem} {request : RecordRequest}

variable {codec : AuditCodec}

/-! ### One request -/

/-- The event a request adds to the chain and the hash after it, if the request gets that far. -/
def AuditSystem.nextEvent (codec : AuditCodec) (s : AuditSystem) (request : RecordRequest) :
    Option (AuditEvent × FixedBytes 32) :=
  if s.log.tamperFlag then none
  else (nextTimestamp request.sanitized.wall s.log.worker.lastTimestamp).bind fun timestamp ↦
    let event := s.log.eventAt request.sanitized timestamp
    (computeChainHash codec s.log.worker.lastHash event).toOption.map (event, ·)

/-- The request leaves the line of its event in the current file. -/
def AuditSystem.leavesLine (codec : AuditCodec) (s : AuditSystem) (request : RecordRequest)
    (disk : DiskOutcome) : Bool :=
  (s.nextEvent codec request).any fun next ↦ disk.LeavesLine codec s.files next.1

variable {event : AuditEvent} {hash : FixedBytes 32} {disk : DiskOutcome} {e : HsmError}

theorem AuditSystem.nextEvent_eq_some (h : s.nextEvent codec request = some (event, hash)) :
    s.log.tamperFlag = false ∧ event.previousHash = s.log.worker.lastHash ∧
      computeChainHash codec s.log.worker.lastHash event = .ok hash := by
  unfold nextEvent at h
  by_cases htamper : s.log.tamperFlag = true
  · rw [if_pos htamper] at h
    cases h
  · rw [if_neg htamper] at h
    obtain ⟨timestamp, -, hnext⟩ := Option.bind_eq_some_iff.mp h
    obtain ⟨reached, hreached, heq⟩ := Option.map_eq_some_iff.mp hnext
    obtain ⟨rfl, rfl⟩ := Prod.mk.inj heq
    refine ⟨by simpa using htamper, rfl, ?_⟩
    cases hhash : computeChainHash codec s.log.worker.lastHash
      (s.log.eventAt request.sanitized timestamp) with
    | ok found =>
      rw [hhash] at hreached
      rw [Option.some.inj hreached]
    | error e =>
      rw [hhash] at hreached
      cases hreached

/-- How a request ends: before the chain, with nothing but the time or the tamper flag changed; or
with its event chained, and committed if its line was written and synced. -/
inductive Handled (codec : AuditCodec) (disk : DiskOutcome) (request : RecordRequest)
    (s : AuditSystem) : HsmResult Unit → AuditSystem → Prop where
  | refused {answer : HsmResult Unit} {s' : AuditSystem}
      (hnext : s.nextEvent codec request = none) (hanswer : request.sync = true → answer ≠ .ok ())
      (hfiles : s'.files = s.files) (hstate : s'.log.state = s.log.state)
      (hpath : s'.log.logPath = s.log.logPath)
      (hhash : s'.log.worker.lastHash = s.log.worker.lastHash)
      (htamper : s'.log.tamperFlag = false → s.log.tamperFlag = false) :
      Handled codec disk request s answer s'
  | chained {answer outcome : HsmResult Unit} {s' : AuditSystem} {event : AuditEvent}
      {hash : FixedBytes 32} (hnext : s.nextEvent codec request = some (event, hash))
      (hwrite : writeRecord codec disk event s.files = (outcome, s'.files))
      (hanswer : answer = if request.sync then outcome else .ok ())
      (hstate : s'.log.state =
        if outcome = .ok () then s.log.state.commit event hash else s.log.state)
      (hpath : s'.log.logPath = s.log.logPath) (hhash : s'.log.worker.lastHash = hash)
      (htime : s'.log.worker.lastTimestamp = event.timestamp)
      (htamper : s'.log.tamperFlag = false) :
      Handled codec disk request s answer s'

theorem recordInternal_handled (disk : DiskOutcome) (request : RecordRequest)
    (hpath : s.log.logPath = true) :
    (recordInternal codec disk request).Ensures s (Handled codec disk request s) := by
  unfold Ensures recordInternal
  by_cases htamper : s.log.tamperFlag = true
  · rw [if_pos htamper]
    exact .refused (by rw [nextEvent, if_pos htamper]) nofun rfl rfl rfl rfl id
  · rw [if_neg htamper]
    dsimp only
    unfold processRecord
    rw [if_neg htamper]
    cases htime : nextTimestamp request.sanitized.wall s.log.worker.lastTimestamp with
    | none =>
      refine .refused (by rw [nextEvent, if_neg htamper, htime]; rfl)
        (fun hsync ↦ ?_) rfl rfl rfl rfl (fun _ ↦ by simpa using htamper)
      rw [if_pos hsync]
      exact nofun
    | some timestamp =>
      dsimp only
      cases hhash : computeChainHash codec s.log.worker.lastHash
        (s.log.eventAt request.sanitized timestamp) with
      | error e =>
        refine .refused ?_ (fun hsync ↦ ?_) rfl rfl rfl rfl id
        · rw [nextEvent, if_neg htamper, htime, Option.bind_some]
          dsimp only
          rw [hhash]
          rfl
        · rw [if_pos hsync]
          exact nofun
      | ok hash =>
        have hnext : s.nextEvent codec request =
            some (s.log.eventAt request.sanitized timestamp, hash) := by
          rw [nextEvent, if_neg htamper, htime, Option.bind_some]
          dsimp only
          rw [hhash]
          rfl
        have hfalse : s.log.tamperFlag = false := by simpa using htamper
        dsimp only
        rw [if_pos hpath]
        -- Comparing the other fields must not unfold the committed state.
        obtain ⟨committed, hcommit⟩ : ∃ committed,
          s.log.state.commit (s.log.eventAt request.sanitized timestamp) hash =
            committed := ⟨_, rfl⟩
        rw [hcommit]
        rcases hwrite : writeRecord codec disk (s.log.eventAt request.sanitized timestamp) s.files
          with ⟨e | ⟨⟩, files⟩
        · exact .chained hnext hwrite rfl (if_neg nofun).symm rfl rfl rfl hfalse
        · exact .chained hnext hwrite rfl ((if_pos rfl).trans hcommit).symm rfl rfl rfl
            hfalse

theorem processRecord_error_state (h : (processRecord codec disk request s).1 = .error e) :
    (processRecord codec disk request s).2.log.state = s.log.state := by
  revert h
  unfold processRecord
  by_cases htamper : s.log.tamperFlag = true
  · rw [if_pos htamper]
    exact fun _ ↦ rfl
  · rw [if_neg htamper]
    cases nextTimestamp request.wall s.log.worker.lastTimestamp with
    | none => exact fun _ ↦ rfl
    | some timestamp =>
      dsimp only
      cases computeChainHash codec s.log.worker.lastHash (s.log.eventAt request timestamp) with
      | error e => exact fun _ ↦ rfl
      | ok hash =>
        dsimp only
        by_cases hpath : s.log.logPath = true
        · rw [if_pos hpath]
          rcases writeRecord codec disk (s.log.eventAt request timestamp) s.files with
            ⟨e | ⟨⟩, files⟩
          · exact fun _ ↦ rfl
          · exact fun h ↦ nomatch h
        · rw [if_neg hpath]
          exact fun h ↦ nomatch h

/-- A request that is answered with an error leaves the shared state of the log as it was. -/
theorem recordInternal_error_state (h : (recordInternal codec disk request s).1 = .error e) :
    (recordInternal codec disk request s).2.log.state = s.log.state := by
  revert h
  unfold recordInternal
  by_cases htamper : s.log.tamperFlag = true
  · rw [if_pos htamper]
    exact fun _ ↦ rfl
  · rw [if_neg htamper]
    dsimp only
    by_cases hsync : request.sync = true
    · rw [if_pos hsync]
      exact processRecord_error_state
    · rw [if_neg hsync]
      exact fun h ↦ nomatch h

/-! ### Runs -/

/-- A log with its files, the events whose lines reached them, and whether a request since the last
start was chained without leaving its line. -/
structure AuditRun where
  system : AuditSystem
  written : List AuditEvent
  lost : Bool

/-- A step of a run. -/
inductive AuditStep where
  | record (request : RecordRequest) (disk : DiskOutcome)
  /-- The log is dropped and created again on its path. -/
  | restart

/-- A log on a path where there is no file yet. -/
def AuditRun.start (codec : AuditCodec) : AuditRun where
  system := newWithPath codec fun _ ↦ none
  written := []
  lost := false

def AuditRun.step (codec : AuditCodec) (run : AuditRun) : AuditStep → AuditRun
  | .record request disk =>
    let leaves := run.system.leavesLine codec request disk
    let next := run.system.nextEvent codec request
    { system := (recordInternal codec disk request run.system).2
      written := run.written ++ if leaves then (next.map Prod.fst).toList else []
      lost := run.lost || (next.isSome && !leaves) }
  | .restart =>
    { system := newWithPath codec run.system.files, written := run.written, lost := false }

/-- What a request makes of a run whose files hold `kept`. -/
inductive Stepped (codec : AuditCodec) (run : AuditRun) (request : RecordRequest)
    (disk : DiskOutcome) (kept : List AuditEvent) (run' : AuditRun) : Prop where
  /-- The request does not reach the chain. -/
  | refused (hnext : run.system.nextEvent codec request = none)
      (hfiles : run'.system.files = run.system.files)
      (hhash : run'.system.log.worker.lastHash = run.system.log.worker.lastHash)
      (htamper : run'.system.log.tamperFlag = false → run.system.log.tamperFlag = false)
      (hwritten : run'.written = run.written) (hlost : run'.lost = run.lost) :
      Stepped codec run request disk kept run'
  /-- The line of its event is in the current file. -/
  | left {event : AuditEvent} {hash : FixedBytes 32} {line : Bytes} {mid : LogFiles}
      (hnext : run.system.nextEvent codec request = some (event, hash))
      (hleaves : run.system.leavesLine codec request disk = true)
      (hline : codec.toString event = some line)
      (hmid : Prepared codec disk run.system.files kept (.ok ()) mid)
      (hfiles : run'.system.files = mid.append (line ++ [newline]))
      (hhash : run'.system.log.worker.lastHash = hash)
      (htime : run'.system.log.worker.lastTimestamp = event.timestamp)
      (htamper : run'.system.log.tamperFlag = false)
      (hwritten : run'.written = run.written ++ [event]) (hlost : run'.lost = run.lost) :
      Stepped codec run request disk kept run'
  /-- Its event is chained, and its line is not in the file. -/
  | lost {event : AuditEvent} {hash : FixedBytes 32}
      (hnext : run.system.nextEvent codec request = some (event, hash))
      (hleaves : run.system.leavesLine codec request disk = false)
      (hfiles : KeepsEvents codec run.system.files kept run'.system.files)
      (hwritten : run'.written = run.written) (hlost : run'.lost = true) :
      Stepped codec run request disk kept run'

theorem AuditSystem.leavesLine_of_next (disk : DiskOutcome)
    (h : s.nextEvent codec request = some (event, hash)) :
    s.leavesLine codec request disk = decide (disk.LeavesLine codec s.files event) := by
  rw [leavesLine, h]
  rfl

variable {run : AuditRun}

theorem AuditRun.step_record {kept : List AuditEvent} (hpath : run.system.log.logPath = true)
    (hheld : Held codec run.system.files kept) (request : RecordRequest) (disk : DiskOutcome) :
    (run.step codec (.record request disk)).system.log.logPath = true ∧
      Stepped codec run request disk kept (run.step codec (.record request disk)) := by
  have hhandled : Handled codec disk request run.system _ _ :=
    recordInternal_handled disk request hpath
  cases hhandled with
  | refused hnext _ hfiles _ hpath' hhash htamper =>
    have hleaves : run.system.leavesLine codec request disk = false := by
      rw [leavesLine, hnext]
      rfl
    refine ⟨hpath'.trans hpath, .refused hnext hfiles hhash htamper ?_ ?_⟩
    · simp [step, hleaves]
    · simp [step, hnext]
  | @chained outcome _ event hash hnext hwrite _ _ hpath' hhash htime htamper =>
    refine ⟨hpath'.trans hpath, ?_⟩
    have hrecorded : Recorded codec disk event run.system.files kept _ _ :=
      writeRecord_spec disk event hheld
    have hleaves := leavesLine_of_next disk hnext
    have hfiles : (run.step codec (.record request disk)).system.files =
        (writeRecord codec disk event run.system.files).2 := (congrArg Prod.snd hwrite).symm
    generalize (writeRecord codec disk event run.system.files).2 = files' at hrecorded hfiles
    cases hrecorded with
    | left hleft hline hmid _ =>
      rw [decide_eq_true hleft] at hleaves
      exact .left hnext hleaves hline hmid hfiles hhash htime htamper
        (by simp [step, hleaves, hnext]) (by simp [step, hleaves])
    | lost hnot _ hkeeps =>
      rw [decide_eq_false hnot] at hleaves
      exact .lost hnext hleaves (hfiles ▸ hkeeps) (by simp [step, hleaves])
        (by simp [step, hnext, hleaves])

/-- What holds while no line is written after a lost one and no restart finds a rotated file. -/
structure AuditRun.Inv (codec : AuditCodec) (run : AuditRun) : Prop where
  logPath : run.system.log.logPath = true
  held : ∃ dropped kept, run.written = dropped ++ kept ∧ Held codec run.system.files kept ∧
    (run.system.files.Unrotated → dropped = [])
  chain : ∃ hash, chainHash codec zeroHash run.written = some hash ∧
    (run.lost = false → run.system.log.tamperFlag = false →
      run.system.log.worker.lastHash = hash)

theorem AuditRun.inv_start : (AuditRun.start codec).Inv codec :=
  ⟨rfl, ⟨[], [], rfl, ⟨fun _ ↦ [], fun _ ↦ Stores.of_none, rfl⟩, fun _ ↦ rfl⟩, zeroHash, rfl,
    fun _ _ ↦ rfl⟩

theorem AuditRun.Inv.record (h : run.Inv codec) (request : RecordRequest) (disk : DiskOutcome)
    (hguard : run.lost = true → run.system.leavesLine codec request disk = false) :
    (run.step codec (.record request disk)).Inv codec := by
  obtain ⟨hpath, ⟨dropped, kept, hwritten, hheld, hdropped⟩, hash, hchain, hworker⟩ := h
  obtain ⟨hpath', hstep⟩ := run.step_record hpath hheld request disk
  cases hstep with
  | refused _ hfiles hhash htamper hwritten' hlost =>
    refine ⟨hpath', ⟨dropped, kept, hwritten'.trans hwritten, ?_, ?_⟩, hash, ?_, ?_⟩
    · rwa [hfiles]
    · rwa [hfiles]
    · rwa [hwritten']
    · rw [hhash, hlost]
      exact fun hkept hclean ↦ hworker hkept (htamper hclean)
  | @left event reached line mid hnext hleaves hline hmid hfiles hhash _ _ hwritten' hlost =>
    obtain ⟨⟨dropped', kept', hkept, hheld', hdropped'⟩, hunrotated⟩ := hmid.toKeepsEvents
    obtain ⟨hclean, hprevious, hreached⟩ := nextEvent_eq_some hnext
    -- A line is written, so none was lost before it and the worker is at the end of the chain.
    have hkeeps : run.lost = false := by
      cases hlast : run.lost with
      | false => rfl
      | true => exact absurd (hleaves.symm.trans (hguard hlast)) (by decide)
    rw [hworker hkeeps hclean] at hprevious hreached
    refine ⟨hpath', ⟨dropped ++ dropped', kept' ++ [event], ?_, ?_, fun hfree ↦ ?_⟩, reached, ?_,
      fun _ _ ↦ hhash⟩
    · rw [hwritten', hwritten, hkept]
      simp only [List.append_assoc]
    · rw [hfiles]
      exact hheld'.append hline
    · rw [hfiles, unrotated_append] at hfree
      rw [hdropped (hunrotated hfree), hdropped' hfree, List.append_nil]
    · rw [hwritten']
      exact followChain_concat hchain hprevious (by rw [hreached]; rfl)
  | lost hnext hleaves hfiles hwritten' hlost =>
    obtain ⟨⟨dropped', kept', hkept, hheld', hdropped'⟩, hunrotated⟩ := hfiles
    refine ⟨hpath', ⟨dropped ++ dropped', kept', ?_, hheld', fun hfree ↦ ?_⟩, hash, ?_, ?_⟩
    · rw [hwritten', hwritten, hkept, List.append_assoc]
    · rw [hdropped (hunrotated hfree), hdropped' hfree, List.append_nil]
    · rwa [hwritten']
    · rw [hlost]
      exact nofun

/-- The current file of an unrotated log holds the whole chain. -/
theorem AuditRun.Inv.current (h : run.Inv codec) (hfiles : run.system.files.Unrotated) :
    Stores codec (run.system.files 0) run.written := by
  obtain ⟨dropped, kept, hwritten, hheld, hdropped⟩ := h.held
  rw [hwritten, hdropped hfiles, List.nil_append]
  exact hheld.stores hfiles

theorem AuditRun.Inv.restart (hcodec : codec.Lawful) (h : run.Inv codec)
    (hfiles : run.system.files.Unrotated) : (run.step codec .restart).Inv codec := by
  obtain ⟨hash, hchain, -⟩ := h.chain
  exact ⟨rfl, h.held, hash, hchain, fun _ _ ↦
    (newWithPath_of_chain hcodec (h.current hfiles) hchain).2⟩

end CratonHsm.Audit
