import CratonHsm.Audit.JsonLines
import CratonHsm.Audit.Runs

/-!
# Disk failures and the audit chain

`process_record` moves the worker's hash on before it touches the disk. A request whose line does
not reach the file, because the open, the rotation or the write fails, therefore leaves the worker
at a hash that no event on disk has, and the next line that is written names that hash: the file is
no longer a chain and a restart flags it as tampered (`lost_event_breaks_chain`).

The chain survives every pattern of failures in which no line is written after a lost one until the
next start (`chain_survives_failures`): errors add nothing to the entries, the files hold a chain
through their generations, a request that succeeds is chained to the last event on disk, and a
restart of a log that was never rotated goes on from there. A failed write that leaves the whole
line, or a failed sync, loses nothing.
-/

set_option autoImplicit false

namespace CratonHsm.Audit

open Library (FoldMeets foldl_invariant followChain_suffix)
open Library.Program
open AuditRun

variable {codec : AuditCodec}

/-- No line is written after a lost one, and a restart finds no rotated file. -/
def ChainKept (codec : AuditCodec) (run : AuditRun) : AuditStep → Prop
  | .record request disk =>
    run.lost = true → run.system.leavesLine codec request disk = false
  | .restart => run.system.files.Unrotated

instance (run : AuditRun) : DecidablePred (ChainKept codec run)
  | .record request disk =>
    inferInstanceAs (Decidable
      (run.lost = true → run.system.leavesLine codec request disk = false))
  | .restart => inferInstanceAs (Decidable run.system.files.Unrotated)

/-- A request with the given outcome of its file operations is chained to `hash` if it succeeds. -/
def ChainedTo (codec : AuditCodec) (run : AuditRun) (hash : FixedBytes 32) (request : RecordRequest)
    (disk : DiskOutcome) : Prop :=
  (recordInternal codec disk request run.system).1 = .ok () → ∃ event,
    (recordInternal codec disk request run.system).2.log.state.entries.getLast? = some event ∧
      event.previousHash = hash

/-- A restart recovers the log as verified up to `hash`. -/
def RestartVerifies (codec : AuditCodec) (files : LogFiles) (hash : FixedBytes 32) : Prop :=
  (recoverChainFromFile codec (files 0) = if hash = zeroHash then .noFile else .verified hash) ∧
    (newWithPath codec files).log.tamperFlag = false ∧
    (newWithPath codec files).log.worker.lastHash = hash

/-- What disk failures leave intact: errors add nothing to the entries in memory, the files hold a
chain through their generations, the next request that succeeds is chained to its last event, and
a restart of a log without rotated files verifies it. -/
structure ChainSafe (codec : AuditCodec) (run : AuditRun) : Prop where
  errors_add_nothing : ∀ request disk e,
    (recordInternal codec disk request run.system).1 = .error e →
      (recordInternal codec disk request run.system).2.log.state.entries =
        run.system.log.state.entries
  chain_on_disk : ∃ events start hash, Held codec run.system.files events ∧
    chainHash codec start events = some hash ∧
    (∀ request disk, request.sync = true → ChainKept codec run (.record request disk) →
      ChainedTo codec run hash request disk) ∧
    (run.system.files.Unrotated → RestartVerifies codec run.system.files hash)

theorem getLast?_commit (state : AuditLogState) (event : AuditEvent) (hash : FixedBytes 32) :
    (state.commit event hash).entries.getLast? = some event := by
  have hmax : 0 < maxInMemoryEntries := by decide
  have hlength : (state.entries ++ [event]).length = state.entries.length + 1 :=
    List.length_append
  unfold AuditLogState.commit
  rw [List.getLast?_drop, if_neg (by omega), List.getLast?_concat]

/-- A request that succeeds is chained to the worker's last hash and leaves its line. -/
theorem recordInternal_ok {run : AuditRun} {kept : List AuditEvent} {request : RecordRequest}
    {disk : DiskOutcome} (hpath : run.system.log.logPath = true)
    (hheld : Held codec run.system.files kept) (hsync : request.sync = true)
    (hok : (recordInternal codec disk request run.system).1 = .ok ()) :
    run.system.log.tamperFlag = false ∧ run.system.leavesLine codec request disk = true ∧ ∃ event,
      (recordInternal codec disk request run.system).2.log.state.entries.getLast? = some event ∧
        event.previousHash = run.system.log.worker.lastHash := by
  have hhandled : Handled codec disk request run.system _ _ :=
    recordInternal_handled disk request hpath
  cases hhandled with
  | refused _ hanswer => exact absurd hok (hanswer hsync)
  | @chained outcome _ event hash hnext hwrite hanswer hstate =>
    obtain ⟨hclean, hprevious, -⟩ := AuditSystem.nextEvent_eq_some hnext
    have houtcome : outcome = .ok () := by
      rw [hanswer, if_pos hsync] at hok
      exact hok
    have hrecorded : Recorded codec disk event run.system.files kept _ _ :=
      writeRecord_spec disk event hheld
    rw [hwrite] at hrecorded
    refine ⟨hclean, ?_, event, ?_, hprevious⟩
    · rw [AuditSystem.leavesLine_of_next disk hnext, decide_eq_true_eq]
      exact hrecorded.leavesLine houtcome
    · rw [hstate, if_pos houtcome]
      exact getLast?_commit ..

theorem AuditRun.Inv.chainSafe (hcodec : codec.Lawful) {run : AuditRun} (h : run.Inv codec) :
    ChainSafe codec run := by
  refine ⟨fun _ _ _ herror ↦ congrArg _ (recordInternal_error_state herror), ?_⟩
  obtain ⟨dropped, kept, hwritten, hheld, hdropped⟩ := h.held
  obtain ⟨hash, hchain, hworker⟩ := h.chain
  have hkept := hchain
  rw [hwritten] at hkept
  obtain ⟨start, -, hsuffix⟩ := followChain_suffix hkept
  refine ⟨kept, start, hash, hheld, hsuffix, fun request disk hsync hguard hok ↦ ?_,
    fun hfiles ↦ ?_⟩
  · obtain ⟨hclean, hleaves, event, hlast, hprevious⟩ :=
      recordInternal_ok h.logPath hheld hsync hok
    have hkeeps : run.lost = false := by
      cases hlost : run.lost with
      | false => rfl
      | true => exact absurd (hleaves.symm.trans (hguard hlost)) (by decide)
    exact ⟨event, hlast, hprevious.trans (hworker hkeeps hclean)⟩
  · have hcurrent := h.current hfiles
    exact ⟨recoverChainFromFile_of_chain hcodec hcurrent hchain,
      newWithPath_of_chain hcodec hcurrent hchain⟩

theorem AuditRun.Inv.step (hcodec : codec.Lawful) {run : AuditRun} {step : AuditStep}
    (h : run.Inv codec) (hguard : ChainKept codec run step) : (run.step codec step).Inv codec := by
  cases step with
  | record request disk => exact h.record request disk hguard
  | restart => exact h.restart hcodec hguard

/-- Whatever the pattern of failures, the chain survives while no line is written after a lost one
and no restart finds a rotated file. -/
theorem chain_survives_failures (hcodec : codec.Lawful) (steps : List AuditStep)
    (hsteps : FoldMeets (step codec) (ChainKept codec) (.start codec) steps) :
    ChainSafe codec (steps.foldl (step codec) (.start codec)) := by
  have hinv := foldl_invariant (fun _ _ h hguard ↦ AuditRun.Inv.step hcodec h hguard) steps
    (.start codec) inv_start hsteps
  exact hinv.chainSafe hcodec

/-! ### A lost line -/

/-- The payload of the initialisation event with the given timestamp. -/
def payloadText (timestamp : Nat) : Bytes :=
  [comma].intercalate (payloadFields timestamp) ++ [125]

/-- The SHA-256 digest after the zero hash and the payload with timestamp 1. -/
def firstHash : FixedBytes 32 :=
  ⟨[249, 250, 83, 126, 77, 40, 119, 184, 205, 64, 106, 242, 173, 36, 29, 123, 168, 121, 69, 255, 30,
    184, 123, 117, 232, 99, 58, 181, 133, 114, 28, 179], by decide⟩

/-- The digest after `firstHash` and the payload with timestamp 2. -/
def secondHash : FixedBytes 32 :=
  ⟨[118, 239, 43, 66, 50, 159, 10, 238, 3, 112, 221, 32, 113, 123, 204, 197, 20, 161, 112, 57, 162,
    1, 118, 181, 192, 100, 176, 135, 99, 23, 86, 174], by decide⟩

/-- The digest after `secondHash` and the payload with timestamp 3. -/
def thirdHash : FixedBytes 32 :=
  ⟨[157, 14, 31, 251, 190, 73, 48, 58, 251, 234, 110, 19, 207, 111, 241, 55, 6, 24, 196, 109, 109,
    53, 10, 221, 99, 142, 3, 144, 120, 206, 86, 229], by decide⟩

/-- The digest after `secondHash` and the payload with timestamp 4. -/
def fourthHash : FixedBytes 32 :=
  ⟨[133, 4, 195, 15, 2, 47, 223, 24, 176, 44, 104, 163, 220, 69, 206, 119, 120, 191, 52, 178, 19,
    164, 166, 103, 79, 93, 39, 78, 58, 138, 244, 99], by decide⟩

/-- SHA-256 on the inputs of the runs below, and some digest on others. -/
def recordedSha256 (message : Bytes) : FixedBytes 32 :=
  if message = zeroHash.val ++ payloadText 1 then firstHash
  else if message = firstHash.val ++ payloadText 2 then secondHash
  else if message = secondHash.val ++ payloadText 3 then thirdHash
  else if message = secondHash.val ++ payloadText 4 then fourthHash
  else firstHash

/-- The codec of initialisation events over these digests. -/
abbrev recordedCodec : AuditCodec := initializeCodec recordedSha256

/-- A successful initialisation to be recorded at the given time. -/
def initializeRequest (wall : Nat) : RecordRequest where
  wall := wall
  sessionHandle := 0
  operation := .initializeLibrary
  result := .success
  keyId := none
  sync := true

/-- Every file operation succeeds. -/
def DiskOutcome.success : DiskOutcome where
  opens := true
  reportsSize := true
  renames _ := true
  reopens := true
  write := .written
  syncs := true

/-- A log whose second write fails with the line on disk and whose third request cannot open the
file; it is restarted and goes on. -/
def survivingSteps : List AuditStep :=
  [.record (initializeRequest 1) .success,
    .record (initializeRequest 2) { DiskOutcome.success with write := .wholeLine },
    .record (initializeRequest 3) { DiskOutcome.success with opens := false },
    .restart,
    .record (initializeRequest 4) .success]

/-- The two failures and the restart keep the chain. -/
theorem surviving_chain :
    FoldMeets (step recordedCodec) (ChainKept recordedCodec) (.start recordedCodec)
        survivingSteps ∧
      ChainSafe recordedCodec
        (survivingSteps.foldl (step recordedCodec) (.start recordedCodec)) := by
  have hsteps : FoldMeets (step recordedCodec) (ChainKept recordedCodec) (.start recordedCodec)
      survivingSteps := by decide +kernel
  exact ⟨hsteps, chain_survives_failures (initializeCodec_lawful _) survivingSteps hsteps⟩

/-- The run after a request that could not open the file. -/
def lostRun : AuditRun :=
  (start recordedCodec).step recordedCodec
    (.record (initializeRequest 1) { DiskOutcome.success with opens := false })

/-- The first request cannot open the file and is answered with an error. The second succeeds, is
chained to the event of the first, which is on no disk, and the restart flags the log as
tampered. -/
theorem lost_event_breaks_chain :
    (recordInternal recordedCodec { DiskOutcome.success with opens := false }
        (initializeRequest 1) (start recordedCodec).system).1 = .error .generalError ∧
    lostRun.system.files 0 = none ∧
    (recordInternal recordedCodec .success (initializeRequest 2) lostRun.system).1 = .ok () ∧
    (recordInternal recordedCodec .success (initializeRequest 2)
      lostRun.system).2.log.state.entries = [initializeEvent 2 firstHash] ∧
    (newWithPath recordedCodec (recordInternal recordedCodec .success (initializeRequest 2)
      lostRun.system).2.files).log.tamperFlag = true := by
  decide +kernel

end CratonHsm.Audit
