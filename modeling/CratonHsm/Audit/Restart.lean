import CratonHsm.Audit.Failures

/-!
# Restarts of an untampered audit log

When no file operation fails, a log that was never rotated is accepted by every restart: the current
file holds all events that were ever recorded, across restarts, as one chain from the zero hash
(`restart_accepts_iff`, the first direction). Recovery starts from the zero hash, and it reads only
the current file. After a rotation that file starts with an event chained to one in the first
generation, so a restart flags the log as tampered although nobody touched it (the second
direction). A rotation happens as soon as a request finds the current file at its limit, which some
number of requests reaches (`full_log_refused`).
-/

set_option autoImplicit false

namespace CratonHsm.Audit

open Library (FoldMeets foldl_invariant foldMeets_append followChain_concat)
open Library.Program

variable {event : AuditEvent} {run : AuditRun} {disk : DiskOutcome} {files : LogFiles}
  {request : RecordRequest}

variable {codec : AuditCodec}

/-- Every file operation of a request succeeds. -/
def DiskOutcome.Clean (disk : DiskOutcome) : Prop :=
  disk.opens = true ∧ disk.reportsSize = true ∧ (∀ gen < maxRotatedFiles, disk.renames gen = true) ∧
    disk.reopens = true ∧ disk.write = .written ∧ disk.syncs = true

/-- No file operation fails, and the event of the request can be serialised. -/
def NoIoError (codec : AuditCodec) (run : AuditRun) : AuditStep → Prop
  | .record request disk =>
    disk.Clean ∧ ∀ next ∈ run.system.nextEvent codec request, (codec.toString next.1).isSome = true
  | .restart => True

instance (disk : DiskOutcome) : Decidable disk.Clean :=
  inferInstanceAs (Decidable (_ ∧ _ ∧ (∀ gen < maxRotatedFiles, _) ∧ _ ∧ _ ∧ _))

instance (run : AuditRun) : DecidablePred (NoIoError codec run)
  | .record request disk => inferInstanceAs (Decidable (disk.Clean ∧
      ∀ next ∈ run.system.nextEvent codec request, (codec.toString next.1).isSome = true))
  | .restart => .isTrue trivial

/-- A request that is chained finds the current file below its limit. -/
def HasRoom (codec : AuditCodec) (run : AuditRun) : AuditStep → Prop
  | .record request _ =>
    (run.system.nextEvent codec request).isSome = true → run.system.files.size < maxLogFileBytes
  | .restart => True

instance (run : AuditRun) : DecidablePred (HasRoom codec run)
  | .record request _ => inferInstanceAs (Decidable
      ((run.system.nextEvent codec request).isSome = true →
        run.system.files.size < maxLogFileBytes))
  | .restart => .isTrue trivial

/-- The event of the request does not hash to the zero hash. -/
def HashNonzero (codec : AuditCodec) (run : AuditRun) : AuditStep → Prop
  | .record request _ => ∀ next ∈ run.system.nextEvent codec request, next.2 ≠ zeroHash
  | .restart => True

/-- The current file holds every event that was recorded, as one chain, and a restart goes on from
its last hash. -/
def LogAccepted (codec : AuditCodec) (run : AuditRun) : Prop :=
  ∃ hash, Stores codec (run.system.files 0) run.written ∧
    chainHash codec zeroHash run.written = some hash ∧
    RestartVerifies codec run.system.files hash

/-! ### Requests without errors -/

theorem DiskOutcome.Clean.leavesLine (h : disk.Clean)
    (hline : (codec.toString event).isSome = true) : disk.LeavesLine codec files event := by
  obtain ⟨hopens, -, hrenames, hreopens, hwrite, -⟩ := h
  refine ⟨hopens, fun _ ↦ ⟨fun gen hgen _ ↦ hrenames gen hgen, hreopens⟩, hline, ?_⟩
  rw [hwrite]
  exact nofun

/-- A request without errors leaves its line if it is chained. -/
theorem NoIoError.leavesLine {hash : FixedBytes 32} (h : NoIoError codec run (.record request disk))
    (hnext : run.system.nextEvent codec request = some (event, hash)) :
    run.system.leavesLine codec request disk = true := by
  rw [AuditSystem.leavesLine_of_next disk hnext, decide_eq_true_eq]
  exact h.1.leavesLine (h.2 _ hnext)

/-- A run without errors: its invariant, and no line was lost. -/
structure AuditRun.Sound (codec : AuditCodec) (run : AuditRun) : Prop extends run.Inv codec where
  kept : run.lost = false

theorem AuditRun.sound_start : (AuditRun.start codec).Sound codec := ⟨AuditRun.inv_start, rfl⟩

/-- What a request without errors makes of a sound run: nothing, or one more line, in the current
file if it has room and in a new one otherwise. -/
inductive Extended (codec : AuditCodec) (run : AuditRun) (request : RecordRequest)
    (run' : AuditRun) : Prop where
  | refused (hnext : run.system.nextEvent codec request = none)
      (hfiles : run'.system.files = run.system.files) (hwritten : run'.written = run.written) :
      Extended codec run request run'
  | room {event : AuditEvent} {hash : FixedBytes 32} {line : Bytes}
      (hnext : run.system.nextEvent codec request = some (event, hash))
      (hroom : run.system.files.size < maxLogFileBytes) (hline : codec.toString event = some line)
      (hfiles : run'.system.files = run.system.files.touch.append (line ++ [newline]))
      (htime : run'.system.log.worker.lastTimestamp = event.timestamp)
      (htamper : run'.system.log.tamperFlag = false)
      (hwritten : run'.written = run.written ++ [event]) :
      Extended codec run request run'
  | rotated {event : AuditEvent} {hash : FixedBytes 32}
      (hnext : run.system.nextEvent codec request = some (event, hash))
      (hfull : maxLogFileBytes ≤ run.system.files.size)
      (hcurrent : Stores codec (run'.system.files 0) [event])
      (hfiles : ¬ run'.system.files.Unrotated) (hwritten : run'.written = run.written ++ [event]) :
      Extended codec run request run'

theorem AuditRun.Sound.record (h : run.Sound codec)
    (hclean : NoIoError codec run (.record request disk)) :
    (run.step codec (.record request disk)).Sound codec ∧
      Extended codec run request (run.step codec (.record request disk)) := by
  obtain ⟨dropped, kept, -, hheld, -⟩ := h.held
  have hinv := h.toInv.record request disk fun hlost ↦ absurd (h.kept.symm.trans hlost) (by decide)
  obtain ⟨-, hstep⟩ := run.step_record h.logPath hheld request disk
  cases hstep with
  | refused hnext hfiles _ _ hwritten hlost =>
    exact ⟨⟨hinv, hlost.trans h.kept⟩, .refused hnext hfiles hwritten⟩
  | @left event hash line mid hnext hleaves hline hmid hfiles hhash htime htamper hwritten hlost =>
    refine ⟨⟨hinv, hlost.trans h.kept⟩, ?_⟩
    by_cases hfull : disk.FindsFull run.system.files
    · obtain ⟨hempty, hrotated⟩ := hmid.full hfull rfl
      refine .rotated hnext hfull.2 ?_ ?_ hwritten
      · rw [hfiles, LogFiles.append, Function.update_self, hempty]
        exact Stores.of_none.touch.append hline
      · rw [hfiles, unrotated_append]
        exact hrotated
    · have hroom : run.system.files.size < maxLogFileBytes := by
        by_contra hsize
        exact hfull ⟨hclean.1.2.1, Nat.le_of_not_lt hsize⟩
      rw [hmid.room hfull] at hfiles
      exact .room hnext hroom hline hfiles htime htamper hwritten
  | lost hnext hleaves =>
    exact absurd (hleaves.symm.trans (hclean.leavesLine hnext)) (by decide)

/-! ### Logs that are never rotated -/

theorem AuditRun.Sound.accepted (hcodec : codec.Lawful) (h : run.Sound codec)
    (hfiles : run.system.files.Unrotated) : LogAccepted codec run := by
  obtain ⟨hash, hchain, -⟩ := h.chain
  have hcurrent := h.current hfiles
  exact ⟨hash, hcurrent, hchain, recoverChainFromFile_of_chain hcodec hcurrent hchain,
    newWithPath_of_chain hcodec hcurrent hchain⟩

theorem AuditRun.Sound.unrotated_step (hcodec : codec.Lawful) {step : AuditStep}
    (h : run.Sound codec ∧ run.system.files.Unrotated)
    (hguard : NoIoError codec run step ∧ HasRoom codec run step) :
    (run.step codec step).Sound codec ∧ (run.step codec step).system.files.Unrotated := by
  cases step with
  | record request disk =>
    obtain ⟨hsound, hextended⟩ := h.1.record hguard.1
    refine ⟨hsound, ?_⟩
    cases hextended with
    | refused _ hfiles =>
      rw [hfiles]
      exact h.2
    | room _ _ _ hfiles =>
      rw [hfiles, unrotated_append, unrotated_touch]
      exact h.2
    | rotated hnext hfull =>
      exact absurd hfull (Nat.not_le_of_lt (hguard.2 (by rw [hnext]; rfl)))
  | restart => exact ⟨⟨h.1.restart hcodec h.2, rfl⟩, h.2⟩

/-! ### Logs that are rotated -/

/-- The current file starts with an event that is not chained to the zero hash. -/
def StartsLater (codec : AuditCodec) (files : LogFiles) : Prop :=
  ∃ event events, Stores codec (files 0) (event :: events) ∧ event.previousHash ≠ zeroHash

theorem StartsLater.refused (hcodec : codec.Lawful) (h : StartsLater codec files) :
    (newWithPath codec files).log.tamperFlag = true := by
  obtain ⟨event, events, hstores, hprevious⟩ := h
  exact newWithPath_of_no_chain hcodec hstores (by rw [chainHash_cons, if_neg hprevious])

/-- A sound run in which no recorded event hashes to zero: its log is unrotated, or its current file
starts after the first generation. -/
structure AuditRun.Tracked (codec : AuditCodec) (run : AuditRun) : Prop
    extends run.Sound codec where
  nonzero : ∀ hash, chainHash codec zeroHash run.written = some hash → run.written ≠ [] →
    hash ≠ zeroHash
  later : run.system.files.Unrotated ∨ StartsLater codec run.system.files

theorem AuditRun.tracked_start : (AuditRun.start codec).Tracked codec :=
  ⟨AuditRun.sound_start, fun _ _ hwritten ↦ absurd rfl hwritten,
    .inl fun _ _ _ ↦ rfl⟩

/-- The files of a run without events hold nothing. -/
theorem Held.size_eq_zero (h : Held codec files []) : files.size = 0 := by
  obtain ⟨parts, hparts, hnil⟩ := h
  have hcurrent := hparts 0
  rw [List.flatMap_eq_nil_iff.mp hnil.symm 0 (by decide)] at hcurrent
  obtain ⟨lines, hlines, hbytes⟩ := hcurrent
  rw [List.forall₂_nil_left_iff.mp hlines] at hbytes
  rw [LogFiles.size, hbytes]
  rfl

/-- The event of a request in a sound run extends the chain of what was written. -/
theorem AuditRun.Sound.chain_next (h : run.Sound codec) {hash : FixedBytes 32}
    (hnext : run.system.nextEvent codec request = some (event, hash)) :
    chainHash codec zeroHash run.written = some event.previousHash ∧
      chainHash codec zeroHash (run.written ++ [event]) = some hash := by
  obtain ⟨last, hchain, hworker⟩ := h.chain
  obtain ⟨hclean, hprevious, hhash⟩ := AuditSystem.nextEvent_eq_some hnext
  rw [hworker h.kept hclean] at hprevious hhash
  exact ⟨hprevious ▸ hchain, followChain_concat hchain hprevious (by rw [hhash]; rfl)⟩

/-- A current file that has reached its limit holds events. -/
theorem AuditRun.Inv.written_ne_nil (h : run.Inv codec)
    (hfull : maxLogFileBytes ≤ run.system.files.size) : run.written ≠ [] := by
  obtain ⟨dropped, kept, hwritten, hheld, -⟩ := h.held
  intro hnil
  rw [hnil] at hwritten
  rw [(List.append_eq_nil_iff.mp hwritten.symm).2] at hheld
  rw [hheld.size_eq_zero] at hfull
  exact absurd hfull (by decide)

theorem StartsLater.append {line : Bytes} (h : StartsLater codec files)
    (hline : codec.toString event = some line) :
    StartsLater codec (files.touch.append (line ++ [newline])) := by
  obtain ⟨first, events, hstores, hprevious⟩ := h
  refine ⟨first, events ++ [event], ?_, hprevious⟩
  exact hstores.touch.append hline

theorem AuditRun.Tracked.record (h : run.Tracked codec)
    (hclean : NoIoError codec run (.record request disk))
    (hnonzero : HashNonzero codec run (.record request disk)) :
    (run.step codec (.record request disk)).Tracked codec ∧
      ((run.step codec (.record request disk)).system.files.Unrotated →
        run.system.files.Unrotated ∧ HasRoom codec run (.record request disk)) := by
  obtain ⟨hsound, hextended⟩ := h.toSound.record hclean
  generalize run.step codec (.record request disk) = run' at hsound hextended
  have hnonzero' : ∀ {event hash}, run.system.nextEvent codec request = some (event, hash) →
      run'.written = run.written ++ [event] → ∀ reached,
        chainHash codec zeroHash run'.written = some reached → reached ≠ zeroHash := by
    intro event hash hnext hwritten reached hreached
    rw [hwritten, (h.toSound.chain_next hnext).2] at hreached
    rw [← Option.some.inj hreached]
    exact hnonzero _ hnext
  cases hextended with
  | refused hnext hfiles hwritten =>
    refine ⟨⟨hsound, ?_, ?_⟩, fun hunrotated ↦ ⟨hfiles ▸ hunrotated, fun hsome ↦ ?_⟩⟩
    · rw [hwritten]
      exact h.nonzero
    · rw [hfiles]
      exact h.later
    · rw [hnext] at hsome
      cases hsome
  | room hnext hroom hline hfiles _ _ hwritten =>
    refine ⟨⟨hsound, fun reached hreached _ ↦ hnonzero' hnext hwritten reached hreached, ?_⟩,
      fun hunrotated ↦ ⟨?_, fun _ ↦ hroom⟩⟩
    · rw [hfiles, unrotated_append, unrotated_touch]
      exact h.later.imp id fun hlater ↦ hlater.append hline
    · rwa [hfiles, unrotated_append, unrotated_touch] at hunrotated
  | @rotated event hash hnext hfull hcurrent hfiles hwritten =>
    have hprevious := h.nonzero _ (h.toSound.chain_next hnext).1 (h.toInv.written_ne_nil hfull)
    exact ⟨⟨hsound, fun reached hreached _ ↦ hnonzero' hnext hwritten reached hreached,
      .inr ⟨event, [], hcurrent, hprevious⟩⟩, fun hunrotated ↦ absurd hunrotated hfiles⟩

theorem AuditRun.Tracked.step (hcodec : codec.Lawful) {step : AuditStep} (h : run.Tracked codec)
    (hclean : NoIoError codec run step) (hnonzero : HashNonzero codec run step) :
    (run.step codec step).Tracked codec ∧
      ((run.step codec step).system.files.Unrotated →
        run.system.files.Unrotated ∧ HasRoom codec run step) := by
  cases step with
  | record request disk => exact h.record hclean hnonzero
  | restart =>
    refine ⟨⟨⟨?_, rfl⟩, h.nonzero, h.later⟩, fun hunrotated ↦ ⟨hunrotated, trivial⟩⟩
    rcases h.later with hunrotated | hlater
    · exact h.restart hcodec hunrotated
    · -- The restart refuses the log, and nothing is recorded any more.
      obtain ⟨hash, hchain, -⟩ := h.chain
      exact ⟨rfl, h.held, hash, hchain, fun _ hclean ↦
        absurd ((hlater.refused hcodec).symm.trans hclean) (by decide)⟩

/-- A tracked run whose last state is unrotated had room for every request. -/
theorem AuditRun.Tracked.hasRoom (hcodec : codec.Lawful) :
    ∀ {steps : List AuditStep} {run : AuditRun}, run.Tracked codec →
      FoldMeets (AuditRun.step codec) (NoIoError codec) run steps →
      FoldMeets (AuditRun.step codec) (HashNonzero codec) run steps →
      (steps.foldl (AuditRun.step codec) run).Tracked codec ∧
        ((steps.foldl (AuditRun.step codec) run).system.files.Unrotated →
          run.system.files.Unrotated ∧
            FoldMeets (AuditRun.step codec) (HasRoom codec) run steps) := by
  intro steps
  induction steps with
  | nil => exact fun h _ _ ↦ ⟨h, fun hunrotated ↦ ⟨hunrotated, trivial⟩⟩
  | cons step steps ih =>
    intro run h hclean hnonzero
    obtain ⟨htracked, hback⟩ := h.step hcodec hclean.1 hnonzero.1
    obtain ⟨hlast, hrest⟩ := ih htracked hclean.2 hnonzero.2
    refine ⟨hlast, fun hunrotated ↦ ?_⟩
    obtain ⟨hnow, hroom⟩ := hrest hunrotated
    obtain ⟨hbefore, hfirst⟩ := hback hnow
    exact ⟨hbefore, hfirst, hroom⟩

/-- A restart that accepts the log finds it unrotated, unless an event hashes to the zero hash. -/
theorem hasRoom_of_accepted (hcodec : codec.Lawful) {steps : List AuditStep}
    (hclean : FoldMeets (AuditRun.step codec) (NoIoError codec) (.start codec) steps)
    (hnonzero : FoldMeets (AuditRun.step codec) (HashNonzero codec) (.start codec) steps)
    (haccepted : (newWithPath codec
      (steps.foldl (AuditRun.step codec) (.start codec)).system.files).log.tamperFlag = false) :
    FoldMeets (AuditRun.step codec) (HasRoom codec) (.start codec) steps := by
  obtain ⟨hlast, hback⟩ := AuditRun.Tracked.hasRoom hcodec AuditRun.tracked_start hclean hnonzero
  rcases hlast.later with hunrotated | hlater
  · exact (hback hunrotated).2
  · exact absurd ((hlater.refused hcodec).symm.trans haccepted) (by decide)

/-- In a run without I/O errors, a restart accepts the log, as one chain of everything recorded, if
every request found room in the current file, and, as long as no event hashes to the zero hash, only
then. -/
theorem restart_accepts_iff (hcodec : codec.Lawful) (steps : List AuditStep)
    (hclean : FoldMeets (AuditRun.step codec) (NoIoError codec) (.start codec) steps) :
    (FoldMeets (AuditRun.step codec) (HasRoom codec) (.start codec) steps →
      LogAccepted codec (steps.foldl (AuditRun.step codec) (.start codec))) ∧
    (FoldMeets (AuditRun.step codec) (HashNonzero codec) (.start codec) steps →
      (newWithPath codec
        (steps.foldl (AuditRun.step codec) (.start codec)).system.files).log.tamperFlag = false →
      FoldMeets (AuditRun.step codec) (HasRoom codec) (.start codec) steps) := by
  refine ⟨fun hroom ↦ ?_, hasRoom_of_accepted hcodec hclean⟩
  have hstep : ∀ (run : AuditRun) (step : AuditStep),
      run.Sound codec ∧ run.system.files.Unrotated →
      NoIoError codec run step ∧ HasRoom codec run step →
      (run.step codec step).Sound codec ∧ (run.step codec step).system.files.Unrotated :=
    fun _ _ h hguard ↦ AuditRun.Sound.unrotated_step hcodec h hguard
  obtain ⟨hsound, hunrotated⟩ := foldl_invariant hstep steps (.start codec)
    ⟨AuditRun.sound_start, fun _ _ _ ↦ rfl⟩ (hclean.and hroom)
  exact hsound.accepted hcodec hunrotated

/-- Two records, a restart and one more record. -/
def restartedSteps : List AuditStep :=
  [.record (initializeRequest 1) .success, .record (initializeRequest 2) .success, .restart,
    .record (initializeRequest 3) .success]

/-- The three records are accepted when the log is opened again. -/
theorem restarted_log_accepted :
    FoldMeets (AuditRun.step recordedCodec) (NoIoError recordedCodec) (.start recordedCodec)
        restartedSteps ∧
      LogAccepted recordedCodec
        (restartedSteps.foldl (AuditRun.step recordedCodec) (.start recordedCodec)) := by
  have hclean : FoldMeets (AuditRun.step recordedCodec) (NoIoError recordedCodec)
      (.start recordedCodec) restartedSteps := by decide +kernel
  have hroom : FoldMeets (AuditRun.step recordedCodec) (HasRoom recordedCodec)
      (.start recordedCodec) restartedSteps := by decide +kernel
  exact ⟨hclean,
    (restart_accepts_iff (initializeCodec_lawful _) restartedSteps hclean).1 hroom⟩

/-! ### A log that fills up -/

/-- The request that is repeated until the current file is full. -/
def fillingStep : AuditStep := .record (initializeRequest 0) .success

/-- The requests that fill the current file and one more. -/
def fillingSteps : List AuditStep := List.replicate (maxLogFileBytes + 1) fillingStep

section Filling

variable {sha256 : Bytes → FixedBytes 32}

theorem success_clean : DiskOutcome.success.Clean := ⟨rfl, rfl, fun _ _ ↦ rfl, rfl, rfl, rfl⟩

theorem computeChainHash_started (previous hash : FixedBytes 32) (timestamp : Nat) :
    computeChainHash (initializeCodec sha256) previous (initializeEvent timestamp hash) =
      .ok (sha256 (previous.val ++ payloadText timestamp)) := by
  have hpayload : (initializeCodec sha256).toVec
      (initializeEvent timestamp hash).toAuditEventPayload = some (payloadText timestamp) :=
    if_pos rfl
  rw [computeChainHash, hpayload]
  rfl

theorem toString_initializeEvent (timestamp : Nat) (hash : FixedBytes 32) :
    ((initializeCodec sha256).toString (initializeEvent timestamp hash)).isSome = true := by
  have hline : (initializeCodec sha256).toString (initializeEvent timestamp hash) = some _ :=
    if_pos rfl
  rw [hline]
  rfl

/-- What an initialisation adds to the chain. -/
theorem nextEvent_started (s : AuditSystem) (wall : Nat) :
    s.nextEvent (initializeCodec sha256) (initializeRequest wall) =
      if s.log.tamperFlag = true then none
      else (nextTimestamp wall s.log.worker.lastTimestamp).map fun timestamp ↦
        (initializeEvent timestamp s.log.worker.lastHash,
          sha256 (s.log.worker.lastHash.val ++ payloadText timestamp)) := by
  unfold AuditSystem.nextEvent
  have hwall : (initializeRequest wall).sanitized.wall = wall := rfl
  rw [hwall]
  cases nextTimestamp wall s.log.worker.lastTimestamp with
  | none => rfl
  | some timestamp =>
    have hevent : s.log.eventAt (initializeRequest wall).sanitized timestamp =
        initializeEvent timestamp s.log.worker.lastHash := rfl
    rw [Option.bind_some, Option.map_some, hevent]
    dsimp only
    rw [computeChainHash_started]
    rfl

theorem mem_nextEvent_started {s : AuditSystem} {wall : Nat} {next : AuditEvent × FixedBytes 32}
    (h : next ∈ s.nextEvent (initializeCodec sha256) (initializeRequest wall)) :
    ∃ timestamp message, next = (initializeEvent timestamp s.log.worker.lastHash,
      sha256 message) := by
  rw [nextEvent_started] at h
  by_cases htamper : s.log.tamperFlag = true
  · rw [if_pos htamper] at h
    cases h
  · rw [if_neg htamper] at h
    obtain ⟨timestamp, -, rfl⟩ := Option.mem_map.mp h
    exact ⟨timestamp, _, rfl⟩

theorem fillingStep_noIoError (run : AuditRun) :
    NoIoError (initializeCodec sha256) run fillingStep := by
  refine ⟨success_clean, fun next hnext ↦ ?_⟩
  obtain ⟨timestamp, message, rfl⟩ := mem_nextEvent_started hnext
  exact toString_initializeEvent timestamp _

theorem fillingStep_hashNonzero (hsha : ∀ message, sha256 message ≠ zeroHash) (run : AuditRun) :
    HashNonzero (initializeCodec sha256) run fillingStep := by
  intro next hnext
  obtain ⟨timestamp, message, rfl⟩ := mem_nextEvent_started hnext
  exact hsha message

/-- A run of `n` requests that all left their lines. -/
structure Filled (sha256 : Bytes → FixedBytes 32) (n : Nat) (run : AuditRun) : Prop
    extends run.Sound (initializeCodec sha256) where
  untampered : run.system.log.tamperFlag = false
  time : run.system.log.worker.lastTimestamp = n
  size : n ≤ run.system.files.size

theorem append_size (files : LogFiles) (bytes : Bytes) :
    (files.append bytes).size = files.size + bytes.length := by
  rw [LogFiles.size, LogFiles.append, Function.update_self, Option.getD_some, List.length_append]
  rfl

theorem Filled.nextEvent_isSome {n : Nat} (h : Filled sha256 n run) (hn : n + 1 < 2 ^ 64) :
    run.system.nextEvent (initializeCodec sha256) (initializeRequest 0) =
      some (initializeEvent (n + 1) run.system.log.worker.lastHash,
        sha256 (run.system.log.worker.lastHash.val ++ payloadText (n + 1))) := by
  have htimestamp : nextTimestamp 0 n = some (n + 1) := by
    rw [nextTimestamp, Nat.zero_min]
    exact (if_pos (Nat.zero_le n)).trans (if_pos hn)
  rw [nextEvent_started, h.untampered, h.time, htimestamp]
  rfl

/-- A request with room for its line makes the file longer. -/
theorem Filled.step {n : Nat} (h : Filled sha256 n run) (hn : n + 1 < 2 ^ 64)
    (hroom : HasRoom (initializeCodec sha256) run fillingStep) :
    Filled sha256 (n + 1) (run.step (initializeCodec sha256) fillingStep) := by
  have hchained := h.nextEvent_isSome hn
  have hstep := h.toSound.record (fillingStep_noIoError run)
  change (run.step _ fillingStep).Sound _ ∧ Extended _ run _ (run.step _ fillingStep) at hstep
  obtain ⟨hsound, hextended⟩ := hstep
  cases hextended with
  | refused hnext => exact absurd (hchained.symm.trans hnext) nofun
  | room hnext _ hline hfiles htime htamper =>
    obtain ⟨rfl, -⟩ := Prod.mk.inj (Option.mem_unique hchained hnext)
    refine ⟨hsound, htamper, htime, ?_⟩
    have hsize := h.size
    rw [hfiles, append_size, touch_size, List.length_append, List.length_singleton]
    omega
  | rotated _ hfull =>
    exact absurd hfull (Nat.not_le_of_lt (hroom (by rw [hchained]; rfl)))

theorem filled_run {n : Nat} (hn : n < 2 ^ 64)
    (hroom : FoldMeets (AuditRun.step (initializeCodec sha256)) (HasRoom (initializeCodec sha256))
      (.start (initializeCodec sha256)) (List.replicate n fillingStep)) :
    Filled sha256 n ((List.replicate n fillingStep).foldl
      (AuditRun.step (initializeCodec sha256)) (.start (initializeCodec sha256))) := by
  induction n with
  | zero => exact ⟨AuditRun.sound_start, rfl, rfl, Nat.zero_le _⟩
  | succ n ih =>
    rw [List.replicate_succ', foldMeets_append] at hroom
    rw [List.replicate_succ', List.foldl_append]
    exact (ih (by omega) hroom.1).step hn hroom.2.1

/-- Enough requests fill the current file, and then one of them does not find room. -/
theorem not_hasRoom_forever :
    ¬ FoldMeets (AuditRun.step (initializeCodec sha256)) (HasRoom (initializeCodec sha256))
      (.start (initializeCodec sha256)) fillingSteps := by
  intro hroom
  rw [fillingSteps, List.replicate_succ', foldMeets_append] at hroom
  have hfilled := filled_run (by decide) hroom.1
  have hlast := hroom.2.1
  have hsome := hfilled.nextEvent_isSome (by decide)
  exact absurd hfilled.size (Nat.not_le_of_lt (hlast (by rw [hsome]; rfl)))

theorem fillingSteps_noIoError :
    FoldMeets (AuditRun.step (initializeCodec sha256)) (NoIoError (initializeCodec sha256))
      (.start (initializeCodec sha256)) fillingSteps :=
  .of_always fun _ hstep run ↦ List.eq_of_mem_replicate hstep ▸ fillingStep_noIoError run

/-- Whatever the hash function, as long as none of its digests is the zero hash: after requests
without any I/O error that fill the current file, a restart flags the log as tampered. -/
theorem full_log_refused (hsha : ∀ message, sha256 message ≠ zeroHash) :
    (newWithPath (initializeCodec sha256)
      (fillingSteps.foldl (AuditRun.step (initializeCodec sha256))
        (.start (initializeCodec sha256))).system.files).log.tamperFlag = true := by
  refine Bool.eq_true_of_not_eq_false fun haccepted ↦ ?_
  have hnonzero : FoldMeets (AuditRun.step (initializeCodec sha256))
      (HashNonzero (initializeCodec sha256)) (.start (initializeCodec sha256)) fillingSteps :=
    .of_always fun _ hstep run ↦
      List.eq_of_mem_replicate hstep ▸ fillingStep_hashNonzero hsha run
  exact not_hasRoom_forever (hasRoom_of_accepted (initializeCodec_lawful sha256)
    fillingSteps_noIoError hnonzero haccepted)

end Filling

/-- Nobody touches the files and no file operation fails, and still the restart after a rotation
flags the log as tampered. -/
theorem untampered_log_refused :
    FoldMeets (AuditRun.step recordedCodec) (NoIoError recordedCodec) (.start recordedCodec)
        fillingSteps ∧
      (newWithPath recordedCodec (fillingSteps.foldl (AuditRun.step recordedCodec)
        (.start recordedCodec)).system.files).log.tamperFlag = true := by
  unfold recordedCodec
  refine ⟨fillingSteps_noIoError, full_log_refused fun message ↦ ?_⟩
  unfold recordedSha256
  split_ifs <;> decide

end CratonHsm.Audit
