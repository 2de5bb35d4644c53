import CratonHsm.Audit.Worker

/-!
# Tampering with the log

Two checks of the chain. `recover_chain_from_file` walks the chain of a file from the zero hash;
its last hash determines the payloads that the file holds (`edited_file_detected`), so no other
sequence of payloads is recovered to the same hash.

`verify_chain` walks the entries in memory, also from the zero hash. The entries of a log that was
recovered from a file with events, or that has dropped its oldest entries, start from another hash,
so it refuses them although nothing was tampered with; it accepts the log as long as the entries in
memory are the whole chain (`verify_chain_accepts`).

A hash function cannot be injective on all inputs. What is assumed is that it does not collide on
the inputs at hand, and does not take one of them to the zero hash (`CollisionFree`).
-/

set_option autoImplicit false

namespace CratonHsm.Audit

open Library (Program FoldMeets foldl_invariant followChain_injective followChain_concat
  followChain_adjacent)
open Library.Program
open AuditSystem

variable {hash : FixedBytes 32}

variable {codec : AuditCodec}

/-! ### Files -/

/-- The event on a line, unless the line is blank or holds none. -/
def lineEvent (codec : AuditCodec) (line : Bytes) : Option AuditEvent :=
  if codec.trim line = [] then none else codec.fromStr (codec.trim line)

/-- The events on the lines of a file. -/
def fileEvents (codec : AuditCodec) : Option Bytes → List AuditEvent
  | none => []
  | some bytes => (bytes.splitOn newline).filterMap (lineEvent codec)

/-- The payloads that a file holds. -/
def filePayloads (codec : AuditCodec) (file : Option Bytes) : List AuditEventPayload :=
  (fileEvents codec file).map AuditEvent.toAuditEventPayload

/-- The hash that a recovered log goes on from. -/
def ChainRecoveryResult.finalHash : ChainRecoveryResult → Option (FixedBytes 32)
  | .noFile => some zeroHash
  | .verified hash => some hash
  | .broken _ => none

/-- What is hashed for an event. -/
def hashInput (codec : AuditCodec) (event : AuditEvent) : Option Bytes :=
  (codec.toVec event.toAuditEventPayload).map (event.previousHash.val ++ ·)

/-- The hash does not collide on the inputs of the events, and takes none of them to zero. -/
structure CollisionFree (codec : AuditCodec) (events : List AuditEvent) : Prop where
  injective : ∀ event ∈ events, ∀ event' ∈ events, ∀ input ∈ hashInput codec event,
    ∀ input' ∈ hashInput codec event', codec.sha256 input = codec.sha256 input' → input = input'
  nonzero : ∀ event ∈ events, ∀ input ∈ hashInput codec event, codec.sha256 input ≠ zeroHash

/-- Different payloads have different texts. -/
def AuditCodec.PayloadsDiffer (codec : AuditCodec) : Prop :=
  ∀ (payload payload' : AuditEventPayload) (text : Bytes), codec.toVec payload = some text →
    codec.toVec payload' = some text → payload = payload'

theorem computeChainHash_toOption (event : AuditEvent) :
    (computeChainHash codec event.previousHash event).toOption =
      (hashInput codec event).map codec.sha256 := by
  unfold computeChainHash hashInput
  cases codec.toVec event.toAuditEventPayload with
  | none => rfl
  | some text => rfl

/-- The input tells the hash before the event and its payload. -/
theorem hashInput_injective (hpayloads : codec.PayloadsDiffer) {event event' : AuditEvent}
    {input : Bytes} (h : hashInput codec event = some input)
    (h' : hashInput codec event' = some input) :
    event.previousHash = event'.previousHash ∧
      event.toAuditEventPayload = event'.toAuditEventPayload := by
  obtain ⟨text, htext, rfl⟩ := Option.map_eq_some_iff.mp h
  obtain ⟨text', htext', heq⟩ := Option.map_eq_some_iff.mp h'
  have hlength : event'.previousHash.val.length = event.previousHash.val.length :=
    event'.previousHash.property.trans event.previousHash.property.symm
  obtain ⟨hhash, rfl⟩ := List.append_inj heq hlength
  exact ⟨(Subtype.ext hhash).symm, hpayloads _ _ _ htext htext'⟩

/-- The last hash of a chain determines its payloads. -/
theorem chainHash_injective (hpayloads : codec.PayloadsDiffer) {events events' : List AuditEvent}
    (hfree : CollisionFree codec (events ++ events'))
    (h : chainHash codec zeroHash events = some hash)
    (h' : chainHash codec zeroHash events' = some hash) :
    events.map AuditEvent.toAuditEventPayload = events'.map AuditEvent.toAuditEventPayload := by
  refine followChain_injective (fun event hevent event' hevent' reached hreached hreached' ↦ ?_)
    (fun event hevent ↦ ?_) h h'
  · rw [computeChainHash_toOption] at hreached hreached'
    obtain ⟨input, hinput, rfl⟩ := Option.map_eq_some_iff.mp hreached
    obtain ⟨input', hinput', hsame⟩ := Option.map_eq_some_iff.mp hreached'
    obtain rfl := hfree.injective event (List.mem_append_left _ hevent) event'
      (List.mem_append_right _ hevent') input hinput input' hinput' hsame.symm
    exact hashInput_injective hpayloads hinput hinput'
  · rw [computeChainHash_toOption]
    intro hzero
    obtain ⟨input, hinput, hsame⟩ := Option.map_eq_some_iff.mp hzero
    exact hfree.nonzero event (List.mem_append.mpr hevent) input hinput hsame

variable {start : FixedBytes 32} {entries : List AuditEvent}

/-- The loop of the recovery follows the chain of the events on its lines. -/
theorem chainHash_of_recoverLines {lines : List Bytes} {number : Nat}
    (h : recoverLines codec start number lines = .ok hash) :
    chainHash codec start (lines.filterMap (lineEvent codec)) = some hash := by
  induction lines generalizing start number with
  | nil => exact congrArg some (Except.ok.inj h)
  | cons line lines ih =>
    rw [recoverLines] at h
    split_ifs at h with htext hblank
    · rw [List.filterMap_cons, lineEvent, if_pos hblank]
      exact ih h
    · rw [List.filterMap_cons, lineEvent, if_neg hblank]
      cases hevent : codec.fromStr (codec.trim line) with
      | none =>
        rw [hevent] at h
        cases h
      | some event =>
        simp only [hevent] at h
        rw [chainHash_cons]
        split_ifs at h ⊢ with hlink
        cases hnext : computeChainHash codec start event with
        | error e =>
          rw [hnext] at h
          cases h
        | ok reached =>
          rw [hnext] at h
          exact ih h

theorem chainHash_of_recovered {file : Option Bytes}
    (h : (recoverChainFromFile codec file).finalHash = some hash) :
    chainHash codec zeroHash (fileEvents codec file) = some hash := by
  cases file with
  | none => exact h
  | some bytes =>
    unfold recoverChainFromFile at h
    cases hlines : recoverLines codec zeroHash 1 (bytes.splitOn newline) with
    | error reason =>
      simp only [hlines, recoveryResult] at h
      cases h
    | ok reached =>
      refine (chainHash_of_recoverLines hlines).trans ?_
      simp only [hlines, recoveryResult] at h
      split_ifs at h with hzero
      · rw [hzero]
        exact h
      · exact h

/-- No edit of the payloads goes unnoticed: the other file is refused, or recovered to another
hash. Two files with the same verified hash hold the same payloads. -/
theorem edited_file_detected (hpayloads : codec.PayloadsDiffer) (file edited : Option Bytes)
    (hfree : CollisionFree codec (fileEvents codec file ++ fileEvents codec edited)) :
    (filePayloads codec file ≠ filePayloads codec edited →
      (∃ reason, recoverChainFromFile codec edited = .broken reason) ∨
        (recoverChainFromFile codec edited).finalHash ≠
          (recoverChainFromFile codec file).finalHash) ∧
    ∀ hash, recoverChainFromFile codec file = .verified hash →
      recoverChainFromFile codec edited = .verified hash →
        filePayloads codec file = filePayloads codec edited := by
  have hsame : ∀ hash, (recoverChainFromFile codec file).finalHash = some hash →
      (recoverChainFromFile codec edited).finalHash = some hash →
        filePayloads codec file = filePayloads codec edited := fun hash h h' ↦
    chainHash_injective hpayloads hfree (chainHash_of_recovered h) (chainHash_of_recovered h')
  refine ⟨fun hdiffer ↦ ?_, fun hash h h' ↦ hsame hash (by rw [h]; rfl) (by rw [h']; rfl)⟩
  cases hedited : recoverChainFromFile codec edited with
  | broken reason => exact Or.inl ⟨reason, rfl⟩
  | noFile =>
    refine Or.inr fun hequal ↦ hdiffer (hsame zeroHash hequal.symm ?_)
    rw [hedited]
    rfl
  | verified hash =>
    refine Or.inr fun hequal ↦ hdiffer (hsame hash hequal.symm ?_)
    rw [hedited]
    rfl

/-- The payloads of initialisation events differ in their timestamps, which are in their texts. -/
theorem initializeCodec_payloadsDiffer (sha256 : Bytes → FixedBytes 32) :
    (initializeCodec sha256).PayloadsDiffer := by
  have htext : ∀ {payload : AuditEventPayload} {text : Bytes},
      (initializeCodec sha256).toVec payload = some text →
      payload = (initializeEvent payload.timestamp zeroHash).toAuditEventPayload ∧
        ((text.dropLast.splitOn comma).map number).head? = some payload.timestamp := by
    intro payload text h
    unfold initializeCodec at h
    dsimp only at h
    split_ifs at h with hpayload
    obtain rfl := Option.some.inj h
    refine ⟨hpayload, ?_⟩
    have hline : ∀ field ∈ lineFields payload.timestamp [], comma ∉ field :=
      notMem_lineFields (.inl rfl)
    have hfields : ∀ field ∈ payloadFields payload.timestamp, comma ∉ field := fun field hfield ↦
      hline field (List.mem_append_left _ hfield)
    rw [List.dropLast_concat, List.splitOn_intercalate comma hfields (List.cons_ne_nil _ _)]
    exact congrArg some (number_append_decimal (by decide) payload.timestamp)
  intro payload payload' text h h'
  obtain ⟨hpayload, htime⟩ := htext h
  obtain ⟨hpayload', htime'⟩ := htext h'
  rw [hpayload, hpayload', Option.mem_unique htime htime']

/-- The file of a log with three records, and the file without the last of them. -/
def recordedFile (records : Nat) : Option Bytes :=
  ((restartedSteps.take records).foldl (AuditRun.step recordedCodec)
    (.start recordedCodec)).system.files 0

/-- A log that is cut off after its second record is recovered to another hash. -/
theorem cut_off_log_detected :
    filePayloads recordedCodec (recordedFile 4) ≠ filePayloads recordedCodec (recordedFile 2) ∧
      ((∃ reason, recoverChainFromFile recordedCodec (recordedFile 2) = .broken reason) ∨
        (recoverChainFromFile recordedCodec (recordedFile 2)).finalHash ≠
          (recoverChainFromFile recordedCodec (recordedFile 4)).finalHash) := by
  have hedited : filePayloads recordedCodec (recordedFile 4) ≠
      filePayloads recordedCodec (recordedFile 2) := by decide +kernel
  have hfree : CollisionFree recordedCodec (fileEvents recordedCodec (recordedFile 4) ++
      fileEvents recordedCodec (recordedFile 2)) := ⟨by decide +kernel, by decide +kernel⟩
  exact ⟨hedited, (edited_file_detected (initializeCodec_payloadsDiffer _) _ _ hfree).1 hedited⟩

/-! ### Entries in memory -/

/-- The loop of `verify_chain` from entry `index` on. -/
def verifyEntries (codec : AuditCodec) : FixedBytes 32 → Nat → List AuditEvent → Except Nat Unit
  | _, _, [] => .ok ()
  | expectedHash, index, entry :: entries =>
    if entry.previousHash = expectedHash then
      match computeChainHash codec expectedHash entry with
      | .ok hash => verifyEntries codec hash (index + 1) entries
      | .error _ => .error index
    else .error index

/-- `verify_chain`. -/
def verifyChain (codec : AuditCodec) (entries : List AuditEvent) : Except Nat Nat :=
  (verifyEntries codec zeroHash 0 entries).map fun _ ↦ entries.length

/-- The log after a step. -/
def AuditSystem.step (codec : AuditCodec) (s : AuditSystem) : AuditStep → AuditSystem
  | .record request disk => (recordInternal codec disk request s).2
  | .restart => if s.log.logPath then newWithPath codec s.files else .new s.files

/-- `verify_chain` accepts the entries, and refuses them when one that is not the last is replaced
by an entry with another payload. -/
structure VerifiesEntries (codec : AuditCodec) (entries : List AuditEvent) : Prop where
  accepts : verifyChain codec entries = .ok entries.length
  refuses : ∀ (before after : List AuditEvent) (held next entry : AuditEvent),
    entries = before ++ held :: next :: after →
    held.toAuditEventPayload ≠ entry.toAuditEventPayload → CollisionFree codec (entry :: entries) →
    ∃ index, verifyChain codec (before ++ entry :: next :: after) = .error index

/-- The entries in memory stay the whole chain: a request finds room for one more and its file
operations succeed, and a restart finds no events in the log file. -/
def KeepsWholeChain (codec : AuditCodec) (s : AuditSystem) : AuditStep → Prop
  | .record _ disk =>
    s.log.state.entries.length < maxInMemoryEntries ∧ (s.log.logPath = true → disk.Clean)
  | .restart => s.log.logPath = true → recoverChainFromFile codec (s.files 0) = .noFile

instance (s : AuditSystem) : DecidablePred (KeepsWholeChain codec s)
  | .record _ disk => inferInstanceAs (Decidable
      (s.log.state.entries.length < maxInMemoryEntries ∧ (s.log.logPath = true → disk.Clean)))
  | .restart => inferInstanceAs (Decidable
      (s.log.logPath = true → recoverChainFromFile codec (s.files 0) = .noFile))

/-- The entries in memory are the whole chain up to the worker's hash. -/
def AuditSystem.WholeChain (codec : AuditCodec) (s : AuditSystem) : Prop :=
  chainHash codec zeroHash s.log.state.entries = some s.log.worker.lastHash

theorem verifyEntries_ok_iff {expectedHash : FixedBytes 32} {index : Nat} :
    verifyEntries codec expectedHash index entries = .ok () ↔
      (chainHash codec expectedHash entries).isSome = true := by
  induction entries generalizing expectedHash index with
  | nil => exact iff_of_true rfl rfl
  | cons entry entries ih =>
    rw [verifyEntries, chainHash_cons]
    by_cases hlink : entry.previousHash = expectedHash
    · rw [if_pos hlink, if_pos hlink]
      cases computeChainHash codec expectedHash entry with
      | ok hash => exact ih
      | error e => exact iff_of_false nofun Bool.false_ne_true
    · rw [if_neg hlink, if_neg hlink]
      exact iff_of_false nofun Bool.false_ne_true

theorem verifyChain_ok (h : chainHash codec zeroHash entries = some hash) :
    verifyChain codec entries = .ok entries.length := by
  have hok : verifyEntries codec zeroHash 0 entries = .ok () :=
    verifyEntries_ok_iff.mpr (by rw [h]; rfl)
  rw [verifyChain, hok]
  rfl

/-- An entry that is not the last is bound by the one after it. -/
theorem verifyChain_replaced (hpayloads : codec.PayloadsDiffer) {before after : List AuditEvent}
    {held next entry : AuditEvent}
    (h : chainHash codec start (before ++ held :: next :: after) = some hash)
    (hdiffer : held.toAuditEventPayload ≠ entry.toAuditEventPayload)
    (hfree : CollisionFree codec (entry :: (before ++ held :: next :: after))) :
    ∃ index, verifyChain codec (before ++ entry :: next :: after) = .error index := by
  unfold verifyChain
  cases hverify : verifyEntries codec zeroHash 0 (before ++ entry :: next :: after) with
  | error index => exact ⟨index, rfl⟩
  | ok accepted =>
    exfalso
    obtain ⟨reached, hreached⟩ := Option.isSome_iff_exists.mp (verifyEntries_ok_iff.mp hverify)
    have hheld := followChain_adjacent h
    have hentry := followChain_adjacent hreached
    rw [computeChainHash_toOption] at hheld hentry
    obtain ⟨input, hinput, hsame⟩ := Option.map_eq_some_iff.mp hheld
    obtain ⟨input', hinput', hsame'⟩ := Option.map_eq_some_iff.mp hentry
    obtain rfl := hfree.injective held (by simp) entry (by simp) input hinput input' hinput'
      (hsame.trans hsame'.symm)
    exact hdiffer (hashInput_injective hpayloads hinput hinput').2

theorem wholeChain_newWithPath {files : LogFiles}
    (hempty : recoverChainFromFile codec (files 0) = .noFile) :
    (newWithPath codec files).WholeChain codec := by
  unfold AuditSystem.WholeChain newWithPath
  rw [hempty]
  rfl

/-- A step keeps the entries a chain from the zero hash to the hash of the worker. -/
theorem AuditSystem.WholeChain.step (htotal : codec.Total) {s : AuditSystem} {step : AuditStep}
    (h : s.WholeChain codec) (hmeets : KeepsWholeChain codec s step) :
    (s.step codec step).WholeChain codec := by
  cases step with
  | record request disk =>
    obtain ⟨hroom, hclean⟩ := hmeets
    change chainHash codec zeroHash (recordInternal codec disk request s).2.log.state.entries =
      some (recordInternal codec disk request s).2.log.worker.lastHash
    unfold recordInternal
    by_cases htamper : s.log.tamperFlag = true
    · rw [if_pos htamper]
      exact h
    · rw [if_neg htamper]
      have hprocessed : Processed codec request.sanitized s _ _ :=
        processRecord_clean htotal request.sanitized hclean
      rcases hresult : processRecord codec disk request.sanitized s with ⟨outcome, s'⟩
      rw [hresult] at hprocessed
      cases hprocessed with
      | refused _ hstate hworker => rwa [hstate, hworker]
      | @committed timestamp hash _ _ _ hhash hlog =>
        have hentries : s'.log.state.entries =
            s.log.state.entries ++ [s.log.eventAt request.sanitized timestamp] := by
          rw [hlog]
          exact (commit_entries _ _ _).trans (lastEntries_of_room hroom _)
        rw [hentries, hlog]
        exact followChain_concat h rfl (by rw [hhash]; rfl)
  | restart =>
    have hrestart : s.step codec .restart =
        if s.log.logPath then newWithPath codec s.files else .new s.files := rfl
    by_cases hpath : s.log.logPath = true
    · rw [hrestart, if_pos hpath]
      exact wholeChain_newWithPath (hmeets hpath)
    · rw [hrestart, if_neg hpath]
      rfl

/-- The logs with nothing behind their entries: without a file, or on a file with no events. -/
inductive CreatedEmpty (codec : AuditCodec) : AuditSystem → Prop
  | new (files : LogFiles) : CreatedEmpty codec (.new files)
  | withPath (files : LogFiles) (hempty : recoverChainFromFile codec (files 0) = .noFile) :
    CreatedEmpty codec (newWithPath codec files)

/-- As long as the entries in memory are the whole chain, `verify_chain` accepts them and notices
that one of them was replaced. -/
theorem verify_chain_accepts (htotal : codec.Total) (hpayloads : codec.PayloadsDiffer)
    {system : AuditSystem} (hnew : CreatedEmpty codec system) (steps : List AuditStep)
    (hmeets : FoldMeets (step codec) (KeepsWholeChain codec) system steps) :
    VerifiesEntries codec (steps.foldl (step codec) system).log.state.entries := by
  have hstart : system.WholeChain codec := by
    cases hnew with
    | new files => rfl
    | withPath files hempty => exact wholeChain_newWithPath hempty
  have hchain : (steps.foldl (step codec) system).WholeChain codec :=
    foldl_invariant (fun _ _ h hmeet ↦ h.step htotal hmeet) steps system hstart hmeets
  refine ⟨verifyChain_ok hchain, fun before after held next entry hentries hdiffer hfree ↦ ?_⟩
  rw [AuditSystem.WholeChain, hentries] at hchain
  exact verifyChain_replaced hpayloads hchain hdiffer (hentries ▸ hfree)

/-! ### A log that was recovered -/

theorem totalCodec_payloadsDiffer : totalCodec.PayloadsDiffer := by
  -- The texts of initialisation events start with a brace, those of the others with zero.
  have hreal : ∀ {payload : AuditEventPayload} {text : Bytes},
      recordedCodec.toVec payload = some text → text.head? = some 123 := by
    intro payload text htext
    unfold recordedCodec initializeCodec at htext
    dsimp only at htext
    split_ifs at htext
    obtain rfl := Option.some.inj htext
    rfl
  have hother : ∀ {payload payload' : AuditEventPayload} {text : Bytes},
      recordedCodec.toVec payload = some text → text ≠ payloadNumber payload' := by
    rintro payload payload' text htext rfl
    cases hreal htext
  intro payload payload' text h h'
  have htext := Option.some.inj (h.trans h'.symm)
  cases hfirst : recordedCodec.toVec payload with
  | some first =>
    cases hsecond : recordedCodec.toVec payload' with
    | some second =>
      rw [hfirst, hsecond] at htext
      obtain rfl : first = second := htext
      exact initializeCodec_payloadsDiffer _ _ _ _ hfirst hsecond
    | none =>
      rw [hfirst, hsecond] at htext
      exact absurd htext (hother hfirst)
  | none =>
    cases hsecond : recordedCodec.toVec payload' with
    | some second =>
      rw [hfirst, hsecond] at htext
      exact absurd htext.symm (hother hsecond)
    | none =>
      rw [hfirst, hsecond] at htext
      exact payloadNumber_injective htext

/-- Two records on a new file. -/
def twoRecords : List AuditStep :=
  [.record (initializeRequest 1) .success, .record (initializeRequest 2) .success]

/-- The entries of a log on a new file are accepted, and the first of them cannot be replaced. -/
theorem new_log_verified :
    FoldMeets (step totalCodec) (KeepsWholeChain totalCodec)
        (newWithPath totalCodec fun _ ↦ none) twoRecords ∧
      (twoRecords.foldl (step totalCodec)
        (newWithPath totalCodec fun _ ↦ none)).log.state.entries =
          [initializeEvent 1 zeroHash, initializeEvent 2 firstHash] ∧
      VerifiesEntries totalCodec [initializeEvent 1 zeroHash, initializeEvent 2 firstHash] := by
  have hmeets : FoldMeets (step totalCodec) (KeepsWholeChain totalCodec)
      (newWithPath totalCodec fun _ ↦ none) twoRecords := by decide +kernel
  have hentries : (twoRecords.foldl (step totalCodec)
      (newWithPath totalCodec fun _ ↦ none)).log.state.entries =
        [initializeEvent 1 zeroHash, initializeEvent 2 firstHash] := by decide +kernel
  refine ⟨hmeets, hentries, ?_⟩
  rw [← hentries]
  exact verify_chain_accepts totalCodec_total totalCodec_payloadsDiffer (.withPath _ rfl) twoRecords
    hmeets

/-- A log is recovered from a file with two records, which verifies, and records a third. Nothing
was tampered with, and `verify_chain` refuses its one entry. -/
theorem recovered_log_refused :
    recoverChainFromFile recordedCodec (recordedFile 2) = .verified secondHash ∧
      (restartedSteps.foldl (step recordedCodec)
        (newWithPath recordedCodec fun _ ↦ none)).log.tamperFlag = false ∧
      (restartedSteps.foldl (step recordedCodec)
        (newWithPath recordedCodec fun _ ↦ none)).log.state.entries =
          [initializeEvent 3 secondHash] ∧
      verifyChain recordedCodec [initializeEvent 3 secondHash] = .error 0 := by
  decide +kernel

end CratonHsm.Audit
