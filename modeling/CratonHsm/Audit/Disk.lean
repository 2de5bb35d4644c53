import CratonHsm.Audit.Log
import Mathlib.Tactic.IntervalCases

/-!
# What the files of the audit log hold

`Stores` relates one file to the events whose lines it holds, `Held` the current file and its
rotated generations to their events, oldest first. A rotation shifts whole files, so it keeps the
events in their order and can only lose those of the oldest generation (`rotateLogFiles_spec`), also
when it fails on the way. `writeRecord_spec` says what one request leaves on disk for every outcome
of its file operations, and `DiskOutcome.LeavesLine` when its own line is among it. Recovery of a
file that stores events follows their chain from the zero hash (`recoverLines_toOption`).
-/

set_option autoImplicit false

namespace CratonHsm.Audit

open Library (Program followChain joinLines joinLines_concat joinLines_eq_nil splitOn_joinLines)
open Library.Program

variable {codec : AuditCodec} {disk : DiskOutcome} {file : Option Bytes} {files files' : LogFiles}
  {event : AuditEvent} {events : List AuditEvent} {line : Bytes} {answer : HsmResult Unit}

/-! ### One file -/

/-- The file holds the lines of `events`; a missing file holds none. -/
def Stores (codec : AuditCodec) (file : Option Bytes) (events : List AuditEvent) : Prop :=
  ∃ lines, List.Forall₂ (fun event line ↦ codec.toString event = some line) events lines ∧
    file.getD [] = joinLines newline lines

theorem Stores.of_none : Stores codec none [] := ⟨[], .nil, rfl⟩

theorem Stores.eq_nil (h : Stores codec none events) : events = [] := by
  obtain ⟨lines, hlines, hfile⟩ := h
  obtain rfl := joinLines_eq_nil hfile.symm
  exact List.forall₂_nil_right_iff.mp hlines

theorem Stores.touch (h : Stores codec file events) :
    Stores codec (some (file.getD [])) events := h

theorem Stores.append (h : Stores codec file events) (hline : codec.toString event = some line) :
    Stores codec (some (file.getD [] ++ (line ++ [newline]))) (events ++ [event]) := by
  obtain ⟨lines, hlines, hfile⟩ := h
  refine ⟨lines ++ [line], List.rel_append hlines (.cons hline .nil), ?_⟩
  rw [joinLines_concat, Option.getD_some, hfile]

/-! ### Recovery -/

theorem chainHash_cons (start : FixedBytes 32) (event : AuditEvent) (events : List AuditEvent) :
    chainHash codec start (event :: events) =
      if event.previousHash = start then
        (computeChainHash codec start event).toOption.bind (chainHash codec · events)
      else none := rfl

variable {lines : List Bytes} {hash : FixedBytes 32} {gen : Nat}

section Lawful

variable (hcodec : codec.Lawful)
include hcodec

/-- Recovery of the lines of `events` succeeds if the events are a chain, with its last hash. -/
theorem recoverLines_toOption
    (h : List.Forall₂ (fun event line ↦ codec.toString event = some line) events lines) :
    ∀ (hash : FixedBytes 32) (number : Nat),
      (recoverLines codec hash number (lines ++ [[]])).toOption = chainHash codec hash events := by
  induction h with
  | nil =>
    intro hash number
    simp only [List.nil_append, recoverLines, hcodec.nil_isText, if_true]
    rfl
  | @cons event line events lines hline _ ih =>
    intro hash number
    obtain ⟨htext, htrim⟩ := hcodec.isText hline
    rw [List.cons_append, recoverLines, if_pos htext, htrim, if_neg (hcodec.isLine hline).1,
      hcodec.fromStr_toString hline, chainHash_cons]
    dsimp only
    by_cases hlink : event.previousHash = hash
    · rw [if_pos hlink, if_pos hlink]
      cases computeChainHash codec hash event with
      | ok reached => exact ih reached (number + 1)
      | error e => rfl
    · rw [if_neg hlink, if_neg hlink]
      rfl

theorem newline_notMem_of_forall₂
    (h : List.Forall₂ (fun event line ↦ codec.toString event = some line) events lines) :
    ∀ line ∈ lines, newline ∉ line := by
  induction h with
  | nil => exact fun _ hline ↦ absurd hline List.not_mem_nil
  | cons hline _ ih =>
    intro other hother
    rcases List.mem_cons.mp hother with rfl | hother
    · exact (hcodec.isLine hline).2
    · exact ih other hother

/-- Recovery of a file that stores events follows their chain from the zero hash. -/
theorem recoverChainFromFile_of_stores (h : Stores codec file events) :
    ∃ outcome, recoverChainFromFile codec file = recoveryResult outcome ∧
      outcome.toOption = chainHash codec zeroHash events := by
  cases file with
  | none =>
    obtain rfl := h.eq_nil
    exact ⟨.ok zeroHash, rfl, rfl⟩
  | some bytes =>
    obtain ⟨lines, hlines, hbytes⟩ := h
    have hsplit : bytes.splitOn newline = lines ++ [[]] := by
      rw [← splitOn_joinLines (newline_notMem_of_forall₂ hcodec hlines), ← hbytes]
      rfl
    refine ⟨_, rfl, ?_⟩
    rw [hsplit]
    exact recoverLines_toOption hcodec hlines zeroHash 1

theorem recoverChainFromFile_of_chain (h : Stores codec file events)
    (hchain : chainHash codec zeroHash events = some hash) :
    recoverChainFromFile codec file = if hash = zeroHash then .noFile else .verified hash := by
  obtain ⟨outcome, hrecover, houtcome⟩ := recoverChainFromFile_of_stores hcodec h
  rw [hchain] at houtcome
  cases outcome with
  | ok reached =>
    rw [hrecover, ← Option.some.inj houtcome]
    rfl
  | error reason => cases houtcome

/-- A log created on a file with a chain goes on from the last hash of the chain. -/
theorem newWithPath_of_chain (h : Stores codec (files 0) events)
    (hchain : chainHash codec zeroHash events = some hash) :
    (newWithPath codec files).log.tamperFlag = false ∧
      (newWithPath codec files).log.worker.lastHash = hash := by
  have hrecover := recoverChainFromFile_of_chain hcodec h hchain
  by_cases hzero : hash = zeroHash
  · rw [if_pos hzero] at hrecover
    simp [newWithPath, hrecover, hzero]
  · rw [if_neg hzero] at hrecover
    simp [newWithPath, hrecover]

/-- A log created on a file whose events are not a chain from the zero hash refuses requests. -/
theorem newWithPath_of_no_chain (h : Stores codec (files 0) events)
    (hchain : chainHash codec zeroHash events = none) :
    (newWithPath codec files).log.tamperFlag = true := by
  obtain ⟨outcome, hrecover, houtcome⟩ := recoverChainFromFile_of_stores hcodec h
  rw [hchain] at houtcome
  cases outcome with
  | ok reached => cases houtcome
  | error reason => simp [newWithPath, hrecover, recoveryResult]

end Lawful

/-! ### The generations -/

/-- The files, oldest first. -/
def generations : List Nat := [5, 4, 3, 2, 1, 0]

/-- The files hold the lines of `events`, oldest generation first. -/
def Held (codec : AuditCodec) (files : LogFiles) (events : List AuditEvent) : Prop :=
  ∃ parts : Nat → List AuditEvent, (∀ gen, Stores codec (files gen) (parts gen)) ∧
    events = generations.flatMap parts

/-- No file has been rotated. -/
def LogFiles.Unrotated (files : LogFiles) : Prop := ∀ gen ∈ generations, gen ≠ 0 → files gen = none

instance (files : LogFiles) : Decidable files.Unrotated :=
  inferInstanceAs (Decidable (∀ gen ∈ generations, gen ≠ 0 → files gen = none))

/-- Without a rotation the current file holds everything. -/
theorem Held.stores (h : Held codec files events) (hfiles : files.Unrotated) :
    Stores codec (files 0) events := by
  obtain ⟨parts, hparts, rfl⟩ := h
  have hempty : ∀ gen ∈ generations, gen ≠ 0 → parts gen = [] := by
    intro gen hgen hne
    have hpart := hparts gen
    rw [hfiles gen hgen hne] at hpart
    exact hpart.eq_nil
  have hall : generations.flatMap parts = parts 0 := by
    simp [generations, hempty 5 (by decide), hempty 4 (by decide), hempty 3 (by decide),
      hempty 2 (by decide), hempty 1 (by decide)]
  rw [hall]
  exact hparts 0

theorem stores_update {parts : Nat → List AuditEvent} {part : List AuditEvent}
    (hparts : ∀ gen, Stores codec (files gen) (parts gen)) (h : Stores codec file part)
    (gen : Nat) :
    ∀ other, Stores codec (Function.update files gen file other)
      (Function.update parts gen part other) := by
  intro other
  rcases eq_or_ne other gen with rfl | hne
  · rwa [Function.update_self, Function.update_self]
  · rw [Function.update_of_ne hne, Function.update_of_ne hne]
    exact hparts other

theorem Held.touch (h : Held codec files events) : Held codec files.touch events := by
  obtain ⟨parts, hparts, hevents⟩ := h
  refine ⟨Function.update parts 0 (parts 0), stores_update hparts (hparts 0).touch 0, ?_⟩
  rwa [Function.update_eq_self]

theorem Held.append (h : Held codec files events) (hline : codec.toString event = some line) :
    Held codec (files.append (line ++ [newline])) (events ++ [event]) := by
  obtain ⟨parts, hparts, rfl⟩ := h
  exact ⟨Function.update parts 0 (parts 0 ++ [event]),
    stores_update hparts ((hparts 0).append hline) 0, by simp [generations]⟩

/-- Shifting a file to a free generation keeps the events and their order. -/
theorem Held.rename {gen : Nat} (hgen : gen < 5) (hfree : files (gen + 1) = none)
    (h : Held codec files events) :
    Held codec (files.rename gen) events := by
  obtain ⟨parts, hparts, rfl⟩ := h
  have hempty : parts (gen + 1) = [] := by
    have hpart := hparts (gen + 1)
    rw [hfree] at hpart
    exact hpart.eq_nil
  refine ⟨Function.update (Function.update parts (gen + 1) (parts gen)) gen [],
    stores_update (stores_update hparts (hparts gen) _) .of_none _, ?_⟩
  interval_cases gen <;> simp_all [generations]

/-- Without its oldest generation the log holds its later events. -/
theorem Held.drop_oldest (h : Held codec files events) :
    ∃ dropped kept, events = dropped ++ kept ∧
      Held codec (Function.update files 5 none) kept := by
  obtain ⟨parts, hparts, rfl⟩ := h
  exact ⟨parts 5, [4, 3, 2, 1, 0].flatMap parts, rfl, Function.update parts 5 [],
    stores_update hparts .of_none 5, by simp [generations]⟩

/-! ### Rotation -/

theorem rename_of_next (files : LogFiles) (gen : Nat) :
    files.rename gen (gen + 1) = files gen := by
  rw [LogFiles.rename, Function.update_of_ne (Nat.succ_ne_self gen), Function.update_self]

theorem rename_self (files : LogFiles) (gen : Nat) : files.rename gen gen = none :=
  Function.update_self ..

theorem rename_of_ne (files : LogFiles) {other : Nat} (hself : other ≠ gen)
    (hnext : other ≠ gen + 1) : files.rename gen other = files other := by
  rw [LogFiles.rename, Function.update_of_ne hself, Function.update_of_ne hnext]

theorem renameGeneration_apply (disk : DiskOutcome) (gen : Nat) (files : LogFiles) :
    renameGeneration disk gen files =
      if disk.renames gen = true then (.ok (), files.rename gen)
      else (.error .generalError, files) :=
  require_bind ..

theorem shiftGenerations_succ (disk : DiskOutcome) (gen : Nat) (files : LogFiles) :
    shiftGenerations disk (gen + 1) files =
      if (files (gen + 1)).isSome = true then
        if disk.renames (gen + 1) = true then shiftGenerations disk gen (files.rename (gen + 1))
        else (.error .generalError, files)
      else shiftGenerations disk gen files := by
  rw [shiftGenerations, view_bind]
  by_cases hpresent : (files (gen + 1)).isSome = true
  · rw [if_pos hpresent, if_pos hpresent, bind_apply, renameGeneration_apply]
    by_cases hrename : disk.renames (gen + 1) = true
    · rw [if_pos hrename, if_pos hrename]
    · rw [if_neg hrename, if_neg hrename]
  · rw [if_neg hpresent, if_neg hpresent]

/-- What the renames from generation `gen` down leave: the same events, in the same files or with a
rotated one among them, and no current file if all went well. -/
structure Shifted (codec : AuditCodec) (gen : Nat) (files : LogFiles) (events : List AuditEvent)
    (answer : HsmResult Unit) (files' : LogFiles) : Prop where
  held : Held codec files' events
  moved : files' = files ∨ ∃ other, 0 < other ∧ other ≤ gen + 1 ∧ files' other ≠ none
  above : ∀ other, gen + 1 < other → files' other = files other
  current : answer = .ok () → files' 0 = none

theorem Shifted.refused (h : Held codec files events) :
    Shifted codec gen files events (.error .generalError) files :=
  ⟨h, .inl rfl, fun _ _ ↦ rfl, nofun⟩

theorem shiftGenerations_spec (disk : DiskOutcome) :
    ∀ (gen : Nat) (files : LogFiles) (events : List AuditEvent), gen < 5 → files 0 ≠ none →
      files (gen + 1) = none → Held codec files events →
        (shiftGenerations disk gen).Ensures files (Shifted codec gen files events) := by
  intro gen
  unfold Ensures
  induction gen with
  | zero =>
    intro files events hgen hcurrent hfree hheld
    rw [shiftGenerations, renameGeneration_apply]
    by_cases hrename : disk.renames 0 = true
    · rw [if_pos hrename]
      refine ⟨hheld.rename hgen hfree, .inr ⟨1, by decide, le_rfl, ?_⟩, ?_, ?_⟩
      · exact fun hnone ↦ hcurrent ((rename_of_next files 0).symm.trans hnone)
      · exact fun other hother ↦ rename_of_ne files (by omega) (by omega)
      · exact fun _ ↦ rename_self files 0
    · rw [if_neg hrename]
      exact .refused hheld
  | succ gen ih =>
    intro files events hgen hcurrent hfree hheld
    rw [shiftGenerations_succ]
    by_cases hpresent : (files (gen + 1)).isSome = true
    · rw [if_pos hpresent]
      by_cases hrename : disk.renames (gen + 1) = true
      · rw [if_pos hrename]
        have hcurrent' : files.rename (gen + 1) 0 ≠ none := by
          exact hcurrent
        obtain ⟨hheld', -, habove, hok⟩ := ih (files.rename (gen + 1)) events (by omega) hcurrent'
          (rename_self files _) (hheld.rename hgen hfree)
        refine ⟨hheld', .inr ⟨gen + 2, by omega, le_rfl, ?_⟩, fun other hother ↦ ?_, hok⟩
        · rw [habove (gen + 2) (by omega), rename_of_next files (gen + 1)]
          exact Option.isSome_iff_ne_none.mp hpresent
        · rw [habove other (by omega), rename_of_ne files (by omega) (by omega)]
      · rw [if_neg hrename]
        exact .refused hheld
    · rw [if_neg hpresent]
      have hmissing : files (gen + 1) = none := by simpa using hpresent
      obtain ⟨hheld', hmoved, habove, hok⟩ := ih files events (by omega) hcurrent hmissing hheld
      refine ⟨hheld', hmoved.imp id ?_, fun other hother ↦ habove other (by omega), hok⟩
      exact fun ⟨other, hpos, hle, hne⟩ ↦ ⟨other, hpos, by omega, hne⟩

/-- What a rotation leaves, finished or not: the events in their order, without those of the oldest
generation if that one was overwritten. -/
structure Rotated (codec : AuditCodec) (files : LogFiles) (events : List AuditEvent)
    (answer : HsmResult Unit) (files' : LogFiles) : Prop where
  held : ∃ dropped kept, events = dropped ++ kept ∧ Held codec files' kept ∧
    (files'.Unrotated → dropped = [])
  moved : files' = files ∨ ¬ files'.Unrotated
  current : answer = .ok () → files' 0 = none

theorem Shifted.not_unrotated (gen : Nat) (hgen : gen < 5)
    (h : ∃ other, 0 < other ∧ other ≤ gen + 1 ∧ files' other ≠ none) : ¬ files'.Unrotated := by
  obtain ⟨other, hpos, hle, hne⟩ := h
  refine fun hfiles ↦ hne (hfiles other ?_ (by omega))
  have : other ≤ 5 := by omega
  interval_cases other <;> decide

theorem Shifted.rotated (gen : Nat) (hgen : gen < 5)
    (h : Shifted codec gen files events answer files') : Rotated codec files events answer files' :=
  ⟨⟨[], events, rfl, h.held, fun _ ↦ rfl⟩, h.moved.imp id (Shifted.not_unrotated gen hgen),
    h.current⟩

theorem rotateLogFiles_spec (disk : DiskOutcome) (hcurrent : files 0 ≠ none)
    (h : Held codec files events) :
    (rotateLogFiles disk).Ensures files (Rotated codec files events) := by
  unfold Ensures
  rw [show rotateLogFiles disk files = shiftGenerations disk (3 + 1) files from rfl,
    shiftGenerations_succ]
  by_cases hpresent : (files 4).isSome = true
  · rw [if_pos hpresent]
    by_cases hrename : disk.renames 4 = true
    · rw [if_pos hrename]
      -- Generation 5 is overwritten: the shift is that of the files without it.
      obtain ⟨dropped, kept, hevents, hkept⟩ := h.drop_oldest
      have hsame : LogFiles.rename (Function.update files 5 none) 4 = files.rename 4 := by
        simp [LogFiles.rename]
      have hheld : Held codec (files.rename 4) kept := by
        rw [← hsame]
        exact hkept.rename (by decide) (Function.update_self ..)
      have hcurrent' : files.rename 4 0 ≠ none := by
        exact hcurrent
      have hshift := shiftGenerations_spec disk 3 (files.rename 4) kept (by decide) hcurrent'
        (rename_self files 4) hheld
      have hfifth : ¬ ((shiftGenerations disk 3 (files.rename 4)).2).Unrotated := by
        refine Shifted.not_unrotated 4 (by decide) ⟨5, by decide, le_rfl, ?_⟩
        rw [hshift.above 5 (by decide), rename_of_next files 4]
        exact Option.isSome_iff_ne_none.mp hpresent
      exact ⟨⟨dropped, kept, hevents, hshift.held, fun hfiles ↦ absurd hfiles hfifth⟩, .inr hfifth,
        hshift.current⟩
    · rw [if_neg hrename]
      exact Shifted.rotated 4 (by decide) (.refused h)
  · rw [if_neg hpresent]
    have hmissing : files 4 = none := by simpa using hpresent
    exact Shifted.rotated 3 (by decide)
      (shiftGenerations_spec disk 3 files events (by decide) hcurrent hmissing h)

/-! ### One request -/

/-- Every rename that a rotation of `files` asks for succeeds. -/
def DiskOutcome.Rotates (disk : DiskOutcome) (files : LogFiles) : Prop :=
  ∀ gen < maxRotatedFiles, (files gen).isSome = true → disk.renames gen = true

/-- The current file is seen to have reached its limit. -/
def DiskOutcome.FindsFull (disk : DiskOutcome) (files : LogFiles) : Prop :=
  disk.reportsSize = true ∧ maxLogFileBytes ≤ files.size

/-- The request leaves the line of `event` in the current file, whether or not it is answered with
an error. -/
def DiskOutcome.LeavesLine (codec : AuditCodec) (disk : DiskOutcome) (files : LogFiles)
    (event : AuditEvent) : Prop :=
  disk.opens = true ∧ (disk.FindsFull files → disk.Rotates files ∧ disk.reopens = true) ∧
    (codec.toString event).isSome = true ∧ disk.write ≠ .nothing

instance (disk : DiskOutcome) (files : LogFiles) : Decidable (disk.Rotates files) :=
  inferInstanceAs (Decidable (∀ gen < maxRotatedFiles, _ → _))

instance (disk : DiskOutcome) (files : LogFiles) : Decidable (disk.FindsFull files) :=
  inferInstanceAs (Decidable (_ ∧ _))

instance (disk : DiskOutcome) (files : LogFiles) (event : AuditEvent) :
    Decidable (disk.LeavesLine codec files event) :=
  inferInstanceAs (Decidable (_ ∧ (_ → _ ∧ _) ∧ _ ∧ _))

theorem shiftGenerations_ok_iff (disk : DiskOutcome) (gen : Nat) (files : LogFiles)
    (hcurrent : files 0 ≠ none) :
    (shiftGenerations disk gen files).1 = .ok () ↔
      ∀ other ≤ gen, (files other).isSome = true → disk.renames other = true := by
  induction gen generalizing files with
  | zero =>
    rw [shiftGenerations, renameGeneration_apply]
    have hsome := Option.isSome_iff_ne_none.mpr hcurrent
    by_cases hrename : disk.renames 0 = true
    · simp [hrename]
    · simp [hrename, hsome]
  | succ gen ih =>
    rw [shiftGenerations_succ]
    have hbelow : ∀ other ≤ gen, files.rename (gen + 1) other = files other := fun other hother ↦
      rename_of_ne files (by omega) (by omega)
    have hsplit : (∀ other ≤ gen + 1, (files other).isSome = true → disk.renames other = true) ↔
        (∀ other ≤ gen, (files other).isSome = true → disk.renames other = true) ∧
          ((files (gen + 1)).isSome = true → disk.renames (gen + 1) = true) := by
      simp [Nat.le_succ_iff, or_imp, forall_and]
    by_cases hpresent : (files (gen + 1)).isSome = true
    · rw [if_pos hpresent]
      by_cases hrename : disk.renames (gen + 1) = true
      · have hcurrent' : files.rename (gen + 1) 0 ≠ none := by
          exact hcurrent
        rw [if_pos hrename, ih _ hcurrent', hsplit]
        simp +contextual [hbelow, hrename]
      · rw [if_neg hrename, hsplit]
        simp [hpresent, hrename]
    · rw [if_neg hpresent, ih _ hcurrent, hsplit]
      simp [hpresent]

theorem touch_of_ne_none (hcurrent : files 0 ≠ none) : files.touch = files := by
  obtain ⟨bytes, hbytes⟩ := Option.ne_none_iff_exists'.mp hcurrent
  rw [LogFiles.touch, hbytes]
  exact (congrArg (Function.update files 0) hbytes.symm).trans (Function.update_eq_self 0 files)

theorem unrotated_touch : files.touch.Unrotated ↔ files.Unrotated := by
  simp only [LogFiles.Unrotated, LogFiles.touch]
  exact forall₂_congr fun gen _ ↦ forall_congr' fun hne ↦ by rw [Function.update_of_ne hne]

theorem unrotated_append {bytes : Bytes} :
    (files.append bytes).Unrotated ↔ files.Unrotated := by
  simp only [LogFiles.Unrotated, LogFiles.append]
  exact forall₂_congr fun gen _ ↦ forall_congr' fun hne ↦ by rw [Function.update_of_ne hne]

/-- The files still hold the events, up to a lost oldest generation. -/
structure KeepsEvents (codec : AuditCodec) (files : LogFiles) (events : List AuditEvent)
    (files' : LogFiles) : Prop where
  held : ∃ dropped kept, events = dropped ++ kept ∧ Held codec files' kept ∧
    (files'.Unrotated → dropped = [])
  unrotated : files'.Unrotated → files.Unrotated

/-- What the opening of the current file leaves, with the rotation of a full one. -/
structure Prepared (codec : AuditCodec) (disk : DiskOutcome) (files : LogFiles)
    (events : List AuditEvent) (answer : HsmResult Unit) (files' : LogFiles) : Prop
    extends KeepsEvents codec files events files' where
  ok_iff : answer = .ok () ↔ (disk.FindsFull files → disk.Rotates files ∧ disk.reopens = true)
  room : ¬ disk.FindsFull files → files' = files.touch
  full : disk.FindsFull files → answer = .ok () → files' 0 = some [] ∧ ¬ files'.Unrotated

theorem KeepsEvents.refl (h : Held codec files events) : KeepsEvents codec files events files :=
  ⟨⟨[], events, rfl, h, fun _ ↦ rfl⟩, id⟩

theorem KeepsEvents.touch (h : KeepsEvents codec files events files') :
    KeepsEvents codec files events files'.touch := by
  obtain ⟨⟨dropped, kept, hevents, hheld, hdropped⟩, hfiles⟩ := h
  exact ⟨⟨dropped, kept, hevents, hheld.touch, fun h ↦ hdropped (unrotated_touch.mp h)⟩,
    fun h ↦ hfiles (unrotated_touch.mp h)⟩

theorem Rotated.keepsEvents (h : Rotated codec files events answer files') :
    KeepsEvents codec files events files' := by
  refine ⟨h.held, fun hfiles ↦ ?_⟩
  rcases h.moved with hsame | hrotated
  · rwa [hsame] at hfiles
  · exact absurd hfiles hrotated

/-- The size that a request sees of the current file, which it has just opened. -/
def DiskOutcome.seenSize (disk : DiskOutcome) (files : LogFiles) : Nat :=
  if disk.reportsSize then files.touch.size else 0

theorem touch_size (files : LogFiles) : files.touch.size = files.size := by
  rfl

theorem findsFull_iff :
    disk.FindsFull files ↔ maxLogFileBytes ≤ disk.seenSize files := by
  rw [DiskOutcome.FindsFull, DiskOutcome.seenSize, touch_size]
  by_cases hsize : disk.reportsSize = true
  · simp [hsize]
  · simp [hsize, maxLogFileBytes]

theorem current_of_findsFull (h : disk.FindsFull files) :
    files 0 ≠ none := by
  intro hnone
  have hsize := h.2
  rw [LogFiles.size, hnone] at hsize
  exact absurd hsize (by decide)

theorem rotateLogFiles_ok_iff (hcurrent : files 0 ≠ none) :
    (rotateLogFiles disk files).1 = .ok () ↔ disk.Rotates files := by
  rw [rotateLogFiles, shiftGenerations_ok_iff disk _ files hcurrent]
  exact forall_congr' fun gen ↦ by rw [← Nat.lt_succ_iff]; rfl

theorem rotateIfFull_spec (disk : DiskOutcome) (h : Held codec files events) :
    (rotateIfFull disk (disk.seenSize files)).Ensures files.touch
      (Prepared codec disk files events) := by
  by_cases hfull : disk.FindsFull files
  · have hcurrent := current_of_findsFull hfull
    rw [touch_of_ne_none hcurrent, rotateIfFull, if_pos (findsFull_iff.mp hfull)]
    refine Ensures.bind (P := fun answer files' ↦ Rotated codec files events answer files' ∧
      (answer = .ok () ↔ disk.Rotates files))
      ⟨rotateLogFiles_spec disk hcurrent h, rotateLogFiles_ok_iff hcurrent⟩ ?_ ?_
    · rintro e files' ⟨hrotated, hok⟩
      exact ⟨hrotated.keepsEvents, ⟨nofun, fun hall ↦ hok.mpr (hall hfull).1⟩,
        fun hroom ↦ absurd hfull hroom, nofun⟩
    · rintro ⟨⟩ files' ⟨hrotated, hok⟩
      have hmissing : files' 0 = none := hrotated.current rfl
      have hunrotated : ¬ files'.touch.Unrotated := by
        rw [unrotated_touch]
        exact hrotated.moved.resolve_left fun hsame ↦ hcurrent (hsame ▸ hmissing)
      unfold Ensures
      rw [require_bind]
      by_cases hreopens : disk.reopens = true
      · rw [if_pos hreopens]
        refine ⟨hrotated.keepsEvents.touch, ⟨fun _ _ ↦ ⟨hok.mp rfl, hreopens⟩, fun _ ↦ rfl⟩,
          fun hroom ↦ absurd hfull hroom, fun _ _ ↦ ⟨?_, hunrotated⟩⟩
        change files'.touch 0 = some []
        rw [LogFiles.touch, Function.update_self, hmissing]
        rfl
      · rw [if_neg hreopens]
        exact ⟨hrotated.keepsEvents, ⟨nofun, fun hall ↦ absurd (hall hfull).2 hreopens⟩,
          fun hroom ↦ absurd hfull hroom, nofun⟩
  · rw [rotateIfFull, if_neg fun hsize ↦ hfull (findsFull_iff.mpr hsize)]
    exact ⟨(KeepsEvents.refl h).touch, ⟨fun _ hall ↦ absurd hall hfull, fun _ ↦ rfl⟩, fun _ ↦ rfl,
      fun hall ↦ absurd hall hfull⟩

/-- What a request leaves on disk: with its line, after the file was prepared without an error; or
without it, and then it is answered with an error. -/
inductive Recorded (codec : AuditCodec) (disk : DiskOutcome) (event : AuditEvent) (files : LogFiles)
    (events : List AuditEvent) : HsmResult Unit → LogFiles → Prop where
  | left {answer : HsmResult Unit} {line : Bytes} {mid : LogFiles}
      (hleaves : disk.LeavesLine codec files event) (hline : codec.toString event = some line)
      (hmid : Prepared codec disk files events (.ok ()) mid)
      (hanswer : answer = .ok () ↔ disk.write = .written ∧ disk.syncs = true) :
      Recorded codec disk event files events answer (mid.append (line ++ [newline]))
  | lost {answer : HsmResult Unit} {files' : LogFiles}
      (hleaves : ¬ disk.LeavesLine codec files event) (hanswer : answer ≠ .ok ())
      (hfiles : KeepsEvents codec files events files') :
      Recorded codec disk event files events answer files'

theorem Recorded.leavesLine (h : Recorded codec disk event files events answer files')
    (hok : answer = .ok ()) :
    disk.LeavesLine codec files event := by
  cases h with
  | left hleaves => exact hleaves
  | lost _ hanswer => exact absurd hok hanswer

theorem appendLine_apply (disk : DiskOutcome) (line : Bytes) (files : LogFiles) :
    appendLine disk line files =
      if disk.write = .nothing then (.error .generalError, files)
      else (if disk.write = .written ∧ disk.syncs = true then .ok () else .error .generalError,
        files.append (line ++ [newline])) := by
  unfold appendLine
  cases hwrite : disk.write with
  | written => simp [require]
  | nothing => simp
  | wholeLine => simp

theorem writeRecord_spec (disk : DiskOutcome) (event : AuditEvent) (h : Held codec files events) :
    (writeRecord codec disk event).Ensures files (Recorded codec disk event files events) := by
  unfold writeRecord
  by_cases hopens : disk.opens = true
  · unfold Ensures
    rw [require_bind, if_pos hopens, update_bind, view_bind]
    refine Ensures.bind (rotateIfFull_spec disk h) ?_ ?_
    · intro e mid hmid
      exact .lost (fun hleaves ↦ nomatch hmid.ok_iff.mpr hleaves.2.1) nofun hmid.toKeepsEvents
    · rintro ⟨⟩ mid hmid
      cases hline : codec.toString event with
      | none =>
        refine .lost (fun hleaves ↦ ?_) nofun hmid.toKeepsEvents
        have hsome := hleaves.2.2.1
        rw [hline] at hsome
        cases hsome
      | some line =>
        unfold Ensures
        dsimp only
        rw [appendLine_apply]
        by_cases hwrite : disk.write = .nothing
        · rw [if_pos hwrite]
          exact .lost (fun hleaves ↦ hleaves.2.2.2 hwrite) nofun hmid.toKeepsEvents
        · rw [if_neg hwrite]
          have hleaves : disk.LeavesLine codec files event :=
            ⟨hopens, hmid.ok_iff.mp rfl, by rw [hline]; rfl, hwrite⟩
          exact .left hleaves hline hmid (by split <;> simp_all)
  · unfold Ensures
    rw [require_bind, if_neg hopens]
    exact .lost (fun hleaves ↦ hopens hleaves.1) nofun (.refl h)

end CratonHsm.Audit
