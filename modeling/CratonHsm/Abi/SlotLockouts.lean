import CratonHsm.Abi.Hsm
import CratonHsm.Library.StepSystem

/-!
# Lockouts of several slots

Every slot of a configuration has its own token with its own state file, and all tokens keep their
lockouts, the counters of failed attempts and the locks, in one file: whichever token saves, saves
for all. A process that starts gives each token what the file holds (`restart_lockouts`).

`LockoutsKept` says of a configuration that in every run of operations on its slots, with restarts
between them, a further restart finds the lockouts that the tokens had. One token writes whatever it
changes (`SavedForAll`, kept by `SlotStep.run_savedForAll`), so a configuration of one slot keeps
its lockouts. With two slots, an initialisation of the first removes the file and with it the failed
attempts of the second, so the lockouts are kept by the configurations of at most one slot and by no
others (`lockoutsKept_iff`). Three wrong PINs on one slot lock the other one too (`lockouts_mixed`).
-/

set_option autoImplicit false

namespace CratonHsm

open Crypto Crypto.Encrypt Library Store

/-! ### Operations on slots -/

/-- An operation on the token of a slot, or the end of the process and the start of another. -/
inductive SlotStep where
  | call (slotId : Nat) (env : TokenEnv) (op : TokenOp)
  | restart (draw : InitDraw)

/-- The next process of a library. -/
def Hsm.restart (config : HsmConfig) (draw : InitDraw) (s : Hsm) : Hsm :=
  .cInitialize config s.disk s.statics draw

/-- The library after an operation or a restart. -/
def SlotStep.run (crates : Crates) (config : HsmConfig) (s : Hsm) : SlotStep → Hsm
  | .call slotId env op =>
    match s.storedToken slotId with
    | none => s
    | some stored => s.setStoredToken slotId (op.apply crates env stored).2
  | .restart draw => s.restart config draw

/-- The file writes of the step succeed. A token restarts with its process only. -/
def SlotStep.Written : SlotStep → Prop
  | .call _ env op => env.fileWrites = true ∧ op ≠ .restart
  | .restart _ => True

/-- The failure counters and locks of the tokens. -/
def Hsm.lockouts (s : Hsm) : List LockoutData := s.slots.map fun slot ↦ slot.token.auth.lockoutData

/-- In every run from any disk, a restart at any point gives each token the lockout it had. -/
def HsmConfig.LockoutsKept (crates : Crates) (config : HsmConfig) : Prop :=
  ∀ (disk : Disk) (statics : CipherStatics) (draw draw' : InitDraw) (steps : List SlotStep),
    (∀ step ∈ steps, step.Written) →
      ((steps.foldl (SlotStep.run crates config) (.cInitialize config disk statics draw)).restart
          config draw').lockouts =
        (steps.foldl (SlotStep.run crates config) (.cInitialize config disk statics draw)).lockouts

/-! ### One token -/

/-- A token that starts has the lockout that the file holds. -/
theorem load_lockoutData {token : TokenConfig} (hstore : token.hasLockoutStore = true)
    (files : TokenFiles) : (Token.load token files).auth.lockoutData =
      loadLockout files.lockout := by
  simp only [Token.load, hstore, if_true]
  split <;> rfl

theorem load_initialized (token : TokenConfig) (lockout : StoredFile LockoutData) :
    (Token.load token ⟨lockout, .missing⟩).auth.initialized = false := by
  simp only [Token.load, loadTokenState, ite_self]
  rfl

/-- The initialisation of a token that has none removes the lockout file. -/
theorem initToken_lockout {crates : Crates} {env : TokenEnv} {stored : StoredToken}
    {soPin : Bytes} (label : FixedBytes 32) (hstore : stored.token.config.hasLockoutStore = true)
    (hwrites : env.fileWrites = true) (hinit : stored.token.auth.initialized = false)
    (hvalid : stored.token.config.validatePin soPin = .ok ()) :
    (stored.initToken crates env soPin label).2.files.lockout = .missing := by
  have heq : stored.initToken crates env soPin label =
      (.ok (), stored.reinitialize crates env soPin label) := by
    simp [StoredToken.initToken, hvalid, hinit]
  rw [heq]
  simp [StoredToken.reinitialize, StoredToken.clearLockout, hstore,
    TokenEnv.saves_of_fileWrites hwrites]

/-! ### Files that hold the lockout of every token -/

/-- The tokens are those of the configuration, and the file holds the lockout of each. -/
structure Hsm.SavedForAll (config : HsmConfig) (s : Hsm) : Prop where
  configs : s.slots.map (fun slot ↦ slot.token.config) = config.slots
  saved : ∀ slot ∈ s.slots, loadLockout s.lockoutFile = slot.token.auth.lockoutData

section SavedForAll

variable {crates : Crates} {config : HsmConfig} {s : Hsm}

theorem Hsm.SavedForAll.lockouts_eq (h : s.SavedForAll config) :
    s.lockouts = List.replicate config.slots.length (loadLockout s.lockoutFile) := by
  refine List.eq_replicate_iff.mpr ⟨?_, ?_⟩
  · rw [← h.configs, Hsm.lockouts, List.length_map, List.length_map]
  · intro lockout hmem
    obtain ⟨slot, hslot, rfl⟩ := List.mem_map.mp hmem
    exact (h.saved slot hslot).symm

variable (hstores : ∀ token ∈ config.slots, token.hasLockoutStore = true)

include hstores

theorem savedForAll_cInitialize (disk : Disk) (statics : CipherStatics) (draw : InitDraw) :
    (Hsm.cInitialize config disk statics draw).SavedForAll config := by
  refine ⟨?_, ?_⟩
  · refine List.ext_getElem (by simp [Hsm.cInitialize]) fun slotId h h' ↦ ?_
    simp only [Hsm.cInitialize, List.getElem_map, List.getElem_mapIdx, Token.load_config]
  · intro slot hslot
    obtain ⟨slotId, hlt, rfl⟩ := List.mem_mapIdx.mp hslot
    exact (load_lockoutData (hstores _ (List.getElem_mem hlt))
      ⟨disk.lockout, disk.tokenStates.getD slotId .missing⟩).symm

/-- What a restart gives: each token gets the lockout of the file. -/
theorem restart_lockouts (draw : InitDraw) : (s.restart config draw).lockouts =
    List.replicate config.slots.length (loadLockout s.lockoutFile) :=
  (savedForAll_cInitialize hstores s.disk s.statics draw).lockouts_eq

/-- With one slot, the token that saves is the only one. -/
theorem SlotStep.run_savedForAll (hone : config.slots.length ≤ 1) {step : SlotStep}
    (hwritten : step.Written) (h : s.SavedForAll config) :
    (step.run crates config s).SavedForAll config := by
  cases step with
  | restart draw => exact savedForAll_cInitialize hstores _ _ _
  | call slotId env op =>
    cases hslot : s.storedToken slotId with
    | none =>
      simp only [SlotStep.run, hslot]
      exact h
    | some stored =>
      simp only [SlotStep.run, hslot]
      obtain ⟨slot, hget, rfl⟩ := Hsm.storedToken_eq_some_iff.mp hslot
      obtain ⟨hlt, -⟩ := List.getElem?_eq_some_iff.mp hget
      have hlength : s.slots.length = config.slots.length := by
        rw [← h.configs, List.length_map]
      obtain ⟨only, hslots⟩ := List.length_eq_one_iff.mp (show s.slots.length = 1 by omega)
      obtain rfl : slotId = 0 := by omega
      obtain rfl : only = slot := by simpa [hslots] using hget
      have hconfigs : [only.token.config] = config.slots := by
        rw [← h.configs, hslots, List.map_singleton]
      have hconfig := (op.apply_effect crates env
        ⟨only.token, ⟨s.lockoutFile, only.stateFile⟩⟩).config_eq
      have hstore : only.token.config.hasLockoutStore = true :=
        hstores _ (by rw [← hconfigs]; exact List.mem_singleton_self _)
      have hbefore : (StoredToken.mk only.token ⟨s.lockoutFile, only.stateFile⟩).LockoutSaved :=
        h.saved only (by rw [hslots]; exact List.mem_singleton_self _)
      have hsaved := apply_lockoutSaved crates env op hstore
        (TokenEnv.saves_of_fileWrites hwritten.1).1 hbefore
      refine ⟨?_, ?_⟩
      · rw [Hsm.setStoredToken, hslots, List.set_cons_zero, List.map_singleton, hconfig, hconfigs]
      · intro after hafter
        rw [Hsm.setStoredToken, hslots, List.set_cons_zero, List.mem_singleton] at hafter
        rw [hafter]
        exact hsaved

end SavedForAll

/-! ### Which configurations keep lockouts -/

/-- The file counts one failed attempt, and the first of two slots is initialised. -/
theorem not_lockoutsKept {crates : Crates} {config : HsmConfig}
    (hstores : ∀ token ∈ config.slots, token.hasLockoutStore = true) {first second : TokenConfig}
    {others : List TokenConfig} (hslots : config.slots = first :: second :: others) {pin : Bytes}
    (hpin : first.validatePin pin = .ok ()) : ¬config.LockoutsKept crates := by
  intro hkept
  have hfirst : first.hasLockoutStore = true := hstores _ (by rw [hslots]; exact List.mem_cons_self)
  have hsecond : second.hasLockoutStore = true := hstores _ (by simp [hslots])
  let lockout : StoredFile LockoutData := .content ⟨1, 0, 0, false, false⟩
  let start : Hsm := .cInitialize config ⟨lockout, [], ∅⟩ .empty .sample
  let stored : StoredToken := ⟨.load first ⟨lockout, .missing⟩, ⟨lockout, .missing⟩⟩
  have hrun : SlotStep.run crates config start (.call 0 (envAt 0) (.initToken pin blankLabel)) =
      start.setStoredToken 0 (stored.initToken crates (envAt 0) pin blankLabel).2 := by
    have hslot : start.storedToken 0 = some stored := by
      simp [start, Hsm.storedToken, Hsm.cInitialize, hslots, stored]
    simp only [SlotStep.run, hslot, TokenOp.apply]
  have hlists := hkept ⟨lockout, [], ∅⟩ .empty .sample .sample
    [.call 0 (envAt 0) (.initToken pin blankLabel)] (by simp [SlotStep.Written])
  have hmissing : (stored.initToken crates (envAt 0) pin blankLabel).2.files.lockout = .missing :=
    initToken_lockout blankLabel (by rw [Token.load_config]; exact hfirst) rfl
      (load_initialized first lockout) (by rw [Token.load_config]; exact hpin)
  rw [restart_lockouts hstores, List.foldl_cons, List.foldl_nil, hrun] at hlists
  have hother := congrArg (·[1]?) hlists
  simp [Hsm.setStoredToken, hmissing, Hsm.lockouts, start, Hsm.cInitialize, hslots,
    load_lockoutData hsecond, loadLockout, lockout] at hother

/-- A configuration whose tokens keep lockout files and accept some PIN keeps the lockouts of its
slots if and only if it has at most one. -/
theorem lockoutsKept_iff (crates : Crates) (config : HsmConfig)
    (hstores : ∀ token ∈ config.slots, token.hasLockoutStore = true)
    (hpins : ∀ token ∈ config.slots, ∃ pin, token.validatePin pin = .ok ()) :
    config.LockoutsKept crates ↔ config.slots.length ≤ 1 := by
  refine ⟨?_, ?_⟩
  · intro hkept
    by_contra hmany
    obtain ⟨first, second, others, hslots⟩ : ∃ first second others,
        config.slots = first :: second :: others := by
      match hslots : config.slots with
      | [] | [_] => simp [hslots] at hmany
      | first :: second :: others => exact ⟨first, second, others, rfl⟩
    obtain ⟨pin, hpin⟩ := hpins first (by rw [hslots]; exact List.mem_cons_self)
    exact not_lockoutsKept hstores hslots hpin hkept
  · intro hone disk statics draw draw' steps hwritten
    have hsteps : FoldMeets (SlotStep.run crates config) (fun _ step ↦ step.Written)
        (.cInitialize config disk statics draw) steps := FoldMeets.of_forall hwritten
    have hsaved := foldl_invariant
      (fun _ _ h hstep ↦ SlotStep.run_savedForAll hstores hone hstep h) steps _
      (savedForAll_cInitialize hstores disk statics draw) hsteps
    rw [restart_lockouts hstores, hsaved.lockouts_eq]

/-- With a single slot every lockout survives a restart. -/
theorem singleSlot_lockoutsKept : (HsmConfig.singleSlot true).LockoutsKept pinAnswers.crates := by
  refine (lockoutsKept_iff pinAnswers.crates _ ?_ ?_).mpr le_rfl
  · decide
  · intro token hmem
    rw [List.mem_singleton.mp hmem]
    exact ⟨soPin1, by decide +kernel⟩

/-- Two slots on one storage path. -/
def HsmConfig.twoSlots : HsmConfig := ⟨[.strict, .strict], false, ⟨false, true, false⟩⟩

/-- The first slot is initialised, and then somebody guesses its SO PIN three times. -/
def guessesOnFirstSlot : List SlotStep :=
  [.call 0 (envAt 0) (.initToken soPin1 blankLabel), .call 0 (envAt 1) (.login ckuSo guess9),
    .call 0 (envAt 2) (.login ckuSo guess9), .call 0 (envAt 3) (.login ckuSo guess9)]

/-- The second slot has no failed attempt before the restart, and is locked after it. -/
theorem lockouts_mixed : (∀ step ∈ guessesOnFirstSlot, step.Written) ∧
    let s := guessesOnFirstSlot.foldl (SlotStep.run pinAnswers.crates .twoSlots)
      (.cInitialize .twoSlots .blank .empty .sample)
    s.lockouts = [⟨0, 3, 0, false, true⟩, ⟨0, 0, 0, false, false⟩] ∧
      (s.restart .twoSlots .sample).lockouts =
        [⟨0, 3, 0, false, true⟩, ⟨0, 3, 0, false, true⟩] := by
  refine ⟨?_, ?_⟩
  · simp [guessesOnFirstSlot, SlotStep.Written]
  · decide +kernel

end CratonHsm
