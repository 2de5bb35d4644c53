import CratonHsm.Store.Backup
import CratonHsm.Library.StepSystem

/-!
# Restores of one backup by several processes

The admin restore reads the replay guard file, checks the backup against what it has read, appends
the identifier under a file lock, and inserts the objects (`restore_backup_core`,
`PersistentReplayGuard`). The lock covers the append only, so two processes that have both read the
file before either appended both insert the objects (`backup_inserted_twice`). If a process reads
the file only while no other is between its reading and its append, at most one inserts them
(`inserted_once`).

Scope. The guard file is the list of identifiers in it. Authentication and the insertion itself are
left out here.
-/

set_option autoImplicit false

namespace CratonHsm.Store

open Crypto Library

/-- How far a process has come: with the identifiers it has read, with those that `restore_backup`
left, and with the objects it got. -/
inductive RestorePhase where
  | started
  | loaded (ids : List String)
  | checked (ids consumedIds : List String) (objects : List StoredObject)
  | recorded (objects : List StoredObject)
  | inserted (objects : List StoredObject)
  | failed (e : HsmError)

/-- The process has read the guard file and not yet appended to it. -/
def RestorePhase.between : RestorePhase → Bool
  | .loaded _ | .checked .. => true
  | _ => false

/-- The process has appended to the guard file, and inserts the objects or has inserted them. -/
def RestorePhase.inserts : RestorePhase → Bool
  | .recorded _ | .inserted _ => true
  | _ => false

/-- The guard file and the processes. -/
structure Restores (ι : Type) where
  guardFile : List String
  phase : ι → RestorePhase

namespace Restores

variable {ι : Type} [DecidableEq ι] (crates : Crates) (json : BackupCodec)
  (requests : ι → RestoreRequest)

/-- The next atomic step of a process. -/
def step (s : Restores ι) (p : ι) : Restores ι :=
  match s.phase p with
  | .started => { s with phase := Function.update s.phase p (.loaded s.guardFile) }
  | .loaded ids =>
    match (requests p).run crates json (some ids) with
    | (.error e, _) => { s with phase := Function.update s.phase p (.failed e) }
    | (.ok objects, consumedIds) =>
      { s with phase := Function.update s.phase p (.checked ids (consumedIds.getD []) objects) }
  | .checked ids consumedIds objects =>
    -- `record` for every identifier that is not in the snapshot
    { guardFile := s.guardFile ++ consumedIds.filter (· ∉ ids)
      phase := Function.update s.phase p (.recorded objects) }
  | .recorded objects => { s with phase := Function.update s.phase p (.inserted objects) }
  | .inserted _ | .failed _ => s

/-- No process has read the guard file yet. -/
def start (guardFile : List String) : Restores ι := ⟨guardFile, fun _ ↦ .started⟩

/-- The processes after the steps of a schedule. -/
def run (guardFile : List String) (schedule : List ι) : Restores ι :=
  schedule.foldl (step crates json requests) (start guardFile)

/-- A process reads the guard file while no other is between its reading and its append. -/
def ReadsAlone (s : Restores ι) (p : ι) : Prop :=
  s.phase p matches .started → ∀ q, q ≠ p → ¬(s.phase q).between

/-- At most one process is between reading and appending; a snapshot is up to date with respect to
the backup; a process that passed the check is the only one that did. -/
structure Exclusive (backupId : String) (s : Restores ι) : Prop where
  between : ∀ p q, (s.phase p).between → (s.phase q).between → p = q
  loaded : ∀ p ids, s.phase p = .loaded ids → backupId ∈ s.guardFile → backupId ∈ ids
  checked : ∀ p ids consumedIds objects, s.phase p = .checked ids consumedIds objects →
    backupId ∉ s.guardFile ∧ backupId ∈ consumedIds ∧ backupId ∉ ids
  inserts : ∀ p, (s.phase p).inserts → backupId ∈ s.guardFile
  once : ∀ p q, (s.phase p).inserts → (s.phase q).inserts → p = q

variable {crates json requests} {backupId : String}

theorem Exclusive.step
    (hrun : ∀ p ids objects consumedIds, (requests p).run crates json (some ids) =
      (.ok objects, consumedIds) → backupId ∉ ids ∧ backupId ∈ consumedIds.getD [])
    {s : Restores ι} {p : ι} (h : Exclusive backupId s) (halone : s.ReadsAlone p) :
    Exclusive backupId (s.step crates json requests p) := by
  obtain ⟨hbetween, hloaded, hchecked, hinserts, honce⟩ := h
  unfold Restores.step
  split
  next hphase =>
    -- the snapshot is the file, and no other process is between
    have hnone : ∀ q, q ≠ p → ¬(s.phase q).between := halone (by rw [hphase])
    constructor <;> grind [RestorePhase.between, RestorePhase.inserts]
  next ids hphase =>
    split
    · constructor <;> grind [RestorePhase.between, RestorePhase.inserts]
    · next objects consumedIds hok =>
      -- the snapshot lacks the identifier, so the file does
      have := hrun p ids objects consumedIds hok
      constructor <;> grind [RestorePhase.between, RestorePhase.inserts]
  next ids consumedIds objects hphase =>
    -- the file lacked the identifier until now, so no process inserts yet
    have := hchecked p ids consumedIds objects hphase
    constructor <;> grind [RestorePhase.between, RestorePhase.inserts]
  next objects hphase =>
    constructor <;> grind [RestorePhase.between, RestorePhase.inserts]
  next => exact ⟨hbetween, hloaded, hchecked, hinserts, honce⟩
  next => exact ⟨hbetween, hloaded, hchecked, hinserts, honce⟩

section Created

variable {draw : BackupDraw} {objects : List StoredObject} {passphrase : List Char}
  {tokenSerial : String} {iterations : Option Nat} {file : Bytes}

/-- Processes restore one backup, in any order of their steps: if each reads the guard file only
while no other is between its reading and its append, at most one inserts the objects. -/
theorem inserted_once (hinverts : crates.GcmInverts) (hauthentic : crates.GcmAuthentic)
    (hjson : json.RoundTrips)
    (hcreated : createBackup crates json draw objects passphrase tokenSerial iterations = .ok file)
    (hfile : ∀ p, (requests p).data = file) (guardFile : List String) (schedule : List ι)
    (halone : FoldMeets (step crates json requests) ReadsAlone (start guardFile) schedule) :
    {p | ((run crates json requests guardFile schedule).phase p).inserts}.Subsingleton := by
  have hrun : ∀ p ids restored consumedIds, (requests p).run crates json (some ids) =
      (.ok restored, consumedIds) → hexEncode draw.uuid.1 ∉ ids ∧
        hexEncode draw.uuid.1 ∈ consumedIds.getD [] := by
    intro p ids restored consumedIds hok
    obtain ⟨e, herror⟩ | ⟨payload, hopen, hfresh, hrun⟩ := (requests p).run_cases crates json ids
    · cases hok.symm.trans herror
    · rw [hfile p] at hopen
      obtain rfl := openBackup_eq_ok hcreated hinverts hauthentic hjson hopen
      cases hok.symm.trans hrun
      exact ⟨by simpa [BackupDraw.payload] using hfresh, by simp [BackupDraw.payload]⟩
  have hstart : Exclusive (hexEncode draw.uuid.1) (start guardFile : Restores ι) := by
    constructor <;> simp [start, RestorePhase.between, RestorePhase.inserts]
  have hend := foldl_invariant (fun s p h halone ↦ h.step hrun halone) schedule _ hstart halone
  exact fun p hp q hq ↦ hend.once p q hp hq

/-- Two processes that restore the sample backup a day after it was made. -/
noncomputable def sampleRequest (_ : Bool) : RestoreRequest :=
  ⟨86400, sampleBackup (some 600000), testPassphrase, "01", none, some 600000⟩

theorem sampleRequest_run (p : Bool) (ids : List String) :
    (sampleRequest p).run pinAnswers.authentic .enumerated (some ids) =
      if hexEncode (List.replicate 16 5) ∈ ids then (.error .dataInvalid, some ids)
      else (.ok [.new 5 1 ckoSecretKey], some (hexEncode (List.replicate 16 5) :: ids)) := by
  have hopen := openBackup_createBackup (createBackup_sample (some 600000))
    (pinAnswers.authentic_gcmInverts pinAnswers_marked) BackupCodec.enumerated_roundTrips
  simp only [sampleRequest, RestoreRequest.run, restoreBackup, hopen]
  simp [BackupDraw.payload, BackupDraw.sample, defaultMaxBackupAgeSecs]

/-- Both have read the guard file before either appended, and both insert the key. -/
theorem backup_inserted_twice :
    let last := run pinAnswers.authentic .enumerated sampleRequest []
      [false, true, false, true, false, true, false, true]
    last.phase false = .inserted [.new 5 1 ckoSecretKey] ∧
      last.phase true = .inserted [.new 5 1 ckoSecretKey] := by
  constructor <;> simp [run, start, step, sampleRequest_run, Function.update]

/-- One after the other, the first inserts the key and no other does. -/
theorem backup_inserted_once :
    false ∈ {p | ((run pinAnswers.authentic .enumerated sampleRequest []
      [false, false, false, false, true, true]).phase p).inserts} ∧
    {p | ((run pinAnswers.authentic .enumerated sampleRequest []
      [false, false, false, false, true, true]).phase p).inserts}.Subsingleton := by
  have hfile : ∀ p, (sampleRequest p).data = sampleBackup (some 600000) := fun _ ↦ rfl
  have halone : FoldMeets (step pinAnswers.authentic .enumerated sampleRequest) ReadsAlone
      (start []) [false, false, false, false, true, true] := by
    simp [FoldMeets, start, step, sampleRequest_run, Function.update, ReadsAlone,
      RestorePhase.between]
  refine ⟨?_, inserted_once (pinAnswers.authentic_gcmInverts pinAnswers_marked)
    (pinAnswers.authentic_gcmAuthentic pinAnswers_marked) BackupCodec.enumerated_roundTrips
    (createBackup_sample (some 600000)) hfile [] _ halone⟩
  simp [run, start, step, sampleRequest_run, Function.update, RestorePhase.inserts]

end Created

end Restores

end CratonHsm.Store
