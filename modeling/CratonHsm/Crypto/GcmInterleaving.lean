import CratonHsm.Crypto.Encrypt
import CratonHsm.Library.StepSystem

/-!
# Concurrent AES-GCM encryptions and removals

Any number of calls of `aes_256_gcm_encrypt`, `aes_256_gcm_encrypt_with_aad`, `remove_gcm_counter`
and `force_reset_all_counters`, each cut into its accesses to the process-wide tables, each access
atomic. An encryption takes a counter value, takes or draws the prefix, and encrypts; a removal
first drops counters and then prefixes. A thread that has returned may start another call.

A removal that is interrupted between its two accesses leaves a key without a counter and with its
old prefix, and an encryption that starts then reuses the nonces of that prefix
(`nonce_reused_during_removal`). Runs in which no encryption takes a counter inside such a gap and
no removal starts while an encryption holds a counter value without a prefix never reuse a nonce
(`nonces_distinct_of_undisturbed`).

Scope. The interleavings are those of the accesses alone. The entry guard that the code holds from
the counter access to the end of an encryption, which keeps a removal from starting in between, is
not part of the model, so every interleaving of the code is one of the model.
-/

set_option autoImplicit false

namespace CratonHsm.Crypto.GcmInterleaving

open Library Crypto.Encrypt
open Std (ExtTreeMap)

/-! ### Threads and steps -/

/-- An encryption whose nonce is fixed. -/
structure Encryption where
  key : Bytes
  noncePrefix : NoncePrefix
  count : Nat
  deriving DecidableEq

/-- The nonce of an encryption. -/
def Encryption.nonce (encryption : Encryption) : Bytes :=
  gcmNonce encryption.noncePrefix encryption.count

/-- Where a thread stands between two accesses. -/
inductive Pc where
  | idle
  | counterTaken (key plaintext aad : Bytes) (count : Nat)
  | prefixTaken (encryption : Encryption) (plaintext aad : Bytes)
  | counterRemoved (kid : Bytes)
  | countersCleared

/-- The tables, the threads, every prefix drawn so far with its key identifier, and the successful
encryptions so far. -/
structure State where
  statics : CipherStatics
  pc : Nat → Pc
  drawn : List (Bytes × NoncePrefix)
  used : List Encryption

/-- A process that has not encrypted, with no call under way. -/
def initial : State := ⟨.empty, fun _ ↦ .idle, [], []⟩

/-- The accesses of the four functions. -/
inductive Action where
  | takeCounter (key plaintext aad : Bytes)
  | takePrefix (draw : HsmResult NoncePrefix)
  | encrypt
  | removeCounter (key : Bytes)
  | removePrefix
  | clearCounters
  | clearPrefixes

section Steps

variable (crates : Crates)

/-- Thread `thread` makes its next access. An encryption that is refused or fails returns. -/
def step (s : State) : Nat × Action → Option State
  | (thread, action) =>
    match s.pc thread, action with
    | .idle, .takeCounter key plaintext aad =>
      match gcmEncryptAccepts key plaintext with
      | .error _ => some s
      | .ok () =>
        match takeCounter s.statics (gcmKeyId crates key) with
        | (.error _, statics) => some { s with statics := statics }
        | (.ok count, statics) => some { s with
            statics := statics
            pc := Function.update s.pc thread (.counterTaken key plaintext aad count) }
    | .counterTaken key plaintext aad count, .takePrefix draw =>
      match gcmNoncePrefix s.statics (gcmKeyId crates key) draw with
      | (.error _, statics) => some { s with
          statics := statics
          pc := Function.update s.pc thread .idle }
      | (.ok noncePrefix, statics) => some { s with
          statics := statics
          pc := Function.update s.pc thread (.prefixTaken ⟨key, noncePrefix, count⟩ plaintext aad)
          drawn := if s.statics.noncePrefixes[gcmKeyId crates key]? = none then
            (gcmKeyId crates key, noncePrefix) :: s.drawn else s.drawn }
    | .prefixTaken encryption plaintext aad, .encrypt =>
      match gcmSeal crates encryption.key plaintext aad encryption.noncePrefix encryption.count with
      | .error _ => some { s with pc := Function.update s.pc thread .idle }
      | .ok _ => some { s with
          pc := Function.update s.pc thread .idle
          used := encryption :: s.used }
    | .idle, .removeCounter key => some { s with
        statics := removeCounter s.statics (gcmKeyId crates key)
        pc := Function.update s.pc thread (.counterRemoved (gcmKeyId crates key)) }
    | .counterRemoved kid, .removePrefix => some { s with
        statics := removePrefix s.statics kid
        pc := Function.update s.pc thread .idle }
    | .idle, .clearCounters => some { s with
        statics := clearCounters s.statics
        pc := Function.update s.pc thread .countersCleared }
    | .countersCleared, .clearPrefixes => some { s with
        statics := clearPrefixes s.statics
        pc := Function.update s.pc thread .idle }
    | _, _ => none

/-- A prefix that is drawn was never drawn before for the same key. -/
def FreshDraw (s : State) : Nat × Action → Prop
  | (thread, .takePrefix (.ok noncePrefix)) =>
    match s.pc thread with
    | .counterTaken key _ _ _ => s.statics.noncePrefixes[gcmKeyId crates key]? = none →
        (gcmKeyId crates key, noncePrefix) ∉ s.drawn
    | _ => True
  | _ => True

instance (s : State) (label : Nat × Action) : Decidable (FreshDraw crates s label) :=
  match label with
  | (thread, .takePrefix (.ok noncePrefix)) =>
    match hpc : s.pc thread with
    | .counterTaken key _ _ _ =>
      decidable_of_iff (s.statics.noncePrefixes[gcmKeyId crates key]? = none →
        (gcmKeyId crates key, noncePrefix) ∉ s.drawn) (by simp [FreshDraw, hpc])
    | .idle => .isTrue (by simp [FreshDraw, hpc])
    | .prefixTaken _ _ _ => .isTrue (by simp [FreshDraw, hpc])
    | .counterRemoved _ => .isTrue (by simp [FreshDraw, hpc])
    | .countersCleared => .isTrue (by simp [FreshDraw, hpc])
  | (_, .takePrefix (.error _)) => .isTrue trivial
  | (_, .takeCounter _ _ _) => .isTrue trivial
  | (_, .encrypt) => .isTrue trivial
  | (_, .removeCounter _) => .isTrue trivial
  | (_, .removePrefix) => .isTrue trivial
  | (_, .clearCounters) => .isTrue trivial
  | (_, .clearPrefixes) => .isTrue trivial

/-- The thread is between the two accesses of a removal that covers `kid`. -/
def Pc.Forgets (kid : Bytes) : Pc → Prop
  | .counterRemoved kid' => kid' = kid
  | .countersCleared => True
  | _ => False

/-- The thread holds a counter value of `kid` and has no prefix yet. -/
def Pc.HoldsCounter (kid : Bytes) : Pc → Prop
  | .counterTaken key _ _ _ => gcmKeyId crates key = kid
  | _ => False

/-- No counter is taken inside a removal that covers its key, and no removal starts while an
encryption it covers holds a counter value without a prefix. -/
def Undisturbed (s : State) : Nat × Action → Prop
  | (_, .takeCounter key _ _) => ∀ other, ¬ (s.pc other).Forgets (gcmKeyId crates key)
  | (_, .removeCounter key) => ∀ other, ¬ (s.pc other).HoldsCounter crates (gcmKeyId crates key)
  | (_, .clearCounters) => ∀ other kid, ¬ (s.pc other).HoldsCounter crates kid
  | _ => True

end Steps

/-! ### The invariant of undisturbed runs -/

section Invariant

variable {crates : Crates}

/-- The counter of a key identifier, zero when absent. -/
def State.counter (s : State) (kid : Bytes) : Nat := s.statics.encryptCounters[kid]?.getD 0

/-- The nonce of `encryption` is fixed: it has succeeded, or a thread is about to make it. -/
def State.Issued (s : State) (encryption : Encryption) : Prop :=
  encryption ∈ s.used ∨ ∃ thread plaintext aad, s.pc thread = .prefixTaken encryption plaintext aad

/-- No thread is inside a removal that covers `kid`. -/
def State.Settled (s : State) (kid : Bytes) : Prop := ∀ thread, ¬ (s.pc thread).Forgets kid

/-- What holds in every state of an undisturbed run: issued encryptions are distinct and have drawn
prefixes; under the current prefix of a settled key every issued count and every count held by a
thread is below the counter; and counts held by threads are distinct from one another and from the
issued ones of the current prefix. -/
structure Inv (crates : Crates) (s : State) : Prop where
  used_nodup : s.used.Nodup
  pending_unused : ∀ {thread encryption plaintext aad},
    s.pc thread = .prefixTaken encryption plaintext aad → encryption ∉ s.used
  pending_distinct : ∀ {thread thread' encryption plaintext aad plaintext' aad'},
    s.pc thread = .prefixTaken encryption plaintext aad →
      s.pc thread' = .prefixTaken encryption plaintext' aad' → thread = thread'
  issued_drawn : ∀ {encryption}, s.Issued encryption →
    (gcmKeyId crates encryption.key, encryption.noncePrefix) ∈ s.drawn ∧
      encryption.count < gcmMaxRandomNonceEncryptions
  current_drawn : ∀ {kid noncePrefix}, s.statics.noncePrefixes[kid]? = some noncePrefix →
    (kid, noncePrefix) ∈ s.drawn
  issued_below : ∀ {encryption}, s.Issued encryption →
    s.statics.noncePrefixes[gcmKeyId crates encryption.key]? = some encryption.noncePrefix →
      s.Settled (gcmKeyId crates encryption.key) →
        encryption.count < s.counter (gcmKeyId crates encryption.key)
  taken_below : ∀ {thread key plaintext aad count},
    s.pc thread = .counterTaken key plaintext aad count →
      count < gcmMaxRandomNonceEncryptions ∧ count < s.counter (gcmKeyId crates key)
  taken_distinct : ∀ {thread thread' key key' plaintext plaintext' aad aad' count},
    s.pc thread = .counterTaken key plaintext aad count →
      s.pc thread' = .counterTaken key' plaintext' aad' count →
        gcmKeyId crates key = gcmKeyId crates key' → thread = thread'
  taken_fresh : ∀ {thread key plaintext aad count encryption},
    s.pc thread = .counterTaken key plaintext aad count → s.Issued encryption →
      gcmKeyId crates encryption.key = gcmKeyId crates key →
        s.statics.noncePrefixes[gcmKeyId crates key]? = some encryption.noncePrefix →
          encryption.count ≠ count
  settled_of_taken : ∀ {thread key plaintext aad count},
    s.pc thread = .counterTaken key plaintext aad count → s.Settled (gcmKeyId crates key)

theorem inv_initial : Inv crates initial := by
  constructor <;> simp [initial, CipherStatics.empty, State.Issued]

/-! ### Each access keeps the invariant -/

section Accesses

variable {s : State} {thread : Nat} {value : Pc} {statics : CipherStatics}
  {drawn : List (Bytes × NoncePrefix)} {used : List Encryption}

@[grind =]
theorem settled_update_iff {kid : Bytes} :
    State.Settled ⟨statics, Function.update s.pc thread value, drawn, used⟩ kid ↔
      ¬ value.Forgets kid ∧ ∀ other, other ≠ thread → ¬ (s.pc other).Forgets kid :=
  Function.forall_update_iff s.pc fun _ pc ↦ ¬ pc.Forgets kid

variable {encryption : Encryption} {key plaintext aad : Bytes}

@[grind =]
theorem issued_update_iff :
    State.Issued ⟨statics, Function.update s.pc thread value, drawn, used⟩ encryption ↔
      encryption ∈ used ∨ (∃ plaintext aad, value = .prefixTaken encryption plaintext aad) ∨
        ∃ other, other ≠ thread ∧
          ∃ plaintext aad, s.pc other = .prefixTaken encryption plaintext aad := by
  unfold State.Issued
  rw [Function.exists_update_iff s.pc fun _ pc ↦
    ∃ plaintext aad, pc = .prefixTaken encryption plaintext aad]

variable (hinv : Inv crates s)
include hinv

/-- A thread that gives up a call which is not a removal keeps the invariant. -/
theorem Inv.giveUp (thread : Nat) (hforgets : ∀ kid, ¬ (s.pc thread).Forgets kid) :
    Inv crates { s with pc := Function.update s.pc thread .idle } := by
  obtain ⟨⟩ := hinv
  constructor <;>
    grind [Function.update_apply, State.Issued, State.Settled, Pc.Forgets, State.counter]

/-- Taking the counter value of a settled key. -/
theorem Inv.takeCounter (hidle : s.pc thread = .idle) (hsettled : s.Settled (gcmKeyId crates key))
    (hlimit : s.counter (gcmKeyId crates key) < gcmMaxRandomNonceEncryptions) :
    Inv crates { s with
      statics := { s.statics with
        encryptCounters := s.statics.encryptCounters.insert (gcmKeyId crates key)
          (s.counter (gcmKeyId crates key) + 1) }
      pc := Function.update s.pc thread
        (.counterTaken key plaintext aad (s.counter (gcmKeyId crates key))) } := by
  obtain ⟨⟩ := hinv
  constructor <;>
    grind [Function.update_apply, State.Issued, State.Settled, Pc.Forgets, State.counter,
      getElem?_insert_eq_ite]

/-- Fixing the nonce of an encryption that holds a counter value, with the current prefix of its
key or with one that was never drawn for it. -/
theorem Inv.takePrefix {count : Nat} {noncePrefix : NoncePrefix}
    (hpc : s.pc thread = .counterTaken key plaintext aad count)
    (hcounters : statics.encryptCounters = s.statics.encryptCounters)
    (hprefixes : ∀ kid, statics.noncePrefixes[kid]? = if gcmKeyId crates key = kid then
      some noncePrefix else s.statics.noncePrefixes[kid]?)
    (hdrawn : ∀ entry, entry ∈ drawn ↔ entry ∈ s.drawn ∨ entry = (gcmKeyId crates key, noncePrefix))
    (hfresh : s.statics.noncePrefixes[gcmKeyId crates key]? = some noncePrefix ∨
      (gcmKeyId crates key, noncePrefix) ∉ s.drawn) :
    Inv crates { s with
      statics := statics
      pc := Function.update s.pc thread (.prefixTaken ⟨key, noncePrefix, count⟩ plaintext aad)
      drawn := drawn } := by
  -- a prefix issued before for this key is the current one: a fresh draw was never issued
  have hcurrent : ∀ {encryption}, s.Issued encryption →
      gcmKeyId crates encryption.key = gcmKeyId crates key → encryption.noncePrefix = noncePrefix →
        s.statics.noncePrefixes[gcmKeyId crates key]? = some encryption.noncePrefix := by
    grind [hinv.issued_drawn]
  have hnotIssued : ¬ s.Issued ⟨key, noncePrefix, count⟩ := fun h ↦
    hinv.taken_fresh hpc h rfl (hcurrent h rfl rfl) rfl
  obtain ⟨⟩ := hinv
  constructor <;>
    grind [Function.update_apply, State.Issued, State.Settled, Pc.Forgets, State.counter]

/-- A pending encryption succeeds. -/
theorem Inv.encrypt (hpc : s.pc thread = .prefixTaken encryption plaintext aad) :
    Inv crates { s with
      pc := Function.update s.pc thread .idle
      used := encryption :: s.used } := by
  obtain ⟨⟩ := hinv
  constructor <;>
    grind [Function.update_apply, State.Issued, State.Settled, Pc.Forgets, State.counter]

/-- The first access of a removal that covers the keys of `covered`, none of which has an
encryption that holds a counter value. -/
theorem Inv.dropCounters (covered : Bytes → Prop) (hidle : s.pc thread = .idle)
    (hvalue : ∀ kid, value.Forgets kid ↔ covered kid)
    (hnoncePrefixes : statics.noncePrefixes = s.statics.noncePrefixes)
    (hcounters : ∀ kid, ¬ covered kid →
      statics.encryptCounters[kid]? = s.statics.encryptCounters[kid]?)
    (hremoval : ∀ key plaintext aad count, value ≠ .counterTaken key plaintext aad count)
    (hnonce : ∀ e plaintext aad, value ≠ .prefixTaken e plaintext aad)
    (hfree : ∀ other kid, covered kid → ¬ (s.pc other).HoldsCounter crates kid) :
    Inv crates { s with statics := statics, pc := Function.update s.pc thread value } := by
  obtain ⟨⟩ := hinv
  constructor <;>
    grind [Function.update_apply, State.Issued, State.Settled, Pc.Forgets, State.counter,
      Pc.HoldsCounter]

/-- The second access of a removal that covers the keys of `covered`. -/
theorem Inv.dropPrefixes (covered : Bytes → Prop)
    (hpc : ∀ kid, (s.pc thread).Forgets kid → covered kid)
    (hcounters : statics.encryptCounters = s.statics.encryptCounters)
    (hdropped : ∀ kid, covered kid → statics.noncePrefixes[kid]? = none)
    (hkept : ∀ kid, ¬ covered kid → statics.noncePrefixes[kid]? = s.statics.noncePrefixes[kid]?) :
    Inv crates { s with statics := statics, pc := Function.update s.pc thread .idle } := by
  obtain ⟨⟩ := hinv
  constructor <;>
    grind [Function.update_apply, State.Issued, State.Settled, Pc.Forgets, State.counter]

/-- One access of an undisturbed run keeps the invariant. -/
theorem Inv.step {t : State} {label : Nat × Action} (hfresh : FreshDraw crates s label)
    (hguard : Undisturbed crates s label) (hstep : GcmInterleaving.step crates s label = some t) :
    Inv crates t := by
  obtain ⟨thread, action⟩ := label
  simp only [GcmInterleaving.step] at hstep
  split at hstep
  next key plaintext aad hpc =>
    split at hstep
    · cases hstep; exact hinv
    · split at hstep
      · next hcounter =>
        cases hstep
        rw [takeCounter_eq_error hcounter]
        exact hinv
      · next hcounter =>
        cases hstep
        obtain ⟨rfl, hlimit, rfl⟩ := takeCounter_eq_ok hcounter
        exact hinv.takeCounter hpc hguard hlimit
  next key plaintext aad count draw hpc =>
    simp only [gcmNoncePrefix] at hstep
    cases hknown : s.statics.noncePrefixes[gcmKeyId crates key]? with
    | some noncePrefix =>
      simp only [hknown, reduceCtorEq, if_false, Option.some.injEq] at hstep
      subst hstep
      refine hinv.takePrefix hpc rfl (fun kid ↦ ?_) (fun entry ↦ ?_) (Or.inl hknown)
      · split_ifs with hkid
        · rw [← hkid, hknown]
        · rfl
      · refine ⟨Or.inl, ?_⟩
        rintro (h | rfl)
        · exact h
        · exact hinv.current_drawn hknown
    | none =>
      cases draw with
      | ok noncePrefix =>
        simp only [hknown, if_true, Option.some.injEq] at hstep
        subst hstep
        refine hinv.takePrefix hpc rfl (fun kid ↦ getElem?_insert_eq_ite _ _ _) (fun entry ↦ ?_)
          (Or.inr ?_)
        · rw [List.mem_cons, or_comm]
        · simp only [FreshDraw, hpc] at hfresh
          exact hfresh hknown
      | error e =>
        simp only [hknown, Option.some.injEq] at hstep
        subst hstep
        exact hinv.giveUp thread (by simp [hpc, Pc.Forgets])
  next encryption plaintext aad hpc =>
    split at hstep <;> cases hstep
    · exact hinv.giveUp thread (by simp [hpc, Pc.Forgets])
    · exact hinv.encrypt hpc
  next key hpc =>
    cases hstep
    refine hinv.dropCounters (gcmKeyId crates key = ·) hpc
      (fun kid ↦ Iff.rfl) rfl (fun kid hkid ↦ ?_) (by simp) (by simp) ?_
    · rw [removeCounter, getElem?_erase_eq_ite, if_neg hkid]
    · rintro other kid rfl
      exact hguard other
  next kid hpc =>
    cases hstep
    refine hinv.dropPrefixes (kid = ·) (by simp [hpc, Pc.Forgets]) rfl
      (fun kid' hkid ↦ ?_) (fun kid' hkid ↦ ?_)
    · rw [removePrefix, getElem?_erase_eq_ite, if_pos hkid]
    · rw [removePrefix, getElem?_erase_eq_ite, if_neg hkid]
  next hpc =>
    cases hstep
    refine hinv.dropCounters (fun _ ↦ True) hpc (fun kid ↦ Iff.rfl) rfl
      (fun kid hkid ↦ absurd trivial hkid) (by simp) (by simp) ?_
    exact fun other kid _ ↦ hguard other kid
  next hpc =>
    cases hstep
    exact hinv.dropPrefixes (fun _ ↦ True) (fun _ _ ↦ trivial) rfl
      (fun kid _ ↦ ExtTreeMap.getElem?_empty) (fun kid hkid ↦ absurd trivial hkid)
  next => cases hstep

end Accesses

/-- Distinct issued encryptions below the counter limit have distinct pairs of key and nonce. -/
theorem Inv.nonces_nodup {s : State} (hinv : Inv crates s) :
    (s.used.map fun encryption ↦ (encryption.key, encryption.nonce)).Nodup := by
  refine List.Nodup.map_on (fun e he e' he' h ↦ ?_) hinv.used_nodup
  obtain ⟨hkey, hnonce⟩ := Prod.mk.inj h
  obtain ⟨hpre, hcount⟩ := gcmNonce_injective (hinv.issued_drawn (Or.inl he)).2
    (hinv.issued_drawn (Or.inl he')).2 hnonce
  cases e
  simp_all

end Invariant

/-- In every run whose prefixes are fresh and which is undisturbed by removals, no two successful
encryptions under one key use the same nonce. -/
theorem nonces_distinct_of_undisturbed (crates : Crates) (labels : List (Nat × Action))
    (s : State) (hfresh : StepsMeet (step crates) (FreshDraw crates) initial labels)
    (hundisturbed : StepsMeet (step crates) (Undisturbed crates) initial labels)
    (hrun : runSteps (step crates) initial labels = some s) :
    (s.used.map fun encryption ↦ (encryption.key, encryption.nonce)).Nodup := by
  have hboth : StepsMeet (step crates)
      (fun s label ↦ FreshDraw crates s label ∧ Undisturbed crates s label) initial labels :=
    hfresh.and hundisturbed
  exact (runSteps_invariant (fun s label t hinv hguard hstep ↦ hinv.step hguard.1 hguard.2 hstep)
    labels initial s inv_initial hboth hrun).nonces_nodup

/-! ### Two runs on the zero key -/

/-- The 32 zero bytes, as a key. -/
def zeroKey : Bytes := List.replicate 32 0

/-- SHA-256 and AES-256-GCM on the zero key, the empty text and the two nonces of the runs below;
the remaining fields are not used by them. -/
def zeroKeyCrates : Crates where
  sha256 key :=
    if key = zeroKey then
      beBytes 32 0x66687AADF862BD776C8FC18B8E9F8E20089714856EE233B3902A591D0D5F2925
    else key
  gcmEncrypt _ nonce _ _ :=
    some (beBytes 16 (if nonce = beBytes 12 0 then 0x530F8AFBC74536B9A963B4F1C4CB738B
      else 0x4BF4CAF18F804CB7F88DC49B4FE56E6E))
  gcmDecrypt _ _ _ _ := none
  cbcEncrypt _ _ plaintext := plaintext
  cbcDecrypt _ _ _ := none
  ctrKeystream _ _ data := data
  pbkdf2 _ _ _ := ⟨beBytes 32 0, rfl⟩

/-- One encryption of the empty text under the zero key by thread `thread`. -/
def zeroKeyEncryption (thread : Nat) (noncePrefix : NoncePrefix) : List (Nat × Action) :=
  [(thread, .takeCounter zeroKey [] []), (thread, .takePrefix (.ok noncePrefix)),
    (thread, .encrypt)]

/-- An encryption; the first access of a removal of its key; a second encryption. -/
def removalOverlapsEncryption : List (Nat × Action) :=
  zeroKeyEncryption 0 ⟨[0, 0, 0, 0], rfl⟩ ++ [(1, .removeCounter zeroKey)] ++
    zeroKeyEncryption 0 ⟨[0, 0, 0, 1], rfl⟩

/-- An encryption that starts between the two accesses of a removal repeats the nonce of an earlier
one, though every drawn prefix is fresh. -/
theorem nonce_reused_during_removal :
    StepsMeet (step zeroKeyCrates) (FreshDraw zeroKeyCrates) initial removalOverlapsEncryption ∧
      (runSteps (step zeroKeyCrates) initial removalOverlapsEncryption).map (fun s ↦
          s.used.map fun encryption ↦ (encryption.key, encryption.nonce)) =
        some [(zeroKey, beBytes 12 0), (zeroKey, beBytes 12 0)] := by
  decide +kernel

/-- An encryption, a whole removal of its key, a second encryption. -/
def removalBetweenEncryptions : List (Nat × Action) :=
  zeroKeyEncryption 0 ⟨[0, 0, 0, 0], rfl⟩ ++ [(0, .removeCounter zeroKey), (0, .removePrefix)] ++
    zeroKeyEncryption 0 ⟨[0, 0, 0, 1], rfl⟩

/-- The second encryption of a run that removes the key in between has a nonce of its own. -/
theorem nonces_distinct_across_removal :
    ∃ s, runSteps (step zeroKeyCrates) initial removalBetweenEncryptions = some s ∧
      s.used.length = 2 ∧
      (s.used.map fun encryption ↦ (encryption.key, encryption.nonce)).Nodup := by
  obtain ⟨s, hrun, hlength⟩ : ∃ s,
      runSteps (step zeroKeyCrates) initial removalBetweenEncryptions = some s ∧
        s.used.length = 2 := ⟨_, rfl, rfl⟩
  refine ⟨s, hrun, hlength, nonces_distinct_of_undisturbed zeroKeyCrates
    removalBetweenEncryptions s (by decide +kernel) ?_ hrun⟩
  -- only thread 0 ever leaves the idle state, and it is idle before each new call
  refine And.intro (fun _ ↦ id) (And.intro trivial (And.intro trivial (And.intro ?_
    (And.intro trivial (And.intro ?_ (And.intro trivial (And.intro trivial trivial)))))))
  · exact fun | 0 => id | _ + 1 => id
  · exact fun | 0 => id | _ + 1 => id

end CratonHsm.Crypto.GcmInterleaving
