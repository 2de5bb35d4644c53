import CratonHsm.Library.StepSystem
import CratonHsm.Session.Handle

/-!
# Handles of concurrent allocations

The allocators of `session/handle.rs` for both widths of `CK_ULONG`, with the loop of `next` in
atomic steps: load the counter, exchange it weakly, look whether the handle is 0 or reserved. The
scrambling of a counter value has an inverse (`feistel32_inverse`, `feistel64_inverse`), and as long
as the counter has not been claimed more often than it has values, threads in any order get handles
that are different, not 0, and not reserved before the call began (`handles_distinct`).

The session allocator is the object allocator without `ensure_past`.
-/

set_option autoImplicit false

namespace CratonHsm.Session

open Library

/-! ### Both widths -/

/-- `round_fn_16`. -/
def roundFn16 (key : BitVec 64) (half : BitVec 16) : BitVec 16 :=
  let x := half.setWidth 64 * (key ||| 1)
  ((x >>> 16) ^^^ x).setWidth 16

namespace HandleScrambler

variable (scrambler : HandleScrambler)

/-- `feistel32_forward`. -/
def feistel32Forward : BitVec 32 → BitVec 32 :=
  feistelWord (scrambler.roundKeys.map roundFn16)

/-- `feistel32_inverse`. -/
def feistel32Inverse : BitVec 32 → BitVec 32 :=
  feistelWordInverse (scrambler.roundKeys.map roundFn16)

/-- `feistel64_forward`. -/
def feistel64Forward : BitVec 64 → BitVec 64 :=
  feistelWord (scrambler.roundKeys.map roundFn32)

/-- `feistel64_inverse`. -/
def feistel64Inverse : BitVec 64 → BitVec 64 :=
  feistelWordInverse (scrambler.roundKeys.map roundFn32)

end HandleScrambler

/-- The width of `CK_ULONG`. -/
inductive UlongWidth where
  | bits32
  | bits64

/-- `MAX_HANDLE`. -/
def UlongWidth.maxHandle : UlongWidth → Nat
  | .bits32 => 2 ^ 32 - 1
  | .bits64 => 2 ^ 64 - 1

/-- `HandleScrambler::scramble` of a counter value. -/
def UlongWidth.scramble (scrambler : HandleScrambler) : UlongWidth → Nat → Nat
  | .bits32, counter => (scrambler.feistel32Forward (BitVec.ofNat 32 counter)).toNat
  | .bits64, counter => (scrambler.feistel64Forward (BitVec.ofNat 64 counter)).toNat

theorem UlongWidth.scramble_inj {scrambler : HandleScrambler} {width : UlongWidth} {a b : Nat}
    (ha : a ≤ width.maxHandle) (hb : b ≤ width.maxHandle)
    (h : width.scramble scrambler a = width.scramble scrambler b) : a = b := by
  cases width
  all_goals
    have heq := (feistelWordInverse_feistelWord _).injective (BitVec.toNat_inj.mp h)
    have hmod := congrArg BitVec.toNat heq
    simp only [maxHandle] at ha hb
    rwa [BitVec.toNat_ofNat, BitVec.toNat_ofNat, Nat.mod_eq_of_lt (by omega),
      Nat.mod_eq_of_lt (by omega)] at hmod

/-! ### Threads -/

/-- Where a thread is in `next`, with what was reserved when its call began. -/
inductive NextPhase where
  | idle
  | looping (before : List Nat)
  | loaded (before : List Nat) (current : Nat)
  | claimed (before : List Nat) (current : Nat)

/-- What was reserved when the call of a thread began. -/
def NextPhase.before : NextPhase → List Nat
  | .idle => []
  | .looping before | .loaded before _ | .claimed before _ => before

/-- A handle that was returned: its counter value, and what was reserved when the call began. -/
structure IssuedHandle where
  counter : Nat
  handle : Nat
  before : List Nat

/-- The allocator, its threads, how often the counter was claimed, and the handles returned. -/
structure SharedAllocator (ι : Type) where
  next : Nat
  reserved : List Nat
  phase : ι → NextPhase
  claims : Nat
  issued : List IssuedHandle

/-- The atomic steps of `next`, where a weak exchange may fail without reason, and `ensure_past`. -/
inductive AllocatorStep (ι : Type) where
  | call (thread : ι)
  | load (thread : ι)
  | exchange (thread : ι) (spurious : Bool)
  | check (thread : ι)
  | ensurePast (handle : Nat)

namespace SharedAllocator

variable {ι : Type} [DecidableEq ι] (width : UlongWidth) (scrambler : HandleScrambler)

/-- `ObjectHandleAllocator::new`. -/
def new : SharedAllocator ι := ⟨0, [], fun _ ↦ .idle, 0, []⟩

/-- The thread goes on to a phase. -/
def goTo (s : SharedAllocator ι) (thread : ι) (phase : NextPhase) : SharedAllocator ι :=
  { s with phase := Function.update s.phase thread phase }

def step (s : SharedAllocator ι) : AllocatorStep ι → SharedAllocator ι
  | .call thread =>
    match s.phase thread with
    | .idle => s.goTo thread (.looping s.reserved)
    | _ => s
  | .load thread =>
    match s.phase thread with
    | .looping before => s.goTo thread (.loaded before s.next)
    | _ => s
  | .exchange thread spurious =>
    match s.phase thread with
    | .loaded before current =>
      if s.next = current ∧ !spurious then
        { s.goTo thread (.claimed before current) with
          next := if current = width.maxHandle then 0 else current + 1
          claims := s.claims + 1 }
      else s.goTo thread (.looping before)
    | _ => s
  | .check thread =>
    match s.phase thread with
    | .claimed before current =>
      let handle := width.scramble scrambler current
      if handle = 0 ∨ handle ∈ s.reserved then s.goTo thread (.looping before)
      else { s.goTo thread .idle with issued := ⟨current, handle, before⟩ :: s.issued }
    | _ => s
  | .ensurePast handle => { s with reserved := handle :: s.reserved }

/-- Claimed counter values lie below the number of claims, and each belongs to one thread or to one
handle. -/
structure Separate (s : SharedAllocator ι) : Prop where
  next : s.claims ≤ width.maxHandle → s.next = s.claims
  before : ∀ thread, ∀ handle ∈ (s.phase thread).before, handle ∈ s.reserved
  claimed : ∀ thread before current, s.phase thread = .claimed before current →
    current < s.claims ∧ ∀ entry ∈ s.issued, entry.counter ≠ current
  apart : ∀ thread other before before' current, s.phase thread = .claimed before current →
    s.phase other = .claimed before' current → thread = other
  issued : ∀ entry ∈ s.issued, entry.counter < s.claims ∧
    entry.handle = width.scramble scrambler entry.counter ∧ entry.handle ≠ 0 ∧
      entry.handle ∉ entry.before
  nodup : (s.issued.map IssuedHandle.counter).Nodup

variable {width scrambler} {s : SharedAllocator ι}

theorem Separate.step (h : s.Separate width scrambler) (event : AllocatorStep ι)
    (hroom : (s.step width scrambler event).claims ≤ width.maxHandle + 1) :
    (s.step width scrambler event).Separate width scrambler := by
  obtain ⟨hnext, hbefore, hclaimed, hapart, hissued, hnodup⟩ := h
  cases event with
  | call thread | load thread =>
    simp only [SharedAllocator.step, goTo] at hroom ⊢
    split at hroom
    · constructor <;> grind [NextPhase.before]
    · constructor <;> assumption
  | exchange thread spurious =>
    simp only [SharedAllocator.step, goTo] at hroom ⊢
    split at hroom
    · -- a claimed value is the number of claims, above all that were claimed before
      split_ifs at hroom ⊢ <;> constructor <;> grind [NextPhase.before]
    · constructor <;> assumption
  | check thread =>
    simp only [SharedAllocator.step, goTo] at hroom ⊢
    split at hroom
    · split_ifs at hroom ⊢ <;> constructor <;> grind [NextPhase.before]
    · constructor <;> assumption
  | ensurePast handle =>
    simp only [SharedAllocator.step]
    constructor <;> grind

theorem claims_le_step (s : SharedAllocator ι) (event : AllocatorStep ι) :
    s.claims ≤ (s.step width scrambler event).claims := by
  cases event <;> grind [SharedAllocator.step, goTo]

theorem separate_run (events : List (AllocatorStep ι)) (s : SharedAllocator ι)
    (h : s.claims ≤ width.maxHandle + 1 → s.Separate width scrambler)
    (hroom : (events.foldl (step width scrambler) s).claims ≤ width.maxHandle + 1) :
    (events.foldl (step width scrambler) s).Separate width scrambler := by
  induction events generalizing s with
  | nil => exact h hroom
  | cons event events ih =>
    refine ih _ (fun hclaims ↦ ?_) hroom
    exact (h ((claims_le_step s event).trans hclaims)).step event hclaims

/-- Each scrambling has its inverse. Threads that call `next`, with `ensure_past` in between, get
different handles as long as the counter was not claimed more often than it has values, and none of
them is 0 or was reserved before its call began. -/
theorem handles_distinct (scrambler : HandleScrambler) :
    (∀ word, scrambler.feistel32Inverse (scrambler.feistel32Forward word) = word ∧
      scrambler.feistel32Forward (scrambler.feistel32Inverse word) = word) ∧
    (∀ word, scrambler.feistel64Inverse (scrambler.feistel64Forward word) = word ∧
      scrambler.feistel64Forward (scrambler.feistel64Inverse word) = word) ∧
    ∀ (width : UlongWidth) (events : List (AllocatorStep ι)),
      (events.foldl (step width scrambler) new).claims ≤ width.maxHandle + 1 →
        ((events.foldl (step width scrambler) new).issued.map IssuedHandle.handle).Nodup ∧
          ∀ entry ∈ (events.foldl (step width scrambler) new).issued,
            entry.handle ≠ 0 ∧ entry.handle ∉ entry.before := by
  refine ⟨fun word ↦ ⟨feistelWordInverse_feistelWord (scrambler.roundKeys.map roundFn16) word,
      feistelWord_feistelWordInverse (scrambler.roundKeys.map roundFn16) word⟩,
    fun word ↦ ⟨feistelWordInverse_feistelWord (scrambler.roundKeys.map roundFn32) word,
      feistelWord_feistelWordInverse (scrambler.roundKeys.map roundFn32) word⟩,
    fun width events hroom ↦ ?_⟩
  have hstart : (new : SharedAllocator ι).Separate width scrambler := by
    constructor <;> simp [new, NextPhase.before]
  have hend := separate_run events new (fun _ ↦ hstart) hroom
  refine ⟨?_, fun entry hentry ↦ (hend.issued entry hentry).2.2⟩
  refine List.Nodup.map_on (fun a ha b hb hsame ↦ ?_) hend.nodup.of_map
  -- equal handles have equal counter values, and those are claimed once
  have hcounter : a.counter = b.counter := by
    have hissued := hend.issued a ha
    have hissued' := hend.issued b hb
    rw [hissued.2.1, hissued'.2.1] at hsame
    exact UlongWidth.scramble_inj (by omega) (by omega) hsame
  exact List.inj_on_of_nodup_map hend.nodup ha hb hcounter

/-- Two threads load the same counter value, and one of them has to try again; the other claims the
value of handle 0 and has to try again, too. -/
def racingCalls : List (AllocatorStep Bool) :=
  [.ensurePast 7, .call false, .call true, .load false, .load true, .exchange true false,
    .exchange false false, .check true, .load false, .load true, .exchange false false,
    .exchange true false, .check false, .load true, .exchange true false, .check true]

/-- Both threads get a handle of their own. -/
theorem racingCalls_distinct :
    let s := racingCalls.foldl (step .bits64 ⟨[1, 2, 3, 4]⟩) new
    s.issued.map IssuedHandle.counter = [2, 1] ∧ (s.issued.map IssuedHandle.handle).Nodup :=
  ⟨by decide +kernel,
    ((handles_distinct ⟨[1, 2, 3, 4]⟩).2.2 .bits64 racingCalls (by decide +kernel)).1⟩

end SharedAllocator

end CratonHsm.Session
