import CratonHsm.Library.Feistel
import Mathlib.Algebra.Group.Nat.Defs
import Mathlib.Data.Fintype.Card

/-!
# Session and object handles

`session/handle.rs`, for a 64-bit `CK_ULONG`. A handle is a counter value put through a four-round
Feistel network with random round keys. The counter wraps around; handle 0 is skipped, and so are,
for objects, the handles registered as reserved (those loaded from the store).

The network is a permutation (`scramble_injective`), so an allocation ends, with a handle that is
not skipped (`allocate_not_skipped`), and as long as the counter has not wrapped around no handle is
issued twice (`issued_of_allocate`, `not_issued_allocate`).
-/

set_option autoImplicit false

namespace CratonHsm.Session

open Library

/-! ### The permutation -/

/-- `round_fn_32`. -/
def roundFn32 (key : BitVec 64) (half : BitVec 32) : BitVec 32 :=
  let x := half.setWidth 64 * (key ||| 1)
  ((x >>> 32) ^^^ x).setWidth 32

/-- `HandleScrambler`: the four round keys. -/
structure HandleScrambler where
  roundKeys : List (BitVec 64)
  deriving DecidableEq

variable (scrambler : HandleScrambler)

/-- `HandleScrambler::scramble`, which is `feistel64_forward`. -/
def HandleScrambler.scramble (counter : BitVec 64) : BitVec 64 :=
  let block := feistel (· ^^^ ·) (scrambler.roundKeys.map roundFn32)
    (counter.extractLsb' 32 32, counter.extractLsb' 0 32)
  block.1 ++ block.2

theorem HandleScrambler.scramble_injective : Function.Injective scrambler.scramble :=
  (feistelWordInverse_feistelWord (scrambler.roundKeys.map roundFn32)).injective

/-! ### Allocation -/

/-- The allocation loop: claim counter values until one has a handle that is not skipped. The number
of attempts is bounded by `fuel`. -/
def allocate (scrambler : HandleScrambler) (skip : Nat → Bool) : Nat → BitVec 64 → Nat × BitVec 64
  | 0, counter => (0, counter)
  | fuel + 1, counter =>
    let handle := (scrambler.scramble counter).toNat
    if skip handle then allocate scrambler skip fuel (counter + 1) else (handle, counter + 1)

/-- `SessionHandleAllocator`. -/
structure SessionHandleAllocator where
  next : BitVec 64
  scrambler : HandleScrambler
  deriving DecidableEq

/-- `SessionHandleAllocator::next`. One counter value has handle 0, so the second attempt is the
last. -/
def SessionHandleAllocator.allocate (alloc : SessionHandleAllocator) :
    Nat × SessionHandleAllocator :=
  let (handle, next) := Session.allocate alloc.scrambler (· == 0) 2 alloc.next
  (handle, { alloc with next := next })

/-- `ObjectHandleAllocator`. -/
structure ObjectHandleAllocator where
  next : BitVec 64
  scrambler : HandleScrambler
  reserved : List Nat
  deriving DecidableEq

/-- Handle 0 and the reserved handles are not issued. -/
def ObjectHandleAllocator.skips (alloc : ObjectHandleAllocator) (handle : Nat) : Bool :=
  handle == 0 || alloc.reserved.contains handle

/-- `ObjectHandleAllocator::next`. -/
def ObjectHandleAllocator.allocate (alloc : ObjectHandleAllocator) : Nat × ObjectHandleAllocator :=
  let (handle, next) := Session.allocate alloc.scrambler alloc.skips (alloc.reserved.length + 2)
    alloc.next
  (handle, { alloc with next := next })

/-- `ObjectHandleAllocator::ensure_past`. -/
def ObjectHandleAllocator.ensurePast (alloc : ObjectHandleAllocator) (handle : Nat) :
    ObjectHandleAllocator :=
  { alloc with reserved := handle :: alloc.reserved }

/-- An allocation that does not run out of attempts issues the handle of the last counter value it
claims, which is not skipped. -/
theorem allocate_cases (skip : Nat → Bool) : ∀ (fuel : Nat) (counter : BitVec 64),
      (∀ i < fuel, skip (scrambler.scramble (counter + BitVec.ofNat 64 i)).toNat) ∨
        ∃ i < fuel, allocate scrambler skip fuel counter =
            ((scrambler.scramble (counter + BitVec.ofNat 64 i)).toNat,
              counter + BitVec.ofNat 64 i + 1) ∧
          skip (scrambler.scramble (counter + BitVec.ofNat 64 i)).toNat = false := by
  intro fuel
  induction fuel with
  | zero => exact fun _ ↦ Or.inl (by simp)
  | succ fuel ih =>
    intro counter
    have hshift : ∀ i, counter + 1 + BitVec.ofNat 64 i = counter + BitVec.ofNat 64 (i + 1) := by
      intro i
      rw [BitVec.add_assoc, BitVec.ofNat_add, BitVec.add_comm 1]
      rfl
    cases hskip : skip (scrambler.scramble counter).toNat with
    | false =>
      refine Or.inr ⟨0, Nat.succ_pos _, ?_, ?_⟩
      · simp [allocate, hskip]
      · simpa using hskip
    | true =>
      have hnext : allocate scrambler skip (fuel + 1) counter =
          allocate scrambler skip fuel (counter + 1) := by
        simp [allocate, hskip]
      rcases ih (counter + 1) with hall | ⟨i, hi, heq, hfree⟩
      · refine Or.inl fun i hi ↦ ?_
        cases i with
        | zero => simpa using hskip
        | succ i => rw [← hshift]; exact hall i (by omega)
      · refine Or.inr ⟨i + 1, by omega, ?_, ?_⟩
        · rw [hnext, heq, hshift]
        · rw [← hshift]; exact hfree

/-- With more attempts than there are skipped handles, an allocation does not run out of them. -/
theorem allocate_spec {skip : Nat → Bool} {skipped : List Nat}
    (hskipped : ∀ handle, skip handle = true → handle ∈ skipped) (counter : BitVec 64)
    (hsmall : skipped.length + 1 ≤ 2 ^ 64) :
    ∃ i < skipped.length + 1, allocate scrambler skip (skipped.length + 1) counter =
        ((scrambler.scramble (counter + BitVec.ofNat 64 i)).toNat,
          counter + BitVec.ofNat 64 i + 1) ∧
      skip (scrambler.scramble (counter + BitVec.ofNat 64 i)).toNat = false := by
  refine (allocate_cases scrambler skip (skipped.length + 1) counter).resolve_left fun hall ↦ ?_
  -- the attempts have distinct handles, one more than there are skipped ones
  have hinjective : Function.Injective fun i : Fin (skipped.length + 1) ↦
      (scrambler.scramble (counter + BitVec.ofNat 64 i)).toNat := by
    intro i j h
    have hvalue := scrambler.scramble_injective (BitVec.toNat_inj.mp h)
    have hoffset : BitVec.ofNat 64 i = BitVec.ofNat 64 j := by
      rwa [BitVec.add_right_inj] at hvalue
    have hmod := congrArg BitVec.toNat hoffset
    rw [BitVec.toNat_ofNat, BitVec.toNat_ofNat, Nat.mod_eq_of_lt (by omega),
      Nat.mod_eq_of_lt (by omega)] at hmod
    exact Fin.ext hmod
  have hmem : ∀ i : Fin (skipped.length + 1),
      (scrambler.scramble (counter + BitVec.ofNat 64 i)).toNat ∈ skipped.toFinset := by
    intro i
    exact List.mem_toFinset.mpr (hskipped _ (hall i i.2))
  have hcard := Finset.card_le_card_of_injOn (s := Finset.univ) _ (fun i _ ↦ hmem i)
    (fun i _ j _ h ↦ hinjective h)
  have hlength := List.toFinset_card_le skipped
  rw [Finset.card_univ, Fintype.card_fin] at hcard
  omega

/-! ### Issued handles -/

namespace ObjectHandleAllocator

variable {alloc : ObjectHandleAllocator} {handle : Nat}

/-- The counter has passed the value of the handle. -/
def Issued (alloc : ObjectHandleAllocator) (handle : Nat) : Prop :=
  ∃ counter : BitVec 64, counter.toNat < alloc.next.toNat ∧
    (alloc.scrambler.scramble counter).toNat = handle

/-- The next allocation does not come to the end of the counter. -/
def HasRoom (alloc : ObjectHandleAllocator) : Prop :=
  alloc.next.toNat + alloc.reserved.length + 2 < 2 ^ 64

variable (hroom : alloc.HasRoom)
include hroom

/-- An allocation moves the counter on and issues the handle before it, which is not reserved. -/
theorem allocate_eq : ∃ counter : BitVec 64,
    (alloc.next.toNat ≤ counter.toNat ∧
      counter.toNat < alloc.next.toNat + alloc.reserved.length + 2) ∧
      (counter + 1).toNat = counter.toNat + 1 ∧
      alloc.allocate =
        ((alloc.scrambler.scramble counter).toNat, { alloc with next := counter + 1 }) ∧
      (alloc.scrambler.scramble counter).toNat ∉ alloc.reserved := by
  unfold HasRoom at hroom
  have hskipped : ∀ handle, alloc.skips handle = true → handle ∈ 0 :: alloc.reserved := by
    intro handle h
    simpa [skips] using h
  obtain ⟨i, hi, heq, hfree⟩ := allocate_spec alloc.scrambler hskipped alloc.next
    (by rw [List.length_cons]; omega)
  rw [List.length_cons] at hi
  have hvalue : (alloc.next + BitVec.ofNat 64 i).toNat = alloc.next.toNat + i := by
    rw [BitVec.toNat_add, BitVec.toNat_ofNat, Nat.mod_eq_of_lt (by omega : i < 2 ^ 64),
      Nat.mod_eq_of_lt (by omega)]
  refine ⟨alloc.next + BitVec.ofNat 64 i, ⟨by omega, by omega⟩, ?_, ?_, ?_⟩
  · rw [BitVec.toNat_add, hvalue]
    exact Nat.mod_eq_of_lt (by change alloc.next.toNat + i + 1 < 2 ^ 64; omega)
  · rw [List.length_cons] at heq
    rw [allocate, heq]
  · intro hmem
    simp [skips, hmem] at hfree

/-- What is issued by an allocation, and what was issued before it, counts as issued after it. -/
theorem issued_of_allocate (h : handle = alloc.allocate.1 ∨ alloc.Issued handle) :
    alloc.allocate.2.Issued handle := by
  obtain ⟨counter, ⟨hle, -⟩, hsucc, heq, -⟩ := allocate_eq hroom
  rw [heq] at h ⊢
  rcases h with rfl | ⟨earlier, hlt, rfl⟩
  · exact ⟨counter, by rw [hsucc]; exact Nat.lt_succ_self _, rfl⟩
  · exact ⟨earlier, by rw [hsucc]; omega, rfl⟩

/-- No handle is issued twice. -/
theorem not_issued_allocate : ¬alloc.Issued alloc.allocate.1 := by
  obtain ⟨counter, ⟨hle, -⟩, -, heq, -⟩ := allocate_eq hroom
  rw [heq]
  rintro ⟨earlier, hlt, hsame⟩
  have := alloc.scrambler.scramble_injective (BitVec.toNat_inj.mp hsame)
  rw [this] at hlt
  exact absurd hlt (Nat.not_lt.mpr hle)

theorem not_reserved_allocate : alloc.allocate.1 ∉ alloc.reserved := by
  obtain ⟨counter, -, -, heq, hfree⟩ := allocate_eq hroom
  rw [heq]
  exact hfree

end ObjectHandleAllocator

end CratonHsm.Session
