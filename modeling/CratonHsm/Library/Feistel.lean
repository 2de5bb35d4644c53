import Mathlib.Logic.Function.Basic

/-!
# Feistel networks

A Feistel network on pairs of halves: each round swaps the halves and mixes into one of them a
function of the other. Mixing by an operation that undoes itself makes every round, whatever its
function, invertible, so the rounds taken back in reverse order are the inverse of the network
(`feistelInverse_feistel`, `feistel_feistelInverse`). On words the halves are the upper and the
lower bits, mixed by exclusive or (`feistelWord`).
-/

set_option autoImplicit false

namespace CratonHsm.Library

variable {Half : Type} (mix : Half → Half → Half)

/-- One round: the right half becomes the left, and the left half mixed with the round function of
the right becomes the right. -/
def feistelRound (roundFn : Half → Half) (block : Half × Half) : Half × Half :=
  (block.2, mix block.1 (roundFn block.2))

/-- The rounds of a network, first round first. -/
def feistel (roundFns : List (Half → Half)) (block : Half × Half) : Half × Half :=
  roundFns.foldl (fun block roundFn ↦ feistelRound mix roundFn block) block

/-- One round taken back. -/
def feistelUnround (roundFn : Half → Half) (block : Half × Half) : Half × Half :=
  (mix block.2 (roundFn block.1), block.1)

/-- The rounds of a network taken back, last round first. -/
def feistelInverse (roundFns : List (Half → Half)) (block : Half × Half) : Half × Half :=
  roundFns.reverse.foldl (fun block roundFn ↦ feistelUnround mix roundFn block) block

theorem feistelInverse_cons (roundFn : Half → Half) (roundFns : List (Half → Half))
    (block : Half × Half) : feistelInverse mix (roundFn :: roundFns) block =
      feistelUnround mix roundFn (feistelInverse mix roundFns block) := by
  simp [feistelInverse]

section Inverse

variable {mix : Half → Half → Half} (hmix : ∀ a b, mix (mix a b) b = a)
include hmix

theorem feistelInverse_feistel (roundFns : List (Half → Half)) :
    Function.LeftInverse (feistelInverse mix roundFns) (feistel mix roundFns) := by
  induction roundFns with
  | nil => exact fun _ ↦ rfl
  | cons roundFn roundFns ih =>
    intro block
    have hrest := ih (feistelRound mix roundFn block)
    rw [feistelInverse_cons]
    simp_all [feistel, feistelUnround, feistelRound]

theorem feistel_feistelInverse (roundFns : List (Half → Half)) :
    Function.LeftInverse (feistel mix roundFns) (feistelInverse mix roundFns) := by
  induction roundFns with
  | nil => exact fun _ ↦ rfl
  | cons roundFn roundFns ih =>
    intro block
    have hrest := ih block
    rw [feistelInverse_cons]
    simp_all [feistel, feistelUnround, feistelRound]

end Inverse

/-! ### Words -/

section Words

variable {w : Nat}

/-- The upper and the lower half of a word. -/
def halves (word : BitVec (w + w)) : BitVec w × BitVec w :=
  (word.extractLsb' w w, word.extractLsb' 0 w)

/-- The word of two halves. -/
def joined (block : BitVec w × BitVec w) : BitVec (w + w) := block.1 ++ block.2

theorem halves_joined (block : BitVec w × BitVec w) : halves (joined block) = block := by
  simp [halves, joined, BitVec.extractLsb'_append_eq_left, BitVec.extractLsb'_append_eq_right]

theorem joined_halves (word : BitVec (w + w)) : joined (halves word) = word :=
  BitVec.extractLsb'_append_extractLsb'

theorem xor_xor_self (a b : BitVec w) : a ^^^ b ^^^ b = a := by
  rw [BitVec.xor_assoc, BitVec.xor_self, BitVec.xor_zero]

/-- A network on the halves of a word. -/
def feistelWord (roundFns : List (BitVec w → BitVec w)) (word : BitVec (w + w)) : BitVec (w + w) :=
  joined (feistel (· ^^^ ·) roundFns (halves word))

/-- The network taken back. -/
def feistelWordInverse (roundFns : List (BitVec w → BitVec w)) (word : BitVec (w + w)) :
    BitVec (w + w) :=
  joined (feistelInverse (· ^^^ ·) roundFns (halves word))

theorem feistelWordInverse_feistelWord (roundFns : List (BitVec w → BitVec w)) :
    Function.LeftInverse (feistelWordInverse roundFns) (feistelWord roundFns) := fun word ↦ by
  rw [feistelWordInverse, feistelWord, halves_joined, feistelInverse_feistel xor_xor_self,
    joined_halves]

theorem feistelWord_feistelWordInverse (roundFns : List (BitVec w → BitVec w)) :
    Function.LeftInverse (feistelWord roundFns) (feistelWordInverse roundFns) := fun word ↦ by
  rw [feistelWordInverse, feistelWord, halves_joined, feistel_feistelInverse xor_xor_self,
    joined_halves]

end Words

end CratonHsm.Library
