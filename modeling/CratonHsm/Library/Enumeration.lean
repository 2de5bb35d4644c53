import CratonHsm.Library.Bytes
import Mathlib.Data.Countable.Basic
import Mathlib.Logic.Encodable.Basic
import Mathlib.Logic.Equiv.List
import Mathlib.Tactic.DeriveCountable

/-!
# Texts for the values of a countable type

The values of a countable type have numbers, and a number can be written in unary: every countable
type has texts that are read back (`ofUnary_unary`). They stand for an encoding of which nothing
else is used.
-/

set_option autoImplicit false

namespace CratonHsm.Library

instance countable_uint8 : Countable UInt8 :=
  Function.Injective.countable (f := UInt8.toNat) fun _ _ ↦ UInt8.toNat_inj.mp

instance countable_char : Countable Char :=
  Function.Injective.countable (f := Char.toNat) fun _ _ ↦ Char.toNat_inj.mp

instance countable_string : Countable String :=
  Function.Injective.countable (f := String.toList) fun _ _ ↦ String.toList_inj.mp

variable {Value : Type} [Countable Value]

/-- The number of a value in unary. -/
noncomputable def unary (value : Value) : Bytes :=
  List.replicate (@Encodable.encode Value (Encodable.ofCountable Value) value) 0

/-- The value whose number is the length of a text. -/
noncomputable def ofUnary (text : Bytes) : Option Value :=
  @Encodable.decode Value (Encodable.ofCountable Value) text.length

theorem ofUnary_unary (value : Value) : ofUnary (unary value) = some value := by
  rw [ofUnary, unary, List.length_replicate]
  exact @Encodable.encodek Value (Encodable.ofCountable Value) value

theorem unary_injective : Function.Injective (unary : Value → Bytes) := by
  intro first second h
  have hread := ofUnary_unary first
  rw [h, ofUnary_unary] at hread
  exact (Option.some.inj hread).symm

end CratonHsm.Library
