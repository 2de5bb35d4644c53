import Mathlib.Data.List.Basic
import Mathlib.Data.UInt
import Mathlib.Tactic.Ring

/-!
# Byte strings

Byte strings, those of a fixed length (`FixedBytes`), and the fixed-width big-endian rendering of a
natural number (`beBytes`), as `to_be_bytes` of a machine integer computes it. Its length is its
width (`beBytes_length`), and on the numbers that fit the width it is read back (`beNat_beBytes`)
and loses nothing (`beBytes_injective`).
-/

set_option autoImplicit false

namespace CratonHsm.Library

/-- A byte string. -/
abbrev Bytes := List UInt8

instance Bytes.lawfulBEq : LawfulBEq Bytes := inferInstance

/-- A byte string of length `n`, as an array type `[u8; n]` holds it. -/
abbrev FixedBytes (n : Nat) := { bytes : Bytes // bytes.length = n }

/-- The `width` low-order bytes of `n`, most significant byte first. -/
def beBytes : Nat → Nat → Bytes
  | 0, _ => []
  | width + 1, n => beBytes width (n / 256) ++ [UInt8.ofNat n]

@[simp]
theorem beBytes_length (width n : Nat) : (beBytes width n).length = width := by
  induction width generalizing n with
  | zero => rfl
  | succ width ih => simp [beBytes, ih]

/-- The number that bytes render, most significant byte first. -/
def beNat (bytes : Bytes) : Nat := bytes.foldl (fun n byte ↦ 256 * n + byte.toNat) 0

/-- A number that fits `width` bytes is read back from its rendering. -/
theorem beNat_beBytes {width n : Nat} (h : n < 256 ^ width) : beNat (beBytes width n) = n := by
  induction width generalizing n with
  | zero => rw [pow_zero] at h; simp [beNat, beBytes]; omega
  | succ width ih =>
    have hquotient : n / 256 < 256 ^ width := by
      rw [Nat.div_lt_iff_lt_mul (by norm_num), ← pow_succ]; exact h
    rw [beNat, beBytes, List.foldl_append, ← beNat, ih hquotient]
    simp only [List.foldl_cons, List.foldl_nil, UInt8.toNat_ofNat']
    omega

/-- Two numbers that fit `width` bytes and have the same rendering are equal. -/
theorem beBytes_injective {width a b : Nat} (ha : a < 256 ^ width) (hb : b < 256 ^ width)
    (h : beBytes width a = beBytes width b) : a = b := by
  rw [← beNat_beBytes ha, h, beNat_beBytes hb]

theorem beNat_append_singleton (bytes : Bytes) (byte : UInt8) :
    beNat (bytes ++ [byte]) = 256 * beNat bytes + byte.toNat := by
  simp [beNat, List.foldl_append]

theorem beNat_lt (bytes : Bytes) : beNat bytes < 256 ^ bytes.length := by
  induction bytes using List.reverseRecOn with
  | nil => exact Nat.one_pos
  | append_singleton bytes byte ih =>
    have hbyte := byte.toNat_lt
    rw [beNat_append_singleton, List.length_append, List.length_singleton, pow_succ]
    omega

/-- Bytes are rendered back from their number. -/
theorem beBytes_beNat (bytes : Bytes) : beBytes bytes.length (beNat bytes) = bytes := by
  induction bytes using List.reverseRecOn with
  | nil => rfl
  | append_singleton bytes byte ih =>
    have hbyte := byte.toNat_lt
    have hquotient : (256 * beNat bytes + byte.toNat) / 256 = beNat bytes := by omega
    have hlast : UInt8.ofNat (256 * beNat bytes + byte.toNat) = byte := by
      apply UInt8.toNat_inj.mp
      rw [UInt8.toNat_ofNat']
      omega
    rw [beNat_append_singleton, List.length_append, List.length_singleton, beBytes, hquotient, ih,
      hlast]

theorem beNat_injective {a b : Bytes} (hlength : a.length = b.length) (h : beNat a = beNat b) :
    a = b := by
  rw [← beBytes_beNat a, h, hlength, beBytes_beNat]

end CratonHsm.Library
