import CratonHsm.Error

/-!
# PKCS#11 constants

The attribute, class, key-type, flag and mechanism codes of `pkcs11_abi/constants.rs` that the
modelled functions look at, and the byte form of a `CK_ULONG`, which has eight bytes in
little-endian order.
-/

set_option autoImplicit false

namespace CratonHsm

/-! ### Attribute types -/

def ckaClass : Nat := 0x000
def ckaToken : Nat := 0x001
def ckaPrivate : Nat := 0x002
def ckaLabel : Nat := 0x003
def ckaValue : Nat := 0x011
def ckaTrusted : Nat := 0x086
def ckaKeyType : Nat := 0x100
def ckaId : Nat := 0x102
def ckaSensitive : Nat := 0x103
def ckaEncrypt : Nat := 0x104
def ckaDecrypt : Nat := 0x105
def ckaWrap : Nat := 0x106
def ckaUnwrap : Nat := 0x107
def ckaSign : Nat := 0x108
def ckaVerify : Nat := 0x10A
def ckaDerive : Nat := 0x10C
def ckaStartDate : Nat := 0x110
def ckaEndDate : Nat := 0x111
def ckaModulus : Nat := 0x120
def ckaModulusBits : Nat := 0x121
def ckaPublicExponent : Nat := 0x122
def ckaPrivateExponent : Nat := 0x123
def ckaPrime1 : Nat := 0x124
def ckaPrime2 : Nat := 0x125
def ckaExponent1 : Nat := 0x126
def ckaExponent2 : Nat := 0x127
def ckaCoefficient : Nat := 0x128
def ckaValueLen : Nat := 0x161
def ckaExtractable : Nat := 0x162
def ckaModifiable : Nat := 0x170
def ckaDestroyable : Nat := 0x172
def ckaEcParams : Nat := 0x180
def ckaEcPoint : Nat := 0x181
def ckaWrapWithTrusted : Nat := 0x210

/-! ### Classes, key types and flags -/

def ckoPublicKey : Nat := 2
def ckoPrivateKey : Nat := 3
def ckoSecretKey : Nat := 4

def ckkRsa : Nat := 0x00
def ckkEc : Nat := 0x03
def ckkGenericSecret : Nat := 0x10
def ckkAes : Nat := 0x1F
def ckkEcEdwards : Nat := 0x40
def ckkMlKem : Nat := 0x80000001
def ckkMlDsa : Nat := 0x80000002
def ckkSlhDsa : Nat := 0x80000003

def ckfRwSession : Nat := 0x2
def ckfSerialSession : Nat := 0x4

/-! ### Values -/

/-- A boolean attribute: its first byte is present and not zero. -/
def attributeBool (value : Bytes) : Bool := value.headD 0 != 0

/-- The value of a `CK_ULONG` in memory order. -/
def ckUlongOfBytes : Bytes → Nat
  | [] => 0
  | byte :: rest => byte.toNat + 256 * ckUlongOfBytes rest

/-- The eight bytes of a `CK_ULONG` in memory order. -/
def ckUlongToBytes (value : Nat) : Bytes := (Library.beBytes 8 value).reverse

end CratonHsm
