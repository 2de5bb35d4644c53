import CratonHsm.Crypto.Crates

/-!
# Keys and hashes derived from a PIN

The free functions of `store/encrypted_store.rs` that turn a PIN into a key or a stored hash and
wrap one key under another. A stored PIN hash is a salt followed by the PBKDF2 output under it
(`hashPinPbkdf2`), and a wrapped key is a nonce followed by an AES-GCM ciphertext (`wrapKey`). Under
the documented behaviour of AES-GCM a wrapped key unwraps to the key that was wrapped
(`unwrapKey_wrapKey`).

The random salt and the random nonce are arguments. The salt of a PIN hash always exists: when the
random generator fails, the code falls back to another source or to zeros.
-/

set_option autoImplicit false

namespace CratonHsm.Store

open Crypto

/-- `SALT_LEN`. -/
def saltLen : Nat := 32

/-- `KEY_LEN`. -/
def keyLen : Nat := 32

/-- `NONCE_LEN`. -/
def nonceLen : Nat := 12

variable (crates : Crates)

/-- `derive_key_from_pin` with a given salt. -/
def deriveKeyFromPin (pin salt : Bytes) (iterations : Nat) : FixedBytes 32 :=
  crates.pbkdf2 pin salt iterations

/-- `hash_pin_pbkdf2`, with the salt it draws. -/
def hashPinPbkdf2 (salt : FixedBytes 32) (pin : Bytes) (iterations : Nat) : Bytes :=
  salt.1 ++ (deriveKeyFromPin crates pin salt.1 iterations).1

/-- `verify_pin_pbkdf2`. -/
def verifyPinPbkdf2 (storedHash pin : Bytes) (iterations : Nat) : Bool :=
  if storedHash.length ≠ saltLen + keyLen then false
  else storedHash.drop saltLen ==
    (deriveKeyFromPin crates pin (storedHash.take saltLen) iterations).1

/-- `wrap_key`, with the nonce it draws. -/
def wrapKey (nonce : HsmResult (FixedBytes 12)) (kek key : FixedBytes 32) : HsmResult Bytes := do
  let nonceBytes ← nonce
  match crates.gcmEncrypt kek.1 nonceBytes.1 key.1 [] with
  | some ciphertext => .ok (nonceBytes.1 ++ ciphertext)
  | none => .error .generalError

/-- `unwrap_key`. -/
def unwrapKey (kek : FixedBytes 32) (wrapped : Bytes) : HsmResult (FixedBytes 32) :=
  if wrapped.length < nonceLen then .error .encryptedDataInvalid
  else
    match crates.gcmDecrypt kek.1 (wrapped.take nonceLen) (wrapped.drop nonceLen) [] with
    | none => .error .encryptedDataInvalid
    | some plaintext =>
      if h : plaintext.length = keyLen then .ok ⟨plaintext, h⟩ else .error .encryptedDataInvalid

theorem verifyPinPbkdf2_hashPinPbkdf2 (salt : FixedBytes 32) (pin pin' : Bytes) (iterations : Nat) :
    verifyPinPbkdf2 crates (hashPinPbkdf2 crates salt pin iterations) pin' iterations = true ↔
      crates.pbkdf2 pin salt.1 iterations = crates.pbkdf2 pin' salt.1 iterations := by
  have hlength : (hashPinPbkdf2 crates salt pin iterations).length = saltLen + keyLen := by
    simp [hashPinPbkdf2, salt.2, (deriveKeyFromPin crates pin salt.1 iterations).2, saltLen, keyLen]
  have hsalt : saltLen = salt.1.length := salt.2.symm
  rw [verifyPinPbkdf2, if_neg (not_not.mpr hlength), hashPinPbkdf2, hsalt, List.drop_left,
    List.take_left, beq_iff_eq]
  exact Subtype.ext_iff.symm

theorem unwrapKey_wrapKey {crates : Crates} (hinverts : crates.GcmInverts)
    {nonce : HsmResult (FixedBytes 12)} {kek key : FixedBytes 32} {wrapped : Bytes}
    (h : wrapKey crates nonce kek key = .ok wrapped) :
    unwrapKey crates kek wrapped = .ok key := by
  obtain ⟨nonceBytes, -, h⟩ := bind_eq_ok_iff.mp h
  split at h
  next ciphertext hencrypt =>
    obtain rfl : nonceBytes.1 ++ ciphertext = wrapped := by simpa using h
    have hnonce : nonceLen = nonceBytes.1.length := nonceBytes.2.symm
    have hlong : ¬ (nonceBytes.1 ++ ciphertext).length < nonceLen := by
      rw [List.length_append, hnonce]; omega
    rw [unwrapKey, if_neg hlong, hnonce, List.take_left, List.drop_left,
      hinverts _ _ _ _ _ hencrypt]
    exact dif_pos key.2
  next => cases h

theorem wrapKey_eq_ok {crates : Crates} (htotal : crates.GcmTotal) (nonce : FixedBytes 12)
    (kek key : FixedBytes 32) : ∃ wrapped, wrapKey crates (.ok nonce) kek key = .ok wrapped := by
  have hsome := htotal kek.1 nonce.1 key.1 [] kek.2 nonce.2 (by rw [key.2]; decide)
  obtain ⟨ciphertext, hciphertext⟩ := Option.isSome_iff_exists.mp hsome
  exact ⟨nonce.1 ++ ciphertext, by simp [wrapKey, bind, Except.bind, hciphertext]⟩

end CratonHsm.Store
