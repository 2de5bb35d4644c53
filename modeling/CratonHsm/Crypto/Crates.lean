import CratonHsm.Error

/-!
# Primitives of other crates

The hash, cipher and key-derivation primitives the repository takes from other crates, as one record
of functions. Their documented behaviour, where a result needs it, is a named predicate on the
record (`Crates.GcmInverts`, `Crates.GcmAuthentic`, `Crates.Pbkdf2Uniform`, `Crates.KeepLengths`).
-/

set_option autoImplicit false

namespace CratonHsm.Crypto

/-- The external primitives. `gcmEncrypt` and `gcmDecrypt` take key, nonce, text and additional
data; the CBC functions pad by PKCS#7; `pbkdf2` takes PIN, salt and iteration count. -/
structure Crates where
  sha256 : Bytes → Bytes
  gcmEncrypt : Bytes → Bytes → Bytes → Bytes → Option Bytes
  gcmDecrypt : Bytes → Bytes → Bytes → Bytes → Option Bytes
  cbcEncrypt : Bytes → Bytes → Bytes → Bytes
  cbcDecrypt : Bytes → Bytes → Bytes → Option Bytes
  ctrKeystream : Bytes → Bytes → Bytes → Bytes
  pbkdf2 : Bytes → Bytes → Nat → FixedBytes 32

/-- AES-GCM decryption undoes encryption under the same key, nonce and additional data. -/
def Crates.GcmInverts (crates : Crates) : Prop :=
  ∀ key nonce plaintext aad ciphertext,
    crates.gcmEncrypt key nonce plaintext aad = some ciphertext →
      crates.gcmDecrypt key nonce ciphertext aad = some plaintext

/-- A ciphertext opens only under the key and the nonce it was made with. -/
def Crates.GcmAuthentic (crates : Crates) : Prop :=
  ∀ key nonce plaintext aad ciphertext key' nonce' aad' opened,
    crates.gcmEncrypt key nonce plaintext aad = some ciphertext →
      crates.gcmDecrypt key' nonce' ciphertext aad' = some opened → key' = key ∧ nonce' = nonce

/-- AES-256-GCM encryption of a text below the length limit does not fail. -/
def Crates.GcmTotal (crates : Crates) : Prop :=
  ∀ key nonce plaintext aad, key.length = 32 → nonce.length = 12 → plaintext.length < 2 ^ 36 →
    (crates.gcmEncrypt key nonce plaintext aad).isSome

/-- PBKDF2 tells PINs apart by the same rule under every salt: two PINs with the same output under
one salt are the same HMAC key, and have the same output under every other salt. -/
def Crates.Pbkdf2Uniform (crates : Crates) : Prop :=
  ∀ pin pin' salt salt' iterations,
    crates.pbkdf2 pin salt iterations = crates.pbkdf2 pin' salt iterations →
      crates.pbkdf2 pin salt' iterations = crates.pbkdf2 pin' salt' iterations

/-- What the ciphers do to the length of a text: padding adds at most a block, the counter mode adds
nothing, and AES-GCM adds its tag. -/
structure Crates.KeepLengths (crates : Crates) : Prop where
  cbcEncrypt : ∀ key iv plaintext,
    (crates.cbcEncrypt key iv plaintext).length ≤ plaintext.length + 16
  cbcDecrypt : ∀ key iv ciphertext plaintext,
    crates.cbcDecrypt key iv ciphertext = some plaintext → plaintext.length ≤ ciphertext.length
  ctrKeystream : ∀ key iv text, (crates.ctrKeystream key iv text).length = text.length
  gcmEncrypt : ∀ key nonce plaintext aad ciphertext,
    crates.gcmEncrypt key nonce plaintext aad = some ciphertext →
      ciphertext.length = plaintext.length + 16
  gcmDecrypt : ∀ key nonce ciphertext aad plaintext,
    crates.gcmDecrypt key nonce ciphertext aad = some plaintext →
      ciphertext.length = plaintext.length + 16

end CratonHsm.Crypto
