import CratonHsm.Crypto.Crates
import CratonHsm.Library.OrderedMap
import Mathlib.Tactic.Ring

/-!
# AES encryption and its process-wide tables

`crypto/encrypt.rs`. AES-GCM takes its nonce from two process-wide tables, an encryption counter and
a random prefix, both under the SHA-256 hash of the key; CBC and CTR refuse an initialisation
vector they have seen for a key. The three tables are the fields of `CipherStatics`. Each
encryption is written as the sequence of its accesses to them (`takeCounter`, `gcmNoncePrefix`), so
that the interleavings of concurrent calls can be built from the same functions, and so are the two
ways to forget a key (`removeGcmCounter`, `forceResetAllCounters`).

The ciphers themselves and SHA-256 are those of `Crates`. A nonce prefix is drawn from the random
generator, whose answer is an argument.
-/

set_option autoImplicit false

namespace CratonHsm.Crypto.Encrypt

open Library
open Std (ExtTreeMap)

/-! ### The tables -/

/-- A four-byte nonce prefix. -/
abbrev NoncePrefix := FixedBytes 4

/-- `GCM_ENCRYPT_COUNTERS`, `GCM_NONCE_PREFIXES` and `CBC_CTR_IV_TRACKER`, under key identifiers. -/
structure CipherStatics where
  encryptCounters : ExtTreeMap Bytes Nat
  noncePrefixes : ExtTreeMap Bytes NoncePrefix
  ivTracker : ExtTreeMap Bytes (List Bytes)
  deriving DecidableEq

/-- The tables of a process that has not encrypted. -/
def CipherStatics.empty : CipherStatics := ⟨∅, ∅, ∅⟩

/-- `AES_GCM_MAX_PLAINTEXT`. -/
def aesGcmMaxPlaintext : Nat := 2 ^ 36 - 32

/-- `AES_CBC_CTR_MAX_PLAINTEXT`. -/
def aesCbcCtrMaxPlaintext : Nat := 256 * 1024 * 1024

/-- `GCM_MAX_RANDOM_NONCE_ENCRYPTIONS`. -/
def gcmMaxRandomNonceEncryptions : Nat := 2 ^ 31

/-- `MAX_TRACKED_IVS_PER_KEY`. -/
def maxTrackedIvsPerKey : Nat := 100000

/-- `MAX_TRACKED_KEYS`. -/
def maxTrackedKeys : Nat := 10000

variable (crates : Crates) (statics : CipherStatics) (key kid : Bytes)

/-- `gcm_key_id`. -/
def gcmKeyId : Bytes := crates.sha256 key

/-! ### AES-GCM -/

/-- The first access of an encryption: take the counter value of the key and advance it, unless the
limit is reached. An absent counter starts at zero. -/
def takeCounter : HsmResult Nat × CipherStatics :=
  let current := statics.encryptCounters[kid]?.getD 0
  if current ≥ gcmMaxRandomNonceEncryptions then (.error .generalError, statics)
  else (.ok current,
    { statics with encryptCounters := statics.encryptCounters.insert kid (current + 1) })

/-- `gcm_nonce_prefix`: the prefix of the key, drawn and stored when it has none. -/
def gcmNoncePrefix (draw : HsmResult NoncePrefix) : HsmResult NoncePrefix × CipherStatics :=
  match statics.noncePrefixes[kid]? with
  | some noncePrefix => (.ok noncePrefix, statics)
  | none =>
    match draw with
    | .ok noncePrefix => (.ok noncePrefix,
        { statics with noncePrefixes := statics.noncePrefixes.insert kid noncePrefix })
    | .error e => (.error e, statics)

/-- The nonce of an encryption: four bytes of prefix, eight bytes of counter. -/
def gcmNonce (noncePrefix : NoncePrefix) (count : Nat) : Bytes := noncePrefix.1 ++ beBytes 8 count

/-- The checks an encryption makes before it touches the tables. -/
def gcmEncryptAccepts (plaintext : Bytes) : HsmResult Unit :=
  if key.length ≠ 32 then .error .keySizeRange
  else if plaintext.length > aesGcmMaxPlaintext then .error .dataLenRange
  else .ok ()

/-- The last part of an encryption: the nonce, then the ciphertext under it. -/
def gcmSeal (plaintext aad : Bytes) (noncePrefix : NoncePrefix) (count : Nat) : HsmResult Bytes :=
  match crates.gcmEncrypt key (gcmNonce noncePrefix count) plaintext aad with
  | some ciphertext => .ok (gcmNonce noncePrefix count ++ ciphertext)
  | none => .error .generalError

/-- `aes_256_gcm_encrypt_with_aad`. -/
def aes256GcmEncryptWithAad (draw : HsmResult NoncePrefix) (key plaintext aad : Bytes) :
    HsmResult Bytes × CipherStatics :=
  match gcmEncryptAccepts key plaintext with
  | .error e => (.error e, statics)
  | .ok () =>
    let kid := gcmKeyId crates key
    match takeCounter statics kid with
    | (.error e, statics) => (.error e, statics)
    | (.ok count, statics) =>
      match gcmNoncePrefix statics kid draw with
      | (.error e, statics) => (.error e, statics)
      | (.ok noncePrefix, statics) => (gcmSeal crates key plaintext aad noncePrefix count, statics)

/-- `aes_256_gcm_encrypt`, the same without additional data. -/
def aes256GcmEncrypt (draw : HsmResult NoncePrefix) (key plaintext : Bytes) :
    HsmResult Bytes × CipherStatics :=
  aes256GcmEncryptWithAad crates statics draw key plaintext []

/-- `aes_256_gcm_decrypt_with_aad`. -/
def aes256GcmDecryptWithAad (data aad : Bytes) : HsmResult Bytes :=
  if key.length ≠ 32 then .error .keySizeRange
  else if data.length < 28 then .error .encryptedDataInvalid
  else
    match crates.gcmDecrypt key (data.take 12) (data.drop 12) aad with
    | some plaintext => .ok plaintext
    | none => .error .encryptedDataInvalid

/-- `aes_256_gcm_decrypt`. -/
def aes256GcmDecrypt (data : Bytes) : HsmResult Bytes :=
  aes256GcmDecryptWithAad crates key data []

/-! ### Forgetting keys -/

/-- The first access of `remove_gcm_counter`. -/
def removeCounter : CipherStatics :=
  { statics with encryptCounters := statics.encryptCounters.erase kid }

/-- The remaining accesses of `remove_gcm_counter`: the prefix and the initialisation vectors. -/
def removePrefix : CipherStatics :=
  { statics with
    noncePrefixes := statics.noncePrefixes.erase kid
    ivTracker := statics.ivTracker.erase kid }

/-- `remove_gcm_counter`. -/
def removeGcmCounter : CipherStatics :=
  removePrefix (removeCounter statics (gcmKeyId crates key)) (gcmKeyId crates key)

/-- `reset_iv_trackers`. -/
def resetIvTrackers : CipherStatics := { statics with ivTracker := ∅ }

/-- `reset_gcm_counters`, which despite its name keeps the counters. -/
def resetGcmCounters : CipherStatics := resetIvTrackers statics

/-- The first access of `force_reset_all_counters`. -/
def clearCounters : CipherStatics :=
  { statics with encryptCounters := ∅ }

/-- The remaining accesses of `force_reset_all_counters`. -/
def clearPrefixes : CipherStatics :=
  resetIvTrackers { statics with noncePrefixes := ∅ }

/-- `force_reset_all_counters`. -/
def forceResetAllCounters : CipherStatics :=
  clearPrefixes (clearCounters statics)

@[simp]
theorem forceResetAllCounters_eq_empty : forceResetAllCounters statics = .empty := rfl

/-! ### AES-CBC and AES-CTR -/

/-- `check_iv_reuse`. -/
def checkIvReuse (iv : Bytes) : HsmResult Unit × CipherStatics :=
  let keyHash := crates.sha256 key
  if !statics.ivTracker.contains keyHash && decide (statics.ivTracker.size ≥ maxTrackedKeys) then
    (.error .generalError, statics)
  else
    let ivSet := statics.ivTracker[keyHash]?.getD []
    if iv ∈ ivSet then (.error .mechanismParamInvalid, statics)
    else if ivSet.length ≥ maxTrackedIvsPerKey then (.error .generalError, statics)
    else (.ok (), { statics with ivTracker := statics.ivTracker.insert keyHash (iv :: ivSet) })

/-- Whether a key has one of the three AES lengths. -/
def isAesKeyLength : Bool :=
  key.length == 16 || key.length == 24 || key.length == 32

/-- Whether every byte of an initialisation vector is zero. -/
def isAllZero (iv : Bytes) : Bool := iv.all (· == 0)

/-- `aes_cbc_encrypt`. The key length is checked after the initialisation vector is recorded. -/
def aesCbcEncrypt (iv plaintext : Bytes) : HsmResult Bytes × CipherStatics :=
  if plaintext.length > aesCbcCtrMaxPlaintext then (.error .dataLenRange, statics)
  else if iv.length ≠ 16 then (.error .mechanismParamInvalid, statics)
  else if isAllZero iv then (.error .mechanismParamInvalid, statics)
  else
    match checkIvReuse crates statics key iv with
    | (.error e, statics) => (.error e, statics)
    | (.ok (), statics) =>
      if isAesKeyLength key then (.ok (crates.cbcEncrypt key iv plaintext), statics)
      else (.error .keySizeRange, statics)

/-- `aes_cbc_decrypt`. -/
def aesCbcDecrypt (iv ciphertext : Bytes) : HsmResult Bytes :=
  if iv.length ≠ 16 then .error .mechanismParamInvalid
  else if isAesKeyLength key then
    match crates.cbcDecrypt key iv ciphertext with
    | some plaintext => .ok plaintext
    | none => .error .encryptedDataInvalid
  else .error .encryptedDataInvalid

/-- `aes_ctr_validate`. -/
def aesCtrValidate (iv data : Bytes) : HsmResult Unit :=
  if data.length > aesCbcCtrMaxPlaintext then .error .dataLenRange
  else if iv.length ≠ 16 then .error .mechanismParamInvalid
  else if isAllZero iv then .error .mechanismParamInvalid
  else if !isAesKeyLength key then .error .keySizeRange
  else .ok ()

/-- `aes_ctr_encrypt`. -/
def aesCtrEncrypt (iv plaintext : Bytes) : HsmResult Bytes × CipherStatics :=
  match aesCtrValidate key iv plaintext with
  | .error e => (.error e, statics)
  | .ok () =>
    match checkIvReuse crates statics key iv with
    | (.error e, statics) => (.error e, statics)
    | (.ok (), statics) => (.ok (crates.ctrKeystream key iv plaintext), statics)

/-- `aes_ctr_decrypt`. -/
def aesCtrDecrypt (iv ciphertext : Bytes) : HsmResult Bytes := do
  aesCtrValidate key iv ciphertext
  .ok (crates.ctrKeystream key iv ciphertext)

/-! ### What one access does -/

/-- Two nonces with counters below the limit are equal only when prefix and counter are. -/
theorem gcmNonce_injective {noncePrefix noncePrefix' : NoncePrefix} {count count' : Nat}
    (hcount : count < gcmMaxRandomNonceEncryptions)
    (hcount' : count' < gcmMaxRandomNonceEncryptions)
    (h : gcmNonce noncePrefix count = gcmNonce noncePrefix' count') :
    noncePrefix = noncePrefix' ∧ count = count' := by
  obtain ⟨hpre, hbytes⟩ := List.append_inj h (noncePrefix.2.trans noncePrefix'.2.symm)
  have hlimit : gcmMaxRandomNonceEncryptions ≤ 256 ^ 8 := by decide
  exact ⟨Subtype.ext hpre,
    beBytes_injective (hcount.trans_le hlimit) (hcount'.trans_le hlimit) hbytes⟩

/-- A counter value is handed out below the limit, is the current one, and advances the counter of
its key by one; nothing else changes. -/
theorem takeCounter_eq_ok {statics statics' : CipherStatics} {kid : Bytes} {count : Nat}
    (h : takeCounter statics kid = (.ok count, statics')) :
    count = statics.encryptCounters[kid]?.getD 0 ∧ count < gcmMaxRandomNonceEncryptions ∧
      statics' =
        { statics with encryptCounters := statics.encryptCounters.insert kid (count + 1) } := by
  simp only [takeCounter] at h
  split_ifs at h with hlimit
  · cases h
  · obtain ⟨hcount, hstatics⟩ := Prod.mk.inj h
    cases hcount
    exact ⟨rfl, by omega, hstatics.symm⟩

theorem takeCounter_eq_error {statics statics' : CipherStatics} {kid : Bytes} {e : HsmError}
    (h : takeCounter statics kid = (.error e, statics')) : statics' = statics := by
  simp only [takeCounter] at h
  split_ifs at h with hlimit
  · exact (Prod.mk.inj h).2.symm
  · cases h

/-! ### What a successful call did -/

section Success

variable {crates : Crates} {statics : CipherStatics} {key iv plaintext ciphertext output : Bytes}
  {draw : HsmResult NoncePrefix}

theorem aesCbcEncrypt_eq_ok (h : (aesCbcEncrypt crates statics key iv plaintext).1 = .ok output) :
    output = crates.cbcEncrypt key iv plaintext ∧ (checkIvReuse crates statics key iv).1 = .ok () ∧
      aesCbcEncrypt crates statics key iv plaintext =
        (.ok output, (checkIvReuse crates statics key iv).2) := by
  unfold aesCbcEncrypt at h ⊢
  rcases hcheck : checkIvReuse crates statics key iv with ⟨e | ⟨⟩, statics'⟩
  · simp only [hcheck] at h
    split_ifs at h
  · simp only [hcheck] at h ⊢
    split_ifs at h ⊢
    exact ⟨(Except.ok.inj h).symm, trivial, by rw [Except.ok.inj h]⟩

theorem aesCtrEncrypt_eq_ok (h : (aesCtrEncrypt crates statics key iv plaintext).1 = .ok output) :
    output = crates.ctrKeystream key iv plaintext ∧
      (checkIvReuse crates statics key iv).1 = .ok () ∧
      aesCtrEncrypt crates statics key iv plaintext =
        (.ok output, (checkIvReuse crates statics key iv).2) := by
  unfold aesCtrEncrypt at h ⊢
  cases hvalid : aesCtrValidate key iv plaintext with
  | error e => simp [hvalid] at h
  | ok u =>
    rcases hcheck : checkIvReuse crates statics key iv with ⟨e | ⟨⟩, statics'⟩
    · simp [hvalid, hcheck] at h
    · simp only [hvalid, hcheck] at h ⊢
      exact ⟨(Except.ok.inj h).symm, trivial, by rw [Except.ok.inj h]⟩

/-- An encryption with AES-GCM under the limit, given a prefix: the stored one or the one drawn. It
advances the counter of its key and leaves the prefix stored. -/
theorem aes256GcmEncrypt_eq {noncePrefix : NoncePrefix}
    (haccepts : gcmEncryptAccepts key plaintext = .ok ())
    (hcount : statics.encryptCounters[gcmKeyId crates key]?.getD 0 < gcmMaxRandomNonceEncryptions)
    (hnoncePart : statics.noncePrefixes[gcmKeyId crates key]?.elim draw .ok = .ok noncePrefix) :
    ∃ statics', aes256GcmEncrypt crates statics draw key plaintext =
        (gcmSeal crates key plaintext [] noncePrefix
          (statics.encryptCounters[gcmKeyId crates key]?.getD 0), statics') ∧
      statics'.encryptCounters[gcmKeyId crates key]? =
        some (statics.encryptCounters[gcmKeyId crates key]?.getD 0 + 1) ∧
      statics'.noncePrefixes[gcmKeyId crates key]? = some noncePrefix ∧
      statics'.ivTracker = statics.ivTracker := by
  unfold aes256GcmEncrypt aes256GcmEncryptWithAad
  simp only [haccepts, takeCounter, Nat.not_le.mpr hcount, if_false, gcmNoncePrefix]
  cases hstored : statics.noncePrefixes[gcmKeyId crates key]? with
  | some stored =>
    rw [hstored] at hnoncePart
    obtain rfl : stored = noncePrefix := Except.ok.inj hnoncePart
    exact ⟨_, rfl, by simp, hstored, rfl⟩
  | none =>
    rw [hstored] at hnoncePart
    obtain rfl : draw = .ok noncePrefix := hnoncePart
    exact ⟨_, rfl, by simp, by simp, rfl⟩

theorem aes256GcmEncrypt_eq_ok
    (h : (aes256GcmEncrypt crates statics draw key plaintext).1 = .ok output) :
    gcmEncryptAccepts key plaintext = .ok () ∧
      statics.encryptCounters[gcmKeyId crates key]?.getD 0 < gcmMaxRandomNonceEncryptions ∧
      ∃ noncePrefix, statics.noncePrefixes[gcmKeyId crates key]?.elim draw .ok = .ok noncePrefix ∧
        gcmSeal crates key plaintext [] noncePrefix
          (statics.encryptCounters[gcmKeyId crates key]?.getD 0) = .ok output := by
  cases haccepts : gcmEncryptAccepts key plaintext with
  | error e =>
    rw [aes256GcmEncrypt, aes256GcmEncryptWithAad, haccepts] at h
    cases h
  | ok u =>
    by_cases hcount : statics.encryptCounters[gcmKeyId crates key]?.getD 0 <
        gcmMaxRandomNonceEncryptions
    swap
    · simp only [aes256GcmEncrypt, aes256GcmEncryptWithAad, haccepts, takeCounter,
        Nat.not_lt.mp hcount, if_true] at h
      cases h
    cases hnoncePart : statics.noncePrefixes[gcmKeyId crates key]?.elim draw .ok with
    | error e =>
      cases hstored : statics.noncePrefixes[gcmKeyId crates key]? with
      | some stored => rw [hstored] at hnoncePart; cases hnoncePart
      | none =>
        obtain rfl : draw = .error e := by rwa [hstored] at hnoncePart
        simp only [aes256GcmEncrypt, aes256GcmEncryptWithAad, haccepts, takeCounter,
          Nat.not_le.mpr hcount, if_false, gcmNoncePrefix, hstored] at h
        cases h
    | ok noncePrefix =>
      obtain ⟨statics', heq, -⟩ := aes256GcmEncrypt_eq haccepts hcount hnoncePart
      rw [heq] at h
      exact ⟨rfl, hcount, noncePrefix, rfl, h⟩

theorem aesCbcDecrypt_eq_ok (h : aesCbcDecrypt crates key iv ciphertext = .ok output) :
    crates.cbcDecrypt key iv ciphertext = some output := by
  unfold aesCbcDecrypt at h
  split_ifs at h
  split at h
  next plaintext hplain => rw [hplain, Except.ok.inj h]
  next => cases h

theorem aesCtrDecrypt_eq_ok (h : aesCtrDecrypt crates key iv ciphertext = .ok output) :
    output = crates.ctrKeystream key iv ciphertext := by
  unfold aesCtrDecrypt at h
  cases hvalid : aesCtrValidate key iv ciphertext with
  | error e => rw [hvalid] at h; cases h
  | ok u => rw [hvalid] at h; exact (Except.ok.inj h).symm

end Success

end CratonHsm.Crypto.Encrypt
