import CratonHsm.Crypto.Backend

/-!
# Lengths of outputs

The lengths of signatures and of RSA-OAEP texts, as their standards give them (`SignatureLengths`,
`OaepLengths`): an RSA signature is as long as the modulus of the key, an ECDSA signature is a DER
structure whose length varies, and the other signatures have one length for each variant. With them
the length that an entry point reports ahead of an output is set against the output
(`signSingleShot_length`, `estimatedSignatureLen_covers`, `encryptData_estimate`,
`decryptData_estimate`).
-/

set_option autoImplicit false

namespace CratonHsm.Crypto

open Crypto.Encrypt Store

/-- The longest DER encoding of an ECDSA signature. -/
def EcCurve.signatureLength : EcCurve → Nat
  | .p256 => 72
  | .p384 => 104

/-- The length of an ML-DSA signature. -/
def MlDsaVariant.signatureLength : MlDsaVariant → Nat
  | .mlDsa44 => 2420
  | .mlDsa65 => 3309
  | .mlDsa87 => 4627

/-- The length of an SLH-DSA signature. -/
def SlhDsaVariant.signatureLength : SlhDsaVariant → Nat
  | .sha2x128s => 7856
  | .sha2x256s => 29792

/-- The mechanisms whose signatures have no fixed length: they hold a DER structure. -/
def signatureVaries (mechanism : Nat) : Bool :=
  isEcdsaMechanism mechanism || isHybridMechanism mechanism

/-- The mechanisms whose signatures are as long as an RSA modulus. -/
def rsaSignatureMechanisms : List Nat := pssMechanisms ++ rsaPkcsMechanisms

namespace CryptoBackend

/-- The lengths of signatures, given the length of the modulus in a private RSA key. -/
structure SignatureLengths (backend : CryptoBackend) (modulusLength : Bytes → Nat) : Prop where
  rsaPkcs1v15Sign : ∀ seed key data hash signature,
    backend.rsaPkcs1v15Sign seed key data hash = .ok signature →
      signature.length = modulusLength key
  rsaPssSign : ∀ seed key data hash signature,
    backend.rsaPssSign seed key data hash = .ok signature → signature.length = modulusLength key
  rsaPkcs1v15SignPrehashed : ∀ seed key digest hash signature,
    backend.rsaPkcs1v15SignPrehashed seed key digest hash = .ok signature →
      signature.length = modulusLength key
  rsaPssSignPrehashed : ∀ seed key digest hash signature,
    backend.rsaPssSignPrehashed seed key digest hash = .ok signature →
      signature.length = modulusLength key
  ecdsaSign : ∀ curve seed key data signature, backend.ecdsaSign curve seed key data =
    .ok signature → signature.length ≤ curve.signatureLength
  ecdsaSignPrehashed : ∀ curve seed key digest signature,
    backend.ecdsaSignPrehashed curve seed key digest = .ok signature →
      signature.length ≤ curve.signatureLength
  ed25519Sign : ∀ seed key data signature, backend.ed25519Sign seed key data = .ok signature →
    signature.length = 64
  mlDsaSign : ∀ seed key data variant signature,
    backend.mlDsaSign seed key data variant = .ok signature →
      signature.length = variant.signatureLength
  slhDsaSign : ∀ seed key data variant signature,
    backend.slhDsaSign seed key data variant = .ok signature →
      signature.length = variant.signatureLength
  hybridSign : ∀ seed key ecdsaKey data signature,
    backend.hybridSign seed key ecdsaKey data = .ok signature → signature.length ≤
      4 + MlDsaVariant.mlDsa65.signatureLength + EcCurve.p256.signatureLength

/-- RSA-OAEP: a ciphertext is as long as the modulus without its leading zeros, and a plaintext is
shorter than its ciphertext. -/
structure OaepLengths (backend : CryptoBackend) : Prop where
  encrypt : ∀ seed modulus exponent data hash ciphertext,
    backend.rsaOaepEncrypt seed modulus exponent data hash = .ok ciphertext →
      ciphertext.length = (modulus.dropWhile (· == 0)).length
  decrypt : ∀ key ciphertext hash plaintext,
    backend.rsaOaepDecrypt key ciphertext hash = .ok plaintext →
      plaintext.length ≤ ciphertext.length

/-- The length of the longest signature of a key. -/
def longestSignature (modulusLength : Bytes → Nat) (mechanism : Nat) (obj : StoredObject)
    (key : Bytes) : Nat :=
  if mechanism ∈ rsaSignatureMechanisms then modulusLength key
  else if isEcdsaMechanism mechanism then (curveOf obj).signatureLength
  else if isEddsaMechanism mechanism then 64
  else
    match mechanismToMlDsaVariant mechanism, mechanismToSlhDsaVariant mechanism with
    | some variant, _ => variant.signatureLength
    | none, some variant => variant.signatureLength
    | none, none => 4 + MlDsaVariant.mlDsa65.signatureLength + EcCurve.p256.signatureLength

/-- A signature is at most as long as the longest, and exactly as long where its length is fixed. -/
def SignatureFits (modulusLength : Bytes → Nat) (mechanism : Nat) (obj : StoredObject)
    (key signature : Bytes) : Prop :=
  signature.length ≤ longestSignature modulusLength mechanism obj key ∧
    (signatureVaries mechanism = false →
      signature.length = longestSignature modulusLength mechanism obj key)

section Signatures

variable {backend : CryptoBackend} {modulusLength : Bytes → Nat} {seed mechanism : Nat}
  {key text signature : Bytes} {obj : StoredObject}

theorem SignatureFits.of_eq
    (h : signature.length = longestSignature modulusLength mechanism obj key) :
    SignatureFits modulusLength mechanism obj key signature := ⟨h.le, fun _ ↦ h⟩

theorem signatureFits_rsa (hrsa : mechanism ∈ pssMechanisms ∨ mechanism ∈ rsaPkcsMechanisms)
    (h : signature.length = modulusLength key) :
    SignatureFits modulusLength mechanism obj key signature :=
  .of_eq (h.trans (if_pos (List.mem_append.mpr hrsa)).symm)

theorem signatureFits_ecdsa (hecdsa : mechanism ∈ ecdsaMechanisms)
    (h : signature.length ≤ (curveOf obj).signatureLength) :
    SignatureFits modulusLength mechanism obj key signature := by
  fin_cases hecdsa <;> exact ⟨h, nofun⟩

/-- The families of signature mechanisms. -/
theorem isSignMechanism_cases (h : isSignMechanism mechanism = true) :
    mechanism ∈ rsaPkcsMechanisms ∨ mechanism ∈ pssMechanisms ∨ mechanism ∈ ecdsaMechanisms ∨
      mechanism = ckmEddsa ∨ mechanism ∈ mlDsaMechanisms ∨ mechanism ∈ slhDsaMechanisms ∨
      mechanism = ckmHybridMlDsaEcdsa := by
  simp only [isSignMechanism, decide_eq_true_eq, List.mem_append, List.mem_singleton] at h
  tauto

theorem signSingleShot_rsaPkcs (h : mechanism ∈ rsaPkcsMechanisms) :
    backend.signSingleShot seed mechanism key text obj =
      backend.rsaPkcs1v15Sign seed key text (mechanismToHash mechanism) := by
  fin_cases h <;> rfl

theorem signSingleShot_pss (h : mechanism ∈ pssMechanisms) :
    backend.signSingleShot seed mechanism key text obj =
      (pssMechanismToHash mechanism >>= fun hash ↦ backend.rsaPssSign seed key text hash) := by
  fin_cases h <;> rfl

theorem signSingleShot_ecdsa (h : mechanism ∈ ecdsaMechanisms) :
    backend.signSingleShot seed mechanism key text obj =
      if obj.keyType.getD 0 = ckkEc then backend.ecdsaSign (curveOf obj) seed key text
      else .error .keyTypeInconsistent := by
  fin_cases h <;> rfl

theorem signSingleShot_length (hlengths : backend.SignatureLengths modulusLength)
    (hsign : isSignMechanism mechanism = true)
    (h : backend.signSingleShot seed mechanism key text obj = .ok signature) :
    SignatureFits modulusLength mechanism obj key signature := by
  rcases isSignMechanism_cases hsign with hrsa | hpss | hecdsa | rfl | hml | hslh | rfl
  · rw [signSingleShot_rsaPkcs hrsa] at h
    exact signatureFits_rsa (.inr hrsa) (hlengths.rsaPkcs1v15Sign _ _ _ _ _ h)
  · rw [signSingleShot_pss hpss, bind_eq_ok_iff] at h
    obtain ⟨hash, -, h⟩ := h
    exact signatureFits_rsa (.inl hpss) (hlengths.rsaPssSign _ _ _ _ _ h)
  · rw [signSingleShot_ecdsa hecdsa] at h
    split_ifs at h
    exact signatureFits_ecdsa hecdsa (hlengths.ecdsaSign _ _ _ _ _ h)
  · exact .of_eq (hlengths.ed25519Sign _ _ _ _ h)
  · fin_cases hml <;> exact .of_eq (hlengths.mlDsaSign _ _ _ _ _ h)
  · fin_cases hslh <;> exact .of_eq (hlengths.slhDsaSign _ _ _ _ _ h)
  · exact ⟨hlengths.hybridSign _ _ _ _ _ h, nofun⟩

/-- The same for a signature of a digest, which is made for RSA and ECDSA only. -/
theorem signPrehashed_length (hlengths : backend.SignatureLengths modulusLength)
    (h : backend.signPrehashed seed mechanism key text obj = .ok signature) :
    SignatureFits modulusLength mechanism obj key signature := by
  unfold signPrehashed at h
  split_ifs at h with hpss hecdsa
  · obtain ⟨hash, -, h⟩ := bind_eq_ok_iff.mp h
    exact signatureFits_rsa (.inl (of_decide_eq_true hpss))
      (hlengths.rsaPssSignPrehashed _ _ _ _ _ h)
  · exact signatureFits_ecdsa (of_decide_eq_true hecdsa) (hlengths.ecdsaSignPrehashed _ _ _ _ _ h)
  split at h
  next hash hhash =>
    have hrsa : mechanism ∈ rsaPkcsMechanisms := by
      unfold mechanismToHash at hhash
      split_ifs at hhash with h1 h2 h3 <;> subst_vars <;> decide
    exact signatureFits_rsa (.inr hrsa) (hlengths.rsaPkcs1v15SignPrehashed _ _ _ _ _ h)
  next => cases h

end Signatures

/-! ### Ciphers -/

section Ciphers

variable {backend : CryptoBackend} {crates : Crates} {seed : Nat} {statics : CipherStatics}
  {mechanism : Nat} {mechanismParam key data output : Bytes} {obj : StoredObject}
  {draw : HsmResult NoncePrefix}

theorem gcmSeal_length (hcrates : crates.KeepLengths) {aad : Bytes} {noncePrefix : NoncePrefix}
    {count : Nat} (h : gcmSeal crates key data aad noncePrefix count = .ok output) :
    output.length = data.length + 12 + 16 := by
  unfold gcmSeal at h
  split at h
  next ciphertext hsealed =>
    rw [← Except.ok.inj h, List.length_append, hcrates.gcmEncrypt _ _ _ _ _ hsealed, gcmNonce,
      List.length_append, noncePrefix.2, Library.beBytes_length]
    omega
  next => cases h

/-- A ciphertext of RSA-OAEP is as long as the modulus. -/
theorem oaepEncrypt_length (hoaep : backend.OaepLengths)
    (h : (do
      let modulus ← obj.modulus.elim (.error .keyHandleInvalid) .ok
      let exponent ← obj.publicExponent.elim (.error .keyHandleInvalid) .ok
      toAbi (backend.rsaOaepEncrypt seed modulus exponent data
        (← parseOaepHash mechanismParam)) : Except CkRv Bytes) = .ok output) :
    ∃ modulus, obj.modulus = some modulus ∧
      output.length = (modulus.dropWhile (· == 0)).length := by
  obtain ⟨modulus, hmodulus, h⟩ := bind_eq_ok_iff.mp h
  obtain ⟨exponent, -, h⟩ := bind_eq_ok_iff.mp h
  obtain ⟨hash, -, h⟩ := bind_eq_ok_iff.mp h
  exact ⟨modulus, elim_eq_ok_iff.mp hmodulus, hoaep.encrypt _ _ _ _ _ _ (toAbi_eq_ok_iff.mp h)⟩

/-- What an encryption with AES-GCM adds: nonce and tag. -/
theorem aes256GcmEncrypt_length (hcrates : crates.KeepLengths)
    (h : (aes256GcmEncrypt crates statics draw key data).1 = .ok output) :
    output.length = data.length + 12 + 16 := by
  obtain ⟨-, -, noncePrefix, -, hsealed⟩ := aes256GcmEncrypt_eq_ok h
  exact gcmSeal_length hcrates hsealed

/-- Under the limit and with a prefix at hand, AES-GCM encrypts. -/
theorem aes256GcmEncrypt_total (hcrates : crates.KeepLengths) (htotal : crates.GcmTotal)
    {noncePrefix : NoncePrefix} (haccepts : gcmEncryptAccepts key data = .ok ())
    (hcount : statics.encryptCounters[gcmKeyId crates key]?.getD 0 < gcmMaxRandomNonceEncryptions)
    (hnoncePart : statics.noncePrefixes[gcmKeyId crates key]?.elim draw .ok = .ok noncePrefix) :
    ∃ output statics', aes256GcmEncrypt crates statics draw key data = (.ok output, statics') ∧
      output.length = data.length + 12 + 16 ∧
      statics'.encryptCounters[gcmKeyId crates key]? =
        some (statics.encryptCounters[gcmKeyId crates key]?.getD 0 + 1) ∧
      statics'.noncePrefixes[gcmKeyId crates key]? = some noncePrefix ∧
      statics'.ivTracker = statics.ivTracker := by
  obtain ⟨statics', heq, hstatics⟩ := aes256GcmEncrypt_eq haccepts hcount hnoncePart
  have hbounds : key.length = 32 ∧ data.length ≤ aesGcmMaxPlaintext := by
    unfold gcmEncryptAccepts at haccepts
    split_ifs at haccepts with hkey hdata
    exact ⟨Decidable.not_not.mp hkey, Nat.not_lt.mp hdata⟩
  have hnonce : (gcmNonce noncePrefix
      (statics.encryptCounters[gcmKeyId crates key]?.getD 0)).length = 12 := by
    rw [gcmNonce, List.length_append, noncePrefix.2, Library.beBytes_length]
  have hmax : aesGcmMaxPlaintext < 2 ^ 36 := by decide
  obtain ⟨ciphertext, hsealed⟩ := Option.isSome_iff_exists.mp
    (htotal key _ data [] hbounds.1 hnonce (hbounds.2.trans_lt hmax))
  have hseal : gcmSeal crates key data [] noncePrefix
      (statics.encryptCounters[gcmKeyId crates key]?.getD 0) = .ok (gcmNonce noncePrefix
        (statics.encryptCounters[gcmKeyId crates key]?.getD 0) ++ ciphertext) := by
    simp only [gcmSeal, hsealed]
  rw [hseal] at heq
  exact ⟨_, statics', heq, gcmSeal_length hcrates hseal, hstatics⟩

/-- A mode with an initialisation vector records it, and has not seen it before. -/
theorem encryptData_records (hparts : encryptMechanismSupportsMultipart mechanism = true)
    (h : (backend.encryptData crates seed statics mechanism mechanismParam obj key data).1 =
      .ok output) :
    mechanismParam ∉ statics.ivTracker[crates.sha256 key]?.getD [] ∧
      mechanismParam ∈ (backend.encryptData crates seed statics mechanism mechanismParam obj key
        data).2.ivTracker[crates.sha256 key]?.getD [] := by
  have hcheck : (checkIvReuse crates statics key mechanismParam).1 = .ok () ∧
      (backend.encryptData crates seed statics mechanism mechanismParam obj key data).2 =
        (checkIvReuse crates statics key mechanismParam).2 := by
    unfold encryptData at h ⊢
    rw [if_neg (ne_gcm_of_supportsMultipart hparts)] at h ⊢
    by_cases hcbc : mechanism ∈ [ckmAesCbc, ckmAesCbcPad]
    · rw [if_pos hcbc] at h ⊢
      split_ifs at h ⊢
      obtain ⟨-, hfresh, heq⟩ := aesCbcEncrypt_eq_ok (toAbi_eq_ok_iff.mp h)
      exact ⟨hfresh, congrArg Prod.snd heq⟩
    · have hctr := eq_ctr_of_supportsMultipart hparts hcbc
      split_ifs at h ⊢
      obtain ⟨-, hfresh, heq⟩ := aesCtrEncrypt_eq_ok (toAbi_eq_ok_iff.mp h)
      exact ⟨hfresh, congrArg Prod.snd heq⟩
  rw [hcheck.2]
  have hfresh := hcheck.1
  simp only [checkIvReuse] at hfresh ⊢
  split_ifs at hfresh ⊢ with hkeys hseen hmany
  exact ⟨hseen, by simp⟩

variable (hcrates : crates.KeepLengths)
include hcrates

theorem aes256GcmDecrypt_length (h : aes256GcmDecrypt crates key data = .ok output) :
    output.length = data.length - 28 := by
  unfold aes256GcmDecrypt aes256GcmDecryptWithAad at h
  split_ifs at h with hkey hshort
  split at h
  next plaintext hopened =>
    have hlength := hcrates.gcmDecrypt _ _ _ _ _ hopened
    rw [List.length_drop] at hlength
    rw [← Except.ok.inj h]
    omega
  next => cases h

/-- The length that `C_Encrypt` reports is long enough. -/
theorem encryptData_estimate (hoaep : backend.OaepLengths)
    (h : (backend.encryptData crates seed statics mechanism mechanismParam obj key data).1 =
      .ok output) :
    ∃ length, estimatedCiphertextLen mechanism obj data = .ok length ∧ output.length ≤ length := by
  unfold encryptData at h
  unfold estimatedCiphertextLen
  split_ifs at h ⊢ with hgcm hcbc hparam hctr hparam hrsa
  · exact ⟨_, rfl, (aes256GcmEncrypt_length hcrates (toAbi_eq_ok_iff.mp h)).le⟩
  · obtain ⟨rfl, -, -⟩ := aesCbcEncrypt_eq_ok (toAbi_eq_ok_iff.mp h)
    exact ⟨_, rfl, hcrates.cbcEncrypt _ _ _⟩
  · obtain ⟨rfl, -, -⟩ := aesCtrEncrypt_eq_ok (toAbi_eq_ok_iff.mp h)
    exact ⟨_, rfl, (hcrates.ctrKeystream _ _ _).le⟩
  · obtain ⟨modulus, hmodulus, hlength⟩ := oaepEncrypt_length hoaep h
    rw [hmodulus]
    exact ⟨_, rfl, hlength.le.trans (List.dropWhile_suffix _).length_le⟩

/-- The length that `C_Decrypt` reports is long enough. -/
theorem decryptData_estimate (hoaep : backend.OaepLengths)
    (h : backend.decryptData crates mechanism mechanismParam key data = .ok output) :
    ∃ length, estimatedPlaintextLen mechanism data = .ok length ∧ output.length ≤ length := by
  unfold decryptData at h
  unfold estimatedPlaintextLen
  by_cases hgcm : mechanism = ckmAesGcm
  · rw [if_pos hgcm] at h ⊢
    exact ⟨_, rfl, (aes256GcmDecrypt_length hcrates (toAbi_eq_ok_iff.mp h)).le⟩
  rw [if_neg hgcm] at h ⊢
  split_ifs at h with hcbc hparam hctr hparam hrsa
  · have hmem : mechanism ∈ [ckmAesCbc, ckmAesCbcPad, ckmAesCtr, ckmRsaPkcsOaep] :=
      List.mem_append_left [ckmAesCtr, ckmRsaPkcsOaep] hcbc
    rw [if_pos hmem]
    exact ⟨_, rfl, hcrates.cbcDecrypt _ _ _ _ (aesCbcDecrypt_eq_ok (toAbi_eq_ok_iff.mp h))⟩
  · rw [if_pos (by simp [hctr])]
    refine ⟨_, rfl, ?_⟩
    rw [aesCtrDecrypt_eq_ok (toAbi_eq_ok_iff.mp h), hcrates.ctrKeystream]
  · rw [if_pos (by simp [hrsa])]
    obtain ⟨hash, -, h⟩ := bind_eq_ok_iff.mp h
    exact ⟨_, rfl, hoaep.decrypt _ _ _ _ (toAbi_eq_ok_iff.mp h)⟩

end Ciphers

end CryptoBackend

end CratonHsm.Crypto
