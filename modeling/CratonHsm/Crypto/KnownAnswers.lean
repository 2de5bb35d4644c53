import CratonHsm.Crypto.Crates

/-!
# Primitives from known answers

The primitives of `Crates`, given by a table of recorded answers. On the inputs of the table they
answer as recorded, and elsewhere in some way that still has the documented behaviour: decryption
undoes encryption (`KnownAnswers.gcmInverts`), encryption does not fail (`KnownAnswers.gcmTotal`),
and two PINs are told apart under every salt or under none (`KnownAnswers.pbkdf2Uniform`).

A ciphertext of the table opens under its own key and nonce only. In `KnownAnswers.authentic` that
holds of every ciphertext: one that is not recorded begins with its key and nonce.
-/

set_option autoImplicit false

namespace CratonHsm.Crypto

open Library

/-- A recorded AES-GCM encryption. -/
structure GcmAnswer where
  key : Bytes
  nonce : Bytes
  plaintext : Bytes
  aad : Bytes
  ciphertext : Bytes
  deriving DecidableEq

/-- The part of a recorded encryption that encryption is given. -/
def GcmAnswer.sealInput (answer : GcmAnswer) : Bytes × Bytes × Bytes × Bytes :=
  (answer.key, answer.nonce, answer.plaintext, answer.aad)

/-- The part of a recorded encryption that decryption is given. -/
def GcmAnswer.openInput (answer : GcmAnswer) : Bytes × Bytes × Bytes × Bytes :=
  (answer.key, answer.nonce, answer.ciphertext, answer.aad)

/-- The tag of an encryption that is not recorded. -/
def blankTag : Bytes := List.replicate 16 0

/-- PBKDF2 outputs of `pins` under `salts`, row by row, and AES-GCM encryptions. Recorded outputs of
two PINs under one salt differ, and no recorded ciphertext looks like one that is not recorded. -/
structure KnownAnswers where
  pins : List Bytes
  salts : List Bytes
  derived : List (List Nat)
  gcm : List GcmAnswer
  derived_separate : ∀ j ≤ salts.length, ∀ i ≤ pins.length, ∀ i' ≤ pins.length,
    (derived.getD i []).getD j i = (derived.getD i' []).getD j i' → i = i'
  derived_bound : ∀ i ≤ pins.length, ∀ j ≤ salts.length,
    (derived.getD i []).getD j i < 256 ^ 32
  gcm_opens : ∀ a ∈ gcm, ∀ b ∈ gcm, a.openInput = b.openInput → a = b
  gcm_tagged : ∀ a ∈ gcm, ¬ blankTag <:+ a.ciphertext

namespace KnownAnswers

variable (answers : KnownAnswers)

/-- The PBKDF2 output as a number: a PIN that is not recorded counts as the one after the last, and
outside the table the output is the position of the PIN. -/
def deriveNumber (pin salt : Bytes) : Nat :=
  (answers.derived.getD (answers.pins.idxOf pin) []).getD (answers.salts.idxOf salt)
    (answers.pins.idxOf pin)

/-- The primitives that answer from the table. -/
def crates : Crates where
  sha256 text := text
  gcmEncrypt key nonce plaintext aad :=
    match answers.gcm.find? fun a ↦ a.sealInput = (key, nonce, plaintext, aad) with
    | some a => some a.ciphertext
    | none => some (plaintext ++ blankTag)
  gcmDecrypt key nonce ciphertext aad :=
    match answers.gcm.find? fun a ↦ a.openInput = (key, nonce, ciphertext, aad) with
    | some a => some a.plaintext
    | none =>
      if blankTag <:+ ciphertext then some (ciphertext.take (ciphertext.length - blankTag.length))
      else none
  cbcEncrypt _ _ plaintext := plaintext
  cbcDecrypt _ _ ciphertext := some ciphertext
  ctrKeystream _ _ text := text
  pbkdf2 pin salt _ := ⟨beBytes 32 (answers.deriveNumber pin salt), beBytes_length _ _⟩

theorem gcmEncrypt_isSome (key nonce plaintext aad : Bytes) :
    (answers.crates.gcmEncrypt key nonce plaintext aad).isSome := by
  simp only [crates]
  split <;> rfl

theorem gcmTotal : answers.crates.GcmTotal :=
  fun key nonce plaintext aad _ _ _ ↦ answers.gcmEncrypt_isSome key nonce plaintext aad

theorem gcmInverts : answers.crates.GcmInverts := by
  intro key nonce plaintext aad ciphertext h
  simp only [crates] at h ⊢
  cases hseal : answers.gcm.find? fun a ↦ a.sealInput = (key, nonce, plaintext, aad) with
  | some a =>
    simp only [hseal, Option.some.injEq] at h
    have ha : a ∈ answers.gcm := List.mem_of_find?_eq_some hseal
    have hinput : a.sealInput = (key, nonce, plaintext, aad) := by
      simpa using List.find?_some hseal
    have hopen : a.openInput = (key, nonce, ciphertext, aad) := by
      simp only [GcmAnswer.sealInput, Prod.mk.injEq] at hinput
      simp [GcmAnswer.openInput, hinput, h]
    cases hfind : answers.gcm.find? fun b ↦ b.openInput = (key, nonce, ciphertext, aad) with
    | none => exact absurd (by simpa using hopen) (List.find?_eq_none.mp hfind a ha)
    | some b =>
      have hb : b.openInput = (key, nonce, ciphertext, aad) := by
        simpa using List.find?_some hfind
      have hab := answers.gcm_opens a ha b (List.mem_of_find?_eq_some hfind) (hopen.trans hb.symm)
      simp only [GcmAnswer.sealInput, Prod.mk.injEq] at hinput
      simp [← hab, hinput]
  | none =>
    simp only [hseal, Option.some.injEq] at h
    cases hfind : answers.gcm.find? fun b ↦ b.openInput = (key, nonce, ciphertext, aad) with
    | some b =>
      have hb : b.openInput = (key, nonce, ciphertext, aad) := by
        simpa using List.find?_some hfind
      simp only [GcmAnswer.openInput, Prod.mk.injEq] at hb
      refine absurd ?_ (answers.gcm_tagged b (List.mem_of_find?_eq_some hfind))
      exact ⟨plaintext, h.trans hb.2.2.1.symm⟩
    | none =>
      subst h
      simp [List.suffix_append]

theorem pbkdf2Uniform : answers.crates.Pbkdf2Uniform := by
  intro pin pin' salt salt' iterations h
  have hpin : answers.pins.idxOf pin ≤ answers.pins.length := List.idxOf_le_length
  have hpin' : answers.pins.idxOf pin' ≤ answers.pins.length := List.idxOf_le_length
  have hsalt : answers.salts.idxOf salt ≤ answers.salts.length := List.idxOf_le_length
  simp only [crates, Subtype.mk.injEq] at h ⊢
  have hnumber : answers.deriveNumber pin salt = answers.deriveNumber pin' salt :=
    beBytes_injective (answers.derived_bound _ hpin _ hsalt) (answers.derived_bound _ hpin' _ hsalt)
      h
  have hposition : answers.pins.idxOf pin = answers.pins.idxOf pin' :=
    answers.derived_separate _ hsalt _ hpin _ hpin' hnumber
  simp only [deriveNumber, hposition]

theorem keepLengths (h : ∀ a ∈ answers.gcm, a.ciphertext.length = a.plaintext.length + 16) :
    answers.crates.KeepLengths where
  cbcEncrypt _ _ _ := Nat.le_add_right _ _
  cbcDecrypt _ _ ciphertext plaintext hplain := (congrArg List.length (Option.some.inj hplain)).ge
  ctrKeystream _ _ _ := rfl
  gcmEncrypt key nonce plaintext aad ciphertext hsealed := by
    simp only [crates] at hsealed
    split at hsealed
    next a hfind =>
      have hinput : a.sealInput = (key, nonce, plaintext, aad) := by
        simpa using List.find?_some hfind
      simp only [GcmAnswer.sealInput, Prod.mk.injEq] at hinput
      rw [← Option.some.inj hsealed, h a (List.mem_of_find?_eq_some hfind), hinput.2.2.1]
    next => simp [← Option.some.inj hsealed, blankTag]
  gcmDecrypt key nonce ciphertext aad plaintext hopened := by
    simp only [crates] at hopened
    split at hopened
    next a hfind =>
      have hinput : a.openInput = (key, nonce, ciphertext, aad) := by
        simpa using List.find?_some hfind
      simp only [GcmAnswer.openInput, Prod.mk.injEq] at hinput
      rw [← Option.some.inj hopened, ← hinput.2.2.1, h a (List.mem_of_find?_eq_some hfind)]
    next =>
      split_ifs at hopened with htag
      obtain ⟨text, rfl⟩ := htag
      rw [← Option.some.inj hopened]
      simp [blankTag]

end KnownAnswers

/-! ### Authentic encryption -/

/-- A text that shows where it ends: a one before every byte and a zero at the end. -/
def frame : Bytes → Bytes
  | [] => [0]
  | byte :: rest => 1 :: byte :: frame rest

theorem frame_append_inj {a b rest rest' : Bytes} (h : frame a ++ rest = frame b ++ rest') :
    a = b ∧ rest = rest' := by
  induction a generalizing b with
  | nil => cases b <;> simp_all [frame]
  | cons byte a ih =>
    cases b with
    | nil => simp [frame] at h
    | cons byte' b =>
      simp only [frame, List.cons_append, List.cons.injEq, true_and] at h
      obtain ⟨rfl, hrest⟩ := ih h.2
      exact ⟨by rw [h.1], hrest⟩

/-- What a ciphertext that is not recorded begins with. -/
def sealHeader (key nonce aad : Bytes) : Bytes := frame key ++ frame nonce ++ frame aad

theorem sealHeader_append_inj {key nonce aad key' nonce' aad' rest rest' : Bytes}
    (h : sealHeader key nonce aad ++ rest = sealHeader key' nonce' aad' ++ rest') :
    key' = key ∧ nonce' = nonce := by
  simp only [sealHeader, List.append_assoc] at h
  obtain ⟨hkey, h⟩ := frame_append_inj h
  exact ⟨hkey.symm, (frame_append_inj h).1.symm⟩

/-- The first byte of a ciphertext that is not recorded. -/
def isMark (ciphertext : Bytes) : Bool := ciphertext.head? = some 0 ∨ ciphertext.head? = some 1

theorem isMark_sealHeader (key nonce aad rest : Bytes) :
    isMark (sealHeader key nonce aad ++ rest) := by
  cases key <;> simp [sealHeader, frame, isMark]

namespace KnownAnswers

variable (answers : KnownAnswers)

/-- Recorded ciphertexts differ from each other and from those that are not recorded. -/
structure Marked : Prop where
  separate : ∀ a ∈ answers.gcm, ∀ b ∈ answers.gcm, a.ciphertext = b.ciphertext → a = b
  unmarked : ∀ a ∈ answers.gcm, ¬ isMark a.ciphertext

/-- The primitives that answer from the table, and elsewhere with ciphertexts that show their key
and nonce. -/
def authentic : Crates :=
  { answers.crates with
    gcmEncrypt := fun key nonce plaintext aad ↦
      match answers.gcm.find? fun a ↦ a.sealInput = (key, nonce, plaintext, aad) with
      | some a => some a.ciphertext
      | none => some (sealHeader key nonce aad ++ plaintext)
    gcmDecrypt := fun key nonce ciphertext aad ↦
      match answers.gcm.find? fun a ↦ a.openInput = (key, nonce, ciphertext, aad) with
      | some a => some a.plaintext
      | none =>
        if sealHeader key nonce aad <+: ciphertext then
          some (ciphertext.drop (sealHeader key nonce aad).length)
        else none }

variable {answers} {key nonce plaintext aad ciphertext : Bytes}

theorem authentic_gcmEncrypt
    (h : answers.authentic.gcmEncrypt key nonce plaintext aad = some ciphertext) :
    ⟨key, nonce, plaintext, aad, ciphertext⟩ ∈ answers.gcm ∨
      ciphertext = sealHeader key nonce aad ++ plaintext := by
  simp only [authentic] at h
  split at h
  next a hfind =>
    have hinput := List.find?_some hfind
    simp only [GcmAnswer.sealInput, decide_eq_true_eq, Prod.mk.injEq] at hinput
    obtain ⟨rfl, rfl, rfl, rfl⟩ := hinput
    obtain rfl := Option.some.inj h
    exact .inl (List.mem_of_find?_eq_some hfind)
  next => exact .inr (Option.some.inj h).symm

theorem authentic_gcmDecrypt
    (h : answers.authentic.gcmDecrypt key nonce ciphertext aad = some plaintext) :
    ⟨key, nonce, plaintext, aad, ciphertext⟩ ∈ answers.gcm ∨
      ciphertext = sealHeader key nonce aad ++ plaintext := by
  simp only [authentic] at h
  split at h
  next a hfind =>
    have hinput := List.find?_some hfind
    simp only [GcmAnswer.openInput, decide_eq_true_eq, Prod.mk.injEq] at hinput
    obtain ⟨rfl, rfl, rfl, rfl⟩ := hinput
    obtain rfl := Option.some.inj h
    exact .inl (List.mem_of_find?_eq_some hfind)
  next =>
    split_ifs at h with hheader
    obtain ⟨rest, rfl⟩ := hheader
    simp only [List.drop_left, Option.some.injEq] at h
    exact .inr (by rw [h])

theorem authentic_gcmAuthentic (hmarked : answers.Marked) : answers.authentic.GcmAuthentic := by
  intro key nonce plaintext aad ciphertext key' nonce' aad' opened hseal hopen
  obtain hseal | rfl := authentic_gcmEncrypt hseal
  · obtain hopen | rfl := authentic_gcmDecrypt hopen
    · have hsame := hmarked.separate _ hopen _ hseal rfl
      simp only [GcmAnswer.mk.injEq] at hsame
      exact ⟨hsame.1, hsame.2.1⟩
    · exact absurd (isMark_sealHeader _ _ _ _) (hmarked.unmarked _ hseal)
  · obtain hopen | hsame := authentic_gcmDecrypt hopen
    · exact absurd (isMark_sealHeader _ _ _ _) (hmarked.unmarked _ hopen)
    · exact sealHeader_append_inj hsame

theorem authentic_gcmInverts (hmarked : answers.Marked) : answers.authentic.GcmInverts := by
  intro key nonce plaintext aad ciphertext hseal
  simp only [authentic]
  split
  next b hfind =>
    have hb := List.mem_of_find?_eq_some hfind
    have hinput := List.find?_some hfind
    simp only [GcmAnswer.openInput, decide_eq_true_eq, Prod.mk.injEq] at hinput
    obtain hseal | rfl := authentic_gcmEncrypt hseal
    · rw [hmarked.separate _ hb _ hseal hinput.2.2.1]
    · exact absurd (hinput.2.2.1 ▸ isMark_sealHeader _ _ _ _) (hmarked.unmarked _ hb)
  next hnone =>
    obtain hseal | rfl := authentic_gcmEncrypt hseal
    · exact absurd (by simp [GcmAnswer.openInput]) (List.find?_eq_none.mp hnone _ hseal)
    · simp

end KnownAnswers

/-- The primitives with the keystream of the counter mode recorded for one key and one
initialisation vector. -/
def Crates.withKeystream (crates : Crates) (key iv stream : Bytes) : Crates :=
  { crates with
    ctrKeystream := fun key' iv' text ↦
      if key' = key ∧ iv' = iv then text.mapIdx fun i byte ↦ byte ^^^ stream.getD i 0 else text }

/-! ### PINs and an object master key -/

/-- The PIN `SoPin1`. -/
def soPin1 : Bytes := [0x53, 0x6F, 0x50, 0x69, 0x6E, 0x31]

/-- The PIN `User01`. -/
def user01 : Bytes := [0x55, 0x73, 0x65, 0x72, 0x30, 0x31]

/-- The PIN `User02`. -/
def user02 : Bytes := [0x55, 0x73, 0x65, 0x72, 0x30, 0x32]

/-- The PIN `Guess9`. -/
def guess9 : Bytes := [0x47, 0x75, 0x65, 0x73, 0x73, 0x39]

/-- A salt of PIN hashes. -/
def pinSaltOnes : FixedBytes 32 := ⟨List.replicate 32 0x11, by decide⟩

/-- A salt of key-encryption keys. -/
def keySaltTwos : FixedBytes 32 := ⟨List.replicate 32 0x22, by decide⟩

/-- An object master key. -/
def omkThrees : FixedBytes 32 := ⟨List.replicate 32 0x33, by decide⟩

/-- A nonce for wrapping it. -/
def nonceFours : FixedBytes 12 := ⟨List.replicate 12 0x44, by decide⟩

/-- PBKDF2-HMAC-SHA256 with 100000 iterations of the four PINs under the two salts, and AES-256-GCM
of the object master key under the key-encryption keys of the two user PINs. -/
def pinAnswers : KnownAnswers where
  pins := [soPin1, user01, user02, guess9]
  salts := [pinSaltOnes.1, keySaltTwos.1]
  derived := [
    [0xa53f0fc786ca1a9e8a3c01599026b75e558fb961e2f0514e1a9eb9d9b069582c,
      0x00b0772248594e4b2206b3f06772b05b14b258292712206bb9f64945466f544c],
    [0xccde9e9aab07883809e5709f7f6398ce982428da487e1cce5513c0c70e9c8038,
      0x7a71267b158528af89ae3ea8143d12b6c6f527450237869565948ac6ffc8028a],
    [0x5b422084bc2a54385c9f4d1d47bd9979a2d1539a8d801392d96824d08150e29f,
      0xa98812715a731a880b44dc702c7a07e62a3f4903ccc093cc43a764523ce937b7],
    [0xc72ca902ff32c3c485db5681d2e4e7f7ed507eb7deef4cf450127a9530aa8f89,
      0x5b36170284bf21306789f6bcf165720f1045f74a71cad7c71906495453f054c1]]
  gcm := [
    ⟨beBytes 32 0x7a71267b158528af89ae3ea8143d12b6c6f527450237869565948ac6ffc8028a, nonceFours.1,
      omkThrees.1, [],
      beBytes 32 0x834417d80c9fd3e3f2de2cc147e5b4574446d0ceb1bf2c5c36bb9dbf4d8c454a ++
        beBytes 16 0x16fa869eb3b0f77aa0dec91f86c480b7⟩,
    ⟨beBytes 32 0xa98812715a731a880b44dc702c7a07e62a3f4903ccc093cc43a764523ce937b7, nonceFours.1,
      omkThrees.1, [],
      beBytes 32 0xa1e95ee94098b46a6e03a789e527ada0aeddc155146097962bc975bf683e58f2 ++
        beBytes 16 0x208e5e29de810a430b7c5095250a30b0⟩]
  derived_separate := by decide +kernel
  derived_bound := by decide +kernel
  gcm_opens := by decide +kernel
  gcm_tagged := by decide +kernel

theorem pinAnswers_marked : pinAnswers.Marked where
  separate := by decide +kernel
  unmarked := by decide +kernel

end CratonHsm.Crypto
