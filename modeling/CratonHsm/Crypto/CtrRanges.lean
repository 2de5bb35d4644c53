import CratonHsm.Crypto.Encrypt
import CratonHsm.Crypto.KnownAnswers
import CratonHsm.Library.StepSystem

/-!
# The counter blocks of AES-CTR

An AES-CTR encryption combines its text with the keystream of consecutive counter blocks, from its
initialisation vector on and modulo `2 ^ 128`. Two texts of one key that use a counter block in
common are a two-time pad, which `check_iv_reuse` is there to prevent. It compares initialisation
vectors only, and its record is cleared when the library is initialised again.

Two things therefore fail (`keystream_reused`): two vectors a few blocks apart are both accepted,
and the same vector is accepted twice around a `C_Initialize`. Where the vectors of a key are spaced
by a divisor of `2 ^ 128` that no text exceeds, and the record of the key is not lost, no counter
block is used twice (`accepted_apart`).
-/

set_option autoImplicit false

namespace CratonHsm.Crypto.CtrRanges

open Library Crypto.Encrypt

/-! ### Ranges of counter blocks -/

/-- What an encryption uses of the keystream: from which initialisation vector, for how many
bytes. -/
structure Text where
  iv : Bytes
  length : Nat
  deriving DecidableEq

def Text.blocks (text : Text) : Nat := (text.length + 15) / 16

/-- The counter block for the block `i` of a text. -/
def Text.counterBlock (text : Text) (i : Nat) : Nat := (beNat text.iv + i) % 2 ^ 128

/-- No counter block is used by both texts. -/
def Apart (text other : Text) : Prop :=
  ∀ i < text.blocks, ∀ j < other.blocks, text.counterBlock i ≠ other.counterBlock j

instance : DecidableRel Apart := fun _ _ ↦ inferInstanceAs (Decidable (∀ _ < _, ∀ _ < _, _))

/-- The initialisation vector is at a multiple of the stride from the offset, and the text is not
longer than the stride. -/
structure Spaced (stride offset : Nat) (text : Text) : Prop where
  iv_length : text.iv.length = 16
  offset_eq : beNat text.iv % stride = offset
  length_le : text.length ≤ 16 * stride

theorem Spaced.apart {stride offset : Nat} (hstride : stride ∣ 2 ^ 128) {text other : Text}
    (h : Spaced stride offset text) (hother : Spaced stride offset other)
    (hne : text.iv ≠ other.iv) : Apart text other := by
  intro i hi j hj heq
  obtain ⟨strides, htotal⟩ := hstride
  have hblocks : text.blocks ≤ stride ∧ other.blocks ≤ stride := by
    have := h.length_le
    have := hother.length_le
    unfold Text.blocks
    omega
  -- without the offset, the blocks of a text are those of one stride, which does not wrap around
  have hwithin (text : Text) (h : Spaced stride offset text) {i : Nat} (hi : i < stride) :
      stride * (beNat text.iv / stride) + i < 2 ^ 128 := by
    have hlt := beNat_lt text.iv
    rw [h.iv_length, show 256 ^ 16 = 2 ^ 128 by norm_num, htotal] at hlt
    rw [htotal]
    have hquotient := Nat.div_lt_of_lt_mul hlt
    calc stride * (beNat text.iv / stride) + i < stride * (beNat text.iv / stride + 1) := by
          rw [Nat.mul_add, Nat.mul_one]; omega
      _ ≤ stride * strides := Nat.mul_le_mul_left _ hquotient
  have hsplit (text : Text) (h : Spaced stride offset text) :
      beNat text.iv = stride * (beNat text.iv / stride) + offset := by
    rw [← h.offset_eq, Nat.div_add_mod]
  have hmod : stride * (beNat text.iv / stride) + i ≡ stride * (beNat other.iv / stride) + j
      [MOD 2 ^ 128] := by
    refine Nat.ModEq.add_right_cancel' offset ?_
    have hblock : beNat text.iv + i ≡ beNat other.iv + j [MOD 2 ^ 128] := heq
    rw [hsplit text h, hsplit other hother] at hblock
    simpa only [Nat.add_right_comm _ offset] using hblock
  have hsame := Nat.ModEq.eq_of_lt_of_lt hmod (hwithin text h (by omega))
    (hwithin other hother (by omega))
  have hstrides : beNat text.iv / stride = beNat other.iv / stride := by
    have hpos : 0 < stride := by omega
    have hleft := congrArg (· / stride) hsame
    simpa [Nat.mul_add_div hpos, Nat.div_eq_of_lt (hi.trans_le hblocks.1),
      Nat.div_eq_of_lt (hj.trans_le hblocks.2)] using hleft
  refine hne (beNat_injective (h.iv_length.trans hother.iv_length.symm) ?_)
  rw [hsplit text h, hsplit other hother, hstrides]

/-! ### Runs -/

/-- What changes the record of initialisation vectors: the encryptions in CTR and CBC mode,
`C_Initialize`, `C_InitToken` of any slot, and `C_DestroyObject` of a key with the given value. -/
inductive Event where
  | encryptCtr (key iv plaintext : Bytes)
  | encryptCbc (key iv plaintext : Bytes)
  | cInitialize
  | cInitToken
  | destroy (key : Bytes)

/-- The tables, and the accepted AES-CTR encryptions of one key. -/
structure State where
  statics : CipherStatics
  texts : List Text

section Step

variable (crates : Crates) (key : Bytes)

def State.step (s : State) : Event → State
  | .encryptCtr other iv plaintext =>
    match aesCtrEncrypt crates s.statics other iv plaintext with
    | (.ok _, statics) =>
      ⟨statics, if other = key then s.texts ++ [⟨iv, plaintext.length⟩] else s.texts⟩
    | (.error _, statics) => { s with statics := statics }
  | .encryptCbc other iv plaintext =>
    { s with statics := (aesCbcEncrypt crates s.statics other iv plaintext).2 }
  | .cInitialize => { s with statics := resetGcmCounters s.statics }
  | .cInitToken => { s with statics := forceResetAllCounters s.statics }
  | .destroy other => { s with statics := removeGcmCounter crates s.statics other }

/-- The initialisation vectors on record under a key identifier. -/
def recorded (statics : CipherStatics) (kid : Bytes) : List Bytes := statics.ivTracker[kid]?.getD []

/-- The encryptions of the key are spaced, and its record is not lost. -/
def Careful (stride offset : Nat) (s : State) : Event → Prop
  | .encryptCtr other iv plaintext =>
    other = key → beNat iv % stride = offset ∧ plaintext.length ≤ 16 * stride
  | .encryptCbc _ _ _ => True
  | .cInitialize | .cInitToken => recorded s.statics (crates.sha256 key) = []
  | .destroy other =>
    crates.sha256 other = crates.sha256 key → recorded s.statics (crates.sha256 key) = []

/-- The accepted encryptions of the key have different initialisation vectors, all on record. -/
structure Recorded (stride offset : Nat) (s : State) : Prop where
  spaced : ∀ text ∈ s.texts, Spaced stride offset text
  recorded : ∀ text ∈ s.texts, text.iv ∈ recorded s.statics (crates.sha256 key)
  distinct : s.texts.Pairwise (·.iv ≠ ·.iv)

end Step

variable (crates : Crates)

/-- A check forgets no initialisation vector, and one that passes records a new one. -/
theorem checkIvReuse_records (statics : CipherStatics) (other iv : Bytes) :
    (∀ kid, recorded statics kid ⊆ recorded (checkIvReuse crates statics other iv).2 kid) ∧
      ((checkIvReuse crates statics other iv).1 = .ok () →
        iv ∉ recorded statics (crates.sha256 other) ∧
          iv ∈ recorded (checkIvReuse crates statics other iv).2 (crates.sha256 other)) := by
  simp only [checkIvReuse]
  split_ifs with hkeys hused hfull
  · exact ⟨fun _ ↦ List.Subset.refl _, nofun⟩
  · exact ⟨fun _ ↦ List.Subset.refl _, nofun⟩
  · exact ⟨fun _ ↦ List.Subset.refl _, nofun⟩
  · refine ⟨fun kid ↦ ?_, fun _ ↦ ⟨hused, by simp [recorded]⟩⟩
    simp only [recorded, getElem?_insert_eq_ite]
    split_ifs with hkid
    · subst hkid
      exact List.subset_cons_self _ _
    · exact List.Subset.refl _

theorem aesCbcEncrypt_statics (statics : CipherStatics) (other iv plaintext : Bytes) :
    (aesCbcEncrypt crates statics other iv plaintext).2 = statics ∨
      (aesCbcEncrypt crates statics other iv plaintext).2 =
        (checkIvReuse crates statics other iv).2 := by
  unfold aesCbcEncrypt
  rcases checkIvReuse crates statics other iv with ⟨e | ⟨⟩, statics'⟩ <;> split_ifs <;> simp

theorem aesCtrEncrypt_cases (statics : CipherStatics) (other iv plaintext : Bytes) :
    (∃ e, aesCtrEncrypt crates statics other iv plaintext = (.error e, statics)) ∨
      (∃ e, aesCtrEncrypt crates statics other iv plaintext =
        (.error e, (checkIvReuse crates statics other iv).2)) ∨
      ∃ output, aesCtrEncrypt crates statics other iv plaintext =
          (.ok output, (checkIvReuse crates statics other iv).2) ∧
        (checkIvReuse crates statics other iv).1 = .ok () ∧ iv.length = 16 := by
  unfold aesCtrEncrypt
  cases hvalid : aesCtrValidate other iv plaintext with
  | error e => exact .inl ⟨e, rfl⟩
  | ok u =>
    have hlength : iv.length = 16 := by
      unfold aesCtrValidate at hvalid
      split_ifs at hvalid with _ hlength
      exact not_not.mp hlength
    rcases hcheck : checkIvReuse crates statics other iv with ⟨e | ⟨⟩, statics'⟩
    · exact .inr (.inl ⟨e, rfl⟩)
    · exact .inr (.inr ⟨_, rfl, rfl, hlength⟩)

variable {crates} {key : Bytes}

theorem Recorded.of_subset {stride offset : Nat} {s : State}
    (h : Recorded crates key stride offset s) {statics : CipherStatics}
    (hkept : CtrRanges.recorded s.statics (crates.sha256 key) ⊆
      CtrRanges.recorded statics (crates.sha256 key)) :
    Recorded crates key stride offset { s with statics := statics } :=
  ⟨h.spaced, fun text htext ↦ hkept (h.recorded text htext), h.distinct⟩

theorem Recorded.step {stride offset : Nat} {s : State} (h : Recorded crates key stride offset s)
    (event : Event) (hcareful : Careful crates key stride offset s event) :
    Recorded crates key stride offset (s.step crates key event) := by
  -- an event that clears the record comes before the first encryption
  have hnone (hrecord : CtrRanges.recorded s.statics (crates.sha256 key) = []) : ∀ statics,
      Recorded crates key stride offset { s with statics := statics } := fun _ ↦
    h.of_subset (by rw [hrecord]; exact List.nil_subset _)
  cases event with
  | encryptCtr other iv plaintext =>
    obtain ⟨hkept, hnew⟩ := checkIvReuse_records crates s.statics other iv
    obtain ⟨e, heq⟩ | ⟨e, heq⟩ | ⟨output, heq, hok, hlength⟩ :=
      aesCtrEncrypt_cases crates s.statics other iv plaintext <;>
      simp only [State.step, heq]
    · exact h
    · exact h.of_subset (hkept _)
    · split_ifs with hkey
      · subst hkey
        obtain ⟨hfresh, hnow⟩ := hnew hok
        have hspaced := hcareful rfl
        refine ⟨?_, ?_, ?_⟩
        · simpa [or_imp, forall_and] using ⟨h.spaced, hlength, hspaced.1, hspaced.2⟩
        · simp only [List.mem_append, List.mem_singleton]
          rintro text (htext | rfl)
          · exact hkept _ (h.recorded text htext)
          · exact hnow
        · refine List.pairwise_append.mpr ⟨h.distinct, List.pairwise_singleton _ _, ?_⟩
          intro text htext new hmem
          rw [List.mem_singleton.mp hmem]
          rintro rfl
          exact hfresh (h.recorded text htext)
      · exact h.of_subset (hkept _)
  | encryptCbc other iv plaintext =>
    obtain heq | heq := aesCbcEncrypt_statics crates s.statics other iv plaintext <;>
      simp only [State.step, heq]
    · exact h
    · exact h.of_subset ((checkIvReuse_records crates s.statics other iv).1 _)
  | cInitialize => exact hnone hcareful _
  | cInitToken => exact hnone hcareful _
  | destroy other =>
    by_cases hsame : crates.sha256 other = crates.sha256 key
    · exact hnone (hcareful hsame) _
    · refine h.of_subset ?_
      simp [CtrRanges.recorded, removeGcmCounter, removePrefix, removeCounter, gcmKeyId,
        getElem?_erase_eq_ite, hsame]

variable (crates) in
/-- In every run that begins without accepted encryptions and in which the encryptions of the key
are spaced and its record is not lost, no two accepted encryptions use a counter block in common. -/
theorem accepted_apart (key : Bytes) (stride offset : Nat) (hstride : stride ∣ 2 ^ 128)
    (statics : CipherStatics) (events : List Event)
    (hcareful : FoldMeets (State.step crates key) (Careful crates key stride offset)
      ⟨statics, []⟩ events) :
    (events.foldl (State.step crates key) ⟨statics, []⟩).texts.Pairwise Apart := by
  have hstart : Recorded crates key stride offset ⟨statics, []⟩ := ⟨by simp, by simp, .nil⟩
  have hend := foldl_invariant (fun s event h hevent ↦ h.step event hevent) events _ hstart hcareful
  exact hend.distinct.imp_of_mem fun htext hother hne ↦
    (hend.spaced _ htext).apart hstride (hend.spaced _ hother) hne

/-- The value of a key and initialisation vectors near one another. -/
def sampleKey : Bytes := List.replicate 16 7

def sampleIv (block : Nat) : Bytes := beBytes 16 block

/-- Two texts of at most 32 bytes, at even counter blocks, after the library was initialised. -/
def spacedRun : List Event :=
  [.cInitialize, .encryptCtr sampleKey (sampleIv 2) (List.replicate 32 0),
    .encryptCtr sampleKey (sampleIv 4) (List.replicate 20 0)]

/-- Both texts are encrypted, and no block of the keystream is used for both. -/
theorem spacedRun_apart :
    let texts := (spacedRun.foldl (State.step pinAnswers.crates sampleKey) ⟨.empty, []⟩).texts
    texts = [⟨sampleIv 2, 32⟩, ⟨sampleIv 4, 20⟩] ∧ texts.Pairwise Apart := by
  refine ⟨by decide +kernel,
    accepted_apart pinAnswers.crates sampleKey 2 0 (by norm_num) .empty spacedRun ?_⟩
  exact ⟨by simp [Careful, recorded, CipherStatics.empty], fun _ ↦ by decide +kernel,
    fun _ ↦ by decide +kernel, trivial⟩

/-- Of two texts of 32 bytes one block apart, the second block of the first is the first block of
the second; and around a `C_Initialize` the same initialisation vector is accepted twice. -/
theorem keystream_reused :
    (∃ text other, ([.encryptCtr sampleKey (sampleIv 1) (List.replicate 32 0),
        .encryptCtr sampleKey (sampleIv 2) (List.replicate 32 0)].foldl
          (State.step pinAnswers.crates sampleKey) ⟨.empty, []⟩).texts = [text, other] ∧
      text.counterBlock 1 = other.counterBlock 0 ∧ ¬ Apart text other) ∧
    (∃ text, ([.encryptCtr sampleKey (sampleIv 1) (List.replicate 32 0), .cInitialize,
        .encryptCtr sampleKey (sampleIv 1) (List.replicate 32 0)].foldl
          (State.step pinAnswers.crates sampleKey) ⟨.empty, []⟩).texts = [text, text] ∧
      ¬ Apart text text) :=
  ⟨⟨⟨sampleIv 1, 32⟩, ⟨sampleIv 2, 32⟩, by decide +kernel, by decide +kernel, by decide +kernel⟩,
    ⟨sampleIv 1, 32⟩, by decide +kernel, by decide +kernel⟩

end CratonHsm.Crypto.CtrRanges
