import CratonHsm.Crypto.Mechanisms
import CratonHsm.Session.OperationState

/-!
# What `deserialize_state` accepts

A blob of a saved operation is accepted in the session and slot it was made for and nowhere else,
and there it gives back what was saved (`deserializeState_of_blob`). Under the assumption that
nobody but `serialize_state` makes tags (`Unforged`), no other byte string is accepted at all
(`deserializeState_of_not_blob`).

`deserialize_state` reads its input at offsets that it computes from lengths in that input. The
reads are bounded by tests that come before them: `deserializeChecked` is the same function with
every slice and index of the source as a read that may fail, and no read of it fails on any input
(`deserializeChecked_eq`), whatever the tag.

Scope. Session, slot, mechanism and key numbers are `CK_ULONG`s of 64 bits.
-/

set_option autoImplicit false

namespace CratonHsm

open Crypto Library

/-! ### Reads that may fail -/

/-- `bytes[offset..offset + length]`, which panics past the end. -/
def readSlice (bytes : Bytes) (offset length : Nat) : Option Bytes :=
  if offset + length ≤ bytes.length then some (slice bytes offset length) else none

theorem readSlice_eq {bytes : Bytes} {offset length : Nat} (h : offset + length ≤ bytes.length) :
    readSlice bytes offset length = some (slice bytes offset length) := if_pos h

section Checked

variable (hmac : FixedBytes 32 → Bytes → FixedBytes 32) (stateHmacKey : FixedBytes 32)

/-- `parsePayload` with its reads checked. Nothing is `none` but a read out of bounds. -/
def parseChecked (payload : Bytes) : Option (Option SavedOperation) := do
  let code ← payload[20]?
  match OperationType.ofCode code with
  | none => return none
  | some type =>
    let mechanism ← readSlice payload 21 8
    let keyHandle ← readSlice payload 29 8
    let paramLen := ckUlongOfBytes (← readSlice payload 37 4)
    if paramLen > opStateMaxParamLen then return none
    else if payload.length < opStateHeaderLen + paramLen + 4 then return none
    else
      let mechanismParam ← readSlice payload opStateHeaderLen paramLen
      let dataOffset := opStateHeaderLen + paramLen
      let dataLen := ckUlongOfBytes (← readSlice payload dataOffset 4)
      if dataLen > opStateMaxDataLen then return none
      else if payload.length < dataOffset + 4 + dataLen then return none
      else
        let data ← readSlice payload (dataOffset + 4) dataLen
        return some
          ⟨type, ckUlongOfBytes mechanism, ckUlongOfBytes keyHandle, mechanismParam, data⟩

/-- `deserialize_state` with its reads checked. -/
def deserializeChecked (blob : Bytes) (expectedSession expectedSlot : Nat) :
    Option (HsmResult SavedOperation) :=
  if blob.length < opStateHeaderLen + opStateHmacLen then some (.error .dataInvalid)
  else do
    let payload ← readSlice blob 0 (blob.length - opStateHmacLen)
    let providedTag ← readSlice blob (blob.length - opStateHmacLen) opStateHmacLen
    if providedTag ≠ (hmac stateHmacKey payload).1 then return .error .dataInvalid
    else
      let magic ← readSlice payload 0 4
      if magic ≠ opStateMagic then return .error .dataInvalid
      else
        let blobSession ← readSlice payload 4 8
        let blobSlot ← readSlice payload 12 8
        if ckUlongOfBytes blobSession ≠ expectedSession ∨
          ckUlongOfBytes blobSlot ≠ expectedSlot then
          return .error .dataInvalid
        else
          let saved ← parseChecked payload
          return saved.elim (.error .dataInvalid) .ok

/-- On a payload of at least the header's length no read of the parser is out of bounds. -/
theorem parseChecked_eq {payload : Bytes} (h : opStateHeaderLen ≤ payload.length) :
    parseChecked payload = some (parsePayload payload) := by
  have hheader : 41 ≤ payload.length := h
  have hcode : payload[20]? = some (payload.getD 20 0) := by
    rw [List.getD_eq_getElem?_getD, List.getElem?_eq_getElem (by omega), Option.getD_some]
  unfold parseChecked parsePayload
  rw [hcode, readSlice_eq (by omega), readSlice_eq (by omega), readSlice_eq (by omega)]
  simp only [Option.bind_eq_bind, Option.bind_some]
  cases OperationType.ofCode (payload.getD 20 0) with
  | none => rfl
  | some type =>
    simp only [Option.bind_some]
    by_cases hparam : ckUlongOfBytes (slice payload 37 4) > opStateMaxParamLen
    · rw [if_pos hparam, if_pos hparam]
      rfl
    rw [if_neg hparam, if_neg hparam]
    by_cases hshort : payload.length < opStateHeaderLen + ckUlongOfBytes (slice payload 37 4) + 4
    · rw [if_pos hshort, if_pos hshort]
      rfl
    -- what the second test leaves is room for the parameter and for the length after it
    rw [if_neg hshort, if_neg hshort, readSlice_eq (by omega), Option.bind_some,
      readSlice_eq (by omega), Option.bind_some]
    split_ifs with hdata hend
    · rfl
    · rfl
    · rw [readSlice_eq (by omega)]
      rfl

/-- No read of `deserialize_state` is out of bounds, on any input. -/
theorem deserializeChecked_eq (blob : Bytes) (expectedSession expectedSlot : Nat) :
    deserializeChecked hmac stateHmacKey blob expectedSession expectedSlot =
      some (deserializeState hmac stateHmacKey blob expectedSession expectedSlot) := by
  unfold deserializeChecked deserializeState
  by_cases hshort : blob.length < opStateHeaderLen + opStateHmacLen
  · rw [if_pos hshort, if_pos hshort]
  have hlong : 41 + 32 ≤ blob.length := not_lt.mp hshort
  have hpayload : slice blob 0 (blob.length - opStateHmacLen) =
      blob.take (blob.length - opStateHmacLen) := rfl
  have htag : slice blob (blob.length - opStateHmacLen) opStateHmacLen =
      blob.drop (blob.length - opStateHmacLen) := by
    refine List.take_of_length_le ?_
    rw [List.length_drop, opStateHmacLen]
    omega
  have hlength : opStateHeaderLen ≤ (blob.take (blob.length - opStateHmacLen)).length := by
    rw [List.length_take, opStateHeaderLen, opStateHmacLen]
    omega
  have hheader : 41 ≤ (blob.take (blob.length - opStateHmacLen)).length := hlength
  rw [if_neg hshort, if_neg hshort, readSlice_eq (by omega),
    readSlice_eq (by rw [opStateHmacLen]; omega), hpayload, htag]
  generalize blob.take (blob.length - opStateHmacLen) = payload at hlength hheader ⊢
  simp only [Option.bind_eq_bind, Option.bind_some]
  rw [readSlice_eq (by omega), readSlice_eq (by omega), readSlice_eq (by omega),
    parseChecked_eq hlength]
  have hmagic : slice payload 0 4 = payload.take 4 := rfl
  simp only [Option.bind_some, hmagic]
  split_ifs <;> rfl

end Checked

/-! ### Blobs and other byte strings -/

section Acceptance

variable {hmac : FixedBytes 32 → Bytes → FixedBytes 32} {stateHmacKey : FixedBytes 32}
  {operation : ActiveOperation} {session slotId : Nat} {blob payload : Bytes}

/-- The numbers that a blob holds of an operation in a session of a slot are 64-bit integers. -/
structure ActiveOperation.Sized (operation : ActiveOperation) (session slotId : Nat) : Prop where
  session_lt : session < 2 ^ 64
  slotId_lt : slotId < 2 ^ 64
  saved : operation.saved.MachineSized

/-- What precedes the tag of a blob. -/
def blobPayload (blob : Bytes) : Bytes := blob.take (blob.length - opStateHmacLen)

/-- The tag of a blob. -/
def blobTag (blob : Bytes) : Bytes := blob.drop (blob.length - opStateHmacLen)

theorem blobPayload_append (tag : FixedBytes 32) : blobPayload (payload ++ tag.1) = payload := by
  refine List.take_left' ?_
  rw [List.length_append, tag.2, opStateHmacLen, Nat.add_sub_cancel]

/-- A blob tells the session and the slot it was made for. -/
theorem deserializeState_of_blob (hsized : operation.Sized session slotId)
    (h : operation.serializeState hmac stateHmacKey session slotId = .ok blob)
    (session' slotId' : Nat) :
    deserializeState hmac stateHmacKey blob session' slotId' =
      if session' = session ∧ slotId' = slotId then .ok operation.saved
      else .error .dataInvalid := by
  split_ifs with hpair
  · obtain ⟨rfl, rfl⟩ := hpair
    exact deserializeState_serializeState hmac stateHmacKey hsized.session_lt hsized.slotId_lt
      hsized.saved h
  · obtain ⟨payload, hpayload, rfl⟩ := serializeState_eq_ok h
    obtain ⟨-, hsessionBytes, hslotBytes, -⟩ := slices_of_payload hpayload
    have hsession : ckUlongOfBytes (leBytes 8 session) = session :=
      ckUlongOfBytes_leBytes (by have := hsized.session_lt; norm_num at this ⊢; omega)
    have hslot : ckUlongOfBytes (leBytes 8 slotId) = slotId :=
      ckUlongOfBytes_leBytes (by have := hsized.slotId_lt; norm_num at this ⊢; omega)
    have hbinding : session ≠ session' ∨ slotId ≠ slotId' := by
      by_contra! hsame
      exact hpair ⟨hsame.1.symm, hsame.2.symm⟩
    have htaken : (payload ++ (hmac stateHmacKey payload).1).take
        ((payload ++ (hmac stateHmacKey payload).1).length - opStateHmacLen) = payload :=
      blobPayload_append _
    unfold deserializeState
    simp only [htaken, hsessionBytes, hslotBytes, hsession, hslot, if_pos hbinding]
    split_ifs <;> rfl

/-- Tags are not forged: if the tag of the byte string verifies, then `serialize_state` made it, for
exactly what precedes it and with this key. -/
def Unforged (hmac : FixedBytes 32 → Bytes → FixedBytes 32) (stateHmacKey : FixedBytes 32)
    (blob : Bytes) : Prop :=
  blobTag blob = (hmac stateHmacKey (blobPayload blob)).1 →
    ∃ operation session slotId, ActiveOperation.Sized operation session slotId ∧
      operation.saved.payload session slotId = .ok (blobPayload blob)

/-- The byte string is the blob of some operation. -/
def IsBlob (hmac : FixedBytes 32 → Bytes → FixedBytes 32) (stateHmacKey : FixedBytes 32)
    (blob : Bytes) : Prop :=
  ∃ operation session slotId, ActiveOperation.Sized operation session slotId ∧
    operation.serializeState hmac stateHmacKey session slotId = .ok blob

theorem IsBlob.tag_eq (h : IsBlob hmac stateHmacKey blob) :
    blobTag blob = (hmac stateHmacKey (blobPayload blob)).1 := by
  obtain ⟨operation, session, slotId, -, hserialized⟩ := h
  obtain ⟨payload, -, rfl⟩ := serializeState_eq_ok hserialized
  rw [blobPayload_append]
  refine List.drop_left' ?_
  rw [List.length_append, (hmac stateHmacKey payload).2, opStateHmacLen, Nat.add_sub_cancel]

/-- Nothing else is accepted anywhere. -/
theorem deserializeState_of_not_blob (hunforged : Unforged hmac stateHmacKey blob)
    (hother : ¬IsBlob hmac stateHmacKey blob) (session slotId : Nat) :
    deserializeState hmac stateHmacKey blob session slotId = .error .dataInvalid := by
  have htag : blobTag blob ≠ (hmac stateHmacKey (blobPayload blob)).1 := by
    intro htag
    obtain ⟨operation, session, slotId, hsized, hpayload⟩ := hunforged htag
    refine hother ⟨operation, session, slotId, hsized, ?_⟩
    rw [ActiveOperation.serializeState, hpayload]
    have hblob : blobPayload blob ++ blobTag blob = blob := List.take_append_drop _ _
    exact congrArg Except.ok (by rw [← htag, hblob])
  unfold deserializeState
  split_ifs with hshort
  · rfl
  · exact if_pos htag

/-- A byte string is read without leaving its bounds. If it is the blob of an operation, it is
accepted exactly for the session and slot of the operation and gives back what was saved. If it is
no blob and not forged, it is refused. -/
theorem blobs_bound_and_faithful (hmac : FixedBytes 32 → Bytes → FixedBytes 32)
    (stateHmacKey : FixedBytes 32) (blob : Bytes) :
    (∀ session slotId, deserializeChecked hmac stateHmacKey blob session slotId =
        some (deserializeState hmac stateHmacKey blob session slotId)) ∧
      (∀ operation session slotId, ActiveOperation.Sized operation session slotId →
        operation.serializeState hmac stateHmacKey session slotId = .ok blob →
          ∀ session' slotId', deserializeState hmac stateHmacKey blob session' slotId' =
            if session' = session ∧ slotId' = slotId then .ok operation.saved
            else .error .dataInvalid) ∧
      (Unforged hmac stateHmacKey blob → ¬IsBlob hmac stateHmacKey blob →
        ∀ session slotId,
          deserializeState hmac stateHmacKey blob session slotId = .error .dataInvalid) :=
  ⟨deserializeChecked_eq hmac stateHmacKey blob,
    fun _ _ _ hsized h ↦ deserializeState_of_blob hsized h,
    fun hunforged hother ↦ deserializeState_of_not_blob hunforged hother⟩

end Acceptance

/-! ### The blob of a digest -/

/-- A digest of three bytes. -/
def threeBytes : ActiveOperation := .digest ⟨ckmSha256, some ⟨ckmSha256, [1, 2, 3]⟩, [1, 2, 3]⟩

/-- What the tag covers when a session of slot 0 saves it. -/
def threeBytesPayload : Bytes :=
  threeBytes.saved.header 30064771105 0 ++ leBytes 4 0 ++ (leBytes 4 3 ++ [1, 2, 3])

/-- A key of 32 nines and the tag of that payload. -/
def threeBytesHmac (_ : FixedBytes 32) (text : Bytes) : FixedBytes 32 :=
  ⟨beBytes 32 (if text = threeBytesPayload then
    0x2bffb3e0a34fed96f1f3df63b4766469d4a8945256ad89236c8ba897b031ad87 else 0), beBytes_length _ _⟩

/-- The blob is accepted in its session only, and with its last byte of data changed nowhere. -/
theorem threeBytes_bound :
    let key : FixedBytes 32 := ⟨List.replicate 32 9, rfl⟩
    let tag := (threeBytesHmac key threeBytesPayload).1
    (∀ session slotId,
        deserializeState threeBytesHmac key (threeBytesPayload ++ tag) session slotId =
          if session = 30064771105 ∧ slotId = 0 then .ok threeBytes.saved
          else .error .dataInvalid) ∧
      ∀ session slotId, deserializeState threeBytesHmac key
        (threeBytesPayload.dropLast ++ [4] ++ tag) session slotId = .error .dataInvalid := by
  intro key tag
  have hforeign : blobTag (threeBytesPayload.dropLast ++ [4] ++ tag) ≠
      (threeBytesHmac key (blobPayload (threeBytesPayload.dropLast ++ [4] ++ tag))).1 := by
    decide +kernel
  constructor
  · refine (blobs_bound_and_faithful threeBytesHmac key (threeBytesPayload ++ tag)).2.1 threeBytes
      30064771105 0 ⟨by decide, by decide, ⟨by decide, by decide⟩⟩ ?_
    decide +kernel
  · refine (blobs_bound_and_faithful threeBytesHmac key _).2.2 ?_ ?_
    · exact fun htag ↦ absurd htag hforeign
    · exact fun hblob ↦ hforeign hblob.tag_eq

end CratonHsm
