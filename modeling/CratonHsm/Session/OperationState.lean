import CratonHsm.Session.Session

/-!
# Saved operation states

`serialize_state` and `deserialize_state` of `session/session.rs`: the blob in which an active
operation is handed to the caller. It binds the operation to its session and slot and ends with an
HMAC-SHA-256 tag over everything before. The running hash of an operation is not part of it.

What is read back from a blob is what was saved (`deserializeState_serializeState`), as long as its
numbers are machine integers.
-/

set_option autoImplicit false

namespace CratonHsm

open Library

/-! ### The format -/

/-- The `OP_TYPE_*` constants. -/
inductive OperationType where
  | encrypt
  | decrypt
  | sign
  | verify
  | digest
  deriving DecidableEq

/-- The byte of an operation type. -/
def OperationType.code : OperationType → UInt8
  | .encrypt => 0
  | .decrypt => 1
  | .sign => 2
  | .verify => 3
  | .digest => 4

/-- The operation type of a byte. -/
def OperationType.ofCode (code : UInt8) : Option OperationType :=
  if code = 0 then some .encrypt
  else if code = 1 then some .decrypt
  else if code = 2 then some .sign
  else if code = 3 then some .verify
  else if code = 4 then some .digest
  else none

@[simp]
theorem OperationType.ofCode_code (type : OperationType) : ofCode type.code = some type := by
  cases type <;> rfl

/-- What a blob holds of an operation. -/
structure SavedOperation where
  type : OperationType
  mechanism : Nat
  keyHandle : Nat
  mechanismParam : Bytes
  data : Bytes
  deriving DecidableEq

/-- `OP_STATE_MAX_PARAM_LEN`. -/
def opStateMaxParamLen : Nat := 64 * 1024

/-- `OP_STATE_MAX_DATA_LEN`. -/
def opStateMaxDataLen : Nat := 4 * 1024 * 1024

/-- `OP_STATE_MAGIC`: "OPS1". -/
def opStateMagic : Bytes := [0x4F, 0x50, 0x53, 0x31]

/-- `OP_STATE_HMAC_LEN`. -/
def opStateHmacLen : Nat := 32

/-- The header before the parameter: magic, session, slot, type, mechanism, key and parameter
length. -/
def opStateHeaderLen : Nat := 41

/-- `to_le_bytes` of an integer of `width` bytes. -/
def leBytes (width n : Nat) : Bytes := (beBytes width n).reverse

/-- `write_field`: a length of four bytes, then the bytes. -/
def writeField (field : Bytes) (max : Nat) : HsmResult Bytes :=
  if field.length > max then .error .dataLenRange else .ok (leBytes 4 field.length ++ field)

/-- What is saved of an operation. Signatures and digests have no parameter, digests no key. -/
def ActiveOperation.saved : ActiveOperation → SavedOperation
  | .encrypt op => ⟨.encrypt, op.mechanism, op.keyHandle, op.mechanismParam, op.data⟩
  | .decrypt op => ⟨.decrypt, op.mechanism, op.keyHandle, op.mechanismParam, op.data⟩
  | .sign op => ⟨.sign, op.mechanism, op.keyHandle, [], op.data⟩
  | .verify op => ⟨.verify, op.mechanism, op.keyHandle, [], op.data⟩
  | .digest op => ⟨.digest, op.mechanism, 0, [], op.accumulatedInput⟩

/-- The header of a blob up to the key handle. -/
def SavedOperation.header (saved : SavedOperation) (session slotId : Nat) : Bytes :=
  opStateMagic ++ leBytes 8 session ++ leBytes 8 slotId ++ [saved.type.code] ++
    leBytes 8 saved.mechanism ++ leBytes 8 saved.keyHandle

/-- What the tag of a blob covers. -/
def SavedOperation.payload (saved : SavedOperation) (session slotId : Nat) : HsmResult Bytes := do
  let param ← writeField saved.mechanismParam opStateMaxParamLen
  let data ← writeField saved.data opStateMaxDataLen
  return saved.header session slotId ++ param ++ data

section Blobs

variable (hmac : FixedBytes 32 → Bytes → FixedBytes 32) (stateHmacKey : FixedBytes 32)

/-- `serialize_state`. -/
def ActiveOperation.serializeState (operation : ActiveOperation) (session slotId : Nat) :
    HsmResult Bytes := do
  let payload ← operation.saved.payload session slotId
  return payload ++ (hmac stateHmacKey payload).1

/-- The bytes of a payload from an offset. -/
def slice (payload : Bytes) (offset length : Nat) : Bytes := (payload.drop offset).take length

/-- The part of `deserialize_state` after the tag, the magic and the binding have been checked. -/
def parsePayload (payload : Bytes) : Option SavedOperation := do
  let type ← OperationType.ofCode (payload.getD 20 0)
  let paramLen := ckUlongOfBytes (slice payload 37 4)
  if paramLen > opStateMaxParamLen then none
  else if payload.length < opStateHeaderLen + paramLen + 4 then none
  else
    let dataOffset := opStateHeaderLen + paramLen
    let dataLen := ckUlongOfBytes (slice payload dataOffset 4)
    if dataLen > opStateMaxDataLen then none
    else if payload.length < dataOffset + 4 + dataLen then none
    else
      some ⟨type, ckUlongOfBytes (slice payload 21 8), ckUlongOfBytes (slice payload 29 8),
        slice payload opStateHeaderLen paramLen, slice payload (dataOffset + 4) dataLen⟩

/-- `deserialize_state`. -/
def deserializeState (blob : Bytes) (expectedSession expectedSlot : Nat) :
    HsmResult SavedOperation :=
  if blob.length < opStateHeaderLen + opStateHmacLen then .error .dataInvalid
  else
    let payload := blob.take (blob.length - opStateHmacLen)
    if blob.drop (blob.length - opStateHmacLen) ≠ (hmac stateHmacKey payload).1 then
      .error .dataInvalid
    else if payload.take 4 ≠ opStateMagic then .error .dataInvalid
    else if ckUlongOfBytes (slice payload 4 8) ≠ expectedSession ∨
        ckUlongOfBytes (slice payload 12 8) ≠ expectedSlot then .error .dataInvalid
    else (parsePayload payload).elim (.error .dataInvalid) .ok

end Blobs

/-! ### Reading back what was written -/

@[simp]
theorem leBytes_length (width n : Nat) : (leBytes width n).length = width := by
  simp [leBytes]

/-- The bytes of an integer spell it. -/
theorem ckUlongOfBytes_leBytes {width n : Nat} (h : n < 256 ^ width) :
    ckUlongOfBytes (leBytes width n) = n := by
  induction width generalizing n with
  | zero => rw [pow_zero] at h; simp [leBytes, beBytes, ckUlongOfBytes]; omega
  | succ width ih =>
    have hquotient : n / 256 < 256 ^ width := by
      rw [Nat.div_lt_iff_lt_mul (by norm_num), ← pow_succ]
      exact h
    have hrest := ih hquotient
    simp only [leBytes] at hrest
    simp only [leBytes, beBytes, List.reverse_append, List.reverse_cons, List.reverse_nil,
      List.nil_append, List.cons_append, ckUlongOfBytes, hrest, UInt8.toNat_ofNat']
    omega

/-- A slice that is one of the pieces a payload is joined from. -/
theorem slice_append (before piece after : Bytes) {offset length : Nat}
    (hoffset : before.length = offset) (hlength : piece.length = length) :
    slice (before ++ (piece ++ after)) offset length = piece := by
  rw [slice, List.drop_left' hoffset, List.take_left' hlength]

/-- The numbers of a saved operation are 64-bit integers. -/
structure SavedOperation.MachineSized (saved : SavedOperation) : Prop where
  mechanism_lt : saved.mechanism < 2 ^ 64
  keyHandle_lt : saved.keyHandle < 2 ^ 64

theorem writeField_eq_ok {field written : Bytes} {max : Nat}
    (h : writeField field max = .ok written) :
    field.length ≤ max ∧ written = leBytes 4 field.length ++ field := by
  unfold writeField at h
  split_ifs at h with hlong
  exact ⟨by omega, (Except.ok.inj h).symm⟩

theorem SavedOperation.payload_eq_ok {saved : SavedOperation} {session slotId : Nat}
    {payload : Bytes} (h : saved.payload session slotId = .ok payload) :
    saved.mechanismParam.length ≤ opStateMaxParamLen ∧ saved.data.length ≤ opStateMaxDataLen ∧
      payload = saved.header session slotId ++
        (leBytes 4 saved.mechanismParam.length ++ saved.mechanismParam) ++
          (leBytes 4 saved.data.length ++ saved.data) := by
  obtain ⟨param, hparam, h⟩ := bind_eq_ok_iff.mp h
  obtain ⟨data, hdata, h⟩ := bind_eq_ok_iff.mp h
  obtain ⟨hparamLen, rfl⟩ := writeField_eq_ok hparam
  obtain ⟨hdataLen, rfl⟩ := writeField_eq_ok hdata
  exact ⟨hparamLen, hdataLen, (Except.ok.inj h).symm⟩

section RoundTrip

variable {saved : SavedOperation} {session slotId : Nat} {payload : Bytes}
  {operation : ActiveOperation}

@[simp]
theorem SavedOperation.header_length (saved : SavedOperation) (session slotId : Nat) :
    (saved.header session slotId).length = 37 := by
  simp [SavedOperation.header, opStateMagic]

/-- The fields of a payload are where the parser looks for them. -/
theorem slices_of_payload (h : saved.payload session slotId = .ok payload) :
    payload.take 4 = opStateMagic ∧ slice payload 4 8 = leBytes 8 session ∧
      slice payload 12 8 = leBytes 8 slotId ∧ payload.getD 20 0 = saved.type.code ∧
      slice payload 21 8 = leBytes 8 saved.mechanism ∧
      slice payload 29 8 = leBytes 8 saved.keyHandle := by
  obtain ⟨-, -, rfl⟩ := SavedOperation.payload_eq_ok h
  simp only [SavedOperation.header, List.append_assoc]
  refine ⟨List.take_left' rfl, slice_append opStateMagic _ _ rfl (by simp), ?_, ?_, ?_, ?_⟩
  · rw [← List.append_assoc]
    exact slice_append _ _ _ (by simp [opStateMagic]) (by simp)
  · rw [← List.append_assoc, ← List.append_assoc, List.getD_eq_getElem?_getD,
      List.getElem?_append_right (by simp [opStateMagic])]
    simp [opStateMagic]
  · rw [← List.append_assoc, ← List.append_assoc, ← List.append_assoc]
    exact slice_append _ _ _ (by simp [opStateMagic]) (by simp)
  · rw [← List.append_assoc, ← List.append_assoc, ← List.append_assoc, ← List.append_assoc]
    exact slice_append _ _ _ (by simp [opStateMagic]) (by simp)

theorem fields_of_payload (h : saved.payload session slotId = .ok payload) :
    slice payload 37 4 = leBytes 4 saved.mechanismParam.length ∧
      slice payload 41 saved.mechanismParam.length = saved.mechanismParam ∧
      slice payload (41 + saved.mechanismParam.length) 4 = leBytes 4 saved.data.length ∧
      slice payload (41 + saved.mechanismParam.length + 4) saved.data.length = saved.data ∧
      payload.length = 41 + saved.mechanismParam.length + 4 + saved.data.length := by
  obtain ⟨-, -, rfl⟩ := SavedOperation.payload_eq_ok h
  simp only [List.append_assoc]
  refine ⟨slice_append _ _ _ (by simp) (by simp), ?_, ?_, ?_, by simp; omega⟩
  · rw [← List.append_assoc]
    exact slice_append _ _ _ (by simp) rfl
  · rw [← List.append_assoc, ← List.append_assoc]
    exact slice_append _ _ _ (by simp; omega) (by simp)
  · have hdata := slice_append (saved.header session slotId ++
      (leBytes 4 saved.mechanismParam.length ++ (saved.mechanismParam ++
        leBytes 4 saved.data.length))) saved.data []
      (show _ = 41 + saved.mechanismParam.length + 4 by simp; omega) rfl
    simpa only [List.append_assoc, List.append_nil] using hdata

theorem parsePayload_payload (hsized : saved.MachineSized)
    (h : saved.payload session slotId = .ok payload) : parsePayload payload = some saved := by
  obtain ⟨hparamMax, hdataMax, -⟩ := SavedOperation.payload_eq_ok h
  obtain ⟨-, -, -, htype, hmechanism, hkey⟩ := slices_of_payload h
  obtain ⟨hparamLen, hparam, hdataLen, hdata, hlength⟩ := fields_of_payload h
  have hparamValue : ckUlongOfBytes (leBytes 4 saved.mechanismParam.length) =
      saved.mechanismParam.length := by
    refine ckUlongOfBytes_leBytes ?_
    norm_num [opStateMaxParamLen] at hparamMax ⊢
    omega
  have hdataValue : ckUlongOfBytes (leBytes 4 saved.data.length) = saved.data.length := by
    refine ckUlongOfBytes_leBytes ?_
    norm_num [opStateMaxDataLen] at hdataMax ⊢
    omega
  have hmechanismValue : ckUlongOfBytes (leBytes 8 saved.mechanism) = saved.mechanism :=
    ckUlongOfBytes_leBytes (by have := hsized.mechanism_lt; norm_num at this ⊢; omega)
  have hkeyValue : ckUlongOfBytes (leBytes 8 saved.keyHandle) = saved.keyHandle :=
    ckUlongOfBytes_leBytes (by have := hsized.keyHandle_lt; norm_num at this ⊢; omega)
  simp only [parsePayload, htype, OperationType.ofCode_code, hparamLen, hparamValue,
    opStateHeaderLen, hdataLen, hdataValue, hmechanism, hkey, hmechanismValue, hkeyValue, hparam,
    hdata, Option.bind_eq_bind, Option.bind_some]
  rw [if_neg (by omega), if_neg (by omega), if_neg (by omega), if_neg (by omega)]

variable {hmac : FixedBytes 32 → Bytes → FixedBytes 32} {stateHmacKey : FixedBytes 32}
  {blob : Bytes}

theorem serializeState_eq_ok
    (h : operation.serializeState hmac stateHmacKey session slotId = .ok blob) :
    ∃ payload, operation.saved.payload session slotId = .ok payload ∧
      blob = payload ++ (hmac stateHmacKey payload).1 := by
  obtain ⟨payload, hpayload, h⟩ := bind_eq_ok_iff.mp h
  exact ⟨payload, hpayload, (Except.ok.inj h).symm⟩

/-- What a session saves, it can read back. -/
theorem deserializeState_serializeState (hmac : FixedBytes 32 → Bytes → FixedBytes 32)
    (stateHmacKey : FixedBytes 32) (hsession : session < 2 ^ 64) (hslot : slotId < 2 ^ 64)
    (hsized : operation.saved.MachineSized)
    (h : operation.serializeState hmac stateHmacKey session slotId = .ok blob) :
    deserializeState hmac stateHmacKey blob session slotId = .ok operation.saved := by
  obtain ⟨payload, hpayload, rfl⟩ := serializeState_eq_ok h
  obtain ⟨hmagic, hsessionBytes, hslotBytes, -⟩ := slices_of_payload hpayload
  obtain ⟨-, -, -, -, hlength⟩ := fields_of_payload hpayload
  have htag : (hmac stateHmacKey payload).1.length = 32 := (hmac stateHmacKey payload).2
  have hsplit : (payload ++ (hmac stateHmacKey payload).1).length - opStateHmacLen =
      payload.length := by
    rw [List.length_append, htag, opStateHmacLen]; omega
  have hsessionValue : ckUlongOfBytes (leBytes 8 session) = session :=
    ckUlongOfBytes_leBytes (by norm_num at hsession ⊢; omega)
  have hslotValue : ckUlongOfBytes (leBytes 8 slotId) = slotId :=
    ckUlongOfBytes_leBytes (by norm_num at hslot ⊢; omega)
  have hlong : ¬(payload ++ (hmac stateHmacKey payload).1).length <
      opStateHeaderLen + opStateHmacLen := by
    rw [List.length_append, htag, opStateHmacLen, opStateHeaderLen]; omega
  simp only [deserializeState, hlong, if_false, hsplit, List.take_left' rfl, List.drop_left' rfl,
    parsePayload_payload hsized hpayload, hmagic, hsessionBytes, hslotBytes, hsessionValue,
    hslotValue, ne_eq, not_true_eq_false, or_self, Option.elim_some]

theorem serializeState_length
    (h : operation.serializeState hmac stateHmacKey session slotId = .ok blob) :
    0 < blob.length ∧ blob.length ≤ 77 + opStateMaxParamLen + opStateMaxDataLen := by
  obtain ⟨payload, hpayload, rfl⟩ := serializeState_eq_ok h
  obtain ⟨hparam, hdata, -⟩ := SavedOperation.payload_eq_ok hpayload
  obtain ⟨-, -, -, -, hlength⟩ := fields_of_payload hpayload
  have htag : (hmac stateHmacKey payload).1.length = 32 := (hmac stateHmacKey payload).2
  rw [List.length_append, htag]
  omega

end RoundTrip

end CratonHsm
