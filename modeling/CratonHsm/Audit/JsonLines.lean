import CratonHsm.Audit.Log

/-!
# The lines of initialisation events

The JSON texts that `serde_json` gives for the successful initialisation events of session 0, as the
payload that is hashed and as the line of the file, and the reading of such a line.
`initializeCodec` is the codec restricted to these events, over any hash function; it is lawful
(`initializeCodec_lawful`). Numbers are printed in decimal and separated by commas, so a line is
read by the digits between its commas.
-/

set_option autoImplicit false

namespace CratonHsm.Audit

def comma : UInt8 := 44

/-- A number in decimal. -/
def decimal (n : Nat) : Bytes := (Nat.toDigits 10 n).map fun c ↦ UInt8.ofNat c.toNat

/-- The number spelled by the digits of a text. -/
def number (text : Bytes) : Nat :=
  Nat.ofDigitChars 10 ((text.map fun b ↦ Char.ofNat b.toNat).filter Char.isDigit) 0

/-- The text `{"timestamp":`. -/
def timestampKey : Bytes := [123, 34, 116, 105, 109, 101, 115, 116, 97, 109, 112, 34, 58]

/-- The texts `"session_handle":0`, `"operation":"Initialize"`, `"key_id":null` and
`"result":"Success"`. -/
def initializeFields : List Bytes :=
  [[34, 115, 101, 115, 115, 105, 111, 110, 95, 104, 97, 110, 100, 108, 101, 34, 58, 48],
    [34, 111, 112, 101, 114, 97, 116, 105, 111, 110, 34, 58, 34, 73, 110, 105, 116, 105, 97, 108,
      105, 122, 101, 34],
    [34, 107, 101, 121, 95, 105, 100, 34, 58, 110, 117, 108, 108],
    [34, 114, 101, 115, 117, 108, 116, 34, 58, 34, 83, 117, 99, 99, 101, 115, 115, 34]]

/-- The text `"previous_hash":[`. -/
def previousHashKey : Bytes :=
  [34, 112, 114, 101, 118, 105, 111, 117, 115, 95, 104, 97, 115, 104, 34, 58, 91]

/-- The event with the given timestamp after the given hash. -/
def initializeEvent (timestamp : Nat) (previousHash : FixedBytes 32) : AuditEvent where
  timestamp := timestamp
  sessionHandle := 0
  operation := .initializeLibrary
  keyId := none
  result := .success
  previousHash := previousHash

/-- The text of a payload up to its closing brace. -/
def payloadFields (timestamp : Nat) : List Bytes :=
  (timestampKey ++ decimal timestamp) :: initializeFields

/-- The numbers of a hash; the first stands after the name of the field. -/
def hashFields : Bytes → List Bytes
  | [] => []
  | b :: bytes => (previousHashKey ++ decimal b.toNat) :: bytes.map fun b ↦ decimal b.toNat

/-- The text of a line up to its closing brackets. -/
def lineFields (timestamp : Nat) (hash : Bytes) : List Bytes :=
  payloadFields timestamp ++ hashFields hash

/-- What a line without its closing brackets says. -/
def readFields (fields : List Nat) : Option AuditEvent :=
  match fields with
  | timestamp :: _ :: _ :: _ :: _ :: hash =>
    if h : (hash.map UInt8.ofNat).length = 32 then
      some (initializeEvent timestamp ⟨hash.map UInt8.ofNat, h⟩)
    else none
  | _ => none

/-- The codec of initialisation events. -/
def initializeCodec (sha256 : Bytes → FixedBytes 32) : AuditCodec where
  toVec payload :=
    if payload = (initializeEvent payload.timestamp zeroHash).toAuditEventPayload then
      some ([comma].intercalate (payloadFields payload.timestamp) ++ [125])
    else none
  toString event :=
    if event = initializeEvent event.timestamp event.previousHash then
      some ([comma].intercalate (lineFields event.timestamp event.previousHash.val) ++ [93, 125])
    else none
  fromStr text := readFields ((text.dropLast.dropLast.splitOn comma).map number)
  sha256 := sha256
  isUtf8 _ := true
  trim text := text

/-! ### Numbers -/

theorem toNat_of_isDigit {c : Char} (h : c.isDigit = true) : 48 ≤ c.toNat ∧ c.toNat ≤ 57 := by
  rw [Char.isDigit, Bool.and_eq_true, decide_eq_true_eq, decide_eq_true_eq] at h
  exact ⟨UInt32.le_iff_toNat_le.mp h.1, UInt32.le_iff_toNat_le.mp h.2⟩

theorem isDigit_of_mem {n : Nat} {c : Char} (h : c ∈ Nat.toDigits 10 n) : c.isDigit = true :=
  Nat.isDigit_of_mem_toDigits (by decide) (by decide) h

theorem map_decimal (n : Nat) :
    (decimal n).map (fun b ↦ Char.ofNat b.toNat) = Nat.toDigits 10 n := by
  rw [decimal, List.map_map]
  refine (List.map_congr_left fun c hc ↦ ?_).trans (List.map_id _)
  have hsize : c.toNat < UInt8.size :=
    lt_of_le_of_lt (toNat_of_isDigit (isDigit_of_mem hc)).2 (by decide)
  rw [Function.comp_apply, UInt8.toNat_ofNat_of_lt' hsize, Char.ofNat_toNat]
  rfl

theorem mem_decimal {n : Nat} {b : UInt8} (h : b ∈ decimal n) : 48 ≤ b ∧ b ≤ 57 := by
  obtain ⟨c, hc, rfl⟩ := List.mem_map.mp h
  have hrange := toNat_of_isDigit (isDigit_of_mem hc)
  have hsize : c.toNat < UInt8.size := lt_of_le_of_lt hrange.2 (by decide)
  rw [UInt8.le_iff_toNat_le, UInt8.le_iff_toNat_le, UInt8.toNat_ofNat_of_lt' hsize]
  exact hrange

/-- A number is read back after any text without digits. -/
theorem number_append_decimal {key : Bytes}
    (hkey : (key.map fun b ↦ Char.ofNat b.toNat).filter Char.isDigit = []) (n : Nat) :
    number (key ++ decimal n) = n := by
  rw [number, List.map_append, List.filter_append, hkey, List.nil_append, map_decimal,
    List.filter_eq_self.mpr fun c hc ↦ isDigit_of_mem hc, Nat.ofDigitChars_ten_toDigits]

theorem number_decimal (n : Nat) : number (decimal n) = n :=
  number_append_decimal (show (([] : Bytes).map _).filter Char.isDigit = [] from rfl) n

theorem map_number_hashFields (hash : Bytes) :
    (hashFields hash).map number = hash.map UInt8.toNat := by
  cases hash with
  | nil => rfl
  | cons b bytes =>
    rw [hashFields, List.map_cons, number_append_decimal (by decide), List.map_map, List.map_cons]
    exact congrArg _ (List.map_congr_left fun b _ ↦ number_decimal b.toNat)

theorem map_number_lineFields (timestamp : Nat) (hash : Bytes) :
    (lineFields timestamp hash).map number =
      timestamp :: 0 :: 0 :: 0 :: 0 :: hash.map UInt8.toNat := by
  rw [lineFields, payloadFields, List.cons_append, List.map_cons, List.map_append,
    number_append_decimal (by decide), map_number_hashFields]
  rfl

theorem readFields_eq (timestamp : Nat) (hash : FixedBytes 32) :
    readFields (timestamp :: 0 :: 0 :: 0 :: 0 :: hash.val.map UInt8.toNat) =
      some (initializeEvent timestamp hash) := by
  have hbytes : (hash.val.map UInt8.toNat).map UInt8.ofNat = hash.val := by
    rw [List.map_map]
    exact (List.map_congr_left fun b _ ↦ UInt8.ofNat_toNat).trans (List.map_id _)
  have hlength : ((hash.val.map UInt8.toNat).map UInt8.ofNat).length = 32 := by
    rw [hbytes]
    exact hash.property
  rw [readFields, dif_pos hlength]
  exact congrArg (some ∘ initializeEvent timestamp) (Subtype.ext hbytes)

/-! ### Lines -/

/-- The fields of a line have neither commas nor newlines in them. -/
theorem notMem_lineFields {timestamp : Nat} {hash : Bytes} {stop : UInt8}
    (hstop : stop = comma ∨ stop = newline) :
    ∀ field ∈ lineFields timestamp hash, stop ∉ field := by
  have hdecimal : ∀ n, stop ∉ decimal n := by
    intro n hmem
    have hrange := mem_decimal hmem
    rcases hstop with rfl | rfl <;> exact absurd hrange.1 (by decide)
  have hkeyed : ∀ {key : Bytes}, stop ∉ key → ∀ n, stop ∉ key ++ decimal n := fun hkey n hmem ↦
    (List.mem_append.mp hmem).elim hkey (hdecimal n)
  have htimestamp : stop ∉ timestampKey := by rcases hstop with rfl | rfl <;> decide
  have hprevious : stop ∉ previousHashKey := by rcases hstop with rfl | rfl <;> decide
  have hfields : ∀ field ∈ initializeFields, stop ∉ field := by
    rcases hstop with rfl | rfl <;> decide
  intro field hfield
  rcases List.mem_append.mp hfield with hpayload | hhash
  · rcases List.mem_cons.mp hpayload with rfl | hrest
    · exact hkeyed htimestamp timestamp
    · exact hfields field hrest
  · cases hash with
    | nil => cases hhash
    | cons b bytes =>
      rcases List.mem_cons.mp hhash with rfl | hrest
      · exact hkeyed hprevious b.toNat
      · obtain ⟨b, -, rfl⟩ := List.mem_map.mp hrest
        exact hdecimal b.toNat

theorem notMem_intercalate {sep : Bytes} {stop : UInt8} (hsep : stop ∉ sep) :
    ∀ {fields : List Bytes}, (∀ field ∈ fields, stop ∉ field) → stop ∉ sep.intercalate fields := by
  intro fields
  induction fields with
  | nil => exact fun _ ↦ List.not_mem_nil
  | cons field fields ih =>
    intro h
    cases fields with
    | nil =>
      rw [List.intercalate_singleton]
      exact h field List.mem_cons_self
    | cons other fields =>
      rw [List.intercalate_cons_cons, List.mem_append, List.mem_append]
      have hrest := ih fun later hlater ↦ h later (List.mem_cons_of_mem _ hlater)
      exact fun hmem ↦ hmem.elim
        (fun hmem ↦ hmem.elim (h field List.mem_cons_self) hsep) hrest

theorem toString_initializeCodec {sha256 : Bytes → FixedBytes 32} {event : AuditEvent}
    {line : Bytes} (h : (initializeCodec sha256).toString event = some line) :
    event = initializeEvent event.timestamp event.previousHash ∧
      line = [comma].intercalate (lineFields event.timestamp event.previousHash.val) ++
        [93, 125] := by
  by_cases hevent : event = initializeEvent event.timestamp event.previousHash
  · refine ⟨hevent, ?_⟩
    rw [initializeCodec] at h
    dsimp only at h
    rw [if_pos hevent] at h
    exact (Option.some.inj h).symm
  · rw [initializeCodec] at h
    dsimp only at h
    rw [if_neg hevent] at h
    cases h

theorem initializeCodec_lawful (sha256 : Bytes → FixedBytes 32) :
    (initializeCodec sha256).Lawful where
  fromStr_toString {event line} h := by
    obtain ⟨hevent, rfl⟩ := toString_initializeCodec h
    have hfields : lineFields event.timestamp event.previousHash.val ≠ [] := List.cons_ne_nil _ _
    have hopen : ∀ text : Bytes, (text ++ [93, 125]).dropLast.dropLast = text := by simp
    rw [initializeCodec]
    dsimp only
    rw [hopen, List.splitOn_intercalate comma (notMem_lineFields (.inl rfl)) hfields,
      map_number_lineFields, readFields_eq, ← hevent]
  isLine {event line} h := by
    obtain ⟨-, rfl⟩ := toString_initializeCodec h
    refine ⟨fun hnil ↦ absurd (List.append_eq_nil_iff.mp hnil).2 (List.cons_ne_nil _ _), ?_⟩
    exact fun hmem ↦ (List.mem_append.mp hmem).elim
      (notMem_intercalate (by decide) (notMem_lineFields (.inr rfl))) (by decide)
  isText _ := ⟨rfl, rfl⟩
  nil_isText := ⟨rfl, rfl⟩

end CratonHsm.Audit
