import CratonHsm.Crypto.KnownAnswers
import CratonHsm.Store.ObjectStore

/-!
# The encrypted store as a map

`EncryptedStore` of `store/encrypted_store.rs` over an open database: a table of records, absent
until the first write and after `clear`. A record is a nonce and the ciphertext of a value, and
nothing else in it tells which key it was made with. For every history of calls, loading a name
gives the value of the latest successful store of that name (`latest`) to the key of that store and
an error to every other key, and the table lists the names that have one
(`encryptedStore_isMap`).

Scope. Transactions succeed and take effect at once. A store can still fail to draw its nonce.
-/

set_option autoImplicit false

namespace CratonHsm.Store

open Crypto Library
open Std (ExtTreeMap)
open ObjectStore

/-- `OBJECTS_TABLE` of the database, if it exists. -/
structure EncryptedStore where
  table : Option (ExtTreeMap String Bytes)

/-- A call on the store, with the nonce that the random generator gives. -/
inductive StoreCall where
  | storeEncrypted (storeKey : String) (plaintext : Bytes) (encryptionKey : FixedBytes 32)
      (nonce : HsmResult (FixedBytes 12))
  | loadEncrypted (storeKey : String) (encryptionKey : FixedBytes 32)
  | delete (storeKey : String)
  | listKeys
  | clear

/-- The name that a call is about. -/
def StoreCall.name? : StoreCall → Option String
  | .storeEncrypted storeKey .. | .loadEncrypted storeKey _ | .delete storeKey => some storeKey
  | .listKeys | .clear => none

namespace EncryptedStore

variable (crates : Crates)

/-- A database without the table. -/
def fresh : EncryptedStore := ⟨none⟩

/-- The first half of `store_encrypted`: the nonce and the ciphertext. -/
def newRecord (plaintext : Bytes) (encryptionKey : FixedBytes 32)
    (nonce : HsmResult (FixedBytes 12)) : HsmResult Bytes := do
  let nonceBytes ← nonce
  match sealRecord crates encryptionKey nonceBytes plaintext with
  | none => .error .generalError
  | some stored => .ok stored

variable (s : EncryptedStore) (storeKey : String)

/-- `store_encrypted`. Opening the table in a write transaction creates it. -/
def storeEncrypted (plaintext : Bytes) (encryptionKey : FixedBytes 32)
    (nonce : HsmResult (FixedBytes 12)) : HsmResult Unit × EncryptedStore :=
  match newRecord crates plaintext encryptionKey nonce with
  | .error e => (.error e, s)
  | .ok stored => (.ok (), ⟨some ((s.table.getD ∅).insert storeKey stored)⟩)

/-- `load_encrypted`. -/
def loadEncrypted (encryptionKey : FixedBytes 32) : HsmResult (Option Bytes) :=
  match s.table with
  | none => .ok none
  | some table =>
    match table[storeKey]? with
    | none => .ok none
    | some stored => (openRecord crates encryptionKey stored).map some

/-- `delete`. -/
def delete : EncryptedStore :=
  ⟨some ((s.table.getD ∅).erase storeKey)⟩

/-- `list_keys`. -/
def listKeys : List String :=
  match s.table with
  | none => []
  | some table => table.keys

/-- `clear`, which deletes the table. -/
def clear (_ : EncryptedStore) : EncryptedStore := ⟨none⟩

/-- The store after a call. -/
def step : StoreCall → EncryptedStore
  | .storeEncrypted storeKey plaintext encryptionKey nonce =>
    (s.storeEncrypted crates storeKey plaintext encryptionKey nonce).2
  | .delete storeKey => s.delete storeKey
  | .clear => s.clear
  | .loadEncrypted .. | .listKeys => s

/-- The store after a history of calls, the latest first. -/
def after (history : List StoreCall) : EncryptedStore :=
  history.foldr (fun call s ↦ s.step crates call) fresh

/-- The key and the value of the latest successful store of a name since its last deletion and the
last `clear`. -/
def latest (name : String) : List StoreCall → Option (FixedBytes 32 × Bytes)
  | [] => none
  | .storeEncrypted storeKey plaintext encryptionKey nonce :: earlier =>
    if storeKey = name ∧ (newRecord crates plaintext encryptionKey nonce).isOk then
      some (encryptionKey, plaintext)
    else latest name earlier
  | .delete storeKey :: earlier => if storeKey = name then none else latest name earlier
  | .clear :: _ => none
  | .loadEncrypted .. :: earlier | .listKeys :: earlier => latest name earlier

/-- The record of a name. -/
def lookup (name : String) : Option Bytes := (s.table.getD ∅)[name]?

section Lookup

variable (s : EncryptedStore) (name : String)

theorem loadEncrypted_eq (encryptionKey : FixedBytes 32) :
    s.loadEncrypted crates name encryptionKey = (s.lookup name).elim (.ok none)
      fun stored ↦ (openRecord crates encryptionKey stored).map some := by
  unfold loadEncrypted lookup
  cases s.table with
  | none => simp
  | some table =>
    dsimp only [Option.getD_some]
    cases table[name]? <;> rfl

theorem mem_listKeys : name ∈ s.listKeys ↔ (s.lookup name).isSome := by
  unfold listKeys lookup
  cases s.table <;> simp

theorem nodup_listKeys : s.listKeys.Nodup := by
  unfold listKeys
  cases s.table with
  | none => exact List.nodup_nil
  | some table => exact table.nodup_keys

theorem lookup_step (call : StoreCall) :
    (s.step crates call).lookup name =
      match call with
      | .storeEncrypted storeKey plaintext encryptionKey nonce =>
        if storeKey = name ∧ (newRecord crates plaintext encryptionKey nonce).isOk then
          (newRecord crates plaintext encryptionKey nonce).toOption
        else s.lookup name
      | .delete storeKey => if storeKey = name then none else s.lookup name
      | .clear => none
      | .loadEncrypted .. | .listKeys => s.lookup name := by
  cases call with
  | storeEncrypted storeKey plaintext encryptionKey nonce =>
    cases hnew : newRecord crates plaintext encryptionKey nonce <;>
      simp [step, storeEncrypted, hnew, lookup, getElem?_insert_eq_ite, Except.isOk, Except.toBool,
        Except.toOption]
  | delete storeKey => simp [step, delete, lookup, getElem?_erase_eq_ite]
  | clear => simp [step, clear, lookup]
  | loadEncrypted | listKeys => rfl

end Lookup

variable {crates}

/-- A record opens under the key it was made with, to its value, and under no other key. -/
theorem openRecord_newRecord (hinverts : crates.GcmInverts) (hauthentic : crates.GcmAuthentic)
    {plaintext stored : Bytes} {madeWith : FixedBytes 32} {nonce : HsmResult (FixedBytes 12)}
    (h : newRecord crates plaintext madeWith nonce = .ok stored) (encryptionKey : FixedBytes 32) :
    openRecord crates encryptionKey stored =
      if encryptionKey = madeWith then .ok plaintext else .error .encryptedDataInvalid := by
  obtain e | nonce := nonce
  · cases h
  cases hseal : crates.gcmEncrypt madeWith.1 nonce.1 plaintext [] with
  | none => simp [newRecord, sealRecord, hseal, bind, Except.bind] at h
  | some ciphertext =>
    obtain rfl : nonce.1 ++ ciphertext = stored := by
      simpa [newRecord, sealRecord, hseal, bind, Except.bind] using h
    have hnonce := nonce.2
    split_ifs with hkey
    · simp [openRecord, hnonce, hkey, hinverts _ _ _ _ _ hseal]
    · cases hopen : crates.gcmDecrypt encryptionKey.1 nonce.1 ciphertext [] with
      | none => simp [openRecord, hnonce, hopen]
      | some text =>
        exact absurd (Subtype.ext (hauthentic _ _ _ _ _ _ _ _ _ hseal hopen).1) hkey

variable (crates) in
/-- The record of a name is that of its latest store. -/
theorem lookup_after (name : String) (history : List StoreCall) :
    match latest crates name history with
    | none => (after crates history).lookup name = none
    | some (encryptionKey, plaintext) => ∃ stored nonce,
        newRecord crates plaintext encryptionKey nonce = .ok stored ∧
          (after crates history).lookup name = some stored := by
  induction history with
  | nil => simp [latest, after, fresh, lookup]
  | cons call earlier ih =>
    have hlookup := lookup_step crates (after crates earlier) name call
    rw [after, List.foldr_cons, ← after]
    cases call with
    | storeEncrypted storeKey plaintext encryptionKey nonce =>
      simp only [latest] at hlookup ⊢
      split_ifs at hlookup ⊢ with hnew
      · cases hstored : newRecord crates plaintext encryptionKey nonce with
        | error e => simp [hstored, Except.isOk, Except.toBool] at hnew
        | ok stored => exact ⟨stored, nonce, hstored, by rw [hlookup, hstored]; rfl⟩
      · rwa [hlookup]
    | delete storeKey =>
      simp only [latest] at hlookup ⊢
      split_ifs at hlookup ⊢
      · exact hlookup
      · rwa [hlookup]
    | clear => exact hlookup
    | loadEncrypted | listKeys => exact ih

variable (crates) in
/-- What holds of a store after a history of calls, the latest first. -/
structure IsMap (history : List StoreCall) : Prop where
  loads : ∀ name encryptionKey, (after crates history).loadEncrypted crates name encryptionKey =
    match latest crates name history with
    | none => .ok none
    | some (madeWith, plaintext) =>
      if encryptionKey = madeWith then .ok (some plaintext) else .error .encryptedDataInvalid
  lists : (after crates history).listKeys.Nodup ∧
    ∀ name, name ∈ (after crates history).listKeys ↔ (latest crates name history).isSome
  others : ∀ call name encryptionKey, call ≠ .clear → call.name? ≠ some name →
    ((after crates history).step crates call).loadEncrypted crates name encryptionKey =
      (after crates history).loadEncrypted crates name encryptionKey

/-- The store is a map from names to values, each behind the key it was stored with. -/
theorem encryptedStore_isMap (hinverts : crates.GcmInverts) (hauthentic : crates.GcmAuthentic)
    (history : List StoreCall) : IsMap crates history where
  loads := by
    intro name encryptionKey
    have hlookup := lookup_after crates name history
    rw [loadEncrypted_eq]
    split at hlookup
    · rw [hlookup]
      rfl
    · obtain ⟨stored, nonce, hstored, hlookup⟩ := hlookup
      rw [hlookup, Option.elim_some,
        openRecord_newRecord hinverts hauthentic hstored encryptionKey]
      split_ifs <;> rfl
  lists := by
    refine ⟨nodup_listKeys _, fun name ↦ ?_⟩
    have hlookup := lookup_after crates name history
    rw [mem_listKeys]
    split at hlookup
    · next hlatest => simp [hlookup, hlatest]
    · next hlatest =>
      obtain ⟨stored, nonce, -, hlookup⟩ := hlookup
      simp [hlookup, hlatest]
  others := by
    intro call name encryptionKey hclear hname
    rw [loadEncrypted_eq, loadEncrypted_eq, lookup_step]
    cases call <;> simp_all [StoreCall.name?]

/-- The key of the first recorded encryption. -/
def recordedKey : FixedBytes 32 :=
  ⟨beBytes 32 0x7a71267b158528af89ae3ea8143d12b6c6f527450237869565948ac6ffc8028a,
    beBytes_length _ _⟩

/-- A value is stored, and another name is deleted: the key of the store loads the value, another
key does not. -/
theorem recordedKey_isMap :
    let history := [.delete "obj_2", .storeEncrypted "obj_1" omkThrees.1 recordedKey
      (.ok nonceFours)]
    IsMap pinAnswers.authentic history ∧
      latest pinAnswers.authentic "obj_1" history = some (recordedKey, omkThrees.1) ∧
      (after pinAnswers.authentic history).loadEncrypted pinAnswers.authentic "obj_1" omkThrees =
        .error .encryptedDataInvalid := by
  have hmap := encryptedStore_isMap (pinAnswers.authentic_gcmInverts pinAnswers_marked)
    (pinAnswers.authentic_gcmAuthentic pinAnswers_marked)
  refine ⟨hmap _, by decide +kernel, ?_⟩
  exact ((hmap _).loads "obj_1" omkThrees).trans (by decide +kernel)

end EncryptedStore

end CratonHsm.Store
