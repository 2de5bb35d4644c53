import CratonHsm.Abi.NamedCurve
import CratonHsm.Admin.ImportParse

/-!
# Imported keys

What becomes of a key file once it is parsed. `create_object` starts from an object that is
sensitive and refuses to make it less so, and every template for a public key says that it is not
sensitive: no public key can be imported (`applyTemplate_of_public`). No template gives a usage
either, so that `C_SignInit` refuses an imported private key (`not_signs_of_imported`). No key file
that parses therefore gives a usable key (`fileUsable_iff`).
-/

set_option autoImplicit false

namespace CratonHsm.Admin

open Crypto Library Store

/-! ### What an import is for -/

namespace ParsedKey

/-- The second key is the public part of the first, as far as a private key file tells it. -/
def HasPublicPart : ParsedKey → ParsedKey → Prop
  | rsaPrivate p, rsaPublic q => q.modulus = p.modulus ∧ q.publicExponent = p.publicExponent
  | ecPrivate p, ecPublic q =>
    q.curve = p.curve ∧ ∀ point, p.publicPoint = some point → q.publicPoint = point
  | _, _ => False

theorem HasPublicPart.not_isPrivate {key publicKey : ParsedKey}
    (h : key.HasPublicPart publicKey) : ¬publicKey.IsPrivate := by
  cases key <;> cases publicKey <;> simp_all [HasPublicPart, IsPrivate]

/-- The object is of the key's class and type and has all its parts. -/
def CarriedBy (obj : StoredObject) : ParsedKey → Prop
  | rsaPrivate p =>
    obj.objectClass = ckoPrivateKey ∧ obj.keyType = some ckkRsa ∧ obj.modulus = some p.modulus ∧
      obj.publicExponent = some p.publicExponent ∧
      obj.extraAttributes[ckaPrivateExponent]? = some p.privateExponent ∧
      obj.extraAttributes[ckaPrime1]? = some p.prime1 ∧
      obj.extraAttributes[ckaPrime2]? = some p.prime2 ∧
      obj.extraAttributes[ckaExponent1]? = some p.exponent1 ∧
      obj.extraAttributes[ckaExponent2]? = some p.exponent2 ∧
      obj.extraAttributes[ckaCoefficient]? = some p.coefficient
  | rsaPublic p =>
    obj.objectClass = ckoPublicKey ∧ obj.keyType = some ckkRsa ∧ obj.modulus = some p.modulus ∧
      obj.publicExponent = some p.publicExponent
  | ecPrivate p =>
    obj.objectClass = ckoPrivateKey ∧ obj.keyType = some ckkEc ∧
      obj.ecParams = some p.curve.ecParamsDer ∧ obj.keyMaterial = some p.privateScalar ∧
      obj.ecPoint = p.publicPoint.map wrapOctetString
  | ecPublic p =>
    obj.objectClass = ckoPublicKey ∧ obj.keyType = some ckkEc ∧
      obj.ecParams = some p.curve.ecParamsDer ∧ obj.ecPoint = some (wrapOctetString p.publicPoint)

end ParsedKey

section Usable

variable (platform : Platform)

/-- The import of the key can create the object. -/
def Imported (key : ParsedKey) (obj : StoredObject) : Prop :=
  ∃ (draw : StoreDraw) (now : Nat) (label : Bytes) (store : ObjectStore),
    let created := store.createObject platform.crates platform.codec draw now
      (key.intoTemplate label)
    created.1 = .ok obj.handle ∧ created.2.objects.get? obj.handle = some obj

/-- Some session of some library that holds the object gets the signature from `C_Sign`. -/
def Signs (mechanism : Nat) (obj : StoredObject) (data signature : Bytes) : Prop :=
  ∃ (env : CallEnv) (session : Nat) (output : Option Nat) (s : Hsm),
    let started := cSignInit env session mechanism obj.handle s
    s.objectStore.objects.get? obj.handle = some obj ∧ started.1 = .ok .done ∧
      (cSign platform env session data output started.2).1 = .ok (.bytes signature)

/-- Some session of some library that holds the object has the signature accepted by `C_Verify`. -/
def Verifies (mechanism : Nat) (obj : StoredObject) (data signature : Bytes) : Prop :=
  ∃ (env : CallEnv) (session : Nat) (s : Hsm),
    let started := cVerifyInit env session mechanism obj.handle s
    s.objectStore.objects.get? obj.handle = some obj ∧ started.1 = .ok .done ∧
      (cVerify platform session data signature started.2).1 = .ok .done

/-- The key can be imported, the object carries it, and with the object of a private key some
signature can be made that is accepted with the object of the public key. -/
def GivesUsableKey (key : ParsedKey) : Prop :=
  ∃ obj, Imported platform key obj ∧ key.CarriedBy obj ∧
    (key.IsPrivate → ∃ publicKey publicObj mechanism data signature,
      key.HasPublicPart publicKey ∧ Imported platform publicKey publicObj ∧
        Signs platform mechanism obj data signature ∧
        Verifies platform mechanism publicObj data signature)

/-- If the file parses, in either way, it gives a usable key. -/
def FileUsable (parsers : KeyParsers) (data : Bytes) : Prop :=
  ∀ key, parsePem parsers data = .ok key ∨ parseDer parsers data = .ok key →
    GivesUsableKey platform key

end Usable

/-! ### What becomes of the templates -/

theorem createObject_ok {crates : Crates} {codec : ObjectCodec} {draw : StoreDraw} {now : Nat}
    {template : List (Nat × Bytes)} {store : ObjectStore} {handle : Nat}
    (h : (store.createObject crates codec draw now template).1 = .ok handle) :
    ∃ objectClass obj,
      (StoredObject.new now handle objectClass).applyTemplate template = .ok obj ∧
        (store.createObject crates codec draw now template).2.objects.get? handle = some obj := by
  unfold ObjectStore.createObject at h ⊢
  split_ifs at h ⊢
  cases hclass : ObjectStore.templateClass template with
  | none => simp [hclass] at h
  | some objectClass =>
    simp only [hclass] at h ⊢
    cases hobj : (StoredObject.new now store.nextHandle.1 objectClass).applyTemplate template with
    | error e => simp [hobj] at h
    | ok obj =>
      simp only [hobj, Except.ok.injEq] at h ⊢
      subst h
      exact ⟨objectClass, obj, hobj, by simp [ObjectStore.addObject]⟩

variable {platform : Platform} {key : ParsedKey} {obj : StoredObject}

/-- The object of an import is made by the key's template. -/
theorem Imported.applyTemplate_eq (h : Imported platform key obj) :
    ∃ now objectClass label,
      (StoredObject.new now obj.handle objectClass).applyTemplate (key.intoTemplate label) =
        .ok obj := by
  obtain ⟨draw, now, label, store, hcreated, hheld⟩ := h
  obtain ⟨objectClass, made, hmade, hget⟩ := createObject_ok hcreated
  obtain rfl : made = obj := Option.mem_unique hget hheld
  exact ⟨now, objectClass, label, hmade⟩

/-- A new object is sensitive, and the template of a public key would have it not so. -/
theorem applyTemplate_of_public (hpublic : ¬key.IsPrivate) (now handle objectClass : Nat)
    (label : Bytes) :
    (StoredObject.new now handle objectClass).applyTemplate (key.intoTemplate label) =
      .error .attributeReadOnly := by
  cases key with
  | rsaPrivate p => exact absurd trivial hpublic
  | ecPrivate p => exact absurd trivial hpublic
  | rsaPublic p => rfl
  | ecPublic p => rfl

theorem not_imported_of_public (hpublic : ¬key.IsPrivate) : ¬Imported platform key obj := by
  intro h
  obtain ⟨now, objectClass, label, hobj⟩ := h.applyTemplate_eq
  rw [applyTemplate_of_public hpublic] at hobj
  cases hobj

theorem intoTemplate_no_sign (label : Bytes) :
    ∀ entry ∈ key.intoTemplate label, entry.1 ≠ ckaSign := by
  cases key with
  | rsaPrivate p => simp [ParsedKey.intoTemplate]; decide
  | rsaPublic p => simp [ParsedKey.intoTemplate]; decide
  | ecPrivate p =>
    cases hpoint : p.publicPoint <;> simp [ParsedKey.intoTemplate, hpoint] <;> decide
  | ecPublic p => simp [ParsedKey.intoTemplate]; decide

/-- No template permits a signature. -/
theorem Imported.canSign_eq (h : Imported platform key obj) : obj.canSign = false := by
  obtain ⟨now, objectClass, label, hobj⟩ := h.applyTemplate_eq
  have hflag := (applyTemplate_flag .sign _ _).of_eq_ok hobj
  exact hflag.trans (templateValue_of_forall_ne (intoTemplate_no_sign label))

/-- `C_SignInit` refuses an imported key, in every session of every library. -/
theorem not_signs_of_imported (h : Imported platform key obj) (mechanism : Nat)
    (data signature : Bytes) : ¬Signs platform mechanism obj data signature := by
  rintro ⟨env, session, output, s, hheld, hstarted, -⟩
  obtain ⟨opened, -, ref, found, hadmits⟩ := SignAdmits.of_ok hstarted
  obtain rfl : found = obj := Option.mem_unique hadmits.admitted.obj_eq hheld
  have hsign : found.canSign = true := hadmits.admitted.permitted_eq
  rw [h.canSign_eq] at hsign
  cases hsign

/-! ### No file gives a usable key -/

theorem not_givesUsableKey (key : ParsedKey) : ¬GivesUsableKey platform key := by
  rintro ⟨obj, himported, -, hsigns⟩
  by_cases hprivate : key.IsPrivate
  · obtain ⟨publicKey, publicObj, _, _, _, hpart, hpublic, -⟩ := hsigns hprivate
    exact not_imported_of_public hpart.not_isPrivate hpublic
  · exact not_imported_of_public hprivate himported

/-- Only what does not parse meets the promise, and that without a key. No imported key signs
anything. -/
theorem fileUsable_iff (platform : Platform) (parsers : KeyParsers) (data : Bytes) :
    (FileUsable platform parsers data ↔
      ∀ key, parsePem parsers data ≠ .ok key ∧ parseDer parsers data ≠ .ok key) ∧
    ∀ key obj, Imported platform key obj → ∀ mechanism message signature,
      ¬Signs platform mechanism obj message signature := by
  refine ⟨?_, fun key obj h mechanism message signature ↦
    not_signs_of_imported h mechanism message signature⟩
  simp only [FileUsable, not_givesUsableKey, imp_false, not_or, ne_eq]

/-! ### A key pair on P-256 -/

/-- The public point of the scalar whose 32 bytes are all 7. -/
def p256Point : Bytes :=
  0x04 :: beBytes 32 0x1e18532fd4754c02f3041d9c75ceb33b83ffd81ac7ce4fe882ccb1c98bc5896e ++
    beBytes 32 0xa46c311c4e2ff40dd96a3653e6e45445d32dfe486eced75c7a90c6a18881c0a3

/-- The encoding of the algorithm `id-ecPublicKey` on P-256. -/
def p256Algorithm : Bytes :=
  [0x30, 0x13, 0x06, 0x07, 0x2A, 0x86, 0x48, 0xCE, 0x3D, 0x02, 0x01] ++ Curve.p256.ecParamsDer

/-- The SEC1 encoding of the scalar. -/
def p256Sec1 : Bytes := [0x30, 0x25, 0x02, 0x01, 0x01, 0x04, 0x20] ++ List.replicate 32 7

/-- The scalar as a PKCS#8 file. -/
def p256PrivateFile : Bytes :=
  [0x30, 0x41, 0x02, 0x01, 0x00] ++ p256Algorithm ++ [0x04, 0x27] ++ p256Sec1

/-- The point as an SPKI file. -/
def p256PublicFile : Bytes :=
  [0x30, 0x59] ++ p256Algorithm ++ [0x03, 0x42, 0x00] ++ p256Point

/-- A parser that knows one input. -/
def knows {Value : Type} (input : Bytes) (value : Value) (data : Bytes) : Except String Value :=
  if data = input then .ok value else .error "unexpected ASN.1 DER tag"

/-- The parsers, as they are on the two files. -/
def p256Parsers : KeyParsers where
  decodePem _ := .error "PEM preamble contains invalid data (NUL byte)"
  privateKeyInfo := knows p256PrivateFile
    ⟨⟨oidEcPublicKey, some Curve.p256.ecParamsDer⟩, p256Sec1⟩
  subjectPublicKeyInfo := knows p256PublicFile
    ⟨⟨oidEcPublicKey, some Curve.p256.ecParamsDer⟩, some p256Point⟩
  decodeOid := knows Curve.p256.ecParamsDer oidP256
  pkcs1PrivateKey _ := .error "unexpected ASN.1 DER tag"
  pkcs1PublicKey _ := .error "unexpected ASN.1 DER tag"
  pkcs1ToDer := .ok
  rsaPrivateKey _ := .error "ASN.1 error"
  validate _ := .ok ()
  rsaPublicKey _ := .error "ASN.1 error"
  ecPrivateKey := knows p256Sec1 ⟨List.replicate 32 7, none, none⟩

/-- The library of a logged-in user after the import of a key. -/
def importingLibrary (key : ParsedKey) : HsmResult Nat × Hsm :=
  let s := userLibrary false
  let created := s.objectStore.createObject shaPlatform.crates shaPlatform.codec
    (callEnvAt 5).first 5 (key.intoTemplate [])
  (created.1, { s with objectStore := created.2 })

/-- Both files parse. The public key is refused, the private key is stored and cannot be used, and
so neither file gives a usable key. -/
theorem p256_files_unusable :
    parseDer p256Parsers p256PublicFile = .ok (.ecPublic ⟨.p256, p256Point⟩) ∧
      (importingLibrary (.ecPublic ⟨.p256, p256Point⟩)).1 = .error .attributeReadOnly ∧
      parseDer p256Parsers p256PrivateFile =
        .ok (.ecPrivate ⟨.p256, List.replicate 32 7, none⟩) ∧
      (importingLibrary (.ecPrivate ⟨.p256, List.replicate 32 7, none⟩)).1 = .ok firstObject ∧
      (cSignInit (callEnvAt 6) firstSession ckmEcdsaSha256 firstObject
        (importingLibrary (.ecPrivate ⟨.p256, List.replicate 32 7, none⟩)).2).1 =
          .error .keyFunctionNotPermitted ∧
      ¬FileUsable (shaPlatform.rustCrypto p256Schemes) p256Parsers p256PublicFile ∧
      ¬FileUsable (shaPlatform.rustCrypto p256Schemes) p256Parsers p256PrivateFile := by
  have hpublic : parseDer p256Parsers p256PublicFile = .ok (.ecPublic ⟨.p256, p256Point⟩) := by
    decide +kernel
  have hprivate : parseDer p256Parsers p256PrivateFile =
      .ok (.ecPrivate ⟨.p256, List.replicate 32 7, none⟩) := by
    decide +kernel
  refine ⟨hpublic, by decide +kernel, hprivate, by decide +kernel, by decide +kernel, ?_, ?_⟩
  · intro husable
    exact not_givesUsableKey _ (husable _ (.inr hpublic))
  · intro husable
    exact not_givesUsableKey _ (husable _ (.inr hprivate))

end CratonHsm.Admin
