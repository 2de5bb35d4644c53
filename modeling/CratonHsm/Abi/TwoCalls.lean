import CratonHsm.Abi.OutputCalls
import CratonHsm.Abi.SuppliedData
import CratonHsm.Crypto.Lengths

/-!
# The two-call convention

A caller asks for the length of an output with a null buffer, or tries buffers that are too short,
and then makes the call with a buffer of a reported length (`TwoCall`). How the queries are made is
given by their buffers, with what the library draws at random left open; a buffer is too short if no
output fits into it.

`two_call_iff` says for each of the eight calls when the convention is kept. It is kept without
condition by `C_EncryptFinal`, `C_Decrypt`, `C_DecryptFinal` and `C_Digest`. A short buffer ends the
operation of `C_SignFinal` and `C_DigestFinal`, uses up the initialisation vector of `C_Encrypt`,
takes a counter value of AES-GCM, and lets `C_Sign` report the length of a signature that it then
makes anew. A length query of a signature reports an estimate from the attributes of the key.
-/

set_option autoImplicit false

namespace CratonHsm

open Crypto Crypto.Encrypt Library Store
open CryptoBackend Delivery OutputCall

variable {bytes : Bytes} {env : CallEnv} {query : CallEnv × Option Nat}

/-! ### The convention -/

/-- The length that an answer reports. -/
def Reply.reported : Reply → Option Nat
  | .length reported => some reported
  | .tooSmall reported => some reported
  | _ => none

/-- The answer that the convention asks for. -/
def IsQueryAnswer (query : CallEnv × Option Nat) (answer : Except CkRv Reply) : Prop :=
  ∃ length, answer =
    .ok (match query.2 with
      | none => .length length
      | some _ => .tooSmall length)

namespace OutputCall

variable (platform : Platform) (handle : Nat) (c : OutputCall)

/-- With a large enough buffer the call would deliver these bytes. -/
def Gives (s : Hsm) (env : CallEnv) (bytes : Bytes) : Prop :=
  ∃ size, (c.run platform handle env (some size) s).1 = .ok (.bytes bytes)

/-- The bytes are an output of the call, for some state of the nonces. -/
def GivesUpToNonce (s : Hsm) (env : CallEnv) (bytes : Bytes) : Prop :=
  ∃ size counters prefixes, (c.run platform handle env (some size)
    { s with statics :=
      { s.statics with encryptCounters := counters, noncePrefixes := prefixes } }).1 =
    .ok (.bytes bytes)

variable {platform handle c} in
theorem Gives.upToNonce {s : Hsm} (h : c.Gives platform handle s env bytes) :
    c.GivesUpToNonce platform handle s env bytes := by
  obtain ⟨size, h⟩ := h
  exact ⟨size, s.statics.encryptCounters, s.statics.noncePrefixes, h⟩

/-- The answers to queries made in order. -/
def answers (queries : List (CallEnv × Option Nat)) (s : Hsm) : List (Except CkRv Reply) :=
  Program.replies (queries.map fun query ↦ c.run platform handle query.1 query.2) s

/-- The library after the queries. -/
def afterQueries (queries : List (CallEnv × Option Nat)) (s : Hsm) : Hsm :=
  queries.foldl (fun s query ↦ (c.run platform handle query.1 query.2 s).2) s

/-- The convention: every query is answered with a length, the operation stays as it is, and then a
buffer of a reported length gets the output. -/
structure TwoCall (s : Hsm) (queries : List (CallEnv × Option Nat)) : Prop where
  answered : List.Forall₂ IsQueryAnswer queries (c.answers platform handle queries s)
  kept : (c.afterQueries platform handle queries s).operation handle = s.operation handle
  delivered : ∀ reply length, .ok reply ∈ c.answers platform handle queries s →
    reply.reported = some length → ∀ env bytes, c.Gives platform handle s env bytes →
      ∃ bytes', (c.run platform handle env (some length)
          (c.afterQueries platform handle queries s)).1 = .ok (.bytes bytes') ∧
        c.GivesUpToNonce platform handle s env bytes'

end OutputCall

/-- The number of queries with a buffer. -/
def shortQueries (queries : List (CallEnv × Option Nat)) : Nat := queries.countP (·.2.isSome)

/-! ### Queries of a described call -/

section Described

variable {platform : Platform} {s : Hsm} {handle : Nat} {session : Session} {c : OutputCall}
  {d : Delivery}

theorem Delivery.statics_computed (t : Hsm) (statics : CipherStatics) :
    (d.computed statics t).statics = statics := by
  unfold computed
  split <;> rfl

theorem Kept.operation_eq {t : Hsm} (h : Kept s t) : t.operation handle = s.operation handle := by
  obtain ⟨statics, uses, rfl⟩ := h
  rfl

namespace Delivery

variable {env : CallEnv} {size : Nat} {bytes : Bytes} {t : Hsm}

theorem apply_short (hrefuses : d.refusesBelow = 0) (hends : d.endsOnShort = false)
    (hproduce : (d.produce env t.statics).1 = .ok bytes) (hsize : size < bytes.length) :
    d.apply handle session env (some size) t =
      (.ok (.tooSmall bytes.length), d.computed (d.produce env t.statics).2 t) := by
  simp [apply, hrefuses, hproduce, hsize, hends]

theorem apply_fits (hrefuses : d.refusesBelow ≤ size)
    (hproduce : (d.produce env t.statics).1 = .ok bytes) (hsize : bytes.length ≤ size) :
    (d.apply handle session env (some size) t).1 = .ok (.bytes bytes) := by
  simp [apply, Nat.not_lt.mpr hrefuses, hproduce, Nat.not_lt.mpr hsize]

/-- A call that delivers has produced its output, and the buffer holds it. -/
theorem produce_of_apply (h : (d.apply handle session env (some size) t).1 = .ok (.bytes bytes)) :
    (d.produce env t.statics).1 = .ok bytes ∧ bytes.length ≤ size := by
  grind [apply]

/-- A buffer that is refused was too short for the output, if nothing is refused in advance. -/
theorem short_of_apply {length : Nat} (hrefuses : d.refusesBelow = 0)
    (h : (d.apply handle session env (some size) t).1 = .ok (.tooSmall length)) :
    ∃ bytes, (d.produce env t.statics).1 = .ok bytes ∧ length = bytes.length ∧
      (d.apply handle session env (some size) t).2 =
        if d.endsOnShort then (d.computed (d.produce env t.statics).2 t).setOperation handle session
          none
        else d.computed (d.produce env t.statics).2 t := by
  grind [apply]

/-- A length query that is answered reports the length and does nothing. -/
theorem null_of_apply {length : Nat}
    (h : (d.apply handle session env none t).1 = .ok (.length length)) :
    d.length = .ok length ∧ (d.apply handle session env none t).2 = t := by
  grind [apply]

end Delivery

section Queries

variable {queries : List (CallEnv × Option Nat)} (hrun : c.DescribedBy platform s handle session d)
include hrun

theorem OutputCall.gives_iff :
    c.Gives platform handle s env bytes ↔ (d.produce env s.statics).1 = .ok bytes := by
  constructor
  · rintro ⟨size, h⟩
    rw [hrun s (Kept.refl s)] at h
    exact (produce_of_apply h).1
  · intro h
    refine ⟨max d.refusesBelow bytes.length, ?_⟩
    rw [hrun s (Kept.refl s)]
    exact apply_fits (Nat.le_max_left _ _) h (Nat.le_max_right _ _)

omit hrun in
/-- What every query keeps, if its answer is as given, holds after the queries. -/
theorem OutputCall.queries_invariant {I : Nat → Hsm → Prop}
    {G R : CallEnv × Option Nat → Except CkRv Reply → Prop} (hzero : I 0 s)
    (hgiven : List.Forall₂ G queries (c.answers platform handle queries s))
    (hstep : ∀ query ∈ queries, ∀ k t, k + query.2.isSome.toNat ≤ shortQueries queries → I k t →
      G query (c.run platform handle query.1 query.2 t).1 →
        R query (c.run platform handle query.1 query.2 t).1 ∧
          I (k + query.2.isSome.toNat) (c.run platform handle query.1 query.2 t).2) :
    List.Forall₂ R queries (c.answers platform handle queries s) ∧
      I (shortQueries queries) (c.afterQueries platform handle queries s) := by
  have hall := Program.replies_invariant hstep (Nat.zero_add _).le hzero hgiven
  rwa [Nat.zero_add] at hall

/-- Queries along which an invariant of the cipher tables goes on keep the convention, if a buffer
of a good length is filled at the end. The invariant counts the short buffers so far; `P` is what is
known of every reported length. -/
theorem OutputCall.twoCall_of_invariant {I : Nat → CipherStatics → Prop} {P : Nat → Prop}
    (hzero : I 0 s.statics)
    (hnull : ∀ query ∈ queries, query.2 = none → ∃ length, P length ∧ d.length = .ok length)
    (hstep : ∀ query ∈ queries, ∀ size, query.2 = some size → ∀ k < shortQueries queries, ∀ t,
      Kept s t → I k t.statics → ∃ length, P length ∧
        (d.apply handle session query.1 (some size) t).1 = .ok (.tooSmall length) ∧
        Kept s (d.apply handle session query.1 (some size) t).2 ∧
        I (k + 1) (d.apply handle session query.1 (some size) t).2.statics)
    (hlast : ∀ t env bytes length, Kept s t → I (shortQueries queries) t.statics → P length →
      c.Gives platform handle s env bytes → ∃ bytes',
        (d.apply handle session env (some length) t).1 = .ok (.bytes bytes') ∧
        c.GivesUpToNonce platform handle s env bytes') :
    c.TwoCall platform handle s queries := by
  have hasked : List.Forall₂ (fun _ _ ↦ True) queries (c.answers platform handle queries s) :=
    Program.forall₂_replies (fun _ _ ↦ trivial) queries s
  have hall := queries_invariant (I := fun k t ↦ Kept s t ∧ I k t.statics)
    (R := fun query answer ↦ IsQueryAnswer query answer ∧
      ∀ reply length, answer = .ok reply → reply.reported = some length → P length)
    ⟨Kept.refl s, hzero⟩ hasked ?_
  · obtain ⟨hshown, hkept, hinvariant⟩ := hall
    refine ⟨hshown.imp fun _ _ h ↦ h.1, hkept.operation_eq, ?_⟩
    intro reply length hmem heq env bytes hbytes
    obtain ⟨query, -, -, hgood⟩ := Program.exists_mem_of_forall₂ hshown.flip hmem
    rw [hrun _ hkept]
    exact hlast _ env bytes length hkept hinvariant (hgood reply length rfl heq) hbytes
  rintro ⟨env, output⟩ hquery k t hlimit ⟨hkept, hinvariant⟩ _
  rw [hrun t hkept]
  cases output with
  | none =>
    obtain ⟨length, hgood, hlength⟩ := hnull (env, none) hquery rfl
    simp only [apply, hlength]
    exact ⟨⟨⟨length, rfl⟩, by rintro _ _ ⟨⟩ ⟨⟩; exact hgood⟩, hkept, hinvariant⟩
  | some size =>
    obtain ⟨length, hgood, hanswer, hkept', hinvariant'⟩ :=
      hstep (env, some size) hquery size rfl k hlimit t hkept hinvariant
    rw [hanswer]
    exact ⟨⟨⟨length, rfl⟩, by rintro _ _ ⟨⟩ ⟨⟩; exact hgood⟩, hkept', hinvariant'⟩

/-- What a convention that is kept has reported: a length query the length, a short buffer the
length of an output it has computed. After them every output fits into a buffer of the reported
length, for the tables that the short ones have left. -/
theorem OutputCall.TwoCall.reported {J : Nat → CipherStatics → Prop}
    (h : c.TwoCall platform handle s queries) (hrefuses : d.refusesBelow = 0)
    (hends : ∀ query ∈ queries, query.2 ≠ none → d.endsOnShort = false) (hzero : J 0 s.statics)
    (hstep : ∀ k statics env bytes, J k statics → (d.produce env statics).1 = .ok bytes →
      J (k + 1) (d.produce env statics).2) (hquery : query ∈ queries) :
    ∃ length, (query.2 = none → d.length = .ok length) ∧
      (query.2 ≠ none → ∃ k statics bytes, J k statics ∧
        (d.produce query.1 statics).1 = .ok bytes ∧ length = bytes.length) ∧
      ∀ env bytes, c.Gives platform handle s env bytes → ∃ statics output,
        J (shortQueries queries) statics ∧ (d.produce env statics).1 = .ok output ∧
          output.length ≤ length := by
  have hall := queries_invariant (I := fun k t ↦ Kept s t ∧ J k t.statics)
    (R := fun query answer ↦ ∃ reply length, answer = .ok reply ∧ reply.reported = some length ∧
      (query.2 = none → d.length = .ok length) ∧
      (query.2 ≠ none → ∃ k statics bytes, J k statics ∧
        (d.produce query.1 statics).1 = .ok bytes ∧ length = bytes.length))
    ⟨Kept.refl s, hzero⟩ h.answered ?_
  · obtain ⟨hshown, hkept, hinvariant⟩ := hall
    obtain ⟨_, hmem, reply, length, rfl, hreported, hnull, hshort⟩ :=
      Program.exists_mem_of_forall₂ hshown hquery
    refine ⟨length, hnull, hshort, fun env bytes hbytes ↦ ?_⟩
    obtain ⟨output, hdelivered, -⟩ := h.delivered reply length hmem hreported env bytes hbytes
    rw [hrun _ hkept] at hdelivered
    exact ⟨_, output, hinvariant, produce_of_apply hdelivered⟩
  rintro ⟨env, output⟩ hquery k t _ ⟨hkept, hinvariant⟩ ⟨length, hanswer⟩
  rw [hrun t hkept] at hanswer ⊢
  rw [hanswer]
  cases output with
  | none =>
    obtain ⟨hlength, hsame⟩ := null_of_apply hanswer
    rw [hsame]
    exact ⟨⟨_, length, rfl, rfl, fun _ ↦ hlength, nofun⟩, hkept, hinvariant⟩
  | some size =>
    obtain ⟨bytes, hproduce, hlength, hstate⟩ := short_of_apply hrefuses hanswer
    rw [hends (env, some size) hquery nofun, if_neg Bool.false_ne_true] at hstate
    rw [hstate, statics_computed]
    exact ⟨⟨_, length, rfl, rfl, nofun, fun _ ↦
      ⟨k, t.statics, bytes, hinvariant, hproduce, hlength⟩⟩,
      hkept.computed _, hstep k t.statics env bytes hinvariant hproduce⟩

/-- Where a short buffer ends the operation, a convention that is kept has met none. -/
theorem OutputCall.TwoCall.no_short {operation : ActiveOperation}
    (h : c.TwoCall platform handle s queries) (hopen : s.Open handle session)
    (hop : session.activeOperation = some operation) (hrefuses : d.refusesBelow = 0)
    (hends : d.endsOnShort = true) : ∀ query ∈ queries, query.2 = none := by
  -- once the operation has ended, no later query brings it back
  have hall := queries_invariant (I := fun k t ↦ (k = 0 → Kept s t) ∧
      (0 < k → ∃ session, t.Open handle session ∧ session.activeOperation = none))
    (R := fun _ _ ↦ True) ⟨fun _ ↦ Kept.refl s, nofun⟩ h.answered ?_
  · by_contra hshort
    push Not at hshort
    obtain ⟨query, hquery, hsome⟩ := hshort
    obtain ⟨session', hopen', hidle⟩ := hall.2.2
      (List.countP_pos_iff.mpr ⟨query, hquery, Option.isSome_iff_ne_none.mpr hsome⟩)
    have hkept := h.kept
    rw [hopen.operation_eq, hop, hopen'.operation_eq, hidle] at hkept
    cases hkept
  rintro ⟨env, output⟩ hquery k t _ ⟨hkept, hidle⟩ ⟨length, hanswer⟩
  rcases Nat.eq_zero_or_pos k with rfl | hpos
  · rw [hrun t (hkept rfl)] at hanswer ⊢
    cases output with
    | none =>
      rw [(null_of_apply hanswer).2]
      exact ⟨trivial, hkept, hidle⟩
    | some size =>
      obtain ⟨bytes, -, -, hstate⟩ := short_of_apply hrefuses hanswer
      have hended := ((hkept rfl).computed (d := d) (d.produce env t.statics).2).open hopen
      rw [hstate, hends, if_pos rfl]
      exact ⟨trivial, nofun, fun _ ↦ ⟨_, hended.setOperation none, rfl⟩⟩
  · obtain ⟨session', hopen', hnone⟩ := hidle hpos
    rw [run_other hopen' (Session.lacks_of_idle hnone c.type)] at hanswer
    cases hanswer

end Queries

end Described

/-! ### When the convention is kept -/

/-- What is assumed of the platform: the lengths of its outputs, and that AES-GCM does not fail. -/
structure Platform.KeepsLengths (platform : Platform) (modulusLength : Bytes → Nat) : Prop where
  crates : platform.crates.KeepLengths
  gcmTotal : platform.crates.GcmTotal
  digests : platform.backend.KeepsDigestLengths
  signatures : platform.backend.SignatureLengths modulusLength
  oaep : platform.backend.OaepLengths

namespace OutputCall

/-- The convention for queries with given buffers, whatever is drawn at random. -/
def Convention (platform : Platform) (handle : Nat) (c : OutputCall) (s : Hsm)
    (sizes : List (Option Nat)) : Prop :=
  ∀ queries : List (CallEnv × Option Nat), queries.map Prod.snd = sizes →
    (∀ query ∈ queries, ∃ bytes, c.Gives platform handle s query.1 bytes) →
      c.TwoCall platform handle s queries

/-- The buffers among the sizes are too short for every output. -/
def TooShort (platform : Platform) (handle : Nat) (c : OutputCall) (s : Hsm)
    (sizes : List (Option Nat)) : Prop :=
  ∀ size, some size ∈ sizes → ∀ env bytes, c.Gives platform handle s env bytes →
    size < bytes.length

/-- The object and the key with which a call signs. -/
def SignsWith (c : OutputCall) (s : Hsm) (op : SignatureOperation) (obj : StoredObject)
    (key : Bytes) : Prop :=
  (match c.input with
    | some _ => s.objectStore.objects.get? op.keyHandle = some obj
    | none => s.keyOf op.keyHandle op.cachedObject = .ok obj) ∧ obj.keyMaterial = some key

end OutputCall

/-- What is reported for an object is long enough for the signatures of another. -/
def EstimateCovers (modulusLength : Bytes → Nat) (mechanism : Nat) (named obj : StoredObject)
    (key : Bytes) : Prop :=
  ∃ length, signatureEstimate mechanism named = .ok length ∧
    longestSignature modulusLength mechanism obj key ≤ length

/-- The condition under which a call keeps the convention. A key of AES-GCM has to have counter
values left; a mode with an initialisation vector, a signature of varying length and the two final
calls that end their operation must not meet a short buffer; a length query for a signature needs an
estimate that is long enough, and for `C_SignFinal` an object under the key handle. -/
def KeepsConvention (platform : Platform) (modulusLength : Bytes → Nat) (c : OutputCall) (s : Hsm)
    (operation : ActiveOperation) (sizes : List (Option Nat)) : Prop :=
  match operation, c.input with
  | .encrypt op, some _ =>
    (encryptMechanismSupportsMultipart op.mechanism = true → ∀ size, some size ∉ sizes) ∧
      (op.mechanism = ckmAesGcm → ∀ obj key, s.objectStore.objects.get? op.keyHandle = some obj →
        obj.keyMaterial = some key →
          s.statics.encryptCounters[gcmKeyId platform.crates key]?.getD 0 +
            sizes.countP Option.isSome < gcmMaxRandomNonceEncryptions)
  | .sign op, some _ =>
    (signatureVaries op.mechanism = true → ∀ size, some size ∉ sizes) ∧
      (none ∈ sizes → ∀ obj key, c.SignsWith s op obj key →
        EstimateCovers modulusLength op.mechanism obj obj key)
  | .sign op, none =>
    (∀ size, some size ∉ sizes) ∧
      (none ∈ sizes → ∀ obj key, c.SignsWith s op obj key →
        ∃ named, s.objectStore.objects.get? op.keyHandle = some named ∧
          EstimateCovers modulusLength op.mechanism named obj key)
  | .digest _, none => ∀ size, some size ∉ sizes
  | _, _ => True

section Conditions

variable {platform : Platform} {modulusLength : Bytes → Nat} {s : Hsm} {handle : Nat}
  {session : Session} {c : OutputCall} {d : Delivery} {sizes : List (Option Nat)}
  {queries : List (CallEnv × Option Nat)}

theorem mem_sizes (hsizes : queries.map Prod.snd = sizes) (hquery : query ∈ queries) :
    query.2 ∈ sizes :=
  hsizes ▸ List.mem_map_of_mem hquery

theorem shortQueries_eq (hsizes : queries.map Prod.snd = sizes) :
    shortQueries queries = sizes.countP Option.isSome := by
  rw [← hsizes, List.countP_map]
  rfl

/-- Queries with given buffers that all draw the same. -/
def queriesAt (env : CallEnv) (sizes : List (Option Nat)) : List (CallEnv × Option Nat) :=
  sizes.map (env, ·)

theorem queriesAt_sizes (env : CallEnv) (sizes : List (Option Nat)) :
    (queriesAt env sizes).map Prod.snd = sizes := by
  simp [queriesAt]

theorem OutputCall.Convention.twoCall_at (h : c.Convention platform handle s sizes)
    (hgives : c.Gives platform handle s env bytes) :
      c.TwoCall platform handle s (queriesAt env sizes) := by
  refine h _ (queriesAt_sizes env sizes) fun query hquery ↦ ?_
  obtain ⟨size, -, rfl⟩ := List.mem_map.mp hquery
  exact ⟨bytes, hgives⟩

section Sizes

variable (hrun : c.DescribedBy platform s handle session d)
include hrun

/-- A call that leaves the cipher tables alone keeps the convention, if its outputs have one length
wherever it meets a short buffer, and what a length query reports is long enough. -/
theorem OutputCall.convention_of_stateless (hrefuses : d.refusesBelow = 0)
    (hshorts : ∀ size, some size ∈ sizes → d.endsOnShort = false ∧
      (∀ env statics, (d.produce env statics).2 = statics) ∧
      ∀ env env' bytes bytes', c.Gives platform handle s env bytes →
        c.Gives platform handle s env' bytes' → bytes'.length ≤ bytes.length)
    (hnull : none ∈ sizes → ∀ env bytes, c.Gives platform handle s env bytes → ∃ length,
      (∀ env bytes, c.Gives platform handle s env bytes → bytes.length ≤ length) ∧
        d.length = .ok length)
    (hshort : c.TooShort platform handle s sizes) : c.Convention platform handle s sizes := by
  intro queries hsizes hgives
  refine twoCall_of_invariant hrun (I := fun _ statics ↦ statics = s.statics)
    (P := fun length ↦ ∀ env bytes, c.Gives platform handle s env bytes → bytes.length ≤ length) rfl
    ?_ ?_ ?_
  · intro query hquery hnone
    obtain ⟨bytes, hbytes⟩ := hgives query hquery
    exact hnull (hnone ▸ mem_sizes hsizes hquery) _ bytes hbytes
  · intro query hquery size hsize k _ t hkept hstatics
    obtain ⟨bytes, hbytes⟩ := hgives query hquery
    have hmem : some size ∈ sizes := hsize ▸ mem_sizes hsizes hquery
    obtain ⟨hends, hstateless, hone⟩ := hshorts size hmem
    have hproduce := (gives_iff hrun).mp hbytes
    rw [← hstatics] at hproduce
    rw [apply_short hrefuses hends hproduce (hshort size hmem _ _ hbytes)]
    refine ⟨bytes.length, fun env' bytes' hbytes' ↦ hone _ _ _ _ hbytes hbytes', rfl,
      hkept.computed _, ?_⟩
    rw [statics_computed, hstateless, hstatics]
  · intro t env bytes length hkept hstatics hgood hbytes
    have hproduce := (gives_iff hrun).mp hbytes
    rw [← hstatics] at hproduce
    exact ⟨bytes, apply_fits (by omega) hproduce (hgood env bytes hbytes), hbytes.upToNonce⟩

/-- A call that refuses small buffers before it computes keeps the convention. -/
theorem OutputCall.convention_of_refuses {length : Nat} (hrefuses : d.refusesBelow = length)
    (hlength : d.length = .ok length)
    (hfits : ∀ env bytes, (d.produce env s.statics).1 = .ok bytes → bytes.length ≤ length)
    (hshort : c.TooShort platform handle s sizes) : c.Convention platform handle s sizes := by
  intro queries hsizes hgives
  refine twoCall_of_invariant hrun (I := fun _ statics ↦ statics = s.statics)
    (P := (· = length)) rfl (fun _ _ _ ↦ ⟨length, rfl, hlength⟩) ?_ ?_
  · intro query hquery size hsize k _ t hkept hstatics
    obtain ⟨bytes, hbytes⟩ := hgives query hquery
    have hsmall := (hshort size (hsize ▸ mem_sizes hsizes hquery) _ _ hbytes).trans_le
      (hfits _ _ ((gives_iff hrun).mp hbytes))
    simp only [apply, hrefuses, hsmall, if_true]
    exact ⟨length, rfl, rfl, hkept, hstatics⟩
  · rintro t env bytes _ hkept hstatics rfl hbytes
    have hproduce := (gives_iff hrun).mp hbytes
    have hfit := hfits env bytes hproduce
    rw [← hstatics] at hproduce
    exact ⟨bytes, apply_fits hrefuses.le hproduce hfit, hbytes.upToNonce⟩

theorem OutputCall.no_short_of_convention {operation : ActiveOperation}
    (hopen : s.Open handle session)
    (hop : session.activeOperation = some operation) (hrefuses : d.refusesBelow = 0)
    (hends : d.endsOnShort = true) (hgives : c.Gives platform handle s env bytes)
    (h : c.Convention platform handle s sizes) : ∀ size, some size ∉ sizes := fun size hsize ↦
  nomatch (h.twoCall_at hgives).no_short hrun hopen hop hrefuses hends (env, some size)
    (List.mem_map_of_mem hsize)

/-- Without effects on the tables, what is reported has to be long enough: by a length query, and by
a short buffer, which reports the length of its output. -/
theorem OutputCall.TwoCall.covers (hrefuses : d.refusesBelow = 0)
    (hstateless : ∀ env statics, (d.produce env statics).2 = statics)
    (hends : ∀ query ∈ queries, query.2 ≠ none → d.endsOnShort = false)
    (h : c.TwoCall platform handle s queries) (hquery : query ∈ queries) :
    ∃ length, (query.2 = none → d.length = .ok length) ∧
      (query.2 ≠ none → ∀ bytes, c.Gives platform handle s query.1 bytes →
        length = bytes.length) ∧
      ∀ env bytes, c.Gives platform handle s env bytes → bytes.length ≤ length := by
  obtain ⟨length, hnull, hshort, hdelivered⟩ := h.reported hrun
    (J := fun _ statics ↦ statics = s.statics) hrefuses hends rfl
    (fun _ _ _ _ hstatics _ ↦ (hstateless _ _).trans hstatics) hquery
  refine ⟨length, hnull, fun hsome bytes hbytes ↦ ?_, fun env bytes hbytes ↦ ?_⟩
  · obtain ⟨-, _, output, rfl, hproduce, rfl⟩ := hshort hsome
    rw [(gives_iff hrun).mp hbytes] at hproduce
    rw [Except.ok.inj hproduce]
  · obtain ⟨_, output, rfl, hproduce, hsize⟩ := hdelivered env bytes hbytes
    rw [(gives_iff hrun).mp hbytes] at hproduce
    rwa [Except.ok.inj hproduce]

end Sizes

/-! ### The calls one by one -/

section Each

variable {env : CallEnv} {bytes : Bytes}

theorem signParts_length (hplatform : platform.KeepsLengths modulusLength) {op : SignatureOperation}
    {obj : StoredObject} {key signature : Bytes} (hsign : isSignMechanism op.mechanism = true)
    (h : signParts platform env op obj key = .ok signature) :
    SignatureFits modulusLength op.mechanism obj key signature := by
  unfold signParts at h
  split at h
  · exact signPrehashed_length hplatform.signatures h
  · exact signSingleShot_length hplatform.signatures hsign h

/-- A call that signs: its outputs are signatures of one key, it leaves the tables alone, and it
looks at the buffer only when the signature is made. -/
structure OutputCall.SignsAs (platform : Platform) (modulusLength : Bytes → Nat) (handle : Nat)
    (c : OutputCall) (s : Hsm) (d : Delivery) (op : SignatureOperation) (obj : StoredObject)
    (key : Bytes) : Prop where
  refuses_eq : d.refusesBelow = 0
  stateless : ∀ env statics, (d.produce env statics).2 = statics
  longest : ∀ env bytes, c.Gives platform handle s env bytes → bytes.length ≤
    longestSignature modulusLength op.mechanism obj key
  fixed : ∀ env bytes, c.Gives platform handle s env bytes → signatureVaries op.mechanism = false →
    bytes.length = longestSignature modulusLength op.mechanism obj key
  occurs : ∃ env bytes, c.Gives platform handle s env bytes ∧
    bytes.length = longestSignature modulusLength op.mechanism obj key

theorem OutputCall.SignsAs.of_lengths (modulusLength : Bytes → Nat) (op : SignatureOperation)
    (obj : StoredObject) (key : Bytes)
    (hrun : c.DescribedBy platform s handle session d)
    (hrefuses : d.refusesBelow = 0) {sign : CallEnv → HsmResult Bytes}
    (hproduce : ∀ env statics, d.produce env statics = (toAbi (sign env), statics))
    (hlengths : ∀ env signature, sign env = .ok signature →
      SignatureFits modulusLength op.mechanism obj key signature)
    (hgives : c.Gives platform handle s env bytes)
    (hlongest : signatureVaries op.mechanism = true → ∃ env bytes,
      c.Gives platform handle s env bytes ∧
        bytes.length = longestSignature modulusLength op.mechanism obj key) :
    c.SignsAs platform modulusLength handle s d op obj key := by
  have hsigned : ∀ env bytes, c.Gives platform handle s env bytes → sign env = .ok bytes := by
    intro env bytes hbytes
    have h := (gives_iff hrun).mp hbytes
    rw [hproduce] at h
    exact toAbi_eq_ok_iff.mp h
  refine ⟨hrefuses, fun env statics ↦ by rw [hproduce],
    fun env bytes hbytes ↦ (hlengths env bytes (hsigned _ _ hbytes)).1,
    fun env bytes hbytes ↦ (hlengths env bytes (hsigned _ _ hbytes)).2, ?_⟩
  cases hvaries : signatureVaries op.mechanism with
  | true => exact hlongest hvaries
  | false => exact ⟨env, bytes, hgives, (hlengths env bytes (hsigned _ _ hgives)).2 hvaries⟩

section Signing

variable {op : SignatureOperation} {obj : StoredObject} {key : Bytes}
  (hrun : c.DescribedBy platform s handle session d)
  (hsigns : c.SignsAs platform modulusLength handle s d op obj key)
include hrun hsigns

/-- A convention that is kept has an estimate that covers the longest signature. -/
theorem OutputCall.SignsAs.length_covers (hends : ∀ size, some size ∈ sizes → d.endsOnShort = false)
    (h : c.Convention platform handle s sizes) (hnull : none ∈ sizes) :
    ∃ length, d.length = .ok length ∧
      longestSignature modulusLength op.mechanism obj key ≤ length := by
  obtain ⟨env, bytes, hgives, hbytes⟩ := hsigns.occurs
  obtain ⟨length, hlength, -, hcovers⟩ := (h.twoCall_at hgives).covers hrun hsigns.refuses_eq
    hsigns.stateless (fun query hquery hsome ↦ by
      obtain ⟨size, hsize⟩ := Option.ne_none_iff_exists'.mp hsome
      exact hends size (hsize ▸ mem_sizes (queriesAt_sizes env sizes) hquery))
    (List.mem_map_of_mem hnull)
  exact ⟨length, hlength rfl, hbytes ▸ hcovers env bytes hgives⟩

/-- With such an estimate, and a fixed length where a buffer is short, the convention is kept. -/
theorem OutputCall.SignsAs.convention
    (hshorts : ∀ size, some size ∈ sizes → d.endsOnShort = false ∧
      signatureVaries op.mechanism = false)
    (hnull : none ∈ sizes → ∃ length, d.length = .ok length ∧
      longestSignature modulusLength op.mechanism obj key ≤ length)
    (hshort : c.TooShort platform handle s sizes) : c.Convention platform handle s sizes := by
  refine convention_of_stateless hrun hsigns.refuses_eq (fun size hsize ↦ ?_)
    (fun hnone _ _ _ ↦ ?_) hshort
  · obtain ⟨hends, hfixed⟩ := hshorts size hsize
    refine ⟨hends, hsigns.stateless, fun env env' bytes bytes' hbytes hbytes' ↦ ?_⟩
    rw [hsigns.fixed env bytes hbytes hfixed]
    exact hsigns.longest env' bytes' hbytes'
  · obtain ⟨length, hlength, hcovers⟩ := hnull hnone
    exact ⟨length, fun env bytes hbytes ↦ (hsigns.longest env bytes hbytes).trans hcovers, hlength⟩

end Signing

section Encrypting

variable {op : CipherOperation} {obj : StoredObject} {key data : Bytes}

/-- What `C_Encrypt` does with its buffer. -/
structure EncryptsAs (platform : Platform) (op : CipherOperation) (obj : StoredObject)
    (key data : Bytes) (d : Delivery) : Prop where
  length_eq : d.length = estimatedCiphertextLen op.mechanism obj data
  refuses_eq : d.refusesBelow = 0
  produce_eq : ∀ env statics, d.produce env statics = platform.backend.encryptData platform.crates
    env.seed statics op.mechanism op.mechanismParam obj key data
  ends_eq : d.endsOnShort = false

section Tables

variable (hencrypts : EncryptsAs platform op obj key data d)
include hencrypts

theorem EncryptsAs.produce_gcm (hgcm : op.mechanism = ckmAesGcm) (env : CallEnv)
    (statics : CipherStatics) :
    d.produce env statics = (aes256GcmEncrypt platform.crates statics
      (platform.backend.noncePrefix env.seed) key data).map toAbi id := by
  rw [hencrypts.produce_eq, encryptData, if_pos hgcm]

/-- An encryption with AES-GCM takes one counter value. -/
theorem EncryptsAs.counter (hgcm : op.mechanism = ckmAesGcm) {statics : CipherStatics}
    (h : (d.produce env statics).1 = .ok bytes) :
    statics.encryptCounters[gcmKeyId platform.crates key]?.getD 0 < gcmMaxRandomNonceEncryptions ∧
      (d.produce env statics).2.encryptCounters[gcmKeyId platform.crates key]? =
        some (statics.encryptCounters[gcmKeyId platform.crates key]?.getD 0 + 1) := by
  rw [hencrypts.produce_gcm hgcm] at h ⊢
  obtain ⟨haccepts, hcount, noncePrefix, hnoncePart, -⟩ := aes256GcmEncrypt_eq_ok
    (toAbi_eq_ok_iff.mp h)
  obtain ⟨statics', heq, hcounter, -⟩ := aes256GcmEncrypt_eq haccepts hcount hnoncePart
  rw [heq]
  exact ⟨hcount, hcounter⟩

/-- RSA-OAEP leaves the tables alone, and its outputs have one length. -/
theorem EncryptsAs.produce_oaep (hoaep : platform.backend.OaepLengths)
    (hrsa : op.mechanism = ckmRsaPkcsOaep) (env : CallEnv) (statics : CipherStatics) :
    (d.produce env statics).2 = statics ∧ ∀ bytes, (d.produce env statics).1 = .ok bytes →
      ∃ modulus, obj.modulus = some modulus ∧
        bytes.length = (modulus.dropWhile (· == 0)).length := by
  have hgcm : op.mechanism ≠ ckmAesGcm := hrsa ▸ by decide
  have hcbc : op.mechanism ∉ [ckmAesCbc, ckmAesCbcPad] := hrsa ▸ by decide
  have hctr : op.mechanism ≠ ckmAesCtr := hrsa ▸ by decide
  rw [hencrypts.produce_eq, encryptData, if_neg hgcm, if_neg hcbc, if_neg hctr,
    if_pos hrsa]
  exact ⟨rfl, fun bytes h ↦ oaepEncrypt_length hoaep h⟩

end Tables

variable (hrun : c.DescribedBy platform s handle session d)
  (hencrypts : EncryptsAs platform op obj key data d)
include hrun hencrypts

/-- Once a buffer was short, the initialisation vector is used up. -/
theorem EncryptsAs.no_short (hparts : encryptMechanismSupportsMultipart op.mechanism = true)
    (hgives : c.Gives platform handle s env bytes) (h : c.Convention platform handle s sizes) :
    ∀ size, some size ∉ sizes := by
  intro size hsize
  have htwo := h.twoCall_at hgives
  have hquery : (env, some size) ∈ queriesAt env sizes := List.mem_map_of_mem hsize
  obtain ⟨_, -, -, hdelivered⟩ := htwo.reported hrun (J := fun k statics ↦ 0 < k →
      op.mechanismParam ∈ statics.ivTracker[platform.crates.sha256 key]?.getD [])
    hencrypts.refuses_eq (fun _ _ _ ↦ hencrypts.ends_eq) nofun
      (fun k statics env bytes _ hproduce _ ↦ by
      rw [hencrypts.produce_eq] at hproduce ⊢
      exact (encryptData_records hparts hproduce).2) hquery
  obtain ⟨statics, output, hrecorded, hproduce, -⟩ := hdelivered env bytes hgives
  rw [hencrypts.produce_eq] at hproduce
  exact (encryptData_records hparts hproduce).1
    (hrecorded (List.countP_pos_iff.mpr ⟨_, hquery, rfl⟩))

/-- Every short buffer takes a counter value, and one has to be left for the output. -/
theorem EncryptsAs.counters_left (hgcm : op.mechanism = ckmAesGcm)
    (hgives : c.Gives platform handle s env bytes) (h : c.Convention platform handle s sizes) :
    s.statics.encryptCounters[gcmKeyId platform.crates key]?.getD 0 + sizes.countP Option.isSome <
      gcmMaxRandomNonceEncryptions := by
  by_cases hsome : ∃ size, some size ∈ sizes
  swap
  · have hnone : sizes.countP Option.isSome = 0 := by
      rw [List.countP_eq_zero]
      rintro (_ | size) hsize
      · exact Bool.false_ne_true
      · exact absurd ⟨size, hsize⟩ hsome
    rw [hnone]
    exact (hencrypts.counter hgcm ((gives_iff hrun).mp hgives)).1
  obtain ⟨size, hsize⟩ := hsome
  have hquery : (env, some size) ∈ queriesAt env sizes := List.mem_map_of_mem hsize
  obtain ⟨_, -, -, hdelivered⟩ := (h.twoCall_at hgives).reported hrun
    (J := fun k statics ↦ statics.encryptCounters[gcmKeyId platform.crates key]?.getD 0 =
      s.statics.encryptCounters[gcmKeyId platform.crates key]?.getD 0 + k)
    hencrypts.refuses_eq (fun _ _ _ ↦ hencrypts.ends_eq) rfl
    (fun k statics env bytes hcounter hproduce ↦ by
      rw [(hencrypts.counter hgcm hproduce).2, Option.getD_some, hcounter, Nat.add_assoc])
    hquery
  obtain ⟨statics, output, hcounter, hproduce, -⟩ := hdelivered env bytes hgives
  rw [← shortQueries_eq (queriesAt_sizes env sizes), ← hcounter]
  exact (hencrypts.counter hgcm hproduce).1

/-- The tables after some encryptions with a key of AES-GCM, in so far as they matter to it. -/
structure GcmAfter (platform : Platform) (key : Bytes) (first : CipherStatics) (k : Nat)
    (statics : CipherStatics) : Prop where
  tracker : statics.ivTracker = first.ivTracker
  counter : statics.encryptCounters[gcmKeyId platform.crates key]?.getD 0 =
    first.encryptCounters[gcmKeyId platform.crates key]?.getD 0 + k
  stored : statics.noncePrefixes[gcmKeyId platform.crates key]? =
      first.noncePrefixes[gcmKeyId platform.crates key]? ∨
    ∃ noncePrefix, statics.noncePrefixes[gcmKeyId platform.crates key]? = some noncePrefix

variable (hplatform : platform.KeepsLengths modulusLength)
include hplatform

/-- As long as counter values are left, what the call would give at first it also gives later. -/
theorem EncryptsAs.gcm_step (hgcm : op.mechanism = ckmAesGcm) {k : Nat} {statics : CipherStatics}
    (hafter : GcmAfter platform key s.statics k statics)
    (hleft : s.statics.encryptCounters[gcmKeyId platform.crates key]?.getD 0 + k <
      gcmMaxRandomNonceEncryptions) (hgives : c.Gives platform handle s env bytes) :
    ∃ output, (d.produce env statics).1 = .ok output ∧ output.length = data.length + 12 + 16 ∧
      GcmAfter platform key s.statics (k + 1) (d.produce env statics).2 := by
  have hproduce := (gives_iff hrun).mp hgives
  rw [hencrypts.produce_gcm hgcm] at hproduce
  obtain ⟨haccepts, -, noncePrefix, hnoncePart, -⟩ := aes256GcmEncrypt_eq_ok
    (toAbi_eq_ok_iff.mp hproduce)
  have havailable : ∃ noncePrefix, statics.noncePrefixes[gcmKeyId platform.crates key]?.elim
      (platform.backend.noncePrefix env.seed) .ok = .ok noncePrefix := by
    rcases hafter.stored with hsame | ⟨stored, hstored⟩
    · exact ⟨noncePrefix, hsame ▸ hnoncePart⟩
    · exact ⟨stored, by rw [hstored]; rfl⟩
  obtain ⟨available, havailable⟩ := havailable
  obtain ⟨output, statics', heq, hlength, hcounter, hnoncePart, htracker⟩ :=
    aes256GcmEncrypt_total hplatform.crates hplatform.gcmTotal haccepts
      (hafter.counter ▸ hleft) havailable
  rw [hencrypts.produce_gcm hgcm, heq]
  refine ⟨output, rfl, hlength, htracker.trans hafter.tracker, ?_, .inr ⟨available, hnoncePart⟩⟩
  simp [hcounter, hafter.counter, Nat.add_assoc]

/-- With counter values left, AES-GCM keeps the convention: a later output has another nonce. -/
theorem EncryptsAs.convention_gcm (hgcm : op.mechanism = ckmAesGcm)
    (hleft : s.statics.encryptCounters[gcmKeyId platform.crates key]?.getD 0 +
      sizes.countP Option.isSome < gcmMaxRandomNonceEncryptions)
    (hshort : c.TooShort platform handle s sizes) : c.Convention platform handle s sizes := by
  intro queries hsizes hgives
  rw [← shortQueries_eq hsizes] at hleft
  have hfirst : GcmAfter platform key s.statics 0 s.statics := ⟨rfl, rfl, .inl rfl⟩
  refine twoCall_of_invariant hrun (P := (· = data.length + 12 + 16))
    (I := GcmAfter platform key s.statics) hfirst ?_ ?_ ?_
  · intro query hquery hnull
    refine ⟨_, rfl, ?_⟩
    rw [hencrypts.length_eq, estimatedCiphertextLen, if_pos hgcm]
  · rintro ⟨env, _⟩ hquery size rfl k hk t hkept hafter
    obtain ⟨bytes, hbytes⟩ := hgives _ hquery
    obtain ⟨output, hproduce, hlength, hafter'⟩ :=
      hencrypts.gcm_step hrun hplatform hgcm hafter (by omega) hbytes
    have hfits : size < output.length := by
      have hbound := hshort size (mem_sizes hsizes hquery) env bytes hbytes
      obtain ⟨output', hproduce', hlength', -⟩ :=
        hencrypts.gcm_step hrun hplatform hgcm hfirst (by omega) hbytes
      rw [(gives_iff hrun).mp hbytes] at hproduce'
      rw [Except.ok.inj hproduce'] at hbound
      omega
    rw [apply_short hencrypts.refuses_eq hencrypts.ends_eq hproduce hfits]
    refine ⟨output.length, hlength, rfl, hkept.computed _, ?_⟩
    rwa [statics_computed]
  · rintro t env bytes _ hkept hafter rfl hbytes
    obtain ⟨output, hproduce, hlength, -⟩ :=
      hencrypts.gcm_step hrun hplatform hgcm hafter hleft hbytes
    refine ⟨output, apply_fits (by rw [hencrypts.refuses_eq]; omega) hproduce hlength.le,
      output.length, t.statics.encryptCounters, t.statics.noncePrefixes, ?_⟩
    have hstatics : CipherStatics.mk t.statics.encryptCounters t.statics.noncePrefixes
        s.statics.ivTracker = t.statics := by
      rw [← hafter.tracker]
    rw [hstatics, hrun _ ⟨t.statics, s.keyUses, rfl⟩]
    exact apply_fits (by rw [hencrypts.refuses_eq]; omega) hproduce le_rfl

/-- Without short buffers, or with RSA-OAEP, the convention is kept. -/
theorem EncryptsAs.convention_plain
    (hshorts : ∀ size, some size ∈ sizes → op.mechanism = ckmRsaPkcsOaep)
    (hshort : c.TooShort platform handle s sizes) : c.Convention platform handle s sizes := by
  have hestimate : ∀ env bytes, c.Gives platform handle s env bytes → ∃ length,
      estimatedCiphertextLen op.mechanism obj data = .ok length ∧
        bytes.length ≤ length := by
    intro env bytes hbytes
    have hproduce := (gives_iff hrun).mp hbytes
    rw [hencrypts.produce_eq] at hproduce
    exact encryptData_estimate hplatform.crates hplatform.oaep hproduce
  refine convention_of_stateless hrun hencrypts.refuses_eq (fun size hsize ↦ ?_)
    (fun _ env bytes hbytes ↦ ?_) hshort
  · have hrsa := hencrypts.produce_oaep hplatform.oaep (hshorts size hsize)
    refine ⟨hencrypts.ends_eq, fun env statics ↦ (hrsa env statics).1,
      fun env env' bytes bytes' hbytes hbytes' ↦ ?_⟩
    obtain ⟨modulus, hmodulus, hlength⟩ :=
      (hrsa env s.statics).2 bytes ((gives_iff hrun).mp hbytes)
    obtain ⟨modulus', hmodulus', hlength'⟩ :=
      (hrsa env' s.statics).2 bytes' ((gives_iff hrun).mp hbytes')
    obtain rfl := Option.mem_unique hmodulus hmodulus'
    omega
  · obtain ⟨length, hlength, -⟩ := hestimate env bytes hbytes
    refine ⟨length, fun env bytes hbytes ↦ ?_, hencrypts.length_eq.trans hlength⟩
    obtain ⟨length', hlength', hcovers⟩ := hestimate env bytes hbytes
    obtain rfl := Except.ok.inj (hlength.symm.trans hlength')
    exact hcovers

theorem EncryptsAs.convention_iff (hmechanism : isEncryptMechanism op.mechanism = true)
    (hgives : c.Gives platform handle s env bytes) (hshort : c.TooShort platform handle s sizes) :
    c.Convention platform handle s sizes ↔
      (encryptMechanismSupportsMultipart op.mechanism = true → ∀ size, some size ∉ sizes) ∧
        (op.mechanism = ckmAesGcm →
          s.statics.encryptCounters[gcmKeyId platform.crates key]?.getD 0 +
            sizes.countP Option.isSome < gcmMaxRandomNonceEncryptions) := by
  constructor
  · intro h
    exact ⟨fun hparts ↦ hencrypts.no_short hrun hparts hgives h,
      fun hgcm ↦ hencrypts.counters_left hrun hgcm hgives h⟩
  · rintro ⟨hnone, hleft⟩
    by_cases hgcm : op.mechanism = ckmAesGcm
    · exact hencrypts.convention_gcm hrun hplatform hgcm (hleft hgcm) hshort
    · refine hencrypts.convention_plain hrun hplatform (fun size hsize ↦ ?_) hshort
      by_contra hrsa
      refine hnone ?_ size hsize
      simp only [isEncryptMechanism, encryptMechanismSupportsMultipart, decide_eq_true_eq,
        List.mem_cons, List.not_mem_nil, or_false] at hmechanism ⊢
      tauto

end Encrypting

/-- A call that computes without drawing anything or touching the tables, and reports a length that
is long enough, keeps the convention. -/
theorem OutputCall.convention_of_pure
    (hrun : c.DescribedBy platform s handle session d)
    (hrefuses : d.refusesBelow = 0) {result : Except CkRv Bytes}
    (hproduce : ∀ env statics, d.produce env statics = (result, statics))
    (hends : ∀ size, some size ∈ sizes → d.endsOnShort = false)
    (hlength : ∀ bytes, result = .ok bytes → ∃ length, d.length = .ok length ∧
      bytes.length ≤ length)
    (hshort : c.TooShort platform handle s sizes) : c.Convention platform handle s sizes := by
  have hresult : ∀ env bytes, c.Gives platform handle s env bytes → result = .ok bytes := by
    intro env bytes hbytes
    rw [← (gives_iff hrun).mp hbytes, hproduce]
  refine convention_of_stateless hrun hrefuses (fun size hsize ↦ ?_)
    (fun _ env bytes hbytes ↦ ?_) hshort
  · refine ⟨hends size hsize, fun env statics ↦ by rw [hproduce],
      fun env env' bytes bytes' hbytes hbytes' ↦ ?_⟩
    obtain rfl := Except.ok.inj ((hresult _ _ hbytes).symm.trans (hresult _ _ hbytes'))
    exact le_rfl
  · obtain ⟨length, hlength, hcovers⟩ := hlength bytes (hresult _ _ hbytes)
    refine ⟨length, fun env bytes' hbytes' ↦ ?_, hlength⟩
    obtain rfl := Except.ok.inj ((hresult _ _ hbytes).symm.trans (hresult _ _ hbytes'))
    exact hcovers

end Each

end Conditions

/-- A statement about the object that was found and its key. -/
theorem forall_material_iff {obj : StoredObject} {key : Bytes} (hkey : obj.keyMaterial = some key)
    {P : StoredObject → Bytes → Prop} :
    (∀ obj' key', obj = obj' → obj'.keyMaterial = some key' → P obj' key') ↔ P obj key := by
  refine ⟨fun h ↦ h obj key rfl hkey, ?_⟩
  rintro h _ key' rfl hkey'
  rwa [← Option.mem_unique hkey hkey']

/-- The two-call convention. Where a call with a large enough buffer would succeed, queries with a
null buffer and with buffers that are too short are answered with lengths, leave the operation as it
is, and let a buffer of a reported length get the output, exactly under `KeepsConvention`.
Signatures that vary in length are assumed to occur in their longest and in a shorter form. -/
theorem two_call_iff (platform : Platform) (modulusLength : Bytes → Nat)
    (hplatform : platform.KeepsLengths modulusLength) (s : Hsm) (handle : Nat) (session : Session)
    (c : OutputCall) (operation : ActiveOperation) (env : CallEnv) (bytes : Bytes)
    (hopen : s.Open handle session) (hop : session.activeOperation = some operation)
    (hformed : operation.Formed) (hverify : c.type ≠ .verify)
    (hgives : c.Gives platform handle s env bytes) (sizes : List (Option Nat))
    (hshort : c.TooShort platform handle s sizes)
    (hoccurs : ∀ op obj key, operation = .sign op → c.SignsWith s op obj key →
      signatureVaries op.mechanism = true →
      (∃ env bytes, c.Gives platform handle s env bytes ∧
        bytes.length = longestSignature modulusLength op.mechanism obj key) ∧
      ∃ env bytes, c.Gives platform handle s env bytes ∧
        bytes.length < longestSignature modulusLength op.mechanism obj key) :
    c.Convention platform handle s sizes ↔
      KeepsConvention platform modulusLength c s operation sizes := by
  obtain ⟨size, hok⟩ := hgives
  obtain ⟨d, hd⟩ := Delivers.of_ok hopen hop hformed hverify hok
  have hgives : c.Gives platform handle s env bytes := ⟨size, hok⟩
  have hrun := hd.describedBy hplatform.crates hplatform.digests hopen hop
  cases hd with
  | @encrypt op data key obj hlength hobj hkey =>
    rw [EncryptsAs.convention_iff hrun ⟨rfl, rfl, fun _ _ ↦ rfl, rfl⟩ hplatform hformed
      hgives hshort]
    simp [KeepsConvention, hobj, forall_material_iff hkey]
  | @encryptFinal op key obj hparts hobj hkey =>
    refine iff_of_true (convention_of_refuses hrun rfl rfl (fun env bytes hproduce ↦ ?_)
      hshort) trivial
    simp only [encryptParts_eq hparts env.seed obj] at hproduce
    exact encryptData_length hplatform.crates hparts hproduce
  | @decrypt op data key obj hlength hobj hkey =>
    refine iff_of_true (convention_of_pure hrun rfl (fun _ _ ↦ rfl) (fun _ _ ↦ rfl)
      (fun bytes hbytes ↦ ?_) hshort) trivial
    exact decryptData_estimate hplatform.crates hplatform.oaep hbytes
  | @decryptFinal op key obj hparts hobj hkey =>
    refine iff_of_true (convention_of_refuses hrun rfl rfl (fun env bytes hproduce ↦ ?_)
      hshort) trivial
    simp only [decryptParts_eq hparts] at hproduce
    exact decryptData_length hplatform.crates hparts hproduce
  | @sign op data key obj hlength hobj hkey =>
    have hsigns := OutputCall.SignsAs.of_lengths modulusLength op obj key hrun rfl (fun _ _ ↦ rfl)
      (fun _ _ ↦ signSingleShot_length hplatform.signatures hformed) hgives
      (fun hvaries ↦ (hoccurs op obj key rfl ⟨hobj, hkey⟩ hvaries).1)
    simp only [KeepsConvention, OutputCall.SignsWith, hobj, Option.some.injEq, and_imp,
      forall_material_iff hkey]
    refine ⟨fun h ↦ ⟨fun hvaries size hsize ↦ ?_, fun hnull ↦ ?_⟩, fun h ↦ ?_⟩
    · obtain ⟨⟨long, longBytes, hlong, hlonger⟩, brief, briefBytes, hbrief, hbriefer⟩ :=
        hoccurs op obj key rfl ⟨hobj, hkey⟩ hvaries
      obtain ⟨length, -, hbriefLength, hcovers⟩ := (h.twoCall_at hbrief).covers hrun rfl
        (fun _ _ ↦ rfl) (fun _ _ _ ↦ rfl) (List.mem_map_of_mem hsize)
      have hlonger' := hcovers long longBytes hlong
      rw [hbriefLength nofun briefBytes hbrief] at hlonger'
      omega
    · exact hsigns.length_covers hrun (fun _ _ ↦ rfl) h hnull
    · exact hsigns.convention hrun (fun size hsize ↦ ⟨rfl, Bool.eq_false_iff.mpr fun hvaries ↦
        h.1 hvaries size hsize⟩) h.2 hshort
  | @signFinal op key obj hobj hkey =>
    have hsigns := OutputCall.SignsAs.of_lengths modulusLength op obj key hrun rfl (fun _ _ ↦ rfl)
      (fun _ _ ↦ signParts_length hplatform hformed) hgives
      (fun hvaries ↦ (hoccurs op obj key rfl ⟨hobj, hkey⟩ hvaries).1)
    simp only [KeepsConvention, OutputCall.SignsWith, hobj, Except.ok.injEq, and_imp,
      forall_material_iff hkey]
    refine ⟨fun h ↦ ?_, fun h ↦ ?_⟩
    · have hnone := no_short_of_convention hrun hopen hop rfl rfl hgives h
      refine ⟨hnone, fun hnull ↦ ?_⟩
      obtain ⟨length, hlength, hcovers⟩ := hsigns.length_covers hrun
        (fun size hsize ↦ absurd hsize (hnone size)) h hnull
      cases hnamed : s.objectStore.objects.get? op.keyHandle with
      | none =>
        simp only [Hsm.keyOf, ObjectStore.getObject, hnamed] at hlength
        cases hlength
      | some named =>
        simp only [Hsm.keyOf, ObjectStore.getObject, hnamed] at hlength
        exact ⟨named, rfl, length, hlength, hcovers⟩
    · refine hsigns.convention hrun (fun size hsize ↦ absurd hsize (h.1 size)) (fun hnull ↦ ?_)
        hshort
      obtain ⟨named, hnamed, length, hlength, hcovers⟩ := h.2 hnull
      refine ⟨length, ?_, hcovers⟩
      simp only [Hsm.keyOf, ObjectStore.getObject, hnamed]
      exact hlength
  | @digest op data hfresh hlength hmechanism =>
    refine iff_of_true (convention_of_pure hrun rfl (fun _ _ ↦ rfl) (fun _ _ ↦ rfl)
      (fun bytes hbytes ↦ ?_) hshort) trivial
    obtain rfl := Except.ok.inj hbytes
    exact ⟨_, rfl, le_rfl⟩
  | @digestFinal op hasher hhasher hmechanism =>
    refine ⟨fun h ↦ no_short_of_convention hrun hopen hop rfl rfl hgives h, fun h ↦ ?_⟩
    refine convention_of_pure hrun rfl (fun _ _ ↦ rfl)
      (fun size hsize ↦ absurd hsize (h size)) (fun bytes hbytes ↦ ?_) hshort
    obtain rfl := Except.ok.inj hbytes
    exact ⟨_, rfl, (hplatform.digests hasher hmechanism).le⟩

/-! ### An initialisation vector that is used up -/

theorem withKeystream_keepLengths {crates : Crates} (h : crates.KeepLengths)
    (key iv stream : Bytes) : (crates.withKeystream key iv stream).KeepLengths where
  cbcEncrypt := h.cbcEncrypt
  cbcDecrypt := h.cbcDecrypt
  ctrKeystream key' iv' text := by
    simp only [Crates.withKeystream]
    split_ifs <;> simp
  gcmEncrypt := h.gcmEncrypt
  gcmDecrypt := h.gcmDecrypt

theorem keystreamPlatform_keepsLengths (modulusLength : Bytes → Nat) :
    keystreamPlatform.KeepsLengths modulusLength where
  crates := withKeystream_keepLengths (pinAnswers.keepLengths (by decide +kernel)) _ _ _
  gcmTotal := pinAnswers.gcmTotal
  digests := show (recorded []).KeepsDigestLengths from
    recorded_keepsDigestLengths nofun
  signatures := ⟨nofun, nofun, nofun, nofun, nofun, nofun, nofun, nofun, nofun, nofun⟩
  oaep := ⟨nofun, nofun⟩

/-- `C_Encrypt` of one byte. -/
def encryptByte : OutputCall := ⟨.encrypt, some [2]⟩

/-- Two length queries before the encryption of a byte are answered, and then it is encrypted. -/
theorem length_queries_then_ciphertext :
    (cEncrypt keystreamPlatform (callEnvAt 6) firstSession [2] (some 1) ctrStarted).1 =
        .ok (.bytes [0xd1]) ∧
      encryptByte.TwoCall keystreamPlatform firstSession ctrStarted
        [(callEnvAt 6, none), (callEnvAt 7, none)] := by
  have hok : ∀ seconds ∈ [6, 7], (cEncrypt keystreamPlatform (callEnvAt seconds) firstSession [2]
      (some 1) ctrStarted).1 = .ok (.bytes [0xd1]) := by
    decide +kernel
  have hactive : ctrStarted.operation firstSession =
      some (.encrypt ⟨ckmAesCtr, firstObject, ivFives, [], some 0⟩) := by
    decide +kernel
  have hsession : ∃ session, ctrStarted.Open firstSession session ∧
      session.activeOperation = some (.encrypt ⟨ckmAesCtr, firstObject, ivFives, [], some 0⟩) := by
    obtain ⟨session, hsession, hop⟩ := Option.bind_eq_some_iff.mp hactive
    exact ⟨session, ⟨by decide +kernel, hsession⟩, hop⟩
  obtain ⟨session, hopen, hop⟩ := hsession
  have hgives : ∀ seconds ∈ [6, 7],
      encryptByte.Gives keystreamPlatform firstSession ctrStarted (callEnvAt seconds) [0xd1] :=
    fun seconds hseconds ↦ ⟨1, hok seconds hseconds⟩
  have hformed : (ActiveOperation.encrypt ⟨ckmAesCtr, firstObject, ivFives, [], some 0⟩).Formed :=
    show isEncryptMechanism ckmAesCtr = true by decide
  have hkeeps : KeepsConvention keystreamPlatform List.length encryptByte ctrStarted
      (.encrypt ⟨ckmAesCtr, firstObject, ivFives, [], some 0⟩) [none, none] :=
    ⟨fun _ size hsize ↦ by simp at hsize, fun hgcm ↦ absurd hgcm (by decide)⟩
  refine ⟨hok 6 (by decide), (two_call_iff keystreamPlatform List.length
    (keystreamPlatform_keepsLengths _) ctrStarted firstSession session encryptByte _ (callEnvAt 6)
    [0xd1] hopen hop hformed (by decide) (hgives 6 (by decide)) [none, none]
    (fun size hsize ↦ by simp at hsize) (fun _ _ _ hsign ↦ by cases hsign)).mpr hkeeps _ rfl ?_⟩
  intro query hquery
  rcases List.mem_cons.mp hquery with rfl | hquery
  · exact ⟨[0xd1], hgives 6 (by decide)⟩
  · obtain rfl := List.mem_singleton.mp hquery
    exact ⟨[0xd1], hgives 7 (by decide)⟩

/-- A buffer that is too short uses up the initialisation vector: the call with a buffer of the
reported length is refused. A short buffer of `C_DigestFinal` ends the digest. -/
theorem short_buffer_then_refused :
    (cEncrypt keystreamPlatform (callEnvAt 6) firstSession [2] (some 1) ctrStarted).1 =
        .ok (.bytes [0xd1]) ∧
      (cEncrypt keystreamPlatform (callEnvAt 6) firstSession [2] (some 0) ctrStarted).1 =
        .ok (.tooSmall 1) ∧
      (cEncrypt keystreamPlatform (callEnvAt 7) firstSession [2] (some 1)
        (cEncrypt keystreamPlatform (callEnvAt 6) firstSession [2] (some 0) ctrStarted).2).1 =
          .error .mechanismParamInvalid ∧
      (cDigestFinal keystreamPlatform firstSession (some 31)
        (cDigestInit firstSession ckmSha256 cipherLibrary).2).1 = .ok (.tooSmall 32) ∧
      (cDigestFinal keystreamPlatform firstSession (some 31)
        (cDigestInit firstSession ckmSha256 cipherLibrary).2).2.operation firstSession = none := by
  decide +kernel

end CratonHsm
