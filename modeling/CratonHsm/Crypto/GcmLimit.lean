import CratonHsm.Crypto.Encrypt
import CratonHsm.Crypto.KnownAnswers
import CratonHsm.Library.StepSystem

/-!
# The limit of AES-GCM encryptions per key

The counter of a key under concurrent calls of `aes_256_gcm_encrypt` and
`aes_256_gcm_encrypt_with_aad`: a call that passes the length checks makes sure that the counter
exists, and then loads it and exchanges it until it is refused or has its value. In the order in
which the calls come to that point, they get 0, 1, 2 and so on up to the limit, and every later one
is refused (`outcomes_exact`).

Scope. The steps are finer than those of the code, which holds the entry of the key while it tries.
What a call does after it has its value does not touch the counters.
-/

set_option autoImplicit false

namespace CratonHsm.Crypto.GcmLimit

open Library Crypto.Encrypt

/-- What a call that passed the length checks came to. -/
inductive Outcome where
  | taken (count : Nat)
  | refused
  deriving DecidableEq

/-- Where a thread is in its call. -/
inductive Phase where
  | idle
  | looping (key : Bytes)
  | loaded (key : Bytes) (current : Nat)

/-- The tables, the threads, and the outcomes with their keys, in order. -/
structure State (ι : Type) where
  statics : CipherStatics
  phase : ι → Phase
  outcomes : List (Bytes × Outcome)

/-- The steps of a call, which has additional data or not. -/
inductive Step (ι : Type) where
  | call (thread : ι) (key plaintext : Bytes) (aad : Option Bytes)
  | load (thread : ι)
  | exchange (thread : ι)

/-- The key that a step begins a call with. -/
def Step.key? {ι : Type} : Step ι → Option Bytes
  | .call _ key _ _ => some key
  | .load _ | .exchange _ => none

variable {ι : Type} [DecidableEq ι] (crates : Crates) (s : State ι) (key : Bytes)

/-- `GCM_ENCRYPT_COUNTERS` of a key. -/
def State.counter : Nat :=
  s.statics.encryptCounters[gcmKeyId crates key]?.getD 0

def State.setCounter (count : Nat) : State ι :=
  { s with statics := { s.statics with
      encryptCounters := s.statics.encryptCounters.insert (gcmKeyId crates key) count } }

def State.goTo (thread : ι) (phase : Phase) : State ι :=
  { s with phase := Function.update s.phase thread phase }

def State.finish (thread : ι) (key : Bytes) (outcome : Outcome) : State ι :=
  { s.goTo thread .idle with outcomes := s.outcomes ++ [(key, outcome)] }

def State.step : Step ι → State ι
  | .call thread key plaintext _ =>
    match s.phase thread, gcmEncryptAccepts key plaintext with
    -- the entry is created with zero when there is none
    | .idle, .ok () => (s.setCounter crates key (s.counter crates key)).goTo thread (.looping key)
    | _, _ => s
  | .load thread =>
    match s.phase thread with
    | .looping key =>
      if s.counter crates key ≥ gcmMaxRandomNonceEncryptions then s.finish thread key .refused
      else s.goTo thread (.loaded key (s.counter crates key))
    | _ => s
  | .exchange thread =>
    match s.phase thread with
    | .loaded key current =>
      if s.counter crates key = current then
        (s.setCounter crates key (current + 1)).finish thread key (.taken current)
      else s.goTo thread (.looping key)
    | _ => s

/-- A call that no other interrupts does to the tables what `takeCounter` does, and comes to its
result. -/
theorem step_alone {thread : ι} {key plaintext : Bytes} {aad : Option Bytes}
    (hidle : s.phase thread = .idle) (haccepts : gcmEncryptAccepts key plaintext = .ok ())
    {count : Nat} {statics : CipherStatics}
    (htake : takeCounter s.statics (gcmKeyId crates key) = (.ok count, statics)) :
    let after := [.call thread key plaintext aad, .load thread, .exchange thread].foldl
      (State.step crates) s
    (∀ kid : Bytes, after.statics.encryptCounters[kid]? = statics.encryptCounters[kid]?) ∧
      after.outcomes = s.outcomes ++ [(key, .taken count)] := by
  simp only [takeCounter] at htake
  split_ifs at htake with hlimit
  · cases htake
  · obtain ⟨rfl, rfl⟩ : _ ∧ _ := by simpa using htake
    have hroom := Nat.not_le.mp hlimit
    simp [State.step, hidle, haccepts, State.goTo, State.counter, State.setCounter, State.finish,
      Nat.not_le.mpr hroom, getElem?_insert_eq_ite]
    grind

/-- The outcomes of the calls with a key. -/
def State.outcomesOf : List Outcome :=
  (s.outcomes.filter (·.1 = key)).map Prod.snd

/-- What the first `calls` calls come to. -/
def expected (calls : Nat) : List Outcome :=
  (List.range (min calls gcmMaxRandomNonceEncryptions)).map .taken ++
    List.replicate (calls - gcmMaxRandomNonceEncryptions) .refused

theorem expected_succ (calls : Nat) :
    expected (calls + 1) = expected calls ++
      [if calls < gcmMaxRandomNonceEncryptions then .taken calls else .refused] := by
  unfold expected
  split_ifs with h
  · rw [Nat.min_eq_left h, Nat.min_eq_left (Nat.le_of_lt h), List.range_succ,
      Nat.sub_eq_zero_of_le h, Nat.sub_eq_zero_of_le (Nat.le_of_lt h)]
    simp
  · rw [Nat.min_eq_right (by omega), Nat.min_eq_right (by omega),
      Nat.sub_add_comm (Nat.not_lt.mp h),
      List.replicate_succ', List.append_assoc]

/-- The outcomes of a key are those expected, and its counter is the number of values taken. No
other key of a call under way has its identifier. -/
structure Exact (key : Bytes) (s : State ι) : Prop where
  outcomes : s.outcomesOf key = expected (s.outcomesOf key).length
  counter : s.counter crates key = min (s.outcomesOf key).length gcmMaxRandomNonceEncryptions
  loaded : ∀ thread current, s.phase thread = .loaded key current →
    current < gcmMaxRandomNonceEncryptions
  separate : ∀ thread other, (s.phase thread = .looping other ∨
    ∃ current, s.phase thread = .loaded other current) →
      gcmKeyId crates other = gcmKeyId crates key → other = key

variable {crates} {key : Bytes} {s : State ι}

omit [DecidableEq ι] in
theorem counter_setCounter (other : Bytes) (count : Nat) :
    (s.setCounter crates other count).counter crates key =
      if gcmKeyId crates other = gcmKeyId crates key then count else s.counter crates key := by
  simp only [State.counter, State.setCounter, getElem?_insert_eq_ite]
  split_ifs <;> rfl

theorem outcomesOf_finish (thread : ι) (other : Bytes) (outcome : Outcome) :
    (s.finish thread other outcome).outcomesOf key =
      s.outcomesOf key ++ if other = key then [outcome] else [] := by
  simp only [State.outcomesOf, State.finish, List.filter_append, List.map_append]
  by_cases h : other = key <;> simp [h]

theorem Exact.goTo (h : Exact crates key s) {thread : ι} {phase : Phase}
    (hloaded : ∀ current, phase = .loaded key current → current < gcmMaxRandomNonceEncryptions)
    (hseparate : ∀ other, (phase = .looping other ∨ ∃ current, phase = .loaded other current) →
      gcmKeyId crates other = gcmKeyId crates key → other = key) :
    Exact crates key (s.goTo thread phase) where
  outcomes := h.outcomes
  counter := h.counter
  loaded t current ht := by
    by_cases hthread : t = thread
    · exact hloaded current (by simpa [State.goTo, hthread] using ht)
    · exact h.loaded t current (by simpa [State.goTo, hthread] using ht)
  separate t other ht := by
    by_cases hthread : t = thread
    · exact hseparate other (by simpa [State.goTo, hthread] using ht)
    · exact h.separate t other (by simpa [State.goTo, hthread] using ht)

/-- A call returns with the outcome that is next for its key, and the counter follows. -/
theorem Exact.finish (h : Exact crates key s) {s' : State ι} {thread : ι} {other : Bytes}
    {outcome : Outcome} (hphase : s'.phase = s.phase) (houtcomes : s'.outcomes = s.outcomes)
    (hcounter : s'.counter crates key = if other = key then
      min ((s.outcomesOf key).length + 1) gcmMaxRandomNonceEncryptions else s.counter crates key)
    (hnext : other = key → outcome =
      if (s.outcomesOf key).length < gcmMaxRandomNonceEncryptions then
        .taken (s.outcomesOf key).length
      else .refused) :
    Exact crates key (s'.finish thread other outcome) := by
  have hbefore : s'.outcomesOf key = s.outcomesOf key := by
    rw [State.outcomesOf, houtcomes, State.outcomesOf]
  have hsame : (s'.finish thread other outcome).counter crates key = s'.counter crates key := rfl
  have hidle : Exact crates key (s.goTo thread .idle) := h.goTo (by simp) (by simp)
  have hthreads : (s'.finish thread other outcome).phase = (s.goTo thread .idle).phase := by
    simp [State.finish, State.goTo, hphase]
  refine ⟨?_, ?_, hthreads ▸ hidle.loaded, hthreads ▸ hidle.separate⟩
  · rw [outcomesOf_finish, hbefore]
    split_ifs with hkey
    · rw [List.length_append, List.length_singleton, expected_succ, ← hnext hkey, ← h.outcomes]
    · rw [List.append_nil]
      exact h.outcomes
  · rw [outcomesOf_finish, hbefore, hsame, hcounter]
    split_ifs
    · rw [List.length_append, List.length_singleton]
    · rw [List.append_nil]
      exact h.counter

theorem Exact.step (h : Exact crates key s) (label : Step ι)
    (hseparate : ∀ other, label.key? = some other →
      gcmKeyId crates other = gcmKeyId crates key → other = key) :
    Exact crates key (s.step crates label) := by
  cases label with
  | call thread other plaintext aad =>
    simp only [State.step]
    split
    · have hsame : (s.setCounter crates other (s.counter crates other)).counter crates key =
          s.counter crates key := by
        rw [counter_setCounter]
        split_ifs with hid
        · rw [State.counter, hid, State.counter]
        · rfl
      have hcreated : Exact crates key (s.setCounter crates other (s.counter crates other)) :=
        ⟨h.outcomes, hsame.trans h.counter, h.loaded, h.separate⟩
      exact hcreated.goTo (by simp) (by simpa [Step.key?] using hseparate)
    · exact h
  | load thread =>
    simp only [State.step]
    split
    · next other hphase =>
      have hother := h.separate thread other (.inl hphase)
      split_ifs with hlimit
      · refine h.finish rfl rfl ?_ fun hkey ↦ ?_
        · split_ifs with hkey
          · subst hkey
            have := h.counter
            omega
          · rfl
        · subst hkey
          have := h.counter
          rw [if_neg (by omega)]
      · refine h.goTo (fun current hcurrent ↦ ?_) fun _ hnew ↦ ?_
        · simp only [Phase.loaded.injEq] at hcurrent
          omega
        · obtain hnew | ⟨_, hnew⟩ := hnew
          · cases hnew
          · cases hnew
            exact hother
    · exact h
  | exchange thread =>
    simp only [State.step]
    split
    · next other current hphase =>
      have hother := h.separate thread other (.inr ⟨current, hphase⟩)
      split_ifs with hcurrent
      · have hlimit : other = key → current < gcmMaxRandomNonceEncryptions := fun hkey ↦
          h.loaded thread current (hkey ▸ hphase)
        have hcounter := h.counter
        refine h.finish rfl rfl ?_ fun hkey ↦ ?_
        · rw [counter_setCounter]
          split_ifs with hid hkey hkey
          · have := hlimit hkey
            subst hkey
            omega
          · exact absurd (hother hid) hkey
          · exact absurd (congrArg _ hkey) hid
          · rfl
        · have := hlimit hkey
          subst hkey
          rw [if_pos (by omega)]
          congr 1
          omega
      · refine h.goTo (by simp) fun _ hnew ↦ ?_
        obtain hnew | ⟨_, hnew⟩ := hnew
        · cases hnew
          exact hother
        · cases hnew
    · exact h

variable (crates) in
/-- In every run of calls, from tables without a counter for the key, in which no other key has its
identifier: the calls with the key that pass the length checks get 0, 1, 2 and so on up to the limit
and are refused from then on; the counter is the number of values taken; and a call that does not
pass the length checks changes nothing. -/
theorem outcomes_exact (statics : CipherStatics) (key : Bytes)
    (hnew : statics.encryptCounters[gcmKeyId crates key]? = none) (steps : List (Step ι))
    (hseparate : ∀ step ∈ steps, ∀ other, step.key? = some other →
      gcmKeyId crates other = gcmKeyId crates key → other = key) :
    let s := steps.foldl (State.step crates) (⟨statics, fun _ ↦ .idle, []⟩ : State ι)
    s.outcomesOf key = expected (s.outcomesOf key).length ∧
      s.counter crates key = min (s.outcomesOf key).length gcmMaxRandomNonceEncryptions ∧
      ∀ thread other plaintext aad e, gcmEncryptAccepts other plaintext = .error e →
        s.step crates (.call thread other plaintext aad) = s := by
  have hstart : Exact crates key (⟨statics, fun _ ↦ .idle, []⟩ : State ι) := by
    constructor <;> simp [State.outcomesOf, State.counter, hnew, expected]
  have hend := foldl_invariant (fun s step h hstep ↦ h.step step hstep) steps _ hstart
    (.of_forall hseparate)
  refine ⟨hend.outcomes, hend.counter, fun thread other plaintext aad e hrefused ↦ ?_⟩
  simp only [State.step, hrefused]
  split <;> simp_all

/-- Two threads begin a call, load the same value and exchange it; the second has to try again. -/
def racingSteps : List (Step Bool) :=
  [.call false (List.replicate 32 7) [1] none, .call true (List.replicate 32 7) [2] (some [3]),
    .load false, .load true, .exchange false, .exchange true, .load true, .exchange true]

/-- The two calls take the first two counter values, one each. -/
theorem racing_outcomes_exact :
    (racingSteps.foldl (State.step pinAnswers.crates) ⟨.empty, fun _ ↦ .idle, []⟩).outcomesOf
      (List.replicate 32 7) = [.taken 0, .taken 1] := by
  have hexact := (outcomes_exact pinAnswers.crates .empty (List.replicate 32 7)
    (by simp [CipherStatics.empty]) racingSteps
    (by simp [racingSteps, Step.key?])).1
  have hlength : ((racingSteps.foldl (State.step pinAnswers.crates)
      ⟨.empty, fun _ ↦ .idle, []⟩).outcomesOf (List.replicate 32 7)).length = 2 := by decide +kernel
  rw [hlength] at hexact
  exact hexact

end CratonHsm.Crypto.GcmLimit
