import CratonHsm.Daemon.Effects
import CratonHsm.Library.StepSystem

/-!
# The throttle under concurrent logins

Any number of threads serve login requests, each cut into three accesses: the check of the throttle,
the verification of the PIN, and the recording of its outcome. The accesses come in any order and at
any times of a clock that does not go back. A thread that has recorded an outcome may serve another
request.

A success clears the failures of its pair, so more failures than the maximum fit into a cooldown if
there are successes between them (`failures_between_successes`). Failures without a success between
them are bounded by the maximum in every cooldown, a lockout lasts, and the table keeps to its
maximum, in every run in which the attempts of one pair do not overlap and no pair without an entry
is added to a full table (`throttle_limits`). The counter of a pair that is not locked out accounts
for its failures up to a success or to a failure that is a cooldown ago (`Accounted`); this is the
invariant. A login request of the daemon makes these steps (`login_steps`).

Scope. What the PIN verification answers is left open: any answer at any time.
-/

set_option autoImplicit false

namespace CratonHsm.Daemon.ThrottleRuns

open Library Daemon.ThrottleTable
open Std (ExtTreeMap)

/-! ### Threads and steps -/

/-- A PIN verification: of which pair, when, and whether the PIN was right. -/
structure Verification where
  key : ThrottleKey
  time : Nat
  passed : Bool
  deriving DecidableEq

/-- An attempt that has passed the check of the throttle, with the outcome of its verification if it
has come to that. -/
structure Attempt where
  key : ThrottleKey
  outcome : Option Bool
  deriving DecidableEq

/-- The table, the attempt of each thread that serves one, the last reading of the clock, and the
verifications that were made, newest first. -/
structure State where
  table : ThrottleTable
  threads : List (Option Attempt)
  now : Nat
  verifications : List Verification

/-- An empty table, and threads that serve no request. -/
def State.start (threads : Nat) : State := ⟨∅, List.replicate threads none, 0, []⟩

/-- The verifications of a pair, newest first. -/
def State.verificationsOf (s : State) (key : ThrottleKey) : List Verification :=
  s.verifications.filter (·.key = key)

/-- The accesses of a login request. -/
inductive Action where
  | check (key : ThrottleKey)
  | verify (passed : Bool)
  | record (rank : ThrottleKey → Nat)

/-- A thread makes an access at a time. -/
structure Label where
  thread : Nat
  time : Nat
  action : Action

section Steps

variable (maxLoginAttempts loginCooldown : Nat)

/-- A thread moves on, and the clock with it. -/
def State.goto (s : State) (label : Label) (attempt : Option Attempt) : State :=
  { s with threads := s.threads.set label.thread attempt, now := label.time }

section Goto

variable (s : State) (label : Label) (attempt : Option Attempt)

@[simp]
theorem State.goto_table : (s.goto label attempt).table = s.table := rfl

@[simp]
theorem State.goto_now : (s.goto label attempt).now = label.time := rfl

@[simp]
theorem State.goto_verificationsOf (key : ThrottleKey) :
    (s.goto label attempt).verificationsOf key = s.verificationsOf key := rfl

end Goto

/-- The next access of a thread. -/
def access (s : State) (label : Label) : Option Attempt → Action → Option State
  | none, .check key =>
    match s.table.check "login" maxLoginAttempts label.time key with
    | (.error _, table) => some ({ s with table := table }.goto label none)
    | (.ok (), table) => some ({ s with table := table }.goto label (some ⟨key, none⟩))
  | some ⟨key, none⟩, .verify passed =>
    some ({ s with verifications := ⟨key, label.time, passed⟩ :: s.verifications }.goto label
      (some ⟨key, some passed⟩))
  | some ⟨key, some true⟩, .record _ =>
    some ({ s with table := s.table.clearAttempts maxLoginAttempts key }.goto label none)
  | some ⟨key, some false⟩, .record rank =>
    let table := s.table.recordFailure maxLoginAttempts loginCooldown label.time rank key
    some ({ s with table := table }.goto label none)
  | _, _ => none

/-- One access; the clock does not go back. -/
def step (s : State) (label : Label) : Option State :=
  if label.time < s.now then none
  else s.threads[label.thread]?.bind fun attempt ↦
    access maxLoginAttempts loginCooldown s label attempt label.action

end Steps

/-! ### Conditions on runs -/

/-- A check comes when no attempt of its pair is on its way. -/
def State.Alone (s : State) (label : Label) : Bool :=
  match label.action with
  | .check key => s.threads.all fun attempt ↦ attempt.all (·.key ≠ key)
  | _ => true

/-- The entries of the table whose lockout has not ended. -/
def State.live (s : State) (time : Nat) : ThrottleTable :=
  s.table.filter fun _ throttle ↦ !throttle.expiredAt time

/-- The failure of a pair without an entry is not recorded in a full table. -/
def State.HasRoom (s : State) (label : Label) : Bool :=
  match s.threads[label.thread]?, label.action with
  | some (some ⟨key, some false⟩), .record _ =>
    (s.live label.time).contains key || (s.live label.time).size < maxThrottleEntries
  | _, _ => true

/-- The attempts of a pair do not overlap, and the table has room. -/
def State.Undisturbed (s : State) (label : Label) : Prop := s.Alone label ∧ s.HasRoom label

instance (s : State) (label : Label) : Decidable (s.Undisturbed label) :=
  inferInstanceAs (Decidable (_ ∧ _))

/-! ### Histories of one pair -/

section Histories

variable {limit cooldown now count : Nat} {history : List Verification} {v : Verification}

/-- Failures that follow each other and lie within one cooldown are no more than the limit. -/
def Limited (limit cooldown : Nat) (history : List Verification) : Prop :=
  ∀ block, block <:+: history → (∀ v ∈ block, v.passed = false) →
    (∀ v ∈ block, ∀ w ∈ block, v.time < w.time + cooldown) → block.length ≤ limit

/-- The history but for its newest `count` verifications begins with a success or with a
verification that is a cooldown ago. -/
def Accounted (cooldown now count : Nat) (history : List Verification) : Prop :=
  ∃ recent old, history = recent ++ old ∧ recent.length ≤ count ∧
    ∀ v ∈ old.head?, v.passed = true ∨ v.time + cooldown ≤ now

theorem Accounted.mono {later count' : Nat} (h : Accounted cooldown now count history)
    (hnow : now ≤ later) (hcount : count ≤ count') : Accounted cooldown later count' history := by
  obtain ⟨recent, old, heq, hlength, hold⟩ := h
  exact ⟨recent, old, heq, hlength.trans hcount,
    fun v hv ↦ (hold v hv).imp_right (·.trans hnow)⟩

theorem Accounted.cons (h : Accounted cooldown now count history) (v : Verification) :
    Accounted cooldown now (count + 1) (v :: history) := by
  obtain ⟨recent, old, rfl, hlength, hold⟩ := h
  exact ⟨v :: recent, old, rfl, Nat.succ_le_succ hlength, hold⟩

theorem accounted_of_passed (hpassed : v.passed = true) :
    Accounted cooldown now 0 (v :: history) :=
  ⟨[], v :: history, rfl, le_rfl, fun w hw ↦ Or.inl (by cases hw; exact hpassed)⟩

theorem accounted_of_ago (h : ∀ v ∈ history, v.time + cooldown ≤ now) :
    Accounted cooldown now 0 history :=
  ⟨[], history, rfl, le_rfl, fun v hv ↦ Or.inr (h v (List.mem_of_mem_head? hv))⟩

/-- One more failure stays within the limit if the counter was below it. -/
theorem Limited.cons (h : Limited limit cooldown history)
    (haccounted : Accounted cooldown v.time count history) (hcount : count < limit) :
    Limited limit cooldown (v :: history) := by
  intro block hblock hfailed hwithin
  rcases List.infix_cons_iff.mp hblock with hfirst | hlater
  · -- The block reaches from the new failure back, and stops before the older part.
    obtain ⟨recent, old, rfl, hlength, hold⟩ := haccounted
    cases block with
    | nil => exact Nat.zero_le limit
    | cons w block =>
      obtain ⟨rfl, hback⟩ := List.cons_prefix_cons.mp hfirst
      have hshort : block.length ≤ recent.length := by
        by_contra hlong
        obtain ⟨rest, rfl⟩ := List.prefix_of_prefix_length_le (List.prefix_append recent old) hback
          (Nat.le_of_not_le hlong)
        cases rest with
        | nil => simp at hlong
        | cons x rest =>
          obtain ⟨tail, rfl⟩ := (List.prefix_append_right_inj recent).mp hback
          rcases hold x rfl with hpassed | hago
          · simp [hfailed x (by simp)] at hpassed
          · exact absurd (hwithin w (by simp) x (by simp)) (Nat.not_lt.mpr hago)
      calc (w :: block).length = block.length + 1 := rfl
        _ ≤ count + 1 := Nat.succ_le_succ (hshort.trans hlength)
        _ ≤ limit := hcount
  · exact h block hlater hfailed hwithin

theorem Limited.cons_passed (h : Limited limit cooldown history) (hpassed : v.passed = true) :
    Limited limit cooldown (v :: history) := by
  intro block hblock hfailed hwithin
  rcases List.infix_cons_iff.mp hblock with hfirst | hlater
  · cases block with
    | nil => exact Nat.zero_le limit
    | cons w block =>
      obtain rfl : w = v := (List.cons_prefix_cons.mp hfirst).1
      rw [hfailed w List.mem_cons_self] at hpassed
      cases hpassed
  · exact h block hlater hfailed hwithin

end Histories

/-! ### What a step does -/

/-- The entry does not lock its pair out. -/
def Unlocked (entry : Option LoginThrottle) : Prop :=
  ∀ throttle, entry = some throttle → throttle.lockoutUntil = none

/-- The failures of an entry. -/
def failures (entry : Option LoginThrottle) : Nat := (entry.map (·.failedAttempts)).getD 0

/-- The thread serves an attempt. -/
def State.Serves (s : State) (thread : Nat) (attempt : Attempt) : Prop :=
  s.threads[thread]? = some (some attempt)

section Effects

variable {maxLoginAttempts loginCooldown : Nat} {s t : State} {label : Label}

theorem goto_serves {old attempt : Option Attempt} (hold : s.threads[label.thread]? = some old)
    {thread : Nat} {other : Attempt} :
    (s.goto label attempt).Serves thread other ↔
      if label.thread = thread then attempt = some other else s.Serves thread other := by
  obtain ⟨hlt, -⟩ := List.getElem?_eq_some_iff.mp hold
  unfold State.Serves State.goto
  rw [List.getElem?_set]
  split_ifs <;> simp

/-- What a step does. A check lets a pair through with its entry as it is, or with a new one after a
lockout that has ended. -/
inductive StepEffect (maxLoginAttempts loginCooldown : Nat) (s : State) (label : Label) :
    State → Prop
  | refused {key : ThrottleKey} {throttle : LoginThrottle} {deadline : Nat}
      (hidle : s.threads[label.thread]? = some none) (hentry : s.table[key]? = some throttle)
      (hlockout : throttle.lockoutUntil = some deadline) (hlocked : label.time < deadline) :
      StepEffect maxLoginAttempts loginCooldown s label (s.goto label none)
  | renewed {key : ThrottleKey} {throttle : LoginThrottle} {deadline : Nat}
      (haction : label.action = .check key) (hidle : s.threads[label.thread]? = some none)
      (hentry : s.table[key]? = some throttle) (hlockout : throttle.lockoutUntil = some deadline)
      (hended : deadline ≤ label.time) :
      StepEffect maxLoginAttempts loginCooldown s label
        ({ s with table := s.table.insert key ⟨0, none⟩ }.goto label (some ⟨key, none⟩))
  | admitted {key : ThrottleKey} (haction : label.action = .check key)
      (hidle : s.threads[label.thread]? = some none) (hentry : Unlocked s.table[key]?) :
      StepEffect maxLoginAttempts loginCooldown s label (s.goto label (some ⟨key, none⟩))
  | verified {key : ThrottleKey} (passed : Bool) (hserves : s.Serves label.thread ⟨key, none⟩) :
      StepEffect maxLoginAttempts loginCooldown s label
        ({ s with verifications := ⟨key, label.time, passed⟩ :: s.verifications }.goto label
          (some ⟨key, some passed⟩))
  | cleared {key : ThrottleKey} (hserves : s.Serves label.thread ⟨key, some true⟩) :
      StepEffect maxLoginAttempts loginCooldown s label
        ({ s with table := s.table.erase key }.goto label none)
  | recorded {key : ThrottleKey} (rank : ThrottleKey → Nat) (haction : label.action = .record rank)
      (hserves : s.Serves label.thread ⟨key, some false⟩) :
      StepEffect maxLoginAttempts loginCooldown s label
        ({ s with
          table := s.table.recordFailure maxLoginAttempts loginCooldown label.time rank key }.goto
            label none)

theorem step_effect (hmax : 0 < maxLoginAttempts)
    (hstep : step maxLoginAttempts loginCooldown s label = some t) :
    s.now ≤ label.time ∧ StepEffect maxLoginAttempts loginCooldown s label t := by
  unfold step at hstep
  split_ifs at hstep with hclock
  refine ⟨Nat.le_of_not_lt hclock, ?_⟩
  obtain ⟨attempt, hthread, hstep⟩ := Option.bind_eq_some_iff.mp hstep
  cases haction : label.action with
  | check key =>
    rw [haction] at hstep
    cases attempt with
    | some attempt => obtain ⟨_, _ | _ | _⟩ := attempt <;> cases hstep
    | none =>
      rcases check_cases hmax label.time key s.table "login" with
        ⟨throttle, deadline, hentry, hlockout, hlocked, e, heq⟩ |
        ⟨throttle, deadline, hentry, hlockout, hended, heq⟩ | ⟨hentry, heq⟩
      · simp only [access, heq, Option.some.injEq] at hstep
        subst hstep
        exact .refused hthread hentry hlockout hlocked
      · simp only [access, heq, Option.some.injEq] at hstep
        subst hstep
        exact .renewed haction hthread hentry hlockout hended
      · simp only [access, heq, Option.some.injEq] at hstep
        subst hstep
        exact .admitted haction hthread hentry
  | verify passed =>
    rw [haction] at hstep
    obtain _ | ⟨key, _ | _ | _⟩ := attempt <;> cases hstep
    exact .verified passed hthread
  | record rank =>
    rw [haction] at hstep
    obtain _ | ⟨key, _ | _ | _⟩ := attempt <;> cases hstep
    · exact .recorded rank haction hthread
    · have hclear : s.table.clearAttempts maxLoginAttempts key = s.table.erase key :=
        if_neg (Nat.ne_of_gt hmax)
      rw [hclear]
      exact .cleared hthread

theorem step_now (hmax : 0 < maxLoginAttempts)
    (hstep : step maxLoginAttempts loginCooldown s label = some t) : s.now ≤ t.now := by
  obtain ⟨hclock, heffect⟩ := step_effect hmax hstep
  cases heffect <;> exact hclock

end Effects

/-! ### The invariant -/

/-- How far the attempt of a pair has come: no outcome yet, or an outcome that is not recorded. -/
def State.Stage (s : State) (key : ThrottleKey) : Option Bool → Prop
  | none => ∀ thread passed, ¬s.Serves thread ⟨key, some passed⟩
  | some passed => ∃ thread, s.Serves thread ⟨key, some passed⟩

/-- The failures of a pair that its counter stands for at a stage of its attempt. -/
def due (count : Nat) : Option Bool → Nat
  | none => count
  | some false => count + 1
  | some true => 0

/-- An entry that does not lock its pair out is below the limit and accounts for the failures. -/
def Explains (limit cooldown now : Nat) (entry : Option LoginThrottle) (stage : Option Bool)
    (history : List Verification) : Prop :=
  Unlocked entry → failures entry < limit ∧
    Accounted cooldown now (due (failures entry) stage) history

/-- What undisturbed steps preserve. -/
structure Inv (limit cooldown : Nat) (s : State) : Prop where
  size_le : s.table.size ≤ maxThrottleEntries
  times : ∀ v ∈ s.verifications, v.time ≤ s.now
  limited : ∀ key, Limited limit cooldown (s.verificationsOf key)
  apart : ∀ i j a b, s.Serves i a → s.Serves j b → a.key = b.key → i = j
  free : ∀ i a, s.Serves i a → Unlocked s.table[a.key]?
  locked : ∀ (key : ThrottleKey) throttle deadline, s.table[key]? = some throttle →
    throttle.lockoutUntil = some deadline → ∀ v ∈ s.verificationsOf key,
      v.time + cooldown ≤ deadline
  explained : ∀ key stage, s.Stage key stage →
    Explains limit cooldown s.now s.table[key]? stage (s.verificationsOf key)

section Invariant

variable {limit cooldown : Nat} {s : State} {label : Label} {key : ThrottleKey}
  {entry : Option LoginThrottle} {history : List Verification}

theorem Explains.later {now later : Nat} {stage : Option Bool}
    (h : Explains limit cooldown now entry stage history) (hlater : now ≤ later) :
    Explains limit cooldown later entry stage history :=
  fun hentry ↦ (h hentry).imp_right (·.mono hlater le_rfl)

variable {now : Nat} {old attempt : Option Attempt} {table : ThrottleTable} {t : State}

theorem explains_of_ago (hlimit : 0 < limit) (hentry : failures entry = 0)
    (h : ∀ v ∈ history, v.time + cooldown ≤ now) :
    Explains limit cooldown now entry none history := by
  intro _
  rw [hentry]
  exact ⟨hlimit, accounted_of_ago h⟩

theorem Inv.start (hlimit : 0 < limit) (threads : Nat) : Inv limit cooldown (.start threads) := by
  have hserves (i : Nat) (a : Attempt) : ¬(State.start threads).Serves i a := by
    simp [State.Serves, State.start, List.getElem?_replicate]
  have hentry (key : ThrottleKey) : (State.start threads).table[key]? = none :=
    ExtTreeMap.getElem?_empty
  refine ⟨Nat.zero_le _, nofun, fun key block hblock _ _ ↦ ?_, fun i j a b h ↦
    absurd h (hserves i a),
    fun i a h ↦ absurd h (hserves i a), fun key throttle deadline h ↦ ?_, fun key stage hstage ↦ ?_⟩
  · rw [List.infix_nil.mp hblock]
    exact Nat.zero_le limit
  · rw [hentry] at h
    cases h
  · rw [hentry]
    cases stage with
    | none => exact explains_of_ago hlimit rfl nofun
    | some passed =>
      obtain ⟨thread, hthread⟩ := hstage
      exact absurd hthread (hserves thread _)

/-- A thread that has no outcome of a pair, neither before its access nor after it, leaves the pair
at its stage. -/
theorem stage_of_goto {stage : Option Bool} (h : (s.goto label attempt).Stage key stage)
    (hold : s.threads[label.thread]? = some old) (hbefore : ∀ passed, old ≠ some ⟨key, some passed⟩)
    (hafter : ∀ passed, attempt ≠ some ⟨key, some passed⟩) : s.Stage key stage := by
  cases stage with
  | none =>
    intro thread passed hthread
    refine h thread passed ((goto_serves hold).mpr ?_)
    split_ifs with hmine
    · subst hmine
      exact absurd (Option.mem_unique hold hthread) (hbefore passed)
    · exact hthread
  | some passed =>
    obtain ⟨thread, hthread⟩ := h
    rw [goto_serves hold] at hthread
    split_ifs at hthread
    · exact absurd hthread (hafter passed)
    · exact ⟨thread, hthread⟩

/-- A step that leaves the table and the verifications alone, and no thread at another stage. -/
theorem Inv.refused (h : Inv limit cooldown s) (hclock : s.now ≤ label.time)
    (hidle : s.threads[label.thread]? = some none) : Inv limit cooldown (s.goto label none) := by
  have hserves {i : Nat} {a : Attempt} : (s.goto label none).Serves i a ↔ s.Serves i a := by
    rw [goto_serves hidle]
    split_ifs with hthread
    · subst hthread
      simp [State.Serves, hidle]
    · rfl
  refine ⟨h.size_le, fun v hv ↦ (h.times v hv).trans hclock, h.limited, ?_, ?_, h.locked, ?_⟩
  · simpa [hserves] using h.apart
  · simpa [hserves] using h.free
  · exact fun key stage hstage ↦
      (h.explained key stage (stage_of_goto hstage hidle nofun nofun)).later hclock

/-- An access to the table: the attempt of a pair begins, or its outcome is recorded. No other
attempt of the pair is on its way, and the table may lose entries whose lockout has ended. -/
theorem Inv.moved (hlimit : 0 < limit) (h : Inv limit cooldown s) (hclock : s.now ≤ label.time)
    (hold : s.threads[label.thread]? = some old) (hmine : ∀ a, old = some a → a.key = key)
    (halone : ∀ i a, s.Serves i a → a.key = key → label.thread = i)
    (hnew : ∀ a, attempt = some a → a = ⟨key, none⟩ ∧ Unlocked table[key]?)
    (hsize : table.size ≤ maxThrottleEntries)
    (hothers : ∀ other, key ≠ other → table[other]? = s.table[other]? ∨
      table[other]? = none ∧ ∃ throttle deadline, s.table[other]? = some throttle ∧
        throttle.lockoutUntil = some deadline ∧ deadline ≤ label.time)
    (hlocked : ∀ throttle deadline, table[key]? = some throttle →
      throttle.lockoutUntil = some deadline → label.time + cooldown ≤ deadline)
    (hexplains : Explains limit cooldown label.time table[key]? none (s.verificationsOf key)) :
    Inv limit cooldown ({ s with table := table }.goto label attempt) := by
  have hserves {i : Nat} {a : Attempt}
      (hi : ({ s with table := table }.goto label attempt).Serves i a) :
      (label.thread = i ∧ a = ⟨key, none⟩ ∧ Unlocked table[key]?) ∨
        label.thread ≠ i ∧ s.Serves i a ∧ key ≠ a.key := by
    rw [goto_serves (s := { s with table := table }) hold] at hi
    split_ifs at hi with hthread
    · exact Or.inl ⟨hthread, hnew a hi⟩
    · exact Or.inr ⟨hthread, hi, fun hkey ↦ hthread (halone i a hi hkey.symm)⟩
  constructor
  case size_le => exact hsize
  case times => exact fun v hv ↦ (h.times v hv).trans hclock
  case limited => exact h.limited
  case apart =>
    have := h.apart
    grind
  case free =>
    have := h.free
    simp only [State.goto_table]
    grind [Unlocked]
  case locked =>
    intro other throttle deadline hget hlockout v (hv : v ∈ s.verificationsOf other)
    have htime : v.time ≤ label.time := (h.times v (List.mem_of_mem_filter hv)).trans hclock
    have := h.locked other throttle deadline
    rw [State.goto_table] at hget
    rcases eq_or_ne key other with rfl | hne <;> grind
  case explained =>
    intro other stage hother
    rcases eq_or_ne key other with rfl | hne
    · cases stage with
      | none => exact hexplains
      | some outcome =>
        obtain ⟨thread, hthread⟩ := hother
        rcases hserves hthread with ⟨-, hsame, -⟩ | ⟨-, -, hkey⟩
        · cases hsame
        · exact absurd rfl hkey
    · have hstage : s.Stage other stage :=
        stage_of_goto (s := { s with table := table }) hother hold
          (fun _ hbefore ↦ hne (hmine _ hbefore).symm)
          fun _ hafter ↦ by cases (hnew _ hafter).1
      rw [State.goto_table]
      rcases hothers other hne with hsame | ⟨hnone, throttle, deadline, hget, hlockout, hended⟩
      · rw [hsame]
        exact (h.explained other stage hstage).later hclock
      · -- The pair was locked out, so it has no attempt on its way.
        rw [hnone]
        cases stage with
        | none =>
          exact explains_of_ago hlimit rfl fun v hv ↦
            (h.locked other throttle deadline hget hlockout v hv).trans hended
        | some outcome =>
          obtain ⟨thread, hthread⟩ := hstage
          have hunlocked := h.free thread _ hthread throttle hget
          rw [hlockout] at hunlocked
          cases hunlocked

/-- An attempt begins: no other one of its pair is on its way, and its pair is not locked out. -/
theorem Inv.begin (hlimit : 0 < limit) (h : Inv limit cooldown s) (hclock : s.now ≤ label.time)
    (hidle : s.threads[label.thread]? = some none) (halone : ∀ i a, s.Serves i a → a.key ≠ key)
    (hsize : table.size ≤ maxThrottleEntries)
    (hothers : ∀ other, key ≠ other → table[other]? = s.table[other]?)
    (hentry : Unlocked table[key]?)
    (hexplains : Explains limit cooldown label.time table[key]? none (s.verificationsOf key)) :
    Inv limit cooldown ({ s with table := table }.goto label (some ⟨key, none⟩)) := by
  refine h.moved hlimit hclock hidle nofun (fun i a hi hkey ↦ absurd hkey (halone i a hi))
    (fun a ha ↦ ⟨(Option.some.inj ha).symm, hentry⟩) hsize
    (fun other hne ↦ Or.inl (hothers other hne)) (fun throttle deadline hget hlockout ↦ ?_)
      hexplains
  rw [hentry throttle hget] at hlockout
  cases hlockout

/-- The PIN of an attempt is verified. The counter of its pair has accounted for the failures so far
and is below the limit, so one more failure is within it. -/
theorem Inv.verified (h : Inv limit cooldown s) (hclock : s.now ≤ label.time)
    (hmine : s.Serves label.thread ⟨key, none⟩) (passed : Bool) :
    Inv limit cooldown
      ({ s with verifications := ⟨key, label.time, passed⟩ :: s.verifications }.goto label
        (some ⟨key, some passed⟩)) := by
  have hserves {i : Nat} {a : Attempt} :
      ({ s with verifications := ⟨key, label.time, passed⟩ :: s.verifications }.goto label
        (some ⟨key, some passed⟩)).Serves i a ↔
          if label.thread = i then some ⟨key, some passed⟩ = some a else s.Serves i a :=
    goto_serves hmine
  have hhistory (other : ThrottleKey) :
      State.verificationsOf { s with verifications := ⟨key, label.time, passed⟩ :: s.verifications }
        other = if key = other then ⟨key, label.time, passed⟩ :: s.verificationsOf other
          else s.verificationsOf other := by
    simp [State.verificationsOf, List.filter_cons]
  have hunlocked : Unlocked s.table[key]? := h.free label.thread _ hmine
  have hwaiting : s.Stage key none := fun thread outcome hthread ↦ by
    obtain rfl := h.apart label.thread thread _ _ hmine hthread rfl
    have hsame : some (some (⟨key, none⟩ : Attempt)) = some (some ⟨key, some outcome⟩) :=
      hmine.symm.trans hthread
    cases hsame
  obtain ⟨hcount, haccounted⟩ := (h.explained key none hwaiting).later hclock hunlocked
  constructor
  case size_le => exact h.size_le
  case times =>
    intro v hv
    rcases List.mem_cons.mp hv with rfl | hv
    · exact le_rfl
    · exact (h.times v hv).trans hclock
  case limited =>
    intro other
    rw [State.goto_verificationsOf, hhistory]
    split_ifs with hkey
    · subst hkey
      cases passed with
      | true => exact (h.limited key).cons_passed rfl
      | false => exact (h.limited key).cons haccounted hcount
    · exact h.limited other
  case apart =>
    have := h.apart
    grind
  case free =>
    have := h.free
    simp only [State.goto_table]
    grind
  case locked =>
    have := h.locked
    simp only [State.goto_table, State.goto_verificationsOf, hhistory]
    grind [Unlocked]
  case explained =>
    intro other stage hother
    rw [State.goto_verificationsOf, hhistory]
    split_ifs with hkey
    · subst hkey
      cases stage with
      | none => exact absurd (hserves.mpr (by rw [if_pos rfl])) (hother label.thread passed)
      | some outcome =>
        obtain ⟨thread, hthread⟩ := hother
        rw [hserves] at hthread
        split_ifs at hthread
        · cases hthread
          cases passed with
          | true => exact fun _ ↦ ⟨hcount, accounted_of_passed rfl⟩
          | false => exact fun _ ↦ ⟨hcount, haccounted.cons _⟩
        · exact absurd hthread (hwaiting thread outcome)
    · refine (h.explained other stage ?_).later hclock
      exact stage_of_goto (s := { s with verifications := _ }) hother hmine nofun
        fun _ hnew ↦ hkey (by cases hnew; rfl)

theorem Inv.cleared (hlimit : 0 < limit) (h : Inv limit cooldown s) (hclock : s.now ≤ label.time)
    (hmine : s.Serves label.thread ⟨key, some true⟩) :
    Inv limit cooldown ({ s with table := s.table.erase key }.goto label none) := by
  have hnone : (s.table.erase key)[key]? = none := by rw [getElem?_erase_eq_ite, if_pos rfl]
  obtain ⟨-, haccounted⟩ := (h.explained key (some true) ⟨_, hmine⟩).later hclock (h.free _ _ hmine)
  refine h.moved hlimit hclock hmine (by rintro _ ⟨⟩; rfl)
    (fun i a hi hkey ↦ h.apart _ i _ a hmine hi hkey.symm) nofun
    (ExtTreeMap.size_erase_le.trans h.size_le) (fun other hne ↦ Or.inl ?_)
      (fun throttle deadline hget ↦ ?_) ?_
  · rw [getElem?_erase_eq_ite, if_neg hne]
  · rw [hnone] at hget
    cases hget
  · rw [hnone]
    exact fun _ ↦ ⟨hlimit, haccounted⟩

/-- The counter of a pair below the limit grows by one. -/
theorem failed_eq (hentry : Unlocked entry) (hbound : limit < 2 ^ 32)
    (hcount : failures entry < limit) :
    failed limit cooldown now (entry.getD ⟨0, none⟩) = ⟨failures entry + 1,
      if failures entry + 1 ≥ limit then some (now + cooldown) else none⟩ := by
  have hfailures : (entry.getD ⟨0, none⟩).failedAttempts = failures entry := by
    cases entry <;> rfl
  have hlockout : (entry.getD ⟨0, none⟩).lockoutUntil = none := by
    cases entry with
    | none => rfl
    | some throttle => exact hentry throttle rfl
  unfold ThrottleTable.failed
  rw [hfailures, hlockout, Nat.min_eq_left (by omega)]

theorem Inv.recorded (hlimit : 0 < limit) (hbound : limit < 2 ^ 32) (h : Inv limit cooldown s)
    (hclock : s.now ≤ label.time) (hmine : s.Serves label.thread ⟨key, some false⟩)
    (hroom : (s.live label.time).contains key = true ∨
      (s.live label.time).size < maxThrottleEntries)
    (rank : ThrottleKey → Nat) :
    Inv limit cooldown ({ s with
      table := s.table.recordFailure limit cooldown label.time rank key }.goto label none) := by
  have hlive (other : ThrottleKey) :
      (s.live label.time)[other]? = s.table[other]?.filter fun throttle ↦
        !throttle.expiredAt label.time :=
    getElem?_filter_value other
  have hunlocked := h.free _ _ hmine
  have hkept : (s.live label.time)[key]? = s.table[key]? := by
    rw [hlive]
    cases hentry : s.table[key]? with
    | none => rfl
    | some throttle =>
      have hnone := hunlocked throttle hentry
      exact Option.filter_some_pos (by simp [LoginThrottle.expiredAt, hnone])
  obtain ⟨hcount, haccounted⟩ := (h.explained key (some false) ⟨_, hmine⟩).later hclock hunlocked
  have htable : s.table.recordFailure limit cooldown label.time rank key =
      (s.live label.time).insert key ⟨failures s.table[key]? + 1,
        if failures s.table[key]? + 1 ≥ limit then some (label.time + cooldown) else none⟩ := by
    rw [recordFailure_of_room hlimit label.time key s.table cooldown rank
      (ExtTreeMap.size_filter_le_size.trans h.size_le)]
    change (s.live label.time).insert key (failed _ _ _ ((s.live label.time)[key]?.getD _)) = _
    rw [hkept, failed_eq hunlocked hbound hcount]
  rw [htable]
  refine h.moved hlimit hclock hmine (by rintro _ ⟨⟩; rfl)
    (fun i a hi hkey ↦ h.apart _ i _ a hmine hi hkey.symm) nofun ?_ (fun other hne ↦ ?_)
    (fun throttle deadline hget hlockout ↦ ?_) ?_
  · rw [ExtTreeMap.size_insert]
    split_ifs with hthere
    · exact ExtTreeMap.size_filter_le_size.trans h.size_le
    · exact hroom.resolve_left hthere
  · rw [getElem?_insert_eq_ite, if_neg hne, hlive]
    cases hentry : s.table[other]? with
    | none => exact Or.inl rfl
    | some throttle =>
      cases hexpired : throttle.expiredAt label.time with
      | false => exact Or.inl (Option.filter_some_pos (by simp [hexpired]))
      | true =>
        cases hlockout : throttle.lockoutUntil with
        | none => simp [LoginThrottle.expiredAt, hlockout] at hexpired
        | some deadline =>
          have hended : deadline ≤ label.time := by
            simpa [LoginThrottle.expiredAt, hlockout] using hexpired
          exact Or.inr ⟨Option.filter_some_neg (by simp [hexpired]), throttle, deadline, rfl,
            hlockout, hended⟩
  · rw [getElem?_insert_eq_ite, if_pos rfl] at hget
    obtain rfl := Option.some.inj hget
    dsimp only at hlockout
    split_ifs at hlockout
    exact le_of_eq (Option.some.inj hlockout)
  · rw [getElem?_insert_eq_ite, if_pos rfl]
    intro hopen
    have hbelow := hopen _ rfl
    dsimp only at hbelow
    split_ifs at hbelow with hreached
    exact ⟨Nat.lt_of_not_le hreached, haccounted⟩

/-- Undisturbed steps preserve the invariant. -/
theorem Inv.step (hlimit : 0 < limit) (hbound : limit < 2 ^ 32) (h : Inv limit cooldown s)
    (hguard : s.Undisturbed label) (hstep : step limit cooldown s label = some t) :
    Inv limit cooldown t := by
  obtain ⟨hclock, heffect⟩ := step_effect hlimit hstep
  have halone {key : ThrottleKey} (haction : label.action = .check key) (i : Nat) (a : Attempt)
      (hi : s.Serves i a) : a.key ≠ key := by
    have hall := hguard.1
    simp only [State.Alone, haction, List.all_eq_true] at hall
    simpa using hall (some a) (List.mem_of_getElem? hi)
  cases heffect with
  | refused hidle _ _ _ => exact h.refused hclock hidle
  | @renewed key throttle deadline haction hidle hentry hlockout hended =>
    have hnew : (s.table.insert key ⟨0, none⟩)[key]? = some ⟨0, none⟩ := by
      rw [getElem?_insert_eq_ite, if_pos rfl]
    have hthere : s.table.contains key = true := by
      rw [ExtTreeMap.contains_eq_isSome_getElem?, hentry]
      rfl
    refine h.begin hlimit hclock hidle (halone haction) ?_ (fun other hne ↦ ?_) ?_ ?_
    · rw [ExtTreeMap.size_insert, if_pos hthere]
      exact h.size_le
    · rw [getElem?_insert_eq_ite, if_neg hne]
    · rw [hnew]
      exact fun throttle h ↦ by cases h; rfl
    · rw [hnew]
      exact explains_of_ago hlimit rfl fun v hv ↦
        (h.locked key throttle deadline hentry hlockout v hv).trans hended
  | @admitted key haction hidle hentry =>
    refine h.begin hlimit hclock hidle (halone haction) h.size_le (fun _ _ ↦ rfl) hentry ?_
    exact (h.explained key none fun thread passed hthread ↦
      halone haction thread _ hthread rfl).later hclock
  | verified passed hmine => exact h.verified hclock hmine passed
  | cleared hmine => exact h.cleared hlimit hclock hmine
  | recorded rank haction hmine =>
    refine h.recorded hlimit hbound hclock hmine ?_ rank
    have hroom := hguard.2
    simp only [State.HasRoom, show s.threads[label.thread]? = _ from hmine, haction,
      Bool.or_eq_true, decide_eq_true_eq] at hroom
    exact hroom

/-! ### Lockouts -/

/-- The pair is locked out until the deadline. -/
def State.LockedUntil (s : State) (key : ThrottleKey) (deadline : Nat) : Prop :=
  ∃ throttle, s.table[key]? = some throttle ∧ throttle.lockoutUntil = some deadline

/-- A lockout lasts: no check of its pair goes through before the deadline, and no attempt of it was
on its way when it began. -/
theorem Inv.lockout_step (hlimit : 0 < limit) (h : Inv limit cooldown s) {deadline : Nat}
    (hlocked : s.LockedUntil key deadline)
    (hstep : ThrottleRuns.step limit cooldown s label = some t) (hbefore : t.now < deadline) :
    t.LockedUntil key deadline := by
  obtain ⟨-, heffect⟩ := step_effect hlimit hstep
  obtain ⟨throttle, hentry, hlockout⟩ := hlocked
  have hother {i : Nat} {a : Attempt} (hi : s.Serves i a) : a.key ≠ key := by
    rintro rfl
    have hunlocked := h.free i a hi throttle hentry
    rw [hlockout] at hunlocked
    cases hunlocked
  cases heffect with
  | refused _ _ _ _ => exact ⟨throttle, hentry, hlockout⟩
  | @renewed key' throttle' deadline' _ _ hentry' hlockout' hended =>
    refine ⟨throttle, ?_, hlockout⟩
    rw [State.goto_table, getElem?_insert_eq_ite, if_neg, hentry]
    rintro rfl
    obtain rfl := Option.mem_unique hentry hentry'
    obtain rfl := Option.mem_unique hlockout hlockout'
    exact Nat.not_lt.mpr hended hbefore
  | admitted _ _ _ => exact ⟨throttle, hentry, hlockout⟩
  | verified _ _ => exact ⟨throttle, hentry, hlockout⟩
  | cleared hmine =>
    refine ⟨throttle, ?_, hlockout⟩
    rw [State.goto_table, getElem?_erase_eq_ite, if_neg (hother hmine), hentry]
  | @recorded key' rank _ hmine =>
    refine ⟨throttle, ?_, hlockout⟩
    rw [State.goto_table, recordFailure_of_room hlimit label.time key' s.table cooldown rank
      (ExtTreeMap.size_filter_le_size.trans h.size_le), getElem?_insert_eq_ite,
      if_neg (hother hmine), getElem?_filter_value, hentry]
    exact Option.filter_some_pos (by
      simpa [LoginThrottle.expiredAt, hlockout] using hbefore)

end Invariant

/-! ### A login request makes these steps -/

section Requests

variable {env : RequestEnv} {s : HsmService} {slotId : Nat} {entry : AuditEntry}
  {operation : StoredToken → HsmResult Unit × StoredToken} {table : ThrottleTable}

/-- The table after an attempt: as the check leaves it, and with the outcome if it came to one. -/
theorem attemptToken_attempts {answer : Except Status Unit}
    (hcheck : s.loginAttempts.check "login" s.config.maxLoginAttempts env.checkedAt
      ⟨slotId, env.clientId⟩ = (answer, table)) :
    (attemptToken env .login slotId entry operation s).2.loginAttempts =
      match answer, s.hsm.storedToken slotId with
      | .ok (), some stored =>
        if (operation stored).1.isOk then
          table.clearAttempts s.config.maxLoginAttempts ⟨slotId, env.clientId⟩
        else table.recordFailure s.config.maxLoginAttempts s.config.loginCooldown env.recordedAt
          env.rank ⟨slotId, env.clientId⟩
      | _, _ => table := by
  have hfirst : onAttempts .login (fun config attempts ↦ attempts.check (Throttled.text .login)
      config.maxLoginAttempts env.checkedAt ⟨slotId, env.clientId⟩) s =
        (answer, { s with loginAttempts := table }) := by
    simp [onAttempts, Throttled.text, HsmService.attempts, HsmService.setAttempts, hcheck]
  rw [attemptToken, Program.bind_apply, hfirst]
  obtain e | u := answer
  · rfl
  dsimp only
  cases hslot : s.hsm.storedToken slotId with
  | none => simp [Program.bind_apply, onCore, getToken, hslot, toStatus]
  | some stored =>
    have htoken : onCore (getToken slotId) { s with loginAttempts := table } =
        (.ok stored, { s with loginAttempts := table }) := by
      simp [onCore, getToken, hslot, toStatus]
    have hrun : onCore (tryToken slotId operation) { s with loginAttempts := table } =
        (.ok (operation stored).1, { s with
          hsm := s.hsm.setStoredToken slotId (operation stored).2
          loginAttempts := table }) := by
      simp [onCore, tryToken, hslot]
    rw [Program.bind_apply, htoken]
    dsimp only
    rw [Program.bind_apply, hrun]
    dsimp only
    cases (operation stored).1 with
    | ok u => exact ensures_audit (Q := fun _ t ↦ t.loginAttempts = _) (fun _ _ _ ↦ rfl) fun _ ↦ rfl
    | error e =>
      rcases audit_eq env _ entry (.failure 0) with ⟨_, heq⟩ | ⟨_, heq⟩ <;>
        exact congrArg (·.2.loginAttempts) heq

/-- The steps of the thread that serves a login: none if the user type or the session is refused,
the check alone if the throttle refuses or the slot has no token, and otherwise the check, a
verification and the recording of its outcome. -/
def loginLabels (platform : Platform) (env : RequestEnv) (s : HsmService) (session userType : Nat)
    (pin : Bytes) (thread verifiedAt : Nat) : List Label :=
  if userType ∈ [ckuUser, ckuSo, ckuContextSpecific] then
    match s.hsm.sessionManager.sessions[session]? with
    | none => []
    | some found =>
      let key : ThrottleKey := ⟨found.slotId, env.clientId⟩
      ⟨thread, env.checkedAt, .check key⟩ ::
        match (s.loginAttempts.check "login" s.config.maxLoginAttempts env.checkedAt key).1,
          s.hsm.storedToken found.slotId with
        | .ok (), some stored =>
          [⟨thread, verifiedAt,
              .verify (stored.login platform.crates env.call.token userType pin).1.isOk⟩,
            ⟨thread, env.recordedAt, .record env.rank⟩]
        | _, _ => []
  else []

/-- A login request that an idle thread serves leaves the table that its steps leave. -/
theorem login_steps (platform : Platform) (env : RequestEnv) (s : HsmService)
    (session userType : Nat) (pin : Bytes) (thread verifiedAt : Nat) {x : State}
    (hidle : x.threads[thread]? = some none)
    (htable : x.table = s.loginAttempts) (hchecked : x.now ≤ env.checkedAt)
    (hverified : env.checkedAt ≤ verifiedAt) (hrecorded : verifiedAt ≤ env.recordedAt) :
    ∃ y, runSteps (step s.config.maxLoginAttempts s.config.loginCooldown) x
        (loginLabels platform env s session userType pin thread verifiedAt) = some y ∧
      y.table = (login platform env session userType pin s).2.loginAttempts := by
  obtain ⟨hlt, -⟩ := List.getElem?_eq_some_iff.mp hidle
  unfold loginLabels
  rw [login, Program.require_bind]
  split_ifs with huser
  · cases hsession : s.hsm.sessionManager.sessions[session]? with
    | none =>
      refine ⟨x, rfl, htable.trans ?_⟩
      simp [Program.bind_apply, onCore, requireSession, getSession, SessionManager.getSession,
        hsession, toStatus]
    | some found =>
      have hslot : onCore (requireSession session) s = (.ok found.slotId, s) := by
        simp [onCore, requireSession, getSession, SessionManager.getSession, Program.reads_bind,
          hsession, toStatus]
      rcases hcheck : s.loginAttempts.check "login" s.config.maxLoginAttempts env.checkedAt
        ⟨found.slotId, env.clientId⟩ with ⟨answer, table⟩
      rw [Program.bind_apply, hslot]
      dsimp only
      rw [attemptToken_attempts hcheck]
      simp only [runSteps, step, Nat.not_lt.mpr hchecked, hidle, access, htable, hcheck, if_false,
        Option.bind_some]
      obtain e | u := answer
      · exact ⟨_, rfl, rfl⟩
      cases s.hsm.storedToken found.slotId with
      | none => exact ⟨_, rfl, rfl⟩
      | some stored =>
        dsimp only
        generalize (stored.login platform.crates env.call.token userType pin).1.isOk = passed
        simp only [runSteps, step, Nat.not_lt.mpr hverified, Nat.not_lt.mpr hrecorded, access,
          State.goto, if_false, Option.bind_some, List.getElem?_set_self, hlt, List.set_set]
        cases passed <;> exact ⟨_, rfl, rfl⟩
  · exact ⟨x, rfl, htable⟩

/-- A login of a client has failed on a token that the security officer is logged in to. -/
def failedService : HsmService :=
  soService.step samplePlatform (requestAt 5, .login firstSession ckuUser Crypto.guess9)

/-- A second login of the client is checked, its PIN is refused, and the failure is recorded. -/
theorem failedService_login_steps :
    failedService.loginAttempts[(⟨0, "client"⟩ : ThrottleKey)]? = some ⟨1, none⟩ ∧
      (loginLabels samplePlatform (requestAt 7) failedService firstSession ckuSo Crypto.soPin1 0
        7).length = 3 ∧
      ∃ y, runSteps (step 5 60) ⟨failedService.loginAttempts, [none], 5, []⟩
          (loginLabels samplePlatform (requestAt 7) failedService firstSession ckuSo Crypto.soPin1 0
            7) = some y ∧
        y.table[(⟨0, "client"⟩ : ThrottleKey)]? = some ⟨2, none⟩ := by
  refine ⟨by decide +kernel, by decide +kernel, ?_⟩
  obtain ⟨y, hrun, htable⟩ := login_steps samplePlatform (requestAt 7) failedService firstSession
    ckuSo Crypto.soPin1 0 7 (x := ⟨failedService.loginAttempts, [none], 5, []⟩) rfl rfl (by decide)
    (by decide) (by decide)
  refine ⟨y, hrun, ?_⟩
  rw [htable]
  decide +kernel

end Requests

/-! ### Undisturbed runs -/

section Runs

variable {limit cooldown : Nat} {s : State} {key : ThrottleKey} {deadline : Nat}

/-- A lockout lasts until its deadline through every undisturbed run. -/
theorem lockout_lasts (hlimit : 0 < limit) (hbound : limit < 2 ^ 32) {t : State}
    {later : List Label} (h : Inv limit cooldown s) (hlocked : s.LockedUntil key deadline)
    (hmeets : StepsMeet (step limit cooldown) State.Undisturbed s later)
    (hrun : runSteps (step limit cooldown) s later = some t) (hbefore : t.now < deadline) :
    t.LockedUntil key deadline := by
  have hstep (u : State) (label : Label) (v : State)
      (hu : Inv limit cooldown u ∧ (u.now < deadline → u.LockedUntil key deadline))
      (hguard : u.Undisturbed label) (hstep : step limit cooldown u label = some v) :
      Inv limit cooldown v ∧ (v.now < deadline → v.LockedUntil key deadline) :=
    ⟨hu.1.step hlimit hbound hguard hstep, fun hv ↦
      hu.1.lockout_step hlimit (hu.2 ((step_now hlimit hstep).trans_lt hv)) hstep hv⟩
  exact (@runSteps_invariant _ _ State.Undisturbed
    (fun u ↦ Inv limit cooldown u ∧ (u.now < deadline → u.LockedUntil key deadline)) _ hstep later s
    t ⟨h, fun _ ↦ hlocked⟩ hmeets hrun).2 hbefore

theorem check_of_lockedUntil (hlimit : 0 < limit) {now : Nat} (hlocked : s.LockedUntil key deadline)
    (hbefore : now < deadline) : ∃ e, (s.table.check "login" limit now key).1 = .error e := by
  obtain ⟨throttle, hentry, hlockout⟩ := hlocked
  rcases check_cases hlimit now key s.table "login" with ⟨_, _, _, _, _, e, heq⟩ |
    ⟨throttle', deadline', hentry', hlockout', hended, -⟩ | ⟨hopen, -⟩
  · exact ⟨e, by rw [heq]⟩
  · obtain rfl := Option.mem_unique hentry hentry'
    obtain rfl := Option.mem_unique hlockout hlockout'
    exact absurd hbefore (Nat.not_lt.mpr hended)
  · rw [hopen throttle hentry] at hlockout
    cases hlockout

/-- In every undisturbed run of an enabled throttle, no pair has more failed verifications within a
cooldown than the limit without a success between them; a pair that is locked out is refused until
its cooldown ends, whatever the others do; and the table keeps to its maximum. -/
theorem throttle_limits (hlimit : 0 < limit) (hbound : limit < 2 ^ 32) {threads : Nat}
    {labels : List Label}
    (hmeets : StepsMeet (step limit cooldown) State.Undisturbed (.start threads) labels)
    (hrun : runSteps (step limit cooldown) (.start threads) labels = some s) :
    (∀ key, Limited limit cooldown (s.verificationsOf key)) ∧
      (∀ key deadline later t, s.LockedUntil key deadline →
        StepsMeet (step limit cooldown) State.Undisturbed s later →
        runSteps (step limit cooldown) s later = some t →
          ∀ now, t.now ≤ now → now < deadline →
            ∃ e, (t.table.check "login" limit now key).1 = .error e) ∧
      s.table.size ≤ maxThrottleEntries := by
  have hinv : Inv limit cooldown s := runSteps_invariant
    (fun _ _ _ hu hguard hstep ↦ hu.step hlimit hbound hguard hstep) labels _ s
    (.start hlimit threads) hmeets hrun
  refine ⟨hinv.limited, fun key deadline later t hlocked hlater ht now hnow hbefore ↦ ?_,
    hinv.size_le⟩
  have hlasts := lockout_lasts hlimit hbound hinv hlocked hlater ht (hnow.trans_lt hbefore)
  exact check_of_lockedUntil hlimit hlasts hbefore

/-- A login of one client on slot 0, whose PIN is right or wrong. -/
def loginAt (time : Nat) (passed : Bool) : List Label :=
  [⟨0, time, .check ⟨0, "client"⟩⟩, ⟨0, time + 1, .verify passed⟩,
    ⟨0, time + 2, .record fun _ ↦ 0⟩]

/-- Two threads serve two clients. The first client gives its second wrong PIN while the second
attempt of the other one is on its way. -/
def twoClients : List Label :=
  [⟨0, 0, .check ⟨0, "client"⟩⟩, ⟨1, 0, .check ⟨0, "other"⟩⟩, ⟨1, 1, .verify false⟩,
    ⟨0, 1, .verify false⟩, ⟨0, 2, .record fun _ ↦ 0⟩, ⟨1, 2, .record fun _ ↦ 0⟩,
    ⟨0, 3, .check ⟨0, "client"⟩⟩, ⟨1, 3, .check ⟨0, "other"⟩⟩, ⟨0, 4, .verify false⟩,
    ⟨0, 5, .record fun _ ↦ 0⟩]

/-- The other client fails for the second time, and the first one tries again. -/
def whileLockedOut : List Label :=
  [⟨1, 6, .verify false⟩, ⟨1, 7, .record fun _ ↦ 0⟩, ⟨0, 8, .check ⟨0, "client"⟩⟩]

/-- With a limit of two, the second wrong PIN of a client locks it out for the cooldown, through the
failures of another client. -/
theorem wrongPins_lockOut :
    ∃ s t, runSteps (step 2 60) (.start 2) twoClients = some s ∧
      s.LockedUntil ⟨0, "client"⟩ 65 ∧
      runSteps (step 2 60) s whileLockedOut = some t ∧ t.LockedUntil ⟨0, "other"⟩ 67 ∧
      ∃ e, (t.table.check "login" 2 64 ⟨0, "client"⟩).1 = .error e := by
  have hruns : (runSteps (step 2 60) (.start 2) twoClients).map (fun s ↦
      (s.table[(⟨0, "client"⟩ : ThrottleKey)]?,
        decide (StepsMeet (step 2 60) State.Undisturbed s whileLockedOut),
        (runSteps (step 2 60) s whileLockedOut).map fun t ↦
          (t.table[(⟨0, "other"⟩ : ThrottleKey)]?, t.now))) =
      some (some ⟨2, some 65⟩, true, some (some ⟨2, some 67⟩, 8)) := by
    decide +kernel
  obtain ⟨s, hrun, heq⟩ := Option.map_eq_some_iff.mp hruns
  obtain ⟨hentry, hlater, hother⟩ := by simpa only [Prod.mk.injEq] using heq
  obtain ⟨t, hrun', heq'⟩ := Option.map_eq_some_iff.mp hother
  obtain ⟨hentry', hnow⟩ := Prod.mk.inj heq'
  have hlocked : s.LockedUntil ⟨0, "client"⟩ 65 := ⟨_, hentry, rfl⟩
  obtain ⟨-, hlasts, -⟩ := throttle_limits (by decide) (by decide)
    (by decide +kernel : StepsMeet (step 2 60) State.Undisturbed (.start 2) twoClients) hrun
  exact ⟨s, t, hrun, hlocked, hrun', ⟨_, hentry', rfl⟩,
    hlasts _ _ whileLockedOut t hlocked (of_decide_eq_true hlater) hrun' 64 (by rw [hnow]; decide)
      (by decide)⟩

/-- With a limit of two, three wrong PINs of one pair are verified within a cooldown of sixty
seconds, each followed by the right one. -/
theorem failures_between_successes :
    ∃ s, runSteps (step 2 60) (.start 1) (loginAt 0 false ++ loginAt 5 true ++ loginAt 10 false ++
        loginAt 15 true ++ loginAt 20 false) = some s ∧
      ((s.verificationsOf ⟨0, "client"⟩).filter fun v ↦ !v.passed).length = 3 ∧
      ∀ v ∈ s.verifications, v.time < 60 := by
  have hcount : (runSteps (step 2 60) (.start 1) (loginAt 0 false ++ loginAt 5 true ++
      loginAt 10 false ++ loginAt 15 true ++ loginAt 20 false)).map
        (fun s ↦ (((s.verificationsOf ⟨0, "client"⟩).filter fun v ↦ !v.passed).length,
          s.verifications.all fun v ↦ decide (v.time < 60))) = some (3, true) := by
    decide +kernel
  obtain ⟨s, hrun, heq⟩ := Option.map_eq_some_iff.mp hcount
  obtain ⟨hthree, htimes⟩ := Prod.mk.inj heq
  exact ⟨s, hrun, hthree, by simpa using htimes⟩

end Runs

end CratonHsm.Daemon.ThrottleRuns
