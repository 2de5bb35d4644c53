import CratonHsm.Library.StepSystem
import CratonHsm.Token.Lockouts

/-!
# The failure counters

Wrong PINs are counted in three counters, one of each role for `login` and `set_pin` and one of
`init_token`, and each counter has a deadline before which no PIN is compared. A counter is a `u32`
to which a wrong PIN adds one. Along wrong PINs the counter and the length of the backoff grow
exactly when it is below the largest value before each of them (`only_grows_iff`).

What fails is the largest value itself. A lockout file that cannot be parsed puts it in every
counter; the locks that it also puts stop `login` and `set_pin` before they count, but `init_token`
looks at no lock, and its next wrong PIN is counted as none and sets no backoff
(`corrupt_lockout_counts_from_zero`).
-/

set_option autoImplicit false

namespace CratonHsm.FailureCounters

open Crypto Library
open StoredToken

/-- The counters of wrong PINs. -/
inductive Counter where
  | role (role : Role)
  | initToken
  deriving DecidableEq

def failures (s : StoredToken) : Counter → Nat
  | .role role => (s.token.auth.lockout role).failedLogins
  | .initToken => s.token.auth.failedInitTokenLogins

def nextAllowed (s : StoredToken) : Counter → Option Nat
  | .role role => (s.token.auth.lockout role).nextAllowed
  | .initToken => s.token.auth.initTokenNextAllowed

/-- The operation takes a PIN that the counter is for. The first `init_token` compares none. -/
def Offers (s : StoredToken) : Counter → TokenOp → Prop
  | .role role, .login userType _ => userType = role.userType
  | .role role, .setPin _ _ => s.token.auth.login = role.loginState
  | .initToken, .initToken _ _ => s.token.auth.initialized
  | _, _ => False

variable (crates : Crates)

/-- Whether the PIN is right, when the answer depends on it. -/
def verdict (env : TokenEnv) (s : StoredToken) : Counter → TokenOp → Option Bool
  | .role role, op => s.pinVerdict crates env role op
  | .initToken, .initToken soPin _ => s.initTokenVerdict crates env soPin
  | .initToken, _ => none

variable (counter : Counter) (s : StoredToken) (step : TokenEnv × TokenOp)

def next : StoredToken :=
  (step.2.apply crates step.1 s).2

/-- A call of `login`, `set_pin` or `init_token` that fails. -/
def FailedAttempt : Prop :=
  (match step.2 with
    | .login _ _ | .setPin _ _ | .initToken _ _ => True
    | _ => False) ∧ (step.2.apply crates step.1 s).1 ≠ .ok ()

/-- What the wrong PINs of a run set: the counter, and the time from then to the deadline. -/
def settings (counter : Counter) : StoredToken → List (TokenEnv × TokenOp) → List (Nat × Nat)
  | _, [] => []
  | s, step :: steps =>
    let after := next crates s step
    let rest := settings counter after steps
    if verdict crates step.1 s counter step.2 = some false then
      (failures after counter, (nextAllowed after counter).getD 0 - step.1.later) :: rest
    else rest

/-- A wrong PIN raises the counter or leaves it at its maximum. -/
def Raises (before after : Nat) : Prop := before < after ∨ before = u32Max ∧ after = u32Max

/-- Before the deadline an operation fails and changes nothing, whatever the functions are that hash
PINs. -/
def KeepsDeadline : Prop :=
  Offers s counter step.2 → ∀ deadline, nextAllowed s counter = some deadline →
    step.1.now < deadline →
      ∀ crates', step.2.apply crates' step.1 s = step.2.apply crates step.1 s ∧
        ∃ e, step.2.apply crates step.1 s = (.error e, s)

/-- The counter only grows along the run, the backoff does not get shorter, and every deadline is
kept. -/
def OnlyGrows (steps : List (TokenEnv × TokenOp)) : Prop :=
  (failures s counter :: (settings crates counter s steps).map Prod.fst).IsChain Raises ∧
    ((settings crates counter s steps).map Prod.snd).Pairwise (· ≤ ·) ∧
    FoldMeets (next crates) (KeepsDeadline crates counter) s steps

/-- A wrong PIN is counted by an addition that does not overflow. -/
def Countable : Prop :=
  verdict crates step.1 s counter step.2 = some false → failures s counter < u32Max

/-! ### One attempt -/

variable {crates} {env : TokenEnv} {s : StoredToken}

/-- The token after a wrong PIN. -/
def failed (env : TokenEnv) (s : StoredToken) : Counter → StoredToken
  | .role role => (s.failPin env role).2
  | .initToken => (s.failInitToken env).2

theorem failures_failed (counter : Counter) :
    failures (failed env s counter) counter = u32Succ (failures s counter) := by
  cases counter <;> simp [failed, failures, PinLockout.fail]

theorem nextAllowed_failed (counter : Counter) : nextAllowed (failed env s counter) counter =
    some (env.later + backoffDuration (u32Succ (failures s counter))) := by
  cases counter <;> simp [failed, failures, nextAllowed, PinLockout.fail]

theorem failures_failed_of_ne {counter other : Counter} (h : other ≠ counter) :
    failures (failed env s other) counter = failures s counter := by
  cases other with
  | initToken =>
    cases counter with
    | initToken => exact absurd rfl h
    | role role => cases role <;> simp [failed, failures, AuthState.lockout]
  | role other =>
    cases counter with
    | initToken => cases other <;> simp [failed, failures, AuthState.setLockout]
    | role role =>
      have hother : other ≠ role := fun heq ↦ h (congrArg _ heq)
      simp [failed, failures, AuthState.lockout_setLockout_of_ne _ hother]

theorem Role.userType_injective : Function.Injective Role.userType := by
  intro role other h
  cases role <;> cases other <;> simp_all [Role.userType, ckuUser, ckuSo]

theorem Role.loginState_injective : Function.Injective Role.loginState := by
  intro role other h
  cases role <;> cases other <;> simp_all [Role.loginState]

/-- A failed attempt changes nothing, or is a wrong PIN for one counter, which it counts. -/
theorem FailedAttempt.cases {step : TokenEnv × TokenOp} (h : FailedAttempt crates s step) :
    (next crates s step = s ∧ ∀ counter, verdict crates step.1 s counter step.2 ≠ some false) ∨
      ∃ counter, next crates s step = failed step.1 s counter ∧
        ∀ other, verdict crates step.1 s other step.2 = some false ↔ other = counter := by
  obtain ⟨env, op⟩ := step
  obtain ⟨hattempt, herror⟩ := h
  cases op with
  | login userType pin =>
    simp only [next, TokenOp.apply] at herror ⊢
    by_cases hrole : ∃ role : Role, userType = role.userType
    · obtain ⟨role, rfl⟩ := hrole
      have hother : ∀ other, other ≠ .role role →
          verdict crates env s other (.login role.userType pin) = none := by
        rintro (other | _) hne
        · exact if_neg fun heq ↦ hne (congrArg _ (Role.userType_injective heq).symm)
        · rfl
      have hsame : verdict crates env s (.role role) (.login role.userType pin) =
          s.loginVerdict crates env role pin := if_pos rfl
      obtain ⟨hverdict, e, heq⟩ | ⟨hverdict, -, heq⟩ | ⟨-, heq⟩ :=
        login_outcome crates env s role pin
      · exact .inl ⟨by rw [heq], fun other ↦ by by_cases other = .role role <;> simp_all⟩
      · exact .inr ⟨.role role, by rw [heq]; rfl, fun other ↦ by
          by_cases other = .role role <;> simp_all⟩
      · exact absurd (by rw [heq]) herror
    · have hnone : ∀ role : Role, userType ≠ role.userType := fun role heq ↦ hrole ⟨role, heq⟩
      obtain ⟨e, heq⟩ := login_of_not_role crates env s pin hnone
      refine .inl ⟨by rw [heq], ?_⟩
      rintro (role | _)
      · simp [verdict, pinVerdict, hnone role]
      · simp [verdict]
  | setPin oldPin newPin =>
    simp only [next, TokenOp.apply] at herror ⊢
    obtain ⟨e, heq, hnone⟩ | ⟨role, hlogin, ⟨hverdict, -, heq⟩ | ⟨-, heq⟩⟩ :=
      setPin_outcome crates env s oldPin newPin
    · refine .inl ⟨by rw [heq], ?_⟩
      rintro (role | _) <;> simp [verdict, pinVerdict, hnone]
    · refine .inr ⟨.role role, by rw [heq]; rfl, ?_⟩
      rintro (other | _)
      · refine ⟨fun hfalse ↦ ?_, fun hsame ↦ by cases hsame; exact hverdict⟩
        have hother : s.setPinVerdict crates env other oldPin newPin = some false := hfalse
        unfold setPinVerdict at hother
        split_ifs at hother with hguard
        exact congrArg _ (Role.loginState_injective (hguard.2.1.symm.trans hlogin))
      · simp [verdict]
    · exact absurd (by rw [heq]) herror
  | initToken soPin label =>
    simp only [next, TokenOp.apply] at herror ⊢
    obtain ⟨hverdict, e, heq⟩ | ⟨hverdict, heq⟩ | ⟨-, heq⟩ :=
      initToken_outcome crates env s soPin label
    · refine .inl ⟨by rw [heq], ?_⟩
      rintro (role | _) <;> simp [verdict, pinVerdict, hverdict]
    · refine .inr ⟨.initToken, by rw [heq]; rfl, ?_⟩
      rintro (role | _) <;> simp [verdict, pinVerdict, hverdict]
    · exact absurd (by rw [heq]) herror
  | initPin pin => exact hattempt.elim
  | logout => exact hattempt.elim
  | restart => exact hattempt.elim

/-- A wrong PIN adds one to its counter, as a `u32`, and sets the deadline by it; nothing else of a
failed attempt changes the counter. -/
theorem FailedAttempt.counts {step : TokenEnv × TokenOp} (h : FailedAttempt crates s step)
    (counter : Counter) :
    if verdict crates step.1 s counter step.2 = some false then
      failures (next crates s step) counter = u32Succ (failures s counter) ∧
        nextAllowed (next crates s step) counter =
          some (step.1.later + backoffDuration (u32Succ (failures s counter)))
    else failures (next crates s step) counter = failures s counter := by
  obtain ⟨hsame, hnone⟩ | ⟨other, hnext, hverdict⟩ := h.cases
  · rw [if_neg (hnone counter), hsame]
  · simp only [hverdict counter, hnext]
    split_ifs with hcounter
    · subst hcounter
      exact ⟨failures_failed counter, nextAllowed_failed counter⟩
    · exact failures_failed_of_ne (Ne.symm hcounter)

theorem keepsDeadline (counter : Counter) (step : TokenEnv × TokenOp) :
    KeepsDeadline crates counter s step := by
  obtain ⟨env, op⟩ := step
  intro hoffers deadline hdeadline hnow crates'
  have hlimited : checkRateLimit env.now (nextAllowed s counter) = .error .pinRateLimited := by
    simp [hdeadline, checkRateLimit, hnow]
  cases counter with
  | role role =>
    simp only [nextAllowed] at hlimited
    have hlogin (crates : Crates) (pin : Bytes) :
        s.loginRole crates env role pin = (.error .pinRateLimited, s) := by
      rw [loginRole, hlimited]
    cases op with
    | login userType pin =>
      obtain rfl : userType = role.userType := hoffers
      cases role <;> simp only [TokenOp.apply, login, Role.userType] <;> split_ifs <;>
        simp_all [ckuSo, ckuUser]
    | setPin oldPin newPin =>
      have hstate : s.token.auth.login = role.loginState := hoffers
      cases hvalid : s.token.config.validatePin newPin with
      | error e => simp [TokenOp.apply, setPin, hvalid]
      | ok u =>
        cases role <;> simp only [TokenOp.apply, setPin, setPinRole, hvalid,
          hstate, Role.loginState, hlimited] <;> split_ifs <;> simp
    | _ => exact hoffers.elim
  | initToken =>
    simp only [nextAllowed] at hlimited
    cases op with
    | initToken soPin label =>
      have hinitialized : s.token.auth.initialized = true := hoffers
      cases hvalid : s.token.config.validatePin soPin <;>
        simp [TokenOp.apply, initToken, hvalid, hinitialized, hlimited]
    | _ => exact hoffers.elim

/-! ### A run -/

theorem backoffDuration_mono {m n : Nat} (h : m ≤ n) : backoffDuration m ≤ backoffDuration n := by
  unfold backoffDuration
  split_ifs with hm hn
  · exact Nat.le_refl _
  · exact Nat.zero_le _
  · omega
  · have hpow : 2 ^ min (m - 1) 31 ≤ 2 ^ min (n - 1) 31 :=
      Nat.pow_le_pow_right (by decide) (by omega)
    exact min_le_min_right _ (Nat.mul_le_mul_left _ hpow)

theorem raises_u32Succ_iff {count : Nat} (h : count ≤ u32Max) :
    Raises count (u32Succ count) ↔ count < u32Max := by
  unfold Raises u32Succ u32Max at *
  omega

/-- The counter grows along failed attempts exactly when no addition overflows. -/
theorem isChain_settings_iff {counter : Counter} {steps : List (TokenEnv × TokenOp)}
    (hcounter : failures s counter ≤ u32Max)
    (hsteps : FoldMeets (next crates) (FailedAttempt crates) s steps) :
    (failures s counter :: (settings crates counter s steps).map Prod.fst).IsChain Raises ↔
      FoldMeets (next crates) (Countable crates counter) s steps := by
  induction steps generalizing s with
  | nil => simp [settings, FoldMeets]
  | cons step steps ih =>
    have hcounts := hsteps.1.counts counter
    simp only [settings, FoldMeets, Countable]
    split_ifs at hcounts ⊢ with hverdict
    · obtain ⟨hfailures, -⟩ := hcounts
      have hnext : failures (next crates s step) counter ≤ u32Max := by
        rw [hfailures]
        unfold u32Succ u32Max
        omega
      rw [List.map_cons, List.isChain_cons_cons, ih hnext hsteps.2, hfailures,
        raises_u32Succ_iff hcounter]
      simp [hverdict]
    · rw [← hcounts, ih (hcounts ▸ hcounter) hsteps.2]
      simp [hverdict]

/-- The backoff of each wrong PIN is that of the counter it sets. -/
theorem settings_snd {counter : Counter} {steps : List (TokenEnv × TokenOp)}
    (hsteps : FoldMeets (next crates) (FailedAttempt crates) s steps) :
    (settings crates counter s steps).map Prod.snd =
      ((settings crates counter s steps).map Prod.fst).map backoffDuration := by
  induction steps generalizing s with
  | nil => rfl
  | cons step steps ih =>
    have hcounts := hsteps.1.counts counter
    simp only [settings]
    split_ifs at hcounts ⊢ with hverdict
    · simp [ih hsteps.2, hcounts.1, hcounts.2]
    · exact ih hsteps.2

variable (crates s) in
/-- Along failed attempts from any token, the counter only grows, with the backoff, exactly when it
is below the largest `u32` before each wrong PIN. -/
theorem only_grows_iff (counter : Counter) (steps : List (TokenEnv × TokenOp))
    (hcounter : failures s counter ≤ u32Max)
    (hsteps : FoldMeets (next crates) (FailedAttempt crates) s steps) :
    OnlyGrows crates counter s steps ↔
      FoldMeets (next crates) (Countable crates counter) s steps := by
  refine ⟨fun h ↦ (isChain_settings_iff hcounter hsteps).mp h.1, fun h ↦ ?_⟩
  have hchain := (isChain_settings_iff hcounter hsteps).mpr h
  have hsorted : ((settings crates counter s steps).map Prod.fst).Pairwise (· ≤ ·) := by
    have hle := hchain.imp fun a b (hraises : Raises a b) ↦ show a ≤ b by
      unfold Raises at hraises
      omega
    exact (List.isChain_iff_pairwise.mp hle).tail
  refine ⟨hchain, ?_, .of_always fun step _ s ↦ keepsDeadline counter step⟩
  rw [settings_snd hsteps]
  exact hsorted.map _ fun a b ↦ backoffDuration_mono

/-! ### The largest value -/

/-- A process starts on an initialised token with this lockout file. -/
def started (lockout : StoredFile LockoutData) : StoredToken :=
  let s := ((fresh .strict).initToken pinAnswers.crates (envAt 0) soPin1 blankLabel).2
  { s with files := { s.files with lockout := lockout } }.restart

def twoWrongPins : List (TokenEnv × TokenOp) :=
  [(envAt 1, .initToken guess9 blankLabel), (envAt 2, .initToken guess9 blankLabel)]

/-- Without a lockout file, two wrong SO PINs for `init_token` let the counter and its deadline only
grow. -/
theorem two_wrong_pins_only_grow :
    OnlyGrows pinAnswers.crates .initToken (started .missing) twoWrongPins := by
  refine (only_grows_iff pinAnswers.crates (started .missing) .initToken twoWrongPins ?_ ?_).mpr ?_
  · decide +kernel
  · exact ⟨⟨trivial, by decide +kernel⟩, ⟨trivial, by decide +kernel⟩, trivial⟩
  · exact ⟨fun _ ↦ by decide +kernel, fun _ ↦ by decide +kernel, trivial⟩

/-- With a lockout file that cannot be parsed, the first wrong PIN for `init_token` puts the counter
from its maximum to zero and sets a deadline that has passed. -/
theorem corrupt_lockout_counts_from_zero :
    failures (started .unreadable) .initToken = u32Max ∧
      settings pinAnswers.crates .initToken (started .unreadable) twoWrongPins =
        [(0, 0), (1, 100)] ∧
      ¬ OnlyGrows pinAnswers.crates .initToken (started .unreadable) twoWrongPins := by
  have hfailures : failures (started .unreadable) .initToken = u32Max := by decide +kernel
  have hsettings : settings pinAnswers.crates .initToken (started .unreadable) twoWrongPins =
      [(0, 0), (1, 100)] := by decide +kernel
  refine ⟨hfailures, hsettings, fun h ↦ ?_⟩
  have hchain := h.1
  rw [hfailures, hsettings] at hchain
  simp [Raises, u32Max] at hchain

end CratonHsm.FailureCounters
