import CratonHsm.Token.Lockouts
import CratonHsm.Library.StepSystem

/-!
# Guessing the security officer's PIN

Three operations compare a PIN with the stored hash of the security officer's PIN: `login`,
`set_pin` and `init_token`. `soVerdict` is the outcome of such a comparison when the answer of the
operation depends on it.

Failed attempts of `login` and `set_pin` share one counter and one lock. A successful logout of
either role clears the counter, and `init_token` counts its failures apart and never locks. So no
bound holds between two correct PINs when logouts come in between (`so_guesses_exceed_limit`), but
between two events that clear the counter at most `max_failed_logins` wrong PINs are compared by
`login` and `set_pin` together, restarts included (`loginGuesses_le_maxFailedLogins`).
-/

set_option autoImplicit false

namespace CratonHsm.SoPinGuessing

open Crypto Library
open StoredToken

/-! ### What an answer tells -/

/-- The outcome of the comparison of a PIN with the SO PIN hash, when the operation makes one and
its answer depends on it. -/
def soVerdict (crates : Crates) (env : TokenEnv) (s : StoredToken) : TokenOp → Option Bool
  | .login userType pin => if userType = ckuSo then s.loginVerdict crates env .so pin else none
  | .setPin oldPin newPin => s.setPinVerdict crates env .so oldPin newPin
  | .initToken soPin _ => s.initTokenVerdict crates env soPin
  | _ => none

/-! ### Counting guesses along a run -/

section Runs

variable (crates : Crates)

/-- One operation of a run, with the number of wrong SO PINs compared by any of the three operations
since the last right one. -/
def countSoGuesses (s : StoredToken × Nat) (step : TokenEnv × TokenOp) : StoredToken × Nat :=
  ((step.2.apply crates step.1 s.1).2,
    match soVerdict crates step.1 s.1 step.2 with
    | some true => 0
    | some false => s.2 + 1
    | none => s.2)

/-- The event ends a count of guesses at `login` and `set_pin`: the PIN was right, or a logout or
`init_token` succeeded. On an initialised token the last of these has verified the PIN. -/
def endsLoginGuesses (verdict : Option Bool) (result : HsmResult Unit) : TokenOp → Bool
  | .logout => verdict == some true || result.toBool
  | .initToken _ _ => verdict == some true || result.toBool
  | _ => verdict == some true

/-- The operation counts its wrong SO PINs as failed logins. -/
def countsAsLogin : TokenOp → Bool
  | .login _ _ => true
  | .setPin _ _ => true
  | _ => false

/-- The number of wrong SO PINs compared by `login` and `set_pin` since the last event that ends a
count, after one more operation. -/
def nextLoginGuesses (guesses : Nat) (verdict : Option Bool) (result : HsmResult Unit)
    (op : TokenOp) : Nat :=
  if endsLoginGuesses verdict result op then 0
  else if countsAsLogin op && verdict == some false then guesses + 1
  else guesses

/-- One operation of a run, with that number. -/
def countLoginGuesses (s : StoredToken × Nat) (step : TokenEnv × TokenOp) : StoredToken × Nat :=
  ((step.2.apply crates step.1 s.1).2,
    nextLoginGuesses s.2 (soVerdict crates step.1 s.1 step.2) (step.2.apply crates step.1 s.1).1
      step.2)

/-- While the SO PIN is not locked, the counted guesses are among the failed logins, which are below
the limit. -/
structure Inv (config : TokenConfig) (s : StoredToken × Nat) : Prop where
  config_eq : s.1.token.config = config
  saved : s.1.LockoutSaved
  bounded : s.2 ≤ config.maxFailedLogins
  counted : s.1.token.auth.so.pinLocked = false → s.2 ≤ s.1.token.auth.so.failedLogins ∧
    s.1.token.auth.so.failedLogins < config.maxFailedLogins

theorem soVerdict_eq (env : TokenEnv) (s : StoredToken) (op : TokenOp) :
    soVerdict crates env s op = s.pinVerdict crates env .so op ∨
      ∃ soPin label, op = .initToken soPin label := by
  cases op with
  | initToken soPin label => exact Or.inr ⟨soPin, label, rfl⟩
  | _ => exact Or.inl rfl

/-- The count of guesses goes with the count of failed logins; an `init_token` counts no guess. -/
theorem nextLoginGuesses_bounds (guesses : Nat) {verdict verdict' : Option Bool}
    (result : HsmResult Unit) {op : TokenOp}
    (h : verdict' = verdict ∨ ∃ soPin label, op = .initToken soPin label) :
    (clearsCount .so verdict result op = true → nextLoginGuesses guesses verdict' result op = 0) ∧
      nextLoginGuesses guesses verdict' result op ≤
        if verdict = some false then guesses + 1 else guesses := by
  rcases h with rfl | ⟨soPin, label, rfl⟩
  · cases op <;> rcases verdict' with _ | _ | _ <;> cases result <;>
      simp [nextLoginGuesses, endsLoginGuesses, countsAsLogin, clearsCount, Except.toBool]
  · have hle : guesses ≤ if verdict = some false then guesses + 1 else guesses := by
      split_ifs <;> omega
    cases result <;> rcases verdict' with _ | _ | _ <;>
      simp [nextLoginGuesses, endsLoginGuesses, countsAsLogin, clearsCount, Except.toBool, hle]

theorem Inv.step {crates : Crates} {config : TokenConfig} {s : StoredToken × Nat}
    {step : TokenEnv × TokenOp} (hinv : Inv config s) (hstore : config.hasLockoutStore = true)
    (hwrites : step.1.fileWrites = true) : Inv config (countLoginGuesses crates s step) := by
  have hstore' : s.1.token.config.hasLockoutStore = true := by rw [hinv.config_eq, hstore]
  have heffect := lockoutEffect_apply crates step.1 s.1 .so step.2 hstore' hinv.saved
  rw [hinv.config_eq] at heffect
  obtain ⟨hclears, hnext⟩ := nextLoginGuesses_bounds s.2 (step.2.apply crates step.1 s.1).1
    (soVerdict_eq crates step.1 s.1 step.2)
  obtain ⟨hcounted, hbounded⟩ :=
    heffect.counted config.maxFailedLogins_bounds hclears hnext hinv.counted
  exact {
    config_eq := (step.2.apply_effect crates step.1 s.1).config_eq.trans hinv.config_eq
    saved := apply_lockoutSaved crates step.1 step.2 hstore'
      (TokenEnv.saves_of_fileWrites hwrites).1 hinv.saved
    bounded := hbounded hinv.bounded
    counted := hcounted }

theorem inv_fresh (config : TokenConfig) : Inv config (fresh config, 0) where
  config_eq := by simp
  saved := by simp only [StoredToken.LockoutSaved, fresh_token]; rfl
  bounded := Nat.zero_le _
  counted := by
    intro _
    have hlimit := config.maxFailedLogins_bounds
    rw [fresh_token]
    exact ⟨Nat.zero_le _, show 0 < config.maxFailedLogins by omega⟩

/-- In every run of a token whose lockout file is written, restarts included, at most
`max_failed_logins` wrong SO PINs are compared by `login` and `set_pin` together, with an answer
that tells them from the right one, since the last right SO PIN, completed `init_token` or
logout. -/
theorem loginGuesses_le_maxFailedLogins (config : TokenConfig)
    (hstore : config.hasLockoutStore = true) (steps : List (TokenEnv × TokenOp))
    (hwrites : ∀ step ∈ steps, step.1.fileWrites = true) :
    (steps.foldl (countLoginGuesses crates) (fresh config, 0)).2 ≤
      config.maxFailedLogins := by
  have hmeets : FoldMeets (countLoginGuesses crates) (fun _ step ↦ step.1.fileWrites = true)
      (fresh config, 0) steps := FoldMeets.of_forall hwrites
  exact (foldl_invariant (fun _ _ hinv hwrite ↦ hinv.step hstore hwrite) steps _
    (inv_fresh config) hmeets).bounded

end Runs

/-! ### Four guesses under a limit of three -/

/-- A token is set up by its security officer and user, and then somebody guesses the SO PIN, with a
login and a logout of the user after every second guess. -/
def guessesAroundLogout : List (TokenEnv × TokenOp) :=
  [(envAt 0, .initToken soPin1 blankLabel), (envAt 1, .login ckuSo soPin1),
    (envAt 2, .initPin user01), (envAt 3, .logout),
    (envAt 4, .login ckuSo guess9), (envAt 5, .login ckuSo user02),
    (envAt 6, .login ckuUser user01), (envAt 7, .logout),
    (envAt 8, .login ckuSo guess9), (envAt 9, .login ckuSo user02)]

/-- Four wrong SO PINs are told from the right one since it was last given, under a limit of
three. -/
theorem so_guesses_exceed_limit :
    (∀ step ∈ guessesAroundLogout, step.1.fileWrites = true) ∧
      TokenConfig.strict.maxFailedLogins = 3 ∧
      (guessesAroundLogout.foldl (countSoGuesses pinAnswers.crates)
        (fresh .strict, 0)).2 = 4 := by
  decide +kernel

/-- Two of the four guesses come after the last logout. -/
theorem loginGuesses_around_logout :
    (guessesAroundLogout.foldl (countLoginGuesses pinAnswers.crates)
        (fresh .strict, 0)).2 = 2 ∧
      (guessesAroundLogout.foldl (countLoginGuesses pinAnswers.crates)
        (fresh .strict, 0)).2 ≤ TokenConfig.strict.maxFailedLogins :=
  ⟨by decide +kernel, loginGuesses_le_maxFailedLogins pinAnswers.crates .strict rfl
    guessesAroundLogout (by decide +kernel)⟩

end CratonHsm.SoPinGuessing
