import CratonHsm.Token.Outcomes

/-!
# The lockout of a role

`login` and `set_pin` compare a PIN with the stored hash of a role (`pinVerdict`), count a wrong
one, lock the PIN when the count reaches `max_failed_logins`, and refuse whatever is given while it
is locked. `LockoutEffect` says once what an operation can do to the count and the lock of a role: a
right PIN and a logout clear the count and keep the lock, and only a completed `init_token`, or
`init_pin` for the user, clears both. So a number that grows with the wrong PINs and goes back to
zero when the count is cleared stays within the count, and the count below the limit, while the PIN
is not locked (`LockoutEffect.counted`).
-/

set_option autoImplicit false

namespace CratonHsm

open Crypto
open StoredToken AuthState

variable {maxFailedLogins : Nat} {role : Role}

/-- The outcome of the comparison of a PIN with the PIN hash of a role by `login` or `set_pin`, when
the answer depends on it. -/
def StoredToken.pinVerdict (crates : Crates) (env : TokenEnv) (s : StoredToken) (role : Role) :
    TokenOp → Option Bool
  | .login userType pin =>
    if userType = role.userType then s.loginVerdict crates env role pin else none
  | .setPin oldPin newPin => s.setPinVerdict crates env role oldPin newPin
  | _ => none

/-- The operation clears the count of a role. -/
def clearsCount (role : Role) (verdict : Option Bool) (result : HsmResult Unit) : TokenOp → Bool
  | .logout => result.toBool
  | .initToken _ _ => result.toBool
  | .initPin _ => role = .user && result.toBool
  | _ => verdict == some true

/-- What an operation can do to the lockout fields of a role, by the operation, the outcome of its
comparison and its answer. -/
inductive LockoutEffect (role : Role) (maxFailedLogins : Nat) (before after : PinLockout) :
    TokenOp → Option Bool → HsmResult Unit → Prop where
  | wrong (op : TokenOp) (e : HsmError) (later : Nat) (hopen : before.pinLocked = false)
      (hafter : after = before.fail maxFailedLogins later) :
      LockoutEffect role maxFailedLogins before after op (some false) (.error e)
  | right (op : TokenOp) (hcompares : ∀ result, clearsCount role (some true) result op = true)
      (hopen : before.pinLocked = false) (hafter : after = before.succeed) :
      LockoutEffect role maxFailedLogins before after op (some true) (.ok ())
  | loggedOut (hafter : after = before.succeed) :
      LockoutEffect role maxFailedLogins before after .logout none (.ok ())
  | replaced (op : TokenOp) (hclears : clearsCount role none (.ok ()) op = true)
      (hunlocks : op ≠ .logout) (hafter : after = .clear) :
      LockoutEffect role maxFailedLogins before after op none (.ok ())
  | other (op : TokenOp) (result : HsmResult Unit)
      (hfailed : after.failedLogins = before.failedLogins)
      (hlocked : after.pinLocked = before.pinLocked) :
      LockoutEffect role maxFailedLogins before after op none result

section Effects

variable {crates : Crates} {env : TokenEnv} {s : StoredToken}

theorem loginVerdict_open {pin : Bytes} {verdict : Bool}
    (h : s.loginVerdict crates env role pin = some verdict) :
    (s.token.auth.lockout role).pinLocked = false := by
  unfold loginVerdict at h
  split_ifs at h with hguard
  exact hguard.2.2.2.2

theorem setPinVerdict_open {oldPin newPin : Bytes} {verdict : Bool}
    (h : s.setPinVerdict crates env role oldPin newPin = some verdict) :
    (s.token.auth.lockout role).pinLocked = false := by
  unfold setPinVerdict at h
  split_ifs at h with hguard
  exact hguard.2.2.1

@[simp]
theorem AuthState.lockout_setLockout (auth : AuthState) (role : Role) (lockout : PinLockout) :
    (auth.setLockout role lockout).lockout role = lockout := by
  cases role <;> rfl

theorem AuthState.lockout_setLockout_of_ne (auth : AuthState) {other : Role} (h : other ≠ role)
    (lockout : PinLockout) :
    (auth.setLockout other lockout).lockout role = auth.lockout role := by
  cases role <;> cases other <;> first | rfl | exact absurd rfl h

/-- The lockout fields are not those of the login state. -/
@[simp]
theorem AuthState.lockout_login (auth : AuthState) (login : LoginState) (role : Role) :
    ({ auth with login := login }).lockout role = auth.lockout role := by
  cases role <;> rfl

variable (crates env s)

theorem lockoutEffect_login (role : Role) (userType : Nat) (pin : Bytes) :
    LockoutEffect role s.token.config.maxFailedLogins (s.token.auth.lockout role)
      ((s.login crates env userType pin).2.token.auth.lockout role) (.login userType pin)
      (s.pinVerdict crates env role (.login userType pin)) (s.login crates env userType pin).1 := by
  by_cases hrole : ∃ other : Role, userType = other.userType
  · obtain ⟨other, rfl⟩ := hrole
    have hcases := login_outcome crates env s other pin
    by_cases hother : other = role
    · subst hother
      simp only [pinVerdict, if_true]
      rcases hcases with ⟨hverdict, e, heq⟩ | ⟨hverdict, hopen, heq⟩ | ⟨hverdict, heq⟩ <;>
        rw [hverdict, heq]
      · exact .other _ _ rfl rfl
      · exact .wrong _ _ env.later hopen (by simp)
      · exact .right _ (fun _ ↦ rfl) (loginVerdict_open hverdict) (by simp)
    · have hne : other.userType ≠ role.userType := by
        cases other <;> cases role <;> simp_all [Role.userType, ckuUser, ckuSo]
      simp only [pinVerdict, if_neg hne]
      rcases hcases with ⟨-, e, heq⟩ | ⟨-, -, heq⟩ | ⟨-, heq⟩ <;> rw [heq] <;>
        refine .other _ _ ?_ ?_ <;> simp [lockout_setLockout_of_ne _ hother]
  · have hother : ∀ role : Role, userType ≠ role.userType := fun role h ↦ hrole ⟨role, h⟩
    obtain ⟨e, heq⟩ := login_of_not_role crates env s pin hother
    simp only [pinVerdict, if_neg (hother role), heq]
    exact .other _ _ rfl rfl

theorem lockoutEffect_setPin (role : Role) (oldPin newPin : Bytes) :
    LockoutEffect role s.token.config.maxFailedLogins (s.token.auth.lockout role)
      ((s.setPin crates env oldPin newPin).2.token.auth.lockout role) (.setPin oldPin newPin)
      (s.pinVerdict crates env role (.setPin oldPin newPin))
      (s.setPin crates env oldPin newPin).1 := by
  have hchanged : ∀ other, (s.changePin crates env other oldPin newPin).token.auth =
      s.token.auth.setLockout other (s.token.auth.lockout other).succeed := by
    intro other
    rw [changePin_token]
    cases other <;> simp [Token.setPinHash]
  simp only [pinVerdict]
  rcases setPin_outcome crates env s oldPin newPin with ⟨e, heq, hnone⟩ | ⟨other, hlogin, houtcome⟩
  · rw [heq, hnone]
    exact .other _ _ rfl rfl
  · by_cases hother : other = role
    · subst hother
      rcases houtcome with ⟨hverdict, hopen, heq⟩ | ⟨hverdict, heq⟩ <;> rw [hverdict, heq]
      · exact .wrong _ _ env.later hopen (by simp)
      · exact .right _ (fun _ ↦ rfl) (setPinVerdict_open hverdict) (by simp [hchanged])
    · have hnone : s.setPinVerdict crates env role oldPin newPin = none := by
        refine if_neg fun h ↦ hother ?_
        cases other <;> cases role <;> simp_all [Role.loginState]
      rw [hnone]
      rcases houtcome with ⟨-, -, heq⟩ | ⟨-, heq⟩ <;> rw [heq] <;> refine .other _ _ ?_ ?_ <;>
        simp [hchanged, lockout_setLockout_of_ne _ hother]

/-- A restart loads the counts and locks that were saved. -/
theorem restart_lockout (hstore : s.token.config.hasLockoutStore = true) (hsaved : s.LockoutSaved)
    (role : Role) :
    (s.restart.token.auth.lockout role).failedLogins = (s.token.auth.lockout role).failedLogins ∧
      (s.restart.token.auth.lockout role).pinLocked = (s.token.auth.lockout role).pinLocked := by
  have hloaded : loadLockout s.files.lockout = s.token.auth.lockoutData := hsaved
  simp only [restart, Token.load, hstore, if_true, hloaded]
  cases role <;> split <;> exact ⟨rfl, rfl⟩

theorem lockoutEffect_apply (role : Role) (op : TokenOp)
    (hstore : s.token.config.hasLockoutStore = true) (hsaved : s.LockoutSaved) :
    LockoutEffect role s.token.config.maxFailedLogins (s.token.auth.lockout role)
      ((op.apply crates env s).2.token.auth.lockout role) op (s.pinVerdict crates env role op)
      (op.apply crates env s).1 := by
  cases op with
  | initToken soPin label =>
    simp only [TokenOp.apply]
    rcases initToken_outcome crates env s soPin label with
      ⟨-, e, heq⟩ | ⟨-, heq⟩ | ⟨-, heq⟩ <;> rw [heq]
    · exact .other _ _ rfl rfl
    · exact .other _ _ (by cases role <;> simp [lockout])
        (by cases role <;> simp [lockout])
    · refine .replaced _ rfl (by simp) ?_
      cases role <;> simp [lockout, resetForInit, new]
  | initPin pin =>
    simp only [TokenOp.apply]
    rcases initPin_outcome crates env s pin with ⟨e, heq⟩ | ⟨-, -, heq⟩ <;> rw [heq]
    · exact .other _ _ rfl rfl
    · rw [installUserPin_token]
      cases role with
      | user => exact .replaced _ rfl (by simp) rfl
      | so => exact .other _ _ rfl rfl
  | setPin oldPin newPin => exact lockoutEffect_setPin crates env s role oldPin newPin
  | login userType pin => exact lockoutEffect_login crates env s role userType pin
  | logout =>
    simp only [TokenOp.apply]
    rcases logout_outcome env s with ⟨-, e, heq⟩ | ⟨-, heq⟩ <;> rw [heq]
    · exact .other _ _ rfl rfl
    · exact .loggedOut (by cases role <;> simp [lockout])
  | restart =>
    obtain ⟨hfailed, hlocked⟩ := restart_lockout s hstore hsaved role
    exact .other _ _ hfailed hlocked

end Effects

/-- A counted failure below the limit does not wrap around, and locks exactly at the limit. -/
theorem fail_counts {lockout : PinLockout} (later : Nat) (hlimit : maxFailedLogins ≤ 100)
    (hopen : lockout.pinLocked = false) (hbelow : lockout.failedLogins < maxFailedLogins) :
    (lockout.fail maxFailedLogins later).failedLogins = lockout.failedLogins + 1 ∧
      ((lockout.fail maxFailedLogins later).pinLocked = false →
        lockout.failedLogins + 1 < maxFailedLogins) := by
  have hsucc : u32Succ lockout.failedLogins = lockout.failedLogins + 1 := by
    unfold u32Succ; omega
  refine ⟨hsucc, fun h ↦ ?_⟩
  simp only [PinLockout.fail, hopen, hsucc, Bool.false_or, decide_eq_false_iff_not] at h
  omega

variable {before after : PinLockout} {op : TokenOp} {verdict : Option Bool}
  {result : HsmResult Unit}

/-- A number that an operation that clears the count sets to zero, and that only a wrong PIN raises,
by one, stays within the count while the PIN is not locked, and within the limit. -/
theorem LockoutEffect.counted {guesses next : Nat}
    (h : LockoutEffect role maxFailedLogins before after op verdict result)
    (hlimit : 3 ≤ maxFailedLogins ∧ maxFailedLogins ≤ 100)
    (hclears : clearsCount role verdict result op = true → next = 0)
    (hnext : next ≤ if verdict = some false then guesses + 1 else guesses)
    (hcounted : before.pinLocked = false →
      guesses ≤ before.failedLogins ∧ before.failedLogins < maxFailedLogins) :
    (after.pinLocked = false → next ≤ after.failedLogins ∧ after.failedLogins < maxFailedLogins) ∧
      (guesses ≤ maxFailedLogins → next ≤ maxFailedLogins) := by
  have hreset : next = 0 → after.failedLogins = 0 →
      (after.pinLocked = false → next ≤ after.failedLogins ∧ after.failedLogins < maxFailedLogins) ∧
        (guesses ≤ maxFailedLogins → next ≤ maxFailedLogins) :=
    fun hzero hfailed ↦ ⟨fun _ ↦ by omega, fun _ ↦ by omega⟩
  cases h with
  | wrong op e later hopen hafter =>
    obtain ⟨hguesses, hbelow⟩ := hcounted hopen
    obtain ⟨hfailed, hlock⟩ := fail_counts later hlimit.2 hopen hbelow
    rw [if_pos rfl] at hnext
    rw [hafter, hfailed]
    exact ⟨fun h ↦ ⟨by omega, hlock h⟩, fun _ ↦ by omega⟩
  | right op hcompares hopen hafter => exact hreset (hclears (hcompares _)) (hafter ▸ rfl)
  | loggedOut hafter => exact hreset (hclears rfl) (hafter ▸ rfl)
  | replaced op hclear hunlocks hafter => exact hreset (hclears hclear) (hafter ▸ rfl)
  | other op result hfailed hlocked =>
    rw [if_neg nofun] at hnext
    rw [hfailed, hlocked]
    exact ⟨fun h ↦ ⟨hnext.trans (hcounted h).1, (hcounted h).2⟩, fun h ↦ hnext.trans h⟩

/-- A locked PIN stays locked through every operation that does not replace it. -/
theorem LockoutEffect.stays_locked
    (h : LockoutEffect role maxFailedLogins before after op verdict result)
    (hlocked : before.pinLocked = true)
    (hkept : clearsCount role none result op = true → op = .logout) : after.pinLocked = true := by
  cases h with
  | wrong op e later hopen hafter => simp [hopen] at hlocked
  | right op hcompares hopen hafter => simp [hopen] at hlocked
  | loggedOut hafter => rw [hafter]; exact hlocked
  | replaced op hclears hunlocks hafter => exact absurd (hkept hclears) hunlocks
  | other op result hfailed hsame => rw [hsame, hlocked]

end CratonHsm
