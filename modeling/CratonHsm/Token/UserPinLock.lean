import CratonHsm.Token.Lockouts
import CratonHsm.Library.StepSystem

/-!
# The lock on the user's PIN

Two operations compare a PIN with the stored hash of the user's PIN: `login` and `set_pin`. A run is
a list of operations, each of which completes or is cut off by a crash. An operation writes its
files in a fixed order, so a crash is a point in that order (`CrashPoint`), and the next process
loads what has been written by then.

From what the operations do to the lockout of the user (`LockoutEffect`) follow the two halves of
`userPin_lock_holds`. A locked PIN stays locked until an `init_pin` or an `init_token` succeeds,
provided that none of these is cut off once it has saved the lockout: both save the unlocked lockout
first and the token state last, and after a crash in between the PIN that was locked logs in
(`cutOff_initPin_unlocks`). And within a process the PIN is locked by the time the wrong guesses
since the count was last cleared reach the limit.
-/

set_option autoImplicit false

namespace CratonHsm.UserPinLock

open Crypto Library

variable {s : StoredToken}

/-! ### Guesses and what ends them -/

/-- The outcome of the comparison of a PIN with the user's PIN hash, when the operation makes one
and its answer depends on it. -/
def userVerdict (crates : Crates) (env : TokenEnv) (s : StoredToken) : TokenOp → Option Bool
  | .login userType pin => if userType = ckuUser then s.loginVerdict crates env .user pin else none
  | .setPin oldPin newPin => s.setPinVerdict crates env .user oldPin newPin
  | _ => none

/-- The operation replaced the user's PIN or the whole token: an `init_pin` or an `init_token`
succeeded. -/
def unlocksUser (result : HsmResult Unit) : TokenOp → Bool
  | .initPin _ => result.toBool
  | .initToken _ _ => result.toBool
  | _ => false

/-- The operation cleared the user's count of failed logins. -/
def resetsUserCount (verdict : Option Bool) (result : HsmResult Unit) (op : TokenOp) : Bool :=
  match op with
  | .logout => result.toBool
  | _ => verdict == some true || unlocksUser result op

theorem resets_of_clearsCount {verdict : Option Bool} {result : HsmResult Unit} {op : TokenOp}
    (h : clearsCount .user verdict result op = true) :
    resetsUserCount verdict result op = true := by
  cases op <;> simp_all [clearsCount, resetsUserCount, unlocksUser]

theorem userVerdict_eq (crates : Crates) (env : TokenEnv) (s : StoredToken) (op : TokenOp) :
    userVerdict crates env s op = s.pinVerdict crates env .user op := by
  cases op <;> rfl

/-! ### Operations that a crash cuts off -/

/-- How far an operation comes with its files: the lockout is saved first, then `init_token` removes
it, and the token state is saved last. -/
inductive CrashPoint where
  | beforeWrites
  | lockoutSaved
  | lockoutRemoved
  | stateSaved
  deriving DecidableEq

/-- The writes up to a crash succeed. The others may as well fail, as memory is lost and an
operation does nothing but log a failed write. -/
def upTo (env : TokenEnv) (point : CrashPoint) : TokenEnv :=
  { env with
    lockoutSaves := point ≠ .beforeWrites
    lockoutClears := point = .lockoutRemoved ∨ point = .stateSaved
    stateSaves := point = .stateSaved }

/-- What happens to a token: an operation runs to its end, or a crash cuts it off. -/
inductive TokenEvent where
  | completes (env : TokenEnv) (op : TokenOp)
  | crashes (env : TokenEnv) (op : TokenOp) (point : CrashPoint)

/-- The file writes of an operation that completes succeed. -/
def TokenEvent.writes : TokenEvent → Bool
  | .completes env _ => env.fileWrites
  | .crashes _ _ _ => true

/-! ### Counting guesses along a run -/

section Runs

variable (crates : Crates)

/-- The token after an event. -/
def applyStep (s : StoredToken) : TokenEvent → StoredToken
  | .completes env op => (op.apply crates env s).2
  | .crashes env op point => (op.apply crates (upTo env point) s).2.restart

/-- One event of a run, with the number of wrong user PINs compared since the user's count was last
cleared or a crash ended the process. -/
def countUserGuesses (s : StoredToken × Nat) (event : TokenEvent) : StoredToken × Nat :=
  (applyStep crates s.1 event,
    match event with
    | .completes env op =>
      if resetsUserCount (userVerdict crates env s.1 op) (op.apply crates env s.1).1 op then 0
      else if userVerdict crates env s.1 op = some false then s.2 + 1
      else s.2
    | .crashes _ _ _ => 0)

/-- No `init_pin` or `init_token` succeeds in this event. -/
def KeepsLock (s : StoredToken) : TokenEvent → Prop
  | .completes env op => unlocksUser (op.apply crates env s).1 op = false
  | .crashes _ _ _ => True

/-- No `init_pin` or `init_token` that would have succeeded is cut off after its first save. -/
def KeepsSaves (s : StoredToken) : TokenEvent → Prop
  | .completes _ _ => True
  | .crashes env op point =>
    unlocksUser (op.apply crates (upTo env point) s).1 op = true → point = .beforeWrites

instance (s : StoredToken) (event : TokenEvent) : Decidable (KeepsLock crates s event) := by
  cases event <;> unfold KeepsLock <;> infer_instance

instance (s : StoredToken) (event : TokenEvent) : Decidable (KeepsSaves crates s event) := by
  cases event <;> unfold KeepsSaves <;> infer_instance

/-- The settings stay and the lockout file holds what memory holds. -/
structure Saved (config : TokenConfig) (s : StoredToken) : Prop where
  config_eq : s.token.config = config
  saved : s.LockoutSaved

/-- While the user's PIN is not locked, the counted guesses are among the failed logins, which are
below the limit. -/
structure Counted (config : TokenConfig) (s : StoredToken × Nat) : Prop where
  saved : Saved config s.1
  counted : s.1.token.auth.user.pinLocked = false → s.2 ≤ s.1.token.auth.user.failedLogins ∧
    s.1.token.auth.user.failedLogins < config.maxFailedLogins

variable {crates} {config : TokenConfig}

theorem saved_fresh (config : TokenConfig) : Saved config (StoredToken.fresh config) where
  config_eq := by simp
  saved := by simp only [StoredToken.LockoutSaved, StoredToken.fresh_token]; rfl

/-- Memory and the lockout file agree after every event: what a crash leaves is loaded. -/
theorem Saved.step {event : TokenEvent} (h : Saved config s)
    (hstore : config.hasLockoutStore = true) (hwrites : event.writes = true) :
    Saved config (applyStep crates s event) := by
  cases event with
  | completes env op =>
    exact ⟨(op.apply_effect crates env s).config_eq.trans h.config_eq, apply_lockoutSaved crates env
      op (by rw [h.config_eq, hstore]) (TokenEnv.saves_of_fileWrites hwrites).1 h.saved⟩
  | crashes env op point =>
    have hconfig := (op.apply_effect crates (upTo env point) s).config_eq.trans h.config_eq
    exact ⟨(Token.load_config _ _).trans hconfig, restart_lockoutSaved (by rw [hconfig, hstore])⟩

theorem Saved.effect (h : Saved config s) (hstore : config.hasLockoutStore = true) (crates : Crates)
    (env : TokenEnv) (op : TokenOp) :
    LockoutEffect .user config.maxFailedLogins s.token.auth.user
      (op.apply crates env s).2.token.auth.user op (userVerdict crates env s op)
      (op.apply crates env s).1 := by
  rw [← h.config_eq, userVerdict_eq]
  exact lockoutEffect_apply crates env s .user op (by rw [h.config_eq, hstore]) h.saved

/-- The count and the lock that a restart finds are those of the state whose lockout is in the
file. -/
theorem restart_user (hstore : s.token.config.hasLockoutStore = true) {auth : AuthState}
    (hfile : loadLockout s.files.lockout = auth.lockoutData) :
    s.restart.token.auth.user.failedLogins = auth.user.failedLogins ∧
      s.restart.token.auth.user.pinLocked = auth.user.pinLocked := by
  simp only [StoredToken.restart, Token.load, hstore, if_true, hfile]
  split <;> exact ⟨rfl, rfl⟩

/-- An operation that is cut off before it writes leaves the lockout file. -/
theorem apply_lockout_beforeWrites (env : TokenEnv) (op : TokenOp) :
    (op.apply crates (upTo env .beforeWrites) s).2.files.lockout = s.files.lockout := by
  have hnone : ∀ t : StoredToken, t.persistLockout (upTo env .beforeWrites) = t ∧
      t.clearLockout (upTo env .beforeWrites) = t := fun t ↦
    ⟨by simp [StoredToken.persistLockout, upTo], by simp [StoredToken.clearLockout, upTo]⟩
  generalize hafter : (op.apply crates (upTo env .beforeWrites) s).2 = s',
    hresult : (op.apply crates (upTo env .beforeWrites) s).1 = result
  have heffect := op.apply_effect crates (upTo env .beforeWrites) s
  rw [hafter, hresult] at heffect
  cases heffect <;> simp [StoredToken.failPin, StoredToken.enter, StoredToken.passPin,
    StoredToken.changePin, StoredToken.installUserPin, StoredToken.leave,
    StoredToken.failInitToken, StoredToken.reinitialize, StoredToken.restart, StoredToken.withAuth,
    hnone]

/-- The user's lockout after a crash is the one before the operation, or the one after it if the
operation came to save it. -/
theorem Saved.crashed (h : Saved config s) (hstore : config.hasLockoutStore = true) (env : TokenEnv)
    (op : TokenOp) (point : CrashPoint) :
    let found := (op.apply crates (upTo env point) s).2.restart.token.auth.user
    let after := (op.apply crates (upTo env point) s).2.token.auth.user
    (point = .beforeWrites ∧ found.failedLogins = s.token.auth.user.failedLogins ∧
        found.pinLocked = s.token.auth.user.pinLocked) ∨
      (point ≠ .beforeWrites ∧ found.failedLogins = after.failedLogins ∧
        found.pinLocked = after.pinLocked) := by
  have hconfig := (op.apply_effect crates (upTo env point) s).config_eq.trans h.config_eq
  have hlockout := congrArg TokenConfig.hasLockoutStore hconfig
  rw [hstore] at hlockout
  by_cases hpoint : point = .beforeWrites
  · subst hpoint
    exact .inl ⟨rfl, restart_user hlockout
      ((congrArg loadLockout (apply_lockout_beforeWrites env op)).trans h.saved)⟩
  · exact .inr ⟨hpoint, restart_user hlockout (apply_lockoutSaved crates _ op
      (by rw [h.config_eq, hstore]) (by simpa [upTo] using hpoint) h.saved)⟩

/-- Every event keeps the counted guesses among the failed logins. -/
theorem Counted.step {s : StoredToken × Nat} {event : TokenEvent} (h : Counted config s)
    (hstore : config.hasLockoutStore = true) (hwrites : event.writes = true) :
    Counted config (countUserGuesses crates s event) := by
  refine ⟨h.saved.step hstore hwrites, ?_⟩
  cases event with
  | completes env op =>
    have hnext : (countUserGuesses crates s (.completes env op)).2 ≤
        if userVerdict crates env s.1 op = some false then s.2 + 1 else s.2 := by
      simp only [countUserGuesses]
      split_ifs <;> omega
    exact ((h.saved.effect hstore crates env op).counted config.maxFailedLogins_bounds
      (fun h ↦ if_pos (resets_of_clearsCount h)) hnext h.counted).1
  | crashes env op point =>
    intro hopen
    refine ⟨Nat.zero_le _, ?_⟩
    -- no guess is counted in a new process, and its count is one that was below the limit
    have hafter := ((h.saved.effect hstore crates (upTo env point) op).counted
      config.maxFailedLogins_bounds (fun _ ↦ rfl) (Nat.zero_le _) h.counted).1
    rcases h.saved.crashed hstore env op point with ⟨-, hfailed, hlocked⟩ | ⟨-, hfailed, hlocked⟩
    · rw [show (countUserGuesses crates s (.crashes env op point)).1.token.auth.user.failedLogins =
        s.1.token.auth.user.failedLogins from hfailed]
      exact (h.counted (hlocked.symm.trans hopen)).2
    · rw [show (countUserGuesses crates s (.crashes env op point)).1.token.auth.user.failedLogins =
        (op.apply crates (upTo env point) s.1).2.token.auth.user.failedLogins from hfailed]
      exact (hafter (hlocked.symm.trans hopen)).2

theorem counted_fresh (config : TokenConfig) : Counted config (StoredToken.fresh config, 0) where
  saved := saved_fresh config
  counted := by
    intro _
    have hlimit := config.maxFailedLogins_bounds
    rw [StoredToken.fresh_token]
    exact ⟨Nat.zero_le _, show 0 < config.maxFailedLogins by omega⟩

/-- Where no PIN is replaced, only a logout clears the count without a right PIN. -/
theorem logout_of_not_unlocks {result : HsmResult Unit} {op : TokenOp}
    (h : unlocksUser result op = false) (hclears : clearsCount .user none result op = true) :
    op = .logout := by
  cases op <;> simp_all [unlocksUser, clearsCount]

/-- A locked PIN stays locked through an event that replaces no PIN. -/
theorem Saved.locked_step {event : TokenEvent} (h : Saved config s)
    (hstore : config.hasLockoutStore = true) (hlocked : s.token.auth.user.pinLocked = true)
    (hkept : KeepsLock crates s event) (hsaves : KeepsSaves crates s event) :
    (applyStep crates s event).token.auth.user.pinLocked = true := by
  cases event with
  | completes env op =>
    exact (h.effect hstore crates env op).stays_locked hlocked (logout_of_not_unlocks hkept)
  | crashes env op point =>
    rcases h.crashed hstore env op point with ⟨-, -, hfound⟩ | ⟨hpoint, -, hfound⟩
    · exact hfound.trans hlocked
    · refine hfound.trans ((h.effect hstore crates (upTo env point) op).stays_locked hlocked
        (logout_of_not_unlocks ?_))
      exact Bool.eq_false_iff.mpr fun hunlocks ↦ hpoint (hsaves hunlocks)

/-- A login as the user into a locked account fails. -/
theorem login_ne_ok_of_locked (env : TokenEnv) (pin : Bytes)
    (hlocked : s.token.auth.user.pinLocked = true) :
    (s.login crates env ckuUser pin).1 ≠ .ok () := by
  rcases login_outcome crates env s .user pin with
    ⟨-, e, heq⟩ | ⟨-, hopen, -⟩ | ⟨hverdict, -⟩
  · rw [show ckuUser = Role.user.userType from rfl, heq]
    exact fun h ↦ by cases h
  · simp [AuthState.lockout, hlocked] at hopen
  · simpa [AuthState.lockout, hlocked] using loginVerdict_open hverdict

/-- A PIN change of a user whose PIN is locked fails. -/
theorem setPin_ne_ok_of_locked (env : TokenEnv) (oldPin newPin : Bytes)
    (hlogin : s.token.auth.login = .userLoggedIn) (hlocked : s.token.auth.user.pinLocked = true) :
    (s.setPin crates env oldPin newPin).1 ≠ .ok () := by
  rcases setPin_outcome crates env s oldPin newPin with ⟨e, heq, -⟩ | ⟨role, hrole, houtcome⟩
  · rw [heq]
    exact fun h ↦ by cases h
  · cases role with
    | so => simp [hlogin, Role.loginState] at hrole
    | user =>
      have hopen : s.token.auth.user.pinLocked = false := by
        rcases houtcome with ⟨hverdict, -⟩ | ⟨hverdict, -⟩ <;> exact setPinVerdict_open hverdict
      simp [hlocked] at hopen

/-- A run in which no `init_pin` and no `init_token` succeeds, or is cut off after its first save,
leaves a locked PIN locked. -/
theorem locked_foldl (hstore : config.hasLockoutStore = true) (hsaved : Saved config s)
    (hlocked : s.token.auth.user.pinLocked = true) (events : List TokenEvent)
    (hwrites : ∀ event ∈ events, event.writes = true)
    (hkept : FoldMeets (applyStep crates) (KeepsLock crates) s events)
    (hsaves : FoldMeets (applyStep crates) (KeepsSaves crates) s events) :
    (events.foldl (applyStep crates) s).token.auth.user.pinLocked = true := by
  have hmeets : FoldMeets (applyStep crates)
      (fun s event ↦ (KeepsLock crates s event ∧ KeepsSaves crates s event) ∧ event.writes = true)
      s events :=
    (hkept.and hsaves).and (FoldMeets.of_forall hwrites)
  have hstep : ∀ s event, Saved config s ∧ s.token.auth.user.pinLocked = true →
      (KeepsLock crates s event ∧ KeepsSaves crates s event) ∧ event.writes = true →
      Saved config (applyStep crates s event) ∧
        (applyStep crates s event).token.auth.user.pinLocked = true :=
    fun s event hinv hguard ↦ ⟨hinv.1.step hstore hguard.2,
      hinv.1.locked_step hstore hinv.2 hguard.1.1 hguard.1.2⟩
  exact (foldl_invariant hstep events s ⟨hsaved, hlocked⟩ hmeets).2

variable (crates)

/-- In every run of a token whose lockout file is written, crashes included, a locked user PIN lets
no login as the user and no PIN change of the user through until an `init_pin` or an `init_token`
succeeds, provided that meanwhile none of these is cut off after it has saved the lockout; and
within a process the PIN is locked as soon as the wrong user PINs compared since its count was last
cleared reach `max_failed_logins`. -/
theorem userPin_lock_holds (config : TokenConfig) (hstore : config.hasLockoutStore = true) :
    (∀ before after : List TokenEvent, (∀ event ∈ before ++ after, event.writes = true) →
      (before.foldl (applyStep crates) (.fresh config)).token.auth.user.pinLocked = true →
      FoldMeets (applyStep crates) (KeepsLock crates)
        (before.foldl (applyStep crates) (.fresh config)) after →
      FoldMeets (applyStep crates) (KeepsSaves crates)
        (before.foldl (applyStep crates) (.fresh config)) after →
      ∀ (env : TokenEnv) (s : StoredToken),
        s = (before ++ after).foldl (applyStep crates) (.fresh config) →
        (∀ pin, (s.login crates env ckuUser pin).1 ≠ .ok ()) ∧
          (s.token.auth.login = .userLoggedIn →
            ∀ oldPin newPin, (s.setPin crates env oldPin newPin).1 ≠ .ok ())) ∧
    ∀ events : List TokenEvent, (∀ event ∈ events, event.writes = true) →
      config.maxFailedLogins ≤
        (events.foldl (countUserGuesses crates) (.fresh config, 0)).2 →
      (events.foldl (countUserGuesses crates)
        (.fresh config, 0)).1.token.auth.user.pinLocked = true := by
  refine ⟨fun before after hwrites hlocked hkept hsaves env s hs ↦ ?_,
    fun events hwrites hlimit ↦ ?_⟩
  · have hbefore : Saved config (before.foldl (applyStep crates) (.fresh config)) :=
      foldl_invariant (fun _ _ hinv hwrite ↦ hinv.step hstore hwrite) before _
        (saved_fresh config)
        (FoldMeets.of_forall fun event h ↦ hwrites event (List.mem_append_left _ h))
    have hafter : s.token.auth.user.pinLocked = true := by
      rw [hs, List.foldl_append]
      exact locked_foldl hstore hbefore hlocked after
        (fun event h ↦ hwrites event (List.mem_append_right _ h)) hkept hsaves
    exact ⟨fun pin ↦ login_ne_ok_of_locked env pin hafter,
      fun hlogin oldPin newPin ↦ setPin_ne_ok_of_locked env oldPin newPin hlogin hafter⟩
  · have hcounted : Counted config (events.foldl (countUserGuesses crates) (.fresh config, 0)) :=
      foldl_invariant (fun _ _ hinv hwrite ↦ hinv.step hstore hwrite) events _
        (counted_fresh config) (FoldMeets.of_forall hwrites)
    by_contra hopen
    have hbelow := hcounted.counted (Bool.eq_false_iff.mpr hopen)
    omega

end Runs

/-! ### Three guesses under a limit of three -/

/-- A token is set up by its security officer and user, and somebody guesses the user's PIN three
times. -/
def threeGuesses : List TokenEvent :=
  [.completes (envAt 0) (.initToken soPin1 blankLabel), .completes (envAt 1) (.login ckuSo soPin1),
    .completes (envAt 2) (.initPin user01), .completes (envAt 3) .logout,
    .completes (envAt 4) (.login ckuUser guess9), .completes (envAt 5) (.login ckuUser user02),
    .completes (envAt 6) (.login ckuUser guess9)]

/-- The security officer gives the user a new PIN, and a crash comes at some point of it. -/
def cutOffInitPin (point : CrashPoint) : List TokenEvent :=
  [.crashes (envAt 10) (.login ckuUser user01) .lockoutSaved,
    .completes (envAt 20) (.login ckuSo soPin1), .crashes (envAt 21) (.initPin user02) point]

/-- The third wrong guess locks the PIN, and the right PIN is refused after crashes in a login and
before the first save of an `init_pin`. -/
theorem userPin_locked_by_third_guess :
    (threeGuesses.foldl (countUserGuesses pinAnswers.crates)
        (.fresh .strict, 0)).1.token.auth.user.pinLocked = true ∧
      (((threeGuesses ++ cutOffInitPin .beforeWrites).foldl (applyStep pinAnswers.crates)
        (.fresh .strict)).login pinAnswers.crates (envAt 30) ckuUser user01).1 ≠ .ok () :=
  ⟨(userPin_lock_holds pinAnswers.crates .strict rfl).2 threeGuesses (by decide +kernel)
      (by decide +kernel),
    ((userPin_lock_holds pinAnswers.crates .strict rfl).1 threeGuesses
      (cutOffInitPin .beforeWrites) (by decide +kernel) (by decide +kernel) (by decide +kernel)
      (by decide +kernel) (envAt 30) _ rfl).1 user01⟩

/-- The PIN is locked, no `init_pin` and no `init_token` succeeds after that, and the PIN logs in:
an `init_pin` of another PIN was cut off between its two saves. -/
theorem cutOff_initPin_unlocks :
    (threeGuesses.foldl (applyStep pinAnswers.crates)
        (.fresh .strict)).token.auth.user.pinLocked = true ∧
      FoldMeets (applyStep pinAnswers.crates) (KeepsLock pinAnswers.crates)
        (threeGuesses.foldl (applyStep pinAnswers.crates) (.fresh .strict))
        (cutOffInitPin .lockoutSaved) ∧
      (∀ event ∈ threeGuesses ++ cutOffInitPin .lockoutSaved, event.writes = true) ∧
      (((threeGuesses ++ cutOffInitPin .lockoutSaved).foldl (applyStep pinAnswers.crates)
        (.fresh .strict)).login pinAnswers.crates (envAt 30) ckuUser user01).1 = .ok () := by
  decide +kernel

end CratonHsm.UserPinLock
