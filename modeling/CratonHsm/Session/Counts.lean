import CratonHsm.Session.LoginStates

/-!
# Session counts

A token counts its sessions, while the session manager holds them. `Token.Counts` says that both
counters of a token are the numbers of open sessions of its slot and keep their limits. Opening and
closing sessions keep it (`Token.Counts.openSession`, `Token.Counts.closeSession`,
`Token.Counts.closeAllSessions`), on the failure paths as well, and so do logins and logouts, which
leave the kind of every session alone (`loginAll_kind`, `cancelSessionsForSlot_kind`).

The handle that a new session gets must not be in use: an entry that is replaced has been counted
and is not counted out again.
-/

set_option autoImplicit false

namespace CratonHsm

open Library Crypto
open Std (ExtTreeMap)
open Token

variable {session : Session}

/-! ### Numbers of open sessions -/

/-- What the counters see of a session: its slot, and whether it is read-write. -/
def Session.kind (session : Session) : Nat × Bool := (session.slotId, session.state.isRw)

/-- Whether a session of a kind counts among the read-write sessions of a slot. -/
def rwKind (slotId : Nat) (kind : Nat × Bool) : Bool := kind.1 = slotId && kind.2

namespace SessionManager

variable (manager : SessionManager) (slotId : Nat)

/-- The number of open sessions of a slot. -/
def openCount : Nat := (manager.sessionsOfSlot slotId).length

/-- The number of open read-write sessions of a slot. -/
def openRwCount : Nat :=
  ((manager.sessionsOfSlot slotId).filter fun entry ↦ entry.2.state.isRw).length

theorem openCount_eq :
    manager.openCount slotId = countValues (·.kind.1 = slotId) manager.sessions := by
  rw [countValues_eq_length]
  rfl

theorem openRwCount_eq :
    manager.openRwCount slotId = countValues (fun session ↦ rwKind slotId session.kind)
      manager.sessions := by
  rw [countValues_eq_length, openRwCount, sessionsOfSlot, List.filter_filter]
  congr 2
  funext entry
  exact Bool.and_comm ..

variable {manager} {manager' : SessionManager}

/-- The sessions of one table are those of the other, up to what the counters do not see. -/
def SameKinds (manager manager' : SessionManager) : Prop :=
  ∀ handle : Nat, manager'.sessions[handle]?.map Session.kind =
    manager.sessions[handle]?.map Session.kind

/-- The numbers depend only on the kinds of the open sessions. -/
theorem openCounts_congr (h : manager.SameKinds manager') :
    manager'.openCount slotId = manager.openCount slotId ∧
      manager'.openRwCount slotId = manager.openRwCount slotId := by
  have hany : ∀ (p : Nat × Bool → Bool) (handle : Nat),
      manager'.sessions[handle]?.any (fun session ↦ p session.kind) =
        manager.sessions[handle]?.any fun session ↦ p session.kind := by
    intro p handle
    have hp := congrArg (Option.any p) (h handle)
    rwa [Option.any_map, Option.any_map] at hp
  rw [openCount_eq, openCount_eq, openRwCount_eq, openRwCount_eq]
  exact ⟨countValues_congr (hany (·.1 = slotId)), countValues_congr (hany (rwKind slotId))⟩

/-- A new session of the slot is one more. -/
theorem openCounts_insert {handle : Nat} (hfree : manager.sessions[handle]? = none)
    (session : Session) (alloc : Session.SessionHandleAllocator) :
    openCount ⟨manager.sessions.insert handle session, alloc⟩ slotId =
        manager.openCount slotId + (decide (session.slotId = slotId)).toNat ∧
      openRwCount ⟨manager.sessions.insert handle session, alloc⟩ slotId =
        manager.openRwCount slotId + (rwKind slotId session.kind).toNat := by
  rw [openCount_eq, openCount_eq, openRwCount_eq, openRwCount_eq]
  exact ⟨countValues_insert hfree session, countValues_insert hfree session⟩

/-- A session that is closed is one less. -/
theorem openCounts_erase {handle : Nat} (hsession : manager.sessions[handle]? = some session) :
    manager.openCount slotId =
        openCount { manager with sessions := manager.sessions.erase handle } slotId +
          (decide (session.slotId = slotId)).toNat ∧
      manager.openRwCount slotId =
        openRwCount { manager with sessions := manager.sessions.erase handle } slotId +
          (rwKind slotId session.kind).toNat := by
  rw [openCount_eq, openCount_eq, openRwCount_eq, openRwCount_eq]
  exact ⟨countValues_erase hsession, countValues_erase hsession⟩

end SessionManager

/-! ### The counters of a token -/

/-- The counters of the token are numbers of sessions, within the limits. -/
structure Token.Counts (token : Token) (sessions rwSessions : Nat) : Prop where
  sessionCount_eq : token.sessionCount = sessions
  rwSessionCount_eq : token.rwSessionCount = rwSessions
  sessionCount_le : token.sessionCount ≤ token.config.maxSessions
  rwSessionCount_le : token.rwSessionCount ≤ token.config.maxRwSessions

section Token

variable {token next : Token} {sessions rwSessions : Nat}

/-- The tokens have the same counters and limits. -/
structure Token.SameCounters (token next : Token) : Prop where
  config_eq : next.config = token.config
  sessionCount_eq : next.sessionCount = token.sessionCount
  rwSessionCount_eq : next.rwSessionCount = token.rwSessionCount

theorem Token.sameCounters_iff : token.SameCounters next ↔ next.config = token.config ∧
    next.sessionCount = token.sessionCount ∧ next.rwSessionCount = token.rwSessionCount :=
  ⟨fun ⟨h, h', h''⟩ ↦ ⟨h, h', h''⟩, fun ⟨h, h', h''⟩ ↦ ⟨h, h', h''⟩⟩

theorem Token.Counts.of_same (h : token.Counts sessions rwSessions)
    (hsame : token.SameCounters next) : next.Counts sessions rwSessions := by
  obtain ⟨hconfig, hcount, hrw⟩ := hsame
  refine ⟨hcount.trans h.sessionCount_eq, hrw.trans h.rwSessionCount_eq, ?_, ?_⟩
  · rw [hcount, hconfig]
    exact h.sessionCount_le
  · rw [hrw, hconfig]
    exact h.rwSessionCount_le

theorem Token.Counts.increment (h : token.Counts sessions rwSessions) {rw : Bool}
    (hcount : token.incrementSessionCount rw = .ok next) :
    next.Counts (sessions + 1) (rwSessions + rw.toNat) := by
  obtain ⟨heq, hrw, hle, hrwle⟩ := h
  unfold incrementSessionCount at hcount
  split_ifs at hcount with hfull hkind hrwfull
  · cases hcount
    exact ⟨congrArg (· + 1) heq, by rw [hkind]; exact congrArg (· + 1) hrw, by dsimp only; omega,
      by dsimp only; omega⟩
  · cases hcount
    have hro : rw = false := by simpa using hkind
    exact ⟨congrArg (· + 1) heq, by rw [hro]; exact hrw, by dsimp only; omega, hrwle⟩

/-- A session that has been counted is counted out. -/
theorem Token.decrementSessionCount_eq {rw : Bool} (hcount : token.sessionCount = sessions + 1)
    (hrw : token.rwSessionCount = rwSessions + rw.toNat) :
    token.decrementSessionCount rw =
      (.ok (), { token with sessionCount := sessions, rwSessionCount := rwSessions }) := by
  cases rw with
  | false =>
    have hrw : token.rwSessionCount = rwSessions := hrw
    simp [decrementSessionCount, hcount, hrw]
  | true =>
    have hrw : token.rwSessionCount = rwSessions + 1 := hrw
    simp [decrementSessionCount, hcount, hrw]

theorem Token.Counts.decrement {rw : Bool}
    (h : token.Counts (sessions + 1) (rwSessions + rw.toNat)) :
    (token.decrementSessionCount rw).2.Counts sessions rwSessions := by
  obtain ⟨hcount, hrw, hle, hrwle⟩ := h
  rw [decrementSessionCount_eq hcount hrw]
  exact ⟨rfl, rfl, by dsimp only; omega, by dsimp only; omega⟩

end Token

/-! ### Token operations -/

section Operations

variable (crates : Crates) (env : TokenEnv) (s : StoredToken)

theorem login_counters (userType : Nat) (pin : Bytes) :
    s.token.SameCounters (s.login crates env userType pin).2.token := by
  by_cases hrole : ∃ role : Role, userType = role.userType
  · obtain ⟨role, rfl⟩ := hrole
    rcases login_outcome crates env s role pin with ⟨-, e, heq⟩ | ⟨-, -, heq⟩ | ⟨-, heq⟩ <;>
      simp [heq, sameCounters_iff]
  · obtain ⟨e, heq⟩ := login_of_not_role crates env s pin (not_exists.mp hrole)
    simp [heq, sameCounters_iff]

theorem logout_counters : s.token.SameCounters (s.logout env).2.token := by
  rcases logout_outcome env s with ⟨-, e, heq⟩ | ⟨-, heq⟩ <;> simp [heq, sameCounters_iff]

theorem initPin_counters (pin : Bytes) :
    s.token.SameCounters (s.initPin crates env pin).2.token := by
  rcases initPin_outcome crates env s pin with ⟨e, heq⟩ | ⟨-, -, heq⟩
  · simp [heq, sameCounters_iff]
  · rw [heq, installUserPin_token]
    exact ⟨rfl, rfl, rfl⟩

theorem setPin_counters (oldPin newPin : Bytes) :
    s.token.SameCounters (s.setPin crates env oldPin newPin).2.token := by
  rcases setPin_outcome crates env s oldPin newPin with
    ⟨e, heq, -⟩ | ⟨role, -, ⟨-, -, heq⟩ | ⟨-, heq⟩⟩
  · simp [heq, sameCounters_iff]
  · simp [heq, sameCounters_iff]
  · rw [heq, changePin_token, passPin_token]
    cases role <;> exact ⟨rfl, rfl, rfl⟩

/-- `init_token` keeps the counters when it fails, and else sets them to zero. -/
theorem initToken_counts {sessions rwSessions : Nat} (h : s.token.Counts sessions rwSessions)
    (soPin : Bytes) (label : FixedBytes 32) :
    (s.initToken crates env soPin label).2.token.Counts sessions rwSessions ∨
      (s.initToken crates env soPin label).2.token.Counts 0 0 := by
  rcases initToken_outcome crates env s soPin label with ⟨-, e, heq⟩ | ⟨-, heq⟩ | ⟨-, heq⟩
  · rw [heq]
    exact Or.inl h
  · rw [heq, failInitToken_token]
    exact Or.inl (h.of_same ⟨rfl, rfl, rfl⟩)
  · rw [heq, reinitialize_token]
    exact Or.inr ⟨rfl, rfl, Nat.zero_le _, Nat.zero_le _⟩

end Operations

/-! ### Opening and closing -/

section Manager

variable {manager manager' : SessionManager} {token token' : Token} {slotId : Nat}

/-- The counters of a token agree with the open sessions of its slot. -/
def SessionManager.Counted (manager : SessionManager) (slotId : Nat) (token : Token) : Prop :=
  token.Counts (manager.openCount slotId) (manager.openRwCount slotId)

theorem SessionManager.Counted.of_kinds (h : manager.Counted slotId token)
    (hkinds : manager.SameKinds manager') : manager'.Counted slotId token := by
  obtain ⟨hcount, hrw⟩ := SessionManager.openCounts_congr slotId hkinds
  rw [SessionManager.Counted, hcount, hrw]
  exact h

/-- A login does not change the kind of a session. -/
theorem Session.onLogin_kind {next : Session} (role : Role) (h : session.onLogin role = .ok next) :
    next.kind = session.kind := by
  unfold Session.onLogin at h
  cases role <;> cases hstate : session.state <;> rw [hstate] at h <;> cases h <;>
    simp [Session.kind, SessionState.isRw, hstate]

@[simp]
theorem Session.entered_kind (session : Session) (role : Role) :
    (session.entered role).kind = session.kind := by
  unfold Session.entered
  cases hlogin : session.onLogin role with
  | error e => rfl
  | ok next => exact Session.onLogin_kind role hlogin

@[simp]
theorem Session.onLogout_kind (session : Session) : session.onLogout.kind = session.kind := by
  cases hstate : session.state <;>
    simp [Session.onLogout, SessionState.onLogout, Session.kind, Session.clearOperations,
      SessionState.isRw, hstate]

@[simp]
theorem Session.clearOperations_kind (session : Session) :
    session.clearOperations.kind = session.kind := rfl

theorem Session.inherit_kind {next : Session} {login : LoginState}
    (h : session.inherit login = .ok next) : next.kind = session.kind := by
  cases login with
  | publicState => rw [← Except.ok.inj h]
  | userLoggedIn => exact Session.onLogin_kind .user h
  | soLoggedIn => exact Session.onLogin_kind .so h

theorem Session.new_kind (handle slotId flags : Nat) :
    (Session.new handle slotId flags).kind = (slotId, isRwFlags flags) := by
  cases hrw : isRwFlags flags <;> simp [Session.new, Session.kind, SessionState.isRw, hrw]

/-- `open_session` counts the session it opens, and no other. -/
theorem SessionManager.Counted.openSession (h : manager.Counted slotId token) {flags : Nat}
    (hfree : manager.sessions[manager.handleAlloc.allocate.1]? = none) {result : HsmResult Nat}
    (hrun : manager.openSession slotId flags token = (result, manager', token')) :
    manager'.Counted slotId token' ∧
      ∀ other, other ≠ slotId → manager'.openCount other = manager.openCount other ∧
        manager'.openRwCount other = manager.openRwCount other := by
  unfold SessionManager.openSession at hrun
  cases hallowed : openSessionAllowed flags token.auth.login with
  | error e =>
    simp only [hallowed, Prod.mk.injEq] at hrun
    obtain ⟨-, rfl, rfl⟩ := hrun
    exact ⟨h, fun _ _ ↦ ⟨rfl, rfl⟩⟩
  | ok u =>
    cases hcount : token.incrementSessionCount (isRwFlags flags) with
    | error e =>
      simp only [hallowed, hcount, Prod.mk.injEq] at hrun
      obtain ⟨-, rfl, rfl⟩ := hrun
      exact ⟨h, fun _ _ ↦ ⟨rfl, rfl⟩⟩
    | ok counted =>
      have hcounted := h.increment hcount
      simp only [hallowed, hcount] at hrun
      cases hinherit : (Session.new manager.handleAlloc.allocate.1 slotId flags).inherit
          counted.auth.login with
      | error e =>
        -- the session that was counted is counted out again
        simp only [hinherit, Prod.mk.injEq] at hrun
        obtain ⟨-, rfl, rfl⟩ := hrun
        exact ⟨hcounted.decrement, fun _ _ ↦ ⟨rfl, rfl⟩⟩
      | ok session =>
        simp only [hinherit, Prod.mk.injEq] at hrun
        obtain ⟨-, rfl, rfl⟩ := hrun
        have hkind : session.kind = (slotId, isRwFlags flags) :=
          (Session.inherit_kind hinherit).trans (Session.new_kind ..)
        have hslot : session.slotId = slotId := congrArg Prod.fst hkind
        constructor
        · obtain ⟨hopen, hrw⟩ := SessionManager.openCounts_insert slotId hfree session
            manager.handleAlloc.allocate.2
          rw [SessionManager.Counted, hopen, hrw, hkind, hslot]
          simpa [rwKind] using hcounted
        · intro other hother
          obtain ⟨hopen, hrw⟩ := SessionManager.openCounts_insert other hfree session
            manager.handleAlloc.allocate.2
          rw [hopen, hrw, hkind, hslot]
          simp [rwKind, hother.symm]

/-- `close_session` counts the session out. -/
theorem SessionManager.Counted.closeSession {handle : Nat}
    (hsession : manager.sessions[handle]? = some session) (h : manager.Counted session.slotId token)
    {result : HsmResult Unit}
    (hrun : manager.closeSession handle token = (result, manager', token')) :
    manager'.Counted session.slotId token' ∧
      ∀ other, other ≠ session.slotId → manager'.openCount other = manager.openCount other ∧
        manager'.openRwCount other = manager.openRwCount other := by
  simp only [SessionManager.closeSession, hsession, Prod.mk.injEq] at hrun
  obtain ⟨-, rfl, rfl⟩ := hrun
  constructor
  · obtain ⟨hopen, hrw⟩ := SessionManager.openCounts_erase session.slotId hsession
    rw [SessionManager.Counted, hopen, hrw] at h
    refine Token.Counts.decrement ?_
    simpa [rwKind, Session.kind] using h
  · intro other hother
    obtain ⟨hopen, hrw⟩ := SessionManager.openCounts_erase other hsession
    rw [hopen, hrw]
    simp [rwKind, Session.kind, hother.symm]

/-- The loop of `close_all_sessions` counts every session out. -/
theorem Token.Counts.decrement_all {entries : List (Nat × Session)} :
    ∀ {token : Token}, token.Counts entries.length
        (entries.filter fun entry ↦ entry.2.state.isRw).length →
      (entries.foldl (fun token entry ↦ (token.decrementSessionCount entry.2.state.isRw).2)
        token).Counts 0 0 := by
  induction entries with
  | nil => exact fun h ↦ h
  | cons entry entries ih =>
    intro token h
    refine ih (Token.Counts.decrement ?_)
    cases hrw : entry.2.state.isRw <;> simpa [hrw] using h

/-- `close_all_sessions` leaves no session of the slot and counters at zero. -/
theorem SessionManager.Counted.closeAllSessions (h : manager.Counted slotId token)
    (hrun : manager.closeAllSessions slotId token = (manager', token')) :
    manager'.openCount slotId = 0 ∧ manager'.openRwCount slotId = 0 ∧ token'.Counts 0 0 ∧
      ∀ other, other ≠ slotId → manager'.openCount other = manager.openCount other ∧
        manager'.openRwCount other = manager.openRwCount other := by
  have hsessions (handle : Nat) := manager.closeAllSessions_sessions slotId token handle
  have htoken : token' = (manager.closeAllSessions slotId token).2 := by rw [hrun]
  rw [hrun] at hsessions
  have hgone : ∀ (handle : Nat) (session : Session), manager'.sessions[handle]? = some session →
      session.slotId ≠ slotId := by
    intro handle session hsession
    rw [hsessions] at hsession
    simpa using (Option.filter_eq_some_iff.mp hsession).2
  have hkept : ∀ (p : Session → Bool), (∀ session, p session = true → session.slotId ≠ slotId) →
      countValues p manager'.sessions = countValues p manager.sessions := by
    intro p hp
    refine countValues_congr fun handle ↦ ?_
    rw [hsessions]
    cases hold : manager.sessions[handle]? with
    | none => rfl
    | some session =>
      by_cases hslot : session.slotId = slotId
      · have hfalse : p session = false := by
          cases hvalue : p session with
          | false => rfl
          | true => exact absurd hslot (hp session hvalue)
        simp [Option.filter, hslot, hfalse]
      · simp [Option.filter, hslot]
  refine ⟨?_, ?_, ?_, fun other hother ↦ ?_⟩
  · rw [SessionManager.openCount_eq]
    exact countValues_eq_zero fun handle session hsession ↦
      decide_eq_false (hgone handle session hsession)
  · rw [SessionManager.openRwCount_eq]
    exact countValues_eq_zero fun handle session hsession ↦ by
      simp [rwKind, Session.kind, hgone handle session hsession]
  · rw [htoken]
    exact Token.Counts.decrement_all h
  · rw [SessionManager.openCount_eq, SessionManager.openCount_eq, SessionManager.openRwCount_eq,
      SessionManager.openRwCount_eq]
    constructor
    · refine hkept _ fun session hsession hslot ↦ hother ?_
      simpa [Session.kind, hslot, eq_comm] using hsession
    · refine hkept _ fun session hsession hslot ↦ hother ?_
      simp only [rwKind, Session.kind, hslot, Bool.and_eq_true, decide_eq_true_eq] at hsession
      exact hsession.1.symm

end Manager

/-! ### Logins -/

namespace SessionManager

theorem loginAll_kind (manager : SessionManager) (slotId : Nat) (role : Role) :
    manager.SameKinds (manager.loginAll slotId role).2 := by
  intro handle
  rw [loginAll, (manager.loginEach_of_perm (.refl _) role).2]
  cases manager.sessions[handle]? with
  | none => rfl
  | some session =>
    simp only [Option.map_some]
    split_ifs <;> simp

theorem cancelSessionsForSlot_kind (manager : SessionManager) (slotId : Nat) :
    manager.SameKinds (manager.cancelSessionsForSlot slotId) := by
  intro handle
  rw [cancelSessionsForSlot_sessions]
  cases manager.sessions[handle]? with
  | none => rfl
  | some session =>
    simp only [Option.map_some]
    split_ifs <;> simp

end SessionManager

end CratonHsm
