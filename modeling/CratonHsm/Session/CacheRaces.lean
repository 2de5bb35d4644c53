import CratonHsm.Library.StepSystem
import Mathlib.Algebra.Group.Nat.Defs

/-!
# The thread caches of sessions

`SessionManager` of `session/manager.rs` with the calls that look a session up through the cache of
their thread or remove sessions, in atomic steps. A removal bumps the generation after it has taken
the sessions out of the map, and a look-up labels what it found with the generation it had read
before. A cached session therefore has an older label than the generation once the call that removed
it has returned, and is not returned to a look-up that starts later (`removed_session_stays_away`),
as long as the generation has not come round: after 2^64 bumps an old label matches again
(`removed_session_comes_back`).

Scope. A session is known by a serial number. What the caches hold at the start are sessions of
earlier managers. Which sessions are idle too long is told with each step.
-/

set_option autoImplicit false

namespace CratonHsm.Session

/-- An open session: its number, the handle it was opened under and its slot. -/
structure SessionRef where
  serial : Nat
  handle : Nat
  slotId : Nat
  deriving DecidableEq

/-- `TLS_SESSION_CACHE`. -/
structure CacheEntry where
  handle : Nat
  generation : Nat
  session : SessionRef

/-- The calls of the session manager. -/
inductive ManagerCall where
  | getSessionCached (handle : Nat)
  | closeSession (handle : Nat)
  | closeAllSessions (slotId : Nat)
  | cleanupIdleSessions
  | checkAndTouch (handle : Nat)

/-- Where a thread is. A look-up remembers the sessions whose removal had returned when it read the
generation; a removal remembers what it took out of the map and whose cache entry it clears. -/
inductive ManagerPhase where
  | idle
  | begun (call : ManagerCall)
  | readGeneration (handle current : Nat) (before : List SessionRef)
  | missed (handle current : Nat) (before : List SessionRef)
  | found (handle current : Nat) (before : List SessionRef) (session : SessionRef)
  | cleared (slotId : Nat)
  | timedOut (handle : Nat)
  | removed (sessions : List SessionRef) (clears : Option Nat)
  | bumped (sessions : List SessionRef) (clears : Option Nat)

/-- What a look-up returned, and the sessions whose removal had returned when it started. -/
structure LookUp where
  handle : Nat
  session : SessionRef
  before : List SessionRef

/-- `SessionManager`: the map and the generation. Besides, the number of sessions opened, the number
of bumps, and the sessions that were bumped for, with the generation after it. -/
structure ManagerState where
  sessions : List SessionRef
  generation : Nat
  opened : Nat
  bumps : Nat
  gone : List (SessionRef × Nat)

/-- The session manager and its threads, the sessions whose removal has returned, and what look-ups
have returned. -/
structure SharedSessions (ι : Type) where
  manager : ManagerState
  cache : ι → Option CacheEntry
  phase : ι → ManagerPhase
  closed : List SessionRef
  returned : List LookUp

/-- A session is opened, a thread begins a call, or it takes the next step of its call. -/
inductive ManagerStep (ι : Type) where
  | openSession (handle slotId : Nat)
  | call (thread : ι) (call : ManagerCall)
  | advance (thread : ι) (tooIdle : SessionRef → Bool)

namespace ManagerState

/-- The insertion of `open_session`. -/
def openSession (m : ManagerState) (handle slotId : Nat) : ManagerState :=
  { m with
    sessions := ⟨m.opened, handle, slotId⟩ :: m.sessions.filter (·.handle ≠ handle)
    opened := m.opened + 1 }

/-- The generation is bumped for sessions. -/
def bump (m : ManagerState) (sessions : List SessionRef) : ManagerState :=
  let generation := (m.generation + 1) % 2 ^ 64
  { m with
    generation := generation
    bumps := m.bumps + 1
    gone := sessions.map (·, generation) ++ m.gone }

end ManagerState

namespace SharedSessions

variable {ι : Type} [DecidableEq ι]

/-- A new manager, in a process whose threads have cached sessions before. -/
def start (opened : Nat) (cache : ι → Option CacheEntry) : SharedSessions ι :=
  ⟨⟨[], 0, opened, 0, []⟩, cache, fun _ ↦ .idle, [], []⟩

variable (s : SharedSessions ι) (thread : ι)

/-- The thread goes on to a phase, with an entry in its cache. -/
def move (entry : Option CacheEntry) (phase : ManagerPhase) : SharedSessions ι :=
  { s with
    cache := Function.update s.cache thread entry
    phase := Function.update s.phase thread phase }

/-- The look-up of a thread returns a session. -/
def answer (entry : CacheEntry) (before : List SessionRef) : SharedSessions ι :=
  { s.move thread (some entry) .idle with
    returned := ⟨entry.handle, entry.session, before⟩ :: s.returned }

/-- The chosen sessions leave the map. Unless `always` is set, the call returns if there are
none. -/
def remove (chosen : SessionRef → Bool) (always : Bool) (clears : Option Nat) : SharedSessions ι :=
  let removed := s.manager.sessions.filter chosen
  if removed = [] ∧ !always then s.move thread (s.cache thread) .idle
  else
    { s.move thread (s.cache thread) (.removed removed clears) with
      manager := { s.manager with sessions := s.manager.sessions.filter (!chosen ·) } }

/-- The next atomic step of a thread. -/
def advance (tooIdle : SessionRef → Bool) : SharedSessions ι :=
  let cached := s.cache thread
  match s.phase thread with
  | .idle => s
  | .begun (.getSessionCached handle) =>
    s.move thread cached (.readGeneration handle s.manager.generation s.closed)
  | .readGeneration handle current before =>
    match cached.filter fun entry ↦ entry.handle = handle ∧ entry.generation = current with
    | some entry => s.answer thread entry before
    | none => s.move thread cached (.missed handle current before)
  | .missed handle current before =>
    match s.manager.sessions.find? (·.handle = handle) with
    | none => s.move thread cached .idle
    | some session => s.move thread cached (.found handle current before session)
  | .found handle current before session => s.answer thread ⟨handle, current, session⟩ before
  | .begun (.closeSession handle) => s.remove thread (·.handle = handle) false (some handle)
  | .begun (.closeAllSessions slotId) => s.move thread none (.cleared slotId)
  | .cleared slotId => s.remove thread (·.slotId = slotId) false none
  | .begun .cleanupIdleSessions => s.remove thread tooIdle false none
  | .begun (.checkAndTouch handle) =>
    match s.manager.sessions.find? (·.handle = handle) with
    | none => s.move thread cached .idle
    | some session => s.move thread cached (if tooIdle session then .timedOut handle else .idle)
  | .timedOut handle => s.remove thread (·.handle = handle) true (some handle)
  | .removed sessions clears =>
    { s.move thread cached (.bumped sessions clears) with manager := s.manager.bump sessions }
  | .bumped sessions clears =>
    { s.move thread (cached.filter fun entry ↦ clears ≠ some entry.handle) .idle with
      closed := sessions ++ s.closed }

def step : ManagerStep ι → SharedSessions ι
  | .openSession handle slotId => { s with manager := s.manager.openSession handle slotId }
  | .call thread call =>
    match s.phase thread with
    | .idle => s.move thread (s.cache thread) (.begun call)
    | _ => s
  | .advance thread tooIdle => s.advance thread tooIdle

end SharedSessions

/-! ### What the steps preserve -/

namespace ManagerState

/-- A session of this manager that is not in the map any more. -/
def Out (base : Nat) (m : ManagerState) (session : SessionRef) : Prop :=
  base ≤ session.serial ∧ session.serial < m.opened ∧ session ∉ m.sessions

structure Sound (base : Nat) (m : ManagerState) : Prop where
  generation : m.generation = m.bumps
  opened : base ≤ m.opened
  sessions : ∀ session ∈ m.sessions, base ≤ session.serial ∧ session.serial < m.opened
  gone : ∀ session bump, (session, bump) ∈ m.gone → bump ≤ m.generation ∧ m.Out base session

/-- The label of an entry is not newer than the generation, and older than the bump after the
removal of its session. -/
structure EntrySound (base : Nat) (m : ManagerState) (entry : CacheEntry) : Prop where
  handle : entry.session.handle = entry.handle
  serial : entry.session.serial < m.opened
  label : base ≤ entry.session.serial → entry.generation ≤ m.generation
  gone : ∀ bump, (entry.session, bump) ∈ m.gone → entry.generation < bump

/-- What a thread knows: when it read the generation, the removals before had bumped it. -/
def PhaseSound (base : Nat) (m : ManagerState) : ManagerPhase → Prop
  | .readGeneration _ current before | .missed _ current before => current ≤ m.generation ∧
    ∀ session ∈ before, ∃ bump ≤ current, (session, bump) ∈ m.gone
  | .found handle current before session =>
    m.EntrySound base ⟨handle, current, session⟩ ∧ session ∉ before
  | .removed sessions _ => ∀ session ∈ sessions, m.Out base session
  | .bumped sessions _ => ∀ session ∈ sessions, ∃ bump, (session, bump) ∈ m.gone
  | _ => True

/-- What a step may do to the manager: the counts grow, sessions come with new numbers, and bumps
get new labels. -/
structure Grows (base : Nat) (m m' : ManagerState) : Prop where
  opened : m.opened ≤ m'.opened
  generation : m.generation ≤ m'.generation
  sessions : ∀ session ∈ m'.sessions, session ∈ m.sessions ∨ m.opened ≤ session.serial
  kept : ∀ pair ∈ m.gone, pair ∈ m'.gone
  new : ∀ pair ∈ m'.gone, pair ∈ m.gone ∨ base ≤ pair.1.serial ∧ m.generation < pair.2

variable {base : Nat} {m m' : ManagerState}

theorem Out.mono {session : SessionRef} (h : m.Out base session) (hgrows : Grows base m m') :
    m'.Out base session := by
  refine ⟨h.1, Nat.lt_of_lt_of_le h.2.1 hgrows.opened, fun hmem ↦ ?_⟩
  exact (hgrows.sessions session hmem).elim h.2.2 (Nat.not_le.mpr h.2.1)

theorem EntrySound.mono {entry : CacheEntry} (h : m.EntrySound base entry)
    (hgrows : Grows base m m') : m'.EntrySound base entry where
  handle := h.handle
  serial := Nat.lt_of_lt_of_le h.serial hgrows.opened
  label hown := Nat.le_trans (h.label hown) hgrows.generation
  gone bump hbump := (hgrows.new _ hbump).elim (h.gone bump) fun hnew ↦
    Nat.lt_of_le_of_lt (h.label hnew.1) hnew.2

theorem PhaseSound.mono {phase : ManagerPhase} (h : m.PhaseSound base phase)
    (hgrows : Grows base m m') : m'.PhaseSound base phase := by
  cases phase with
  | readGeneration | missed =>
    refine ⟨Nat.le_trans h.1 hgrows.generation, fun session hsession ↦ ?_⟩
    obtain ⟨bump, hle, hgone⟩ := h.2 session hsession
    exact ⟨bump, hle, hgrows.kept _ hgone⟩
  | found => exact ⟨h.1.mono hgrows, h.2⟩
  | removed => exact fun session hsession ↦ (h session hsession).mono hgrows
  | bumped => exact fun session hsession ↦ (h session hsession).imp fun _ ↦ hgrows.kept _
  | idle | begun | cleared | timedOut => trivial

theorem Sound.openSession (h : m.Sound base) (handle slotId : Nat) :
    (m.openSession handle slotId).Sound base ∧ Grows base m (m.openSession handle slotId) := by
  have hgrows : Grows base m (m.openSession handle slotId) := by
    refine ⟨Nat.le_succ _, Nat.le_refl _, fun session hmem ↦ ?_, fun _ ↦ id, fun _ ↦ .inl⟩
    obtain rfl | hold := List.mem_cons.mp hmem
    · exact .inr (Nat.le_refl _)
    · exact .inl (List.mem_of_mem_filter hold)
  refine ⟨⟨h.generation, Nat.le_succ_of_le h.opened, fun session hmem ↦ ?_, fun session bump hmem ↦
    ⟨(h.gone session bump hmem).1, (h.gone session bump hmem).2.mono hgrows⟩⟩, hgrows⟩
  obtain rfl | hold := List.mem_cons.mp hmem
  · exact ⟨h.opened, Nat.lt_succ_self _⟩
  · have := h.sessions session (List.mem_of_mem_filter hold)
    exact ⟨this.1, Nat.lt_succ_of_lt this.2⟩

theorem Sound.remove (h : m.Sound base) (chosen : SessionRef → Bool) :
    ({ m with sessions := m.sessions.filter (!chosen ·) }).Sound base ∧
      Grows base m { m with sessions := m.sessions.filter (!chosen ·) } := by
  have hgrows : Grows base m { m with sessions := m.sessions.filter (!chosen ·) } :=
    ⟨Nat.le_refl _, Nat.le_refl _, fun _ hmem ↦ .inl (List.mem_of_mem_filter hmem), fun _ ↦ id,
      fun _ ↦ .inl⟩
  exact ⟨⟨h.generation, h.opened,
    fun session hmem ↦ h.sessions session (List.mem_of_mem_filter hmem), fun session bump hmem ↦
      ⟨(h.gone session bump hmem).1, (h.gone session bump hmem).2.mono hgrows⟩⟩, hgrows⟩

theorem Sound.bump (h : m.Sound base) {sessions : List SessionRef}
    (hout : ∀ session ∈ sessions, m.Out base session) (hroom : m.bumps + 1 < 2 ^ 64) :
    (m.bump sessions).Sound base ∧ Grows base m (m.bump sessions) := by
  have hnext : (m.generation + 1) % 2 ^ 64 = m.generation + 1 :=
    Nat.mod_eq_of_lt (h.generation ▸ hroom)
  have hgone : ∀ session bump, (session, bump) ∈ (m.bump sessions).gone →
      (session, bump) ∈ m.gone ∨ m.Out base session ∧ bump = m.generation + 1 := by
    intro session bump hmem
    obtain hmem | hmem := List.mem_append.mp hmem
    · obtain ⟨_, hsession, heq⟩ := List.mem_map.mp hmem
      obtain ⟨rfl, rfl⟩ := Prod.mk.inj heq
      exact .inr ⟨hout _ hsession, hnext⟩
    · exact .inl hmem
  have hgeneration : (m.bump sessions).generation = m.generation + 1 := hnext
  refine ⟨⟨?_, h.opened, h.sessions, fun session bump hmem ↦ ?_⟩,
    ⟨Nat.le_refl _, by omega, fun _ ↦ .inl, fun _ ↦ List.mem_append_right _, fun pair hmem ↦ ?_⟩⟩
  · exact hnext.trans (congrArg (· + 1) h.generation)
  · obtain hold | ⟨hnew, rfl⟩ := hgone session bump hmem
    · have := (h.gone session bump hold).1
      exact ⟨by omega, (h.gone session bump hold).2⟩
    · exact ⟨by omega, hnew⟩
  · exact (hgone pair.1 pair.2 hmem).imp id fun hnew ↦ ⟨hnew.1.1, by omega⟩

end ManagerState

namespace SharedSessions

variable {ι : Type} [DecidableEq ι]

structure Sound (base : Nat) (s : SharedSessions ι) : Prop where
  manager : s.manager.Sound base
  closed : ∀ session ∈ s.closed, ∃ bump, (session, bump) ∈ s.manager.gone
  caches : ∀ thread entry, s.cache thread = some entry → s.manager.EntrySound base entry
  phases : ∀ thread, s.manager.PhaseSound base (s.phase thread)
  returned : ∀ look ∈ s.returned, look.session.handle = look.handle ∧ look.session ∉ look.before

variable {base : Nat} {s : SharedSessions ι} {thread : ι}

theorem Sound.move (h : s.Sound base) {entry : Option CacheEntry} {phase : ManagerPhase}
    (hentry : ∀ e, entry = some e → s.manager.EntrySound base e)
    (hphase : s.manager.PhaseSound base phase) : (s.move thread entry phase).Sound base := by
  refine { h with caches := fun t e he ↦ ?_, phases := fun t ↦ ?_ }
  · by_cases ht : t = thread
    · subst ht
      exact hentry e (by simpa [SharedSessions.move] using he)
    · exact h.caches t e (by simpa [SharedSessions.move, ht] using he)
  · by_cases ht : t = thread
    · subst ht
      simpa [SharedSessions.move] using hphase
    · simpa [SharedSessions.move, ht] using h.phases t

/-- A thread that stays with its cache. -/
theorem Sound.moveTo (h : s.Sound base) {phase : ManagerPhase}
    (hphase : s.manager.PhaseSound base phase) :
    (s.move thread (s.cache thread) phase).Sound base :=
  h.move (h.caches thread) hphase

omit [DecidableEq ι] in
theorem Sound.grow (h : s.Sound base) {m : ManagerState}
    (hm : m.Sound base ∧ s.manager.Grows base m) : ({ s with manager := m }).Sound base where
  manager := hm.1
  closed session hmem := (h.closed session hmem).imp fun _ ↦ hm.2.kept _
  caches t entry hentry := (h.caches t entry hentry).mono hm.2
  phases t := (h.phases t).mono hm.2
  returned := h.returned

theorem Sound.answer (h : s.Sound base) {entry : CacheEntry} {before : List SessionRef}
    (hentry : s.manager.EntrySound base entry) (hnew : entry.session ∉ before) :
    (s.answer thread entry before).Sound base := by
  have hmoved : (s.move thread (some entry) .idle).Sound base :=
    h.move (fun e he ↦ Option.some.inj he ▸ hentry) trivial
  exact { hmoved with returned := List.forall_mem_cons.mpr ⟨⟨hentry.handle, hnew⟩, h.returned⟩ }

theorem Sound.remove (h : s.Sound base) (chosen : SessionRef → Bool) (always : Bool)
    (clears : Option Nat) : (s.remove thread chosen always clears).Sound base := by
  unfold SharedSessions.remove
  dsimp only
  split_ifs
  · exact h.moveTo trivial
  · refine (h.grow (h.manager.remove chosen)).moveTo fun session hsession ↦ ?_
    obtain ⟨hmem, hchosen⟩ := List.mem_filter.mp hsession
    have := h.manager.sessions session hmem
    exact ⟨this.1, this.2, by simp [hchosen]⟩

theorem Sound.advance (h : s.Sound base) (tooIdle : SessionRef → Bool)
    (hroom : (s.advance thread tooIdle).manager.bumps < 2 ^ 64) :
    (s.advance thread tooIdle).Sound base := by
  have hphase := h.phases thread
  unfold SharedSessions.advance at hroom ⊢
  dsimp only at hroom ⊢
  split at hroom
  · exact h
  next => exact h.moveTo ⟨Nat.le_refl _, fun session hsession ↦ (h.closed session hsession).imp
      fun bump hbump ↦ ⟨(h.manager.gone session bump hbump).1, hbump⟩⟩
  next heq =>
    rw [heq] at hphase
    split
    next entry hentry =>
      obtain ⟨hcached, hmatch⟩ := Option.filter_eq_some_iff.mp hentry
      obtain ⟨rfl, rfl⟩ : entry.handle = _ ∧ entry.generation = _ := by simpa using hmatch
      have hsound := h.caches thread entry hcached
      refine h.answer hsound fun hbefore ↦ ?_
      -- its label is the generation just read, which is not older than the bump after its removal
      obtain ⟨bump, hle, hgone⟩ := hphase.2 _ hbefore
      exact absurd (hsound.gone bump hgone) (Nat.not_lt.mpr hle)
    next => exact h.moveTo hphase
  next heq =>
    rw [heq] at hphase
    split
    next => exact h.moveTo trivial
    next session hfind =>
      have hmem := List.mem_of_find?_eq_some hfind
      have hout : ∀ bump, (session, bump) ∉ s.manager.gone := fun bump hgone ↦
        (h.manager.gone session bump hgone).2.2.2 hmem
      refine h.moveTo ⟨⟨by simpa using List.find?_some hfind, (h.manager.sessions session hmem).2,
        fun _ ↦ hphase.1, fun bump hgone ↦ absurd hgone (hout bump)⟩, fun hbefore ↦ ?_⟩
      obtain ⟨bump, -, hgone⟩ := hphase.2 session hbefore
      exact hout bump hgone
  next heq =>
    rw [heq] at hphase
    exact h.answer hphase.1 hphase.2
  next => exact h.remove _ _ _
  next => exact h.move (fun _ he ↦ absurd he (by simp)) trivial
  next => exact h.remove _ _ _
  next => exact h.remove _ _ _
  next =>
    split
    next => exact h.moveTo trivial
    next => split_ifs <;> exact h.moveTo trivial
  next => exact h.remove _ _ _
  next sessions clears heq =>
    rw [heq] at hphase
    refine (h.grow (h.manager.bump hphase hroom)).moveTo fun session hsession ↦ ?_
    exact ⟨_, List.mem_append_left _ (List.mem_map.mpr ⟨session, hsession, rfl⟩)⟩
  next sessions clears heq =>
    rw [heq] at hphase
    have hclosed : ({ s with closed := sessions ++ s.closed }).Sound base :=
      { h with closed := fun session hmem ↦
          (List.mem_append.mp hmem).elim (hphase session) (h.closed session) }
    exact hclosed.move (fun e he ↦ h.caches thread e (Option.filter_eq_some_iff.mp he).1) trivial

/-! ### Runs -/

theorem bumps_le_step (s : SharedSessions ι) (event : ManagerStep ι) :
    s.manager.bumps ≤ (s.step event).manager.bumps := by
  cases event <;>
    grind [step, advance, SharedSessions.remove, SharedSessions.answer, SharedSessions.move,
      ManagerState.bump, ManagerState.openSession]

theorem Sound.step (h : s.Sound base) (event : ManagerStep ι)
    (hroom : (s.step event).manager.bumps < 2 ^ 64) : (s.step event).Sound base := by
  cases event with
  | openSession handle slotId => exact h.grow (h.manager.openSession handle slotId)
  | call thread call =>
    simp only [SharedSessions.step]
    split
    · exact h.moveTo trivial
    · exact h
  | advance thread tooIdle => exact h.advance tooIdle hroom

theorem sound_run (steps : List (ManagerStep ι)) (s : SharedSessions ι) (h : s.Sound base)
    (hroom : (steps.foldl step s).manager.bumps < 2 ^ 64) : (steps.foldl step s).Sound base := by
  have hle : ∀ (steps : List (ManagerStep ι)) (s : SharedSessions ι),
      s.manager.bumps ≤ (steps.foldl SharedSessions.step s).manager.bumps := by
    intro steps
    induction steps with
    | nil => exact fun _ ↦ Nat.le_refl _
    | cons event steps ih => exact fun s ↦ Nat.le_trans (bumps_le_step s event) (ih _)
  induction steps generalizing s with
  | nil => exact h
  | cons event steps ih =>
    exact ih _ (h.step event (Nat.lt_of_le_of_lt (hle steps _) hroom)) hroom

/-- Threads in any order, whatever they have cached before: as long as the generation was bumped
fewer than 2^64 times, no look-up returns a session whose removal had returned when it started, and
what it returns was opened under its handle. -/
theorem removed_session_stays_away (base : Nat) (cache : ι → Option CacheEntry)
    (hcache : ∀ thread entry, cache thread = some entry →
      entry.session.serial < base ∧ entry.session.handle = entry.handle)
    (steps : List (ManagerStep ι))
    (hroom : (steps.foldl step (start base cache)).manager.bumps < 2 ^ 64) :
    ∀ look ∈ (steps.foldl step (start base cache)).returned,
      look.session.handle = look.handle ∧ look.session ∉ look.before := by
  have hstart : (start base cache).Sound base := by
    refine ⟨⟨rfl, Nat.le_refl _, nofun, nofun⟩, nofun, fun thread entry hentry ↦ ?_,
      fun _ ↦ trivial, nofun⟩
    obtain ⟨hserial, hhandle⟩ := hcache thread entry hentry
    exact ⟨hhandle, hserial, fun hown ↦ absurd hserial (Nat.not_lt.mpr hown), nofun⟩
  exact (sound_run steps _ hstart hroom).returned

/-- A look-up, step by step. -/
def lookUp (handle : Nat) : List (ManagerStep Bool) :=
  .call false (.getSessionCached handle) :: List.replicate 4 (.advance false fun _ ↦ false)

/-- A session is closed by the other thread, step by step. -/
def closes (handle : Nat) : List (ManagerStep Bool) :=
  .call true (.closeSession handle) :: List.replicate 3 (.advance true fun _ ↦ false)

/-- A thread comes with an entry of an earlier manager. A handle is closed and opened again, and is
looked up before and after. -/
def reopened : List (ManagerStep Bool) :=
  .openSession 1 0 :: lookUp 1 ++ closes 1 ++ [.openSession 1 0] ++ lookUp 1

/-- Each lookup returns the session that is open at the time, and not one closed before. -/
theorem reopened_stays_away :
    let cache : Bool → Option CacheEntry := fun _ ↦ some ⟨1, 1, ⟨0, 1, 0⟩⟩
    (reopened.foldl step (start 1 cache)).returned.map (·.session.serial) = [2, 1] ∧
      ∀ look ∈ (reopened.foldl step (start 1 cache)).returned,
        look.session.handle = look.handle ∧ look.session ∉ look.before :=
  ⟨by decide, removed_session_stays_away 1 _ (fun _ _ h ↦ Option.some.inj h ▸ ⟨by decide, rfl⟩)
    reopened (by decide)⟩

/-- A session is opened and closed: the generation goes on by one, and the threads are as before. -/
theorem foldl_closes {s : SharedSessions Bool} (hsessions : s.manager.sessions = [])
    (hidle : s.phase true = .idle) (hcache : s.cache true = none) :
    (.openSession 2 0 :: closes 2).foldl step s =
      { s with
        manager := ({ s.manager with opened := s.manager.opened + 1 }).bump
          [⟨s.manager.opened, 2, 0⟩]
        closed := ⟨s.manager.opened, 2, 0⟩ :: s.closed } := by
  have hphase : Function.update s.phase true .idle = s.phase := by rw [← hidle]; simp
  have hentry : Function.update s.cache true none = s.cache := by rw [← hcache]; simp
  simp [closes, step, advance, SharedSessions.remove, SharedSessions.move, ManagerState.openSession,
    hsessions, hidle, hcache]

theorem foldl_many_closes {s : SharedSessions Bool} (hsessions : s.manager.sessions = [])
    (hidle : s.phase true = .idle) (hcache : s.cache true = none)
    (hgeneration : s.manager.generation < 2 ^ 64) (count : Nat) :
    ∃ m closed, (List.replicate count (.openSession 2 0 :: closes 2)).flatten.foldl step s =
        ⟨m, s.cache, s.phase, closed, s.returned⟩ ∧ m.sessions = [] ∧
      m.generation = (s.manager.generation + count) % 2 ^ 64 ∧
      ∀ session ∈ s.closed, session ∈ closed := by
  induction count with
  | zero =>
    exact ⟨s.manager, s.closed, rfl, hsessions, (Nat.mod_eq_of_lt hgeneration).symm, fun _ ↦ id⟩
  | succ count ih =>
    obtain ⟨m, closed, hrun, hm, hcount, hclosed⟩ := ih
    rw [List.replicate_succ', List.flatten_concat, List.foldl_append, hrun,
      foldl_closes (s := ⟨m, s.cache, s.phase, closed, s.returned⟩) hm hidle hcache]
    refine ⟨_, _, rfl, hm, ?_, fun session hmem ↦ .tail _ (hclosed session hmem)⟩
    simp only [ManagerState.bump]
    omega

/-- A thread has cached a session, the other one closes it and then opens and closes sessions until
the generation is again what it was: the closed session is returned. -/
theorem removed_session_comes_back : ∃ steps : List (ManagerStep Bool),
    ∃ look ∈ (steps.foldl step (start 0 fun _ ↦ none)).returned, look.session ∈ look.before := by
  obtain ⟨m, closed, hrun, -, hgeneration, hclosed⟩ := foldl_many_closes
    (s := (.openSession 1 0 :: lookUp 1 ++ closes 1).foldl step (start 0 fun _ ↦ none))
    rfl rfl rfl (by decide) (2 ^ 64 - 1)
  have hzero : m.generation = 0 := hgeneration
  refine ⟨(.openSession 1 0 :: lookUp 1 ++ closes 1) ++
    (List.replicate (2 ^ 64 - 1) (.openSession 2 0 :: closes 2)).flatten ++ lookUp 1,
    ⟨1, ⟨0, 1, 0⟩, closed⟩, ?_, hclosed _ List.mem_cons_self⟩
  rw [List.foldl_append, List.foldl_append, hrun]
  simp [lookUp, closes, step, advance, SharedSessions.remove, SharedSessions.answer,
    SharedSessions.move, ManagerState.openSession, start, hzero, Option.filter]

end SharedSessions

end CratonHsm.Session
