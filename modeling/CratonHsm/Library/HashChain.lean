import Mathlib.Data.List.Induction

/-!
# Chained events in files of lines

An append-only log in which every event names the hash reached before it. `followChain` walks a list
of events and gives the hash reached at its end, or nothing at the first event that names another
hash. Walking two lists in a row is walking their concatenation (`followChain_append`), so a chain
may be cut anywhere, and a chain that has lost its oldest events is still a chain from a later hash.
Where hashes do not collide and none is the first one, the last hash determines what was hashed of
every event (`followChain_injective`).

Such a log is kept in a file of lines, each ended by a newline. A file of lines without newlines in
them is read back as the lines that were written, and what follows the last newline is empty
(`splitOn_joinLines`).
-/

set_option autoImplicit false

namespace CratonHsm.Library

universe u v

/-! ### Chains -/

section Chain

variable {Event : Type u} {Hash : Type v} [DecidableEq Hash] {previous : Event → Hash}
  {next : Hash → Event → Option Hash} {start hash : Hash} {events : List Event} {event : Event}

/-- The hash reached from `hash` by `events`, if each of them names the hash reached before it and
its own hash can be computed. -/
def followChain (previous : Event → Hash) (next : Hash → Event → Option Hash) :
    Hash → List Event → Option Hash
  | hash, [] => some hash
  | hash, event :: events =>
    if previous event = hash then (next hash event).bind (followChain previous next · events)
    else none

theorem followChain_append (hash : Hash) (events later : List Event) :
    followChain previous next hash (events ++ later) =
      (followChain previous next hash events).bind (followChain previous next · later) := by
  induction events generalizing hash with
  | nil => rfl
  | cons event events ih =>
    rw [List.cons_append, followChain, followChain]
    by_cases hlink : previous event = hash
    · rw [if_pos hlink, if_pos hlink, Option.bind_assoc]
      exact congrArg _ (funext ih)
    · rw [if_neg hlink, if_neg hlink]
      rfl

/-- An event that names the hash at the end of a chain extends the chain. -/
theorem followChain_concat {reached : Hash}
    (hevents : followChain previous next start events = some hash) (hlink : previous event = hash)
    (hnext : next hash event = some reached) :
    followChain previous next start (events ++ [event]) = some reached := by
  rw [followChain_append, hevents, Option.bind_some, followChain, if_pos hlink, hnext]
  rfl

/-- What is left of a chain when its oldest events are gone is a chain. -/
theorem followChain_suffix {dropped kept : List Event}
    (h : followChain previous next start (dropped ++ kept) = some hash) :
    ∃ middle, followChain previous next start dropped = some middle ∧
      followChain previous next middle kept = some hash := by
  rw [followChain_append] at h
  exact Option.bind_eq_some_iff.mp h

theorem followChain_concat_eq_some {reached : Hash} :
    followChain previous next start (events ++ [event]) = some reached ↔
      followChain previous next start events = some (previous event) ∧
        next (previous event) event = some reached := by
  rw [followChain_append]
  constructor
  · intro h
    obtain ⟨hash, hevents, hlast⟩ := Option.bind_eq_some_iff.mp h
    rw [followChain] at hlast
    split_ifs at hlast with hlink
    obtain ⟨last, hnext, hend⟩ := Option.bind_eq_some_iff.mp hlast
    obtain rfl := Option.some.inj hend
    rw [hlink]
    exact ⟨hevents, hnext⟩
  · rintro ⟨hevents, hnext⟩
    rw [hevents, Option.bind_some, followChain, if_pos rfl, hnext]
    rfl

/-- In a chain, an event names the hash of the event before it. -/
theorem followChain_adjacent {before after : List Event} {later : Event}
    (h : followChain previous next start (before ++ event :: later :: after) = some hash) :
    next (previous event) event = some (previous later) := by
  rw [followChain_append] at h
  obtain ⟨middle, -, h⟩ := Option.bind_eq_some_iff.mp h
  rw [followChain] at h
  split_ifs at h with hlink
  obtain ⟨reached, hnext, h⟩ := Option.bind_eq_some_iff.mp h
  rw [followChain] at h
  split_ifs at h with hlater
  rw [hlink, hnext, hlater]

/-- Two chains that end at the same hash have hashed the same, one event after the other, and
neither is longer. -/
theorem followChain_injective {Hashed : Type*} {hashed : Event → Hashed} {events' : List Event}
    (hinjective : ∀ event ∈ events, ∀ event' ∈ events', ∀ reached,
      next (previous event) event = some reached → next (previous event') event' = some reached →
        previous event = previous event' ∧ hashed event = hashed event')
    (hstart : ∀ event, event ∈ events ∨ event ∈ events' →
      next (previous event) event ≠ some start)
    (h : followChain previous next start events = some hash)
    (h' : followChain previous next start events' = some hash) :
    events.map hashed = events'.map hashed := by
  -- From the end of the chains: equal hashes come from equal inputs, the hash before among them.
  induction events using List.reverseRecOn generalizing events' hash with
  | nil =>
    obtain rfl := Option.some.inj h
    cases events' using List.reverseRecOn with
    | nil => rfl
    | append_singleton events' last =>
      exact absurd (followChain_concat_eq_some.mp h').2 (hstart last (.inr (by simp)))
  | append_singleton events last ih =>
    obtain ⟨hevents, hlast⟩ := followChain_concat_eq_some.mp h
    cases events' using List.reverseRecOn with
    | nil =>
      obtain rfl := Option.some.inj h'
      exact absurd hlast (hstart last (.inl (by simp)))
    | append_singleton events' last' =>
      obtain ⟨hevents', hlast'⟩ := followChain_concat_eq_some.mp h'
      obtain ⟨hprevious, hhashed⟩ := hinjective last (by simp) last' (by simp) hash hlast hlast'
      have hinit : events.map hashed = events'.map hashed := by
        refine ih (fun event hevent event' hevent' ↦ ?_) (fun event hevent ↦ ?_) hevents
          (hprevious ▸ hevents')
        · exact hinjective event (List.mem_append_left _ hevent) event'
            (List.mem_append_left _ hevent')
        · exact hstart event
            (hevent.imp (List.mem_append_left _) (List.mem_append_left _))
      rw [List.map_append, List.map_append, hinit, List.map_singleton, List.map_singleton, hhashed]

end Chain

/-! ### Files of lines -/

section Lines

variable {Symbol : Type u} {newline : Symbol} {lines : List (List Symbol)}

/-- A file of lines: each is followed by a newline. -/
def joinLines (newline : Symbol) (lines : List (List Symbol)) : List Symbol :=
  lines.flatMap (· ++ [newline])

theorem joinLines_concat (lines : List (List Symbol)) (line : List Symbol) :
    joinLines newline (lines ++ [line]) = joinLines newline lines ++ (line ++ [newline]) := by
  simp [joinLines]

theorem joinLines_eq_nil (h : joinLines newline lines = []) :
    lines = [] := by
  cases lines with
  | nil => rfl
  | cons line lines => simp [joinLines] at h

/-- Reading a file of lines gives the lines, and an empty rest after the last newline. -/
theorem splitOn_joinLines [DecidableEq Symbol] (h : ∀ line ∈ lines, newline ∉ line) :
    (joinLines newline lines).splitOn newline = lines ++ [[]] := by
  induction lines with
  | nil => rfl
  | cons line lines ih =>
    have hrest := ih fun other hother ↦ h other (List.mem_cons_of_mem _ hother)
    have hjoin : joinLines newline (line :: lines) =
        line ++ newline :: joinLines newline lines := by simp [joinLines]
    rw [hjoin, List.splitOn_append_cons_self_of_not_mem (h line List.mem_cons_self), hrest,
      List.cons_append]

end Lines

end CratonHsm.Library
