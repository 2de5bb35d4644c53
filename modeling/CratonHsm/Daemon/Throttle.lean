import CratonHsm.Daemon.Status
import CratonHsm.Library.OrderedMap
import Mathlib.Data.List.MinMax
import Mathlib.Data.Prod.Lex
import Std.Data.ExtTreeMap

/-!
# The throttle of the daemon

The table of failed attempts for each pair of a slot and a client, with `check_login_throttle`,
`record_login_failure` and `clear_login_attempts`, and the same functions for `InitToken`, which has
a table of its own. A pair with the largest number of failures is locked out until a cooldown ends.
Recording a failure first removes the entries whose lockout has ended and, while there are more
entries than the maximum, those with the fewest failures.

Scope. Times are those of the monotonic clock, in seconds. The order in which a hash map lists
entries with equally many failures is not specified; it is a parameter (`rank`).
-/

set_option autoImplicit false

namespace CratonHsm.Daemon

open Library
open Std (ExtTreeMap TransCmp LawfulEqCmp)

/-- `ThrottleKey`. -/
structure ThrottleKey where
  slotId : Nat
  clientId : String
  deriving DecidableEq

/-- The order of the keys in the table. -/
def ThrottleKey.order : ThrottleKey → ThrottleKey → Ordering :=
  compareLex (compareOn ThrottleKey.slotId) (compareOn ThrottleKey.clientId)

instance : TransCmp ThrottleKey.order := inferInstanceAs (TransCmp (compareLex _ _))

instance : LawfulEqCmp ThrottleKey.order where
  eq_of_compare {key other} h := by
    obtain ⟨hslot, hclient⟩ := Ordering.then_eq_eq.mp h
    cases key
    cases other
    rw [ThrottleKey.mk.injEq]
    exact ⟨Std.LawfulEqCmp.eq_of_compare hslot, Std.LawfulEqCmp.eq_of_compare hclient⟩

/-- `LoginThrottle`. -/
structure LoginThrottle where
  failedAttempts : Nat
  lockoutUntil : Option Nat
  deriving DecidableEq

/-- The table of failed attempts. -/
abbrev ThrottleTable := ExtTreeMap ThrottleKey LoginThrottle ThrottleKey.order

/-- `MAX_THROTTLE_ENTRIES`. -/
def maxThrottleEntries : Nat := 1024

/-- The lockout of a pair has ended. -/
def LoginThrottle.expiredAt (throttle : LoginThrottle) (now : Nat) : Bool :=
  throttle.lockoutUntil.any (· ≤ now)

namespace ThrottleTable

/-- One turn of the loop of `evict_expired_throttle_entries`: the entry with the fewest failures,
and among these the one that the map lists first, is removed. -/
def evictOne (rank : ThrottleKey → Nat) (table : ThrottleTable) : ThrottleTable :=
  match table.toList.argmin fun entry ↦ toLex (entry.2.failedAttempts, rank entry.1) with
  | some entry => table.erase entry.1
  | none => table

/-- `evict_expired_throttle_entries`. Each turn of the loop removes one entry. -/
def evictExpired (now : Nat) (rank : ThrottleKey → Nat) (table : ThrottleTable) : ThrottleTable :=
  let table := table.filter fun _ throttle ↦ !throttle.expiredAt now
  (evictOne rank)^[table.size - maxThrottleEntries] table

/-- `check_login_throttle` and `check_init_token_throttle`, which differ in the text of the refusal:
an entry whose lockout has ended starts again from zero. -/
def check (attempts : String) (maxLoginAttempts now : Nat) (key : ThrottleKey)
    (table : ThrottleTable) : Except Status Unit × ThrottleTable :=
  if maxLoginAttempts = 0 then (.ok (), table)
  else
    match table[key]? with
    | none => (.ok (), table)
    | some throttle =>
      match throttle.lockoutUntil with
      | none => (.ok (), table)
      | some deadline =>
        if now < deadline then
          (.error ⟨.resourceExhausted, "Too many failed " ++ attempts ++
            " attempts. Retry after " ++ toString (deadline - now + 1) ++ " seconds."⟩, table)
        else (.ok (), table.insert key ⟨0, none⟩)

/-- The entry of a pair after one more failure. -/
def failed (maxLoginAttempts loginCooldown now : Nat) (throttle : LoginThrottle) : LoginThrottle :=
  let failures := min (throttle.failedAttempts + 1) (2 ^ 32 - 1)
  { failedAttempts := failures
    lockoutUntil := if failures ≥ maxLoginAttempts then some (now + loginCooldown)
      else throttle.lockoutUntil }

/-- `record_login_failure` and `record_init_token_failure`. -/
def recordFailure (maxLoginAttempts loginCooldown now : Nat) (rank : ThrottleKey → Nat)
    (key : ThrottleKey) (table : ThrottleTable) : ThrottleTable :=
  if maxLoginAttempts = 0 then table
  else
    let table := table.evictExpired now rank
    table.insert key (failed maxLoginAttempts loginCooldown now (table[key]?.getD ⟨0, none⟩))

/-- `clear_login_attempts` and `clear_init_token_attempts`. -/
def clearAttempts (maxLoginAttempts : Nat) (key : ThrottleKey) (table : ThrottleTable) :
    ThrottleTable :=
  if maxLoginAttempts = 0 then table else table.erase key

/-! ### What the operations do -/

section Operations

variable {maxLoginAttempts : Nat} (hmax : 0 < maxLoginAttempts) (now : Nat) (key : ThrottleKey)
  (table : ThrottleTable)

include hmax

/-- A check refuses a pair that is locked out, renews the entry of one whose lockout has ended, and
lets the others through. -/
theorem check_cases (attempts : String) :
    (∃ throttle deadline, table[key]? = some throttle ∧ throttle.lockoutUntil = some deadline ∧
        now < deadline ∧ ∃ e, table.check attempts maxLoginAttempts now key = (.error e, table)) ∨
      (∃ throttle deadline, table[key]? = some throttle ∧
        throttle.lockoutUntil = some deadline ∧ deadline ≤ now ∧
        table.check attempts maxLoginAttempts now key = (.ok (), table.insert key ⟨0, none⟩)) ∨
      ((∀ throttle, table[key]? = some throttle → throttle.lockoutUntil = none) ∧
        table.check attempts maxLoginAttempts now key = (.ok (), table)) := by
  unfold check
  rw [if_neg (Nat.ne_of_gt hmax)]
  cases hentry : table[key]? with
  | none => exact Or.inr (Or.inr ⟨nofun, rfl⟩)
  | some throttle =>
    cases hlockout : throttle.lockoutUntil with
    | none =>
      refine Or.inr (Or.inr ⟨fun other hother ↦ ?_, by simp only [hlockout]⟩)
      rw [← Option.some.inj hother, hlockout]
    | some deadline =>
      by_cases hlocked : now < deadline
      · refine Or.inl ⟨throttle, deadline, rfl, hlockout, hlocked, ?_⟩
        simp only [hlockout, if_pos hlocked]
        exact ⟨_, rfl⟩
      · refine Or.inr (Or.inl ⟨throttle, deadline, rfl, hlockout, Nat.le_of_not_lt hlocked, ?_⟩)
        simp only [hlockout, if_neg hlocked]

/-- As long as the table keeps to its maximum, recording a failure removes only entries whose
lockout has ended. -/
theorem recordFailure_of_room (loginCooldown : Nat) (rank : ThrottleKey → Nat)
    (hroom : (table.filter fun _ throttle ↦ !throttle.expiredAt now).size ≤ maxThrottleEntries) :
    table.recordFailure maxLoginAttempts loginCooldown now rank key =
      (table.filter fun _ throttle ↦ !throttle.expiredAt now).insert key
        (failed maxLoginAttempts loginCooldown now
          ((table.filter fun _ throttle ↦ !throttle.expiredAt now)[key]?.getD ⟨0, none⟩)) := by
  unfold recordFailure evictExpired
  rw [if_neg (Nat.ne_of_gt hmax)]
  simp only [Nat.sub_eq_zero_of_le hroom, Function.iterate_zero, id_eq]

end Operations

end ThrottleTable

end CratonHsm.Daemon
