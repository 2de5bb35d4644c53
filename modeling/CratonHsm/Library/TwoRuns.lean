import CratonHsm.Library.Program
import CratonHsm.Library.SharedMap
import Mathlib.Data.List.Perm.Basic

/-!
# Two runs of one program

What an observer of the answers can tell about the state. `Coincides R` says of two runs of a
program that they answer alike and leave states related by `R`; its rules walk down the program as
those of `Ensures` do, with both states at hand. Programs whose runs from related states coincide
give the same answers one after the other (`replies_eq_of_coincides`).

A search in a map of shared cells sees the keys in order. If two maps have the same keys and the
search does not distinguish their values, it finds the same keys (`filter_keys_eq`).
-/

set_option autoImplicit false

namespace CratonHsm.Library

open Std (ExtTreeMap TransOrd LawfulEqOrd)

namespace Program

variable {State Error Result Result' : Type} {R : State → State → Prop} {s t : State}

/-- Run from the two states, the program answers alike and leaves related states. -/
def Coincides (R : State → State → Prop) (x : Program State Error Result) (s t : State) : Prop :=
  (x s).1 = (x t).1 ∧ R (x s).2 (x t).2

theorem coincides_pure (h : R s t) (a : Result) :
    (pure a : Program State Error Result).Coincides R s t := ⟨rfl, h⟩

variable {f : Unit → Program State Error Result}

theorem coincides_require {condition : Prop} [Decidable condition] {e : Error} (h : R s t)
    (hgo : condition → (f ()).Coincides R s t) : (require condition e >>= f).Coincides R s t := by
  unfold Coincides
  rw [require_bind, require_bind]
  by_cases hcondition : condition
  · rw [if_pos hcondition, if_pos hcondition]
    exact hgo hcondition
  · rw [if_neg hcondition, if_neg hcondition]
    exact ⟨rfl, h⟩

theorem coincides_reads {g : State → Except Error Result}
    {f : Result → Program State Error Result'} (h : R s t) (hread : g s = g t)
    (hgo : ∀ a, g s = .ok a → (f a).Coincides R s t) : (reads g >>= f).Coincides R s t := by
  unfold Coincides
  rw [reads_bind, reads_bind, ← hread]
  cases ha : g s with
  | error e => exact ⟨rfl, h⟩
  | ok a => exact hgo a ha

theorem coincides_view {g : State → Result} {f : Result → Program State Error Result'}
    (hread : g s = g t) (hgo : (f (g s)).Coincides R s t) : (view g >>= f).Coincides R s t := by
  unfold Coincides
  rw [view_bind, view_bind, ← hread]
  exact hgo

theorem coincides_update {g : State → State} (hgo : (f ()).Coincides R (g s) (g t)) :
    (update g >>= f).Coincides R s t := hgo

/-- Programs that coincide on related states give the same answers one after the other. -/
theorem replies_eq_of_coincides {xs : List (Program State Error Result)}
    (hstep : ∀ x ∈ xs, ∀ s t, R s t → x.Coincides R s t) (h : R s t) :
    replies xs s = replies xs t := by
  induction xs generalizing s t with
  | nil => rfl
  | cons x xs ih =>
    obtain ⟨hanswer, hnext⟩ := hstep x List.mem_cons_self s t h
    rw [replies, replies, hanswer, ih (fun y hy ↦ hstep y (List.mem_cons_of_mem x hy)) hnext]

end Program

namespace SharedMap

variable {Key Value : Type} [Ord Key] [TransOrd Key] [LawfulEqOrd Key]

/-- A search, as a filter of the keys. -/
theorem map_fst_filter_toList (map : SharedMap Key Value) (p : Key × Value → Bool) :
    (map.toList.filter p).map Prod.fst =
      map.refs.keys.filter fun key ↦ (map.get? key).any fun value ↦ p (key, value) := by
  have hentries : ∀ entry ∈ map.refs.toList, map.get? entry.1 = map.deref entry.2 := by
    intro entry hentry
    rw [get?, ExtTreeMap.mem_toList_iff_getElem?_eq_some.mp hentry, Option.bind_some]
  rw [toList, ← ExtTreeMap.map_fst_toList_eq_keys]
  generalize map.refs.toList = entries at hentries ⊢
  induction entries with
  | nil => rfl
  | cons entry entries ih =>
    rw [List.forall_mem_cons] at hentries
    rw [List.map_cons, List.filter_cons, hentries.1, List.filterMap_cons]
    cases hvalue : map.deref entry.2 with
    | none => simpa using ih hentries.2
    | some value =>
      simp only [Option.map_some, List.filter_cons, Option.any_some]
      split_ifs with hp
      · rw [List.map_cons, ih hentries.2]
      · exact ih hentries.2

/-- Maps with the same keys list them in the same order. -/
theorem keys_eq_of_mem_iff {map other : SharedMap Key Value}
    (h : ∀ key, (map.get? key).isSome = (other.get? key).isSome) :
    map.refs.keys = other.refs.keys := by
  have hnodup : ∀ m : SharedMap Key Value, m.refs.keys.Nodup := by
    intro m
    refine List.Pairwise.imp (fun {a b} hne heq ↦ hne ?_) m.refs.distinct_keys
    rw [heq]
    exact Std.ReflOrd.compare_self
  have hmem : ∀ (m : SharedMap Key Value) key, key ∈ m.refs.keys ↔ (m.get? key).isSome = true := by
    intro m key
    rw [ExtTreeMap.mem_keys, ← ExtTreeMap.isSome_getElem?_iff_mem, Option.isSome_iff_ne_none,
      Option.isSome_iff_ne_none, ne_eq, ne_eq, m.get?_eq_none_iff]
  have hperm : map.refs.keys.Perm other.refs.keys := by
    rw [List.perm_ext_iff_of_nodup (hnodup map) (hnodup other)]
    intro key
    rw [hmem, hmem, h]
  refine hperm.eq_of_pairwise (fun a b _ _ hab hba ↦ ?_) map.refs.ordered_keys
    other.refs.ordered_keys
  rw [Std.OrientedOrd.eq_swap, hba] at hab
  cases hab

/-- A search that does not distinguish related values finds the same keys. -/
theorem filter_keys_eq {R : Value → Value → Prop} {map other : SharedMap Key Value}
    (hrel : ∀ key, Option.Rel R (map.get? key) (other.get? key)) {p : Key × Value → Bool}
    (hp : ∀ key a b, R a b → p (key, a) = p (key, b)) :
    (map.toList.filter p).map Prod.fst = (other.toList.filter p).map Prod.fst := by
  have hkeys : map.refs.keys = other.refs.keys := by
    refine keys_eq_of_mem_iff fun key ↦ ?_
    have hkey := hrel key
    generalize map.get? key = found at hkey ⊢
    generalize other.get? key = found' at hkey ⊢
    cases hkey <;> rfl
  rw [map_fst_filter_toList, map_fst_filter_toList, hkeys]
  congr 1
  funext key
  have hkey := hrel key
  generalize map.get? key = found at hkey ⊢
  generalize other.get? key = found' at hkey ⊢
  cases hkey with
  | none => rfl
  | some hab => exact hp key _ _ hab

end SharedMap

end CratonHsm.Library
