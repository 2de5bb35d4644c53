import Mathlib.Data.List.Basic

/-!
# Finite maps by lookup

Lookup lemmas for the ordered maps of the standard library over keys with a lawful order, stated
with equality of keys in place of the outcome of their comparison, and the number of entries whose
value has a property (`countValues`), which depends only on lookups (`countValues_congr`).
-/

set_option autoImplicit false

namespace CratonHsm.Library

open Std (ExtTreeMap TransCmp LawfulEqCmp)

universe u v

section Lookup

variable {Key : Type u} {Value : Type v} {cmp : Key → Key → Ordering} [TransCmp cmp]
  [LawfulEqCmp cmp] [DecidableEq Key] {map : ExtTreeMap Key Value cmp}

theorem getElem?_insert_eq_ite (key other : Key) (value : Value) :
    (map.insert key value)[other]? = if key = other then some value else map[other]? := by
  simp [ExtTreeMap.getElem?_insert]

theorem getElem?_erase_eq_ite (key other : Key) :
    (map.erase key)[other]? = if key = other then none else map[other]? := by
  simp [ExtTreeMap.getElem?_erase]

end Lookup

/-! ### Counting -/

section Count

variable {Key : Type u} {Value : Type v} {cmp : Key → Key → Ordering} [TransCmp cmp]
  {map : ExtTreeMap Key Value cmp} {p : Value → Bool}

/-- The number of entries whose value satisfies `p`. -/
def countValues (p : Value → Bool) (map : ExtTreeMap Key Value cmp) : Nat :=
  (map.filter fun _ value ↦ p value).size

theorem getElem?_filter_value (key : Key) :
    (map.filter fun _ value ↦ p value)[key]? = map[key]?.filter p := by
  simp

theorem countValues_eq_length :
    countValues p map = (map.toList.filter fun entry ↦ p entry.2).length := by
  rw [countValues, ← ExtTreeMap.length_toList, ExtTreeMap.toList_filter]

variable [LawfulEqCmp cmp]

/-- The count depends only on which keys have a value that satisfies `p`. -/
theorem countValues_congr {map' : ExtTreeMap Key Value cmp}
    (h : ∀ key : Key, map'[key]?.any p = map[key]?.any p) :
    countValues p map' = countValues p map := by
  have hkeys : (map'.filter fun _ value ↦ p value).map (fun _ _ ↦ ()) =
      (map.filter fun _ value ↦ p value).map fun _ _ ↦ () := by
    ext key
    have hkey := h key
    rw [ExtTreeMap.getElem?_map, ExtTreeMap.getElem?_map, getElem?_filter_value,
      getElem?_filter_value]
    cases hold : map[key]? <;> cases hnew : map'[key]? <;> simp_all [Option.filter]
  have hsize := congrArg ExtTreeMap.size hkeys
  rwa [ExtTreeMap.size_map, ExtTreeMap.size_map] at hsize

theorem countValues_eq_zero
    (h : ∀ (key : Key) (value : Value), map[key]? = some value → p value = false) :
    countValues p map = 0 := by
  have hempty : countValues p map = countValues p (∅ : ExtTreeMap Key Value cmp) := by
    refine countValues_congr fun key ↦ ?_
    cases hkey : map[key]? with
    | none => simp
    | some value => simp [h key value hkey]
  rw [hempty]
  rfl

variable [DecidableEq Key]

theorem countValues_insert {key : Key} (hfree : map[key]? = none) (value : Value) :
    countValues p (map.insert key value) = countValues p map + (p value).toNat := by
  cases hp : p value with
  | false =>
    refine countValues_congr fun other ↦ ?_
    rw [getElem?_insert_eq_ite]
    split_ifs with hkey
    · subst hkey
      simp [hfree, hp]
    · rfl
  | true =>
    have hinsert : (map.insert key value).filter (fun _ value ↦ p value) =
        (map.filter fun _ value ↦ p value).insert key value := by
      ext other
      rw [getElem?_filter_value, getElem?_insert_eq_ite, getElem?_insert_eq_ite,
        getElem?_filter_value]
      split_ifs
      · rw [Option.filter_some_pos hp]
      · rfl
    have hnew : (map.filter fun _ value ↦ p value).contains key = false := by
      rw [ExtTreeMap.contains_eq_isSome_getElem?, getElem?_filter_value, hfree]
      rfl
    rw [countValues, hinsert, ExtTreeMap.size_insert, hnew]
    rfl

theorem countValues_erase {key : Key} {value : Value} (hkey : map[key]? = some value) :
    countValues p map = countValues p (map.erase key) + (p value).toNat := by
  have hback : (map.erase key).insert key value = map := by
    ext other
    rw [getElem?_insert_eq_ite, getElem?_erase_eq_ite]
    split_ifs with hother
    · rw [← hother, hkey]
    · rfl
  have hfree : (map.erase key)[key]? = none := by
    rw [getElem?_erase_eq_ite, if_pos rfl]
  rw [← countValues_insert hfree, hback]

end Count

end CratonHsm.Library
