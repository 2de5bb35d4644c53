import CratonHsm.Library.OrderedMap
import Std.Data.ExtTreeMap

/-!
# Maps of shared cells

A map whose values live in cells that may be shared: a holder of a cell's reference still reaches
it after the key is erased, and sees what is written through the key. Cells are never freed. Every
key has a cell, and no two keys have the same one; both are fields, so `get?` finds a value for
every key (`get?_eq_none_iff`) and a write through one key leaves the values of the others alone
(`get?_modify`).
-/

set_option autoImplicit false

namespace CratonHsm.Library

open Std (ExtTreeMap TransOrd LawfulEqOrd)

/-- Keys, the references of their cells, and the cells. -/
structure SharedMap (Key Value : Type) [Ord Key] [TransOrd Key] where
  refs : ExtTreeMap Key Nat
  cells : List Value
  refs_lt : ∀ {key : Key} {ref : Nat}, refs[key]? = some ref → ref < cells.length
  refs_inj : ∀ {key other : Key} {ref : Nat},
    refs[key]? = some ref → refs[other]? = some ref → key = other

namespace SharedMap

section Cells

variable {Key Value : Type} [Ord Key] [TransOrd Key]

/-- No keys and no cells. -/
def empty : SharedMap Key Value := ⟨∅, [], by simp, by simp⟩

variable (map : SharedMap Key Value)

/-- The content of a cell. -/
def deref (ref : Nat) : Option Value := map.cells[ref]?

/-- The value of a key. -/
def get? (key : Key) : Option Value := map.refs[key]?.bind map.deref

/-- The keys in order with their values. -/
def toList (map : SharedMap Key Value) : List (Key × Value) :=
  map.refs.toList.filterMap fun entry ↦ (map.deref entry.2).map (entry.1, ·)

/-- Forget every key; the cells stay with those who hold them. -/
def clear : SharedMap Key Value :=
  ⟨∅, map.cells, by simp, by simp⟩

/-- Change the content of a cell. -/
def modify (map : SharedMap Key Value) (ref : Nat) (f : Value → Value) : SharedMap Key Value where
  refs := map.refs
  cells := map.cells.modify ref f
  refs_lt h := by rw [List.length_modify]; exact map.refs_lt h
  refs_inj := map.refs_inj

/-- The later map binds a key to a cell of `map` only if `map` did. -/
structure Evolves (map later : SharedMap Key Value) : Prop where
  length_le : map.cells.length ≤ later.cells.length
  refs_old : ∀ {key : Key} {ref : Nat},
    later.refs[key]? = some ref → ref < map.cells.length → map.refs[key]? = some ref

variable (map : SharedMap Key Value)

theorem Evolves.refl : map.Evolves map := ⟨Nat.le_refl _, fun h _ ↦ h⟩

variable {key : Key} {value : Value} {ref : Nat}

theorem get?_eq_some_iff :
    map.get? key = some value ↔ ∃ ref, map.refs[key]? = some ref ∧ map.deref ref = some value := by
  simp [get?, Option.bind_eq_some_iff]

theorem get?_eq_none_iff : map.get? key = none ↔ map.refs[key]? = none := by
  cases href : map.refs[key]? with
  | none => simp [get?, href]
  | some ref => simp [get?, href, deref, map.refs_lt href]

@[simp]
theorem get?_empty (key : Key) : (empty : SharedMap Key Value).get? key = none := by
  simp [get?, empty]

theorem clear_eq_self (hempty : map.refs = ∅) : map.clear = map := by
  cases map
  simp_all [clear]

theorem lt_of_deref (h : map.deref ref = some value) : ref < map.cells.length :=
  (List.getElem?_eq_some_iff.mp h).choose

theorem deref_modify (ref other : Nat) (f : Value → Value) :
    (map.modify ref f).deref other =
      (map.deref other).map fun value ↦ if ref = other then f value else value := by
  simp [deref, modify, List.getElem?_modify]

/-- A write through the reference of a key changes the value of that key only. -/
theorem get?_modify [DecidableEq Key] (href : map.refs[key]? = some ref) (f : Value → Value)
    (other : Key) :
    (map.modify ref f).get? other =
      if key = other then (map.get? other).map f else map.get? other := by
  have hbind : (map.modify ref f).get? other =
      map.refs[other]?.bind (map.modify ref f).deref := rfl
  rw [hbind, get?]
  cases hother : map.refs[other]? with
  | none => simp
  | some ref' =>
    have hsame : ref = ref' ↔ key = other := by
      constructor
      · rintro rfl
        exact map.refs_inj href hother
      · rintro rfl
        exact Option.mem_unique href hother
    rw [Option.bind_some, Option.bind_some, deref_modify]
    by_cases h : key = other
    · simp [hsame.mpr h, h]
    · simp [mt hsame.mp h, h]

end Cells

section Keys

variable {Key Value : Type} [Ord Key] [TransOrd Key] [LawfulEqOrd Key] [DecidableEq Key]
  {later : SharedMap Key Value}

/-- Bind a key to a new cell. -/
def insert (map : SharedMap Key Value) (key : Key) (value : Value) : SharedMap Key Value where
  refs := map.refs.insert key map.cells.length
  cells := map.cells ++ [value]
  refs_lt {other ref} h := by
    rw [getElem?_insert_eq_ite] at h
    rw [List.length_append, List.length_singleton]
    split_ifs at h
    · rw [← Option.some.inj h]; exact Nat.lt_succ_self _
    · exact Nat.lt_succ_of_lt (map.refs_lt h)
  refs_inj {first second ref} hfirst hsecond := by
    rw [getElem?_insert_eq_ite] at hfirst hsecond
    split_ifs at hfirst hsecond with h h' h'
    · rw [← h, ← h']
    · exact absurd (map.refs_lt hsecond) (by rw [← Option.some.inj hfirst]; exact Nat.lt_irrefl _)
    · exact absurd (map.refs_lt hfirst) (by rw [← Option.some.inj hsecond]; exact Nat.lt_irrefl _)
    · exact map.refs_inj hfirst hsecond

/-- Forget a key. -/
def erase (map : SharedMap Key Value) (key : Key) : SharedMap Key Value where
  refs := map.refs.erase key
  cells := map.cells
  refs_lt h := by
    rw [getElem?_erase_eq_ite] at h
    split_ifs at h
    exact map.refs_lt h
  refs_inj hfirst hsecond := by
    rw [getElem?_erase_eq_ite] at hfirst hsecond
    split_ifs at hfirst hsecond
    exact map.refs_inj hfirst hsecond

variable (map : SharedMap Key Value)

theorem length_insert (key : Key) (value : Value) :
    (map.insert key value).cells.length = map.cells.length + 1 := List.length_append

theorem refs_insert_self (key : Key) (value : Value) :
    (map.insert key value).refs[key]? = some map.cells.length :=
  (getElem?_insert_eq_ite ..).trans (if_pos rfl)

theorem deref_insert {ref : Nat} {held : Value} (hheld : map.deref ref = some held) (key : Key)
    (value : Value) : (map.insert key value).deref ref = some held := by
  obtain ⟨hlt, -⟩ := List.getElem?_eq_some_iff.mp hheld
  rw [← hheld]
  exact List.getElem?_append_left hlt

/-- A cell of the map with a new binding was there before, or is the new one. -/
theorem deref_insert_cases {key : Key} {value held : Value} {ref : Nat}
    (h : (map.insert key value).deref ref = some held) :
    map.deref ref = some held ∨ ref = map.cells.length ∧ held = value := by
  have hcells : (map.cells ++ [value])[ref]? = some held := h
  rw [List.getElem?_append] at hcells
  split_ifs at hcells with hlt
  · exact Or.inl hcells
  · rw [List.getElem?_singleton] at hcells
    split_ifs at hcells with hzero
    exact Or.inr ⟨by omega, (Option.some.inj hcells).symm⟩

@[simp]
theorem get?_insert (key other : Key) (value : Value) :
    (map.insert key value).get? other = if key = other then some value else map.get? other := by
  have hrefs : (map.insert key value).refs[other]? =
      if key = other then some map.cells.length else map.refs[other]? := getElem?_insert_eq_ite ..
  rw [get?, hrefs]
  split_ifs with h
  · exact List.getElem?_concat_length
  · rw [get?]
    cases href : map.refs[other]? with
    | none => rfl
    | some ref =>
      obtain ⟨held, hheld⟩ : ∃ held, map.deref ref = some held :=
        ⟨_, List.getElem?_eq_getElem (map.refs_lt href)⟩
      rw [Option.bind_some, Option.bind_some, map.deref_insert hheld, hheld]

@[simp]
theorem get?_erase (key other : Key) :
    (map.erase key).get? other = if key = other then none else map.get? other := by
  simp only [get?, erase, getElem?_erase_eq_ite]
  split_ifs <;> rfl

theorem Evolves.insert (h : map.Evolves later) (key : Key) (value : Value) :
    map.Evolves (later.insert key value) where
  length_le := by rw [later.length_insert]; exact Nat.le_succ_of_le h.length_le
  refs_old {other ref} hother hlt := by
    have hrefs : (if key = other then some later.cells.length else later.refs[other]?) = some ref :=
      (getElem?_insert_eq_ite ..).symm.trans hother
    split_ifs at hrefs
    · rw [← Option.some.inj hrefs] at hlt
      exact absurd h.length_le (Nat.not_le.mpr hlt)
    · exact h.refs_old hrefs hlt

theorem Evolves.erase (h : map.Evolves later) (key : Key) :
    map.Evolves (later.erase key) where
  length_le := h.length_le
  refs_old {other ref} hother hlt := by
    have hrefs : (if key = other then none else later.refs[other]?) = some ref :=
      (getElem?_erase_eq_ite ..).symm.trans hother
    split_ifs at hrefs
    exact h.refs_old hrefs hlt

end Keys

end SharedMap

end CratonHsm.Library
