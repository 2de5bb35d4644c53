import CratonHsm.Error
import CratonHsm.Library.StepSystem

/-!
# Locked pages under key buffers

`RawKeyMaterial` of `store/key_material.rs` locks the pages of its buffer when it is made, and on
drop it zeroes the buffer and unlocks the pages. Page locks do not count, so a drop unlocks the
pages of every other key on them (`live_key_unlocked`). The pages under live keys are locked in
every state of a run exactly if each drop happens while no other live key is on a page of the
dropped one, and what was dropped is zero in any case (`keys_stay_locked_iff`).

Scope. A buffer may be placed anywhere, and lock calls succeed. `new` and `new_strict` are then the
same.
-/

set_option autoImplicit false

namespace CratonHsm.Store

open Library

/-- `RawKeyMaterial` and where its box lies. -/
structure KeyBuffer where
  start : Nat
  key : Bytes

/-- The memory of the process: its bytes, the pages that are locked, and the key buffers. -/
structure KeyMemory where
  byte : Nat → UInt8
  locked : Nat → Bool
  live : List KeyBuffer
  dropped : List KeyBuffer

/-- A key is made at an address; the key of a live buffer is copied to an address; a live buffer is
dropped. -/
inductive KeyEvent where
  | new (start : Nat) (data : Bytes)
  | clone (index start : Nat)
  | drop (index : Nat)

namespace KeyBuffer

/-- The addresses of a buffer. -/
def addresses (buffer : KeyBuffer) : List Nat := List.range' buffer.start buffer.key.length

/-- Part of the buffer lies on the page. -/
def touches (pageSize : Nat) (buffer : KeyBuffer) (page : Nat) : Bool :=
  buffer.addresses.any (· / pageSize = page)

theorem touches_iff {pageSize : Nat} {buffer : KeyBuffer} {page : Nat} :
    buffer.touches pageSize page ↔ ∃ address ∈ buffer.addresses, address / pageSize = page := by
  simp [touches]

end KeyBuffer

namespace KeyMemory

variable (pageSize : Nat)

def empty : KeyMemory := ⟨fun _ ↦ 0, fun _ ↦ false, [], []⟩

variable (memory : KeyMemory)

/-- `RawKeyMaterial::new`. -/
def new (start : Nat) (data : Bytes) : KeyMemory :=
  let buffer : KeyBuffer := ⟨start, data⟩
  { memory with
    byte := fun address ↦
      if address ∈ buffer.addresses then data.getD (address - start) 0 else memory.byte address
    -- `mlock_buffer`; an empty buffer touches no page
    locked := fun page ↦ memory.locked page || buffer.touches pageSize page
    live := buffer :: memory.live }

/-- `Drop::drop`. -/
def drop (index : Nat) (buffer : KeyBuffer) : KeyMemory where
  byte address := if address ∈ buffer.addresses then 0 else memory.byte address
  -- `munlock_buffer`
  locked page := memory.locked page && !buffer.touches pageSize page
  live := memory.live.eraseIdx index
  dropped := buffer :: memory.dropped

/-- The memory after an event. -/
def step : KeyEvent → KeyMemory
  | .new start data => memory.new pageSize start data
  | .clone index start =>
    (memory.live[index]?).elim memory fun buffer ↦ memory.new pageSize start buffer.key
  | .drop index => (memory.live[index]?).elim memory (memory.drop pageSize index)

/-- Every page that holds a byte of a live key is locked. -/
def Locked : Prop :=
  ∀ buffer ∈ memory.live, ∀ address ∈ buffer.addresses, memory.locked (address / pageSize)

/-- On a page without live keys nothing is left of dropped ones. -/
def Cleared : Prop :=
  ∀ buffer ∈ memory.dropped, ∀ address ∈ buffer.addresses,
    (∀ other ∈ memory.live, ¬other.touches pageSize (address / pageSize)) → memory.byte address = 0

/-- A buffer is dropped while no other live buffer is on its pages. -/
def DropsAlone : KeyEvent → Prop
  | .drop index => ∀ buffer, memory.live[index]? = some buffer →
    ∀ other ∈ memory.live.eraseIdx index, ∀ page,
      ¬(buffer.touches pageSize page ∧ other.touches pageSize page)
  | .new .. | .clone .. => True

variable {pageSize} {memory : KeyMemory}

/-! ### One event -/

theorem Locked.new (h : memory.Locked pageSize) (start : Nat) (data : Bytes) :
    (memory.new pageSize start data).Locked pageSize := by
  intro buffer hbuffer address haddress
  rw [KeyMemory.new, Bool.or_eq_true]
  obtain rfl | hold := List.mem_cons.mp hbuffer
  · exact .inr (KeyBuffer.touches_iff.mpr ⟨address, haddress, rfl⟩)
  · exact .inl (h buffer hold address haddress)

/-- A drop takes the locks of its pages from every other live key there. -/
theorem locked_drop_iff (h : memory.Locked pageSize) (index : Nat) (buffer : KeyBuffer) :
    (memory.drop pageSize index buffer).Locked pageSize ↔
      ∀ other ∈ memory.live.eraseIdx index, ∀ page,
        ¬(buffer.touches pageSize page ∧ other.touches pageSize page) := by
  refine forall₂_congr fun other hother ↦
    ⟨fun hlocked page hshared ↦ ?_, fun halone address ha ↦ ?_⟩
  · obtain ⟨address, haddress, rfl⟩ := KeyBuffer.touches_iff.mp hshared.2
    have hunlocked := hlocked address haddress
    simp [drop, hshared.1] at hunlocked
  · have htouches : other.touches pageSize (address / pageSize) :=
      KeyBuffer.touches_iff.mpr ⟨address, ha, rfl⟩
    have hother := h other (List.mem_of_mem_eraseIdx hother) address ha
    simpa [drop, hother, htouches] using halone (address / pageSize)

theorem locked_step_iff (h : memory.Locked pageSize) (event : KeyEvent) :
    (memory.step pageSize event).Locked pageSize ↔ memory.DropsAlone pageSize event := by
  cases event with
  | new start data => exact iff_of_true (h.new start data) trivial
  | clone index start =>
    refine iff_of_true ?_ trivial
    cases hlive : memory.live[index]? with
    | none => rwa [step, hlive]
    | some buffer =>
      rw [step, hlive]
      exact h.new start buffer.key
  | drop index =>
    cases hlive : memory.live[index]? with
    | none => simpa [step, hlive, DropsAlone] using h
    | some buffer => simpa [step, hlive, DropsAlone] using locked_drop_iff h index buffer

/-- Nothing is left of dropped keys at an address that no live key has. -/
def CellsCleared (memory : KeyMemory) : Prop :=
  ∀ buffer ∈ memory.dropped, ∀ address ∈ buffer.addresses,
    (∀ other ∈ memory.live, address ∉ other.addresses) → memory.byte address = 0

section Cells

variable (h : memory.CellsCleared)
include h

theorem CellsCleared.cleared : memory.Cleared pageSize :=
  fun buffer hbuffer address haddress halone ↦ h buffer hbuffer address haddress
    fun other hother hcovers ↦
      halone other hother (KeyBuffer.touches_iff.mpr ⟨address, hcovers, rfl⟩)

theorem CellsCleared.new (start : Nat) (data : Bytes) :
    (memory.new pageSize start data).CellsCleared := by
  intro buffer hbuffer address haddress hfree
  have hold : (memory.new pageSize start data).byte address = memory.byte address :=
    if_neg (hfree _ List.mem_cons_self)
  rw [hold]
  exact h buffer hbuffer address haddress fun other hother ↦ hfree other (.tail _ hother)

theorem CellsCleared.drop {index : Nat} {buffer : KeyBuffer}
    (hlive : memory.live[index]? = some buffer) :
    (memory.drop pageSize index buffer).CellsCleared := by
  intro gone hgone address haddress hfree
  by_cases hzeroed : address ∈ buffer.addresses
  · exact if_pos hzeroed
  · have hold : (memory.drop pageSize index buffer).byte address = memory.byte address :=
      if_neg hzeroed
    rw [hold]
    obtain rfl | hgone := List.mem_cons.mp hgone
    · exact absurd haddress hzeroed
    · refine h gone hgone address haddress fun other hother ↦ ?_
      obtain ⟨hindex, rfl⟩ := List.getElem?_eq_some_iff.mp hlive
      obtain rfl | hkept := List.mem_cons.mp
        ((List.getElem_cons_eraseIdx_perm hindex).mem_iff.mpr hother)
      · exact hzeroed
      · exact hfree other hkept

theorem CellsCleared.step (event : KeyEvent) : (memory.step pageSize event).CellsCleared := by
  cases event with
  | new start data => exact h.new start data
  | clone index start =>
    cases hlive : memory.live[index]? with
    | none => rwa [KeyMemory.step, hlive]
    | some buffer =>
      rw [KeyMemory.step, hlive]
      exact h.new start buffer.key
  | drop index =>
    cases hlive : memory.live[index]? with
    | none => rwa [KeyMemory.step, hlive]
    | some buffer =>
      rw [KeyMemory.step, hlive]
      exact h.drop hlive

end Cells

/-! ### Runs -/

variable (pageSize) in
/-- What the events preserve. -/
def Kept (memory : KeyMemory) : Prop := memory.Locked pageSize ∧ memory.CellsCleared

/-- In every state of a run live keys are locked and dropped keys are cleared, exactly if every drop
happens while no other live key is on its pages. -/
theorem keys_stay_locked_iff (pageSize : Nat) (events : List KeyEvent) :
    FoldMeets (step pageSize) (fun memory event ↦
        (memory.step pageSize event).Locked pageSize ∧
          (memory.step pageSize event).Cleared pageSize)
      empty events ↔
    FoldMeets (step pageSize) (DropsAlone pageSize) empty events := by
  have hstart : empty.Kept pageSize := by simp [empty, Kept, Locked, CellsCleared]
  refine ⟨fun h ↦ ?_, fun h ↦ ?_⟩
  · refine foldMeets_of_invariant (fun memory event hmemory hkept ↦ ?_) events empty hstart h
    exact ⟨⟨hkept.1, hmemory.2.step event⟩, (locked_step_iff hmemory.1 event).mp hkept.1⟩
  · refine foldMeets_of_invariant (fun memory event hmemory halone ↦ ?_) events empty hstart h
    have hlocked := (locked_step_iff hmemory.1 event).mpr halone
    have hcells : (memory.step pageSize event).CellsCleared := hmemory.2.step event
    exact ⟨⟨hlocked, hcells⟩, hlocked, hcells.cleared⟩

/-- Two keys on one page: when the first is dropped, the second is no longer locked. -/
theorem live_key_unlocked :
    let memory := [.new 0 (List.replicate 32 7), .new 32 (List.replicate 32 9), .drop 1].foldl
      (step 4096) empty
    (memory.live.map KeyBuffer.start = [32]) ∧ ¬memory.Locked 4096 := by
  refine ⟨by decide, fun hlocked ↦ ?_⟩
  have hpage := hlocked ⟨32, List.replicate 32 9⟩ List.mem_cons_self 32 (by decide)
  revert hpage
  decide

end KeyMemory

end CratonHsm.Store
