import Mathlib.Data.List.Basic

/-!
# Step systems

A system whose state changes by labelled steps. A step may be disabled in a state (`runSteps`, for
the atomic steps of interleaved calls) or always answer (`List.foldl`, for whole calls). Over both
kinds, a guard is a condition on a label and the state before its step, and the rules say that what
every guarded step preserves holds after every guarded run (`runSteps_invariant`,
`foldl_invariant`). A prefix of a guarded run is a guarded run, so these rules speak of every state
that is reached.
-/

set_option autoImplicit false

namespace CratonHsm.Library

universe u v

variable {State : Type u} {Label : Type v} {guard guard' : State → Label → Prop} {s : State}
  {labels : List Label} {inv : State → Prop}

/-! ### Steps that may be disabled -/

/-- The state after the steps named by `labels`, if each is enabled when its turn comes. -/
def runSteps (step : State → Label → Option State) : State → List Label → Option State
  | s, [] => some s
  | s, label :: labels => (step s label).bind fun t ↦ runSteps step t labels

/-- Every step of the run named by `labels` meets `guard` in the state before it. -/
def StepsMeet (step : State → Label → Option State) (guard : State → Label → Prop) :
    State → List Label → Prop
  | _, [] => True
  | s, label :: labels =>
    guard s label ∧ (step s label).elim True fun t ↦ StepsMeet step guard t labels

section Enabled

variable {step : State → Label → Option State}

theorem StepsMeet.tail {t : State} {label : Label} (h : StepsMeet step guard s (label :: labels))
    (hstep : step s label = some t) : StepsMeet step guard t labels := by
  have hrest := h.2
  rwa [hstep] at hrest

instance StepsMeet.decidable (step : State → Label → Option State) (guard : State → Label → Prop)
    [∀ s label, Decidable (guard s label)] :
    ∀ (s : State) (labels : List Label), Decidable (StepsMeet step guard s labels)
  | _, [] => .isTrue trivial
  | s, label :: labels =>
    match hstep : step s label with
    | none => decidable_of_iff (guard s label) (by simp [StepsMeet, hstep])
    | some t =>
      have := StepsMeet.decidable step guard t labels
      decidable_of_iff (guard s label ∧ StepsMeet step guard t labels)
        (by simp [StepsMeet, hstep])

theorem StepsMeet.and :
    ∀ {labels : List Label} {s : State}, StepsMeet step guard s labels →
      StepsMeet step guard' s labels →
        StepsMeet step (fun s label ↦ guard s label ∧ guard' s label) s labels := by
  intro labels
  induction labels with
  | nil => exact fun _ _ ↦ trivial
  | cons label labels ih =>
    intro s h h'
    refine ⟨⟨h.1, h'.1⟩, ?_⟩
    cases hstep : step s label with
    | none => trivial
    | some t => exact ih (h.tail hstep) (h'.tail hstep)

theorem StepsMeet.of_forall {guard : Label → Prop} :
    ∀ {labels : List Label} {s : State}, (∀ label ∈ labels, guard label) →
      StepsMeet step (fun _ label ↦ guard label) s labels := by
  intro labels
  induction labels with
  | nil => exact fun _ ↦ trivial
  | cons label labels ih =>
    intro s h
    refine ⟨h label List.mem_cons_self, ?_⟩
    cases step s label with
    | none => trivial
    | some t => exact ih fun other hother ↦ h other (List.mem_cons_of_mem _ hother)

/-- What every guarded step preserves holds after every guarded run. -/
theorem runSteps_invariant
    (hstep : ∀ s label t, inv s → guard s label → step s label = some t → inv t) :
    ∀ (labels : List Label) (s t : State), inv s → StepsMeet step guard s labels →
      runSteps step s labels = some t → inv t := by
  intro labels
  induction labels with
  | nil =>
    intro s t hs _ hrun
    rw [← Option.some.inj hrun]
    exact hs
  | cons label labels ih =>
    intro s t hs hmeet hrun
    obtain ⟨mid, hmid, hrest⟩ := Option.bind_eq_some_iff.mp hrun
    exact ih mid t (hstep s label mid hs hmeet.1 hmid) (hmeet.tail hmid) hrest

/-- What every step preserves holds after every run. -/
theorem runSteps_preserves (hstep : ∀ s label t, inv s → step s label = some t → inv t)
    (labels : List Label) (s t : State) (hs : inv s) (hrun : runSteps step s labels = some t) :
    inv t :=
  runSteps_invariant (fun s label t hs (_ : True) hmid ↦ hstep s label t hs hmid) labels s t hs
    (.of_forall fun _ _ ↦ trivial) hrun

theorem runSteps_append (labels later : List Label) :
    ∀ s, runSteps step s (labels ++ later) =
      (runSteps step s labels).bind fun t ↦ runSteps step t later := by
  induction labels with
  | nil => exact fun _ ↦ rfl
  | cons label labels ih =>
    intro s
    cases hstep : step s label with
    | none => simp [runSteps, hstep]
    | some t => simpa [runSteps, hstep] using ih t

end Enabled

/-! ### Steps that always answer -/

/-- Every step of the run named by `labels` meets `guard` in the state before it. -/
def FoldMeets (step : State → Label → State) (guard : State → Label → Prop) :
    State → List Label → Prop
  | _, [] => True
  | s, label :: labels => guard s label ∧ FoldMeets step guard (step s label) labels

instance FoldMeets.decidable (step : State → Label → State) (guard : State → Label → Prop)
    [∀ s label, Decidable (guard s label)] :
    ∀ (s : State) (labels : List Label), Decidable (FoldMeets step guard s labels)
  | _, [] => .isTrue trivial
  | s, label :: labels =>
    have := FoldMeets.decidable step guard (step s label) labels
    inferInstanceAs (Decidable (guard s label ∧ FoldMeets step guard (step s label) labels))

variable {step : State → Label → State}

/-- Labels that meet the guard in every state. -/
theorem FoldMeets.of_always :
    ∀ {labels : List Label} {s : State}, (∀ label ∈ labels, ∀ s, guard s label) →
      FoldMeets step guard s labels := by
  intro labels
  induction labels with
  | nil => exact fun _ ↦ trivial
  | cons label labels ih =>
    intro s h
    exact ⟨h label List.mem_cons_self s,
      ih fun other hother ↦ h other (List.mem_cons_of_mem _ hother)⟩

theorem FoldMeets.of_forall {guard : Label → Prop} (h : ∀ label ∈ labels, guard label) :
    FoldMeets step (fun _ label ↦ guard label) s labels :=
  .of_always fun label hlabel _ ↦ h label hlabel

theorem foldMeets_append {later : List Label} :
    FoldMeets step guard s (labels ++ later) ↔
      FoldMeets step guard s labels ∧ FoldMeets step guard (labels.foldl step s) later := by
  induction labels generalizing s with
  | nil => exact (iff_of_eq (true_and _)).symm
  | cons label labels ih =>
    exact Iff.trans (and_congr_right fun _ ↦ ih) and_assoc.symm

theorem FoldMeets.and :
    ∀ {labels : List Label} {s : State}, FoldMeets step guard s labels →
      FoldMeets step guard' s labels →
        FoldMeets step (fun s label ↦ guard s label ∧ guard' s label) s labels := by
  intro labels
  induction labels with
  | nil => exact fun _ _ ↦ trivial
  | cons label labels ih => exact fun h h' ↦ ⟨⟨h.1, h'.1⟩, ih h.2 h'.2⟩

/-- What a guarded step shows of itself, in a state with what guarded steps preserve, is shown along
every guarded run. -/
theorem foldMeets_of_invariant {shown : State → Label → Prop}
    (hstep : ∀ s label, inv s → guard s label → inv (step s label) ∧ shown s label) :
    ∀ (labels : List Label) (s : State), inv s → FoldMeets step guard s labels →
      FoldMeets step shown s labels := by
  intro labels
  induction labels with
  | nil => exact fun s _ _ ↦ trivial
  | cons label labels ih =>
    intro s hs hmeet
    obtain ⟨hnext, hshown⟩ := hstep s label hs hmeet.1
    exact ⟨hshown, ih (step s label) hnext hmeet.2⟩

/-- What every guarded step preserves holds after every guarded run. -/
theorem foldl_invariant (hstep : ∀ s label, inv s → guard s label → inv (step s label)) :
    ∀ (labels : List Label) (s : State), inv s → FoldMeets step guard s labels →
      inv (labels.foldl step s) := by
  intro labels
  induction labels with
  | nil => exact fun s hs _ ↦ hs
  | cons label labels ih =>
    intro s hs hmeet
    exact ih (step s label) (hstep s label hs hmeet.1) hmeet.2

end CratonHsm.Library
