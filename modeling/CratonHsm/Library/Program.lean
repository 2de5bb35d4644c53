import Mathlib.Data.List.Forall2
import Mathlib.Logic.Basic

/-!
# Programs that leave a state behind

A program reads and changes a state and then answers or fails, and the state it leaves behind
survives a failure: nothing is rolled back. This is the shape of an imperative function with early
returns over shared state. Programs are a monad; `require`, `reads` and `update` are the basic
steps, with one lemma each for what follows them (`require_bind`, `reads_bind`, `update_bind`).

`Ensures` says what the answer of a run and the state it leaves have in common. Its rules walk down
a program: what the failures on the way leave is dealt with at each step, and the facts that let the
program go on are at hand in what follows. `Keeps` speaks of a part of the state that no run
changes, `FailsWith` of the failures alone, in whatever state, and `Answers` of the answer of a
computation without state.
-/

set_option autoImplicit false

namespace CratonHsm.Library

variable {condition : Prop}

/-- A program over a state. -/
def Program (State Error Result : Type) : Type := State → Except Error Result × State

namespace Program

variable {State Error Result Result' : Type}

/-- What follows an answer; a failure ends the program. -/
def andThen (x : Program State Error Result) (f : Result → Program State Error Result') :
    Program State Error Result' := fun s ↦
  match x s with
  | (.ok a, s') => f a s'
  | (.error e, s') => (.error e, s')

instance : Monad (Program State Error) where
  pure a := fun s ↦ (.ok a, s)
  bind := andThen

/-- Fail without a change. -/
def fail (e : Error) : Program State Error Result := fun s ↦ (.error e, s)

/-- Go on if the condition holds. -/
def require (condition : Prop) [Decidable condition] (e : Error) : Program State Error Unit :=
  fun s ↦ (if condition then .ok () else .error e, s)

/-- Answer from the state, without a change. -/
def reads (f : State → Except Error Result) : Program State Error Result := fun s ↦ (f s, s)

/-- Answer from the state, which cannot fail. -/
def view (f : State → Result) : Program State Error Result := fun s ↦ (.ok (f s), s)

/-- Change the state. -/
def update (f : State → State) : Program State Error Unit := fun s ↦ (.ok (), f s)

/-! ### What follows a basic step -/

variable (s : State)

@[simp]
theorem pure_apply (a : Result) : (pure a : Program State Error Result) s = (.ok a, s) := rfl

@[simp]
theorem fail_apply (e : Error) : (fail e : Program State Error Result) s = (.error e, s) := rfl

@[simp]
theorem update_apply (f : State → State) :
    (update f : Program State Error Unit) s = (.ok (), f s) := rfl

@[simp]
theorem reads_apply (f : State → Except Error Result) : reads f s = (f s, s) := rfl

variable (x : Program State Error Result)

theorem bind_apply (f : Result → Program State Error Result') : (x >>= f) s =
      match x s with
      | (.ok a, s') => f a s'
      | (.error e, s') => (.error e, s') := rfl

theorem bind_assoc {Result'' : Type} (f : Result → Program State Error Result')
    (g : Result' → Program State Error Result'') : x >>= f >>= g = x >>= fun a ↦ f a >>= g := by
  funext s
  simp only [bind_apply]
  rcases x s with ⟨e | a, s'⟩ <;> rfl

@[simp]
theorem pure_bind (a : Result) (f : Result → Program State Error Result') :
    ((pure a : Program State Error Result) >>= f) s = f a s := rfl

@[simp]
theorem update_bind (g : State → State) (f : Unit → Program State Error Result') :
    ((update g : Program State Error Unit) >>= f) s = f () (g s) := rfl

@[simp]
theorem view_bind (g : State → Result) (f : Result → Program State Error Result') :
    ((view g : Program State Error Result) >>= f) s = f (g s) s := rfl

@[simp]
theorem require_bind (condition : Prop) [Decidable condition] (e : Error)
    (f : Unit → Program State Error Result') :
    (require condition e >>= f) s = if condition then f () s else (.error e, s) := by
  by_cases h : condition <;> simp [bind_apply, require, h]

theorem reads_bind (g : State → Except Error Result) (f : Result → Program State Error Result') :
    (reads g >>= f) s =
      match g s with
      | .ok a => f a s
      | .error e => (.error e, s) := by
  rw [bind_apply, reads_apply]
  cases g s <;> rfl

/-! ### What a program ensures -/

/-- Run from `s`, the program gives an answer and leaves a state that are related by `Q`. -/
def Ensures (s : State) (Q : Except Error Result → State → Prop) : Prop :=
  Q (x s).1 (x s).2

section Ensures

variable {s : State} {x : Program State Error Result} {f : Result → Program State Error Result'}
  {Q : Except Error Result' → State → Prop} {P : Except Error Result → State → Prop}

theorem Ensures.bind (hx : x.Ensures s P) (hstop : ∀ e s', P (.error e) s' → Q (.error e) s')
    (hgo : ∀ a s', P (.ok a) s' → (f a).Ensures s' Q) : (x >>= f).Ensures s Q := by
  unfold Ensures at hx ⊢
  rw [bind_apply]
  rcases hrun : x s with ⟨e | a, s'⟩
  · rw [hrun] at hx
    exact hstop e s' hx
  · rw [hrun] at hx
    exact hgo a s' hx

theorem Ensures.mono {P' : Except Error Result → State → Prop} (hx : x.Ensures s P)
    (h : ∀ result s', P result s' → P' result s') : x.Ensures s P' := h _ _ hx

@[simp]
theorem ensures_pure {a : Result'} :
    (pure a : Program State Error Result').Ensures s Q ↔ Q (.ok a) s := Iff.rfl

variable {e : Error} {g : Unit → Program State Error Result'}

@[simp]
theorem ensures_require_iff [Decidable condition] : (require condition e >>= g).Ensures s Q ↔
      (¬condition → Q (.error e) s) ∧ (condition → (g ()).Ensures s Q) := by
  by_cases h : condition <;> simp [Ensures, h]

theorem ensures_require [Decidable condition] (hstop : Q (.error e) s)
    (hgo : condition → (g ()).Ensures s Q) : (require condition e >>= g).Ensures s Q :=
  ensures_require_iff.mpr ⟨fun _ ↦ hstop, hgo⟩

@[simp]
theorem ensures_reads_iff {g : State → Except Error Result} : (reads g >>= f).Ensures s Q ↔
    (∀ e, g s = .error e → Q (.error e) s) ∧ ∀ a, g s = .ok a → (f a).Ensures s Q := by
  cases h : g s <;> simp [Ensures, reads_bind, h]

theorem ensures_reads {g : State → Except Error Result} (hstop : ∀ e, Q (.error e) s)
    (hgo : ∀ a, g s = .ok a → (f a).Ensures s Q) : (reads g >>= f).Ensures s Q :=
  ensures_reads_iff.mpr ⟨fun e _ ↦ hstop e, hgo⟩

@[simp]
theorem ensures_view {g : State → Result} :
    (view g >>= f).Ensures s Q ↔ (f (g s)).Ensures s Q := Iff.rfl

@[simp]
theorem ensures_update {g : State → State} {next : Unit → Program State Error Result'} :
    (update g >>= next).Ensures s Q ↔ (next ()).Ensures (g s) Q := Iff.rfl

end Ensures

/-! ### What a program leaves alone -/

/-- No run of the program changes what `look` shows of the state. -/
def Keeps {View : Type} (look : State → View) (x : Program State Error Result) : Prop :=
  ∀ s, look (x s).2 = look s

section Keeps

variable {View : Type} {look : State → View} {x : Program State Error Result}
  {f : Result → Program State Error Result'}

theorem Keeps.bind (hx : x.Keeps look) (hf : ∀ a, (f a).Keeps look) : (x >>= f).Keeps look :=
  fun s ↦ Ensures.bind (P := fun _ s' ↦ look s' = look s) (Q := fun _ s' ↦ look s' = look s) (hx s)
    (fun _ _ h ↦ h) fun a s' h ↦ (hf a s').trans h

theorem keeps_pure {a : Result} : (pure a : Program State Error Result).Keeps look := fun _ ↦ rfl

theorem keeps_fail {e : Error} : (fail e : Program State Error Result).Keeps look := fun _ ↦ rfl

theorem keeps_require [Decidable condition] {e : Error} :
    (require condition e : Program State Error Unit).Keeps look := fun _ ↦ rfl

theorem keeps_reads {g : State → Except Error Result} : (reads g).Keeps look := fun _ ↦ rfl

theorem keeps_view {g : State → Result} : (view g : Program State Error Result).Keeps look :=
  fun _ ↦ rfl

theorem keeps_update {g : State → State} (h : ∀ s, look (g s) = look s) :
    (update g : Program State Error Unit).Keeps look := h

end Keeps

/-! ### How a program fails -/

/-- The error, if there is one, satisfies `P`. -/
def Errors {Error Result : Type} (P : Error → Prop) (x : Except Error Result) : Prop :=
  ∀ e, x = .error e → P e

/-- Every failure of the program, in whatever state, satisfies `P`. -/
def FailsWith (P : Error → Prop) (x : Program State Error Result) : Prop :=
  ∀ s, Errors P (x s).1

section FailsWith

variable {P : Error → Prop} {x : Program State Error Result}
  {f : Result → Program State Error Result'}

@[simp]
theorem errors_ok (a : Result) : Errors P (.ok a : Except Error Result) := fun _ h ↦ by cases h

theorem errors_error {e : Error} (he : P e) : Errors P (.error e : Except Error Result) :=
  fun _ h ↦ Except.error.inj h ▸ he

theorem Errors.bind {x : Except Error Result} {g : Result → Except Error Result'} (hx : Errors P x)
    (hg : ∀ a, Errors P (g a)) : Errors P (x >>= g) := by
  cases x with
  | error e => exact errors_error (hx e rfl)
  | ok a => exact hg a

@[simp]
theorem errors_elim {field : Option Result} {e : Error} (he : P e) :
    Errors P (field.elim (.error e) .ok : Except Error Result) := by
  cases field with
  | none => exact errors_error he
  | some a => exact errors_ok a

@[simp]
theorem failsWith_pure (a : Result) : FailsWith P (pure a : Program State Error Result) :=
  fun _ ↦ errors_ok a

theorem FailsWith.bind (hx : x.FailsWith P) (hf : ∀ a, (f a).FailsWith P) :
    (x >>= f).FailsWith P :=
  fun s ↦ Ensures.bind (P := fun answer _ ↦ Errors P answer) (Q := fun answer _ ↦ Errors P answer)
    (hx s) (fun e _ h ↦ errors_error (h e rfl)) fun a s' _ ↦ hf a s'

@[simp]
theorem failsWith_require [Decidable condition] {e : Error} (he : P e) :
    FailsWith P (require condition e : Program State Error Unit) := by
  intro s
  unfold require
  by_cases hcondition : condition
  · simpa only [if_pos hcondition] using errors_ok ()
  · simpa only [if_neg hcondition] using errors_error he

@[simp]
theorem failsWith_reads {g : State → Except Error Result} (h : ∀ s, Errors P (g s)) :
    FailsWith P (reads g) := h

@[simp]
theorem failsWith_view (g : State → Result) :
    FailsWith P (view g : Program State Error Result) := fun s ↦ errors_ok (g s)

@[simp]
theorem failsWith_update (g : State → State) :
    FailsWith P (update g : Program State Error Unit) := fun _ ↦ errors_ok ()

end FailsWith

/-! ### Programs one after the other -/

/-- The answers of programs that run one after the other. -/
def replies : List (Program State Error Result) → State → List (Except Error Result)
  | [], _ => []
  | x :: xs, s => (x s).1 :: replies xs (x s).2

section Labelled

variable {Label : Type} {f : Label → Program State Error Result}
  {R : Label → Except Error Result → Prop}

theorem exists_mem_of_forall₂ {α β : Type} {R : α → β → Prop} {xs : List α} {ys : List β}
    (h : List.Forall₂ R xs ys) {x : α} (hx : x ∈ xs) : ∃ y ∈ ys, R x y := by
  induction h with
  | nil => cases hx
  | cons hhead _ ih => grind

theorem forall₂_replies (h : ∀ label s, R label (f label s).1) (labels : List Label) (s : State) :
    List.Forall₂ R labels (replies (labels.map f) s) := by
  induction labels generalizing s with
  | nil => exact .nil
  | cons label labels ih => exact .cons (h label s) (ih _)

/-- Programs of which some are counted: where each keeps an invariant, as long as its answer is as
given, they all do, and every answer is as the invariant shows it. -/
theorem replies_invariant {p : Label → Bool} {n : Nat} {I : Nat → State → Prop}
    {G : Label → Except Error Result → Prop} {labels : List Label}
    (hstep : ∀ label ∈ labels, ∀ k s, k + (p label).toNat ≤ n → I k s → G label (f label s).1 →
      R label (f label s).1 ∧ I (k + (p label).toNat) (f label s).2) {k : Nat} {s : State}
    (hlimit : k + labels.countP p ≤ n) (hinv : I k s)
    (hgiven : List.Forall₂ G labels (replies (labels.map f) s)) :
    List.Forall₂ R labels (replies (labels.map f) s) ∧
      I (k + labels.countP p) (labels.foldl (fun s label ↦ (f label s).2) s) := by
  induction labels generalizing k s with
  | nil => exact ⟨.nil, hinv⟩
  | cons label labels ih =>
    have hcount : (label :: labels).countP p = (p label).toNat + labels.countP p := by
      cases hlabel : p label <;> simp [hlabel, Nat.add_comm]
    rw [hcount, ← Nat.add_assoc] at hlimit ⊢
    obtain ⟨hanswer, hrest⟩ := List.forall₂_cons.mp hgiven
    obtain ⟨hshown, hinv⟩ := hstep label List.mem_cons_self k s (by omega) hinv hanswer
    obtain ⟨hlater, hend⟩ := ih (fun other hother ↦ hstep other (List.mem_cons_of_mem _ hother))
      hlimit hinv hrest
    exact ⟨.cons hshown hlater, hend⟩

end Labelled

/-- States that no program tells apart, and that stay so up to the last program, give the same
answers. -/
theorem replies_concat_eq_of_simulates {R : State → State → Prop}
    {xs : List (Program State Error Result)} {last : Program State Error Result}
    (hstep : ∀ x ∈ xs, ∀ s t, R s t → (x s).1 = (x t).1 ∧ R (x s).2 (x t).2)
    (hlast : ∀ s t, R s t → (last s).1 = (last t).1) {s t : State} (h : R s t) :
    replies (xs ++ [last]) s = replies (xs ++ [last]) t := by
  induction xs generalizing s t with
  | nil => rw [List.nil_append, replies, replies, hlast s t h, replies, replies]
  | cons x xs ih =>
    obtain ⟨hanswer, hnext⟩ := hstep x List.mem_cons_self s t h
    rw [List.cons_append, replies, replies, hanswer,
      ih (fun y hy ↦ hstep y (List.mem_cons_of_mem x hy)) hnext]

end Program

/-! ### What an answer satisfies -/

/-- The answer, if there is one, satisfies `P`. -/
def Answers {Error Result : Type} (P : Result → Prop) : Except Error Result → Prop
  | .ok a => P a
  | .error _ => True

section Answers

variable {Error State Label Result Result' : Type} {P : Result → Prop} {x : Except Error Result}

@[simp]
theorem answers_ok {a : Result} :
    Answers P (.ok a : Except Error Result) ↔ P a := Iff.rfl

@[simp]
theorem answers_error {e : Error} :
    Answers P (.error e : Except Error Result) := trivial

theorem Answers.of_eq_ok {a : Result} (h : Answers P x) (hx : x = .ok a) : P a := by
  rw [hx] at h
  exact h

theorem Answers.mono {Q : Result → Prop} (h : Answers P x) (hPQ : ∀ a, P a → Q a) :
    Answers Q x := by
  cases x with
  | error e => trivial
  | ok a => exact hPQ a h

theorem answers_bind {P : Result' → Prop} {f : Result → Except Error Result'}
    (h : ∀ a, x = .ok a → Answers P (f a)) :
    Answers P (x >>= f) := by
  cases x with
  | error e => trivial
  | ok a => exact h a rfl

theorem answers_bind_pure {P : Result' → Prop} {f : Result → Result'}
    (h : ∀ a, x = .ok a → P (f a)) : Answers P (x >>= fun a ↦ pure (f a)) :=
  answers_bind h

theorem answers_orElse {y : Except Error Result} (hx : Answers P x) (hy : Answers P y) :
    Answers P (x <|> y) := by
  cases x with
  | ok a => exact hx
  | error e => exact hy

/-- A loop that may fail, next to one that does not: what their steps keep, they keep. -/
theorem answers_foldlM {Shadow : Type} {P : Shadow → State → Prop}
    {step : State → Label → Except Error State} (next : Shadow → Label → Shadow)
    (hstep : ∀ shadow s label, P shadow s → Answers (P (next shadow label)) (step s label)) :
    ∀ (labels : List Label) (shadow : Shadow) {s : State}, P shadow s →
      Answers (P (labels.foldl next shadow)) (labels.foldlM step s)
  | [], _, _, h => h
  | label :: labels, shadow, s, h => by
    rw [List.foldlM_cons, List.foldl_cons]
    cases hlabel : step s label with
    | error e => trivial
    | ok s' => exact answers_foldlM next hstep labels _ ((hstep shadow s label h).of_eq_ok hlabel)

end Answers

end CratonHsm.Library
