import Mathlib.Data.List.Forall2
import EventPipeline.Dispatcher

/-! Two runs side by side.

Two actions are twins when they come out alike from related states and leave related states behind. What
is put together of twins in the same way are twins, and so are loops over lists whose elements
correspond, also where the elements are swept next to the state. -/

namespace EventPipeline

variable {State Other Inner Outer Error Wrapped α β γ : Type}

namespace Action

/-- From related states, both actions have one outcome and leave related states. -/
def Twin (R : State → Other → Prop) (first : Action State Error γ) (second : Action Other Error γ) :
    Prop :=
  ∀ state other, R state other → ∃ outcome after behind,
    first state = (outcome, after) ∧ second other = (outcome, behind) ∧ R after behind

variable {R : State → Other → Prop}

theorem Twin.outcome_eq {first : Action State Error γ} {second : Action Other Error γ}
    (twin : Twin R first second) {state : State} {other : Other} (related : R state other) :
    (first state).1 = (second other).1 := by
  obtain ⟨outcome, after, behind, ran, reran, _⟩ := twin state other related
  rw [ran, reran]

theorem Twin.related {first : Action State Error γ} {second : Action Other Error γ}
    (twin : Twin R first second) {state : State} {other : Other} (related : R state other) :
    R (first state).2 (second other).2 := by
  obtain ⟨outcome, after, behind, ran, reran, still⟩ := twin state other related
  rw [ran, reran]
  exact still

theorem Twin.of_eq {first : Action State Error γ} {second : Action Other Error γ}
    (each : ∀ state other, R state other →
      (first state).1 = (second other).1 ∧ R (first state).2 (second other).2) : Twin R first second :=
  fun state other related =>
    have alike := each state other related
    ⟨(first state).1, (first state).2, (second other).2, rfl, Prod.ext alike.1.symm rfl, alike.2⟩

theorem Twin.pure (value : γ) :
    Twin R (Action.pure value : Action State Error γ) (Action.pure value) :=
  fun state other related => ⟨.ok value, state, other, rfl, rfl, related⟩

theorem Twin.bind {first : Action State Error α} {second : Action Other Error α}
    {next : α → Action State Error γ} {later : α → Action Other Error γ}
    (before : Twin R first second) (after : ∀ value, Twin R (next value) (later value)) :
    Twin R (Action.bind first next) (Action.bind second later) := by
  intro state other related
  obtain ⟨outcome, between, beside, ran, reran, still⟩ := before state other related
  simp only [Action.bind, ran, reran]
  cases outcome with
  | error error => exact ⟨.error error, between, beside, rfl, rfl, still⟩
  | ok value => exact after value between beside still

theorem Twin.mapError {first : Action State Error γ} {second : Action Other Error γ}
    (twin : Twin R first second) (wrap : Error → Wrapped) :
    Twin R (Action.mapError wrap first) (Action.mapError wrap second) := by
  intro state other related
  obtain ⟨outcome, after, behind, ran, reran, still⟩ := twin state other related
  simp only [mapError_apply, ran, reran]
  exact ⟨_, after, behind, rfl, rfl, still⟩

theorem Twin.forEach {A : α → β → Prop} {visit : α → Action State Error γ}
    {revisit : β → Action Other Error γ}
    (each : ∀ one other, A one other → Twin R (visit one) (revisit other))
    {elements : List α} {others : List β} (paired : List.Forall₂ A elements others) :
    Twin R (Action.forEach visit elements) (Action.forEach revisit others) := by
  induction paired with
  | nil => exact Twin.pure []
  | cons alike _ ih =>
    exact (each _ _ alike).bind fun value => ih.bind fun values => Twin.pure (value :: values)

inductive Beside (R : State → Other → Prop) (element : α) (twin : β) : α × State → β × Other → Prop where
  | both {state : State} {other : Other} (related : R state other) :
      Beside R element twin (element, state) (twin, other)

theorem Twin.sweep {A : α → β → Prop} {visit : Action (α × State) Error γ}
    {revisit : Action (β × Other) Error γ}
    (each : ∀ one other, A one other → Twin (Beside R one other) visit revisit)
    {elements : List α} {others : List β} (paired : List.Forall₂ A elements others) :
    Twin (Beside R elements others) (Action.sweep visit) (Action.sweep revisit) := by
  induction paired with
  | nil =>
    rintro _ _ ⟨related⟩
    simp only [Action.sweep]
    exact ⟨.ok [], _, _, rfl, rfl, .both related⟩
  | cons alike _ ih =>
    rintro _ _ ⟨related⟩
    obtain ⟨outcome, _, _, ran, reran, ⟨still⟩⟩ := each _ _ alike _ _ (.both related)
    simp only [Action.sweep, ran, reran]
    cases outcome with
    | error error => exact ⟨.error error, _, _, rfl, rfl, .both still⟩
    | ok value =>
      obtain ⟨values, _, _, swept, reswept, ⟨final⟩⟩ := ih _ _ (.both still)
      simp only [swept, reswept]
      exact ⟨_, _, _, rfl, rfl, .both final⟩

end Action

def RunState.Paired {σ υ : Type} (R : World σ υ → World σ υ → Prop) (C : RunContext → RunContext → Prop)
    (run other : RunState σ υ) : Prop :=
  R run.world other.world ∧ C run.context other.context

theorem RunState.onWorld_twin {σ υ : Type} {R : World σ υ → World σ υ → Prop}
    {C : RunContext → RunContext → Prop} {first second : Action (World σ υ) Error γ}
    (twin : Action.Twin R first second) :
    Action.Twin (RunState.Paired R C) (RunState.onWorld first) (RunState.onWorld second) := by
  rintro run other ⟨worlds, contexts⟩
  obtain ⟨outcome, after, behind, ran, reran, still⟩ := twin run.world other.world worlds
  simp only [RunState.onWorld, Action.within_apply, ran, reran]
  exact ⟨outcome, _, _, rfl, rfl, still, contexts⟩

end EventPipeline
