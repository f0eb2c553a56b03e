import Mathlib.Data.List.Forall2
import EventPipeline.Dispatcher

/-! What actions leave in force.

A property is kept when it still holds after the action, however it ends. A loop keeps what its body
keeps, and what is true of each of its results lasts to the end when the body leaves it so. -/

namespace EventPipeline

variable {State Error Other α β γ : Type}

namespace Action

/-- However it ends, the action leaves a property in force. -/
def Keeps (Holds : State → Prop) (action : Action State Error α) : Prop :=
  ∀ state, Holds state → Holds (action state).2

variable {Holds : State → Prop}

theorem Keeps.pure (value : α) : Keeps Holds (Action.pure value : Action State Error α) :=
  fun _ holds => holds

theorem Keeps.bind {first : Action State Error α} {next : α → Action State Error β}
    (before : Keeps Holds first) (after : ∀ value, Keeps Holds (next value)) :
    Keeps Holds (Action.bind first next) := by
  intro state holds
  have between := before state holds
  unfold Action.bind
  revert between
  rcases first state with ⟨error | value, reached⟩
  · exact fun between => between
  · exact fun between => after value reached between

theorem Keeps.mapError {action : Action State Error α} (kept : Keeps Holds action)
    (wrap : Error → Other) : Keeps Holds (Action.mapError wrap action) :=
  fun state holds => kept state holds

theorem Keeps.forEach {visit : α → Action State Error β} (kept : ∀ element, Keeps Holds (visit element))
    (elements : List α) : Keeps Holds (Action.forEach visit elements) := by
  induction elements with
  | nil => exact Keeps.pure []
  | cons element rest ih =>
    exact (kept element).bind fun value => ih.bind fun values => Keeps.pure (value :: values)

/-- Where a property holds, the action leaves a relation in force as well. -/
def Lasts (Holds : State → Prop) (R : State → α → β → Prop) (action : Action State Error γ) : Prop :=
  ∀ a b, Keeps (fun state => Holds state ∧ R state a b) action

theorem Lasts.all {R : State → α → β → Prop} {action : Action State Error γ}
    (lasting : Lasts Holds R action) (kept : Keeps Holds action) :
    Lasts Holds (fun state => List.Forall₂ (R state)) action := by
  intro left right state ⟨holds, paired⟩
  exact ⟨kept state holds, paired.imp fun a b related => (lasting a b state ⟨holds, related⟩).2⟩

theorem of_bind_ok {first : Action State Error α} {next : α → Action State Error β} {state last : State}
    {result : β} (ran : Action.bind first next state = (.ok result, last)) :
    ∃ value between, first state = (.ok value, between) ∧ next value between = (.ok result, last) := by
  unfold Action.bind at ran
  split at ran
  · next value between same => exact ⟨value, between, same, ran⟩
  · cases ran

theorem of_mapError_ok {action : Action State Error α} {wrap : Error → Other} {state last : State}
    {result : α} (ran : Action.mapError wrap action state = (.ok result, last)) :
    action state = (.ok result, last) := by
  unfold Action.mapError at ran
  revert ran
  rcases action state with ⟨error | value, after⟩
  · intro ran
    cases ran
  · intro ran
    cases ran
    rfl

theorem of_bind_error {first : Action State Error α} {next : α → Action State Error β}
    {state last : State} {error : Error} (ran : Action.bind first next state = (.error error, last)) :
    first state = (.error error, last) ∨
      ∃ value between, first state = (.ok value, between) ∧ next value between = (.error error, last) := by
  unfold Action.bind at ran
  split at ran
  · next value between same => exact .inr ⟨value, between, same, ran⟩
  · next found between same =>
    cases ran
    exact .inl same

theorem of_mapError_error {action : Action State Error α} {wrap : Error → Other} {state last : State}
    {error : Other} (ran : Action.mapError wrap action state = (.error error, last)) :
    ∃ cause, error = wrap cause ∧ action state = (.error cause, last) := by
  unfold Action.mapError at ran
  revert ran
  rcases action state with ⟨cause | value, after⟩
  · intro ran
    cases ran
    exact ⟨cause, rfl, rfl⟩
  · intro ran
    cases ran

theorem forEach_related {visit : α → Action State Error β} {R : State → α → β → Prop}
    (kept : ∀ element, Keeps Holds (visit element))
    (made : ∀ element state value after, Holds state → visit element state = (.ok value, after) →
      R after element value)
    (lasting : ∀ element, Lasts Holds R (visit element))
    {elements : List α} {state last : State} {values : List β} (holds : Holds state)
    (ran : Action.forEach visit elements state = (.ok values, last)) :
    List.Forall₂ (R last) elements values := by
  induction elements generalizing state values with
  | nil =>
    cases ran
    exact .nil
  | cons element rest ih =>
    obtain ⟨value, between, first, later⟩ := of_bind_ok ran
    obtain ⟨others, reached, second, done⟩ := of_bind_ok later
    cases done
    have holding : Holds between := by
      have after := kept element state holds
      rwa [first] at after
    have still := Keeps.forEach (fun other => lasting other element value) rest between
      ⟨holding, made element state value between holds first⟩
    rw [second] at still
    exact .cons still.2 (ih holding second)

theorem forEach_paired {visit : α → Action State Error β} {R : α → β → Prop}
    (made : ∀ element state value after, visit element state = (.ok value, after) → R element value)
    {elements : List α} {state last : State} {values : List β}
    (ran : Action.forEach visit elements state = (.ok values, last)) :
    List.Forall₂ R elements values :=
  @forEach_related State Error α β (fun _ => True) visit (fun _ => R) (fun _ _ _ => trivial)
    (fun element state value after _ => made element state value after)
    (fun _ _ _ _ holds => holds) elements state last values trivial ran

end Action

end EventPipeline
