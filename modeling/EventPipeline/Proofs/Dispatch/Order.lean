import Mathlib.Data.List.Forall2
import EventPipeline.Proofs.Dispatch.Course

/-! Every dispatch runs a course.

One lemma for each part of a dispatch: there are deeds that lead from the state before it to the state
after it, and they are in the order that is laid down for the part. The loops are one argument, about
elements that are gone through in turn. -/

namespace EventPipeline

open Json

variable {σ υ α β State : Type}

/-- Deeds that lead from one state to another are put together by what comes first and what comes
then. -/
structure Chains (Span : State → List Deed → State → Prop) : Prop where
  none : ∀ state, Span state [] state
  append : ∀ {first second third deeds more},
    Span first deeds second → Span second more third → Span first (deeds ++ more) third

section Loops

variable {Span : State → List Deed → State → Prop}
  {Part : α → List Deed → Except DispatchError β → α → Prop}

theorem sweep_in_turn (chains : Chains Span) {visit : Action (α × State) DispatchError β}
    {elements : List α}
    (each : ∀ element ∈ elements, ∀ state, ∃ deeds,
      Span state deeds (visit (element, state)).2.2 ∧
        Part element deeds (visit (element, state)).1 (visit (element, state)).2.1)
    (state : State) :
    ∃ deeds, Span state deeds (Action.sweep visit (elements, state)).2.2 ∧
      InTurn Part elements deeds (Action.sweep visit (elements, state)).1
        (Action.sweep visit (elements, state)).2.1 := by
  induction elements generalizing state with
  | nil =>
    simp only [Action.sweep]
    exact ⟨[], chains.none state, .done⟩
  | cons element rest ih =>
    obtain ⟨deeds, led, first⟩ := each element (List.mem_cons_self ..) state
    have visited : ∀ other ∈ rest, ∀ state, ∃ deeds,
        Span state deeds (visit (other, state)).2.2 ∧
          Part other deeds (visit (other, state)).1 (visit (other, state)).2.1 :=
      fun other member => each other (List.mem_cons_of_mem _ member)
    simp only [Action.sweep]
    rcases outcome : visit (element, state) with ⟨error | value, used, after⟩
    · rw [outcome] at led first
      exact ⟨deeds, led, .failed first⟩
    · rw [outcome] at led first
      obtain ⟨more, onward, later⟩ := ih visited after
      exact ⟨deeds ++ more, chains.append led onward, .next first later⟩

theorem forEach_in_turn (chains : Chains Span) {visit : α → Action State DispatchError β}
    (each : ∀ element state, ∃ deeds, Span state deeds (visit element state).2 ∧
      Part element deeds (visit element state).1 element)
    (elements : List α) (state : State) :
    ∃ deeds, Span state deeds (Action.forEach visit elements state).2 ∧
      InTurn Part elements deeds (Action.forEach visit elements state).1 elements := by
  induction elements generalizing state with
  | nil => exact ⟨[], chains.none state, .done⟩
  | cons element rest ih =>
    obtain ⟨deeds, led, first⟩ := each element state
    simp only [Action.forEach, Action.bind]
    rcases outcome : visit element state with ⟨error | value, after⟩
    · rw [outcome] at led first
      exact ⟨deeds, led, .failed first⟩
    · rw [outcome] at led first
      obtain ⟨more, onward, later⟩ := ih after
      refine ⟨deeds ++ more, ?_⟩
      simp only
      revert onward later
      rcases Action.forEach visit rest after with ⟨error | values, last⟩
      · intro onward later
        exact ⟨chains.append led onward, .next first later⟩
      · intro onward later
        exact ⟨chains.append led onward, .next first later⟩

end Loops

section Spans

variable [Inhabited σ] {catalogue : Catalogue σ υ} {event : Event}

theorem Performed.append {first second third : RunState σ υ} {deeds more : List Deed}
    (before : Performed catalogue event first deeds second)
    (after : Performed catalogue event second more third) :
    Performed catalogue event first (deeds ++ more) third := by
  induction before with
  | nothing state => exact after
  | deed leads _ ih => exact .deed leads (ih after)

theorem Performed.single {before after : RunState σ υ} {deed : Deed}
    (leads : deed.Leads catalogue event before after) :
    Performed catalogue event before [deed] after :=
  .deed leads (.nothing after)

theorem Performed.chains : Chains (@Performed σ υ _ catalogue event) := ⟨.nothing, .append⟩

/-- Deeds that leave the context of a run alone. -/
def Aside (catalogue : Catalogue σ υ) (event : Event) (before : World σ υ) (deeds : List Deed)
    (after : World σ υ) : Prop :=
  ∀ context, Performed catalogue event ⟨before, context⟩ deeds ⟨after, context⟩

/-- Deeds that any context may stand behind when they begin; they may leave another one. -/
def Across (catalogue : Catalogue σ υ) (event : Event) (before : World σ υ) (deeds : List Deed)
    (after : World σ υ) : Prop :=
  ∀ context, ∃ last, Performed catalogue event ⟨before, context⟩ deeds ⟨after, last⟩

theorem Aside.chains : Chains (Aside catalogue event) where
  none world context := .nothing ⟨world, context⟩
  append first later context := (first context).append (later context)

theorem Across.chains : Chains (Across catalogue event) where
  none world context := ⟨context, .nothing ⟨world, context⟩⟩
  append first later context := by
    obtain ⟨between, led⟩ := first context
    obtain ⟨last, onward⟩ := later between
    exact ⟨last, led.append onward⟩

end Spans

/-! ### Filters -/

theorem Asking.cons {filters : List InstanceId} {deeds : List Deed}
    {result : Except DispatchError Bool} (asking : Asking filters deeds result)
    (filter : InstanceId) : Asking (filter :: filters) (.refusal filter :: deeds) result := by
  cases asking with
  | accepted refusing accepting unasked => exact .accepted (filter :: refusing) accepting unasked
  | refused => exact .refused (filter :: filters)
  | failed refusing failing unasked cause =>
    exact .failed (filter :: refusing) failing unasked cause

section Matching

variable [Inhabited σ] (catalogue : Catalogue σ υ) (event : Event)

theorem anyAccepts_asks (filters : List InstanceId) (world : World σ υ) :
    ∃ deeds, Aside catalogue event world deeds (anyAccepts catalogue event filters world).2 ∧
      Asking filters deeds (anyAccepts catalogue event filters world).1 := by
  induction filters generalizing world with
  | nil => exact ⟨[], Aside.chains.none world, .refused []⟩
  | cons filter rest ih =>
    have asked : Aside catalogue event world [.asked filter (accepts catalogue filter event world).1]
        (accepts catalogue filter event world).2 :=
      fun context => .single rfl
    simp only [anyAccepts, Action.bind, Action.mapError]
    rcases answered : accepts catalogue filter event world with ⟨cause | accepted, after⟩
    · rw [answered] at asked
      exact ⟨_, asked, .failed [] filter rest cause⟩
    · rw [answered] at asked
      cases accepted with
      | true => exact ⟨_, asked, .accepted [] filter rest⟩
      | false =>
        obtain ⟨deeds, onward, asking⟩ := ih after
        exact ⟨_, Aside.chains.append asked onward, asking.cons filter⟩

theorem allAccept_matches (entries : List (OneOrMany InstanceId)) (world : World σ υ) :
    ∃ deeds, Aside catalogue event world deeds (allAccept catalogue event entries world).2 ∧
      Matching entries deeds (allAccept catalogue event entries world).1 := by
  induction entries generalizing world with
  | nil => exact ⟨[], Aside.chains.none world, .matched⟩
  | cons entry rest ih =>
    obtain ⟨deeds, led, asking⟩ := anyAccepts_asks catalogue event entry.toList world
    simp only [allAccept, Action.bind]
    rcases answered : anyAccepts catalogue event entry.toList world with ⟨error | accepted, after⟩
    · rw [answered] at led asking
      exact ⟨deeds, led, .failed asking⟩
    · rw [answered] at led asking
      cases accepted with
      | true =>
        obtain ⟨more, onward, later⟩ := ih after
        exact ⟨deeds ++ more, Aside.chains.append led onward, .accepted asking later⟩
      | false => exact ⟨deeds, led, .unmatched asking⟩

end Matching

end EventPipeline
