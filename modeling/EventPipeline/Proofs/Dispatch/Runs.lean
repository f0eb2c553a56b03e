import EventPipeline.Proofs.Dispatch.Slots

/-! Steps, pipelines and dispatches in their courses. -/

namespace EventPipeline

open Json

variable {σ υ : Type}

section Steps

variable [Inhabited σ] (catalogue : Catalogue σ υ) (event : Event)

/-- Using a unit changes nothing of it but what it has obtained. -/
theorem ActivationUnit.fresh_obtain (unit : ActivationUnit) (world : World σ υ) :
    (ActivationUnit.obtain catalogue (unit, world)).2.1.fresh = unit.fresh := by
  simp only [ActivationUnit.obtain]
  split
  · split
    · rfl
    · split
      · rfl
      · rfl
  · rfl

omit catalogue event [Inhabited σ] in
theorem Step.lookup_reached (step : Step) {index : Nat} (small : index < UInt64.size)
    (below : index < step.document.arity.toNat) :
    step.reached.lookup (UInt64.ofNat index) =
      step.extractors.get? (UInt64.ofNat index) := by
  have kept : decide ((UInt64.ofNat index).toNat < step.document.arity.toNat) = true := by
    rw [UInt64.toNat_ofNat_of_lt' small]
    exact decide_eq_true below
  exact @OrderedMap.lookup_filter _ _ _ (fun key => decide (key.toNat < step.document.arity.toNat))
    _ kept step.extractors.entries

theorem Step.slots_fill (step : Step) (world : World σ υ) :
    ∃ deeds result, Aside catalogue event world deeds (step.slots catalogue event world).2 ∧
      InTurn Filling step.reached deeds result step.reached ∧
      (step.slots catalogue event world).1 =
        result.map (Slots.place step.document.arity.toNat) := by
  have inside : ∀ key ∈ step.reached.map (·.1),
      0 ≤ key.toNat ∧ key.toNat < 0 + step.document.arity.toNat := by
    intro key member
    obtain ⟨entry, among, rfl⟩ := List.mem_map.mp member
    have below := of_decide_eq_true (List.mem_filter.mp among).2
    omega
  have small : 0 + step.document.arity.toNat ≤ UInt64.size := by
    have word := step.document.arity.toNat_lt
    rw [Nat.zero_add]
    exact Nat.le_of_lt word
  have same : step.slots catalogue event =
      slotsFrom catalogue event step.reached 0 step.document.arity.toNat := by
    unfold Step.slots slotsFrom
    rw [List.range_eq_range']
    apply forEach_congr
    intro index member
    have bounds := List.mem_range'_1.mp member
    rw [Step.lookup_reached step (by omega) (by omega)]
  have placed : Slots.place step.document.arity.toNat =
      fun values => placeFrom values 0 step.document.arity.toNat := by
    funext values
    unfold Slots.place placeFrom
    rw [List.range_eq_range']
  rw [same, placed]
  exact slotsFrom_fill catalogue event (step.extractors.ordered.filter _) inside small world

theorem Step.activate_courses (slots : Slots) (step : Step) (run : RunState σ υ) :
    ∃ deeds, Performed catalogue event run deeds (Step.activate catalogue slots (step, run)).2.2 ∧
      Activation slots step deeds (Step.activate catalogue slots (step, run)).1
        (Step.activate catalogue slots (step, run)).2.1 := by
  simp only [Step.activate, ActivationUnit.activateWithin]
  rcases timed : cutoffOf run.context.deadline run.world.clock with ⟨cutoff, clock⟩
  have reading : Performed catalogue event run [.timed cutoff] (run.changeClock clock) :=
    .single ⟨clock, timed, rfl⟩
  have alike := ActivationUnit.fresh_obtain catalogue step.document.activation
    (run.changeClock clock).world
  revert alike
  rcases held : ActivationUnit.obtain catalogue
    (step.document.activation, (run.changeClock clock).world) with ⟨error | target, used, world⟩
  · intro alike
    have obtaining : Performed catalogue event (run.changeClock clock)
        [.obtained step.document.activation (.error error) used]
        { run.changeClock clock with world } := .single ⟨world, held, rfl⟩
    exact ⟨_, reading.append obtaining, .unobtained cutoff error alike⟩
  · intro alike
    have obtaining : Performed catalogue event (run.changeClock clock)
        [.obtained step.document.activation (.ok target) used]
        { run.changeClock clock with world } := .single ⟨world, held, rfl⟩
    have method : used.fresh.method = step.document.activation.fresh.method :=
      congrArg ActivationUnit.method alike
    simp only [ActivationUnit.fresh] at method
    simp only [method]
    rcases ran : invokeWithin catalogue cutoff target step.document.activation.method slots
      { run.changeClock clock with world } with ⟨answer, after⟩
    have invoking : Performed catalogue event { run.changeClock clock with world }
        [.invoked step.document target slots cutoff answer] after := .single ran
    have performed := reading.append (obtaining.append invoking)
    rcases answer with error | error | value
    · exact ⟨_, performed, .cutOff cutoff target error alike⟩
    · exact ⟨_, performed, .failed cutoff target error alike⟩
    · exact ⟨_, performed, .returned cutoff target value alike⟩

theorem Step.run_courses (step : Step) (run : RunState σ υ) :
    ∃ deeds, Performed catalogue event run deeds (Step.run catalogue event (step, run)).2.2 ∧
      StepCourse step deeds (Step.run catalogue event (step, run)).1
        (Step.run catalogue event (step, run)).2.1 := by
  obtain ⟨deeds, result, aside, extraction, slots⟩ :=
    step.slots_fill catalogue event run.world
  have led := aside run.context
  simp only [Step.run, RunState.onWorld, Action.within_apply, slots]
  cases result with
  | error error => exact ⟨deeds, led, .unextracted extraction⟩
  | ok values =>
    obtain ⟨more, onward, activation⟩ := Step.activate_courses catalogue event
      (.place step.document.arity.toNat values) step
      { run with world := (step.slots catalogue event run.world).2 }
    simp only [Except.map]
    revert onward activation
    rcases Step.activate catalogue (.place step.document.arity.toNat values)
      (step, { run with world := (step.slots catalogue event run.world).2 }) with
      ⟨error | value, used, later⟩
    · intro onward activation
      exact ⟨deeds ++ more, led.append onward, .failed extraction activation⟩
    · intro onward activation
      have checks : Performed catalogue event later [.checked (checkDeadline later).1]
          (checkDeadline later).2 := .single rfl
      have course := StepCourse.checked (checkDeadline later).1 extraction activation
      refine ⟨deeds ++ (more ++ [.checked (checkDeadline later).1]), ?_⟩
      simp only
      revert checks course
      rcases checkDeadline later with ⟨error | _, last⟩
      · intro checks course
        exact ⟨led.append (onward.append checks), course⟩
      · intro checks course
        exact ⟨led.append (onward.append checks), course⟩

end Steps

section Pipelines

variable [Inhabited σ] (catalogue : Catalogue σ υ) (event : Event)

theorem Pipeline.run_courses (pipeline : Pipeline) (world : World σ υ) :
    ∃ deeds last result steps, Performed catalogue event ⟨world, .empty⟩ deeds last ∧
      InTurn StepCourse pipeline.steps deeds result steps ∧
      Pipeline.run catalogue event (pipeline, world) =
        (result.map fun responses => ⟨responses, last.context.values⟩,
          ({ pipeline with steps }, last.world)) := by
  have each : ∀ step ∈ pipeline.steps, ∀ run, ∃ deeds,
      Performed catalogue event run deeds (Step.run catalogue event (step, run)).2.2 ∧
        StepCourse step deeds (Step.run catalogue event (step, run)).1
          (Step.run catalogue event (step, run)).2.1 :=
    fun step _ run => Step.run_courses catalogue event step run
  obtain ⟨deeds, led, course⟩ := sweep_in_turn Performed.chains each ⟨world, .empty⟩
  exact ⟨deeds, _, _, _, led, course, rfl⟩

theorem Pipeline.offer_courses (pipeline : Pipeline) (world : World σ υ) :
    ∃ deeds, Across catalogue event world deeds
        (Pipeline.offer catalogue event (pipeline, world)).2.2 ∧
      PipelineCourse pipeline deeds (Pipeline.offer catalogue event (pipeline, world)).1
        (Pipeline.offer catalogue event (pipeline, world)).2.1 := by
  obtain ⟨deeds, asked, filters⟩ := allAccept_matches catalogue event pipeline.filters world
  simp only [Pipeline.offer]
  revert asked filters
  rcases allAccept catalogue event pipeline.filters world with ⟨error | accepted, after⟩
  · intro asked filters
    exact ⟨deeds, fun context => ⟨context, asked context⟩, .unasked filters⟩
  · intro asked filters
    cases accepted with
    | false => exact ⟨deeds, fun context => ⟨context, asked context⟩, .passed filters⟩
    | true =>
      obtain ⟨more, last, result, steps, led, run, outcome⟩ :=
        Pipeline.run_courses catalogue event pipeline after
      have opens : ∀ context, Performed catalogue event ⟨after, context⟩ [.opened] ⟨after, .empty⟩ :=
        fun context => .single rfl
      simp only [outcome]
      cases result with
      | error error =>
        refine ⟨deeds ++ .opened :: more, ?_, .failed filters run⟩
        intro context
        exact ⟨last.context, (asked context).append ((opens context).append led)⟩
      | ok responses =>
        have closes : Performed catalogue event last [.closed last.context.values] last :=
          .single ⟨rfl, rfl⟩
        refine ⟨deeds ++ .opened :: (more ++ [.closed last.context.values]), ?_,
          .ran last.context.values filters run⟩
        intro context
        exact ⟨last.context, (asked context).append ((opens context).append (led.append closes))⟩

end Pipelines

section Dispatches

variable [Inhabited σ] (catalogue : Catalogue σ υ) (event : Event)

def Dispatcher.conclude (event : Event) (used : Dispatcher) (world : World σ υ) :
    Except DispatchError (List (Option DispatchOutcome)) →
      Except DispatchError (List DispatchOutcome) × (Dispatcher × World σ υ)
  | .error error => (.error error, (used, world))
  | .ok offers =>
      (.ok (offers.filterMap id),
        (used, world.report (Dispatcher.dispatchedEntry event (offers.filterMap id))))

theorem Dispatcher.dispatch_courses (dispatcher : Dispatcher) (world : World σ υ) :
    ∃ trace offers used final,
      dispatcher.Course catalogue event world trace offers used final ∧
        Dispatcher.dispatch catalogue event (dispatcher, world) =
          Dispatcher.conclude event used final.world offers := by
  have each : ∀ pipeline ∈ dispatcher.pipelines, ∀ world, ∃ deeds,
      Across catalogue event world deeds (Pipeline.offer catalogue event (pipeline, world)).2.2 ∧
        PipelineCourse pipeline deeds (Pipeline.offer catalogue event (pipeline, world)).1
          (Pipeline.offer catalogue event (pipeline, world)).2.1 :=
    fun pipeline _ world => Pipeline.offer_courses catalogue event pipeline world
  obtain ⟨trace, across, order⟩ := sweep_in_turn Across.chains each world
  obtain ⟨last, performed⟩ := across .empty
  simp only [Dispatcher.dispatch]
  revert order performed
  rcases Action.sweep (Pipeline.offer catalogue event) (dispatcher.pipelines, world) with
    ⟨error | offers, pipelines, after⟩
  · intro order performed
    exact ⟨trace, .error error, ⟨pipelines⟩, ⟨after, last⟩, ⟨performed, order⟩, rfl⟩
  · intro order performed
    exact ⟨trace, .ok offers, ⟨pipelines⟩, ⟨after, last⟩, ⟨performed, order⟩, rfl⟩

end Dispatches

end EventPipeline
