import EventPipeline.Proofs.Dispatch.Building
import EventPipeline.Proofs.World.Apart

/-! Two dispatches side by side.

Two dispatchers are twins when they were built alike, on instances that correspond. Where corresponding
instances answer alike and corresponding steps are activated alike, one event comes to the same on both:
the same pipelines match and run the same steps, up to the same failure if there is one. Neither dispatcher
is changed by it. -/

namespace EventPipeline

open Json

variable {σ υ : Type}

/-- Steps of one document, whose extractors correspond. -/
structure Step.Twin (E : InstanceId → InstanceId → Prop) (Fit : MiddlewareDocument → Prop)
    (step twin : Step) : Prop where
  document : twin.document = step.document
  fit : Fit step.document
  extractors : ∀ index, Option.Rel (OneOrMany.Related E) (step.extractors.get? index)
    (twin.extractors.get? index)

structure Pipeline.Twin (F E : InstanceId → InstanceId → Prop) (Fit : MiddlewareDocument → Prop)
    (pipeline twin : Pipeline) : Prop where
  filters : List.Forall₂ (OneOrMany.Related F) pipeline.filters twin.filters
  steps : List.Forall₂ (Step.Twin E Fit) pipeline.steps twin.steps

variable [Inhabited σ]

/-- A relation of worlds that dispatching an event carries along: corresponding filters and extractors
answer alike, corresponding steps are activated alike, and the clocks are apart by a delay. -/
structure Carried (catalogue : Catalogue σ υ) (event : Event) (F E : InstanceId → InstanceId → Prop)
    (Fit : MiddlewareDocument → Prop) (delay : Int) (R : World σ υ → World σ υ → Prop) : Prop where
  asked : ∀ one other, F one other →
    Action.Twin R (accepts catalogue one event) (accepts catalogue other event)
  extracted : ∀ one other, E one other →
    Action.Twin R (extract catalogue one event) (extract catalogue other event)
  activated : ∀ slots step twin, Step.Twin E Fit step twin →
    Action.Twin (Action.Beside (RunState.Paired R (RunContext.Apart delay)) step twin)
      (Step.activate catalogue slots) (Step.activate catalogue slots)
  clocks : ∀ world other, R world other → world.clock.Apart delay other.clock
  ticked : ∀ (world other : World σ υ) clock beside, R world other → clock.Apart delay beside →
    R { world with clock } { other with clock := beside }
  reported : ∀ world other entry, R world other → R (World.report world entry) (World.report other entry)

namespace Carried

variable {catalogue : Catalogue σ υ} {event : Event} {F E : InstanceId → InstanceId → Prop}
  {Fit : MiddlewareDocument → Prop} {delay : Int} {R : World σ υ → World σ υ → Prop}
  (carried : Carried catalogue event F E Fit delay R)

include carried

theorem anyAccepts {filters others : List InstanceId} (paired : List.Forall₂ F filters others) :
    Action.Twin R (anyAccepts catalogue event filters) (anyAccepts catalogue event others) := by
  induction paired with
  | nil => exact Action.Twin.pure false
  | cons alike _ ih =>
    refine ((carried.asked _ _ alike).mapError DispatchError.filter).bind fun accepted => ?_
    cases accepted with
    | false => exact ih
    | true => exact Action.Twin.pure true

theorem allAccept {entries others : List (OneOrMany InstanceId)}
    (paired : List.Forall₂ (OneOrMany.Related F) entries others) :
    Action.Twin R (allAccept catalogue event entries) (allAccept catalogue event others) := by
  induction paired with
  | nil => exact Action.Twin.pure true
  | cons alike _ ih =>
    refine (carried.anyAccepts alike.toList).bind fun accepted => ?_
    cases accepted with
    | false => exact Action.Twin.pure false
    | true => exact ih

theorem extractFor (index : Nat) {extractor other : InstanceId} (alike : E extractor other) :
    Action.Twin R (extractFor catalogue event index extractor)
      (extractFor catalogue event index other) :=
  (carried.extracted _ _ alike).mapError (DispatchError.extraction index)

theorem slotOf (index : Nat) {held other : Option (OneOrMany InstanceId)}
    (alike : Option.Rel (OneOrMany.Related E) held other) :
    Action.Twin R (slotOf catalogue event index held) (slotOf catalogue event index other) := by
  cases alike with
  | none => exact Action.Twin.pure none
  | some related =>
    cases related with
    | one related =>
      exact (carried.extractFor index related).bind fun value => Action.Twin.pure (some value)
    | many related =>
      refine Action.Twin.bind (Action.Twin.forEach ?_ related) fun values =>
        Action.Twin.pure (some (Value.array values))
      exact fun _ _ => carried.extractFor index

theorem slots {step twin : Step} (alike : Step.Twin E Fit step twin) :
    Action.Twin R (step.slots catalogue event) (twin.slots catalogue event) := by
  unfold Step.slots
  rw [alike.document]
  have same : List.Forall₂ Eq (List.range step.document.arity.toNat)
      (List.range step.document.arity.toNat) := List.forall₂_eq_eq_eq ▸ rfl
  refine Action.Twin.forEach ?_ same
  rintro index _ rfl
  exact carried.slotOf index (alike.extractors (UInt64.ofNat index))

theorem checkDeadline :
    Action.Twin (RunState.Paired R (RunContext.Apart delay))
      (checkDeadline : Action (RunState σ υ) DispatchError Unit) EventPipeline.checkDeadline := by
  rintro run other ⟨worlds, contexts⟩
  have apart : run.Apart delay other := ⟨carried.clocks _ _ worlds, contexts⟩
  obtain ⟨outcome, clock, beside, ran, reran, clocks⟩ := apart.checkDeadline
  exact ⟨outcome, _, _, ran, reran, carried.ticked _ _ _ _ worlds clocks, contexts⟩

theorem run {step twin : Step} (alike : Step.Twin E Fit step twin) :
    Action.Twin (Action.Beside (RunState.Paired R (RunContext.Apart delay)) step twin)
      (Step.run catalogue event) (Step.run catalogue event) := by
  rintro _ _ ⟨related⟩
  obtain ⟨outcome, _, _, ran, reran, between⟩ :=
    RunState.onWorld_twin (carried.slots alike) _ _ related
  simp only [Step.run, ran, reran]
  cases outcome with
  | error error => exact ⟨.error error, _, _, rfl, rfl, .both between⟩
  | ok slots =>
    obtain ⟨outcome, _, _, acted, reacted, ⟨later⟩⟩ :=
      carried.activated slots step twin alike _ _ (.both between)
    simp only [acted, reacted]
    cases outcome with
    | error error => exact ⟨.error error, _, _, rfl, rfl, .both later⟩
    | ok value =>
      obtain ⟨outcome, _, _, checked, rechecked, last⟩ := carried.checkDeadline _ _ later
      simp only [checked, rechecked]
      cases outcome with
      | error error => exact ⟨.error error, _, _, rfl, rfl, .both last⟩
      | ok _ => exact ⟨.ok value, _, _, rfl, rfl, .both last⟩

theorem pipelineRun {pipeline twin : Pipeline} (alike : Pipeline.Twin F E Fit pipeline twin) :
    Action.Twin (Action.Beside R pipeline twin) (Pipeline.run catalogue event)
      (Pipeline.run catalogue event) := by
  rintro _ _ ⟨related⟩
  have opened : RunState.Paired R (RunContext.Apart delay) ⟨_, .empty⟩ ⟨_, .empty⟩ :=
    ⟨related, RunContext.Apart.empty delay⟩
  obtain ⟨outcome, _, _, ran, reran, ⟨after, contexts⟩⟩ :=
    Action.Twin.sweep (fun _ _ => carried.run) alike.steps _ _ (.both opened)
  simp only [Pipeline.run, ran, reran, contexts.values]
  exact ⟨_, _, _, rfl, rfl, .both after⟩

theorem offer {pipeline twin : Pipeline} (alike : Pipeline.Twin F E Fit pipeline twin) :
    Action.Twin (Action.Beside R pipeline twin) (Pipeline.offer catalogue event)
      (Pipeline.offer catalogue event) := by
  rintro _ _ ⟨related⟩
  obtain ⟨outcome, _, _, ran, reran, between⟩ := carried.allAccept alike.filters _ _ related
  simp only [Pipeline.offer, ran, reran]
  cases outcome with
  | error error => exact ⟨.error error, _, _, rfl, rfl, .both between⟩
  | ok accepted =>
    cases accepted with
    | false => exact ⟨.ok none, _, _, rfl, rfl, .both between⟩
    | true =>
      obtain ⟨outcome, _, _, ran, reran, after⟩ := carried.pipelineRun alike _ _ (.both between)
      simp only [ran, reran]
      exact ⟨_, _, _, rfl, rfl, after⟩

theorem dispatch {dispatcher twin : Dispatcher}
    (alike : List.Forall₂ (Pipeline.Twin F E Fit) dispatcher.pipelines twin.pipelines) :
    Action.Twin (Action.Beside R dispatcher twin) (Dispatcher.dispatch catalogue event)
      (Dispatcher.dispatch catalogue event) := by
  rintro _ _ ⟨related⟩
  obtain ⟨outcome, _, _, ran, reran, ⟨after⟩⟩ :=
    Action.Twin.sweep (fun _ _ => carried.offer) alike _ _ (.both related)
  simp only [Dispatcher.dispatch, ran, reran]
  cases outcome with
  | error error => exact ⟨.error error, _, _, rfl, rfl, .both after⟩
  | ok offered => exact ⟨_, _, _, rfl, rfl, .both (carried.reported _ _ _ after)⟩

end Carried

end EventPipeline
