import EventPipeline.Document

/-! Dispatching events through compiled pipelines.

A dispatcher holds an instance for every filter and extractor recipe of its documents. For an event
it runs every pipeline whose filters accept it, in document order. Each run has a context of its
own, which all of its steps share. The first failure ends the dispatch.

A deadline in the context bounds the run twice over: a step that is still waiting when the deadline
that held at its start has passed is cut off, and after every step the deadline then in effect must
not have passed. -/

namespace EventPipeline

open Json

variable {σ υ ε : Type}

/-- The values that one pipeline returned, one for each step, and the context that its last step
left. -/
structure DispatchOutcome where
  responses : List Value
  context : Object
deriving DecidableEq

structure Step where
  document : MiddlewareDocument
  extractors : OrderedMap UInt64 (OneOrMany InstanceId)
deriving DecidableEq

structure Pipeline where
  filters : List (OneOrMany InstanceId)
  steps : List Step
deriving DecidableEq

structure Dispatcher where
  pipelines : List Pipeline
deriving DecidableEq

def Action.forEach {State Error α β : Type} (visit : α → Action State Error β) :
    List α → Action State Error (List β)
  | [] => Action.pure []
  | element :: rest => Action.bind (visit element) fun value =>
      Action.bind (forEach visit rest) fun values => Action.pure (value :: values)

variable [Inhabited σ]

/-! ### Building a dispatcher -/

def instantiate (catalogue : Catalogue σ υ) (view : View) :
    OneOrMany Recipe → Action (World σ υ) FactoryError (OneOrMany InstanceId)
  | .one recipe => do
      let created ← Factory.create catalogue recipe view false
      pure (.one created)
  | .many recipes => do
      let created ← Action.forEach (Factory.create catalogue · view false) recipes
      pure (.many created)

def instantiateSlots (catalogue : Catalogue σ υ) (recipes : OrderedMap UInt64 (OneOrMany Recipe)) :
    Action (World σ υ) FactoryError (OrderedMap UInt64 (OneOrMany InstanceId)) := do
  let entries ← Action.forEach (fun (index, entry) => do
    let made ← instantiate catalogue .extractor entry
    pure (index, made)) recipes.entries
  pure (OrderedMap.ofList entries)

def Step.build (catalogue : Catalogue σ υ) (document : MiddlewareDocument) :
    Action (World σ υ) FactoryError Step := do
  let extractors ← instantiateSlots catalogue document.extractors
  pure ⟨document, extractors⟩

def Pipeline.build (catalogue : Catalogue σ υ) (document : PipelineDocument) :
    Action (World σ υ) FactoryError Pipeline := do
  let filters ← Action.forEach (instantiate catalogue .filter) document.filters
  let steps ← Action.forEach (Step.build catalogue) document.middleware
  pure ⟨filters, steps⟩

def Dispatcher.readyEntry (pipelines : List Pipeline) : LogEntry :=
  LogEntry.ofFields .debug "dispatcher ready" [("pipelines", .int pipelines.length)]

def Dispatcher.build (catalogue : Catalogue σ υ) (documents : List PipelineDocument) :
    Action (World σ υ) DispatchError Dispatcher := do
  let pipelines ← Action.mapError DispatchError.ofFactory
    (Action.forEach (Pipeline.build catalogue) documents)
  Action.modify (·.report (Dispatcher.readyEntry pipelines))
  pure ⟨pipelines⟩

/-! ### Matching -/

def anyAccepts (catalogue : Catalogue σ υ) (event : Event) :
    List InstanceId → Action (World σ υ) DispatchError Bool
  | [] => Action.pure false
  | filter :: rest =>
      Action.bind (Action.mapError DispatchError.filter (accepts catalogue filter event))
        fun accepted => if accepted then Action.pure true else anyAccepts catalogue event rest

def allAccept (catalogue : Catalogue σ υ) (event : Event) :
    List (OneOrMany InstanceId) → Action (World σ υ) DispatchError Bool
  | [] => Action.pure true
  | entry :: rest =>
      Action.bind (anyAccepts catalogue event entry.toList)
        fun accepted => if accepted then allAccept catalogue event rest else Action.pure false

/-! ### Running -/

def extractFor (catalogue : Catalogue σ υ) (event : Event) (index : Nat) (extractor : InstanceId) :
    Action (World σ υ) DispatchError Value :=
  Action.mapError (DispatchError.extraction index) (extract catalogue extractor event)

/-- The slot of one parameter: empty without an extractor, its value for a single one, and an array
of the values for a composition. -/
def slotOf (catalogue : Catalogue σ υ) (event : Event) (index : Nat) :
    Option (OneOrMany InstanceId) → Action (World σ υ) DispatchError (Option Value)
  | none => Action.pure none
  | some (.one extractor) =>
      Action.bind (extractFor catalogue event index extractor) fun value =>
        Action.pure (some value)
  | some (.many extractors) =>
      Action.bind (Action.forEach (extractFor catalogue event index) extractors) fun values =>
        Action.pure (some (.array values))

def Step.slots (catalogue : Catalogue σ υ) (event : Event) (step : Step) :
    Action (World σ υ) DispatchError Slots :=
  Action.forEach
    (fun index => slotOf catalogue event index (step.extractors.get? (UInt64.ofNat index)))
    (List.range step.document.arity.toNat)

/-- The cutoff of a step that starts under a deadline. The clock is read once to see how much time
remains, and once more when that time starts to run. -/
def cutoffOf (deadline : Option Deadline) (clock : Clock) :
    Option (Cutoff DispatchError) × Clock :=
  match deadline with
  | none => (none, clock)
  | some deadline =>
      let seen := clock.read
      let started := seen.read
      (some ⟨started.now + deadline.remaining seen.now, .timeout deadline.budget⟩, started)

def checkDeadline : Action (RunState σ υ) DispatchError Unit := fun run =>
  match run.context.deadline with
  | none => (.ok (), run)
  | some deadline =>
      let clock := run.world.clock.read
      if deadline.isExpired clock.now then
        (.error (.timeout deadline.budget), run.changeClock clock)
      else (.ok (), run.changeClock clock)

def Step.activate (catalogue : Catalogue σ υ) (slots : Slots) :
    Action (Step × RunState σ υ) DispatchError Value := fun (step, run) =>
  let (cutoff, clock) := cutoffOf run.context.deadline run.world.clock
  match ActivationUnit.activateWithin catalogue cutoff slots
      (step.document.activation, run.changeClock clock) with
  | (outcome, (activation, after)) =>
      let visited := { step with document := { step.document with activation } }
      match outcome with
      | .error error => (.error error, (visited, after))
      | .ok (.error error) => (.error (.activation error), (visited, after))
      | .ok (.ok value) => (.ok value, (visited, after))

def Step.run (catalogue : Catalogue σ υ) (event : Event) :
    Action (Step × RunState σ υ) DispatchError Value := fun (step, run) =>
  match RunState.onWorld (step.slots catalogue event) run with
  | (.error error, after) => (.error error, (step, after))
  | (.ok slots, after) =>
      match Step.activate catalogue slots (step, after) with
      | (.error error, later) => (.error error, later)
      | (.ok value, (visited, later)) =>
          match checkDeadline later with
          | (.error error, last) => (.error error, (visited, last))
          | (.ok (), last) => (.ok value, (visited, last))

def Pipeline.run (catalogue : Catalogue σ υ) (event : Event) :
    Action (Pipeline × World σ υ) DispatchError DispatchOutcome := fun (pipeline, world) =>
  match Action.sweep (Step.run catalogue event) (pipeline.steps, ⟨world, .empty⟩) with
  | (outcome, (steps, run)) =>
      (outcome.map fun responses => ⟨responses, run.context.values⟩,
        ({ pipeline with steps }, run.world))

def Pipeline.offer (catalogue : Catalogue σ υ) (event : Event) :
    Action (Pipeline × World σ υ) DispatchError (Option DispatchOutcome) :=
  fun (pipeline, world) =>
    match allAccept catalogue event pipeline.filters world with
    | (.error error, after) => (.error error, (pipeline, after))
    | (.ok false, after) => (.ok none, (pipeline, after))
    | (.ok true, after) =>
        match Pipeline.run catalogue event (pipeline, after) with
        | (outcome, visited) => (outcome.map some, visited)

def Dispatcher.dispatchedEntry (event : Event) (outcomes : List DispatchOutcome) : LogEntry :=
  LogEntry.ofFields .trace "dispatched event"
    [("event_type", .string event.type), ("matched", .int outcomes.length)]

def Dispatcher.dispatch (catalogue : Catalogue σ υ) (event : Event) :
    Action (Dispatcher × World σ υ) DispatchError (List DispatchOutcome) :=
  fun (dispatcher, world) =>
    match Action.sweep (Pipeline.offer catalogue event) (dispatcher.pipelines, world) with
    | (.error error, (pipelines, after)) => (.error error, (⟨pipelines⟩, after))
    | (.ok offered, (pipelines, after)) =>
        let outcomes := offered.filterMap id
        (.ok outcomes, (⟨pipelines⟩, after.report (Dispatcher.dispatchedEntry event outcomes)))

end EventPipeline
