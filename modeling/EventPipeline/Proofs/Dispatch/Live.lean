import EventPipeline.Proofs.Dispatch.Runs

/-! Dispatchers as they come about.

A dispatcher is built from documents and then used for one event after another. Its units obtain
instances on the way, and nothing else of it changes, so that it is still built from its documents
after any number of dispatches. -/

namespace EventPipeline

open Json

variable {σ υ : Type}

/-! ### What use does not change -/

def MiddlewareDocument.fresh (document : MiddlewareDocument) : MiddlewareDocument :=
  { document with activation := document.activation.fresh }

def PipelineDocument.fresh (document : PipelineDocument) : PipelineDocument :=
  { document with middleware := document.middleware.map MiddlewareDocument.fresh }

def Step.fresh (step : Step) : Step := step.keep step.document.activation.fresh

def Pipeline.fresh (pipeline : Pipeline) : Pipeline :=
  { pipeline with steps := pipeline.steps.map Step.fresh }

def Dispatcher.fresh (dispatcher : Dispatcher) : Dispatcher :=
  ⟨dispatcher.pipelines.map Pipeline.fresh⟩

theorem Step.fresh_keep {step : Step} {used : ActivationUnit}
    (alike : used.fresh = step.document.activation.fresh) : (step.keep used).fresh = step.fresh := by
  unfold Step.fresh Step.keep
  rw [← alike]

theorem Activation.fresh_eq {slots : Slots} {step used : Step} {deeds : List Deed}
    {result : Except DispatchError Value} (course : Activation slots step deeds result used) :
    used.fresh = step.fresh := by
  cases course with
  | unobtained cutoff error alike => exact Step.fresh_keep alike
  | cutOff cutoff target error alike => exact Step.fresh_keep alike
  | failed cutoff target error alike => exact Step.fresh_keep alike
  | returned cutoff target value alike => exact Step.fresh_keep alike

theorem StepCourse.fresh_eq {step used : Step} {deeds : List Deed}
    {result : Except DispatchError Value} (course : StepCourse step deeds result used) :
    used.fresh = step.fresh := by
  cases course with
  | unextracted extraction => rfl
  | failed extraction activation => exact activation.fresh_eq
  | checked check extraction activation => exact activation.fresh_eq

theorem PipelineCourse.fresh_eq {pipeline used : Pipeline} {deeds : List Deed}
    {result : Except DispatchError (Option DispatchOutcome)}
    (course : PipelineCourse pipeline deeds result used) : used.fresh = pipeline.fresh := by
  cases course with
  | unasked filters => rfl
  | passed filters => rfl
  | failed filters run =>
    have steps := run.map_eq fun _ _ _ _ => StepCourse.fresh_eq
    simp only [Pipeline.fresh, steps]
  | ran values filters run =>
    have steps := run.map_eq fun _ _ _ _ => StepCourse.fresh_eq
    simp only [Pipeline.fresh, steps]

/-- A dispatch changes nothing of a dispatcher but what its units have obtained. -/
theorem Dispatcher.Course.fresh_eq [Inhabited σ] {catalogue : Catalogue σ υ} {event : Event}
    {dispatcher used : Dispatcher} {world : World σ υ} {trace : List Deed}
    {offers : Except DispatchError (List (Option DispatchOutcome))} {final : RunState σ υ}
    (course : dispatcher.Course catalogue event world trace offers used final) :
    used.fresh = dispatcher.fresh := by
  unfold Dispatcher.fresh
  rw [course.order.map_eq fun _ _ _ _ => PipelineCourse.fresh_eq]

section Use

variable [Inhabited σ] (catalogue : Catalogue σ υ)

def Dispatcher.used (dispatcher : Dispatcher) (calls : List (Event × World σ υ)) : Dispatcher :=
  calls.foldl (fun held call => (Dispatcher.dispatch catalogue call.1 (held, call.2)).2.1) dispatcher

theorem Dispatcher.fresh_dispatch (event : Event) (dispatcher : Dispatcher) (world : World σ υ) :
    (Dispatcher.dispatch catalogue event (dispatcher, world)).2.1.fresh = dispatcher.fresh := by
  obtain ⟨trace, offers, used, final, course, outcome⟩ :=
    Dispatcher.dispatch_courses catalogue event dispatcher world
  rw [outcome, ← course.fresh_eq]
  cases offers with
  | error error => rfl
  | ok offers => rfl

theorem Dispatcher.fresh_used (dispatcher : Dispatcher) (calls : List (Event × World σ υ)) :
    (dispatcher.used catalogue calls).fresh = dispatcher.fresh := by
  induction calls generalizing dispatcher with
  | nil => rfl
  | cons call rest ih => exact (ih _).trans (Dispatcher.fresh_dispatch catalogue call.1 dispatcher call.2)

omit catalogue [Inhabited σ] in
theorem Dispatcher.step_of_fresh {dispatcher used : Dispatcher} (same : used.fresh = dispatcher.fresh)
    {row column : Nat} {pipeline : Pipeline} {step : Step}
    (placed : dispatcher.pipelines[row]? = some pipeline) (stands : pipeline.steps[column]? = some step) :
    ∃ later current, used.pipelines[row]? = some later ∧ later.steps[column]? = some current ∧
      current.fresh = step.fresh := by
  have rows : (used.pipelines.map Pipeline.fresh)[row]? =
      (dispatcher.pipelines.map Pipeline.fresh)[row]? :=
    congrArg (fun held : Dispatcher => held.pipelines[row]?) same
  rw [List.getElem?_map, List.getElem?_map, placed, Option.map_some, Option.map_eq_some_iff] at rows
  obtain ⟨later, there, alike⟩ := rows
  have columns : (later.steps.map Step.fresh)[column]? = (pipeline.steps.map Step.fresh)[column]? :=
    congrArg (fun held : Pipeline => held.steps[column]?) alike
  rw [List.getElem?_map, List.getElem?_map, stands, Option.map_some, Option.map_eq_some_iff] at columns
  obtain ⟨current, here, unchanged⟩ := columns
  exact ⟨later, current, there, here, unchanged⟩

end Use

/-! ### From documents to dispatchers -/

/-- No extractor stands at the greatest machine word. -/
def PipelineDocument.Bounded (document : PipelineDocument) : Prop :=
  ∀ entry ∈ document.middleware, ∀ index ∈ entry.extractors.keys, index.toNat + 1 < UInt64.size

/-- A dispatcher that was built from documents, or has been used since. -/
inductive Dispatcher.Live [Inhabited σ] (catalogue : Catalogue σ υ)
    (documents : List PipelineDocument) : Dispatcher → Prop where
  | built {dispatcher : Dispatcher} (world : World σ υ)
      (ok : (Dispatcher.build catalogue documents world).1 = .ok dispatcher) :
      Live catalogue documents dispatcher
  | dispatched {dispatcher : Dispatcher} (live : Live catalogue documents dispatcher) (event : Event)
      (world : World σ υ) :
      Live catalogue documents (Dispatcher.dispatch catalogue event (dispatcher, world)).2.1

def Stands (_ : Recipe) (_ : InstanceId) : Prop := True

theorem Pipeline.Built.fresh {R : Recipe → InstanceId → Prop} {document : PipelineDocument}
    {pipeline : Pipeline} (built : Pipeline.Built R document pipeline) :
    Pipeline.Built R document.fresh pipeline.fresh := by
  refine ⟨built.filters, ?_⟩
  unfold PipelineDocument.fresh Pipeline.fresh
  rw [List.forall₂_map_left_iff, List.forall₂_map_right_iff]
  apply built.steps.imp
  intro entry step made
  exact ⟨made.indexes, by rw [← made.document]; rfl⟩

theorem Step.reached_eq {step : Step} (indexes : step.extractors.keys = step.document.extractors.keys)
    (bounded : ∀ index ∈ step.document.extractors.keys, index.toNat + 1 < UInt64.size) :
    step.reached = step.extractors.entries := by
  rw [Step.reached, List.filter_eq_self]
  intro entry member
  have key : entry.1 ∈ step.document.extractors.keys := by
    rw [← indexes]
    exact List.mem_map_of_mem member
  exact decide_eq_true (MiddlewareDocument.toNat_lt_arity bounded key)

/-- The steps of a dispatcher get to all their extractors. -/
def Dispatcher.Reaching (dispatcher : Dispatcher) : Prop :=
  ∀ pipeline ∈ dispatcher.pipelines, ∀ step ∈ pipeline.steps,
    step.reached = step.extractors.entries

theorem Dispatcher.reaching_of_built {documents : List PipelineDocument} {dispatcher : Dispatcher}
    (bounded : ∀ document ∈ documents, document.Bounded)
    (built : List.Forall₂ (Pipeline.Built Stands) (documents.map PipelineDocument.fresh)
      dispatcher.fresh.pipelines) : dispatcher.Reaching := by
  unfold Dispatcher.fresh at built
  rw [List.forall₂_map_left_iff, List.forall₂_map_right_iff] at built
  intro pipeline among step member
  obtain ⟨document, declared, made⟩ := exists_of_paired built among
  have steps := made.steps
  unfold PipelineDocument.fresh Pipeline.fresh at steps
  rw [List.forall₂_map_left_iff, List.forall₂_map_right_iff] at steps
  obtain ⟨entry, stacked, kept⟩ := exists_of_paired steps member
  have documents_eq : step.fresh.document = entry.fresh := kept.document
  have extractors : step.fresh.document.extractors = entry.fresh.extractors := by
    rw [documents_eq]
  apply Step.reached_eq
  · show step.fresh.extractors.keys = step.fresh.document.extractors.keys
    rw [extractors]
    exact kept.indexes
  · show ∀ index ∈ step.fresh.document.extractors.keys, index.toNat + 1 < UInt64.size
    rw [extractors]
    exact bounded document declared entry stacked

theorem Dispatcher.build_stands [Inhabited σ] {catalogue : Catalogue σ υ}
    {documents : List PipelineDocument} {dispatcher : Dispatcher} {world after : World σ υ}
    (ran : Dispatcher.build catalogue documents world = (.ok dispatcher, after)) :
    List.Forall₂ (Pipeline.Built Stands) documents dispatcher.pipelines :=
  @Dispatcher.build_built σ υ _ catalogue (fun _ => True) (fun _ => Stands) (fun _ _ _ _ => trivial)
    (fun _ _ _ _ _ _ => trivial) (fun _ _ _ _ _ holds => holds) documents dispatcher _ _ trivial
    (fun _ _ _ _ _ => trivial) ran

theorem Dispatcher.Live.built_fresh [Inhabited σ] {catalogue : Catalogue σ υ}
    {documents : List PipelineDocument} {dispatcher : Dispatcher}
    (live : Dispatcher.Live catalogue documents dispatcher) :
    List.Forall₂ (Pipeline.Built Stands) (documents.map PipelineDocument.fresh)
      dispatcher.fresh.pipelines := by
  induction live with
  | @built dispatcher world ok =>
    have built := Dispatcher.build_stands (Prod.ext ok rfl)
    unfold Dispatcher.fresh
    rw [List.forall₂_map_left_iff, List.forall₂_map_right_iff]
    exact built.imp fun document pipeline made => made.fresh
  | @dispatched dispatcher live event world ih =>
    rw [Dispatcher.fresh_dispatch]
    exact ih

end EventPipeline
