import EventPipeline.Proofs.Container.Alike
import EventPipeline.Proofs.Container.Registration
import EventPipeline.Proofs.Dispatch.Posts

/-! Building a dispatcher, recipe by recipe.

However its documents nest filters, steps and slots, a dispatcher is built by one pass over their recipes,
which stops at the first recipe that gets no instance. What the pass does to the container is what the
creations up to there do; units take no part in it. -/

namespace EventPipeline

variable {σ υ α β : Type} [Inhabited σ]

/-! ### One recipe -/

def Demand.call (demand : Demand) : RegistryCall σ :=
  .create demand.recipe.type demand.view demand.recipe.configuration false

/-- The recipe has a type, and the container has an instance for it, which is configured. -/
def Demand.Obtains (catalogue : Catalogue σ υ) (demand : Demand) (world : World σ υ) (id : InstanceId)
    (after : World σ υ) : Prop :=
  ∃ key reached, demand.key? = some key ∧
    resolve catalogue key (Factory.ensureBound key .transient world) = (.ok id, reached) ∧
    after = Factory.configure id demand.recipe.configuration reached

/-- Why a recipe gets no instance. One without a type is turned down before the container is asked. -/
inductive Demand.Refused (catalogue : Catalogue σ υ) (demand : Demand) (world : World σ υ) :
    FactoryError → World σ υ → Prop where
  | untyped (missing : demand.key? = none) : Refused catalogue demand world .missingType world
  | unresolved {key : BindingKey} {error : ResolutionError} {after : World σ υ}
      (named : demand.key? = some key)
      (failed : resolve catalogue key (Factory.ensureBound key .transient world) = (.error error, after)) :
      Refused catalogue demand world (.resolution error) after

section One

variable {catalogue : Catalogue σ υ} {demand : Demand} {world after : World σ υ} {id : InstanceId}
  {error : FactoryError}

theorem Demand.create_some {key : BindingKey} (named : demand.key? = some key) (world : World σ υ) :
    Factory.create catalogue demand.recipe demand.view false world =
      match resolve catalogue key (Factory.ensureBound key .transient world) with
      | (.ok created, after) =>
          (.ok created, Factory.configure created demand.recipe.configuration after)
      | (.error error, after) => (.error (.resolution error), after) := by
  obtain ⟨type, typed, rfl⟩ := Option.map_eq_some_iff.mp named
  unfold Factory.create
  rw [typed]
  exact Factory.createInstance_some ..

theorem Demand.create_none (missing : demand.key? = none) (world : World σ υ) :
    Factory.create catalogue demand.recipe demand.view false world = (.error .missingType, world) := by
  unfold Factory.create
  rw [Option.map_eq_none_iff.mp missing]
  rfl

theorem Demand.obtains_iff :
    Factory.create catalogue demand.recipe demand.view false world = (.ok id, after) ↔
      demand.Obtains catalogue world id after := by
  constructor
  · intro ran
    cases named : demand.key? with
    | none =>
      rw [Demand.create_none named] at ran
      cases ran
    | some key =>
      rw [Demand.create_some named] at ran
      rcases outcome : resolve catalogue key (Factory.ensureBound key .transient world) with
        ⟨error | created, reached⟩
      · rw [outcome] at ran
        cases ran
      · rw [outcome] at ran
        cases ran
        exact ⟨key, reached, named, outcome, rfl⟩
  · rintro ⟨key, reached, named, resolved, rfl⟩
    rw [Demand.create_some named, resolved]

theorem Demand.refused_of_create
    (ran : Factory.create catalogue demand.recipe demand.view false world = (.error error, after)) :
    demand.Refused catalogue world error after := by
  cases named : demand.key? with
  | none =>
    rw [Demand.create_none named] at ran
    cases ran
    exact .untyped named
  | some key =>
    rw [Demand.create_some named] at ran
    rcases outcome : resolve catalogue key (Factory.ensureBound key .transient world) with
      ⟨error | created, reached⟩
    · rw [outcome] at ran
      cases ran
      exact .unresolved named outcome
    · rw [outcome] at ran
      cases ran

end One

/-! ### One pass -/

namespace Action

variable {State Error : Type} {visit : α → Action State Error β} {start between : State}

theorem forEach_cons (visit : α → Action State Error β) (element : α) (rest : List α) (start : State) :
    Action.forEach visit (element :: rest) start =
      match visit element start with
      | (.ok value, between) => ((Action.forEach visit rest between).1.map (value :: ·),
          (Action.forEach visit rest between).2)
      | (.error error, between) => (.error error, between) := by
  rw [Action.forEach]
  unfold Action.bind
  rcases visit element start with ⟨error | value, between⟩
  · rfl
  · simp only
    rcases Action.forEach visit rest between with ⟨error | values, after⟩ <;> rfl

theorem forEach_append {earlier : List α} {values : List β}
    (front : Action.forEach visit earlier start = (.ok values, between)) (later : List α) :
    Action.forEach visit (earlier ++ later) start =
      ((Action.forEach visit later between).1.map (values ++ ·),
        (Action.forEach visit later between).2) := by
  induction earlier generalizing start values with
  | nil =>
    cases front
    rw [List.nil_append]
    rcases Action.forEach visit later between with ⟨error | others, after⟩ <;> rfl
  | cons element rest ih =>
    obtain ⟨value, reached, here, onward⟩ := of_bind_ok front
    obtain ⟨others, last, there, done⟩ := of_bind_ok onward
    cases done
    rw [List.cons_append, forEach_cons, here]
    simp only
    rw [ih there]
    rcases Action.forEach visit later between with ⟨error | more, after⟩ <;> rfl

end Action

def procure (catalogue : Catalogue σ υ) :
    List Demand → Action (World σ υ) FactoryError (List InstanceId) :=
  Action.forEach fun demand => Factory.create catalogue demand.recipe demand.view false

section Pass

variable {catalogue : Catalogue σ υ} {demands earlier later : List Demand} {demand : Demand}
  {world between after : World σ υ} {ids : List InstanceId} {error : FactoryError}

theorem Makes.procured (makes : Makes catalogue demands ids world after) :
    procure catalogue demands world = (.ok ids, after) := by
  obtain ⟨served, creations, rfl, rfl⟩ := makes
  unfold procure
  induction creations with
  | done world => rfl
  | next created _ ih =>
    rw [List.map_cons, List.map_cons, Action.forEach_cons, created]
    simp only
    rw [ih]
    rfl

/-- A pass that comes to a recipe without an instance ends there, whatever recipes come later. -/
theorem procure_refused (front : procure catalogue earlier world = (.ok ids, between))
    (failed : Factory.create catalogue demand.recipe demand.view false between = (.error error, after))
    (later : List Demand) :
    procure catalogue (earlier ++ demand :: later) world = (.error error, after) := by
  unfold procure at front ⊢
  rw [Action.forEach_append front, Action.forEach_cons, failed]
  rfl

theorem obtains_of_procured (ran : procure catalogue (earlier ++ demand :: later) world = (.ok ids, after))
    {early : List InstanceId} (front : procure catalogue earlier world = (.ok early, between)) :
    ∃ id reached, demand.Obtains catalogue between id reached := by
  rcases outcome : Factory.create catalogue demand.recipe demand.view false between with
    ⟨error | id, reached⟩
  · rw [procure_refused front outcome later] at ran
    cases ran
  · exact ⟨id, reached, Demand.obtains_iff.mp outcome⟩

theorem runAll_of_procured (ran : procure catalogue demands world = (.ok ids, after)) :
    RegistryCall.runAll catalogue (demands.map Demand.call) world = after := by
  unfold procure at ran
  induction demands generalizing world ids with
  | nil =>
    cases ran
    rfl
  | cons demand rest ih =>
    obtain ⟨id, between, here, onward⟩ := Action.of_bind_ok ran
    obtain ⟨others, last, there, done⟩ := Action.of_bind_ok onward
    cases done
    have called : demand.call.run catalogue world = between := congrArg Prod.snd here
    rw [List.map_cons, RegistryCall.runAll, List.foldl_cons, called]
    exact ih there

theorem runAll_of_refused (front : procure catalogue earlier world = (.ok ids, between))
    (failed : Factory.create catalogue demand.recipe demand.view false between = (.error error, after)) :
    RegistryCall.runAll catalogue ((earlier ++ [demand]).map Demand.call) world = after := by
  have reached := runAll_of_procured front
  unfold RegistryCall.runAll at reached ⊢
  rw [List.map_append, List.foldl_append, reached]
  exact congrArg Prod.snd failed

theorem binding?_of_creations (demands : List Demand) (world : World σ υ) (key : BindingKey) :
    (RegistryCall.runAll catalogue (demands.map Demand.call) world).container.binding? key =
      (world.container.binding? key).or
        (if some key ∈ demands.map Demand.key? then
          some ⟨key, .transient, .constructor key.type key.form⟩ else none) := by
  rw [RegistryCall.binding?_runAll]
  congr 1
  induction demands with
  | nil => rfl
  | cons demand rest ih =>
    rw [List.map_cons, List.filterMap_cons, List.map_cons]
    obtain ⟨view, type, configuration⟩ := demand
    cases type with
    | none =>
      rw [show (Demand.call ⟨view, ⟨none, configuration⟩⟩ : RegistryCall σ).wanted? = none from rfl]
      simpa [Demand.key?] using ih
    | some type =>
      rw [show (Demand.call ⟨view, ⟨some type, configuration⟩⟩ : RegistryCall σ).wanted? =
        some ⟨⟨type, view⟩, .transient, .constructor type (BindingKey.form ⟨type, view⟩)⟩ from rfl]
      simp only [List.find?_cons]
      by_cases same : (⟨type, view⟩ : BindingKey) = key
      · subst same
        simp [Demand.key?]
      · have other : some key ≠ Demand.key? ⟨view, ⟨some type, configuration⟩⟩ := by
          intro equal
          exact same (Option.some.inj equal).symm
        rw [decide_eq_false same]
        simp only [List.mem_cons, other, false_or]
        exact ih

end Pass

/-! ### All documents -/

section Whole

variable {catalogue : Catalogue σ υ} {documents : List PipelineDocument} {dispatcher : Dispatcher}
  {world after : World σ υ}

theorem Dispatcher.build_filled (ran : Dispatcher.build catalogue documents world = (.ok dispatcher, after)) :
    ∃ reached, procure catalogue (documents.flatMap PipelineDocument.demands) world =
        (.ok dispatcher.instances, reached) ∧
      List.Forall₂ (Pipeline.Posted fun demand id =>
        (demand, id) ∈ (documents.flatMap PipelineDocument.demands).zip dispatcher.instances)
          documents dispatcher.pipelines ∧
      after = reached.report (Dispatcher.readyEntry dispatcher.pipelines) := by
  obtain ⟨served, reached, creations, demands, ids, posted, rfl⟩ := Dispatcher.build_posted ran
  refine ⟨reached, Makes.procured ⟨served, creations, demands, ids⟩, ?_, rfl⟩
  rwa [← List.zip_of_prod demands ids]

/-- Building is one pass over all recipes: it makes the same instances, fails with the same error, and leaves
the same world. -/
theorem Dispatcher.build_outline (catalogue : Catalogue σ υ) (documents : List PipelineDocument)
    (world : World σ υ) :
    ((Dispatcher.build catalogue documents world).1.map Dispatcher.instances,
        (Dispatcher.build catalogue documents world).2) =
      match procure catalogue (documents.flatMap PipelineDocument.demands) world with
      | (.ok ids, reached) => (.ok ids, reached.report
          (LogEntry.ofFields .debug "dispatcher ready" [("pipelines", .int documents.length)]))
      | (.error cause, reached) => (.error (.ofFactory cause), reached) := by
  rcases ran : Dispatcher.build catalogue documents world with ⟨error | dispatcher, after⟩
  · obtain ⟨cause, rfl, earlier, demand, later, ids, between, shape, makes, failed⟩ :=
      Dispatcher.build_fails ran
    rw [shape, procure_refused makes.procured failed]
    rfl
  · obtain ⟨reached, passed, posted, rfl⟩ := Dispatcher.build_filled ran
    rw [passed, posted.length_eq]
    rfl

/-- Building ends at the first recipe without an instance, whatever the documents hold behind it. -/
theorem Dispatcher.build_refused {earlier rest : List Demand} {demand : Demand} {ids : List InstanceId}
    {between : World σ υ} {cause : FactoryError} (front : procure catalogue earlier world = (.ok ids, between))
    (failed : Factory.create catalogue demand.recipe demand.view false between = (.error cause, after))
    (listed : documents.flatMap PipelineDocument.demands = earlier ++ demand :: rest) :
    Dispatcher.build catalogue documents world = (.error (.ofFactory cause), after) := by
  have outline := Dispatcher.build_outline catalogue documents world
  rw [listed, procure_refused front failed] at outline
  rcases ran : Dispatcher.build catalogue documents world with ⟨error | dispatcher, last⟩
  · rw [ran] at outline
    cases outline
    rfl
  · rw [ran] at outline
    cases outline

theorem Dispatcher.build_congr {other : Catalogue σ υ} (alike : catalogue.ConstructsLike other) :
    Dispatcher.build catalogue documents = Dispatcher.build other documents := by
  have entries : ∀ view entry, instantiate catalogue view entry = instantiate other view entry := by
    intro view entry
    cases entry <;> simp only [instantiate, alike.create]
  have steps : Step.build catalogue = Step.build other := by
    funext document
    unfold Step.build instantiateSlots
    simp only [entries]
  have pipelines : Pipeline.build catalogue = Pipeline.build other := by
    funext document
    unfold Pipeline.build
    rw [steps, funext (entries .filter)]
  unfold Dispatcher.build
  rw [pipelines]

/-- A dispatcher is built by one pass over the recipes of its documents: document by document, filters before
extractors, and each in order. It is built just when every recipe has a type and resolves in its turn, and then
it holds the instances in the places of their recipes, next to the units of the documents. Otherwise the pass
ends at the first recipe that gets no instance, with the reason for that, and what comes behind that recipe is
neither bound nor constructed. The world is changed by the creations up to there and by nothing else, whatever
units the documents hold; and no filter, extractor or method is run, unless a constructor invokes one. -/
theorem dispatcher_procured_in_order (catalogue : Catalogue σ υ) (documents : List PipelineDocument)
    (world : World σ υ) :
    let demands := documents.flatMap PipelineDocument.demands
    ((∃ dispatcher after, Dispatcher.build catalogue documents world = (.ok dispatcher, after)) ↔
      ∀ earlier demand later ids between, demands = earlier ++ demand :: later →
        procure catalogue earlier world = (.ok ids, between) →
          ∃ id after, demand.Obtains catalogue between id after) ∧
    (∀ dispatcher after, Dispatcher.build catalogue documents world = (.ok dispatcher, after) →
      let reached := RegistryCall.runAll catalogue (demands.map Demand.call) world
      procure catalogue demands world = (.ok dispatcher.instances, reached) ∧
      List.Forall₂ (Pipeline.Posted fun demand id => (demand, id) ∈ demands.zip dispatcher.instances)
        documents dispatcher.pipelines ∧
      after = reached.report (Dispatcher.readyEntry dispatcher.pipelines)) ∧
    (∀ error after, Dispatcher.build catalogue documents world = (.error error, after) →
      ∃ earlier demand later ids between cause, demands = earlier ++ demand :: later ∧
        procure catalogue earlier world = (.ok ids, between) ∧
        demand.Refused catalogue between cause after ∧ error = .ofFactory cause ∧
        after = RegistryCall.runAll catalogue ((earlier ++ [demand]).map Demand.call) world ∧
        (∀ key, after.container.binding? key = (world.container.binding? key).or
          (if some key ∈ (earlier ++ [demand]).map Demand.key? then
            some ⟨key, .transient, .constructor key.type key.form⟩ else none)) ∧
        ∀ others rest, others.flatMap PipelineDocument.demands = earlier ++ demand :: rest →
          Dispatcher.build catalogue others world = (.error error, after)) ∧
    (∀ others : List PipelineDocument, others.flatMap PipelineDocument.demands = demands →
      others.length = documents.length →
        (Dispatcher.build catalogue others world).1.map Dispatcher.instances =
          (Dispatcher.build catalogue documents world).1.map Dispatcher.instances ∧
        (Dispatcher.build catalogue others world).2 = (Dispatcher.build catalogue documents world).2) ∧
    ∀ other, catalogue.ConstructsLike other →
      Dispatcher.build other documents world = Dispatcher.build catalogue documents world := by
  intro demands
  refine ⟨⟨?_, ?_⟩, ?_, ?_, ?_, ?_⟩
  · rintro ⟨dispatcher, after, ran⟩ earlier demand later ids between shape front
    obtain ⟨reached, passed, _⟩ := Dispatcher.build_filled ran
    rw [show documents.flatMap PipelineDocument.demands = _ from shape] at passed
    exact obtains_of_procured passed front
  · intro each
    rcases ran : Dispatcher.build catalogue documents world with ⟨error | dispatcher, after⟩
    · obtain ⟨cause, rfl, earlier, demand, later, ids, between, shape, makes, failed⟩ :=
        Dispatcher.build_fails ran
      obtain ⟨id, reached, obtains⟩ := each earlier demand later ids between shape makes.procured
      rw [Demand.obtains_iff.mpr obtains] at failed
      cases failed
    · exact ⟨dispatcher, after, rfl⟩
  · intro dispatcher after ran
    obtain ⟨reached, passed, posted, rfl⟩ := Dispatcher.build_filled ran
    rw [runAll_of_procured passed]
    exact ⟨passed, posted, rfl⟩
  · intro error after ran
    obtain ⟨cause, rfl, earlier, demand, later, ids, between, shape, makes, failed⟩ :=
      Dispatcher.build_fails ran
    have changed := runAll_of_refused makes.procured failed
    refine ⟨earlier, demand, later, ids, between, cause, shape, makes.procured,
      Demand.refused_of_create failed, rfl, changed.symm, ?_, ?_⟩
    · intro key
      rw [← changed]
      exact binding?_of_creations ..
    · exact fun others rest listed => Dispatcher.build_refused makes.procured failed listed
  · intro others same length
    have outline := Dispatcher.build_outline catalogue others world
    rw [same, length] at outline
    exact Prod.ext_iff.mp (outline.trans (Dispatcher.build_outline catalogue documents world).symm)
  · intro other alike
    rw [Dispatcher.build_congr alike]

end Whole

/-- Of three filters the second has no type: the first is bound, and the third is not. -/
example :
    let gate : TypeToken := ⟨0, "field::Gate"⟩
    let fence : TypeToken := ⟨1, "field::Fence"⟩
    let filters : List (OneOrMany Recipe) :=
      [.many [⟨some gate, OrderedMap.empty⟩, ⟨none, OrderedMap.empty⟩], .one ⟨some fence, OrderedMap.empty⟩]
    let built := Dispatcher.build (fun _ => Behaviour.plain none ()) [⟨[], filters⟩] (World.start ())
    built.1 = .error .missingType ∧ built.2.container.isBound ⟨gate, .filter⟩ = true ∧
      built.2.container.isBound ⟨fence, .filter⟩ = false ∧ built.2.instances.length = 1 := by
  decide +kernel

end EventPipeline
