import EventPipeline.Proofs.Container.Standalone
import EventPipeline.Proofs.Dispatch.Posts
import EventPipeline.Proofs.World.Apart

/-! Worlds in which a dispatcher finds its filters and extractors as they were made.

Where types are constructed without dependencies and nothing binds them as shared, the instance of a recipe
is told by its blueprint and its configuration. As long as evaluating it leaves it as it is, it stays so
through everything that a dispatch does to the world: an evaluation touches only its own instance, and an
activation works on an instance that was not there before. -/

namespace EventPipeline

open Json

variable {σ υ ε α β : Type}

/-- What a document needs instances of: its recipes, and the targets of its activation units. -/
def PipelineDocument.keys (document : PipelineDocument) : List BindingKey :=
  document.demands.filterMap Demand.key? ++
    document.middleware.filterMap fun entry => entry.activation.target.map (⟨·, .component⟩)

/-- The container is one that its own calls have led to, and binds nothing as shared that the documents need:
each of their types is unbound or bound as transient. -/
structure World.Open (documents : List PipelineDocument) (world : World σ υ) : Prop where
  furnished : world.Furnished
  unshared : ∀ document ∈ documents, ∀ key ∈ document.keys, world.container.scopeOf? key ≠ some .shared

theorem World.Open.steady {documents : List PipelineDocument} {world after : World σ υ}
    (isOpen : world.Open documents) (same : world.Steady after) : after.Open documents where
  furnished := isOpen.furnished.steady same
  unshared := by
    rw [same.container]
    exact isOpen.unshared

/-! ### Evaluation -/

section Evaluation

variable [Inhabited σ]

/-- The answers of a type are read off the event and some part of the instance, and evaluating an instance
leaves this part as it is. -/
structure Unmoved (part : Instance σ → β)
    (evaluate : InstanceId → Event → Action (World σ υ) Cause α) (type : TypeToken) : Prop where
  kept : ∀ event id held (world : World σ υ), held.type = type → world.Has id held →
    ∃ left, (evaluate id event world).2.Has id left ∧ part left = part held
  answered : ∀ event id twin held other (world elsewhere : World σ υ), held.type = type →
    other.type = type → part held = part other → world.Has id held → elsewhere.Has twin other →
    (evaluate id event world).1 = (evaluate twin event elsewhere).1

def Evaluates (evaluate : InstanceId → Event → Action (World σ υ) Cause α) : Prop :=
  ∀ (Holds : World σ υ → Prop) id,
    (∀ request world, Holds world → Holds (@World.answerOwn σ υ _ Cause id request world).2) →
    ∀ event world, Holds world → Holds (evaluate id event world).2

theorem accepts_evaluates (catalogue : Catalogue σ υ) : Evaluates (accepts catalogue) :=
  fun _ _ own event world holds => accepts_keeps own event world holds

theorem extract_evaluates (catalogue : Catalogue σ υ) : Evaluates (extract catalogue) :=
  fun _ _ own event world holds => extract_keeps own event world holds

namespace Evaluates

variable {evaluate : InstanceId → Event → Action (World σ υ) Cause α} (evaluates : Evaluates evaluate)

include evaluates

theorem steady (id : InstanceId) (event : Event) (world : World σ υ) :
    world.Steady (evaluate id event world).2 :=
  evaluates (World.Steady world) id
    (fun request between steady => steady.trans (World.answerOwn_steady id request between))
    event world (.refl world)

theorem type_eq {id : InstanceId} {held left : Instance σ} {event : Event} {world : World σ υ}
    (has : world.Has id held) (stands : (evaluate id event world).2.Has id left) :
    left.type = held.type := by
  obtain ⟨kept, found, kind⟩ := (evaluates.steady id event world).instance? has
  obtain rfl := Option.some.inj (found.symm.trans stands)
  exact congrArg Prod.fst kind

theorem clock (id : InstanceId) (event : Event) (world : World σ υ) :
    (evaluate id event world).2.clock = world.clock := by
  refine evaluates (fun after => after.clock = world.clock) id ?_ event world rfl
  intro request between same
  cases request with
  | _ => exact same

theorem spares {id other : InstanceId} (apart : id ≠ other) {held : Instance σ} (event : Event)
    {world : World σ υ} (has : world.Has other held) : (evaluate id event world).2.Has other held :=
  evaluates (World.Has other held) id (fun request _ there => there.answerOwn apart request) event world has

end Evaluates

end Evaluation

/-! ### Products -/

variable [Inhabited σ] {catalogue : Catalogue σ υ} {documents : List PipelineDocument}

/-- The instance that a recipe describes. -/
def Demand.Product (catalogue : Catalogue σ υ) (demand : Demand) (held : Instance σ) : Prop :=
  ∃ type blueprint, demand.recipe.type = some type ∧
    Standalone (.ok blueprint) (catalogue type).construct ∧
    held = blueprint.instance ⟨type, demand.view⟩ demand.recipe.configuration

theorem Demand.Product.unique {demand : Demand} {one other : Instance σ}
    (first : demand.Product catalogue one) (second : demand.Product catalogue other)
    (world : World σ υ) : one = other := by
  obtain ⟨type, blueprint, named, standalone, rfl⟩ := first
  obtain ⟨_, again, renamed, restandalone, rfl⟩ := second
  obtain rfl := Option.some.inj (named.symm.trans renamed)
  obtain rfl := Except.ok.inj (standalone.unique restandalone catalogue world)
  rfl

omit [Inhabited σ] in
theorem Demand.Product.named {demand : Demand} {held : Instance σ}
    (product : demand.Product catalogue held) : demand.recipe.type = some held.type := by
  obtain ⟨_, blueprint, known, _, rfl⟩ := product
  exact known

/-! ### Manned worlds -/

def World.HasPart (part : Instance σ → β) (id : InstanceId) (held : Instance σ) (world : World σ υ) : Prop :=
  ∃ kept, world.Has id kept ∧ kept.type = held.type ∧ part kept = part held

/-- Under their numbers, instances stand as the recipes describe them that they were made for, in the part
that answers are read off. -/
structure World.Manned (catalogue : Catalogue σ υ) (part : Instance σ → β)
    (documents : List PipelineDocument) (served : List (Demand × InstanceId)) (world : World σ υ) :
    Prop where
  isOpen : world.Open documents
  posts : ∀ pair ∈ served, ∃ held, pair.1.Product catalogue held ∧ world.HasPart part pair.2 held

namespace World.Manned

variable {part : Instance σ → β} {served : List (Demand × InstanceId)} {world : World σ υ}
  (manned : world.Manned catalogue part documents served)

include manned

omit [Inhabited σ] in
theorem retime (clock : Clock) : Manned catalogue part documents served { world with clock } :=
  ⟨manned.isOpen.steady ⟨rfl, rfl⟩, manned.posts⟩

omit [Inhabited σ] in
theorem report (entry : LogEntry) : (world.report entry).Manned catalogue part documents served :=
  ⟨manned.isOpen.steady ⟨rfl, rfl⟩, manned.posts⟩

omit [Inhabited σ] in
theorem ne_nextId {pair : Demand × InstanceId} (among : pair ∈ served) : world.nextId ≠ pair.2 := by
  obtain ⟨_, _, kept, has, _⟩ := manned.posts pair among
  exact Nat.ne_of_gt has.lt_nextId

omit [Inhabited σ] in
theorem created {outcome : Except ResolutionError (Blueprint σ)} {key : BindingKey}
    {configuration : Configuration} {result : Except FactoryError InstanceId × World σ υ}
    (settled : Factory.Settled outcome key configuration world result)
    (still : result.2.Open documents) : result.2.Manned catalogue part documents served where
  isOpen := still
  posts pair among := by
    obtain ⟨held, product, kept, has, same⟩ := manned.posts pair among
    exact ⟨held, product, kept, settled.kept pair.2 kept has, same⟩

section Evaluation

variable {evaluate : InstanceId → Event → Action (World σ υ) Cause α} (evaluates : Evaluates evaluate)
  {demand : Demand} {id : InstanceId} (post : (demand, id) ∈ served)
  (unmoved : ∀ type, demand.recipe.type = some type → Unmoved part evaluate type) (event : Event)

include evaluates post unmoved

theorem evaluated : (evaluate id event world).2.Manned catalogue part documents served where
  isOpen := manned.isOpen.steady (evaluates.steady id event world)
  posts pair among := by
    obtain ⟨held, product, kept, has, type, same⟩ := manned.posts pair among
    by_cases here : id = pair.2
    · obtain ⟨own, made, _, stands, ownType, _⟩ := manned.posts (demand, id) post
      obtain rfl := Option.some.inj (stands.symm.trans (here ▸ has))
      obtain ⟨left, there, unchanged⟩ := (unmoved own.type made.named).kept event id _ world ownType stands
      rw [← here]
      exact ⟨held, product, left, there, (evaluates.type_eq stands there).trans type, unchanged.trans same⟩
    · exact ⟨held, product, kept, evaluates.spares here event has, type, same⟩

end Evaluation

theorem invoked {target : InstanceId} (apart : ∀ pair ∈ served, target ≠ pair.2)
    (cutoff : Option (Cutoff ε)) (method : String) (slots : Slots) (context : RunContext) :
    (invokeWithin catalogue cutoff target method slots ⟨world, context⟩).2.world.Manned catalogue
      part documents served where
  isOpen := manned.isOpen.steady (invokeWithin_steady catalogue cutoff target method slots ⟨world, context⟩)
  posts pair among := by
    obtain ⟨held, product, kept, has, same⟩ := manned.posts pair among
    refine ⟨held, product, kept, ?_, same⟩
    exact invokeWithin_keeps (fun request world there => there.answerOwn (apart pair among) request)
      (fun _ _ there => there) cutoff method slots ⟨world, context⟩ has

end World.Manned

/-! ### Building -/

/-- The types that the documents need are constructed without dependencies. -/
def Unattached (catalogue : Catalogue σ υ) (documents : List PipelineDocument) : Prop :=
  ∀ document ∈ documents, ∀ key ∈ document.keys, ∃ outcome,
    Standalone outcome (catalogue key.type).construct

theorem PipelineDocument.mem_keys_of_demand {demand : Demand} {type : TypeToken}
    (listed : demand ∈ documents.flatMap PipelineDocument.demands)
    (named : demand.recipe.type = some type) :
    ∃ document ∈ documents, ⟨type, demand.view⟩ ∈ document.keys := by
  obtain ⟨document, declared, among⟩ := List.mem_flatMap.mp listed
  refine ⟨document, declared, List.mem_append_left _ (List.mem_filterMap.mpr ⟨demand, among, ?_⟩)⟩
  rw [Demand.key?, named, Option.map_some]

theorem PipelineDocument.mem_keys_of_target {document : PipelineDocument} {entry : MiddlewareDocument}
    {type : TypeToken} (stacked : entry ∈ document.middleware) (named : entry.activation.target = some type) :
    ⟨type, .component⟩ ∈ document.keys := by
  refine List.mem_append_right _ (List.mem_filterMap.mpr ⟨entry, stacked, ?_⟩)
  rw [named, Option.map_some]

section Building

variable (unattached : Unattached catalogue documents)

include unattached

theorem World.Open.creates {world : World σ υ} (isOpen : world.Open documents) {key : BindingKey}
    (needed : ∃ document ∈ documents, key ∈ document.keys) (configuration : Configuration) :
    ∃ outcome, Standalone outcome (catalogue key.type).construct ∧
      Factory.Settled outcome key configuration world
        (Factory.createInstance catalogue (some key.type) key.view configuration false world) ∧
      (Factory.createInstance catalogue (some key.type) key.view configuration false world).2.Open
        documents := by
  obtain ⟨document, declared, among⟩ := needed
  obtain ⟨outcome, standalone⟩ := unattached document declared key among
  have settled := createInstance_settled standalone isOpen.furnished
    (isOpen.unshared document declared key among) configuration
  refine ⟨outcome, standalone, settled, isOpen.furnished.createInstance .., ?_⟩
  intro other listed wanted needs shared
  exact isOpen.unshared other listed wanted needs ((settled.shared wanted).mp shared)

/-- Every instance that is made for a recipe is what the recipe describes, and stays so while others are
made. -/
theorem Creations.mans (part : Instance σ → β) {world after : World σ υ} {served : List (Demand × InstanceId)}
    (creations : Creations catalogue world served after) (isOpen : world.Open documents)
    (listed : ∀ pair ∈ served, pair.1 ∈ documents.flatMap PipelineDocument.demands) :
    after.Manned catalogue part documents served ∧ ∀ id held, world.Has id held → after.Has id held := by
  induction creations with
  | done world =>
    exact ⟨⟨isOpen, fun _ among => (List.not_mem_nil among).elim⟩, fun _ _ has => has⟩
  | @next world between after demand id rest created later ih =>
    cases named : demand.recipe.type with
    | none =>
      rw [Factory.create, named] at created
      cases created
    | some type =>
      have needed := PipelineDocument.mem_keys_of_demand (listed _ (List.mem_cons_self ..)) named
      obtain ⟨outcome, standalone, settled, still⟩ :=
        isOpen.creates unattached needed demand.recipe.configuration
      rw [Factory.create, named] at created
      simp only [created] at settled still
      obtain ⟨onward, kept⟩ := ih still fun pair among => listed pair (List.mem_cons_of_mem _ among)
      refine ⟨⟨onward.isOpen, ?_⟩, fun other held has => kept other held (settled.kept other held has)⟩
      intro pair among
      rcases List.mem_cons.mp among with rfl | behind
      · cases outcome with
        | error error => cases settled.answer
        | ok blueprint =>
          obtain rfl := Except.ok.inj settled.answer
          exact ⟨_, ⟨type, blueprint, named, standalone, rfl⟩, _, kept _ _ (settled.made blueprint rfl),
            rfl, rfl⟩
      · exact onward.posts pair behind

theorem World.Open.create_ok {world : World σ υ} (isOpen : world.Open documents) {demand : Demand}
    {held : Instance σ} (product : demand.Product catalogue held)
    (listed : demand ∈ documents.flatMap PipelineDocument.demands) :
    (Factory.create catalogue demand.recipe demand.view false world).1 = .ok world.nextId := by
  obtain ⟨type, blueprint, named, standalone, _⟩ := product
  obtain ⟨outcome, same, settled, _⟩ := isOpen.creates unattached
    (PipelineDocument.mem_keys_of_demand listed named) demand.recipe.configuration
  obtain rfl := same.unique standalone catalogue world
  rw [Factory.create, named]
  exact settled.answer

theorem Dispatcher.build_mans (part : Instance σ → β) {dispatcher : Dispatcher} {world after : World σ υ}
    (isOpen : world.Open documents)
    (ran : Dispatcher.build catalogue documents world = (.ok dispatcher, after)) :
    ∃ served, served.map (·.1) = documents.flatMap PipelineDocument.demands ∧
      List.Forall₂ (Pipeline.Posted fun demand id => (demand, id) ∈ served) documents
        dispatcher.pipelines ∧
      after.Manned catalogue part documents served := by
  obtain ⟨served, reached, creations, demands, _, posted, rfl⟩ := Dispatcher.build_posted ran
  have listed : ∀ pair ∈ served, pair.1 ∈ documents.flatMap PipelineDocument.demands :=
    fun pair among => demands ▸ List.mem_map_of_mem among
  exact ⟨served, demands, posted, (creations.mans unattached part isOpen listed).1.report _⟩

/-- What has been built over one open world can be built over every other. -/
theorem Dispatcher.build_again {dispatcher : Dispatcher} {world after elsewhere : World σ υ}
    (isOpen : world.Open documents)
    (ran : Dispatcher.build catalogue documents world = (.ok dispatcher, after))
    (alsoOpen : elsewhere.Open documents) :
    ∃ fresh ready, Dispatcher.build catalogue documents elsewhere = (.ok fresh, ready) := by
  rcases reran : Dispatcher.build catalogue documents elsewhere with ⟨error | fresh, ready⟩
  · obtain ⟨cause, _, earlier, demand, later, ids, between, shape, ⟨before, creations, same, _⟩, failed⟩ :=
      Dispatcher.build_fails reran
    obtain ⟨served, demands, _, manned⟩ := Dispatcher.build_mans unattached id isOpen ran
    have listed : demand ∈ documents.flatMap PipelineDocument.demands := by
      rw [shape]
      exact List.mem_append_right _ (List.mem_cons_self ..)
    have stands := (creations.mans unattached id alsoOpen fun pair among => by
      rw [shape, ← same]
      exact List.mem_append_left _ (List.mem_map_of_mem among)).1.isOpen
    -- The recipe that fails here has got its instance there, so its type is constructed with success.
    obtain ⟨pair, among, rfl⟩ := List.mem_map.mp (demands ▸ listed)
    obtain ⟨held, product, _⟩ := manned.posts pair among
    have succeeds := stands.create_ok unattached product listed
    rw [failed] at succeeds
    cases succeeds
  · exact ⟨fresh, ready, rfl⟩

end Building

end EventPipeline
