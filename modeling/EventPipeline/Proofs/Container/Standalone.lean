import EventPipeline.Proofs.Container.Delivery

/-! Types that are constructed without dependencies.

Their constructor asks for no other instance, and whatever else it learns it comes to one outcome. Under a
binding that shares nothing, creating such an instance depends on nothing that happened before: the instance
holds what the blueprint and the configuration say, behind all that exist, or there is the same failure
every time. The only trace is the binding of the first use, which shares nothing either. -/

namespace EventPipeline

open Json

variable {σ υ : Type}

/-- A request of a constructor that involves no other instance. -/
def ConstructRequest.Alone : ConstructRequest σ υ → Prop
  | .resolve _ => False
  | .invoke _ _ _ => False
  | .inspect _ => False
  | _ => True

/-- The script comes to this outcome, whatever it learns on the way, and involves no other instance. -/
inductive Standalone (outcome : Except ResolutionError (Blueprint σ)) :
    ConstructScript σ υ (Except ResolutionError (Blueprint σ)) → Prop where
  | done : Standalone outcome (.done outcome)
  | ask (request : ConstructRequest σ υ)
      (next : request.Answer → ConstructScript σ υ (Except ResolutionError (Blueprint σ)))
      (alone : request.Alone) (later : ∀ answer, Standalone outcome (next answer)) :
      Standalone outcome (.ask request next)

def Blueprint.instance (blueprint : Blueprint σ) (key : BindingKey) (configuration : Configuration) :
    Instance σ :=
  ⟨key.type, key.form, blueprint.properties.map (·.merge configuration), blueprint.state⟩

/-- Nothing has happened but that something was logged or shared. -/
structure World.Idle (before after : World σ υ) : Prop where
  container : after.container = before.container
  instances : after.instances = before.instances
  clock : after.clock = before.clock

theorem World.Idle.refl (world : World σ υ) : World.Idle world world := ⟨rfl, rfl, rfl⟩

theorem World.Idle.trans {first second third : World σ υ} (left : World.Idle first second)
    (right : World.Idle second third) : World.Idle first third :=
  ⟨right.container.trans left.container, right.instances.trans left.instances,
    right.clock.trans left.clock⟩

theorem Factory.ensureBound_clock (key : BindingKey) (scope : Scope) (world : World σ υ) :
    (Factory.ensureBound key scope world).clock = world.clock := by
  unfold Factory.ensureBound
  split
  · rfl
  · split
    · rfl
    · rfl

/-- Nothing has happened but what idling allows and that keys were bound which share nothing. -/
structure World.Readied (before after : World σ υ) : Prop where
  instances : after.instances = before.instances
  shared : ∀ other, after.container.scopeOf? other = some .shared ↔
    before.container.scopeOf? other = some .shared
  clock : after.clock = before.clock

theorem World.Readied.has {before after : World σ υ} (readied : before.Readied after) {id : InstanceId}
    {held : Instance σ} (has : before.Has id held) : after.Has id held := by
  unfold World.Has World.instance?
  rw [readied.instances]
  exact has

theorem World.Readied.nextId_eq {before after : World σ υ} (readied : before.Readied after) :
    after.nextId = before.nextId :=
  congrArg List.length readied.instances

theorem Factory.ensureBound_readied {key : BindingKey} {world after : World σ υ}
    (idle : (Factory.ensureBound key .transient world).Idle after) : world.Readied after where
  instances := idle.instances.trans (Factory.instances_ensureBound key .transient world)
  shared other := by
    rw [idle.container]
    exact shared_ensureBound key other world
  clock := idle.clock.trans (Factory.ensureBound_clock key .transient world)

theorem World.Has.lt_nextId {id : InstanceId} {held : Instance σ} {world : World σ υ}
    (has : world.Has id held) : id < world.nextId :=
  (List.getElem?_eq_some_iff.mp has).1

theorem World.Furnished.transient {key : BindingKey} {world : World σ υ} {binding : Binding}
    (furnished : world.Furnished) (unshared : world.container.scopeOf? key ≠ some .shared)
    (bound : world.container.binding? key = some binding) :
    binding.scope = .transient ∧ binding.provider = .constructor key.type key.form := by
  have own : binding.scope ≠ .shared := by
    intro same
    apply unshared
    rw [Container.scopeOf?, bound, Option.map_some, same]
  refine ⟨?_, furnished.constructor_of_vacant bound fun same => absurd same own⟩
  cases scope : binding.scope with
  | transient => rfl
  | shared => exact absurd scope own

variable [Inhabited σ] {catalogue : Catalogue σ υ} {outcome : Except ResolutionError (Blueprint σ)}

theorem answerConstructor_alone {request : BindingKey → Action (World σ υ) ResolutionError InstanceId}
    {asked : ConstructRequest σ υ} (alone : asked.Alone) (world : World σ υ) : ∃ reply after,
      @answerConstructor σ υ ResolutionError _ catalogue request asked world = (.ok reply, after) ∧
        world.Idle after := by
  cases asked with
  | resolve key => exact alone.elim
  | isBound key => exact ⟨_, world, rfl, .refl world⟩
  | invoke dependency method slots => exact alone.elim
  | inspect dependency => exact alone.elim
  | shared => exact ⟨_, world, rfl, .refl world⟩
  | setShared shared => exact ⟨(), _, rfl, rfl, rfl, rfl⟩
  | log entry => exact ⟨(), _, rfl, rfl, rfl, rfl⟩

theorem Standalone.run {request : BindingKey → Action (World σ υ) ResolutionError InstanceId}
    {script : ConstructScript σ υ (Except ResolutionError (Blueprint σ))}
    (standalone : Standalone outcome script) (world : World σ υ) : ∃ after,
      script.run (@answerConstructor σ υ ResolutionError _ catalogue request) world =
        (.ok outcome, after) ∧ world.Idle after := by
  induction standalone generalizing world with
  | done => exact ⟨world, rfl, .refl world⟩
  | ask asked next alone _ ih =>
    obtain ⟨reply, between, answered, first⟩ :=
      @answerConstructor_alone σ υ _ catalogue request asked alone world
    obtain ⟨after, ran, second⟩ := ih reply between
    refine ⟨after, ?_, first.trans second⟩
    rw [Script.run_ask, answered]
    exact ran

theorem Standalone.unique {script : ConstructScript σ υ (Except ResolutionError (Blueprint σ))}
    {other : Except ResolutionError (Blueprint σ)} (first : Standalone outcome script)
    (second : Standalone other script) (catalogue : Catalogue σ υ) (world : World σ υ) :
    outcome = other := by
  obtain ⟨_, ran, _⟩ := @Standalone.run σ υ _ catalogue _ (resolve catalogue) _ first world
  obtain ⟨_, reran, _⟩ := @Standalone.run σ υ _ catalogue _ (resolve catalogue) _ second world
  exact Except.ok.inj (congrArg Prod.fst (ran.symm.trans reran))

theorem resolve_standalone {key : BindingKey} {world : World σ υ} {binding : Binding}
    (standalone : Standalone outcome (catalogue key.type).construct)
    (bound : world.container.binding? key = some binding) (transient : binding.scope = .transient)
    (provider : binding.provider = .constructor key.type key.form) : ∃ after, world.Idle after ∧
      resolve catalogue key world = match outcome with
        | .ok blueprint => (.ok after.nextId,
            after.add ⟨key.type, key.form, blueprint.properties, blueprint.state⟩)
        | .error error => (.error error, after) := by
  obtain ⟨after, ran, idle⟩ := @Standalone.run σ υ _ catalogue outcome
    (request catalogue world.container.bindings ([] ++ [key])) _ standalone world
  refine ⟨after, idle, ?_⟩
  unfold resolve request Action.bind
  rw [resolveKey_of_bound List.not_mem_nil bound, transient]
  simp only [provide, provider, construct, Action.bind_apply, ran]
  cases outcome with
  | error error => rfl
  | ok blueprint =>
    have shown := World.shows_add_nextId after
      ⟨key.type, key.form, blueprint.properties, blueprint.state⟩
    simp only [Action.ofExcept_apply, Action.view_apply, Action.modify_apply, Action.pure_apply, readAs,
      shown.form_eq, if_true]

/-- What creating an instance of a type that is constructed without dependencies comes to. -/
structure Factory.Settled (outcome : Except ResolutionError (Blueprint σ)) (key : BindingKey)
    (configuration : Configuration) (world : World σ υ)
    (result : Except FactoryError InstanceId × World σ υ) : Prop where
  answer : result.1 = (outcome.mapError FactoryError.resolution).map fun _ => world.nextId
  made : ∀ blueprint, outcome = .ok blueprint →
    result.2.Has world.nextId (blueprint.instance key configuration)
  kept : ∀ id held, world.Has id held → result.2.Has id held
  shared : ∀ other, result.2.container.scopeOf? other = some .shared ↔
    world.container.scopeOf? other = some .shared
  clock : result.2.clock = world.clock

theorem Factory.configure_clock (target : InstanceId) (configuration : Configuration)
    (world : World σ υ) : (Factory.configure target configuration world).clock = world.clock := by
  unfold Factory.configure
  split
  · rfl
  · split
    · rfl
    · rfl

theorem resolve_bound_standalone {key : BindingKey} {world : World σ υ}
    (standalone : Standalone outcome (catalogue key.type).construct) (furnished : world.Furnished)
    (unshared : world.container.scopeOf? key ≠ some .shared) : ∃ after, world.Readied after ∧
      resolve catalogue key (Factory.ensureBound key .transient world) = match outcome with
        | .ok blueprint => (.ok after.nextId,
            after.add ⟨key.type, key.form, blueprint.properties, blueprint.state⟩)
        | .error error => (.error error, after) := by
  have first := furnished.ensureBound key .transient
  have settled := mt (shared_ensureBound key key world).mp unshared
  obtain ⟨binding, bound⟩ := world.container.binding?_bind key .transient
  rw [← Factory.container_ensureBound] at bound
  obtain ⟨transient, provider⟩ := first.transient settled bound
  obtain ⟨after, idle, resolved⟩ := resolve_standalone standalone bound transient provider
  exact ⟨after, Factory.ensureBound_readied idle, resolved⟩

theorem createInstance_settled {key : BindingKey} {world : World σ υ}
    (standalone : Standalone outcome (catalogue key.type).construct) (furnished : world.Furnished)
    (unshared : world.container.scopeOf? key ≠ some .shared) (configuration : Configuration) :
    Factory.Settled outcome key configuration world
      (Factory.createInstance catalogue (some key.type) key.view configuration false world) := by
  obtain ⟨after, readied, resolved⟩ := resolve_bound_standalone standalone furnished unshared
  have delivered := Factory.createInstance_some catalogue key.type key.view configuration false world
  rw [show resolve catalogue ⟨key.type, key.view⟩
    (Factory.ensureBound ⟨key.type, key.view⟩ (.ofShared false) world) = _ from resolved] at delivered
  rw [delivered]
  cases outcome with
  | error error => exact ⟨rfl, nofun, fun _ _ => readied.has, readied.shared, readied.clock⟩
  | ok blueprint =>
    have stands : (after.add ⟨key.type, key.form, blueprint.properties, blueprint.state⟩).Has
        after.nextId ⟨key.type, key.form, blueprint.properties, blueprint.state⟩ :=
      List.getElem?_concat_length
    have steady := configure_steady after.nextId configuration
      (after.add ⟨key.type, key.form, blueprint.properties, blueprint.state⟩)
    refine ⟨congrArg Except.ok readied.nextId_eq, ?_, ?_, ?_,
      (Factory.configure_clock ..).trans readied.clock⟩
    · rintro _ ⟨⟩
      rw [← readied.nextId_eq]
      exact stands.configured configuration
    · intro id held has
      have before := readied.has has
      exact (before.add _).configure (Nat.ne_of_gt before.lt_nextId) configuration
    · intro other
      rw [steady.container]
      exact readied.shared other

end EventPipeline
