import EventPipeline.Proofs.Container.Creation
import EventPipeline.Proofs.Container.Sharing

/-! How an instance is come by from outside.

Either a shared binding holds it already, and then nothing happens, or the constructor of the type
makes it, as the last of all instances; a shared binding keeps it from then on. Creating does the same
with a key that it has bound before, and configures the instance. -/

namespace EventPipeline

open Json

variable {σ υ : Type} [Inhabited σ]

/-- A resolution from outside that comes by an instance of a key. -/
inductive Delivery (catalogue : Catalogue σ υ) (key : BindingKey) (world : World σ υ) :
    InstanceId → World σ υ → Prop where
  | held {id : InstanceId} (shared : world.container.scopeOf? key = some .shared)
      (full : world.container.cell? key = some id) : Delivery catalogue key world id world
  | made {scope : Scope} {blueprint : Blueprint σ} {between : World σ υ}
      (bound : world.container.scopeOf? key = some scope)
      (built : constructing catalogue key world = (.ok (.ok blueprint), between))
      (table : between.container.bindings = world.container.bindings)
      (empty : between.container.cell? key = none) :
      Delivery catalogue key world between.nextId
        ((between.add ⟨key.type, key.form, blueprint.properties, blueprint.state⟩).keep scope key
          between.nextId)

theorem of_building_ok {catalogue : Catalogue σ υ}
    {request : BindingKey → Action (World σ υ) ResolutionError InstanceId} {type : TypeToken}
    {form : Form} {script : ConstructScript σ υ (Except ResolutionError (Blueprint σ))}
    {world after : World σ υ} {id : InstanceId}
    (ran : building catalogue request type form script world = (.ok id, after)) :
    ∃ blueprint between,
      script.run (@answerConstructor σ υ ResolutionError _ catalogue request) world =
        (.ok (.ok blueprint), between) ∧
      id = between.nextId ∧
      after = between.add ⟨type, form, blueprint.properties, blueprint.state⟩ := by
  obtain ⟨outcome, between, built, rest⟩ := Action.of_bind_ok ran
  cases outcome with
  | error error => cases rest
  | ok blueprint =>
    cases rest
    exact ⟨blueprint, between, built, rfl, rfl⟩

section Resolving

variable {catalogue : Catalogue σ υ} {key : BindingKey} {world after : World σ υ} {id : InstanceId}

theorem Runs.delivery {incidents : List Incident} {result : Except ResolutionError InstanceId}
    {reached : Resolver σ υ}
    (run : Runs catalogue (.resolve none key) ⟨[], world⟩ incidents result reached)
    (furnished : world.Furnished) (delivered : result = .ok id) :
    Delivery catalogue key world id reached.world := by
  cases run with
  | circular _ onPath => cases onPath
  | unbound => cases delivered
  | held _ _ found shared full =>
    obtain rfl := readAs_eq_ok delivered
    have bound : world.container.scopeOf? key = some _ := congrArg (Option.map _) found
    exact .held (bound.trans (congrArg some shared)) full
  | spent => cases delivered
  | failed => cases delivered
  | @built _ reached _ binding _ _ _ made _ _ found vacant provider construction =>
    obtain rfl := readAs_eq_ok delivered
    obtain ⟨rfl, rfl⟩ := furnished.kind_of_vacant found vacant provider
    obtain ⟨blueprint, between, built, rfl, same⟩ := of_building_ok construction.sound
    have still := construction.spares (List.mem_singleton_self key)
    have table := construction.bindings_eq
    rw [same] at still table
    have bound : world.container.scopeOf? key = some binding.scope := congrArg (Option.map _) found
    simp only [Resolver.pop, Resolver.keep, same]
    exact .made bound built table (still.trans (furnished.vacant found vacant))

theorem resolve_delivery (furnished : world.Furnished)
    (ran : resolve catalogue key world = (.ok id, after)) :
    Delivery catalogue key world id after := by
  obtain ⟨_, run⟩ := runs_of_resolve catalogue key world
  rw [ran] at run
  exact run.delivery furnished rfl

namespace Delivery

theorem new (delivery : Delivery catalogue key world id after)
    (unshared : world.container.scopeOf? key ≠ some .shared) :
    world.nextId ≤ id ∧ ∃ blueprint between,
      constructing catalogue key world = (.ok (.ok blueprint), between) ∧ id = between.nextId := by
  cases delivery with
  | held shared _ => exact absurd shared unshared
  | made _ built _ _ => exact ⟨constructing_populates built, _, _, built, rfl⟩

theorem bindings_eq (delivery : Delivery catalogue key world id after) :
    after.container.bindings = world.container.bindings := by
  cases delivery with
  | held _ _ => rfl
  | made _ _ table _ => exact (World.bindings_keep ..).trans table

theorem scopeOf?_eq (delivery : Delivery catalogue key world id after) :
    after.container.scopeOf? key = world.container.scopeOf? key := by
  unfold Container.scopeOf? Container.binding?
  rw [delivery.bindings_eq]

theorem isBound (delivery : Delivery catalogue key world id after) :
    after.container.isBound key = true := by
  have bound : ∃ scope, world.container.scopeOf? key = some scope := by
    cases delivery with
    | held shared _ => exact ⟨_, shared⟩
    | made bound _ _ _ => exact ⟨_, bound⟩
  obtain ⟨scope, bound⟩ := bound
  obtain ⟨binding, found, _⟩ := Option.map_eq_some_iff.mp (delivery.scopeOf?_eq.trans bound)
  exact Option.isSome_of_eq_some found

theorem cell (delivery : Delivery catalogue key world id after)
    (shared : world.container.scopeOf? key = some .shared) :
    after.container.cell? key = some id := by
  cases delivery with
  | held _ full => exact full
  | made bound _ _ empty =>
    obtain rfl := Option.some.inj (bound.symm.trans shared)
    rw [World.cell?_keep, if_pos ⟨rfl, rfl⟩]
    exact Option.or_eq_some_iff.mpr (.inr ⟨empty, rfl⟩)

theorem madeFor (delivery : Delivery catalogue key world id after) (furnished : world.Furnished) :
    after.MadeFor key id := by
  cases delivery with
  | held _ full => exact (furnished.cells key id full).1
  | @made scope blueprint between _ _ _ _ =>
    have added := @World.madeFor_add_nextId _ _ key between
      ⟨key.type, key.form, blueprint.properties, blueprint.state⟩ rfl rfl
    exact added.keep ..

end Delivery

end Resolving

/-! ### Creating -/

section Creating

variable {catalogue : Catalogue σ υ} {world after : World σ υ}

omit [Inhabited σ] in
@[simp] theorem Factory.nextId_ensureBound (key : BindingKey) (scope : Scope)
    (world : World σ υ) : (Factory.ensureBound key scope world).nextId = world.nextId :=
  congrArg List.length (Factory.instances_ensureBound key scope world)

omit [Inhabited σ] in
theorem Factory.ensureBound_steady (key : BindingKey) (scope : Scope) (world : World σ υ) :
    (world.changeContainer (·.bind key scope)).Steady (Factory.ensureBound key scope world) :=
  ⟨Factory.container_ensureBound key scope world, by rw [Factory.instances_ensureBound]; rfl⟩

omit [Inhabited σ] in
theorem World.Furnished.ensureBound (furnished : world.Furnished) (key : BindingKey)
    (scope : Scope) : (Factory.ensureBound key scope world).Furnished :=
  (furnished.bind key scope).steady (Factory.ensureBound_steady key scope world)

omit [Inhabited σ] in
theorem World.Grows.ensureBound (key : BindingKey) (scope : Scope) (world : World σ υ) :
    world.Grows (Factory.ensureBound key scope world) :=
  (World.Grows.bind world key scope).trans (.ofSteady (Factory.ensureBound_steady key scope world))

omit [Inhabited σ] in
/-- A first use that asks for an instance of its own makes no key shared that was not shared before. -/
theorem shared_ensureBound (key other : BindingKey) (world : World σ υ) :
    (Factory.ensureBound key .transient world).container.scopeOf? other = some .shared ↔
      world.container.scopeOf? other = some .shared := by
  rw [Factory.container_ensureBound, Container.scopeOf?, Container.bind,
    Container.binding?_register, Container.scopeOf?]
  cases world.container.binding? other with
  | some held => rfl
  | none =>
    by_cases same : key = other
    · simp [same]
    · simp [same]

theorem createInstance_grows (catalogue : Catalogue σ υ) (type : Option TypeToken) (view : View)
    (configuration : Configuration) (shared : Bool) (world : World σ υ) :
    world.Grows
      (Factory.createInstance catalogue type view configuration shared world).2 := by
  cases type with
  | none => exact .refl world
  | some type =>
    have bound := World.Grows.ensureBound ⟨type, view⟩ (.ofShared shared) world
    have resolved := bound.trans (resolve_grows catalogue ⟨type, view⟩ _)
    rw [Factory.createInstance_some]
    revert resolved
    rcases resolve catalogue ⟨type, view⟩
      (Factory.ensureBound ⟨type, view⟩ (.ofShared shared) world) with ⟨error | created, reached⟩
    · exact fun resolved => resolved
    · exact fun resolved => resolved.trans (.ofSteady (configure_steady ..))

theorem World.Furnished.createInstance (furnished : world.Furnished) (catalogue : Catalogue σ υ)
    (type : Option TypeToken) (view : View) (configuration : Configuration) (shared : Bool) :
    (Factory.createInstance catalogue type view configuration shared world).2.Furnished := by
  cases type with
  | none => exact furnished
  | some type =>
    have resolved := (furnished.ensureBound ⟨type, view⟩ (.ofShared shared)).resolve catalogue
      ⟨type, view⟩
    rw [Factory.createInstance_some]
    revert resolved
    rcases EventPipeline.resolve catalogue ⟨type, view⟩
      (Factory.ensureBound ⟨type, view⟩ (.ofShared shared) world) with ⟨error | created, reached⟩
    · exact fun resolved => resolved
    · exact fun resolved => resolved.steady (configure_steady ..)

theorem createInstance_delivery {type : Option TypeToken} {view : View}
    {configuration : Configuration} {shared : Bool} {id : InstanceId} (furnished : world.Furnished)
    (ran : Factory.createInstance catalogue type view configuration shared world = (.ok id, after)) :
    ∃ known reached, type = some known ∧
      Delivery catalogue ⟨known, view⟩
        (Factory.ensureBound ⟨known, view⟩ (.ofShared shared) world) id reached ∧
      after = Factory.configure id configuration reached := by
  cases type with
  | none => cases ran
  | some type =>
    rw [Factory.createInstance_some] at ran
    rcases outcome : resolve catalogue ⟨type, view⟩
      (Factory.ensureBound ⟨type, view⟩ (.ofShared shared) world) with ⟨error | created, reached⟩
    · rw [outcome] at ran
      cases ran
    · rw [outcome] at ran
      cases ran
      exact ⟨type, reached, rfl, resolve_delivery (furnished.ensureBound _ _) outcome, rfl⟩

end Creating

end EventPipeline
