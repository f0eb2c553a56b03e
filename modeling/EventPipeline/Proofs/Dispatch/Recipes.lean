import EventPipeline.Proofs.Builtin.Filters
import EventPipeline.Proofs.Container.Carrying
import EventPipeline.Proofs.Container.Delivery
import EventPipeline.Proofs.Dispatch.Building

/-! The instances that recipes get.

A dispatcher asks for an instance of its own for each of its recipes. What it gets depends on the binding:
under one that shares nothing every recipe has an instance to itself, but where a type was bound as shared
before, all recipes of that type meet on one instance, and it is configured for each of them in turn. So
two recipes have one instance just when their key is the same and shared, and then the one that comes later
wins wherever both configure the same key. -/

namespace EventPipeline

open Json

variable {σ υ α β : Type}

/-! ### Recipes in their places -/

structure Demand where
  view : View
  recipe : Recipe
deriving DecidableEq

def Demand.key? (demand : Demand) : Option BindingKey := demand.recipe.type.map (⟨·, demand.view⟩)

def OneOrMany.demands (view : View) (entry : OneOrMany Recipe) : List Demand :=
  entry.toList.map (⟨view, ·⟩)

def MiddlewareDocument.demands (document : MiddlewareDocument) : List Demand :=
  document.extractors.entries.flatMap fun slot => slot.2.demands .extractor

/-- The recipes of a document, in the order in which instances are made for them. -/
def PipelineDocument.demands (document : PipelineDocument) : List Demand :=
  document.filters.flatMap (OneOrMany.demands .filter) ++
    document.middleware.flatMap MiddlewareDocument.demands

def Step.instances (step : Step) : List InstanceId :=
  step.extractors.entries.flatMap fun slot => slot.2.toList

def Pipeline.instances (pipeline : Pipeline) : List InstanceId :=
  pipeline.filters.flatMap OneOrMany.toList ++ pipeline.steps.flatMap Step.instances

def Dispatcher.instances (dispatcher : Dispatcher) : List InstanceId :=
  dispatcher.pipelines.flatMap Pipeline.instances

structure Pipeline.Shaped (document : PipelineDocument) (pipeline : Pipeline) : Prop where
  filters : List.Forall₂ (OneOrMany.Related fun _ _ => True) document.filters pipeline.filters
  extractors : List.Forall₂ (fun (entry : MiddlewareDocument) (step : Step) =>
    List.Forall₂ (fun (slot : UInt64 × OneOrMany Recipe) (made : UInt64 × OneOrMany InstanceId) =>
      slot.1 = made.1 ∧ OneOrMany.Related (fun _ _ => True) slot.2 made.2)
        entry.extractors.entries step.extractors.entries) document.middleware pipeline.steps

variable [Inhabited σ]

/-! ### One creation after another -/

/-- Recipes that get their instances one after another. -/
inductive Creations (catalogue : Catalogue σ υ) :
    World σ υ → List (Demand × InstanceId) → World σ υ → Prop where
  | done (world : World σ υ) : Creations catalogue world [] world
  | next {world between after : World σ υ} {demand : Demand} {id : InstanceId}
      {rest : List (Demand × InstanceId)}
      (first : Factory.create catalogue demand.recipe demand.view false world = (.ok id, between))
      (later : Creations catalogue between rest after) :
      Creations catalogue world ((demand, id) :: rest) after

/-- From one world to another, instances are made for recipes. -/
def Makes (catalogue : Catalogue σ υ) (demands : List Demand) (ids : List InstanceId)
    (world after : World σ υ) : Prop :=
  ∃ served, Creations catalogue world served after ∧ served.map (·.1) = demands ∧
    served.map (·.2) = ids

section Making

variable {catalogue : Catalogue σ υ} {world between after : World σ υ}

theorem Creations.append {served more : List (Demand × InstanceId)}
    (first : Creations catalogue world served between) (second : Creations catalogue between more after) :
    Creations catalogue world (served ++ more) after := by
  induction first with
  | done _ => exact second
  | next created _ ih => exact .next created (ih second)

theorem Creations.split {served more : List (Demand × InstanceId)}
    (creations : Creations catalogue world (served ++ more) after) :
    ∃ between, Creations catalogue world served between ∧ Creations catalogue between more after := by
  induction served generalizing world with
  | nil => exact ⟨world, .done world, creations⟩
  | cons pair rest ih =>
    cases creations with
    | next created later =>
      obtain ⟨reached, first, second⟩ := ih later
      exact ⟨reached, .next created first, second⟩

theorem Makes.append {demands others : List Demand} {ids more : List InstanceId}
    (first : Makes catalogue demands ids world between) (second : Makes catalogue others more between after) :
    Makes catalogue (demands ++ others) (ids ++ more) world after := by
  obtain ⟨served, early, rfl, rfl⟩ := first
  obtain ⟨rest, late, rfl, rfl⟩ := second
  exact ⟨served ++ rest, early.append late, List.map_append, List.map_append⟩

theorem makes_of_forEach (visit : α → Action (World σ υ) FactoryError β) {demands : α → List Demand}
    {instances : β → List InstanceId} {R : α → β → Prop}
    (each : ∀ element world value after, visit element world = (.ok value, after) →
      Makes catalogue (demands element) (instances value) world after ∧ R element value)
    {elements : List α} {values : List β}
    (ran : Action.forEach visit elements world = (.ok values, after)) :
    Makes catalogue (elements.flatMap demands) (values.flatMap instances) world after ∧
      List.Forall₂ R elements values := by
  induction elements generalizing world values with
  | nil =>
    cases ran
    exact ⟨⟨[], .done _, rfl, rfl⟩, .nil⟩
  | cons element rest ih =>
    obtain ⟨value, between, first, later⟩ := Action.of_bind_ok ran
    obtain ⟨others, reached, second, done⟩ := Action.of_bind_ok later
    cases done
    obtain ⟨here, related⟩ := each element world value between first
    obtain ⟨there, paired⟩ := ih second
    exact ⟨here.append there, .cons related paired⟩

theorem create_makes {view : View} {recipe : Recipe} {id : InstanceId}
    (ran : Factory.create catalogue recipe view false world = (.ok id, after)) :
    Makes catalogue [⟨view, recipe⟩] [id] world after :=
  ⟨[(⟨view, recipe⟩, id)], .next ran (.done after), rfl, rfl⟩

theorem instantiate_makes {view : View} {entry : OneOrMany Recipe} {made : OneOrMany InstanceId}
    (ran : instantiate catalogue view entry world = (.ok made, after)) :
    Makes catalogue (entry.demands view) made.toList world after ∧
      OneOrMany.Related (fun _ _ => True) entry made := by
  cases entry with
  | one recipe =>
    obtain ⟨id, between, first, done⟩ := Action.of_bind_ok ran
    cases done
    exact ⟨create_makes first, .one trivial⟩
  | many recipes =>
    obtain ⟨ids, between, each, done⟩ := Action.of_bind_ok ran
    cases done
    obtain ⟨makes, paired⟩ := makes_of_forEach (Factory.create catalogue · view false)
      (fun _ _ _ _ created => ⟨create_makes created, trivial⟩) each
    rw [List.flatMap_singleton', ← List.map_eq_flatMap] at makes
    exact ⟨makes, .many paired⟩

theorem Step.build_makes {document : MiddlewareDocument} {step : Step}
    (ran : Step.build catalogue document world = (.ok step, after)) :
    Makes catalogue document.demands step.instances world after ∧
      List.Forall₂ (fun slot made => slot.1 = made.1 ∧ OneOrMany.Related (fun _ _ => True) slot.2 made.2)
        document.extractors.entries step.extractors.entries := by
  obtain ⟨slots, between, filled, done⟩ := Action.of_bind_ok ran
  cases done
  obtain ⟨entries, reached, each, done⟩ := Action.of_bind_ok filled
  cases done
  have filling : ∀ (slot : UInt64 × OneOrMany Recipe) (world : World σ υ)
      (made : UInt64 × OneOrMany InstanceId) after,
      (do
        let created ← instantiate catalogue .extractor slot.2
        pure (slot.1, created) : Action (World σ υ) FactoryError _) world = (.ok made, after) →
        Makes catalogue (slot.2.demands .extractor) made.2.toList world after ∧
          slot.1 = made.1 ∧ OneOrMany.Related (fun _ _ => True) slot.2 made.2 := by
    intro slot world made after ran
    obtain ⟨created, between, first, done⟩ := Action.of_bind_ok ran
    cases done
    obtain ⟨makes, related⟩ := instantiate_makes first
    exact ⟨makes, rfl, related⟩
  obtain ⟨makes, paired⟩ := makes_of_forEach _ filling each
  -- The indexes are those of an ordered map, so that the instances stay in the order of the recipes.
  have keys : document.extractors.entries.map (·.1) = entries.map (·.1) :=
    map_eq_map_of_paired (paired.imp fun _ _ related => related.1)
  have ascending : entries.Pairwise fun a b => a.1 < b.1 := by
    rw [← List.pairwise_map, ← keys, List.pairwise_map]
    exact document.extractors.ordered
  unfold Step.instances
  simp only [OrderedMap.entries_ofList ascending]
  exact ⟨makes, paired⟩

theorem Pipeline.build_makes {document : PipelineDocument} {pipeline : Pipeline}
    (ran : Pipeline.build catalogue document world = (.ok pipeline, after)) :
    Makes catalogue document.demands pipeline.instances world after ∧
      Pipeline.Shaped document pipeline := by
  obtain ⟨filters, between, first, later⟩ := Action.of_bind_ok ran
  obtain ⟨steps, reached, second, done⟩ := Action.of_bind_ok later
  cases done
  obtain ⟨filtered, shaped⟩ := makes_of_forEach (instantiate catalogue .filter)
    (fun _ _ _ _ => instantiate_makes) first
  obtain ⟨stepped, filled⟩ := makes_of_forEach (Step.build catalogue)
    (fun _ _ _ _ => Step.build_makes) second
  exact ⟨filtered.append stepped, shaped, filled⟩

theorem Dispatcher.build_makes {documents : List PipelineDocument} {dispatcher : Dispatcher}
    (ran : Dispatcher.build catalogue documents world = (.ok dispatcher, after)) :
    ∃ reached, Makes catalogue (documents.flatMap PipelineDocument.demands) dispatcher.instances world
        reached ∧
      List.Forall₂ Pipeline.Shaped documents dispatcher.pipelines ∧
      after = reached.report (Dispatcher.readyEntry dispatcher.pipelines) := by
  obtain ⟨pipelines, reached, first, later⟩ := Action.of_bind_ok ran
  cases later
  obtain ⟨makes, shaped⟩ := makes_of_forEach (Pipeline.build catalogue)
    (fun _ _ _ _ => Pipeline.build_makes) (Action.of_mapError_ok first)
  exact ⟨reached, makes, shaped, rfl⟩

/-! ### What one creation gives -/

/-- A recipe is met with an instance made for its key, which is the one of the binding if that is shared,
and else one that was not there before. -/
def Demand.Met (demand : Demand) (id : InstanceId) (world after : World σ υ) : Prop :=
  ∃ key, demand.key? = some key ∧ after.MadeFor key id ∧
    (world.container.scopeOf? key = some .shared → after.container.cell? key = some id) ∧
    (world.container.scopeOf? key ≠ some .shared → world.nextId ≤ id)

structure Demand.Served (demand : Demand) (id : InstanceId) (world after : World σ υ) : Prop where
  met : demand.Met id world after
  shared : ∀ key, after.container.scopeOf? key = some .shared ↔
    world.container.scopeOf? key = some .shared

theorem create_serves {demand : Demand} {id : InstanceId} (furnished : world.Furnished)
    (ran : Factory.create catalogue demand.recipe demand.view false world = (.ok id, after)) :
    demand.Served id world after := by
  obtain ⟨type, reached, wanted, delivery, rfl⟩ := createInstance_delivery furnished ran
  have steady := configure_steady id demand.recipe.configuration reached
  have bound := furnished.ensureBound ⟨type, demand.view⟩ .transient
  refine ⟨⟨⟨type, demand.view⟩, ?_, (delivery.madeFor bound).steady steady, ?_, ?_⟩, ?_⟩
  · rw [Demand.key?, wanted, Option.map_some]
  · intro shared
    rw [steady.container]
    exact delivery.cell ((shared_ensureBound _ _ world).mpr shared)
  · intro unshared
    have new := (delivery.new (mt (shared_ensureBound _ _ world).mp unshared)).1
    rwa [Factory.nextId_ensureBound] at new
  · intro key
    rw [steady.container, Container.scopeOf?, Container.binding?, delivery.bindings_eq]
    exact shared_ensureBound _ key world

theorem create_grows {demand : Demand} {id : InstanceId}
    (ran : Factory.create catalogue demand.recipe demand.view false world = (.ok id, after)) :
    world.Grows after := by
  have grows := createInstance_grows catalogue demand.recipe.type demand.view
    demand.recipe.configuration false world
  rw [Factory.create] at ran
  rwa [ran] at grows

theorem create_furnished {demand : Demand} {id : InstanceId} (furnished : world.Furnished)
    (ran : Factory.create catalogue demand.recipe demand.view false world = (.ok id, after)) :
    after.Furnished := by
  have still := furnished.createInstance catalogue demand.recipe.type demand.view
    demand.recipe.configuration false
  rw [Factory.create] at ran
  rwa [ran] at still

/-! ### What all creations give -/

namespace Creations

variable {served : List (Demand × InstanceId)}

theorem grows (creations : Creations catalogue world served after) : world.Grows after := by
  induction creations with
  | done world => exact .refl world
  | next created _ ih => exact (create_grows created).trans ih

theorem furnished (creations : Creations catalogue world served after) (stands : world.Furnished) :
    after.Furnished := by
  induction creations with
  | done world => exact stands
  | next created _ ih => exact ih (create_furnished stands created)

theorem each_met (creations : Creations catalogue world served after) (furnished : world.Furnished) :
    ∀ pair ∈ served, pair.1.Met pair.2 world after := by
  induction creations with
  | done world => exact fun _ member => (List.not_mem_nil member).elim
  | next created later ih =>
    intro pair member
    have serves := create_serves furnished created
    rcases List.mem_cons.mp member with rfl | behind
    · obtain ⟨key, wanted, made, cell, new⟩ := serves.met
      exact ⟨key, wanted, later.grows.kinds key _ made,
        fun shared => later.grows.cells key _ (cell shared), new⟩
    · obtain ⟨key, wanted, made, cell, new⟩ := ih (create_furnished furnished created) pair behind
      refine ⟨key, wanted, made, fun shared => cell ((serves.shared key).mpr shared), ?_⟩
      intro unshared
      exact Nat.le_trans (create_grows created).count (new (mt (serves.shared key).mp unshared))

/-- Two recipes have one instance just when they have one key and its binding is shared. -/
theorem meet_iff (creations : Creations catalogue world served after) (furnished : world.Furnished) :
    served.Pairwise fun one other => one.2 = other.2 ↔
      one.1.key? = other.1.key? ∧
        ∃ key, one.1.key? = some key ∧ world.container.scopeOf? key = some .shared := by
  induction creations with
  | done world => exact .nil
  | @next world between after demand id rest created later ih =>
    have serves := create_serves furnished created
    have still := create_furnished furnished created
    refine .cons ?_ ((ih still).imp fun meets => ?_)
    · intro other among
      obtain ⟨key, wanted, made, cell, _⟩ := serves.met
      obtain ⟨otherKey, sought, found, held, new⟩ := later.each_met still other among
      have stands := later.grows.kinds key id made
      constructor
      · rintro rfl
        obtain rfl := stands.key_eq found
        refine ⟨wanted.trans sought.symm, key, wanted, ?_⟩
        by_contra unshared
        -- Where nothing is shared, a later instance is newer than all before it.
        have fresh := new (mt (serves.shared key).mp unshared)
        exact absurd made.lt_nextId (Nat.not_lt.mpr fresh)
      · rintro ⟨same, known, named, shared⟩
        obtain rfl := Option.some.inj (wanted.symm.trans named)
        obtain rfl := Option.some.inj (wanted.symm.trans (same.trans sought))
        have first := later.grows.cells key id (cell shared)
        have second := held ((serves.shared key).mpr shared)
        exact Option.some.inj (first.symm.trans second)
    · rw [meets]
      simp only [serves.shared]

theorem carries {type : TypeToken} {key : String} {value : Value} {id : InstanceId}
    (creations : Creations catalogue world served after) (spares : (catalogue type).Spares key)
    (carries : world.Carries type key value id)
    (unset : ∀ pair ∈ served, pair.2 = id → pair.1.recipe.configuration.get? key = none) :
    after.Carries type key value id := by
  induction creations with
  | done world => exact carries
  | next created _ ih =>
    apply ih
    · exact World.Carries.createInstance spares carries created (unset _ (List.mem_cons_self ..))
    · exact fun pair among => unset pair (List.mem_cons_of_mem _ among)

end Creations

theorem last_in_force {earlier later : List (Demand × InstanceId)} {demand : Demand} {id : InstanceId}
    {type : TypeToken} {key : String} {value : Value} (furnished : world.Furnished)
    (creations : Creations catalogue world (earlier ++ (demand, id) :: later) after)
    (wanted : demand.recipe.type = some type) (spares : (catalogue type).Spares key)
    (configured : demand.recipe.configuration.get? key = some value)
    (unset : ∀ pair ∈ later, pair.2 = id → pair.1.recipe.configuration.get? key = none) :
    after.Carries type key value id := by
  obtain ⟨between, before, rest⟩ := creations.split
  have stands : between.Furnished := before.furnished furnished
  cases rest with
  | next created onward =>
    obtain ⟨known, reached, named, delivery, rfl⟩ := createInstance_delivery stands created
    obtain rfl := Option.some.inj (wanted.symm.trans named)
    have made := delivery.madeFor (stands.ensureBound ⟨type, demand.view⟩ .transient)
    exact onward.carries spares (World.Carries.configured made.1 configured) unset

/-- Every recipe of the documents has an instance, in its place. Two recipes have one instance just when
they are of one type, used in one way, and this key was bound as shared before the dispatcher was built;
an instance of any other key did not exist before. Whatever of its type's methods leave alone, a key of a
recipe's configuration holds the value of the recipe, unless a later recipe with the same instance
configures it too. -/
theorem recipes_meet_where_shared {documents : List PipelineDocument} {dispatcher : Dispatcher}
    (furnished : world.Furnished)
    (ran : Dispatcher.build catalogue documents world = (.ok dispatcher, after)) :
    List.Forall₂ Pipeline.Shaped documents dispatcher.pipelines ∧
    ∃ served : List (Demand × InstanceId),
      served.map (·.1) = documents.flatMap PipelineDocument.demands ∧
      served.map (·.2) = dispatcher.instances ∧
      (served.Pairwise fun one other => one.2 = other.2 ↔
        one.1.key? = other.1.key? ∧
          ∃ key, one.1.key? = some key ∧ world.container.scopeOf? key = some .shared) ∧
      (∀ pair ∈ served, ∃ key, pair.1.key? = some key ∧ after.MadeFor key pair.2 ∧
        (world.container.scopeOf? key ≠ some .shared → world.nextId ≤ pair.2)) ∧
      ∀ earlier demand id later type key value, served = earlier ++ (demand, id) :: later →
        demand.recipe.type = some type → (catalogue type).Spares key →
        demand.recipe.configuration.get? key = some value →
        (∀ pair ∈ later, pair.2 = id → pair.1.recipe.configuration.get? key = none) →
          after.Carries type key value id := by
  obtain ⟨reached, ⟨served, creations, demands, ids⟩, shaped, rfl⟩ := Dispatcher.build_makes ran
  refine ⟨shaped, served, demands, ids, creations.meet_iff furnished, ?_, ?_⟩
  · intro pair among
    obtain ⟨key, wanted, made, _, new⟩ := creations.each_met furnished pair among
    exact ⟨key, wanted, made, new⟩
  · rintro earlier demand id later type key value rfl wanted spares configured unset
    exact (last_in_force furnished creations wanted spares configured unset).of_instances rfl

end Making

/-! ### Two recipes that meet -/

def gate : TypeToken := ⟨0, "Gate"⟩

def gateCatalogue : Catalogue Unit Unit := fun _ => Builtin.ifEventIs ()

def gateDocument (eventType : String) : PipelineDocument :=
  ⟨[], [.one ⟨some gate, OrderedMap.ofList [(Builtin.acceptedTypeKey, .string eventType)]⟩]⟩

def gateDocuments : List PipelineDocument := [gateDocument "basic", gateDocument "other"]

/-- Before any dispatcher is built, the gate is bound as a shared filter. -/
def gateWorld : World Unit Unit :=
  ContainerCall.run gateCatalogue (World.start ()) (.bind ⟨gate, .filter⟩ .shared)

def gateDispatcher : Dispatcher := ⟨[⟨[.one 0], []⟩, ⟨[.one 0], []⟩]⟩

theorem recipes_of_gate :
    gateWorld.Furnished ∧
    Dispatcher.build gateCatalogue gateDocuments gateWorld =
      (.ok gateDispatcher, (Dispatcher.build gateCatalogue gateDocuments gateWorld).2) ∧
    (Dispatcher.build gateCatalogue gateDocuments gateWorld).2.Carries gate Builtin.acceptedTypeKey
      (.string "other") 0 := by
  have furnished : gateWorld.Furnished :=
    (World.furnished_unbound (World.start ())).bind ⟨gate, .filter⟩ .shared
  have ran : Dispatcher.build gateCatalogue gateDocuments gateWorld =
      (.ok gateDispatcher, (Dispatcher.build gateCatalogue gateDocuments gateWorld).2) :=
    Prod.ext (by decide +kernel) rfl
  obtain ⟨_, served, demands, ids, _, _, last⟩ := recipes_meet_where_shared furnished ran
  refine ⟨furnished, ran, ?_⟩
  have pairs : served = [(⟨.filter, ⟨some gate,
        OrderedMap.ofList [(Builtin.acceptedTypeKey, .string "basic")]⟩⟩, 0)] ++
      [(⟨.filter, ⟨some gate, OrderedMap.ofList [(Builtin.acceptedTypeKey, .string "other")]⟩⟩, 0)] :=
    List.zip_of_prod demands ids
  refine last _ _ 0 [] gate _ _ pairs rfl ?_ rfl ?_
  · exact (Builtin.ifEventIs_judges ()).passive.spares _
  · exact fun _ among => (List.not_mem_nil among).elim

/-- Two recipes of different configuration get one instance, which keeps the configuration of the second.
The first pipeline no longer accepts the events that it is for. -/
theorem recipes_astray :
    (Dispatcher.build gateCatalogue gateDocuments gateWorld).1 = .ok gateDispatcher ∧
    ¬ gateDispatcher.instances.Nodup ∧
    (Dispatcher.dispatch gateCatalogue { Event.blank with type := "basic" }
      (gateDispatcher, (Dispatcher.build gateCatalogue gateDocuments gateWorld).2)).1 = .ok [] ∧
    (Dispatcher.dispatch gateCatalogue { Event.blank with type := "other" }
      (gateDispatcher, (Dispatcher.build gateCatalogue gateDocuments gateWorld).2)).1 =
        .ok [⟨[], OrderedMap.empty⟩, ⟨[], OrderedMap.empty⟩] := by
  decide +kernel

end EventPipeline
