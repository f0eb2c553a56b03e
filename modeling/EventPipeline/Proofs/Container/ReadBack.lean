import EventPipeline.Proofs.Container.Clients

/-! Instances are read back in the form in which they were stored.

A container does not see what it holds: an instance is stored in one form by whichever registration came first,
and whoever requests it reads it back in the form of the key. What is stored under a key is always of its form,
so reading it back is a formality that never fails, and the container has only two errors of its own. A value
that was given is served out of its cell, and what stands in for its provider never runs. -/

namespace EventPipeline

open Json

variable {σ υ : Type} [Inhabited σ]

/-- How a request ends: with a failure of the container, which is one of two, with what the constructor of its
key has failed with, or with an instance made for the key. -/
inductive Ending (catalogue : Catalogue σ υ) (key : BindingKey) (before : Resolver σ υ) :
    Except ResolutionError InstanceId → World σ υ → Prop where
  | cycle (onPath : key ∈ before.path) :
      Ending catalogue key before (.error (before.cycle key)) before.world
  | unbound (missing : before.world.container.binding? key = none) :
      Ending catalogue key before (.error (.unbound key.name)) before.world
  | raised {error : ResolutionError} {after : World σ υ}
      (construction : construct catalogue
        (request catalogue before.world.container.bindings (before.path ++ [key])) key.type key.form
          before.world = (.error error, after)) :
      Ending catalogue key before (.error error) after
  | answered {id : InstanceId} {after : World σ υ} (made : after.MadeFor key id) :
      Ending catalogue key before (.ok id) after

namespace Ending

variable {catalogue : Catalogue σ υ} {key : BindingKey} {before : Resolver σ υ} {after : World σ υ}

theorem madeFor {id : InstanceId} (ending : Ending catalogue key before (.ok id) after) :
    after.MadeFor key id := by
  cases ending with
  | answered made => exact made

theorem blame {error : ResolutionError} (ending : Ending catalogue key before (.error error) after) :
    key ∈ before.path ∧ error = before.cycle key ∨
      before.world.container.binding? key = none ∧ error = .unbound key.name ∨
      construct catalogue (request catalogue before.world.container.bindings (before.path ++ [key]))
        key.type key.form before.world = (.error error, after) := by
  cases ending with
  | cycle onPath => exact .inl ⟨onPath, rfl⟩
  | unbound missing => exact .inr (.inl ⟨missing, rfl⟩)
  | raised construction => exact .inr (.inr construction)

end Ending

theorem Runs.ending {catalogue : Catalogue σ υ} {requester : Option BindingKey} {key : BindingKey}
    {before after : Resolver σ υ} {incidents : List Incident}
    {result : Except ResolutionError InstanceId}
    (run : Runs catalogue (.resolve requester key) before incidents result after)
    (furnished : before.world.Furnished) :
    resolveKey catalogue before.world.container.bindings before.path key before.world =
        (result, after.world) ∧
      Ending catalogue key before result after.world := by
  cases run with
  | circular _ onPath =>
    rw [resolveKey_of_mem onPath]
    exact ⟨rfl, .cycle onPath⟩
  | unbound _ fresh missing =>
    rw [resolveKey_of_unbound fresh missing]
    exact ⟨rfl, .unbound missing⟩
  | held _ fresh found shared full =>
    have made := (furnished.cells _ _ full).1
    rw [resolveKey_of_bound fresh found, shared, made.readAs]
    simp only [cached, full]
    exact ⟨trivial, .answered made⟩
  | spent _ _ found vacant given => exact absurd given (furnished.not_given_of_vacant found vacant)
  | failed _ fresh found vacant provider construction =>
    have provided := (congrFun (provide_constructor provider) _).trans construction.sound
    obtain ⟨rfl, rfl⟩ := furnished.kind_of_vacant found vacant provider
    exact ⟨resolveKey_of_unprovided fresh found vacant provided, .raised construction.sound⟩
  | @built _ reached _ _ _ _ _ id _ fresh found vacant provider construction =>
    have provided := (congrFun (provide_constructor provider) _).trans construction.sound
    obtain ⟨rfl, rfl⟩ := furnished.kind_of_vacant found vacant provider
    have made : reached.world.MadeFor key id := construction.made_kind id rfl
    rw [made.readAs]
    exact ⟨resolveKey_of_provided fresh found vacant provided, .answered (made.keep ..)⟩

/-- A request through a resolver at hand answers what is stored, whatever the constructors do. -/
theorem World.Furnished.request {world : World σ υ} (furnished : world.Furnished)
    (catalogue : Catalogue σ υ) (path : List BindingKey) (key : BindingKey) :
    let stored := resolveKey catalogue world.container.bindings path key world
    EventPipeline.request catalogue world.container.bindings path key world = stored ∧
      Ending catalogue key ⟨path, world⟩ stored.1 stored.2 := by
  intro stored
  obtain ⟨_, result, ⟨_, after⟩, run⟩ :=
    @resolve_runs _ _ _ catalogue world.container.bindings path none key world rfl
  obtain ⟨same, ending⟩ := run.ending furnished
  have answer : stored = (result, after) := same
  rw [answer]
  exact ⟨run.sound, ending⟩

/-- A value that was given is not under construction, and it is served out of its cell. -/
theorem Scene.Stands.resolveKey_given {scene : Scene σ υ} (stands : scene.Stands)
    (catalogue : Catalogue σ υ) {path : List BindingKey} (offered : scene.Offers path)
    {key : BindingKey} {binding : Binding}
    (found : scene.world.container.binding? key = some binding) (given : binding.provider = .given) :
    ∃ id, scene.world.container.cell? key = some id ∧
      resolveKey catalogue scene.world.container.bindings path key scene.world =
        (.ok id, scene.world) := by
  have fresh : key ∉ path := by
    intro onPath
    obtain ⟨other, same, own⟩ := stands.builds_of_offered offered key onPath
    obtain rfl := Option.some.inj (found.symm.trans same)
    rw [given] at own
    cases own
  rcases stands.furnished.providers key binding found with own | ⟨_, shared, id, full⟩
  · rw [given] at own
    cases own
  · refine ⟨id, full, ?_⟩
    rw [resolveKey_of_bound fresh found, shared]
    simp only [cached, full]

/-- Whatever user code does with a container, also while its constructors run, and however they end: what the
provider of a key makes and what its cell holds is an instance of the key's own type in the form of its view, also
where a value and a constructor have wanted the same key. So an instance is always read back as it was stored,
and a request answers what is stored for it. It fails as a cycle, for want of a binding, or with the error that
the constructor of its key has failed with; the container never raises an error of its own about the form. What
stands in for the provider of a given value never begins to run: such a key is served out of its cell and nothing
else happens. All that the calls of a container and of a factory come to, and every request that comes up in one of
their resolutions, is among the scenes of which this is said. -/
theorem stored_read_back (start : World σ υ) :
    (∀ (catalogue : Catalogue σ υ) (calls : List (RegistryCall σ)),
      let world := RegistryCall.runAll catalogue calls start.unbound
      Scene.Reached start ⟨[], world⟩ ∧
      ∀ found, found = world ∨ (∃ key scope, found = Factory.ensureBound key scope world) →
        ∀ outer requester key before,
          Arises catalogue (.resolve none outer) ⟨[], found⟩ (.resolve requester key) before →
            ∃ scene, Scene.Reached start scene ∧ scene.world = before.world ∧
              scene.path = before.path) ∧
    ∀ scene, Scene.Reached start scene →
      (∀ key binding, scene.world.container.binding? key = some binding →
        binding.provider = .constructor key.type key.form ∨
          binding.provider = .given ∧ ∃ id, scene.world.container.cell? key = some id) ∧
      (∀ key id, scene.world.container.cell? key = some id → scene.world.MadeFor key id) ∧
      (∀ occurrence after, scene.Step occurrence after →
        occurrence.Fits scene.world after.world) ∧
      ∀ (catalogue : Catalogue σ υ) path key, scene.Offers path →
        let table := scene.world.container.bindings
        let stored := resolveKey catalogue table path key scene.world
        request catalogue table path key scene.world = stored ∧
        (∀ id, stored.1 = .ok id →
          stored.2.MadeFor key id ∧ (readAs key id stored.2).1 = .ok id) ∧
        (∀ error, stored.1 = .error error →
          key ∈ path ∧ error = .circular ((path ++ [key]).map (·.name)) ∨
          scene.world.container.binding? key = none ∧ error = .unbound key.name ∨
          construct catalogue (request catalogue table (path ++ [key])) key.type key.form
            scene.world = (.error error, stored.2)) ∧
        ∀ binding, scene.world.container.binding? key = some binding →
          binding.provider = .given →
            ∃ id, scene.world.container.cell? key = some id ∧ stored = (.ok id, scene.world) := by
  constructor
  · intro catalogue calls world
    have reached : Scene.Reached start ⟨[], world⟩ := Scene.reached_runAll catalogue start calls
    refine ⟨reached, ?_⟩
    intro found outset outer requester key before arises
    have begins : Scene.Reached start ⟨[], found⟩ := by
      rcases outset with rfl | ⟨first, scope, rfl⟩
      · exact reached
      · exact reached.trans (Scene.leads_ensureBound first scope world)
    obtain ⟨scene, same, path, leads⟩ := arises.plays [] rfl
    exact ⟨scene, begins.trans leads, same, path⟩
  · intro scene reached
    have stands := reached.stands
    have furnished := stands.furnished
    refine ⟨?_, fun key id full => (furnished.cells key id full).1,
      fun occurrence after step => step.fits stands, ?_⟩
    · intro key binding found
      exact (furnished.providers key binding found).imp_right fun value => ⟨value.1, value.2.2⟩
    · intro catalogue path key offered
      obtain ⟨answers, ending⟩ := furnished.request catalogue path key
      refine ⟨answers, ?_, ?_, fun binding found given =>
        stands.resolveKey_given catalogue offered found given⟩
      · intro id answered
        rw [answered] at ending
        exact ⟨ending.madeFor, ending.madeFor.readAs⟩
      · intro error failed
        rw [failed] at ending
        exact ending.blame

example :
    let gate : TypeToken := ⟨0, "field::Gate"⟩
    let world : World Unit Unit := (World.start ()).add ⟨gate, .component, none, ()⟩
    (readAs ⟨gate, .component⟩ 0 world).1 = .ok 0 ∧
      (readAs ⟨gate, .filter⟩ 0 world).1 = .error (.typeMismatch "field::Gate") :=
  ⟨rfl, rfl⟩

end EventPipeline
