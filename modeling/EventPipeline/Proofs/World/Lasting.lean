import EventPipeline.Proofs.World.Steady

/-! What resolving leaves in force.

A resolution does no more than run constructors, whose requests reach the world in a few ways, make
instances, and fill cells. What each of these keeps, every resolution keeps, however deep it goes and
however it ends. -/

namespace EventPipeline

variable {σ υ ε : Type} [Inhabited σ]

/-- A property that the requests of constructors leave in force. -/
structure Abiding (catalogue : Catalogue σ υ) (Holds : World σ υ → Prop) : Prop where
  invoked : ∀ target method slots world, Holds world →
    Holds (@invokeWithin σ υ InvokeError _ catalogue none target method slots
      ⟨world, .empty⟩).2.world
  shared : ∀ world shared, Holds world → Holds { world with shared }
  reported : ∀ world entry, Holds world → Holds (world.report entry)

/-- A property that new instances and filled cells leave in force as well. -/
structure Lasting (catalogue : Catalogue σ υ) (Holds : World σ υ → Prop) : Prop
    extends Abiding catalogue Holds where
  added : ∀ world made, Holds world → Holds (world.add made)
  filled : ∀ world key id, Holds world → Holds (world.changeContainer (·.fill key id))

namespace Abiding

variable {catalogue : Catalogue σ υ} {Holds : World σ υ → Prop}
  {request : BindingKey → Action (World σ υ) ResolutionError InstanceId}

theorem ofSteady
    (steadily : ∀ before after, World.Steady before after → Holds before → Holds after) :
    Abiding catalogue Holds where
  invoked target method slots world holds :=
    steadily _ _ (invokeWithin_steady catalogue none target method slots ⟨world, .empty⟩) holds
  shared world _ holds := steadily world _ ⟨rfl, rfl⟩ holds
  reported world _ holds := steadily world _ ⟨rfl, rfl⟩ holds

theorem answerConstructor (abiding : Abiding catalogue Holds)
    (kept : ∀ key world, Holds world → Holds (request key world).2)
    (asked : ConstructRequest σ υ) (world : World σ υ) (holds : Holds world) :
    Holds (@EventPipeline.answerConstructor σ υ ε _ catalogue request asked world).2 := by
  cases asked with
  | resolve key => exact kept key world holds
  | isBound key => exact holds
  | invoke dependency method slots =>
    have ran := abiding.invoked dependency method slots world holds
    show Holds (EventPipeline.invoke catalogue dependency method slots ⟨world, .empty⟩).2.world
    rw [invoke_snd]
    exact ran
  | inspect dependency => exact holds
  | shared => exact holds
  | setShared shared => exact abiding.shared world shared holds
  | log entry => exact abiding.reported world entry holds

end Abiding

/-- A property that a constructor leaves in force when what it asks the container for does, and that new
instances and filled cells leave in force as well. -/
structure Enduring (catalogue : Catalogue σ υ) (Holds : World σ υ → Prop) : Prop where
  constructed : ∀ request : BindingKey → Action (World σ υ) ResolutionError InstanceId,
    (∀ key world, Holds world → Holds (request key world).2) → ∀ type world, Holds world →
      Holds ((catalogue type).construct.run
        (@answerConstructor σ υ ResolutionError _ catalogue request) world).2
  added : ∀ world made, Holds world → Holds (world.add made)
  filled : ∀ world key id, Holds world → Holds (world.changeContainer (·.fill key id))

namespace Enduring

variable {catalogue : Catalogue σ υ} {Holds : World σ υ → Prop}
  {request : BindingKey → Action (World σ υ) ResolutionError InstanceId}

theorem provide (enduring : Enduring catalogue Holds)
    (kept : ∀ key world, Holds world → Holds (request key world).2)
    (binding : Binding) (world : World σ υ) (holds : Holds world) :
    Holds (EventPipeline.provide catalogue request binding world).2 := by
  unfold EventPipeline.provide
  cases binding.provider with
  | given => exact holds
  | constructor type form =>
    have ran := enduring.constructed request kept type world holds
    show Holds (EventPipeline.construct catalogue request type form world).2
    unfold EventPipeline.construct
    rw [Action.bind_apply]
    revert ran
    rcases Script.run (@EventPipeline.answerConstructor σ υ ResolutionError _ catalogue request)
      (catalogue type).construct world with ⟨outcome | outcome, after⟩
    · exact fun ran => ran
    · intro ran
      cases outcome with
      | error error => exact ran
      | ok blueprint => exact enduring.added after _ ran

theorem cached (enduring : Enduring catalogue Holds) {key : BindingKey}
    {make : Action (World σ υ) ResolutionError InstanceId}
    (kept : ∀ world, Holds world → Holds (make world).2) (world : World σ υ)
    (holds : Holds world) : Holds (EventPipeline.cached key make world).2 := by
  have made := kept world holds
  unfold EventPipeline.cached
  split
  · exact holds
  · revert made
    rcases make world with ⟨error | built, after⟩
    · exact fun made => made
    · exact enduring.filled after key built

theorem readAs_keeps (key : BindingKey) (id : InstanceId) (world : World σ υ)
    (holds : Holds world) : Holds (readAs key id world).2 := by
  unfold readAs
  split
  · exact holds
  · exact holds

theorem request_keeps {table : List Binding} {path : List BindingKey}
    (kept : ∀ key world, Holds world → Holds (resolveKey catalogue table path key world).2)
    (key : BindingKey) (world : World σ υ) (holds : Holds world) :
    Holds (EventPipeline.request catalogue table path key world).2 := by
  have resolved := kept key world holds
  unfold EventPipeline.request Action.bind
  revert resolved
  rcases EventPipeline.resolveKey catalogue table path key world with ⟨error | id, after⟩
  · exact fun resolved => resolved
  · exact readAs_keeps key id after

theorem resolveKey (enduring : Enduring catalogue Holds) (table : List Binding)
    (path : List BindingKey) (key : BindingKey) (world : World σ υ) (holds : Holds world) :
    Holds (EventPipeline.resolveKey catalogue table path key world).2 := by
  induction path, key using EventPipeline.resolveKey.induct catalogue table generalizing world with
  | case1 path key onPath =>
    rw [resolveKey_of_mem onPath]
    exact holds
  | case2 path key fresh unbound =>
    rw [resolveKey_of_unbound fresh unbound]
    exact holds
  | case3 path key fresh binding found transient ih =>
    rw [resolveKey_of_bound fresh found, transient]
    exact enduring.provide (request_keeps ih) binding world holds
  | case4 path key fresh binding found shared ih =>
    rw [resolveKey_of_bound fresh found, shared]
    exact enduring.cached (enduring.provide (request_keeps ih) binding) world holds

theorem resolve (enduring : Enduring catalogue Holds) (key : BindingKey) (world : World σ υ)
    (holds : Holds world) : Holds (EventPipeline.resolve catalogue key world).2 :=
  request_keeps (enduring.resolveKey world.container.bindings []) key world holds

end Enduring

namespace Lasting

variable {catalogue : Catalogue σ υ} {Holds : World σ υ → Prop}

theorem ofSteady (steadily : ∀ before after, World.Steady before after → Holds before → Holds after)
    (added : ∀ world made, Holds world → Holds (world.add made))
    (filled : ∀ world key id, Holds world → Holds (world.changeContainer (·.fill key id))) :
    Lasting catalogue Holds :=
  ⟨Abiding.ofSteady steadily, added, filled⟩

theorem enduring (lasting : Lasting catalogue Holds) : Enduring catalogue Holds where
  constructed _ kept type world holds := Script.run_keeps
    (lasting.toAbiding.answerConstructor kept) (catalogue type).construct world holds
  added := lasting.added
  filled := lasting.filled

theorem resolveKey (lasting : Lasting catalogue Holds) (table : List Binding)
    (path : List BindingKey) (key : BindingKey) (world : World σ υ) (holds : Holds world) :
    Holds (EventPipeline.resolveKey catalogue table path key world).2 :=
  lasting.enduring.resolveKey table path key world holds

theorem resolve (lasting : Lasting catalogue Holds) (key : BindingKey) (world : World σ υ)
    (holds : Holds world) : Holds (EventPipeline.resolve catalogue key world).2 :=
  lasting.enduring.resolve key world holds

end Lasting

@[simp] theorem bindings_resolve (catalogue : Catalogue σ υ) (key : BindingKey)
    (world : World σ υ) :
    (resolve catalogue key world).2.container.bindings = world.container.bindings := by
  have lasting : Lasting catalogue fun after : World σ υ =>
      after.container.bindings = world.container.bindings := by
    apply Lasting.ofSteady
    · intro before after steady same
      rw [steady.container]
      exact same
    · exact fun _ _ same => same
    · intro before key id same
      simpa only [World.changeContainer, Container.bindings_fill] using same
  exact lasting.resolve key world rfl

end EventPipeline
