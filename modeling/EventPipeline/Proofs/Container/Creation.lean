import EventPipeline.Proofs.Container.Typing
import EventPipeline.Proofs.Effect.Keeping
import EventPipeline.Proofs.World.Passive

/-! Creating instances of bindings that share nothing.

Under such a binding every creation makes an instance of its own, behind all that exist, and
configures that one. Whatever instance existed before is left alone, as far as constructors leave it
alone. -/

namespace EventPipeline

open Json

variable {σ υ : Type} [Inhabited σ]

/-- Every binding makes a new instance each time, by the constructor of its own type. -/
def Container.Unshared (container : Container) : Prop :=
  ∀ binding ∈ container.bindings, binding.scope = .transient ∧
    binding.provider = .constructor binding.key.type binding.key.form

theorem Container.empty_unshared : Container.empty.Unshared := by
  intro binding member
  cases member

theorem Lasting.populated (catalogue : Catalogue σ υ) (count : Nat) :
    Lasting catalogue fun world : World σ υ => count ≤ world.instances.length := by
  apply Lasting.ofSteady
  · intro before after steady enough
    have same := congrArg List.length steady.kinds
    rw [List.length_map, List.length_map] at same
    omega
  · intro world made enough
    simp only [World.add, List.length_append, List.length_singleton]
    omega
  · exact fun _ _ _ enough => enough

def constructing (catalogue : Catalogue σ υ) (key : BindingKey) :
    Action (World σ υ) ResolutionError (Except ResolutionError (Blueprint σ)) := fun world =>
  (catalogue key.type).construct.run
    (answerConstructor catalogue (request catalogue world.container.bindings [key])) world

theorem resolve_unshared {catalogue : Catalogue σ υ} {key : BindingKey} {world after : World σ υ}
    {binding : Binding} {made : InstanceId} (unshared : world.container.Unshared)
    (bound : world.container.binding? key = some binding)
    (ran : resolve catalogue key world = (.ok made, after)) :
    ∃ between blueprint, constructing catalogue key world = (.ok (.ok blueprint), between) ∧
      made = between.nextId ∧
      after = between.add ⟨key.type, key.form, blueprint.properties, blueprint.state⟩ := by
  obtain ⟨member, same⟩ := find?_mem_and_key bound
  obtain ⟨transient, provider⟩ := unshared binding member
  rw [same] at provider
  obtain ⟨id, reached, resolved, read⟩ := Action.of_bind_ok ran
  have kept : id = made ∧ reached = after := by
    unfold readAs at read
    split at read
    · cases read
      exact ⟨rfl, rfl⟩
    · cases read
  obtain ⟨rfl, rfl⟩ := kept
  rw [resolveKey_of_bound List.not_mem_nil bound, transient] at resolved
  unfold provide at resolved
  rw [provider] at resolved
  obtain ⟨outcome, between, built, rest⟩ := Action.of_bind_ok resolved
  cases outcome with
  | error error => cases rest
  | ok blueprint =>
    cases rest
    exact ⟨between, blueprint, built, rfl, rfl⟩

theorem constructing_populates {catalogue : Catalogue σ υ} {key : BindingKey}
    {world between : World σ υ} {outcome : Except ResolutionError (Blueprint σ)}
    (ran : constructing catalogue key world = (.ok outcome, between)) :
    world.instances.length ≤ between.instances.length := by
  have populated := Lasting.populated catalogue world.instances.length
  have kept := Script.run_keeps
    (@Abiding.answerConstructor σ υ ResolutionError _ catalogue _
      (request catalogue world.container.bindings [key]) populated.toAbiding
      (Enduring.request_keeps fun nested => populated.resolveKey world.container.bindings [key] nested))
    (catalogue key.type).construct world (Nat.le_refl _)
  have state : (constructing catalogue key world).2 = between := by rw [ran]
  rw [← state]
  exact kept

theorem resolve_form {catalogue : Catalogue σ υ} {key : BindingKey} {world after : World σ υ}
    {made : InstanceId} (ran : resolve catalogue key world = (.ok made, after)) :
    (after.instanceAt made).form = key.form := by
  obtain ⟨id, reached, _, read⟩ := Action.of_bind_ok ran
  unfold readAs at read
  split at read
  · next promised =>
    cases read
    exact promised
  · cases read

/-! ### Binding on first use -/

theorem Container.Unshared.bind {container : Container} (unshared : container.Unshared)
    (key : BindingKey) : (container.bind key .transient).Unshared := by
  unfold Container.bind Container.register
  split
  · exact unshared
  · intro binding member
    rcases List.mem_append.mp member with old | new
    · exact unshared binding old
    · rw [List.mem_singleton.mp new]
      exact ⟨rfl, rfl⟩

theorem Container.binding?_bind (container : Container) (key : BindingKey) (scope : Scope) :
    ∃ binding, (container.bind key scope).binding? key = some binding := by
  unfold Container.bind
  rw [Container.binding?_register, if_pos rfl]
  cases container.binding? key with
  | none => exact ⟨_, rfl⟩
  | some held => exact ⟨held, rfl⟩

namespace Factory

omit [Inhabited σ] in
@[simp] theorem container_ensureBound (key : BindingKey) (scope : Scope) (world : World σ υ) :
    (ensureBound key scope world).container = world.container.bind key scope := by
  unfold ensureBound Container.scopeOf? Container.bind Container.register Container.isBound
  cases bound : world.container.binding? key with
  | none => simp [World.report, World.changeContainer, bound]
  | some held =>
    simp only [Option.map_some, Option.isSome_some, if_true]
    split
    · rfl
    · rfl

omit [Inhabited σ] in
@[simp] theorem instances_ensureBound (key : BindingKey) (scope : Scope) (world : World σ υ) :
    (ensureBound key scope world).instances = world.instances := by
  unfold ensureBound
  split
  · rfl
  · split
    · rfl
    · rfl

theorem createInstance_some (catalogue : Catalogue σ υ) (type : TypeToken) (view : View)
    (configuration : Configuration) (shared : Bool) (world : World σ υ) :
    createInstance catalogue (some type) view configuration shared world =
      match resolve catalogue ⟨type, view⟩ (ensureBound ⟨type, view⟩ (.ofShared shared) world) with
      | (.ok created, after) => (.ok created, configure created configuration after)
      | (.error error, after) => (.error (.resolution error), after) := by
  unfold createInstance
  simp only [Action.bind_apply, Action.modify_apply, Action.mapError_apply]
  rcases resolve catalogue ⟨type, view⟩ (ensureBound ⟨type, view⟩ (.ofShared shared) world) with
    ⟨error | created, after⟩
  · rfl
  · rfl

end Factory

theorem World.Has.configure {id : InstanceId} {held : Instance σ} {world : World σ υ}
    (has : world.Has id held) {target : InstanceId} (apart : target ≠ id)
    (configuration : Configuration) :
    (Factory.configure target configuration world).Has id held := by
  unfold Factory.configure
  split
  · exact has.changeInstance apart _
  · split
    · exact has
    · exact has

theorem World.Has.configured {id : InstanceId} {held : Instance σ} {world : World σ υ}
    (has : world.Has id held) (configuration : Configuration) :
    (Factory.configure id configuration world).Has id
      { held with properties := held.properties.map (·.merge configuration) } := by
  have stands := has.instanceAt
  unfold Factory.configure
  rw [stands]
  split
  · next properties same =>
    have changed : (world.instances.modify id fun held =>
        { held with properties := some (properties.merge configuration) })[id]? =
          some { held with properties := some (properties.merge configuration) } := by
      rw [List.getElem?_modify_eq]
      exact congrArg (Option.map _) has
    rw [same]
    exact changed
  · next same =>
    have unchanged : { held with properties := held.properties.map (·.merge configuration) } =
        held := by
      cases held
      simp only at same
      rw [same]
      rfl
    rw [unchanged]
    split
    · exact has
    · exact has

/-! ### Creation -/

section Creation

variable {catalogue : Catalogue σ υ}

theorem createInstance_keeps_unshared (type : Option TypeToken) (view : View)
    (configuration : Configuration) :
    Action.Keeps (fun world => world.container.Unshared)
      (Factory.createInstance catalogue type view configuration false) := by
  intro world unshared
  cases type with
  | none => exact unshared
  | some type =>
    rw [Factory.createInstance_some]
    have table := bindings_resolve catalogue ⟨type, view⟩
      (Factory.ensureBound ⟨type, view⟩ (.ofShared false) world)
    have bound : (Factory.ensureBound ⟨type, view⟩ (.ofShared false) world).container.Unshared := by
      rw [Factory.container_ensureBound]
      exact unshared.bind ⟨type, view⟩
    revert table
    rcases resolve catalogue ⟨type, view⟩
      (Factory.ensureBound ⟨type, view⟩ (.ofShared false) world) with ⟨error | created, after⟩
    · intro table binding member
      rw [table] at member
      exact bound binding member
    · intro table binding member
      rw [(configure_steady created configuration after).container, table] at member
      exact bound binding member

theorem create_new {type : TypeToken} {view : View} {configuration : Configuration}
    {world after : World σ υ} {made : InstanceId} (unshared : world.container.Unshared)
    (ran : Factory.createInstance catalogue (some type) view configuration false world =
      (.ok made, after)) :
    ∃ between blueprint,
      constructing catalogue ⟨type, view⟩
          (Factory.ensureBound ⟨type, view⟩ .transient world) = (.ok (.ok blueprint), between) ∧
      world.instances.length ≤ made ∧
      made = between.nextId ∧
      after = Factory.configure made configuration
        (between.add ⟨type, (⟨type, view⟩ : BindingKey).form, blueprint.properties,
          blueprint.state⟩) := by
  rw [Factory.createInstance_some] at ran
  have bound : (Factory.ensureBound ⟨type, view⟩ (.ofShared false) world).container.Unshared := by
    rw [Factory.container_ensureBound]
    exact unshared.bind ⟨type, view⟩
  obtain ⟨binding, found⟩ := world.container.binding?_bind ⟨type, view⟩ (.ofShared false)
  rw [← Factory.container_ensureBound] at found
  revert ran
  rcases outcome : resolve catalogue ⟨type, view⟩
    (Factory.ensureBound ⟨type, view⟩ (.ofShared false) world) with ⟨error | created, reached⟩
  · intro ran
    cases ran
  · intro ran
    cases ran
    obtain ⟨between, blueprint, built, rfl, rfl⟩ := resolve_unshared bound found outcome
    have grown := constructing_populates built
    rw [Factory.instances_ensureBound] at grown
    exact ⟨between, blueprint, built, grown, rfl, rfl⟩

/-- An instance that only a configuration could change is not changed when others are created. -/
theorem createInstance_lasts {id : InstanceId} {held : Instance σ}
    (passive : (catalogue held.type).Passive) (type : Option TypeToken) (view : View)
    (configuration : Configuration) :
    Action.Keeps (fun world => world.container.Unshared ∧ world.Has id held)
      (Factory.createInstance catalogue type view configuration false) := by
  intro world ⟨unshared, has⟩
  refine ⟨createInstance_keeps_unshared type view configuration world unshared, ?_⟩
  cases type with
  | none => exact has
  | some type =>
    have bound : (Factory.ensureBound ⟨type, view⟩ (.ofShared false) world).Has id held := by
      unfold World.Has World.instance?
      rw [Factory.instances_ensureBound]
      exact has
    have resolved := (World.Has.lasting passive).resolve ⟨type, view⟩ _ bound
    rw [Factory.createInstance_some]
    revert resolved
    rcases outcome : resolve catalogue ⟨type, view⟩
      (Factory.ensureBound ⟨type, view⟩ (.ofShared false) world) with ⟨error | created, reached⟩
    · exact fun resolved => resolved
    · intro resolved
      have ran : Factory.createInstance catalogue (some type) view configuration false world =
          (.ok created, Factory.configure created configuration reached) := by
        rw [Factory.createInstance_some, outcome]
      obtain ⟨between, blueprint, built, new, _, _⟩ := create_new unshared ran
      have apart : created ≠ id := by
        obtain ⟨small, _⟩ := List.getElem?_eq_some_iff.mp has
        exact Nat.ne_of_gt (Nat.lt_of_lt_of_le small new)
      exact resolved.configure apart configuration

theorem createInstance_spares {id : InstanceId} {held : Instance σ}
    (passive : (catalogue held.type).Passive) (apart : held.form ≠ .component)
    {world : World σ υ} (has : world.Has id held) (type : Option TypeToken)
    (configuration : Configuration) (shared : Bool) :
    (Factory.createInstance catalogue type .component configuration shared world).2.Has id held := by
  cases type with
  | none => exact has
  | some type =>
    have bound : (Factory.ensureBound ⟨type, .component⟩ (.ofShared shared) world).Has id held := by
      unfold World.Has World.instance?
      rw [Factory.instances_ensureBound]
      exact has
    have resolved := (World.Has.lasting passive).resolve ⟨type, .component⟩ _ bound
    rw [Factory.createInstance_some]
    revert resolved
    rcases outcome : resolve catalogue ⟨type, .component⟩
      (Factory.ensureBound ⟨type, .component⟩ (.ofShared shared) world) with
      ⟨error | created, reached⟩
    · exact fun resolved => resolved
    · intro resolved
      have other : created ≠ id := by
        rintro rfl
        have form := resolve_form outcome
        rw [World.Has.instanceAt resolved] at form
        exact apart form
      exact World.Has.configure resolved other configuration

theorem create_plain {type : TypeToken} {view : View} {configuration : Configuration}
    {blueprint : Blueprint σ} {world after : World σ υ} {made : InstanceId}
    (plain : (catalogue type).construct = .done (.ok blueprint))
    (unshared : world.container.Unshared)
    (ran : Factory.createInstance catalogue (some type) view configuration false world =
      (.ok made, after)) :
    after.Has made ⟨type, (⟨type, view⟩ : BindingKey).form,
      blueprint.properties.map (·.merge configuration), blueprint.state⟩ := by
  obtain ⟨between, delivered, built, _, rfl, rfl⟩ := create_new unshared ran
  unfold constructing at built
  rw [plain] at built
  cases built
  have stands : (World.add (Factory.ensureBound ⟨type, view⟩ .transient world)
      ⟨type, (⟨type, view⟩ : BindingKey).form, blueprint.properties, blueprint.state⟩).Has
        (Factory.ensureBound ⟨type, view⟩ .transient world).nextId
        ⟨type, (⟨type, view⟩ : BindingKey).form, blueprint.properties, blueprint.state⟩ :=
    List.getElem?_concat_length
  exact stands.configured configuration

end Creation

/-! ### Types -/

omit [Inhabited σ] in
theorem World.Typed.ensureBound {world : World σ υ} (typed : world.Typed) (key : BindingKey)
    (scope : Scope) : (Factory.ensureBound key scope world).Typed := by
  have bound := typed.bind key scope
  refine bound.steady ⟨Factory.container_ensureBound key scope world, ?_⟩
  rw [Factory.instances_ensureBound]
  rfl

section Types

variable {catalogue : Catalogue σ υ}

/-- Whatever it is shared with, a created instance is of the type that it was created for. -/
theorem createInstance_settles (type : TypeToken) (view : View) (configuration : Configuration)
    (shared : Bool) :
    Settles type (Factory.createInstance catalogue (some type) view configuration shared) := by
  intro world typed
  have settled := @resolve_settles σ υ catalogue _ ⟨type, view⟩ _
    (typed.ensureBound ⟨type, view⟩ (.ofShared shared))
  rw [Factory.createInstance_some]
  revert settled
  rcases resolve catalogue ⟨type, view⟩
    (Factory.ensureBound ⟨type, view⟩ (.ofShared shared) world) with ⟨error | created, after⟩
  · exact fun still => still
  · intro resolved
    obtain ⟨still, ofType⟩ := resolved
    have same := configure_steady created configuration after
    exact ⟨still.steady same, ofType.steady same⟩

theorem createInstance_keeps_typed (type : Option TypeToken) (view : View)
    (configuration : Configuration) (shared : Bool) :
    Action.Keeps World.Typed
      (Factory.createInstance catalogue type view configuration shared) := by
  intro world typed
  cases type with
  | none => exact typed
  | some type => exact (createInstance_settles type view configuration shared world typed).typed

theorem createInstance_keeps_type (known : TypeToken) (id : InstanceId) (type : Option TypeToken)
    (view : View) (configuration : Configuration) (shared : Bool) :
    Action.Keeps (World.OfType known id)
      (Factory.createInstance catalogue type view configuration shared) := by
  intro world ofType
  cases type with
  | none => exact ofType
  | some type =>
    have bound : (Factory.ensureBound ⟨type, view⟩ (.ofShared shared) world).OfType known id := by
      unfold World.OfType World.instance?
      rw [Factory.instances_ensureBound]
      exact ofType
    have resolved := (World.OfType.lasting catalogue known id).resolve ⟨type, view⟩ _ bound
    rw [Factory.createInstance_some]
    revert resolved
    rcases resolve catalogue ⟨type, view⟩
      (Factory.ensureBound ⟨type, view⟩ (.ofShared shared) world) with ⟨error | created, after⟩
    · exact fun resolved => resolved
    · intro resolved
      exact resolved.steady (configure_steady created configuration after)

end Types

end EventPipeline
