import EventPipeline.Proofs.World.Lasting

/-! Instances are of the types that they were resolved for.

As long as every binding builds its own type and every cell holds an instance of the type that it is
for, resolving a key yields an instance of its type and leaves it so. A container that starts empty
never gets out of this. -/

namespace EventPipeline

variable {σ υ ε : Type}

namespace World

/-- There is an instance of this number, and it is of this type. -/
def OfType (type : TypeToken) (id : InstanceId) (world : World σ υ) : Prop :=
  ∃ held, world.instance? id = some held ∧ held.type = type

structure Typed (world : World σ υ) : Prop where
  bindings : ∀ binding ∈ world.container.bindings,
    binding.provider = .constructor binding.key.type binding.key.form
  cells : ∀ key id, world.container.cell? key = some id → world.OfType key.type id

variable {type : TypeToken} {id : InstanceId} {world after : World σ υ}

theorem OfType.steady (ofType : world.OfType type id) (same : world.Steady after) :
    after.OfType type id := by
  obtain ⟨held, found, rfl⟩ := ofType
  obtain ⟨kept, there, kind⟩ := same.instance? found
  exact ⟨kept, there, congrArg Prod.fst kind⟩

theorem OfType.add (ofType : world.OfType type id) (made : Instance σ) :
    (world.add made).OfType type id := by
  obtain ⟨held, found, rfl⟩ := ofType
  obtain ⟨inside, _⟩ := List.getElem?_eq_some_iff.mp found
  refine ⟨held, ?_, rfl⟩
  show (world.instances ++ [made])[id]? = some held
  rw [List.getElem?_append_left inside]
  exact found

theorem ofType_add_nextId (world : World σ υ) (made : Instance σ) :
    (world.add made).OfType made.type world.nextId :=
  ⟨made, List.getElem?_concat_length, rfl⟩

theorem OfType.type_eq [Inhabited σ] (ofType : world.OfType type id) :
    (world.instanceAt id).type = type := by
  obtain ⟨held, found, rfl⟩ := ofType
  unfold World.instanceAt
  rw [found]
  rfl

theorem OfType.lasting [Inhabited σ] (catalogue : Catalogue σ υ) (type : TypeToken)
    (id : InstanceId) : Lasting catalogue (World.OfType type id) :=
  .ofSteady (fun _ _ same ofType => ofType.steady same) (fun _ made ofType => ofType.add made)
    fun _ _ _ ofType => ofType

theorem Typed.steady (typed : world.Typed) (same : world.Steady after) : after.Typed where
  bindings := by
    rw [same.container]
    exact typed.bindings
  cells := by
    intro key id held
    rw [same.container] at held
    exact (typed.cells key id held).steady same

theorem Typed.add (typed : world.Typed) (made : Instance σ) : (world.add made).Typed where
  bindings := typed.bindings
  cells key id held := (typed.cells key id held).add made

theorem Typed.fill (typed : world.Typed) {key : BindingKey} (ofType : world.OfType key.type id) :
    (world.changeContainer (·.fill key id)).Typed where
  bindings := by
    simp only [World.changeContainer, Container.bindings_fill]
    exact typed.bindings
  cells := by
    intro other held found
    simp only [World.changeContainer, Container.cell?_fill, Option.or_eq_some_iff] at found
    rcases found with there | ⟨_, here⟩
    · exact typed.cells other held there
    · split at here
      · next same =>
        obtain rfl := Option.some.inj here
        rw [same]
        exact ofType
      · cases here

theorem typed_of_empty (empty : world.container = .empty) : world.Typed where
  bindings := by
    intro binding member
    rw [empty] at member
    cases member
  cells := by
    intro key id held
    rw [empty] at held
    cases held

theorem Typed.bind (typed : world.Typed) (key : BindingKey) (scope : Scope) :
    (world.changeContainer (·.bind key scope)).Typed where
  bindings := by
    simp only [World.changeContainer, Container.bind, Container.register]
    split
    · exact typed.bindings
    · intro binding member
      rcases List.mem_append.mp member with old | new
      · exact typed.bindings binding old
      · rw [List.mem_singleton.mp new]
  cells := by
    intro other id held
    apply typed.cells other id
    simpa only [World.changeContainer, Container.bind, Container.cell?, Container.cells_register]
      using held

end World

def Settled (type : TypeToken) : Except ε InstanceId × World σ υ → Prop
  | (.ok id, after) => after.Typed ∧ after.OfType type id
  | (.error _, after) => after.Typed

/-- In a typed world, the action settles for an instance of this type or for none. -/
def Settles (type : TypeToken) (action : Action (World σ υ) ε InstanceId) : Prop :=
  ∀ world, world.Typed → Settled type (action world)

theorem Settled.typed {type : TypeToken} {result : Except ε InstanceId × World σ υ}
    (settled : Settled type result) : result.2.Typed := by
  rcases result with ⟨error | id, after⟩
  · exact settled
  · exact settled.1

section Resolution

variable {catalogue : Catalogue σ υ} {key : BindingKey}
  {make : Action (World σ υ) ResolutionError InstanceId}

theorem cached_settles (settles : Settles key.type make) : Settles key.type (cached key make) := by
  intro world typed
  have made := settles world typed
  unfold cached
  split
  · next held full => exact ⟨typed, typed.cells key held full⟩
  · revert made
    rcases make world with ⟨error | built, after⟩
    · exact fun still => still
    · intro made
      obtain ⟨still, ofType⟩ := made
      exact ⟨still.fill ofType, ofType⟩

variable [Inhabited σ] {request : BindingKey → Action (World σ υ) ResolutionError InstanceId}

theorem World.Typed.abiding (catalogue : Catalogue σ υ) : Abiding catalogue World.Typed :=
  .ofSteady fun _ _ same typed => typed.steady same

theorem construct_settles (settles : ∀ key, Settles key.type (request key)) (type : TypeToken)
    (form : Form) : Settles type (construct catalogue request type form) := by
  intro world typed
  have ran := Script.run_keeps
    (@Abiding.answerConstructor σ υ ResolutionError _ catalogue _ request
      (World.Typed.abiding catalogue)
      fun key world typed => (settles key world typed).typed)
    (catalogue type).construct world typed
  unfold construct
  rw [Action.bind_apply]
  revert ran
  rcases Script.run (@answerConstructor σ υ ResolutionError _ catalogue request)
    (catalogue type).construct world with ⟨error | outcome, after⟩
  · exact fun still => still
  · intro still
    cases outcome with
    | error error => exact still
    | ok blueprint => exact ⟨World.Typed.add still _, after.ofType_add_nextId _⟩

theorem provide_settles (settles : ∀ key, Settles key.type (request key)) {binding : Binding}
    (own : binding.provider = .constructor binding.key.type binding.key.form) :
    Settles binding.key.type (provide catalogue request binding) := by
  unfold provide
  rw [own]
  exact construct_settles settles binding.key.type binding.key.form

theorem request_settles {table : List Binding} {path : List BindingKey} {key : BindingKey}
    (settles : Settles key.type (resolveKey catalogue table path key)) :
    Settles key.type (EventPipeline.request catalogue table path key) := by
  intro world typed
  have resolved := settles world typed
  unfold EventPipeline.request Action.bind
  revert resolved
  rcases resolveKey catalogue table path key world with ⟨error | id, after⟩
  · exact fun still => still
  · intro resolved
    simp only [readAs]
    split
    · exact resolved
    · exact resolved.1

theorem resolveKey_settles {table : List Binding}
    (own : ∀ binding ∈ table, binding.provider = .constructor binding.key.type binding.key.form)
    (path : List BindingKey) (key : BindingKey) :
    Settles key.type (resolveKey catalogue table path key) := by
  -- Nested requests are those of constructors further along the path.
  induction path, key using resolveKey.induct catalogue table with
  | case1 path key onPath =>
    rw [resolveKey_of_mem onPath]
    exact fun _ typed => typed
  | case2 path key fresh unbound =>
    rw [resolveKey_of_unbound fresh unbound]
    exact fun _ typed => typed
  | case3 path key fresh binding found transient ih =>
    obtain ⟨bound, rfl⟩ := find?_mem_and_key found
    rw [resolveKey_of_bound fresh found, transient]
    exact provide_settles (fun nested => request_settles (ih nested)) (own binding bound)
  | case4 path key fresh binding found shared ih =>
    obtain ⟨bound, rfl⟩ := find?_mem_and_key found
    rw [resolveKey_of_bound fresh found, shared]
    exact cached_settles
      (provide_settles (fun nested => request_settles (ih nested)) (own binding bound))

theorem resolve_settles (key : BindingKey) : Settles key.type (resolve catalogue key) :=
  fun world typed => request_settles (resolveKey_settles typed.bindings [] key) world typed

end Resolution

end EventPipeline
