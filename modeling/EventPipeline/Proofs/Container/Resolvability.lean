import EventPipeline.Proofs.Container.Calls
import EventPipeline.Proofs.Container.Construction
import EventPipeline.Proofs.World.Lasting

/-! Which keys can be resolved.

With constructors that resolve fixed keys and add no failures of their own, a key can be resolved
exactly when all it leads to is bound and free of cycles. The failure of a resolution is that of its
first failing request, depth first. Instances that shared bindings hold already cut the search short
but never change its end: only what is sound has ever been built. -/

namespace EventPipeline

variable {σ υ : Type}

/-- A container over a table: cells hold instances of sound keys in the form of the key, given values
are there from the beginning, and constructors are those of the bound types. -/
structure Consistent (depends : Dependencies) (table : List Binding) (world : World σ υ) : Prop where
  bindings : world.container.bindings = table
  cells : ∀ key id, world.container.cell? key = some id →
    world.Shows id key.form ∧ Sound depends table key
  providers : ∀ key binding, table.find? (·.key = key) = some binding →
    binding.provider = .constructor key.type key.form ∨
      (binding.provider = .given ∧ binding.scope = .shared ∧
        ∃ id, world.container.cell? key = some id)

def Coherent (depends : Dependencies) (world : World σ υ) : Prop :=
  Consistent depends world.container.bindings world

namespace Consistent

variable {depends : Dependencies} {table : List Binding} {world after : World σ υ}

theorem steady (consistent : Consistent depends table world) (same : world.Steady after) :
    Consistent depends table after where
  bindings := by rw [same.container]; exact consistent.bindings
  cells := by
    intro key id held
    rw [same.container] at held
    obtain ⟨shows_, sound⟩ := consistent.cells key id held
    exact ⟨shows_.steady same, sound⟩
  providers := by
    rw [same.container]
    exact consistent.providers

theorem add (consistent : Consistent depends table world) (made : Instance σ) :
    Consistent depends table (world.add made) where
  bindings := consistent.bindings
  cells := by
    intro key id held
    obtain ⟨shows_, sound⟩ := consistent.cells key id held
    exact ⟨shows_.add made, sound⟩
  providers := consistent.providers

theorem fill (consistent : Consistent depends table world) {key : BindingKey} {id : InstanceId}
    (shows_ : world.Shows id key.form) (sound : Sound depends table key) :
    Consistent depends table (world.changeContainer (·.fill key id)) where
  bindings := by
    simp only [World.changeContainer, Container.bindings_fill]
    exact consistent.bindings
  cells := by
    intro other held found
    simp only [World.changeContainer, Container.cell?_fill, Option.or_eq_some_iff] at found
    rcases found with there | ⟨_, here⟩
    · exact consistent.cells other held there
    · split at here
      · next same =>
        obtain rfl := Option.some.inj here
        rw [same]
        exact ⟨shows_, sound⟩
      · exact absurd here (by simp)
  providers := by
    intro other binding found
    rcases consistent.providers other binding found with built | ⟨given, shared, held, full⟩
    · exact .inl built
    · refine .inr ⟨given, shared, held, ?_⟩
      simp [World.changeContainer, Container.cell?_fill, full]

end Consistent

theorem sound_of_given {depends : Dependencies} {table : List Binding} {key : BindingKey}
    {binding : Binding} (found : table.find? (·.key = key) = some binding)
    (given : binding.provider = .given) : Sound depends table key := by
  have alone : ∀ other, ¬ Needs depends table key other := by
    intro other needed
    unfold Needs at needed
    rw [needsOf_of_bound found, given] at needed
    exact absurd needed (by simp [Provider.needs])
  have reached : ∀ other, Relation.ReflTransGen (Needs depends table) key other → other = key := by
    intro other leads
    rcases Relation.ReflTransGen.cases_head leads with same | ⟨next, needed, _⟩
    · exact same.symm
    · exact absurd needed (alone next)
  constructor
  · intro other leads
    rw [reached other leads]
    simp [IsBound, found]
  · intro other leads cycle
    rw [reached other leads] at cycle
    obtain ⟨next, needed, _⟩ := Relation.TransGen.head'_iff.mp cycle
    exact alone next needed

variable [Inhabited σ] {catalogue : Catalogue σ υ} {depends : Dependencies} {table : List Binding}

theorem request_delivers {path : List BindingKey} {key : BindingKey} {Holds : World σ υ → Prop}
    {fault : Option ResolutionError}
    (delivers : Delivers Holds key fault (resolveKey catalogue table path key)) :
    Delivers Holds key fault (request catalogue table path key) := by
  intro world holds
  have told := delivers world holds
  unfold request Action.bind
  revert told
  rcases resolveKey catalogue table path key world with ⟨outcome, after⟩
  rintro ⟨kept, told⟩
  cases fault with
  | some error =>
    obtain rfl : outcome = .error error := told
    exact ⟨kept, rfl⟩
  | none =>
    obtain ⟨id, delivered, shows_⟩ := told
    obtain rfl : outcome = .ok id := delivered
    have back : readAs key id after = (.ok id, after) := by
      simp only [readAs, shows_.form_eq, ↓reduceIte]
    show Holds (readAs key id after).2 ∧ Foretold key none (readAs key id after)
    rw [back]
    exact ⟨kept, id, rfl, shows_⟩

omit [Inhabited σ] in
theorem cached_delivers {key : BindingKey} {fault : Option ResolutionError}
    {make : Action (World σ υ) ResolutionError InstanceId}
    (faultless : Sound depends table key ↔ fault = none)
    (delivers : ∀ world, Consistent depends table world → world.container.cell? key = none →
      Consistent depends table (make world).2 ∧ Foretold key fault (make world)) :
    Delivers (Consistent depends table) key fault (cached key make) := by
  intro world consistent
  unfold cached
  cases full : world.container.cell? key with
  | some held =>
    obtain ⟨shows_, sound⟩ := consistent.cells key held full
    rw [faultless.mp sound]
    exact ⟨consistent, held, rfl, shows_⟩
  | none =>
    have told := delivers world consistent full
    revert told
    rcases make world with ⟨outcome, after⟩
    rintro ⟨kept, told⟩
    cases fault with
    | some error =>
      obtain rfl : outcome = .error error := told
      exact ⟨kept, rfl⟩
    | none =>
      obtain ⟨id, delivered, shows_⟩ := told
      obtain rfl : outcome = .ok id := delivered
      exact ⟨kept.fill shows_ (faultless.mpr rfl), id, rfl, shows_⟩

theorem provide_delivers {path : List BindingKey} {key : BindingKey} {binding : Binding}
    (declared : ∀ type, Requests (catalogue type).construct (depends type))
    (fresh : key ∉ path) (found : table.find? (·.key = key) = some binding)
    (built : binding.provider = .constructor key.type key.form)
    (nested : ∀ other, Needs depends table key other →
      Delivers (Consistent depends table) other (firstFault depends table (path ++ [key]) other)
        (resolveKey catalogue table (path ++ [key]) other)) :
    Delivers (Consistent depends table) key (firstFault depends table path key)
      (provide catalogue (request catalogue table (path ++ [key])) binding) := by
  have needs : binding.provider.needs depends = depends key.type := by rw [built]; rfl
  have delivers : ∀ other ∈ depends key.type, Delivers (Consistent depends table) other
      (firstFault depends table (path ++ [key]) other)
      (request catalogue table (path ++ [key]) other) := by
    intro other member
    apply request_delivers
    apply nested
    unfold Needs
    rw [needsOf_of_bound found, needs]
    exact member
  rw [firstFault_of_bound fresh found, needs]
  unfold provide
  rw [built]
  exact construct_delivers (declared key.type) (fun _ _ same consistent => consistent.steady same)
    (fun _ made consistent => consistent.add made) delivers

/-- Every request comes out as the graph says, as long as the keys under construction lead to it. -/
theorem resolveKey_delivers
    (declared : ∀ type, Requests (catalogue type).construct (depends type))
    (path : List BindingKey) (key : BindingKey)
    (leads : ∀ earlier ∈ path, Relation.TransGen (Needs depends table) earlier key) :
    Delivers (Consistent depends table) key (firstFault depends table path key)
      (resolveKey catalogue table path key) := by
  -- What is under construction needs, through the key, whatever the key needs.
  have further : ∀ {path : List BindingKey} {key : BindingKey},
      (∀ earlier ∈ path, Relation.TransGen (Needs depends table) earlier key) →
      ∀ other, Needs depends table key other →
        ∀ earlier ∈ path ++ [key], Relation.TransGen (Needs depends table) earlier other := by
    intro path key leads other needed earlier listed
    rcases List.mem_append.mp listed with before | here
    · exact (leads earlier before).tail needed
    · rw [List.mem_singleton.mp here]
      exact .single needed
  induction path, key using resolveKey.induct catalogue table with
  | case1 path key onPath =>
    rw [resolveKey_of_mem onPath, firstFault_of_mem onPath]
    exact fun world consistent => ⟨consistent, rfl⟩
  | case2 path key fresh unbound =>
    rw [resolveKey_of_unbound fresh unbound, firstFault_of_unbound fresh unbound]
    exact fun world consistent => ⟨consistent, rfl⟩
  | case3 path key fresh binding found transient ih =>
    rw [resolveKey_of_bound fresh found, transient]
    intro world consistent
    rcases consistent.providers key binding found with built | ⟨_, shared, _⟩
    · exact provide_delivers declared fresh found built
        (fun other needed => ih other (further leads other needed)) world consistent
    · simp [transient] at shared
  | case4 path key fresh binding found shared ih =>
    rw [resolveKey_of_bound fresh found, shared]
    apply cached_delivers ⟨firstFault_of_sound path key leads, sound_of_firstFault⟩
    intro world consistent vacant
    rcases consistent.providers key binding found with built | ⟨_, _, held, full⟩
    · exact provide_delivers declared fresh found built
        (fun other needed => ih other (further leads other needed)) world consistent
    · simp [vacant] at full

/-! ### Histories -/

omit [Inhabited σ] in
theorem Consistent.extend {world after : World σ υ} {binding : Binding}
    (consistent : Consistent depends table world)
    (fresh : table.find? (·.key = binding.key) = none)
    (bindings : after.container.bindings = table ++ [binding])
    (shown : ∀ id form, world.Shows id form → after.Shows id form)
    (kept : ∀ key id, world.container.cell? key = some id → after.container.cell? key = some id)
    (cells : ∀ key id, after.container.cell? key = some id →
      world.container.cell? key = some id ∨
        key = binding.key ∧ binding.provider = .given ∧ after.Shows id key.form)
    (provider : binding.provider = .constructor binding.key.type binding.key.form ∨
      binding.provider = .given ∧ binding.scope = .shared ∧
        ∃ id, after.container.cell? binding.key = some id) :
    Consistent depends (table ++ [binding]) after where
  bindings := bindings
  cells := by
    intro key id held
    rcases cells key id held with before | ⟨rfl, given, shows_⟩
    · obtain ⟨shows_, sound⟩ := consistent.cells key id before
      exact ⟨shown id key.form shows_, sound.append [binding]⟩
    · refine ⟨shows_, sound_of_given ?_ given⟩
      rw [List.find?_append, fresh]
      simp
  providers := by
    intro key other found
    rw [List.find?_append, Option.or_eq_some_iff] at found
    rcases found with before | ⟨_, here⟩
    · rcases consistent.providers key other before with built | ⟨given, shared, held, full⟩
      · exact .inl built
      · exact .inr ⟨given, shared, held, kept key held full⟩
    · obtain ⟨member, same⟩ := find?_mem_and_key here
      obtain rfl := List.mem_singleton.mp member
      rw [← same]
      exact provider

omit [Inhabited σ] in
theorem Coherent.bind {world : World σ υ} (coherent : Coherent depends world) (key : BindingKey)
    (scope : Scope) : Coherent depends (world.changeContainer (·.bind key scope)) := by
  by_cases bound : world.container.isBound key = true
  · have same : world.changeContainer (·.bind key scope) = world := by
      simp [World.changeContainer, Container.bind, Container.register, bound]
    rw [same]
    exact coherent
  · have grown : (world.container.bind key scope).bindings =
        world.container.bindings ++ [⟨key, scope, .constructor key.type key.form⟩] := by
      simp [Container.bind, Container.register, bound]
    have cells : (world.container.bind key scope).cells = world.container.cells :=
      Container.cells_register ..
    unfold Coherent
    simp only [World.changeContainer, grown]
    apply Consistent.extend coherent
    · simpa [Container.isBound, Container.binding?] using bound
    · exact grown
    · exact fun _ _ shows_ => shows_
    · intro other id held
      simpa only [Container.cell?, cells] using held
    · intro other id held
      left
      simpa only [Container.cell?, cells] using held
    · exact .inl rfl

omit [Inhabited σ] in
theorem Coherent.bindValue {world : World σ υ} (coherent : Coherent depends world)
    (made : Instance σ) (form : made.form = .concrete made.type) :
    Coherent depends
      ((world.add made).changeContainer (·.bindGiven made.type world.nextId)) := by
  let after := (world.add made).changeContainer (·.bindGiven made.type world.nextId)
  show Coherent depends after
  by_cases bound : world.container.isBound ⟨made.type, .concrete⟩ = true
  · have same : after = world.add made := by
      simp [after, World.changeContainer, Container.bindGiven, World.add, bound]
    rw [same]
    exact coherent.add made
  · let binding : Binding := ⟨⟨made.type, .concrete⟩, .shared, .given⟩
    have given : after.container =
        (world.container.register binding).fill binding.key world.nextId := by
      simp [after, binding, World.changeContainer, World.add, Container.bindGiven, bound]
    have grown : after.container.bindings = world.container.bindings ++ [binding] := by
      simp [given, binding, Container.register, bound]
    have cells : ∀ key, after.container.cell? key =
        (world.container.cell? key).or (if key = binding.key then some world.nextId else none) := by
      intro key
      rw [given, Container.cell?_fill]
      unfold Container.cell?
      rw [Container.cells_register]
    unfold Coherent
    rw [grown]
    apply Consistent.extend coherent
    · simpa [binding, Container.isBound, Container.binding?] using bound
    · exact grown
    · exact fun _ _ shows_ => shows_.add made
    · intro key id held
      simp [cells key, held]
    · intro key id held
      rw [cells key, Option.or_eq_some_iff] at held
      rcases held with before | ⟨_, here⟩
      · exact .inl before
      · split at here
        · next same =>
          obtain rfl := Option.some.inj here
          have shows_ : (world.add made).Shows world.nextId (.concrete made.type) :=
            form ▸ world.shows_add_nextId made
          exact .inr ⟨same, rfl, same ▸ shows_⟩
        · exact absurd here (by simp)
    · refine .inr ⟨rfl, rfl, ?_⟩
      rw [cells]
      cases world.container.cell? binding.key <;> simp

theorem resolve_delivers (declared : ∀ type, Requests (catalogue type).construct (depends type))
    (key : BindingKey) {world : World σ υ} (coherent : Coherent depends world) :
    Coherent depends (resolve catalogue key world).2 ∧
      Foretold key (firstFault depends world.container.bindings [] key)
        (resolve catalogue key world) := by
  obtain ⟨consistent, told⟩ :=
    request_delivers (resolveKey_delivers declared [] key (by simp)) world coherent
  refine ⟨?_, told⟩
  unfold Coherent
  rw [bindings_resolve]
  exact consistent

theorem coherent_run (declared : ∀ type, Requests (catalogue type).construct (depends type))
    (call : ContainerCall σ) (world : World σ υ) (coherent : Coherent depends world) :
    Coherent depends (call.run catalogue world) := by
  cases call with
  | bind key scope => exact coherent.bind key scope
  | bindValue type properties state =>
    exact coherent.bindValue ⟨type, .concrete type, properties, state⟩ rfl
  | resolve key => exact (resolve_delivers declared key coherent).1

omit [Inhabited σ] in
theorem coherent_unbound (world : World σ υ) : Coherent depends world.unbound where
  bindings := rfl
  cells key id held := by simp [World.unbound, Container.empty, Container.cell?] at held
  providers key binding found := by simp [World.unbound, Container.empty] at found

theorem resolve_after (declared : ∀ type, Requests (catalogue type).construct (depends type))
    (calls : List (ContainerCall σ)) (start : World σ υ) (key : BindingKey) :
    let world := ContainerCall.runAll catalogue calls start.unbound
    Foretold key (firstFault depends world.container.bindings [] key)
      (resolve catalogue key world) :=
  (resolve_delivers declared key
    (ContainerCall.runAll_keeps (coherent_run declared) calls _ (coherent_unbound start))).2

section Outcome

omit [Inhabited σ]

variable {key : BindingKey} {fault : Option ResolutionError}
  {result : Except ResolutionError InstanceId × World σ υ}

theorem Foretold.ok_iff (told : Foretold key fault result) :
    (∃ id, result.1 = .ok id) ↔ fault = none := by
  cases fault with
  | none =>
    obtain ⟨id, delivered, _⟩ := told
    simp [delivered]
  | some error =>
    have failed : result.1 = .error error := told
    simp [failed]

theorem Foretold.error_iff (told : Foretold key fault result) (error : ResolutionError) :
    result.1 = .error error ↔ fault = some error := by
  cases fault with
  | none =>
    obtain ⟨id, delivered, _⟩ := told
    simp [delivered]
  | some actual =>
    have failed : result.1 = .error actual := told
    simp [failed]

end Outcome

/-- Whatever has been bound, resolved or failed to resolve before, a key can be resolved exactly when
every key it leads to is bound and none of them lies on a cycle. If it cannot, the failure is that of
its first failing request, depth first in the order of declaration: a request for an unbound key, or
one for a key under construction. No instance that a shared binding holds makes a difference to it. -/
theorem resolution_follows_graph (catalogue : Catalogue σ υ) (depends : Dependencies)
    (declared : ∀ type, Requests (catalogue type).construct (depends type))
    (start : World σ υ) (calls : List (ContainerCall σ)) (key : BindingKey) :
    let world := ContainerCall.runAll catalogue calls start.unbound
    let table := world.container.bindings
    ((∃ id, (resolve catalogue key world).1 = .ok id) ↔
        (∀ other, Relation.ReflTransGen (Needs depends table) key other →
          world.container.isBound other = true) ∧
        ¬ ∃ other, Relation.ReflTransGen (Needs depends table) key other ∧
          Relation.TransGen (Needs depends table) other other) ∧
      (∀ error, (resolve catalogue key world).1 = .error error ↔
        (visits depends table [] key).findSome? (Visit.fault? table) = some error) ∧
      ∀ (otherStart : World σ υ) (others : List (ContainerCall σ)),
        let otherWorld := ContainerCall.runAll catalogue others otherStart.unbound
        otherWorld.container.bindings = table →
          ∀ error, (resolve catalogue key otherWorld).1 = .error error ↔
            (resolve catalogue key world).1 = .error error := by
  intro world table
  have told : Foretold key (firstFault depends table [] key) (resolve catalogue key world) :=
    resolve_after declared calls start key
  refine ⟨?_, ?_, ?_⟩
  · rw [told.ok_iff, firstFault_eq_none_iff]
    constructor
    · intro sound
      refine ⟨sound.bound, ?_⟩
      rintro ⟨other, leads, cycle⟩
      exact sound.acyclic other leads cycle
    · rintro ⟨bound, acyclic⟩
      exact ⟨bound, fun other leads cycle => acyclic ⟨other, leads, cycle⟩⟩
  · exact told.error_iff
  · intro otherStart others otherWorld same error
    have toldThere : Foretold key (firstFault depends otherWorld.container.bindings [] key)
        (resolve catalogue key otherWorld) := resolve_after declared others otherStart key
    rw [toldThere.error_iff, told.error_iff, same]

/-! ### A ring of constructors -/

def resolving (blueprint : Blueprint σ) :
    List BindingKey → ConstructScript σ υ (Except ResolutionError (Blueprint σ))
  | [] => .done (.ok blueprint)
  | key :: rest => .ask (.resolve key) fun
      | .ok _ => resolving blueprint rest
      | .error error => .done (.error error)

omit [Inhabited σ] in
theorem requests_resolving (blueprint : Blueprint σ) (keys : List BindingKey) :
    Requests (@resolving σ υ blueprint keys) keys := by
  induction keys with
  | nil => exact .built blueprint
  | cons key rest ih => exact .resolve key rest _ (fun _ => ih) fun error => .done

def ringGuest : BindingKey := ⟨⟨0, "Guest"⟩, .component⟩
def ringFirst : BindingKey := ⟨⟨1, "First"⟩, .component⟩
def ringSecond : BindingKey := ⟨⟨2, "Second"⟩, .component⟩
def ringValue : TypeToken := ⟨3, "Value"⟩

def ringNeeds (type : TypeToken) : List BindingKey :=
  if type = ringGuest.type then [⟨ringValue, .concrete⟩, ringFirst]
  else if type = ringFirst.type then [ringSecond]
  else if type = ringSecond.type then [⟨ringValue, .concrete⟩, ringFirst]
  else []

def ringCatalogue : Catalogue Unit Unit := fun type =>
  { Behaviour.plain none () with construct := resolving ⟨none, ()⟩ (ringNeeds type) }

/-- The guest is resolved too early, and the ring is closed only after that. -/
def ringCalls : List (ContainerCall Unit) :=
  [.bind ringGuest .shared, .bindValue ringValue none (), .resolve ringGuest,
    .bind ringFirst .transient, .resolve ringGuest, .bind ringSecond .shared]

def ringTable : List Binding :=
  [⟨ringGuest, .shared, .constructor ringGuest.type .component⟩,
    ⟨⟨ringValue, .concrete⟩, .shared, .given⟩,
    ⟨ringFirst, .transient, .constructor ringFirst.type .component⟩,
    ⟨ringSecond, .shared, .constructor ringSecond.type .component⟩]

theorem bindings_ring (start : World Unit Unit) :
    (ContainerCall.runAll ringCatalogue ringCalls start.unbound).container.bindings =
      ringTable := by
  simp only [ContainerCall.runAll, ringCalls, List.foldl_cons, List.foldl_nil, ContainerCall.run,
    World.changeContainer, World.unbound, World.add, Container.bind, Container.bindGiven,
    Container.register, Container.isBound, Container.binding?, bindings_resolve]
  rfl

theorem resolution_of_ring :
    (∀ type, Requests (ringCatalogue type).construct (ringNeeds type)) ∧
      (resolve ringCatalogue ringGuest
        (ContainerCall.runAll ringCatalogue ringCalls (World.start ()).unbound)).1 =
          .error (.circular ["Guest", "First", "Second", "First"]) := by
  have declared : ∀ type, Requests (ringCatalogue type).construct (ringNeeds type) :=
    fun type => requests_resolving _ (ringNeeds type)
  refine ⟨declared, ?_⟩
  have followed := resolution_follows_graph ringCatalogue ringNeeds declared (World.start ())
    ringCalls ringGuest
  apply (followed.2.1 _).mpr
  rw [bindings_ring]
  decide +kernel

end EventPipeline
