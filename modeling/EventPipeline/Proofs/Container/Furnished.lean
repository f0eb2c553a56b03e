import EventPipeline.Proofs.Container.Runs
import EventPipeline.Proofs.Container.Calls
import EventPipeline.Proofs.Container.Typing

/-! Containers as their own calls leave them.

Every binding builds with the constructor of its own type, or stands for a value that was given and is
in its cell. Every cell belongs to a shared binding and holds an instance made for its key. A container
that starts empty never gets out of this, whatever constructors do. -/

namespace EventPipeline

variable {σ υ : Type}

theorem World.Steady.nextId_eq {before after : World σ υ} (steady : before.Steady after) :
    after.nextId = before.nextId := by
  simpa [World.nextId] using congrArg List.length steady.kinds

namespace World

/-- There is an instance of this number, of the type and in the form of the key. -/
def MadeFor (key : BindingKey) (id : InstanceId) (world : World σ υ) : Prop :=
  world.OfType key.type id ∧ world.Shows id key.form

structure Furnished (world : World σ υ) : Prop where
  providers : ∀ key binding, world.container.binding? key = some binding →
    binding.provider = .constructor key.type key.form ∨
      binding.provider = .given ∧ binding.scope = .shared ∧
        ∃ id, world.container.cell? key = some id
  cells : ∀ key id, world.container.cell? key = some id →
    world.MadeFor key id ∧ world.container.scopeOf? key = some .shared

variable {key : BindingKey} {id : InstanceId} {world after : World σ υ}

theorem MadeFor.lt_nextId (made : world.MadeFor key id) : id < world.nextId := by
  obtain ⟨⟨held, found, _⟩, _⟩ := made
  exact (List.getElem?_eq_some_iff.mp found).1

theorem MadeFor.steady (made : world.MadeFor key id) (same : world.Steady after) :
    after.MadeFor key id :=
  ⟨made.1.steady same, made.2.steady same⟩

theorem MadeFor.add (made : world.MadeFor key id) (new : Instance σ) :
    (world.add new).MadeFor key id :=
  ⟨made.1.add new, made.2.add new⟩

theorem madeFor_add_nextId (world : World σ υ) {new : Instance σ} (type : new.type = key.type)
    (form : new.form = key.form) : (world.add new).MadeFor key world.nextId :=
  ⟨type ▸ world.ofType_add_nextId new, form ▸ world.shows_add_nextId new⟩

theorem MadeFor.readAs [Inhabited σ] (made : world.MadeFor key id) :
    (readAs key id world).1 = .ok id := by
  simp only [EventPipeline.readAs, made.2.form_eq, ↓reduceIte]

theorem MadeFor.key_eq {other : BindingKey} (one : world.MadeFor key id)
    (two : world.MadeFor other id) : key = other := by
  obtain ⟨⟨held, found, type⟩, ⟨_, shown, form⟩⟩ := one
  obtain ⟨⟨_, again, otherType⟩, ⟨_, also, otherForm⟩⟩ := two
  cases found.symm.trans again
  cases found.symm.trans shown
  cases found.symm.trans also
  have types : key.type = other.type := type.symm.trans otherType
  have forms : key.form = other.form := form.symm.trans otherForm
  obtain ⟨keyType, keyView⟩ := key
  obtain ⟨otherType, otherView⟩ := other
  cases types
  cases keyView <;> cases otherView <;> first | rfl | cases forms

namespace Furnished

theorem steady (furnished : world.Furnished) (same : world.Steady after) : after.Furnished where
  providers := by
    rw [same.container]
    exact furnished.providers
  cells := by
    intro key id held
    rw [same.container] at held ⊢
    obtain ⟨made, scope⟩ := furnished.cells key id held
    exact ⟨made.steady same, scope⟩

theorem add (furnished : world.Furnished) (new : Instance σ) : (world.add new).Furnished where
  providers := furnished.providers
  cells key id held :=
    have cell := furnished.cells key id held
    ⟨cell.1.add new, cell.2⟩

theorem vacant (furnished : world.Furnished) {binding : Binding}
    (found : world.container.binding? key = some binding)
    (vacant : binding.scope = .shared → world.container.cell? key = none) :
    world.container.cell? key = none := by
  cases full : world.container.cell? key with
  | none => rfl
  | some id =>
    have scope := (furnished.cells key id full).2
    rw [Container.scopeOf?, found] at scope
    have empty := vacant (Option.some.inj scope)
    rw [full] at empty
    cases empty

theorem cell_of_unbound (furnished : world.Furnished)
    (missing : world.container.binding? key = none) : world.container.cell? key = none := by
  cases full : world.container.cell? key with
  | none => rfl
  | some id =>
    have scope := (furnished.cells key id full).2
    rw [Container.scopeOf?, missing] at scope
    cases scope

theorem constructor_of_vacant (furnished : world.Furnished) {binding : Binding}
    (found : world.container.binding? key = some binding)
    (vacant : binding.scope = .shared → world.container.cell? key = none) :
    binding.provider = .constructor key.type key.form := by
  rcases furnished.providers key binding found with own | ⟨_, shared, id, full⟩
  · exact own
  · rw [vacant shared] at full
    cases full

/-- What stands in for the provider of a given value is never called: the value is in its cell. -/
theorem not_given_of_vacant (furnished : world.Furnished) {binding : Binding}
    (found : world.container.binding? key = some binding)
    (vacant : binding.scope = .shared → world.container.cell? key = none) :
    binding.provider ≠ .given := by
  rw [furnished.constructor_of_vacant found vacant]
  exact Provider.noConfusion

theorem kind_of_vacant (furnished : world.Furnished) {binding : Binding} {type : TypeToken}
    {form : Form} (found : world.container.binding? key = some binding)
    (vacant : binding.scope = .shared → world.container.cell? key = none)
    (provider : binding.provider = .constructor type form) : type = key.type ∧ form = key.form :=
  Provider.constructor.inj (provider.symm.trans (furnished.constructor_of_vacant found vacant))

end Furnished

end World

/-! ### Cells -/

theorem World.cell?_keep (world : World σ υ) (scope : Scope) (key wanted : BindingKey)
    (built : InstanceId) : (world.keep scope key built).container.cell? wanted =
      (world.container.cell? wanted).or
        (if scope = .shared ∧ wanted = key then some built else none) := by
  cases scope with
  | transient => simp [World.keep]
  | shared =>
    simp only [World.keep, World.changeContainer, Container.cell?_fill, true_and]

@[simp] theorem World.scopeOf?_keep (world : World σ υ) (scope : Scope) (key wanted : BindingKey)
    (built : InstanceId) : (world.keep scope key built).container.scopeOf? wanted =
      world.container.scopeOf? wanted := by
  simp only [Container.scopeOf?, Container.binding?, World.bindings_keep]

theorem World.MadeFor.keep {world : World σ υ} {key : BindingKey} {id : InstanceId}
    (made : world.MadeFor key id) (scope : Scope) (other : BindingKey) (built : InstanceId) :
    (world.keep scope other built).MadeFor key id := by
  unfold World.MadeFor World.OfType World.Shows World.instance? at made ⊢
  rw [World.instances_keep]
  exact made

theorem World.Furnished.keep {world : World σ υ} (furnished : world.Furnished) {scope : Scope}
    {key : BindingKey} {built : InstanceId} (made : world.MadeFor key built)
    (bound : world.container.scopeOf? key = some scope) :
    (world.keep scope key built).Furnished where
  providers := by
    intro other binding found
    rw [Container.binding?, World.bindings_keep] at found
    rcases furnished.providers other binding found with own | ⟨given, shared, id, full⟩
    · exact .inl own
    · exact .inr ⟨given, shared, id, by simp [World.cell?_keep, full]⟩
  cells := by
    intro other id held
    rw [World.cell?_keep, Option.or_eq_some_iff] at held
    rw [World.scopeOf?_keep]
    rcases held with there | ⟨_, here⟩
    · obtain ⟨suits, shared⟩ := furnished.cells other id there
      exact ⟨suits.keep scope key built, shared⟩
    · split at here
      · next same =>
        obtain ⟨rfl, rfl⟩ := same
        obtain rfl := Option.some.inj here
        exact ⟨made.keep .shared other built, bound⟩
      · cases here

/-! ### Calls -/

/-- What calls from outside do to a container: bindings stay what they are, cells keep what they hold,
and instances stay there with their kinds. -/
structure World.Grows (before after : World σ υ) : Prop where
  bindings : ∀ key binding, before.container.binding? key = some binding →
    after.container.binding? key = some binding
  cells : ∀ key id, before.container.cell? key = some id → after.container.cell? key = some id
  kinds : ∀ key id, before.MadeFor key id → after.MadeFor key id
  count : before.nextId ≤ after.nextId

namespace World.Grows

variable {before between after : World σ υ}

theorem refl (world : World σ υ) : world.Grows world :=
  ⟨fun _ _ found => found, fun _ _ held => held, fun _ _ made => made, Nat.le_refl _⟩

theorem trans (first : before.Grows between) (second : between.Grows after) : before.Grows after :=
  ⟨fun key binding found => second.bindings key binding (first.bindings key binding found),
    fun key id held => second.cells key id (first.cells key id held),
    fun key id made => second.kinds key id (first.kinds key id made),
    Nat.le_trans first.count second.count⟩

theorem ofSteady (same : before.Steady after) : before.Grows after where
  bindings := by simp [same.container]
  cells := by simp [same.container]
  kinds _ _ made := made.steady same
  count := Nat.le_of_eq same.nextId_eq.symm

theorem add (world : World σ υ) (new : Instance σ) : world.Grows (world.add new) :=
  ⟨fun _ _ found => found, fun _ _ held => held, fun _ _ made => made.add new,
    by simp [World.nextId, World.add]⟩

theorem keep (world : World σ υ) (scope : Scope) (key : BindingKey) (built : InstanceId) :
    world.Grows (world.keep scope key built) where
  bindings other binding found := by
    rw [Container.binding?, World.bindings_keep]
    exact found
  cells other id held := by simp [World.cell?_keep, held]
  kinds _ _ made := made.keep scope key built
  count := by simp [World.nextId]

theorem bind (world : World σ υ) (key : BindingKey) (scope : Scope) :
    world.Grows (world.changeContainer (·.bind key scope)) where
  bindings other binding found := by
    simp [World.changeContainer, Container.bind, Container.binding?_register, found]
  cells other id held := by
    simpa [World.changeContainer, Container.bind, Container.cell?] using held
  kinds _ _ made := made
  count := Nat.le_refl _

theorem scopeOf?_eq (grows : before.Grows after) {key : BindingKey} {scope : Scope}
    (bound : before.container.scopeOf? key = some scope) :
    after.container.scopeOf? key = some scope := by
  obtain ⟨binding, found, same⟩ := Option.map_eq_some_iff.mp bound
  rw [Container.scopeOf?, grows.bindings key binding found]
  exact congrArg some same

theorem scopeOf?_of_bound (grows : before.Grows after) {key : BindingKey} {scope : Scope}
    (bound : before.container.isBound key = true)
    (settled : after.container.scopeOf? key = some scope) :
    before.container.scopeOf? key = some scope := by
  obtain ⟨binding, found⟩ := Option.isSome_iff_exists.mp bound
  rw [Container.scopeOf?, grows.bindings key binding found] at settled
  rw [Container.scopeOf?, found]
  exact settled

theorem isBound (grows : before.Grows after) {key : BindingKey}
    (bound : before.container.isBound key = true) : after.container.isBound key = true := by
  obtain ⟨binding, found⟩ := Option.isSome_iff_exists.mp bound
  exact Option.isSome_of_eq_some (grows.bindings key binding found)

end World.Grows

/-! ### Bindings -/

section Binding

variable {world : World σ υ}

theorem World.Furnished.bind (furnished : world.Furnished) (key : BindingKey) (scope : Scope) :
    (world.changeContainer (·.bind key scope)).Furnished where
  providers := by
    intro other binding found
    simp only [World.changeContainer, Container.bind, Container.cell?, Container.cells_register]
    simp only [World.changeContainer, Container.bind, Container.binding?_register,
      Option.or_eq_some_iff] at found
    rcases found with there | ⟨_, new⟩
    · exact furnished.providers other binding there
    · split at new
      · next same =>
        obtain rfl := Option.some.inj new
        exact .inl (same ▸ rfl)
      · cases new
  cells := by
    intro other id held
    have before : world.container.cell? other = some id := by
      simpa [World.changeContainer, Container.bind, Container.cell?] using held
    obtain ⟨made, shared⟩ := furnished.cells other id before
    exact ⟨made, (World.Grows.bind world key scope).scopeOf?_eq shared⟩

theorem Container.bindGiven_of_unbound {container : Container} {type : TypeToken}
    (unbound : container.binding? ⟨type, .concrete⟩ = none) (given : InstanceId) :
    container.bindGiven type given =
      (container.register ⟨⟨type, .concrete⟩, .shared, .given⟩).fill ⟨type, .concrete⟩ given := by
  simp [Container.bindGiven, Container.isBound, unbound]

theorem Container.bindGiven_of_bound {container : Container} {type : TypeToken} {binding : Binding}
    (bound : container.binding? ⟨type, .concrete⟩ = some binding) (given : InstanceId) :
    container.bindGiven type given = container := by
  simp [Container.bindGiven, Container.isBound, bound]

theorem World.Grows.bindGiven (world : World σ υ) (type : TypeToken) (given : InstanceId) :
    world.Grows (world.changeContainer (·.bindGiven type given)) := by
  cases bound : world.container.binding? ⟨type, .concrete⟩ with
  | some binding =>
    simp only [World.changeContainer, Container.bindGiven_of_bound bound]
    exact .refl world
  | none =>
    refine ⟨?_, ?_, fun _ _ made => made, Nat.le_refl _⟩
    · intro key binding found
      simp only [World.changeContainer, Container.bindGiven_of_unbound bound, Container.binding?,
        Container.bindings_fill]
      have kept := world.container.binding?_register ⟨⟨type, .concrete⟩, .shared, .given⟩ key
      rw [found] at kept
      exact kept
    · intro key id held
      simp only [World.changeContainer, Container.bindGiven_of_unbound bound, Container.cell?_fill]
      simp only [Container.cell?, Container.cells_register]
      rw [show world.container.cells.lookup key = some id from held]
      rfl

theorem World.Furnished.bindGiven (furnished : world.Furnished) {type : TypeToken}
    {given : InstanceId} (made : world.MadeFor ⟨type, .concrete⟩ given) :
    (world.changeContainer (·.bindGiven type given)).Furnished := by
  cases bound : world.container.binding? ⟨type, .concrete⟩ with
  | some binding =>
    simp only [World.changeContainer, Container.bindGiven_of_bound bound]
    exact furnished
  | none =>
    have grows := World.Grows.bindGiven world type given
    -- The value goes to the end of the table and into the cell of its own key; all other look-ups stay.
    have bindings : ∀ key, (world.container.bindGiven type given).binding? key =
        (world.container.binding? key).or (if (⟨type, .concrete⟩ : BindingKey) = key
          then some ⟨⟨type, .concrete⟩, .shared, .given⟩ else none) := by
      intro key
      rw [Container.bindGiven_of_unbound bound, Container.binding?, Container.bindings_fill]
      exact Container.binding?_register ..
    have cells : ∀ key, (world.container.bindGiven type given).cell? key =
        (world.container.cell? key).or (if key = ⟨type, .concrete⟩ then some given else none) := by
      intro key
      rw [Container.bindGiven_of_unbound bound, Container.cell?_fill]
      simp only [Container.cell?, Container.cells_register]
    constructor
    · intro key binding found
      rcases Option.or_eq_some_iff.mp ((bindings key).symm.trans found) with there | ⟨_, new⟩
      · rcases furnished.providers key binding there with own | ⟨value, shared, id, full⟩
        · exact .inl own
        · exact .inr ⟨value, shared, id, grows.cells key id full⟩
      · split at new
        · next same =>
          obtain rfl := Option.some.inj new
          refine .inr ⟨rfl, rfl, ?_⟩
          rw [show (world.changeContainer (·.bindGiven type given)).container.cell? key = _ from
            cells key, if_pos same.symm]
          cases world.container.cell? key <;> simp
        · cases new
    · intro key id held
      rcases Option.or_eq_some_iff.mp ((cells key).symm.trans held) with there | ⟨_, new⟩
      · obtain ⟨suits, shared⟩ := furnished.cells key id there
        exact ⟨suits, grows.scopeOf?_eq shared⟩
      · split at new
        · next same =>
          obtain rfl := Option.some.inj new
          subst same
          refine ⟨made, ?_⟩
          show (Container.binding? (world.container.bindGiven type given) _).map _ = _
          rw [bindings, bound]
          simp
        · cases new

end Binding

theorem World.furnished_unbound (world : World σ υ) : world.unbound.Furnished where
  providers _ _ found := by simp [World.unbound, Container.empty, Container.binding?] at found
  cells _ _ held := by simp [World.unbound, Container.empty, Container.cell?] at held

end EventPipeline
