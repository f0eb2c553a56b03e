import EventPipeline.Proofs.Container.Requests

/-! Histories of a container, with all that happens in them.

Whatever is bound and resolved, in whatever order, and whatever fails meanwhile: a shared key is built
once at most, all its requests that succeed are answered with that instance, and a failure leaves
nothing behind that could stand in the way of the next attempt. -/

namespace EventPipeline

variable {σ υ : Type} [Inhabited σ]

/-- What happens in a history of calls, up to the world after it. -/
inductive Chronicle (catalogue : Catalogue σ υ) :
    List (ContainerCall σ) → World σ υ → List Incident → World σ υ → Prop where
  | nil (world : World σ υ) : Chronicle catalogue [] world [] world
  | bound {calls : List (ContainerCall σ)} {world after : World σ υ} {incidents : List Incident}
      {call : ContainerCall σ} (binding : ∀ key, call ≠ .resolve key)
      (rest : Chronicle catalogue calls (call.run catalogue world) incidents after) :
      Chronicle catalogue (call :: calls) world incidents after
  | resolved {calls : List (ContainerCall σ)} {world after : World σ υ} {key : BindingKey}
      {result : Except ResolutionError InstanceId} {reached : Resolver σ υ}
      {incidents more : List Incident}
      (run : Runs catalogue (.resolve none key) ⟨[], world⟩ incidents result reached)
      (rest : Chronicle catalogue calls reached.world more after) :
      Chronicle catalogue (.resolve key :: calls) world (incidents ++ more) after

theorem ContainerCall.run_grows (catalogue : Catalogue σ υ) (call : ContainerCall σ)
    (world : World σ υ) : world.Grows (call.run catalogue world) := by
  cases call with
  | bind key scope => exact .bind ..
  | bindValue type properties state => exact (World.Grows.add ..).trans (.bindGiven ..)
  | resolve key => exact resolve_grows ..

theorem ContainerCall.run_furnished (catalogue : Catalogue σ υ) (call : ContainerCall σ)
    {world : World σ υ} (furnished : world.Furnished) :
    (call.run catalogue world).Furnished := by
  cases call with
  | bind key scope => exact furnished.bind key scope
  | bindValue type properties state =>
    exact (furnished.add _).bindGiven (world.madeFor_add_nextId rfl rfl)
  | resolve key => exact furnished.resolve ..

theorem ContainerCall.cell?_run (catalogue : Catalogue σ υ) {call : ContainerCall σ}
    (binding : ∀ key, call ≠ .resolve key) {world : World σ υ} {key : BindingKey}
    (bound : world.container.isBound key = true) :
    (call.run catalogue world).container.cell? key = world.container.cell? key := by
  cases call with
  | bind other scope =>
    simp [ContainerCall.run, World.changeContainer, Container.bind, Container.cell?]
  | bindValue type properties state =>
    simp only [ContainerCall.run, World.changeContainer, World.add]
    cases there : world.container.binding? ⟨type, .concrete⟩ with
    | some held => rw [Container.bindGiven_of_bound there]
    | none =>
      have apart : key ≠ ⟨type, .concrete⟩ := by
        rintro rfl
        simp [Container.isBound, there] at bound
      rw [Container.bindGiven_of_unbound there, Container.cell?_fill, if_neg apart, Option.or_none,
        Container.cell?, Container.cells_register]
      rfl
  | resolve other => exact absurd rfl (binding other)

namespace Chronicle

variable {catalogue : Catalogue σ υ} {calls : List (ContainerCall σ)} {world after : World σ υ}
  {incidents : List Incident} {key : BindingKey}

theorem eq_runAll (chronicle : Chronicle catalogue calls world incidents after) :
    after = ContainerCall.runAll catalogue calls world := by
  induction chronicle with
  | nil => rfl
  | bound _ _ ih => exact ih
  | @resolved _ world _ key result reached _ _ run rest ih =>
    have ends : resolve catalogue key world = (result, reached.world) := run.sound
    rw [ih]
    simp only [ContainerCall.runAll, List.foldl_cons, ContainerCall.run, ends]

theorem exists_of (catalogue : Catalogue σ υ) (calls : List (ContainerCall σ)) (world : World σ υ) :
    ∃ incidents, Chronicle catalogue calls world incidents
      (ContainerCall.runAll catalogue calls world) := by
  induction calls generalizing world with
  | nil => exact ⟨[], .nil world⟩
  | cons call rest ih =>
    obtain ⟨more, later⟩ := ih (call.run catalogue world)
    cases call with
    | bind key scope => exact ⟨more, .bound (by simp) later⟩
    | bindValue type properties state => exact ⟨more, .bound (by simp) later⟩
    | resolve key =>
      obtain ⟨incidents, run⟩ := runs_of_resolve catalogue key world
      exact ⟨incidents ++ more, .resolved run later⟩

theorem grows (chronicle : Chronicle catalogue calls world incidents after) :
    world.Grows after := by
  induction chronicle with
  | nil => exact .refl _
  | bound binding _ ih => exact (ContainerCall.run_grows catalogue _ _).trans ih
  | resolved run _ ih => exact run.grows.trans ih

theorem furnished (chronicle : Chronicle catalogue calls world incidents after)
    (furnished : world.Furnished) : after.Furnished := by
  induction chronicle with
  | nil => exact furnished
  | bound binding _ ih => exact ih (ContainerCall.run_furnished catalogue _ furnished)
  | resolved run _ ih => exact ih (run.furnished furnished trivial)

theorem shares (chronicle : Chronicle catalogue calls world incidents after)
    (furnished : world.Furnished) (shared : after.container.scopeOf? key ≠ some .transient) :
    Shares key (world.container.cell? key) incidents (after.container.cell? key) := by
  induction chronicle with
  | nil => exact .nil _
  | @bound _ world _ _ call binding rest ih =>
    have later := ih (ContainerCall.run_furnished catalogue _ furnished) shared
    -- Only a bound value gets into an empty cell here, and no incident tells of it.
    cases held : world.container.cell? key with
    | some id => rwa [(ContainerCall.run_grows catalogue call world).cells key id held] at later
    | none =>
      cases filled : (call.run catalogue world).container.cell? key with
      | none => rwa [filled] at later
      | some id =>
        rw [filled] at later
        exact .valued id later
  | resolved run rest ih =>
    have before := mt (run.grows.trans rest.grows).scopeOf?_eq shared
    exact (run.shares (.outside furnished) trivial before).append
      (ih (run.furnished furnished trivial) shared)

theorem ascends (chronicle : Chronicle catalogue calls world incidents after)
    (unshared : after.container.scopeOf? key ≠ some .shared) :
    Ascends world.nextId (incidents.filterMap (Incident.answer? key)) after.nextId := by
  induction chronicle with
  | nil => exact .nil (Nat.le_refl _)
  | bound binding _ ih =>
    exact (Ascends.nil (ContainerCall.run_grows catalogue _ _).count).append (ih unshared)
  | resolved run rest ih =>
    have before := mt (run.grows.trans rest.grows).scopeOf?_eq unshared
    rw [List.filterMap_append]
    exact (run.ascends before).append (ih unshared)

/-- The cell of a bound key is filled by its constructor only. -/
theorem cell_origin (chronicle : Chronicle catalogue calls world incidents after)
    (bound : world.container.isBound key = true) {id : InstanceId}
    (held : after.container.cell? key = some id) :
    world.container.cell? key = some id ∨ ∃ path, .built path key id ∈ incidents := by
  induction chronicle with
  | nil => exact .inl held
  | @bound _ world _ _ call binding rest ih =>
    have still := (ContainerCall.run_grows catalogue call world).isBound bound
    exact (ih still held).imp_left fun there =>
      (ContainerCall.cell?_run catalogue binding bound).symm.trans there
  | resolved run rest ih =>
    rcases ih (run.grows.isBound bound) held with between | ⟨path, later⟩
    · exact (run.cell_origin between).imp_right fun ⟨_, path, early⟩ =>
        ⟨path, List.mem_append_left _ early⟩
    · exact .inr ⟨path, List.mem_append_right _ later⟩

end Chronicle

/-- In every history that begins without bindings, a shared key is built once at most, every request
that gets an instance of it gets that one, and no request for it fails any more once there is one. The
instances of a transient key are all different, and new when they are asked for. A resolution, nested
or not, changes no binding, and fills the cells of shared keys only, with what it has built for them.
One that fails leaves the cell of its own key empty, and until a construction of the key has been
completed every new resolution of it runs the constructor again. -/
theorem shared_built_once (catalogue : Catalogue σ υ) (start : World σ υ)
    (calls : List (ContainerCall σ)) :
    (∃ incidents, Chronicle catalogue calls start.unbound incidents
      (ContainerCall.runAll catalogue calls start.unbound)) ∧
    (∀ requester key before incidents result after,
      Runs catalogue (.resolve requester key) before incidents result after →
        request catalogue before.world.container.bindings before.path key before.world =
          (result, after.world) ∧
        .answered before.path key result ∈ incidents ∧
        after.world.container.bindings = before.world.container.bindings ∧
        (∀ other id, before.world.container.cell? other = some id →
          after.world.container.cell? other = some id) ∧
        (∀ other id, after.world.container.cell? other = some id →
          before.world.container.cell? other = some id ∨
            before.world.container.scopeOf? other = some .shared ∧
              ∃ path, .built path other id ∈ incidents) ∧
        (before.world.container.scopeOf? key = some .transient →
          ∀ id, result = .ok id → before.world.instance? id = none)) ∧
    ∀ incidents world, Chronicle catalogue calls start.unbound incidents world →
      world = ContainerCall.runAll catalogue calls start.unbound ∧
      (∀ key, world.container.scopeOf? key = some .shared →
        incidents.countP (Incident.builds key) ≤ 1 ∧
        (∀ path id, .built path key id ∈ incidents ∨ .answered path key (.ok id) ∈ incidents →
          world.container.cell? key = some id) ∧
        ∀ earlier later path error,
          incidents = earlier ++ .answered path key (.error error) :: later →
            ∀ path id, .built path key id ∉ earlier ∧ .answered path key (.ok id) ∉ earlier) ∧
      (∀ key, world.container.scopeOf? key = some .transient →
        (incidents.filterMap (Incident.answer? key)).Pairwise (· < ·)) ∧
      (∀ outer requester key before,
        Arises catalogue (.resolve none outer) ⟨[], world⟩ (.resolve requester key) before →
          ∀ inner result after,
            Runs catalogue (.resolve requester key) before inner result after →
              (∀ error, result = .error error → after.world.container.cell? key = none) ∧
              (key ∉ before.path → before.world.container.isBound key = true →
                before.world.container.cell? key = none →
                  Constructs catalogue requester key before inner)) ∧
      ∀ key error, (resolve catalogue key world).1 = .error error →
        world.container.isBound key = true →
          ∀ later more after,
            Chronicle catalogue later (resolve catalogue key world).2 more after →
              (∃ path id, .built path key id ∈ more) ∨
                ∀ again result ended,
                  Runs catalogue (.resolve none key) ⟨[], after⟩ again result ended →
                    Constructs catalogue none key ⟨[], after⟩ again := by
  refine ⟨Chronicle.exists_of catalogue calls start.unbound, ?_, ?_⟩
  · intro requester key before incidents result after run
    refine ⟨run.sound, run.answered, run.bindings_eq, run.grows.cells,
      fun other id => run.cell_origin, ?_⟩
    intro transient id answered
    exact run.new_of_unshared (by simp [transient]) answered
  intro incidents world chronicle
  have furnished := chronicle.furnished (World.furnished_unbound start)
  refine ⟨chronicle.eq_runAll, ?_, ?_, ?_, ?_⟩
  · intro key shared
    have lasting : world.container.scopeOf? key ≠ some .transient := by simp [shared]
    have shares := chronicle.shares (World.furnished_unbound start) lasting
    refine ⟨Nat.le_trans (Nat.le_add_left _ _) shares.countP_builds_le,
      fun path id => shares.eq_of_given, ?_⟩
    rintro earlier later path error rfl other id
    have first := (List.pairwise_append.mp shares.failures_first).2.2
    constructor
    · exact fun built => first _ built _ (List.mem_cons_self ..) ⟨other, id, .inl rfl⟩ path error rfl
    · exact fun served => first _ served _ (List.mem_cons_self ..) ⟨other, id, .inr rfl⟩ path error rfl
  · intro key transient
    exact (chronicle.ascends (by simp [transient])).ordered
  · intro outer requester key before arises inner result after run
    have sound := arises.finds_sound (.outside furnished) trivial
    exact ⟨fun error => run.cell_of_failed sound, run.constructs sound.furnished⟩
  · intro key error failed bound later more after onward
    obtain ⟨_, run⟩ := runs_of_resolve catalogue key world
    have empty := run.cell_of_failed (.outside furnished) failed
    have still := run.grows.isBound bound
    -- Either a construction has filled the cell in the meantime, or it is still as the failure left it.
    cases filled : after.container.cell? key with
    | some id =>
      rcases onward.cell_origin still filled with held | ⟨path, built⟩
      · rw [empty] at held
        cases held
      · exact .inl ⟨path, id, built⟩
    | none =>
      right
      intro again result ended next
      have stands := onward.furnished (run.furnished furnished trivial)
      exact next.constructs stands (by simp) (onward.grows.isBound still) filled

end EventPipeline
