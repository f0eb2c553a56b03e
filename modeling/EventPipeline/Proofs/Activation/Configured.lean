import EventPipeline.Proofs.Activation.Roster

/-! The configuration that a method starts with.

An activation merges the configuration of its unit onto the instance that it has come by, once, and
nothing happens to the instance between the merge and the start of the method. So it does not matter
what other units, or earlier runs of the method, have left in the properties under these keys. -/

namespace EventPipeline

open Json

variable {σ υ ε : Type} [Inhabited σ]

/-- The instance before the activation that runs on it: the one that is there, or, where the
activation has it made, the one that its constructor delivers. -/
inductive Original (catalogue : Catalogue σ υ) (unit : ActivationUnit) (world : World σ υ)
    (id : InstanceId) : Instance σ → Prop where
  | present {held : Instance σ} (found : world.instance? id = some held) :
      Original catalogue unit world id held
  | built {type : TypeToken} {blueprint : Blueprint σ} {between : World σ υ}
      (target : unit.target = some type) (absent : world.instance? id = none)
      (constructed : constructing catalogue ⟨type, .component⟩
        (Factory.ensureBound ⟨type, .component⟩ (.ofShared unit.shared) world) =
          (.ok (.ok blueprint), between))
      (last : id = between.nextId) :
      Original catalogue unit world id
        ⟨type, (⟨type, .component⟩ : BindingKey).form, blueprint.properties, blueprint.state⟩

namespace ActivationUnit

variable {catalogue : Catalogue σ υ} {unit used : ActivationUnit} {world reached : World σ υ}
  {results : List (Except FactoryError InstanceId)} {id : InstanceId}

theorem obtained_configured (served : unit.Served world results) (furnished : world.Furnished)
    (ran : obtain catalogue (unit, world) = (.ok id, used, reached)) :
    ∃ original, Original catalogue unit world id original ∧ reached.Has id
      { original with properties := original.properties.map (·.merge unit.configuration) } := by
  cases obtaining furnished ran with
  | kept _ held =>
    obtain ⟨_, _, _, ⟨⟨original, found, _⟩, _⟩, _⟩ := served.made id (served.mem_of_cached held)
    exact ⟨original, .present found, World.Has.configured found unit.configuration⟩
  | @created type _ between _ target delivery =>
    have bound := furnished.ensureBound ⟨type, .component⟩ (.ofShared unit.shared)
    cases delivery with
    | held _ full =>
      obtain ⟨⟨⟨original, found, _⟩, _⟩, _⟩ := bound.cells _ _ full
      refine ⟨original, .present ?_, World.Has.configured found unit.configuration⟩
      rwa [World.instance?, Factory.instances_ensureBound] at found
    | @made scope blueprint between _ built _ _ =>
      have new := constructing_populates built
      rw [Factory.instances_ensureBound] at new
      refine ⟨_, .built target (List.getElem?_eq_none new) built rfl, World.Has.configured ?_ _⟩
      unfold World.Has World.instance?
      rw [World.instances_keep]
      exact List.getElem?_concat_length

end ActivationUnit

/-- After any history: when the method of a unit starts, on an instance that exposes properties, every
key of the unit's configuration holds the value that it has there, and every other key holds what it
held before the activation, or what the constructor gave it if the activation has the instance made.
An instance without properties, and whatever else an instance consists of, is as it was. -/
theorem configuration_in_force (catalogue : Catalogue σ υ) (start : World σ υ)
    (units : List ActivationUnit) (calls : List (UnitCall σ ε)) {index : Nat}
    {unit : ActivationUnit}
    (found : (Roster.after catalogue start units calls).units[index]? = some unit)
    {id : InstanceId} {used : ActivationUnit} {reached : World σ υ}
    (ran : ActivationUnit.obtain catalogue
      (unit, (Roster.after catalogue start units calls).world) = (.ok id, used, reached)) :
    (∀ (cutoff : Option (Cutoff ε)) slots context,
      ActivationUnit.activateWithin catalogue cutoff slots
          (unit, ⟨(Roster.after catalogue start units calls).world, context⟩) =
        ActivationUnit.runOn catalogue cutoff slots id (used, ⟨reached, context⟩)) ∧
    ∃ original held,
      Original catalogue unit (Roster.after catalogue start units calls).world id original ∧
      reached.instance? id = some held ∧
      held = { original with properties := held.properties } ∧
      (original.properties = none → held = original) ∧
      ∀ properties, original.properties = some properties →
        ∃ current, held.properties = some current ∧
          ∀ key, current.get? key = (unit.configuration.get? key).or (properties.get? key) := by
  have sound := Roster.after_sound catalogue start units calls
  refine ⟨fun cutoff slots _ => ActivationUnit.activateWithin_of_obtained ran cutoff slots, ?_⟩
  obtain ⟨original, before, has⟩ :=
    ActivationUnit.obtained_configured (sound.served index unit found) sound.furnished ran
  refine ⟨original, _, before, has, rfl, ?_, ?_⟩
  · intro without
    cases original
    cases without
    rfl
  · intro properties exposed
    refine ⟨properties.merge unit.configuration, by simp [exposed], ?_⟩
    exact fun key => OrderedMap.get?_merge properties unit.configuration key

def lamp : TypeToken := ⟨0, "Lamp"⟩

def lampCatalogue : Catalogue Unit Unit := fun _ =>
  { Behaviour.plain
      (some (OrderedMap.ofList [("colour", .string "white"), ("power", .int 40)])) () with
    invoke := fun _ _ =>
      .ask (.own (.setProperty "colour" (.string "black"))) fun _ => .done (.ok .null) }

def lampUnit (colour : String) : ActivationUnit :=
  .build (some lamp) (OrderedMap.ofList [("colour", .string colour)]) "putOut" true

def lampRoster : Roster Unit Unit :=
  @Roster.after Unit Unit Unit _ lampCatalogue (World.start ()) [lampUnit "red", lampUnit "blue"]
    [.activate 0 [] .empty none, .activate 1 [] .empty none]

/-- The red unit finds the lamp black and starts with a red one. -/
theorem configuration_of_lamp :
    lampRoster.units[0]? = some { lampUnit "red" with cached := some 0 } ∧
    ∃ used reached,
      ActivationUnit.obtain lampCatalogue
        ({ lampUnit "red" with cached := some 0 }, lampRoster.world) = (.ok 0, used, reached) ∧
      ∃ original held properties current,
        Original lampCatalogue { lampUnit "red" with cached := some 0 } lampRoster.world 0 original ∧
        reached.instance? 0 = some held ∧
        original.properties = some properties ∧ held.properties = some current ∧
        properties.get? "colour" = some (.string "black") ∧
        current.get? "colour" = some (.string "red") ∧
        current.get? "power" = some (.int 40) := by
  have found : lampRoster.units[0]? = some { lampUnit "red" with cached := some 0 } := by
    decide +kernel
  refine ⟨found, _, _, rfl, ?_⟩
  obtain ⟨_, original, held, before, there, _, _, merged⟩ :=
    @configuration_in_force Unit Unit Unit _ lampCatalogue (World.start ())
      [lampUnit "red", lampUnit "blue"] [.activate 0 [] .empty none, .activate 1 [] .empty none]
      0 _ found 0 _ _ rfl
  have black : (lampRoster.world.instance? 0).bind (·.properties) =
      some (OrderedMap.ofList [("colour", .string "black"), ("power", .int 40)]) := by
    decide +kernel
  cases before with
  | present same =>
    have exposed : original.properties =
        some (OrderedMap.ofList [("colour", .string "black"), ("power", .int 40)]) := by
      rw [show lampRoster.world.instance? 0 = some original from same] at black
      exact black
    obtain ⟨current, shown, holds⟩ := merged _ exposed
    refine ⟨original, held, _, current, .present same, there, exposed, shown, ?_, ?_, ?_⟩
    · decide +kernel
    · rw [holds]
      decide +kernel
    · rw [holds]
      decide +kernel
  | built _ absent =>
    rw [show lampRoster.world.instance? 0 = none from absent] at black
    cases black

end EventPipeline
