import EventPipeline.ActivationUnit
import EventPipeline.Proofs.Container.Delivery

/-! How an activation comes by its instance.

A shared unit that keeps an instance configures it again and resolves nothing. Any other unit creates
one; a shared unit keeps it from then on. Then the method runs on the instance. -/

namespace EventPipeline

open Json

variable {σ υ ε : Type}

namespace ActivationUnit

def keep (unit : ActivationUnit) (id : InstanceId) : ActivationUnit :=
  if unit.shared then { unit with cached := some id } else unit

@[simp] theorem target_keep (unit : ActivationUnit) (id : InstanceId) :
    (unit.keep id).target = unit.target := by
  unfold keep
  split <;> rfl

@[simp] theorem shared_keep (unit : ActivationUnit) (id : InstanceId) :
    (unit.keep id).shared = unit.shared := by
  unfold keep
  split <;> rfl

variable [Inhabited σ]

def runOn (catalogue : Catalogue σ υ) (cutoff : Option (Cutoff ε)) (slots : Slots)
    (id : InstanceId) :
    Action (ActivationUnit × RunState σ υ) ε (Except ActivationError Value) := fun (unit, run) =>
  match invokeWithin catalogue cutoff id unit.method slots run with
  | (.error error, after) => (.error error, (unit, after))
  | (.ok outcome, after) => (.ok (outcome.mapError .invoke), (unit, after))

/-- The ways to obtain an instance, or none. -/
inductive Obtaining (catalogue : Catalogue σ υ) (unit : ActivationUnit) (world : World σ υ) :
    Except FactoryError InstanceId → ActivationUnit → World σ υ → Prop where
  | kept {id : InstanceId} (shared : unit.shared = true) (held : unit.cached = some id) :
      Obtaining catalogue unit world (.ok id) unit (Factory.configure id unit.configuration world)
  | created {type : TypeToken} {id : InstanceId} {reached : World σ υ}
      (unheld : unit.shared = true → unit.cached = none) (target : unit.target = some type)
      (delivery : Delivery catalogue ⟨type, .component⟩
        (Factory.ensureBound ⟨type, .component⟩ (.ofShared unit.shared) world) id reached) :
      Obtaining catalogue unit world (.ok id) (unit.keep id)
        (Factory.configure id unit.configuration reached)
  | failed {error : FactoryError} {reached : World σ υ}
      (unheld : unit.shared = true → unit.cached = none) :
      Obtaining catalogue unit world (.error error) unit reached

variable {catalogue : Catalogue σ υ} {unit used : ActivationUnit} {world reached : World σ υ}
  {result : Except FactoryError InstanceId} {id : InstanceId}

theorem obtaining (furnished : world.Furnished)
    (ran : obtain catalogue (unit, world) = (result, used, reached)) :
    Obtaining catalogue unit world result used reached := by
  have creating : (unit.shared = true → unit.cached = none) → ∀ {made : _} {after : World σ υ},
      Factory.createInstance catalogue unit.target .component unit.configuration unit.shared world =
        (.ok made, after) → Obtaining catalogue unit world (.ok made) (unit.keep made) after := by
    intro unheld made after created
    obtain ⟨type, between, target, delivery, rfl⟩ := createInstance_delivery furnished created
    exact .created unheld target delivery
  unfold obtain at ran
  simp only at ran
  cases shared : unit.shared with
  | false =>
    have unheld : unit.shared = true → unit.cached = none := by simp [shared]
    rw [if_neg (by simp [shared])] at ran
    rcases outcome : Factory.createInstance catalogue unit.target .component unit.configuration
      unit.shared world with ⟨error | made, after⟩
    · rw [outcome] at ran
      cases ran
      exact .failed unheld
    · rw [outcome] at ran
      cases ran
      have kept := creating unheld outcome
      rwa [keep, if_neg (by simp [shared])] at kept
  | true =>
    rw [if_pos shared] at ran
    cases held : unit.cached with
    | some id =>
      rw [held] at ran
      cases ran
      exact .kept shared held
    | none =>
      rcases outcome : Factory.createInstance catalogue unit.target .component unit.configuration
        unit.shared world with ⟨error | made, after⟩
      · rw [held, outcome] at ran
        cases ran
        exact .failed fun _ => held
      · rw [held, outcome] at ran
        cases ran
        have kept := creating (fun _ => held) outcome
        rwa [keep, if_pos shared] at kept

theorem world_obtain (catalogue : Catalogue σ υ) (unit : ActivationUnit) (world : World σ υ) :
    (∃ id, (obtain catalogue (unit, world)).2.2 =
        Factory.configure id unit.configuration world) ∨
      (obtain catalogue (unit, world)).2.2 = (Factory.createInstance catalogue unit.target
        .component unit.configuration unit.shared world).2 := by
  unfold obtain
  simp only
  split
  · split
    · next id _ => exact .inl ⟨id, rfl⟩
    · split
      · next same => exact .inr (congrArg Prod.snd same).symm
      · next same => exact .inr (congrArg Prod.snd same).symm
  · exact .inr rfl

theorem obtain_grows (catalogue : Catalogue σ υ) (unit : ActivationUnit) (world : World σ υ) :
    world.Grows (obtain catalogue (unit, world)).2.2 := by
  rcases world_obtain catalogue unit world with ⟨id, same⟩ | same
  · rw [same]
    exact .ofSteady (configure_steady ..)
  · rw [same]
    exact createInstance_grows ..

theorem furnished_obtain (furnished : world.Furnished) (catalogue : Catalogue σ υ)
    (unit : ActivationUnit) : (obtain catalogue (unit, world)).2.2.Furnished := by
  rcases world_obtain catalogue unit world with ⟨id, same⟩ | same
  · rw [same]
    exact furnished.steady (configure_steady ..)
  · rw [same]
    exact furnished.createInstance ..

theorem activateWithin_of_obtained {run : RunState σ υ}
    (ran : obtain catalogue (unit, run.world) = (.ok id, used, reached))
    (cutoff : Option (Cutoff ε)) (slots : Slots) :
    activateWithin catalogue cutoff slots (unit, run) =
      runOn catalogue cutoff slots id (used, { run with world := reached }) := by
  rcases outcome : invokeWithin catalogue cutoff id used.method slots
    { run with world := reached } with ⟨error | answer, after⟩
  · simp only [activateWithin, runOn, ran, outcome]
  · simp only [activateWithin, runOn, ran, outcome]

/-- After an activation the unit is as it was when it had obtained its instance, and the method has
left the container and the kinds of all instances alone. -/
theorem activateWithin_steady {run : RunState σ υ}
    (ran : obtain catalogue (unit, run.world) = (result, used, reached))
    (cutoff : Option (Cutoff ε)) (slots : Slots) :
    ∃ after, (activateWithin catalogue cutoff slots (unit, run)).2 = (used, after) ∧
      reached.Steady after.world := by
  cases result with
  | error error =>
    refine ⟨{ run with world := reached }, ?_, .refl reached⟩
    unfold activateWithin
    simp only [ran]
  | ok id =>
    rw [activateWithin_of_obtained ran]
    have steady := invokeWithin_steady catalogue cutoff id used.method slots
      { run with world := reached }
    simp only [runOn]
    revert steady
    rcases invokeWithin catalogue cutoff id used.method slots { run with world := reached } with
      ⟨error | outcome, after⟩
    · exact fun steady => ⟨after, rfl, steady⟩
    · exact fun steady => ⟨after, rfl, steady⟩

end ActivationUnit

end EventPipeline
