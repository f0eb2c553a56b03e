import EventPipeline.Factory

/-! What the use of an instance leaves as it was.

Method bodies, filters, extractors and configuration change properties, private states, the clock,
the log and what is shared. They neither touch the container nor make instances, and no instance
changes its type or its form. -/

namespace EventPipeline

open Json

variable {σ υ ε : Type}

namespace World

def kindOf (held : Instance σ) : TypeToken × Form := (held.type, held.form)

/-- The container and the kinds of all instances are the same before and after. -/
structure Steady (before after : World σ υ) : Prop where
  container : after.container = before.container
  kinds : after.instances.map kindOf = before.instances.map kindOf

theorem Steady.refl (world : World σ υ) : Steady world world := ⟨rfl, rfl⟩

theorem Steady.trans {first second third : World σ υ} (left : Steady first second)
    (right : Steady second third) : Steady first third :=
  ⟨right.container.trans left.container, right.kinds.trans left.kinds⟩

theorem Steady.instance? {before after : World σ υ} (steady : Steady before after) {id : InstanceId}
    {held : Instance σ} (found : before.instance? id = some held) :
    ∃ kept, after.instance? id = some kept ∧ kindOf kept = kindOf held := by
  have same := congrArg (·[id]?) steady.kinds
  unfold World.instance? at found ⊢
  simp only [List.getElem?_map, found, Option.map_some, Option.map_eq_some_iff] at same
  exact same

theorem changeInstance_steady (world : World σ υ) (id : InstanceId)
    {change : Instance σ → Instance σ} (kept : ∀ held, kindOf (change held) = kindOf held) :
    Steady world (world.changeInstance id change) := by
  refine ⟨rfl, ?_⟩
  apply List.ext_getElem?
  intro index
  simp only [changeInstance, List.getElem?_map, List.getElem?_modify]
  cases world.instances[index]? with
  | none => rfl
  | some held =>
    by_cases here : id = index
    · simp [here, kept]
    · simp [here]

variable [Inhabited σ]

theorem answerOwn_steady (self : InstanceId) (request : OwnRequest σ υ) (world : World σ υ) :
    Steady world (@answerOwn σ υ _ ε self request world).2 := by
  cases request with
  | properties => exact Steady.refl world
  | setProperty key value => exact changeInstance_steady world self fun _ => rfl
  | state => exact Steady.refl world
  | setState state => exact changeInstance_steady world self fun _ => rfl
  | shared => exact Steady.refl world
  | setShared shared => exact ⟨rfl, rfl⟩
  | log entry => exact ⟨rfl, rfl⟩

end World

def RunState.Inside (Holds : World σ υ → Prop) (run : RunState σ υ) : Prop := Holds run.world

section Keeping

variable {Holds : World σ υ → Prop}

theorem waitWithin_keeps (ticks : ∀ world clock, Holds world → Holds { world with clock })
    (cutoff : Option (Cutoff ε)) (duration : Nat) (run : RunState σ υ) (holds : Holds run.world) :
    Holds (waitWithin cutoff duration run).2.world := by
  unfold waitWithin
  cases cutoff with
  | none => exact ticks _ _ holds
  | some limit =>
    simp only
    split
    · exact ticks _ _ holds
    · exact ticks _ _ holds

variable [Inhabited σ]

theorem answerMethod_keeps {self : InstanceId}
    (own : ∀ request world, Holds world → Holds (@World.answerOwn σ υ _ ε self request world).2)
    (ticks : ∀ world clock, Holds world → Holds { world with clock })
    (cutoff : Option (Cutoff ε)) (request : MethodRequest σ υ) (run : RunState σ υ)
    (holds : run.Inside Holds) : (answerMethod cutoff self request run).2.Inside Holds := by
  cases request with
  | own request => exact own request run.world holds
  | insert key value => exact holds
  | remove key => exact holds
  | values => exact holds
  | setDeadline budget => exact ticks _ _ holds
  | deadline => exact holds
  | wait duration => exact waitWithin_keeps ticks cutoff duration run holds

theorem invokeWithin_keeps {catalogue : Catalogue σ υ} {target : InstanceId}
    (own : ∀ request world, Holds world → Holds (@World.answerOwn σ υ _ ε target request world).2)
    (ticks : ∀ world clock, Holds world → Holds { world with clock })
    (cutoff : Option (Cutoff ε)) (method : String) (slots : Slots) (run : RunState σ υ)
    (holds : Holds run.world) :
    Holds (invokeWithin catalogue cutoff target method slots run).2.world :=
  Script.run_keeps (answerMethod_keeps own ticks cutoff) _ run holds

theorem accepts_keeps {catalogue : Catalogue σ υ} {filter : InstanceId}
    (own : ∀ request world, Holds world →
      Holds (@World.answerOwn σ υ _ Cause filter request world).2)
    (event : Event) (world : World σ υ) (holds : Holds world) :
    Holds (accepts catalogue filter event world).2 := by
  have ran := Script.run_keeps own ((catalogue (world.instanceAt filter).type).accepts event)
    world holds
  unfold accepts
  split
  · next outcome after same =>
    rw [same] at ran
    exact ran
  · next cause after same =>
    rw [same] at ran
    exact ran

theorem extract_keeps {catalogue : Catalogue σ υ} {extractor : InstanceId}
    (own : ∀ request world, Holds world →
      Holds (@World.answerOwn σ υ _ Cause extractor request world).2)
    (event : Event) (world : World σ υ) (holds : Holds world) :
    Holds (extract catalogue extractor event world).2 := by
  have ran := Script.run_keeps own ((catalogue (world.instanceAt extractor).type).extract event)
    world holds
  unfold extract
  split
  · next outcome after same =>
    rw [same] at ran
    exact ran
  · next cause after same =>
    rw [same] at ran
    exact ran

end Keeping

section Steadiness

variable [Inhabited σ] (catalogue : Catalogue σ υ)

theorem invokeWithin_steady (cutoff : Option (Cutoff ε)) (target : InstanceId) (method : String)
    (slots : Slots) (run : RunState σ υ) :
    World.Steady run.world (invokeWithin catalogue cutoff target method slots run).2.world :=
  invokeWithin_keeps
    (fun request world steady => steady.trans (World.answerOwn_steady target request world))
    (fun _ _ steady => ⟨steady.container, steady.kinds⟩) cutoff method slots run (.refl run.world)

theorem invoke_snd (target : InstanceId) (method : String) (slots : Slots) (run : RunState σ υ) :
    (invoke catalogue target method slots run).2 =
      (@invokeWithin σ υ InvokeError _ catalogue none target method slots run).2 := by
  unfold invoke
  rw [Action.bind_apply]
  rcases invokeWithin catalogue none target method slots run with ⟨error | outcome, after⟩ <;> rfl

theorem accepts_steady (filter : InstanceId) (event : Event) (world : World σ υ) :
    World.Steady world (accepts catalogue filter event world).2 :=
  accepts_keeps
    (fun request between steady => steady.trans (World.answerOwn_steady filter request between))
    event world (.refl world)

theorem extract_steady (extractor : InstanceId) (event : Event) (world : World σ υ) :
    World.Steady world (extract catalogue extractor event world).2 :=
  extract_keeps
    (fun request between steady => steady.trans (World.answerOwn_steady extractor request between))
    event world (.refl world)

omit catalogue in
theorem configure_steady (target : InstanceId) (configuration : Configuration)
    (world : World σ υ) : World.Steady world (Factory.configure target configuration world) := by
  unfold Factory.configure
  split
  · exact World.changeInstance_steady world target fun _ => rfl
  · split
    · exact World.Steady.refl world
    · exact ⟨rfl, rfl⟩

end Steadiness

end EventPipeline
