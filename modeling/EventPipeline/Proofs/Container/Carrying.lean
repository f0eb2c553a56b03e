import EventPipeline.Proofs.Container.Creation

/-! Values that instances carry in their properties.

What a configuration has put into the properties of an instance stays there while other instances are
made, unless the instance is configured again under the same key, or one of its own methods sets it. -/

namespace EventPipeline

open Json

variable {σ υ ε α : Type}

namespace Script

variable {Request State Error : Type} {Answer : Request → Type} {bad : Request → Prop}

/-- No path of the script makes such a request. -/
inductive Avoids (bad : Request → Prop) : Script Request Answer α → Prop where
  | done (value : α) : Avoids bad (.done value)
  | ask (request : Request) (next : Answer request → Script Request Answer α)
      (fine : ¬ bad request) (later : ∀ reply, Avoids bad (next reply)) :
      Avoids bad (.ask request next)

theorem Avoids.run_keeps {answer : (request : Request) → Action State Error (Answer request)}
    {Holds : State → Prop}
    (kept : ∀ request s, ¬ bad request → Holds s → Holds (answer request s).2)
    {script : Script Request Answer α} (avoids : Avoids bad script) (s : State) (holds : Holds s) :
    Holds (run answer script s).2 := by
  induction avoids generalizing s with
  | done value => exact holds
  | ask request next fine _ ih =>
    have answered := kept request s fine holds
    rw [run_ask]
    revert answered
    rcases answer request s with ⟨error | reply, after⟩
    · exact fun answered => answered
    · exact fun answered => ih reply after answered

end Script

/-- The methods of a type never set this property. -/
def Behaviour.Spares (behaviour : Behaviour σ υ) (key : String) : Prop :=
  ∀ method slots, (behaviour.invoke method slots).Avoids fun request =>
    ∃ value, request = .own (.setProperty key value)

theorem Behaviour.Passive.spares {behaviour : Behaviour σ υ} (passive : behaviour.Passive)
    (key : String) : behaviour.Spares key := by
  intro method slots
  obtain ⟨answer, same⟩ := passive.invoke method slots
  rw [same]
  exact .done answer

/-- There is an instance of this number and type that, if it exposes properties, holds this value under
this key. -/
def World.Carries (type : TypeToken) (key : String) (value : Value) (id : InstanceId)
    (world : World σ υ) : Prop :=
  ∃ held, world.instance? id = some held ∧ held.type = type ∧
    ∀ properties, held.properties = some properties → properties.get? key = some value

namespace World.Carries

variable {type : TypeToken} {key : String} {value : Value} {id : InstanceId} {world after : World σ υ}

theorem of_instances (carries : world.Carries type key value id)
    (same : after.instances = world.instances) : after.Carries type key value id := by
  unfold World.Carries World.instance? at carries ⊢
  rwa [same]

theorem add (carries : world.Carries type key value id) (made : Instance σ) :
    (world.add made).Carries type key value id := by
  obtain ⟨held, found, kept⟩ := carries
  exact ⟨held, World.Has.add found made, kept⟩

theorem changeInstance (carries : world.Carries type key value id) {target : InstanceId}
    {change : Instance σ → Instance σ} (sameType : ∀ held, (change held).type = held.type)
    (kept : target = id → ∀ held, world.instance? id = some held →
      (∀ properties, held.properties = some properties → properties.get? key = some value) →
        ∀ properties, (change held).properties = some properties →
          properties.get? key = some value) :
    (world.changeInstance target change).Carries type key value id := by
  obtain ⟨held, found, rfl, carried⟩ := carries
  by_cases here : target = id
  · refine ⟨change held, ?_, sameType held, kept here held found carried⟩
    have stands : world.instances[id]? = some held := found
    show (world.instances.modify target change)[id]? = _
    rw [here, List.getElem?_modify_eq, stands]
    rfl
  · exact ⟨held, World.Has.changeInstance found here change, rfl, carried⟩

theorem setProperty (carries : world.Carries type key value id) {target : InstanceId} {other : String}
    (apart : target = id → other ≠ key) (new : Value) :
    (world.changeInstance target fun held =>
      { held with properties := held.properties.map (·.set other new) }).Carries type key value id := by
  refine carries.changeInstance (fun _ => rfl) ?_
  intro here held _ carried properties exposed
  obtain ⟨before, had, rfl⟩ := Option.map_eq_some_iff.mp exposed
  rw [Properties.set, OrderedMap.get?_insert, if_neg (apart here).symm]
  exact carried before had

variable [Inhabited σ]

theorem answerOwn (carries : world.Carries type key value id) {self : InstanceId}
    {request : OwnRequest σ υ}
    (apart : self = id → ¬ ∃ new, request = .setProperty key new) :
    (@World.answerOwn σ υ _ ε self request world).2.Carries type key value id := by
  cases request with
  | setProperty other new =>
    apply carries.setProperty
    rintro here rfl
    exact apart here ⟨new, rfl⟩
  | setState state =>
    exact carries.changeInstance (fun _ => rfl) fun _ _ _ carried => carried
  | _ => exact carries

theorem configure (carries : world.Carries type key value id) {target : InstanceId}
    {configuration : Configuration} (apart : target = id → configuration.get? key = none) :
    (Factory.configure target configuration world).Carries type key value id := by
  unfold Factory.configure
  split
  · next properties exposed =>
    refine carries.changeInstance (fun _ => rfl) ?_
    rintro rfl held found carried merged same
    rw [World.Has.instanceAt found] at exposed
    obtain rfl := Option.some.inj same
    rw [Properties.get?_merge, apart rfl, Option.none_or]
    exact carried properties exposed
  · split
    · exact carries
    · exact carries

theorem configured {configuration : Configuration} (ofType : world.OfType type id)
    (has : configuration.get? key = some value) :
    (Factory.configure id configuration world).Carries type key value id := by
  obtain ⟨held, found, rfl⟩ := ofType
  refine ⟨_, World.Has.configured found configuration, rfl, ?_⟩
  intro properties exposed
  obtain ⟨before, _, rfl⟩ := Option.map_eq_some_iff.mp exposed
  rw [Properties.get?_merge, has, Option.some_or]

section Spared

variable {catalogue : Catalogue σ υ} (spares : (catalogue type).Spares key)

include spares

theorem invokeWithin {run : RunState σ υ} (carries : run.world.Carries type key value id)
    (cutoff : Option (Cutoff ε)) (target : InstanceId) (method : String) (slots : Slots) :
    (invokeWithin catalogue cutoff target method slots run).2.world.Carries type key value id := by
  by_cases here : target = id
  · -- The method is the instance's own, and asks for no change of this property.
    subst here
    have ofType : run.world.OfType type target := carries.imp fun _ held => ⟨held.1, held.2.1⟩
    have kept : ∀ (request : MethodRequest σ υ) (state : RunState σ υ),
        (¬ ∃ new, request = .own (.setProperty key new)) →
          state.Inside (World.Carries type key value target) →
            (answerMethod cutoff target request state).2.Inside
              (World.Carries type key value target) := by
      intro request state fine holds
      cases request with
      | own request =>
        exact World.Carries.answerOwn holds fun _ ⟨new, same⟩ => fine ⟨new, congrArg _ same⟩
      | wait duration => exact waitWithin_keeps (fun _ _ held => held) cutoff duration state holds
      | _ => exact holds
    unfold EventPipeline.invokeWithin
    rw [ofType.type_eq]
    exact (spares method slots).run_keeps kept run carries
  · exact invokeWithin_keeps (fun request world held => held.answerOwn fun same => (here same).elim)
      (fun _ _ held => held) cutoff method slots run carries

theorem lasting : Lasting catalogue (World.Carries type key value id) where
  invoked target method slots world carries :=
    have inRun : (RunState.mk world .empty).world.Carries type key value id := carries
    inRun.invokeWithin spares none target method slots
  shared _ _ carries := carries
  reported _ _ carries := carries
  added _ made carries := carries.add made
  filled _ _ _ carries := carries

theorem createInstance (carries : world.Carries type key value id) {wanted : Option TypeToken}
    {view : View} {configuration : Configuration} {shared : Bool} {made : InstanceId}
    (ran : Factory.createInstance catalogue wanted view configuration shared world = (.ok made, after))
    (apart : made = id → configuration.get? key = none) : after.Carries type key value id := by
  cases wanted with
  | none => cases ran
  | some wanted =>
    rw [Factory.createInstance_some] at ran
    have bound := carries.of_instances
      (Factory.instances_ensureBound ⟨wanted, view⟩ (.ofShared shared) world)
    have resolved := (World.Carries.lasting spares).resolve ⟨wanted, view⟩ _ bound
    revert resolved ran
    rcases EventPipeline.resolve catalogue ⟨wanted, view⟩
      (Factory.ensureBound ⟨wanted, view⟩ (.ofShared shared) world) with ⟨error | created, reached⟩
    · intro ran
      cases ran
    · intro ran resolved
      cases ran
      exact World.Carries.configure resolved apart

end Spared

end World.Carries

end EventPipeline
