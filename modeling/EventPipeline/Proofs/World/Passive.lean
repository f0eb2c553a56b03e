import EventPipeline.Factory
import EventPipeline.Proofs.World.Lasting

/-! Instances that stay as they are.

A passive type only reads what its instances hold. Such an instance changes when it is configured and
at no other time: neither its own methods nor the use of any other instance nor any resolution
touches it. -/

namespace EventPipeline

variable {σ υ ε α : Type}

inductive OwnScript.Reads : OwnScript σ υ α → Prop where
  | done (value : α) : Reads (.done value)
  | properties (next : Option Properties → OwnScript σ υ α) (later : ∀ held, Reads (next held)) :
      Reads (.ask .properties next)
  | state (next : σ → OwnScript σ υ α) (later : ∀ held, Reads (next held)) :
      Reads (.ask .state next)

/-- Behaviour under which an instance never changes itself. -/
structure Behaviour.Passive (behaviour : Behaviour σ υ) : Prop where
  invoke : ∀ method slots, ∃ answer, behaviour.invoke method slots = .done answer
  accepts : ∀ event, OwnScript.Reads (behaviour.accepts event)
  extract : ∀ event, OwnScript.Reads (behaviour.extract event)

variable [Inhabited σ]

theorem OwnScript.Reads.run {script : OwnScript σ υ α} (reads : OwnScript.Reads script)
    (self : InstanceId) (world : World σ υ) :
    (Script.run (@World.answerOwn σ υ _ ε self) script world).2 = world := by
  induction reads with
  | done value => rfl
  | properties next later ih =>
    rw [Script.run_ask]
    exact ih (world.instanceAt self).properties
  | state next later ih =>
    rw [Script.run_ask]
    exact ih (world.instanceAt self).state

/-- An instance stands under a number, just as it is. -/
def World.Has (id : InstanceId) (held : Instance σ) (world : World σ υ) : Prop :=
  world.instance? id = some held

namespace World.Has

variable {id : InstanceId} {held : Instance σ}

omit [Inhabited σ] in
theorem changeInstance {world : World σ υ} (has : world.Has id held) {target : InstanceId}
    (apart : target ≠ id) (change : Instance σ → Instance σ) :
    (world.changeInstance target change).Has id held := by
  have same : (world.instances.modify target change)[id]? = world.instances[id]? := by
    simp [apart]
  exact same.trans has

theorem instanceAt {world : World σ υ} (has : world.Has id held) : world.instanceAt id = held := by
  unfold World.instanceAt
  rw [has]
  rfl

omit [Inhabited σ] in
theorem add {world : World σ υ} (has : world.Has id held) (made : Instance σ) :
    (world.add made).Has id held := by
  obtain ⟨small, _⟩ := List.getElem?_eq_some_iff.mp has
  show (world.instances ++ [made])[id]? = some held
  rw [List.getElem?_append_left small]
  exact has

theorem answerOwn {world : World σ υ} (has : world.Has id held) {self : InstanceId}
    (apart : self ≠ id) (request : OwnRequest σ υ) :
    (@World.answerOwn σ υ _ ε self request world).2.Has id held := by
  cases request with
  | setProperty key value => exact has.changeInstance apart _
  | setState state => exact has.changeInstance apart _
  | _ => exact has

variable {catalogue : Catalogue σ υ} (passive : (catalogue held.type).Passive)

include passive

theorem invokeWithin {run : RunState σ υ} (has : run.world.Has id held)
    (cutoff : Option (Cutoff ε)) (target : InstanceId) (method : String) (slots : Slots) :
    (invokeWithin catalogue cutoff target method slots run).2.world.Has id held := by
  by_cases here : target = id
  · subst here
    obtain ⟨answer, script⟩ := passive.invoke method slots
    unfold EventPipeline.invokeWithin
    rw [has.instanceAt, script]
    exact has
  · exact invokeWithin_keeps (fun request world there => there.answerOwn here request)
      (fun _ _ there => there) cutoff method slots run has

theorem accepts {world : World σ υ} (has : world.Has id held) (filter : InstanceId)
    (event : Event) : (accepts catalogue filter event world).2.Has id held := by
  by_cases here : filter = id
  · subst here
    have read := @OwnScript.Reads.run σ υ Cause _ _ _ (passive.accepts event) filter world
    unfold EventPipeline.accepts
    rw [has.instanceAt]
    revert read
    rcases Script.run (World.answerOwn filter) ((catalogue held.type).accepts event) world with
      ⟨cause | outcome, after⟩
    · rintro rfl
      exact has
    · rintro rfl
      exact has
  · exact accepts_keeps (fun request world there => there.answerOwn here request) event world has

theorem extract {world : World σ υ} (has : world.Has id held) (extractor : InstanceId)
    (event : Event) : (extract catalogue extractor event world).2.Has id held := by
  by_cases here : extractor = id
  · subst here
    have read := @OwnScript.Reads.run σ υ Cause _ _ _ (passive.extract event) extractor world
    unfold EventPipeline.extract
    rw [has.instanceAt]
    revert read
    rcases Script.run (World.answerOwn extractor) ((catalogue held.type).extract event) world with
      ⟨cause | outcome, after⟩
    · rintro rfl
      exact has
    · rintro rfl
      exact has
  · exact extract_keeps (fun request world there => there.answerOwn here request) event world has

theorem lasting : Lasting catalogue (World.Has id held) where
  invoked target method slots world has :=
    have inRun : (RunState.mk world .empty).world.Has id held := has
    inRun.invokeWithin passive none target method slots
  shared _ _ has := has
  reported _ _ has := has
  added _ made has := has.add made
  filled _ _ _ has := has

end World.Has

end EventPipeline
