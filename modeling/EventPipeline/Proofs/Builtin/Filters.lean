import EventPipeline.Builtin.Filters
import EventPipeline.Proofs.World.Passive

/-! Filters that judge an event by their configuration.

Such a filter is constructed without dependencies and never changes itself. What it makes of an event
is a function of the configuration that was merged onto it, wherever its instance stands. -/

namespace EventPipeline

open Json

variable {σ υ : Type} [Inhabited σ]

/-- Accepts by its configuration alone. -/
structure Behaviour.Judges (behaviour : Behaviour σ υ) (judge : Event → Configuration → Bool) :
    Prop where
  passive : behaviour.Passive
  judged : ∃ blueprint, behaviour.construct = .done (.ok blueprint) ∧
    ∀ event configuration self (world : World σ υ),
      (world.instanceAt self).properties = blueprint.properties.map (·.merge configuration) →
      (Script.run (@World.answerOwn σ υ _ Cause self) (behaviour.accepts event) world).1 =
        .ok (.ok (judge event configuration))

theorem Properties.merge_empty (configuration : Configuration) :
    Properties.merge OrderedMap.empty configuration = configuration := by
  apply OrderedMap.ext_get?
  intro key
  rw [Properties.get?_merge, OrderedMap.get?_empty, Option.or_none]

namespace Builtin

theorem text?_eq_some_iff (value : Value) (text : String) :
    value.text? = some text ↔ value = .string text := by
  cases value <;> simp [Value.text?]

theorem namesType_eq (properties : Properties) (type : String) :
    namesType properties type =
      decide (properties.get? acceptedTypeKey = some (.string type)) := by
  unfold namesType
  cases properties.get? acceptedTypeKey with
  | none => rfl
  | some value =>
    rw [Bool.eq_iff_iff, beq_iff_eq, decide_eq_true_eq, Option.some.injEq]
    exact text?_eq_some_iff value type

theorem ifEventIs_judges (state : σ) :
    (ifEventIs state : Behaviour σ υ).Judges fun event configuration =>
      decide (configuration.get? acceptedTypeKey = some (.string event.type)) where
  passive := by
    refine ⟨?_, ?_, ?_⟩
    · intro method slots
      exact ⟨_, rfl⟩
    · intro event
      exact .properties _ fun held => .done _
    · intro event
      exact .done _
  judged := by
    refine ⟨⟨some OrderedMap.empty, state⟩, rfl, ?_⟩
    intro event configuration self world held
    have merged : (world.instanceAt self).properties = some configuration := by
      rw [held, Option.map_some, Properties.merge_empty]
    have answer : (Script.run (@World.answerOwn σ υ _ Cause self)
        ((ifEventIs state : Behaviour σ υ).accepts event) world).1 =
          .ok (.ok (namesType ((world.instanceAt self).properties.getD OrderedMap.empty)
            event.type)) := rfl
    rw [answer, merged, Option.getD_some, namesType_eq]

theorem anyEvent_judges (state : σ) :
    (anyEvent state : Behaviour σ υ).Judges fun _ _ => true where
  passive := by
    refine ⟨?_, ?_, ?_⟩
    · intro method slots
      exact ⟨_, rfl⟩
    · intro event
      exact .done _
    · intro event
      exact .done _
  judged := ⟨⟨none, state⟩, rfl, fun _ _ _ _ _ => rfl⟩

end Builtin

end EventPipeline
