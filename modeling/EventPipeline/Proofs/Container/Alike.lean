import EventPipeline.Proofs.Container.Carrying

/-! What resolving reads of a type.

A resolution runs constructors. It asks no filter and no extractor, and it runs a method only where a
constructor invokes one. So two catalogues with the same constructors resolve every key alike, provided that
they have the same methods too or that no constructor invokes any. -/

namespace EventPipeline

variable {σ υ α : Type}

namespace Script

variable {Request State Error : Type} {Answer : Request → Type} {bad : Request → Prop}

theorem Avoids.run_congr {answer other : (request : Request) → Action State Error (Answer request)}
    (same : ∀ request, ¬ bad request → answer request = other request)
    {script : Script Request Answer α} (avoids : script.Avoids bad) :
    run answer script = run other script := by
  induction avoids with
  | done value => rfl
  | ask request next fine _ ih =>
    simp only [run]
    rw [same request fine, funext ih]

end Script

def ConstructRequest.Invokes : ConstructRequest σ υ → Prop
  | .invoke _ _ _ => True
  | _ => False

/-- Types are constructed alike, down to the methods that constructors invoke. -/
structure Catalogue.ConstructsLike (catalogue other : Catalogue σ υ) : Prop where
  constructors : ∀ type, (catalogue type).construct = (other type).construct
  methods : (∀ type, (catalogue type).invoke = (other type).invoke) ∨
    ∀ type, (catalogue type).construct.Avoids ConstructRequest.Invokes

namespace Catalogue.ConstructsLike

variable [Inhabited σ] {catalogue other : Catalogue σ υ} (alike : catalogue.ConstructsLike other)

include alike

theorem run_construct (request : BindingKey → Action (World σ υ) ResolutionError InstanceId)
    (type : TypeToken) :
    (catalogue type).construct.run
        (@answerConstructor σ υ ResolutionError _ catalogue request) =
      (other type).construct.run (answerConstructor other request) := by
  rw [← alike.constructors]
  rcases alike.methods with same | avoids
  · have invoked : ∀ target method slots,
        invoke catalogue target method slots = invoke other target method slots := by
      intro target method slots
      unfold invoke invokeWithin
      simp only [same]
    have answers : @answerConstructor σ υ ResolutionError _ catalogue request =
        answerConstructor other request := by
      funext asked
      cases asked with
      | invoke dependency method slots =>
        simp only [answerConstructor, invoked]
        rfl
      | _ => rfl
    rw [answers]
  · apply (avoids type).run_congr
    intro asked fine
    cases asked with
    | invoke => exact (fine trivial).elim
    | _ => rfl

theorem provide (request : BindingKey → Action (World σ υ) ResolutionError InstanceId)
    (binding : Binding) :
    EventPipeline.provide catalogue request binding = EventPipeline.provide other request binding := by
  unfold EventPipeline.provide construct
  simp only [alike.run_construct]

theorem resolveKey (table : List Binding) (path : List BindingKey) (key : BindingKey) :
    EventPipeline.resolveKey catalogue table path key =
      EventPipeline.resolveKey other table path key := by
  have nested : ∀ {path}, (∀ key, EventPipeline.resolveKey catalogue table path key =
      EventPipeline.resolveKey other table path key) →
        request catalogue table path = request other table path := by
    intro path same
    funext key
    unfold request
    rw [same]
  induction path, key using EventPipeline.resolveKey.induct catalogue table with
  | case1 path key onPath => rw [resolveKey_of_mem onPath, resolveKey_of_mem onPath]
  | case2 path key fresh unbound =>
    rw [resolveKey_of_unbound fresh unbound, resolveKey_of_unbound fresh unbound]
  | case3 path key fresh binding found transient ih =>
    rw [resolveKey_of_bound fresh found, resolveKey_of_bound fresh found, nested ih, alike.provide]
  | case4 path key fresh binding found shared ih =>
    rw [resolveKey_of_bound fresh found, resolveKey_of_bound fresh found, nested ih, alike.provide]

theorem resolve (key : BindingKey) :
    EventPipeline.resolve catalogue key = EventPipeline.resolve other key := by
  funext world
  unfold EventPipeline.resolve request
  rw [alike.resolveKey]

theorem create (recipe : Recipe) (view : View) (shared : Bool) :
    Factory.create catalogue recipe view shared = Factory.create other recipe view shared := by
  unfold Factory.create Factory.createInstance
  simp only [alike.resolve]

end Catalogue.ConstructsLike

end EventPipeline
