import EventPipeline.Container.Resolution

/-! Histories of a container: bindings and resolutions in any order. -/

namespace EventPipeline

open Json

variable {σ υ : Type} [Inhabited σ]

/-- One call from outside. A value is bound in its own form. -/
inductive ContainerCall (σ : Type) where
  | bind (key : BindingKey) (scope : Scope)
  | bindValue (type : TypeToken) (properties : Option Properties) (state : σ)
  | resolve (key : BindingKey)

namespace ContainerCall

def run (catalogue : Catalogue σ υ) (world : World σ υ) : ContainerCall σ → World σ υ
  | .bind key scope => world.changeContainer (·.bind key scope)
  | .bindValue type properties state =>
      (world.add ⟨type, .concrete type, properties, state⟩).changeContainer
        (·.bindGiven type world.nextId)
  | .resolve key => (EventPipeline.resolve catalogue key world).2

/-- The world after a history; a resolution counts with all that it did, whether it failed or not. -/
def runAll (catalogue : Catalogue σ υ) (calls : List (ContainerCall σ)) (world : World σ υ) :
    World σ υ := calls.foldl (run catalogue) world

theorem runAll_keeps {catalogue : Catalogue σ υ} {Holds : World σ υ → Prop}
    (kept : ∀ call world, Holds world → Holds (run catalogue world call))
    (calls : List (ContainerCall σ)) (world : World σ υ) (holds : Holds world) :
    Holds (runAll catalogue calls world) := by
  induction calls generalizing world with
  | nil => exact holds
  | cons call rest ih => exact ih _ (kept call world holds)

end ContainerCall

def World.unbound (world : World σ υ) : World σ υ := { world with container := .empty }

end EventPipeline
