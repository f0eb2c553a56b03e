import EventPipeline.Factory

/-! Activation units: a method to run, and how to obtain the instance it runs on.

A shared unit obtains its instance once, when it is first used with success, and keeps it. Its
configuration is merged again on every later use. A unit that is not shared asks for an instance
every time. -/

namespace EventPipeline

open Json

variable {σ υ ε : Type}

structure ActivationUnit where
  target : Option TypeToken
  method : String
  configuration : Configuration
  shared : Bool
  cached : Option InstanceId
deriving DecidableEq

namespace ActivationUnit

def build (target : Option TypeToken) (configuration : Configuration) (method : String)
    (shared : Bool) : ActivationUnit := ⟨target, method, configuration, shared, none⟩

def fresh (unit : ActivationUnit) : ActivationUnit := { unit with cached := none }

/-- Units agree when they were built alike, whatever they have obtained since. -/
instance : Comparable ActivationUnit :=
  ⟨fun unit => { unit.fresh with configuration := normal unit.configuration }⟩

def truthText (truth : Bool) : String := if truth then "true" else "false"

def diagnostic? (unit : ActivationUnit) : Option String :=
  if unit.configuration.isEmpty then
    some ("ActivationUnit \x7b target: " ++ TypeToken.optionalDiagnostic unit.target ++
      ", method: " ++ Text.literal unit.method ++ ", shared: " ++ truthText unit.shared ++
      ", configuration: " ++ emptyConfigurationText ++ ", cached: " ++
      truthText unit.cached.isSome ++ " \x7d")
  else none

variable [Inhabited σ]

def obtain (catalogue : Catalogue σ υ) :
    Action (ActivationUnit × World σ υ) FactoryError InstanceId := fun (unit, world) =>
  let make := Factory.createInstance catalogue unit.target .component unit.configuration unit.shared
  if unit.shared then
    match unit.cached with
    | some held => (.ok held, (unit, Factory.configure held unit.configuration world))
    | none =>
        match make world with
        | (.ok created, after) => (.ok created, ({ unit with cached := some created }, after))
        | (.error error, after) => (.error error, (unit, after))
  else
    match make world with
    | (outcome, after) => (outcome, (unit, after))

/-- Obtains the instance and invokes the method on it. The outer failure is that of the cutoff. -/
def activateWithin (catalogue : Catalogue σ υ) (cutoff : Option (Cutoff ε)) (slots : Slots) :
    Action (ActivationUnit × RunState σ υ) ε (Except ActivationError Value) := fun (unit, run) =>
  match obtain catalogue (unit, run.world) with
  | (.error error, (unit, world)) =>
      (.ok (.error (.ofFactory error)), (unit, { run with world }))
  | (.ok target, (unit, world)) =>
      match invokeWithin catalogue cutoff target unit.method slots { run with world } with
      | (.error error, after) => (.error error, (unit, after))
      | (.ok outcome, after) => (.ok (outcome.mapError .invoke), (unit, after))

def activate (catalogue : Catalogue σ υ) (slots : Slots) :
    Action (ActivationUnit × RunState σ υ) ActivationError Value := do
  let outcome ← activateWithin catalogue none slots
  Action.ofExcept outcome

end ActivationUnit

end EventPipeline
