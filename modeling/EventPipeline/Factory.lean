import EventPipeline.Container.Resolution
import EventPipeline.Metadata.Definition

/-! Creating configured instances.

The first creation of a type binds it with the lifecycle it asks for; that lifecycle stays for the
life of the container, and a later creation that asks for another one is served under it and logged.
Configuration is merged onto the instance once it is there. -/

namespace EventPipeline

open Json

variable {σ υ : Type}

namespace Factory

def boundEntry (key : BindingKey) (scope : Scope) : LogEntry :=
  LogEntry.ofFields .debug "bound type"
    [("type_name", .string key.name), ("scope", .string scope.name)]

def conflictEntry (key : BindingKey) (requested bound : Scope) : LogEntry :=
  LogEntry.ofFields .warn
    "type is already bound with another lifecycle; keeping the first binding"
    [("type_name", .string key.name), ("requested", .string requested.name),
      ("bound", .string bound.name)]

def ignoredEntry (configuration : Configuration) : LogEntry :=
  LogEntry.ofFields .trace "instance exposes no properties; configuration ignored"
    [("keys", .int configuration.size)]

/-- Binds a key on its first use; reports a request for another lifecycle than the bound one. -/
def ensureBound (key : BindingKey) (scope : Scope) (world : World σ υ) : World σ υ :=
  match world.container.scopeOf? key with
  | none => (world.changeContainer (·.bind key scope)).report (boundEntry key scope)
  | some held =>
      if held = scope then world else world.report (conflictEntry key scope held)

variable [Inhabited σ]

/-- Merges configuration onto an instance. An instance without properties keeps nothing. -/
def configure (target : InstanceId) (configuration : Configuration) (world : World σ υ) :
    World σ υ :=
  match (world.instanceAt target).properties with
  | some properties =>
      world.changeInstance target fun held =>
        { held with properties := some (properties.merge configuration) }
  | none =>
      if configuration.isEmpty then world else world.report (ignoredEntry configuration)

def createInstance (catalogue : Catalogue σ υ) (type : Option TypeToken) (view : View)
    (configuration : Configuration) (shared : Bool) : Action (World σ υ) FactoryError InstanceId :=
  match type with
  | none => Action.fail .missingType
  | some type => do
      let key : BindingKey := ⟨type, view⟩
      Action.modify (ensureBound key (.ofShared shared))
      let created ← Action.mapError FactoryError.resolution (resolve catalogue key)
      Action.modify (configure created configuration)
      pure created

def create (catalogue : Catalogue σ υ) (recipe : Recipe) (view : View) (shared : Bool) :
    Action (World σ υ) FactoryError InstanceId :=
  createInstance catalogue recipe.type view recipe.configuration shared

end Factory

end EventPipeline
