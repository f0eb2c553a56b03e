import EventPipeline.Clock
import EventPipeline.Container.Basic

/-! The world that user code runs in: a container, every instance made so far, what has been logged,
the clock, and what user code shares. -/

namespace EventPipeline

open Json

variable {σ υ : Type}

/-- A live instance: its type and the form it is held in never change. -/
structure Instance (σ : Type) where
  type : TypeToken
  form : Form
  properties : Option Properties
  state : σ
deriving Inhabited

structure World (σ υ : Type) where
  container : Container
  instances : List (Instance σ)
  log : List LogEntry
  clock : Clock
  shared : υ

namespace World

variable [Inhabited σ]

def start (shared : υ) : World σ υ := ⟨.empty, [], [], .start, shared⟩

def instance? (world : World σ υ) (id : InstanceId) : Option (Instance σ) := world.instances[id]?

/-- The instance of a given number. Numbers are only handed out for instances that exist. -/
def instanceAt (world : World σ υ) (id : InstanceId) : Instance σ :=
  (world.instance? id).getD default

omit [Inhabited σ] in
def add (world : World σ υ) (made : Instance σ) : World σ υ :=
  { world with instances := world.instances ++ [made] }

omit [Inhabited σ] in
def nextId (world : World σ υ) : InstanceId := world.instances.length

omit [Inhabited σ] in
def changeInstance (world : World σ υ) (id : InstanceId) (change : Instance σ → Instance σ) :
    World σ υ :=
  { world with instances := world.instances.modify id change }

omit [Inhabited σ] in
def report (world : World σ υ) (entry : LogEntry) : World σ υ :=
  { world with log := world.log ++ [entry] }

omit [Inhabited σ] in
def changeContainer (world : World σ υ) (change : Container → Container) : World σ υ :=
  { world with container := change world.container }

def answerOwn {ε : Type} (self : InstanceId) :
    (request : OwnRequest σ υ) → Action (World σ υ) ε request.Answer
  | .properties => Action.view fun world => (world.instanceAt self).properties
  | .setProperty key value => Action.modify fun world => world.changeInstance self fun held =>
      { held with properties := held.properties.map (·.set key value) }
  | .state => Action.view fun world => (world.instanceAt self).state
  | .setState state => Action.modify fun world => world.changeInstance self fun held =>
      { held with state }
  | .shared => Action.view (·.shared)
  | .setShared shared => Action.modify fun world => { world with shared }
  | .log entry => Action.modify (·.report entry)

end World

end EventPipeline
