import EventPipeline.Arguments
import EventPipeline.Configuration
import EventPipeline.Effect.Script
import EventPipeline.Event
import EventPipeline.LogEntry
import EventPipeline.TypeToken

/-! What user code does.

The library knows a type only by its behaviour: how an instance is constructed, how its methods run,
which events it accepts and what it extracts from them. Each is a script, so what user code may
touch is listed here and nowhere else. `σ` is the private state of an instance, `υ` is what user
code shares outside its instances. -/

namespace EventPipeline

open Json

abbrev InstanceId := Nat

variable {σ υ : Type}

inductive OwnRequest (σ υ : Type) where
  | properties
  | setProperty (key : String) (value : Value)
  | state
  | setState (state : σ)
  | shared
  | setShared (shared : υ)
  | log (entry : LogEntry)

abbrev OwnRequest.Answer : OwnRequest σ υ → Type
  | .properties => Option Properties
  | .setProperty _ _ => Unit
  | .state => σ
  | .setState _ => Unit
  | .shared => υ
  | .setShared _ => Unit
  | .log _ => Unit

abbrev OwnScript (σ υ α : Type) := Script (OwnRequest σ υ) OwnRequest.Answer α

/-- What a method body may ask for: besides its own instance, the context of its run, and time. -/
inductive MethodRequest (σ υ : Type) where
  | own (request : OwnRequest σ υ)
  | insert (key : String) (value : Value)
  | remove (key : String)
  | values
  | setDeadline (budget : Nat)
  | deadline
  | wait (duration : Nat)

abbrev MethodRequest.Answer : MethodRequest σ υ → Type
  | .own request => request.Answer
  | .insert _ _ => Option Value
  | .remove _ => Option Value
  | .values => Object
  | .setDeadline _ => Deadline
  | .deadline => Option Deadline
  | .wait _ => Unit

abbrev MethodScript (σ υ α : Type) := Script (MethodRequest σ υ) MethodRequest.Answer α

/-- What a constructor may ask for: other instances from the container that builds it, what it can
learn of them, and what user code shares. -/
inductive ConstructRequest (σ υ : Type) where
  | resolve (key : BindingKey)
  | isBound (key : BindingKey)
  /-- Invokes a method of a resolved dependency in a context of its own. -/
  | invoke (dependency : InstanceId) (method : String) (slots : Slots)
  | inspect (dependency : InstanceId)
  | shared
  | setShared (shared : υ)
  | log (entry : LogEntry)

abbrev ConstructRequest.Answer : ConstructRequest σ υ → Type
  | .resolve _ => Except ResolutionError InstanceId
  | .isBound _ => Bool
  | .invoke _ _ _ => Except InvokeError Value
  | .inspect _ => σ
  | .shared => υ
  | .setShared _ => Unit
  | .log _ => Unit

abbrev ConstructScript (σ υ α : Type) := Script (ConstructRequest σ υ) ConstructRequest.Answer α

/-- What a constructor delivers. An instance without properties ignores configuration. -/
structure Blueprint (σ : Type) where
  properties : Option Properties
  state : σ

structure Behaviour (σ υ : Type) where
  signatures : List MethodSignature
  construct : ConstructScript σ υ (Except ResolutionError (Blueprint σ))
  invoke : (method : String) → Slots → MethodScript σ υ (Except InvokeError Value)
  accepts : Event → OwnScript σ υ (Except Cause Bool)
  extract : Event → OwnScript σ υ (Except Cause Value)

abbrev Catalogue (σ υ : Type) := TypeToken → Behaviour σ υ

namespace Behaviour

def plain (properties : Option Properties) (state : σ) : Behaviour σ υ where
  signatures := []
  construct := .done (.ok ⟨properties, state⟩)
  invoke := fun method _ => .done (.error (.unknownMethod "" method))
  accepts := fun _ => .done (.ok false)
  extract := fun _ => .done (.ok .null)

end Behaviour

end EventPipeline
