import EventPipeline.Builtin.Own

/-! Built-in extractors. -/

namespace EventPipeline.Builtin

open Json

variable {σ υ : Type}

def reading (read : Event → Value) (state : σ) : Behaviour σ υ :=
  { Behaviour.plain none state with extract := fun event => .done (.ok (read event)) }

def eventData (state : σ) : Behaviour σ υ := reading (·.data) state

def eventType (state : σ) : Behaviour σ υ := reading (fun event => .string event.type) state

def routeData (state : σ) : Behaviour σ υ := reading (·.routeData) state

def fullEvent (state : σ) : Behaviour σ υ := reading (·.toValue) state

/-- Marks a parameter that receives the run's context. The slot itself stays `null`. -/
def dispatchContext (state : σ) : Behaviour σ υ := reading (fun _ => .null) state

def constantKey : String := "value"

def constant (state : σ) : Behaviour σ υ :=
  { Behaviour.plain (some OrderedMap.empty) state with
    extract := fun _ => do
      let value ← OwnScript.property constantKey
      return .ok (value.getD .null) }

end EventPipeline.Builtin
