import EventPipeline.Builtin.Own

/-! Built-in filters. -/

namespace EventPipeline.Builtin

open Json

variable {σ υ : Type}

def acceptedTypeKey : String := "eventType"

def namesType (properties : Properties) (type : String) : Bool :=
  (properties.get? acceptedTypeKey >>= Value.text?) == some type

/-- Accepts the events whose type its properties name; without configuration it accepts none. -/
def ifEventIs (state : σ) : Behaviour σ υ :=
  { Behaviour.plain (some OrderedMap.empty) state with
    accepts := fun event => do
      let properties ← OwnScript.properties
      return .ok (namesType (properties.getD OrderedMap.empty) event.type) }

def anyEvent (state : σ) : Behaviour σ υ :=
  { Behaviour.plain none state with accepts := fun _ => .done (.ok true) }

def neverMatch (state : σ) : Behaviour σ υ :=
  { Behaviour.plain none state with accepts := fun _ => .done (.ok false) }

end EventPipeline.Builtin
