import EventPipeline.Builtin.Own

/-! Small components for trying out pipelines: one that counts its calls and one that always
fails. -/

namespace EventPipeline.Builtin

open Json

variable {σ υ : Type}

namespace Counter

def componentName : String := "Counter"
def methodName : String := "count"

def invoke (calls : σ → Nat) (setCalls : Nat → σ → σ) (method : String) (_ : Slots) :
    MethodScript σ υ (Except InvokeError Value) :=
  if method = methodName then do
    let held ← MethodScript.state
    MethodScript.setState (setCalls (calls held + 1) held)
    return .ok (.int (calls held + 1))
  else .done (.error (.unknownMethod componentName method))

def behaviour (calls : σ → Nat) (setCalls : Nat → σ → σ) (state : σ) : Behaviour σ υ :=
  { Behaviour.plain (some OrderedMap.empty) state with
    signatures := [⟨methodName, []⟩]
    invoke := invoke calls setCalls }

end Counter

def failing (state : σ) : Behaviour σ υ :=
  { Behaviour.plain none state with
    invoke := fun _ _ => .done (.error (.handler (.ofMessage "boom"))) }

end EventPipeline.Builtin
