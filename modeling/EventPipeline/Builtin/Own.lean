import EventPipeline.Behaviour

/-! Short scripts over an instance's own properties and state. -/

namespace EventPipeline

open Json

variable {σ υ : Type}

namespace OwnScript

def properties : OwnScript σ υ (Option Properties) := .ask OwnRequest.properties .done

def property (key : String) : OwnScript σ υ (Option Value) := do
  let held ← properties
  return held.bind (·.get? key)

def state : OwnScript σ υ σ := .ask OwnRequest.state .done

def shared : OwnScript σ υ υ := .ask OwnRequest.shared .done

def setShared (value : υ) : OwnScript σ υ Unit := .ask (OwnRequest.setShared value) .done

end OwnScript

namespace MethodScript

def properties : MethodScript σ υ (Option Properties) := .ask (MethodRequest.own .properties) .done

def property (key : String) : MethodScript σ υ (Option Value) := do
  let held ← properties
  return held.bind (·.get? key)

def setProperty (key : String) (value : Value) : MethodScript σ υ Unit :=
  .ask (MethodRequest.own (.setProperty key value)) .done

def state : MethodScript σ υ σ := .ask (MethodRequest.own .state) .done

def setState (value : σ) : MethodScript σ υ Unit := .ask (MethodRequest.own (.setState value)) .done

def shared : MethodScript σ υ υ := .ask (MethodRequest.own .shared) .done

def setShared (value : υ) : MethodScript σ υ Unit :=
  .ask (MethodRequest.own (.setShared value)) .done

def log (entry : LogEntry) : MethodScript σ υ Unit := .ask (MethodRequest.own (.log entry)) .done

def insert (key : String) (value : Value) : MethodScript σ υ (Option Value) :=
  .ask (MethodRequest.insert key value) .done

def remove (key : String) : MethodScript σ υ (Option Value) := .ask (MethodRequest.remove key) .done

def values : MethodScript σ υ Object := .ask MethodRequest.values .done

def setDeadline (budget : Nat) : MethodScript σ υ Deadline :=
  .ask (MethodRequest.setDeadline budget) .done

def wait (duration : Nat) : MethodScript σ υ Unit := .ask (MethodRequest.wait duration) .done

end MethodScript

end EventPipeline
