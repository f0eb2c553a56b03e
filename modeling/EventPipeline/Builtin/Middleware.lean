import EventPipeline.Builtin.Own
import EventPipeline.Metadata.Store
import EventPipeline.Text.Duration

/-! Built-in middleware: one that reports the events reaching a pipeline, and one that bounds the
rest of a run. -/

namespace EventPipeline.Builtin

open Json

variable {σ υ : Type}

namespace Logging

def componentName : String := "LoggingMiddleware"
def methodName : String := "log"
def levelKey : String := "level"
def defaultLevel : String := "debug"

def levelOf (text : String) : LogLevel :=
  if text = "trace" then .trace
  else if text = "info" then .info
  else if text = "warn" then .warn
  else if text = "error" then .error
  else .debug

def textProperty (properties : Properties) (key : String) : Option String :=
  properties.get? key >>= Value.text?

def entry (properties : Properties) (eventType : Option String) : LogEntry :=
  LogEntry.ofFields (levelOf ((textProperty properties levelKey).getD defaultLevel))
    "event reached pipeline"
    [("event_type", .string (eventType.getD "")),
      ("context", .string ((textProperty properties Configuration.contextKey).getD ""))]

def log (eventType : Option String) : MethodScript σ υ Unit := do
  let properties ← MethodScript.properties
  MethodScript.log (entry (properties.getD OrderedMap.empty) eventType)

def invoke (refusal : Refusal) (method : String) (slots : Slots) :
    MethodScript σ υ (Except InvokeError Value) :=
  if method = methodName then
    match slots.decode refusal (Decoder.optional Decoder.text) 0 method with
    | .error error => .done (.error (.argument error))
    | .ok eventType => do
        log eventType
        return .ok .null
  else .done (.error (.unknownMethod componentName method))

def behaviour (refusal : Refusal) (state : σ) : Behaviour σ υ :=
  { Behaviour.plain (some (OrderedMap.ofList [(levelKey, .string defaultLevel)])) state with
    signatures := [⟨methodName, ["event_type"]⟩]
    invoke := invoke refusal }

def annotations (eventType : TypeToken) : List Annotation :=
  [.method methodName [.parameter (.typed 0 eventType)]]

end Logging

namespace Timeout

def componentName : String := "TimeoutMiddleware"
def methodName : String := "start"
def budgetKey : String := "timeout"

/-- In milliseconds. -/
def defaultBudget : Nat := 30000

def budget (properties : Properties) : Nat :=
  let milliseconds := properties.get? budgetKey >>= Decoder.unsigned 64
  (milliseconds.map (·.toNat)).getD defaultBudget * DispatchError.nanosecondsPerMillisecond

def entry (deadline : Deadline) : LogEntry :=
  LogEntry.ofFields .trace "deadline set for pipeline run"
    [("budget", .string (Text.durationText deadline.budget))]

def start : MethodScript σ υ Unit := do
  let properties ← MethodScript.properties
  let deadline ← MethodScript.setDeadline (budget (properties.getD OrderedMap.empty))
  MethodScript.log (entry deadline)

def invoke (method : String) (_ : Slots) : MethodScript σ υ (Except InvokeError Value) :=
  if method = methodName then do
    start
    return .ok .null
  else .done (.error (.unknownMethod componentName method))

def behaviour (state : σ) : Behaviour σ υ :=
  { Behaviour.plain (some OrderedMap.empty) state with
    signatures := [⟨methodName, ["context"]⟩]
    invoke }

def annotations (dispatchContext : TypeToken) : List Annotation :=
  [.method methodName [.parameter (.typed 0 dispatchContext)]]

end Timeout

end EventPipeline.Builtin
