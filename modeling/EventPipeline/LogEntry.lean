import EventPipeline.Json.Object

/-! What a run reports about itself. -/

namespace EventPipeline

open Json

inductive LogLevel where
  | trace
  | debug
  | info
  | warn
  | error
deriving DecidableEq, Repr

structure LogEntry where
  level : LogLevel
  message : String
  fields : Object
deriving DecidableEq

namespace LogEntry

def ofFields (level : LogLevel) (message : String) (fields : List (String × Value)) : LogEntry :=
  ⟨level, message, OrderedMap.ofList fields⟩

end LogEntry

end EventPipeline
