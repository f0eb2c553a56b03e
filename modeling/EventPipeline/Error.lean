/-! Errors, as the causes they report.

Each layer carries the failures of the layer below it unchanged: its message and its sources are
those of the failure it carries. Only a failed filter, a failed extractor, a failed construction and
a failed loader add a layer of their own, and then the carried failure is their first source. -/

namespace EventPipeline

/-- Any failure, seen from outside: what it says, and what its causes say, outermost first. -/
structure Cause where
  message : String
  sources : List String
deriving DecidableEq, Repr, Inhabited

namespace Cause

def ofMessage (message : String) : Cause := ⟨message, []⟩

def chain (cause : Cause) : List String := cause.message :: cause.sources

end Cause

def missingTypeMessage : String := "a recipe has no specified type and cannot be crafted"

inductive ResolutionError where
  | unbound (typeName : String)
  | circular (path : List String)
  | typeMismatch (typeName : String)
  | construction (typeName : String) (cause : Cause)
deriving DecidableEq, Repr

namespace ResolutionError

def message : ResolutionError → String
  | .unbound typeName => "no binding registered for `" ++ typeName ++ "`"
  | .circular path => "circular dependency detected: " ++ " -> ".intercalate path
  | .typeMismatch typeName => "binding for `" ++ typeName ++ "` produced a value of another type"
  | .construction typeName _ => "failed to construct `" ++ typeName ++ "`"

def sources : ResolutionError → List String
  | .construction _ cause => cause.chain
  | _ => []

def toCause (error : ResolutionError) : Cause := ⟨error.message, error.sources⟩

end ResolutionError

/-- An argument that was not decoded, with what its decoder says of it. A decoder names no causes
of its own. -/
structure ArgumentError where
  index : Nat
  method : String
  source : String
deriving DecidableEq, Repr

namespace ArgumentError

def message (error : ArgumentError) : String :=
  "argument " ++ toString error.index ++ " of `" ++ error.method ++ "` could not be decoded"

def sources (error : ArgumentError) : List String := [error.source]

def toCause (error : ArgumentError) : Cause := ⟨error.message, error.sources⟩

end ArgumentError

inductive InvokeError where
  | unknownMethod (component method : String)
  | argument (error : ArgumentError)
  | handler (cause : Cause)
deriving DecidableEq, Repr

namespace InvokeError

def message : InvokeError → String
  | .unknownMethod component method =>
      "`" ++ component ++ "` has no method named `" ++ method ++ "`"
  | .argument error => error.message
  | .handler cause => cause.message

def sources : InvokeError → List String
  | .unknownMethod _ _ => []
  | .argument error => error.sources
  | .handler cause => cause.sources

def toCause (error : InvokeError) : Cause := ⟨error.message, error.sources⟩

def handler? : InvokeError → Option Cause
  | .handler cause => some cause
  | _ => none

end InvokeError

inductive FactoryError where
  | missingType
  | resolution (error : ResolutionError)
deriving DecidableEq, Repr

namespace FactoryError

def message : FactoryError → String
  | .missingType => missingTypeMessage
  | .resolution error => error.message

def sources : FactoryError → List String
  | .missingType => []
  | .resolution error => error.sources

def toCause (error : FactoryError) : Cause := ⟨error.message, error.sources⟩

end FactoryError

inductive ActivationError where
  | missingType
  | resolution (error : ResolutionError)
  | invoke (error : InvokeError)
deriving DecidableEq, Repr

namespace ActivationError

def ofFactory : FactoryError → ActivationError
  | .missingType => .missingType
  | .resolution error => .resolution error

def message : ActivationError → String
  | .missingType => missingTypeMessage
  | .resolution error => error.message
  | .invoke error => error.message

def sources : ActivationError → List String
  | .missingType => []
  | .resolution error => error.sources
  | .invoke error => error.sources

def toCause (error : ActivationError) : Cause := ⟨error.message, error.sources⟩

def handler? : ActivationError → Option Cause
  | .invoke error => error.handler?
  | _ => none

end ActivationError

inductive DispatchError where
  | missingType
  | resolution (error : ResolutionError)
  | filter (cause : Cause)
  | extraction (index : Nat) (cause : Cause)
  | activation (error : ActivationError)
  /-- A run outlived its deadline; the budget is in nanoseconds. -/
  | timeout (budget : Nat)
deriving DecidableEq, Repr

namespace DispatchError

def ofFactory : FactoryError → DispatchError
  | .missingType => .missingType
  | .resolution error => .resolution error

def nanosecondsPerMillisecond : Nat := 1000000

/-- Budgets are reported in whole milliseconds, rounded down. -/
def message : DispatchError → String
  | .missingType => missingTypeMessage
  | .resolution error => error.message
  | .filter _ => "filter failed"
  | .extraction index _ => "extractor for argument " ++ toString index ++ " failed"
  | .activation error => error.message
  | .timeout budget =>
      "pipeline run exceeded its " ++ toString (budget / nanosecondsPerMillisecond) ++ "ms budget"

def sources : DispatchError → List String
  | .missingType => []
  | .resolution error => error.sources
  | .filter cause => cause.chain
  | .extraction _ cause => cause.chain
  | .activation error => error.sources
  | .timeout _ => []

def toCause (error : DispatchError) : Cause := ⟨error.message, error.sources⟩

def handler? : DispatchError → Option Cause
  | .activation error => error.handler?
  | _ => none

end DispatchError

structure LoadError where
  cause : Cause
deriving DecidableEq, Repr

namespace LoadError

def message (_ : LoadError) : String := "failed to load controllers"

def sources (error : LoadError) : List String := error.cause.chain

def toCause (error : LoadError) : Cause := ⟨error.message, error.sources⟩

end LoadError

end EventPipeline
