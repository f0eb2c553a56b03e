import EventPipeline.Error

/-! Failures on their way up through the layers.

A failure may be passed on as the error of a higher layer. Passing it on changes neither what it
says nor what its causes say. -/

namespace EventPipeline

/-- A failure, as the error of the layer that it has reached. -/
inductive Failure where
  | missingType
  | resolution (error : ResolutionError)
  | argument (error : ArgumentError)
  | body (cause : Cause)
  | timeout (budget : Nat)
  | factory (error : FactoryError)
  | invoke (error : InvokeError)
  | activation (error : ActivationError)
  | dispatch (error : DispatchError)
  | load (error : LoadError)
deriving DecidableEq, Repr

inductive Layer where
  | factory
  | invoke
  | activation
  | dispatch
deriving DecidableEq, Repr

namespace Failure

def toCause : Failure → Cause
  | .missingType => .ofMessage missingTypeMessage
  | .resolution error => error.toCause
  | .argument error => error.toCause
  | .body cause => cause
  | .timeout budget => (DispatchError.timeout budget).toCause
  | .factory error => error.toCause
  | .invoke error => error.toCause
  | .activation error => error.toCause
  | .dispatch error => error.toCause
  | .load error => error.toCause

/-- The failure as an error of another layer, when that layer carries it. -/
def raise : Layer → Failure → Option Failure
  | .factory, .missingType => some (.factory .missingType)
  | .factory, .resolution error => some (.factory (.resolution error))
  | .invoke, .argument error => some (.invoke (.argument error))
  | .invoke, .body cause => some (.invoke (.handler cause))
  | .activation, .missingType => some (.activation .missingType)
  | .activation, .resolution error => some (.activation (.resolution error))
  | .activation, .factory error => some (.activation (.ofFactory error))
  | .activation, .invoke error => some (.activation (.invoke error))
  | .dispatch, .missingType => some (.dispatch .missingType)
  | .dispatch, .resolution error => some (.dispatch (.resolution error))
  | .dispatch, .factory error => some (.dispatch (.ofFactory error))
  | .dispatch, .activation error => some (.dispatch (.activation error))
  | .dispatch, .timeout budget => some (.dispatch (.timeout budget))
  | _, _ => none

end Failure

end EventPipeline
