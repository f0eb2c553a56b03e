import EventPipeline.Behaviour

/-! Components declared as a table of typed methods.

Each method declares its parameters; invoking it produces them from the slots in the order of their
declaration, and the first that cannot be produced ends the invocation before the body runs. The
method table of the component is read off the same declarations. -/

namespace EventPipeline

open Json

variable {σ υ : Type}

structure Parameter where
  name : String
  Carrier : Type
  produce : Slots → (index : Nat) → (method : String) → Except ArgumentError Carrier

namespace Parameter

abbrev decoded {α : Type} (name : String) (refusal : Refusal) (decoder : Decoder α) : Parameter where
  name := name
  Carrier := α
  produce slots index method := slots.decode refusal decoder index method

/-- A parameter that receives the context of the run, whatever its slot holds. The body reaches the
context through its own requests. -/
abbrev runContext (name : String) : Parameter where
  name := name
  Carrier := Unit
  produce _ _ _ := .ok ()

end Parameter

def Inputs : List Parameter → Type
  | [] => Unit
  | parameter :: rest => parameter.Carrier × Inputs rest

/-- Produces parameters from left to right; the first failure ends it. -/
def produceInputs (slots : Slots) (method : String) :
    (index : Nat) → (parameters : List Parameter) → Except ArgumentError (Inputs parameters)
  | _, [] => .ok ()
  | index, parameter :: rest =>
      match parameter.produce slots index method with
      | .error error => .error error
      | .ok value =>
          match produceInputs slots method (index + 1) rest with
          | .error error => .error error
          | .ok values => .ok (value, values)

structure DeclaredMethod (σ υ : Type) where
  name : String
  parameters : List Parameter
  body : Inputs parameters → MethodScript σ υ (Except Cause Value)

namespace DeclaredMethod

def signature (method : DeclaredMethod σ υ) : MethodSignature :=
  ⟨method.name, method.parameters.map (·.name)⟩

def invoke (method : DeclaredMethod σ υ) (slots : Slots) :
    MethodScript σ υ (Except InvokeError Value) :=
  match produceInputs slots method.name 0 method.parameters with
  | .error error => .done (.error (.argument error))
  | .ok inputs => do
      let outcome ← method.body inputs
      return outcome.mapError .handler

end DeclaredMethod

structure MethodTable (σ υ : Type) where
  methods : List (DeclaredMethod σ υ)

namespace MethodTable

def signatures (table : MethodTable σ υ) : List MethodSignature :=
  table.methods.map (·.signature)

def invoke (table : MethodTable σ υ) (component method : String) (slots : Slots) :
    MethodScript σ υ (Except InvokeError Value) :=
  match table.methods.find? (·.name == method) with
  | some declared => declared.invoke slots
  | none => .done (.error (.unknownMethod component method))

def behaviour (table : MethodTable σ υ) (component : String) (properties : Option Properties)
    (state : σ) : Behaviour σ υ :=
  { Behaviour.plain properties state with
    signatures := table.signatures
    invoke := table.invoke component }

end MethodTable

end EventPipeline
