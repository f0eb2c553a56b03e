import EventPipeline.Text.Literal

/-! Type tokens.

A type is identified by its number; its full name is a label that several types may share. A
binding is identified by a type together with the view it is resolved as, so that one type may be
bound once as a component, once as a filter and once as itself. -/

namespace EventPipeline

structure MethodSignature where
  name : String
  parameters : List String
deriving DecidableEq, Repr

def MethodSignature.parameterName? (signature : MethodSignature) (index : Nat) : Option String :=
  signature.parameters[index]?.filter (!·.isEmpty)

def findSignature? (table : List MethodSignature) (method : String) : Option MethodSignature :=
  table.find? (·.name == method)

structure TypeToken where
  id : Nat
  name : String
deriving DecidableEq, Repr, Inhabited

def lastSegment (candidate : List Char) : List Char → List Char
  | [] => candidate
  | c :: rest =>
      if c = ':' ∧ rest.head? = some ':' then lastSegment rest.tail rest
      else lastSegment candidate rest

/-- The last path segment of a full type name, without generic arguments. -/
def shortNameOf (name : String) : String :=
  let base := name.toList.takeWhile (· ≠ '<')
  String.ofList (lastSegment base base)

namespace TypeToken

def shortName (token : TypeToken) : String := shortNameOf token.name

def diagnostic (token : TypeToken) : String := "TypeRef(" ++ Text.literal token.name ++ ")"

def optionalDiagnostic : Option TypeToken → String
  | some token => "Some(" ++ token.diagnostic ++ ")"
  | none => "None"

end TypeToken

inductive View where
  | component
  | filter
  | extractor
  | concrete
deriving DecidableEq, Repr

/-- What an instance is held as once its own type is no longer visible: behind one of the three
interfaces, or as a value of its own type. -/
inductive Form where
  | component
  | filter
  | extractor
  | concrete (type : TypeToken)
deriving DecidableEq, Repr, Inhabited

structure BindingKey where
  type : TypeToken
  view : View
deriving DecidableEq, Repr

namespace BindingKey

def name (key : BindingKey) : String := key.type.name

def form (key : BindingKey) : Form :=
  match key.view with
  | .component => .component
  | .filter => .filter
  | .extractor => .extractor
  | .concrete => .concrete key.type

def diagnostic (key : BindingKey) : String := "BindingKey(" ++ Text.literal key.name ++ ")"

end BindingKey

end EventPipeline
