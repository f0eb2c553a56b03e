import EventPipeline.Configuration
import EventPipeline.TypeToken

/-! Definitions: the records that annotating a component leaves behind. They carry no behaviour; the
compiler reads them to assemble pipelines. -/

namespace EventPipeline

open Json

/-- Marks a component as a controller. A type may carry several. -/
structure ControllerDefinition where
  singleton : Bool
  filter : Option TypeToken
  configuration : Configuration
deriving DecidableEq

structure RouteDefinition where
  filter : Option TypeToken
  configuration : Configuration
deriving DecidableEq

structure MiddlewareDefinition where
  type : TypeToken
  method : String
  singleton : Bool
  priority : Int
  configuration : Configuration
deriving DecidableEq

structure ExtractorDefinition where
  index : UInt64
  /-- Without a type there is nothing to extract. -/
  type : Option TypeToken
  configuration : Configuration
deriving DecidableEq

namespace ControllerDefinition

def perCall : ControllerDefinition := ⟨false, none, OrderedMap.empty⟩

instance : Comparable ControllerDefinition :=
  ⟨fun definition => { definition with configuration := normal definition.configuration }⟩

end ControllerDefinition

namespace RouteDefinition

def unfiltered : RouteDefinition := ⟨none, OrderedMap.empty⟩

def guarded (filter : TypeToken) : RouteDefinition := ⟨some filter, OrderedMap.empty⟩

instance : Comparable RouteDefinition :=
  ⟨fun definition => { definition with configuration := normal definition.configuration }⟩

end RouteDefinition

namespace MiddlewareDefinition

def beforePriority : Int := -1
def afterPriority : Int := 1

def ofMethod (type : TypeToken) (method : String) : MiddlewareDefinition :=
  ⟨type, method, false, 0, OrderedMap.empty⟩

def before (type : TypeToken) (method : String) : MiddlewareDefinition :=
  { ofMethod type method with priority := beforePriority }

def after (type : TypeToken) (method : String) : MiddlewareDefinition :=
  { ofMethod type method with priority := afterPriority }

/-- Middleware runs before the route handler unless its priority is positive. -/
def isBefore (definition : MiddlewareDefinition) : Bool := decide (definition.priority ≤ 0)

instance : Comparable MiddlewareDefinition :=
  ⟨fun definition => { definition with configuration := normal definition.configuration }⟩

end MiddlewareDefinition

namespace ExtractorDefinition

def typed (index : UInt64) (type : TypeToken) : ExtractorDefinition :=
  ⟨index, some type, OrderedMap.empty⟩

def untyped (index : UInt64) : ExtractorDefinition := ⟨index, none, OrderedMap.empty⟩

instance : Comparable ExtractorDefinition :=
  ⟨fun definition => { definition with configuration := normal definition.configuration }⟩

end ExtractorDefinition

structure Recipe where
  type : Option TypeToken
  configuration : Configuration
deriving DecidableEq

def emptyConfigurationText : String := "Configuration(\x7b\x7d)"

namespace Recipe

instance : Comparable Recipe :=
  ⟨fun recipe => { recipe with configuration := normal recipe.configuration }⟩

def diagnostic? (recipe : Recipe) : Option String :=
  if recipe.configuration.isEmpty then
    some ("Recipe \x7b ty: " ++ TypeToken.optionalDiagnostic recipe.type ++ ", configuration: " ++
      emptyConfigurationText ++ " \x7d")
  else none

end Recipe

inductive OneOrMany (α : Type) where
  | one (entry : α)
  | many (entries : List α)
deriving DecidableEq, Repr

namespace OneOrMany

variable {α β : Type}

def toList : OneOrMany α → List α
  | .one entry => [entry]
  | .many entries => entries

def push : OneOrMany α → α → OneOrMany α
  | .one first, entry => .many [first, entry]
  | .many entries, entry => .many (entries ++ [entry])

def map (f : α → β) : OneOrMany α → OneOrMany β
  | .one entry => .one (f entry)
  | .many entries => .many (entries.map f)

def size (entries : OneOrMany α) : Nat := entries.toList.length

instance [Comparable α] : Comparable (OneOrMany α) := ⟨map normal⟩

@[simp] theorem toList_push (entries : OneOrMany α) (entry : α) :
    (entries.push entry).toList = entries.toList ++ [entry] := by
  cases entries <;> rfl

end OneOrMany

end EventPipeline
