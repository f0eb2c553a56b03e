import EventPipeline.CompilerOptions
import EventPipeline.Document
import EventPipeline.Metadata.Store

/-! Compiling annotated controllers into pipeline documents.

A candidate yields one document for each of its controller definitions and each of its routable
members. A document runs the class middleware with priority up to zero, the route's own middleware
with priority up to zero, the handler, the rest of the route's own middleware and the rest of the
class middleware; within each group the order of declaration stays.

Compiling reads the store and changes nothing. -/

namespace EventPipeline

open Json

structure Compilation where
  signatures : TypeToken → List MethodSignature
  store : MetadataStore
  options : CompilerOptions

namespace Compilation

def deriveContext (compilation : Compilation) (configuration : Configuration) (name : String) :
    Configuration :=
  if compilation.options.deriveContextNames then configuration.withDefaultContext name
  else configuration

def stripSuffix (name suffix : String) : String :=
  let kept := name.length - suffix.length
  if suffix.toList <:+ name.toList ∧ 0 < kept then String.ofList (name.toList.take kept) else name

def controllerContext (compilation : Compilation) (target : TypeToken) : String :=
  stripSuffix target.shortName compilation.options.controllerSuffix

/-- Where a member stands in a method table; behind every entry when it is not listed. -/
def tablePosition (table : List MethodSignature) (member : String) : Nat :=
  table.findIdx (·.name == member)

/-- Members with at least one route: those in the method table in its order, then the others in the
order in which they were annotated. -/
def routableMembers (compilation : Compilation) (target : TypeToken) : List String :=
  let table := compilation.signatures target
  ((compilation.store.members target).filter fun member =>
      compilation.store.hasMetadata .route target (some member)).mergeSort
    fun a b => decide (tablePosition table a ≤ tablePosition table b)

/-- The recipe of an extractor definition. Its context is that of the parameter it fills, if the
definition has a type and the parameter a name. -/
def extractorRecipe (compilation : Compilation) (signature : Option MethodSignature)
    (definition : ExtractorDefinition) : Recipe :=
  let parameter := signature.bind (·.parameterName? definition.index.toNat)
  match definition.type, parameter with
  | some _, some name =>
      ⟨definition.type, compilation.deriveContext definition.configuration name⟩
  | _, _ => ⟨definition.type, definition.configuration⟩

def addRecipe (index : UInt64) (recipe : Recipe) (recipes : OrderedMap UInt64 (OneOrMany Recipe)) :
    OrderedMap UInt64 (OneOrMany Recipe) :=
  recipes.alter index fun held =>
    match held with
    | none => .one recipe
    | some entries => entries.push recipe

def extractorRecipes (compilation : Compilation) (target : TypeToken) (method : String) :
    OrderedMap UInt64 (OneOrMany Recipe) :=
  let signature := findSignature? (compilation.signatures target) method
  (compilation.store.extractors target method).foldl
    (fun recipes definition =>
      addRecipe definition.index (compilation.extractorRecipe signature definition) recipes)
    OrderedMap.empty

def middlewareDocument (compilation : Compilation) (definition : MiddlewareDefinition) :
    MiddlewareDocument where
  activation := .build (some definition.type) definition.configuration definition.method
    definition.singleton
  extractors := compilation.extractorRecipes definition.type definition.method
  priority := some definition.priority

def handlerDocument (compilation : Compilation) (target : TypeToken) (route : String)
    (controller : ControllerDefinition) : MiddlewareDocument where
  activation := .build (some target) OrderedMap.empty route controller.singleton
  extractors := compilation.extractorRecipes target route
  priority := none

def phases (definitions : List MiddlewareDefinition) :
    List MiddlewareDefinition × List MiddlewareDefinition :=
  definitions.partition (·.isBefore)

def middlewareStack (compilation : Compilation) (target : TypeToken) (route : String)
    (controller : ControllerDefinition) : List MiddlewareDocument :=
  let (classBefore, classAfter) := phases (compilation.store.classMiddleware target)
  let (routeBefore, routeAfter) := phases (compilation.store.memberMiddleware target route)
  (classBefore ++ routeBefore).map compilation.middlewareDocument ++
    compilation.handlerDocument target route controller ::
      (routeAfter ++ classAfter).map compilation.middlewareDocument

def filterStack (compilation : Compilation) (target : TypeToken) (route : String)
    (controller : ControllerDefinition) : List (OneOrMany Recipe) :=
  let own :=
    match controller.filter with
    | some filter =>
        [OneOrMany.one ⟨some filter, compilation.deriveContext controller.configuration
          (compilation.controllerContext target)⟩]
    | none => []
  own ++ (compilation.store.routes target route).map fun definition =>
    .one ⟨definition.filter, compilation.deriveContext definition.configuration route⟩

def compileRoute (compilation : Compilation) (target : TypeToken) (route : String)
    (controller : ControllerDefinition) : PipelineDocument where
  middleware := compilation.middlewareStack target route controller
  filters := compilation.filterStack target route controller

def compileCandidate (compilation : Compilation) (target : TypeToken) :
    List (String × PipelineDocument) :=
  if compilation.store.isController target then
    (compilation.store.controllers target).flatMap fun controller =>
      (compilation.routableMembers target).map fun route =>
        (route, compilation.compileRoute target route controller)
  else []

def compile (compilation : Compilation) (candidates : List TypeToken) : List PipelineDocument :=
  (candidates.flatMap compilation.compileCandidate).map (·.2)

/-! ### What a compilation reports -/

def skippedEntry (target : TypeToken) : LogEntry :=
  LogEntry.ofFields .trace "skipping candidate without controller definition"
    [("candidate", .string target.name)]

def compiledEntry (target : TypeToken) (route : String) (document : PipelineDocument) : LogEntry :=
  LogEntry.ofFields .debug "compiled pipeline"
    [("controller", .string target.shortName), ("route", .string route),
      ("middleware", .int document.middleware.length), ("filters", .int document.filters.length)]

def finishedEntry (documents : List PipelineDocument) : LogEntry :=
  LogEntry.ofFields .info "compiled pipeline documents" [("documents", .int documents.length)]

def candidateLog (compilation : Compilation) (target : TypeToken) : List LogEntry :=
  if compilation.store.isController target then
    (compilation.compileCandidate target).map fun (route, document) =>
      compiledEntry target route document
  else [skippedEntry target]

def compileLog (compilation : Compilation) (candidates : List TypeToken) : List LogEntry :=
  candidates.flatMap compilation.candidateLog ++ [finishedEntry (compilation.compile candidates)]

end Compilation

end EventPipeline
