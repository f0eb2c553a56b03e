import EventPipeline.CompilerOptions
import EventPipeline.Document
import EventPipeline.Json.Access
import EventPipeline.Metadata.Store

/-! Summaries: definitions, recipes, units and documents, written as JSON. Types are written by
their full names. -/

namespace EventPipeline.Workbench.Summary

open Json

def ofType (type : TypeToken) : Value := .string type.name

def ofType? (type : Option TypeToken) : Value := .orNull (type.map ofType)

def ofController (definition : ControllerDefinition) : Value :=
  .object [("singleton", .bool definition.singleton), ("filter", ofType? definition.filter),
    ("configuration", .ofObject definition.configuration)]

def ofRoute (definition : RouteDefinition) : Value :=
  .object [("filter", ofType? definition.filter),
    ("configuration", .ofObject definition.configuration)]

def ofMiddleware (definition : MiddlewareDefinition) : Value :=
  .object [("type", ofType definition.type), ("method", .string definition.method),
    ("singleton", .bool definition.singleton), ("priority", .int definition.priority),
    ("before", .bool definition.isBefore), ("config", .ofObject definition.configuration)]

def ofExtractor (definition : ExtractorDefinition) : Value :=
  .object [("index", .ofNatural definition.index.toNat), ("extractor", ofType? definition.type),
    ("configuration", .ofObject definition.configuration)]

def ofRecipe (recipe : Recipe) : Value :=
  .object [("type", ofType? recipe.type), ("configuration", .ofObject recipe.configuration)]

def ofEntry : OneOrMany Recipe → Value
  | .one recipe => ofRecipe recipe
  | .many recipes => .array (recipes.map ofRecipe)

def unitFields (unit : ActivationUnit) : List (String × Value) :=
  [("target", ofType? unit.target), ("method", .string unit.method),
    ("shared", .bool unit.shared), ("configuration", .ofObject unit.configuration),
    ("cached", .bool unit.cached.isSome)]

def ofMiddlewareDocument (document : MiddlewareDocument) : Value :=
  .object (unitFields document.activation ++
    [("extractors", .object (document.extractors.entries.map fun (index, entry) =>
        (toString index.toNat, ofEntry entry))),
      ("priority", .orNull (document.priority.map .int)),
      ("arity", .ofNatural document.arity.toNat)])

def ofDocument (document : PipelineDocument) : Value :=
  .object [("middleware", .array (document.middleware.map ofMiddlewareDocument)),
    ("filters", .array (document.filters.map ofEntry)),
    ("handler", .orNull (document.handlerIndex?.map .ofNatural))]

def ofOptions (options : CompilerOptions) : Value :=
  .object [("controller_suffix", .string options.controllerSuffix),
    ("derive_context_names", .bool options.deriveContextNames)]

end EventPipeline.Workbench.Summary
