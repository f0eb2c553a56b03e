import EventPipeline.Document
import EventPipeline.Json.Access
import EventPipeline.Workbench.Fixture

/-! Declarations: what a session is told in JSON, read as the values that it means. Types are given
by the labels of fixtures. -/

namespace EventPipeline.Workbench

open Json

def viewOfWord (word : String) : View :=
  match word with
  | "filter" => .filter
  | "extractor" => .extractor
  | "concrete" => .concrete
  | _ => .component

def metadataKindOfWord (word : String) : MetadataKind :=
  match word with
  | "controller" => .controller
  | "route" => .route
  | "middleware" => .middleware
  | _ => .extractor

def emptySlotKey : String := "none"

/-- Arguments of an invocation; an object with the field `none` stands for an empty slot. -/
def slotsOf (values : List Value) : Slots :=
  values.map fun value => if (value.field? emptySlotKey).isSome then none else some value

namespace Bench

variable (bench : Bench)

def token (label : String) : TypeToken :=
  match bench.fixtures.find? (·.label = label) with
  | some fixture => fixture.type
  | none => ⟨bench.fixtures.length, label⟩

def typeOf? (value : Value) : Option TypeToken := value.text?.map bench.token

def typeField? (value : Value) (key : String) : Option TypeToken := bench.typeOf? (value.field key)

def typeField (value : Value) (key : String) : TypeToken := bench.token (value.textField key)

/-! ### Wishes -/

def dependencyOf (temper : Temper) (text : List Char) : Wish :=
  let label := String.ofList (text.takeWhile (· ≠ ':'))
  match text.dropWhile (· ≠ ':') with
  | [] => .resolve temper label ⟨bench.token label, .concrete⟩
  | _ :: view => .resolve temper label ⟨bench.token label, viewOfWord (String.ofList view)⟩

/-- Reads a wish by its first character: `!` fails with what follows, `@` checks whether the type
that follows is bound, `?` and `^` mark a dependency that is tolerated or wrapped when it fails. -/
def wishOf (text : String) : Wish :=
  match text.toList with
  | '!' :: message => .fail (String.ofList message)
  | '@' :: label => .check ⟨bench.token (String.ofList label), .concrete⟩
  | '?' :: rest => bench.dependencyOf .tolerant rest
  | '^' :: rest => bench.dependencyOf .wrapping rest
  | rest => bench.dependencyOf .strict rest

def wiringOf (value : Value) : Wiring :=
  value.fields.map fun (label, wishes) =>
    (label, wishes.items.map fun wish => bench.wishOf wish.textOrEmpty)

/-! ### Definitions -/

def configurationField (value : Value) (key : String) : Configuration :=
  (Configuration.ofValue? (value.field key)).getD OrderedMap.empty

def controllerOf (value : Value) : ControllerDefinition :=
  ⟨value.truthField "singleton", bench.typeField? value "filter",
    configurationField value "configuration"⟩

def routeOf (value : Value) : RouteDefinition :=
  ⟨bench.typeField? value "filter", configurationField value "configuration"⟩

def extractorOf (value : Value) : ExtractorDefinition :=
  ⟨UInt64.ofNat (value.naturalField "index"), bench.typeField? value "extractor",
    configurationField value "configuration"⟩

def middlewareOf (value : Value) : MiddlewareDefinition :=
  let type := bench.typeField value "type"
  let method := value.textField "method"
  let made :=
    match value.textField "kind" with
    | "before" => MiddlewareDefinition.before type method
    | "after" => MiddlewareDefinition.after type method
    | _ => MiddlewareDefinition.ofMethod type method
  { made with
    singleton := value.truthField "singleton"
    configuration := configurationField value "config"
    priority :=
      match value.field "priority" with
      | .int priority => priority
      | _ => made.priority }

def shortMiddlewareOf (make : TypeToken → String → MiddlewareDefinition) (value : Value) :
    MiddlewareDefinition :=
  match value.items with
  | [type, method] => make (bench.token type.textOrEmpty) method.textOrEmpty
  | _ => make default ""

def middlewareAnnotationOf? : Value → Option MiddlewareDefinition
  | .object [("middleware", definition)] => some (bench.middlewareOf definition)
  | .object [("before", pair)] => some (bench.shortMiddlewareOf .before pair)
  | .object [("after", pair)] => some (bench.shortMiddlewareOf .after pair)
  | _ => none

def memberAnnotationOf? : Value → Option MemberAnnotation
  | .object [("route", definition)] => some (.route (bench.routeOf definition))
  | .object [("param", definition)] => some (.parameter (bench.extractorOf definition))
  | value => (bench.middlewareAnnotationOf? value).map .middleware

def annotationOf? (value : Value) : Option Annotation :=
  match value with
  | .object [("controller", definition)] => some (.controller (bench.controllerOf definition))
  | value =>
      match value.field? "method" with
      | some name =>
          some (.method name.textOrEmpty
            ((value.itemsField "with").filterMap bench.memberAnnotationOf?))
      | none => (bench.middlewareAnnotationOf? value).map .middleware

/-! ### Documents -/

def recipeOf (value : Value) : Recipe :=
  ⟨bench.typeField? value "type", configurationField value "configuration"⟩

def entryOf : Value → OneOrMany Recipe
  | .array recipes => .many (recipes.map bench.recipeOf)
  | recipe => .one (bench.recipeOf recipe)

def unitOf (value : Value) : ActivationUnit :=
  .build (bench.typeField? value "type") (configurationField value "configuration")
    (value.textField "method") (value.truthField "shared")

def middlewareDocumentOf (value : Value) : MiddlewareDocument where
  activation := bench.unitOf value
  extractors := OrderedMap.ofList ((value.field "extractors").fields.map fun (index, entry) =>
    (UInt64.ofNat (index.toNat?.getD 0), bench.entryOf entry))
  priority :=
    match value.field "priority" with
    | .int priority => some priority
    | _ => none

def documentOf (value : Value) : PipelineDocument where
  middleware := (value.itemsField "middleware").map bench.middlewareDocumentOf
  filters := (value.itemsField "filters").map bench.entryOf

end Bench

end EventPipeline.Workbench
