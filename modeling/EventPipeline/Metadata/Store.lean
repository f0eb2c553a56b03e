import EventPipeline.Metadata.Definition

/-! The metadata store.

Definitions are attached to a type, or to one of its members. Every list keeps the order in which
definitions were applied; members and targets stand in the order in which they were first touched.
A type's own annotations are applied once, when it is first registered. -/

namespace EventPipeline

inductive MetadataKind where
  | controller
  | route
  | middleware
  | extractor
deriving DecidableEq, Repr

inductive MemberAnnotation where
  | route (definition : RouteDefinition)
  | middleware (definition : MiddlewareDefinition)
  | parameter (definition : ExtractorDefinition)
deriving DecidableEq

inductive Annotation where
  | controller (definition : ControllerDefinition)
  | middleware (definition : MiddlewareDefinition)
  | method (name : String) (annotations : List MemberAnnotation)
deriving DecidableEq

structure MemberRecord where
  routes : List RouteDefinition
  middleware : List MiddlewareDefinition
  extractors : List ExtractorDefinition
deriving DecidableEq

namespace MemberRecord

def empty : MemberRecord := ⟨[], [], []⟩

def apply (record : MemberRecord) : MemberAnnotation → MemberRecord
  | .route definition => { record with routes := record.routes ++ [definition] }
  | .middleware definition => { record with middleware := record.middleware ++ [definition] }
  | .parameter definition => { record with extractors := record.extractors ++ [definition] }

def append (record other : MemberRecord) : MemberRecord :=
  ⟨record.routes ++ other.routes, record.middleware ++ other.middleware,
    record.extractors ++ other.extractors⟩

end MemberRecord

structure TargetRecord where
  type : TypeToken
  controllers : List ControllerDefinition
  middleware : List MiddlewareDefinition
  members : List (String × MemberRecord)
deriving DecidableEq

namespace TargetRecord

def empty (type : TypeToken) : TargetRecord := ⟨type, [], [], []⟩

def member? (record : TargetRecord) (name : String) : Option MemberRecord :=
  record.members.lookup name

/-- Changes one member of a list, which is added at the end when it is not there. -/
def changeMember (name : String) (change : MemberRecord → MemberRecord) :
    List (String × MemberRecord) → List (String × MemberRecord)
  | [] => [(name, change .empty)]
  | (other, held) :: rest =>
      if other = name then (other, change held) :: rest
      else (other, held) :: changeMember name change rest

def apply (record : TargetRecord) : Annotation → TargetRecord
  | .controller definition => { record with controllers := record.controllers ++ [definition] }
  | .middleware definition => { record with middleware := record.middleware ++ [definition] }
  | .method name annotations =>
      { record with
        members := changeMember name (fun held => annotations.foldl MemberRecord.apply held)
          record.members }

def ofAnnotations (type : TypeToken) (annotations : List Annotation) : TargetRecord :=
  annotations.foldl apply (empty type)

def absorb (record other : TargetRecord) : TargetRecord :=
  { record with
    controllers := record.controllers ++ other.controllers
    middleware := record.middleware ++ other.middleware
    members := other.members.foldl
      (fun held (name, member) => changeMember name (·.append member) held) record.members }

end TargetRecord

structure MetadataStore where
  records : List TargetRecord
  /-- The types whose own annotations have been applied. -/
  registered : List TypeToken
deriving DecidableEq, Inhabited

namespace MetadataStore

def empty : MetadataStore := ⟨[], []⟩

def record? (store : MetadataStore) (target : TypeToken) : Option TargetRecord :=
  store.records.find? (·.type = target)

def absorbInto (scratch : TargetRecord) : List TargetRecord → List TargetRecord
  | [] => [(TargetRecord.empty scratch.type).absorb scratch]
  | held :: rest =>
      if held.type = scratch.type then held.absorb scratch :: rest
      else held :: absorbInto scratch rest

/-- Attaches definitions to a type. They are recorded first and then appended together. -/
def annotate (store : MetadataStore) (target : TypeToken) (annotations : List Annotation) :
    MetadataStore :=
  { store with
    records := absorbInto (TargetRecord.ofAnnotations target annotations) store.records }

def isRegistered (store : MetadataStore) (target : TypeToken) : Bool :=
  decide (target ∈ store.registered)

/-- Applies a type's own annotations, unless they have been applied. -/
def register (store : MetadataStore) (own : TypeToken → List Annotation) (target : TypeToken) :
    MetadataStore :=
  if store.isRegistered target then store
  else
    let annotated := store.annotate target (own target)
    { annotated with registered := annotated.registered ++ [target] }

def controllers (store : MetadataStore) (target : TypeToken) : List ControllerDefinition :=
  match store.record? target with
  | some record => record.controllers
  | none => []

def classMiddleware (store : MetadataStore) (target : TypeToken) : List MiddlewareDefinition :=
  match store.record? target with
  | some record => record.middleware
  | none => []

def memberRecord (store : MetadataStore) (target : TypeToken) (member : String) : MemberRecord :=
  match store.record? target with
  | some record => (record.member? member).getD .empty
  | none => .empty

def routes (store : MetadataStore) (target : TypeToken) (member : String) :
    List RouteDefinition := (store.memberRecord target member).routes

def memberMiddleware (store : MetadataStore) (target : TypeToken) (member : String) :
    List MiddlewareDefinition := (store.memberRecord target member).middleware

def extractors (store : MetadataStore) (target : TypeToken) (member : String) :
    List ExtractorDefinition := (store.memberRecord target member).extractors

def middleware (store : MetadataStore) (target : TypeToken) :
    Option String → List MiddlewareDefinition
  | none => store.classMiddleware target
  | some member => store.memberMiddleware target member

def members (store : MetadataStore) (target : TypeToken) : List String :=
  match store.record? target with
  | some record => record.members.map (·.1)
  | none => []

def targets (store : MetadataStore) : List TypeToken := store.records.map (·.type)

/-- Whether anything of a kind is attached to a type, or to a member of it when one is named.
Controllers belong to types only, routes and extractors to members only. -/
def hasMetadata (store : MetadataStore) (kind : MetadataKind) (target : TypeToken)
    (member : Option String) : Bool :=
  match store.record? target with
  | none => false
  | some record =>
      match kind, member with
      | .controller, none => !record.controllers.isEmpty
      | .middleware, none => !record.middleware.isEmpty
      | .route, none => false
      | .extractor, none => false
      | .controller, some _ => false
      | .route, some name => ((record.member? name).map (!·.routes.isEmpty)).getD false
      | .middleware, some name => ((record.member? name).map (!·.middleware.isEmpty)).getD false
      | .extractor, some name => ((record.member? name).map (!·.extractors.isEmpty)).getD false

def isController (store : MetadataStore) (target : TypeToken) : Bool :=
  store.hasMetadata .controller target none

theorem isController_eq_false_iff (store : MetadataStore) (target : TypeToken) :
    store.isController target = false ↔ store.controllers target = [] := by
  unfold isController hasMetadata controllers
  cases store.record? target with
  | none => simp
  | some record => simp

def diagnostic (store : MetadataStore) : String :=
  "[" ++ ", ".intercalate (store.targets.map (·.diagnostic)) ++ "]"

end MetadataStore

end EventPipeline
