import EventPipeline.Builtin.Filters
import EventPipeline.Framework
import EventPipeline.Proofs.Compilation.MiddlewareStack
import EventPipeline.Proofs.Metadata.History
import EventPipeline.Proofs.Routing.Verdicts

/-! Where the annotations of a program lead an event.

Compiled documents say of themselves which handler they have and which filters stand before it. So the
handlers that an event should reach can be read off the log of annotations, without any document. -/

namespace EventPipeline

open Json

/-! ### Verdicts on definitions -/

/-- What a filter of some type makes of an event. One type looks for an event type in its
configuration, every other accepts. -/
def admits (ifEvent type : TypeToken) (event : Event) (configuration : Configuration) : Bool :=
  if type = ifEvent then
    decide (configuration.get? Builtin.acceptedTypeKey = some (.string event.type))
  else true

/-- The filter of the controller, if there is one, accepts the event by the controller's own
configuration. -/
def ControllerDefinition.admits (ifEvent : TypeToken) (event : Event)
    (definition : ControllerDefinition) : Bool :=
  definition.filter.all fun type => EventPipeline.admits ifEvent type event definition.configuration

def RouteDefinition.admits (ifEvent : TypeToken) (event : Event) (definition : RouteDefinition) :
    Bool :=
  definition.filter.all fun type => EventPipeline.admits ifEvent type event definition.configuration

def Recipe.admits (ifEvent : TypeToken) (event : Event) (recipe : Recipe) : Bool :=
  recipe.type.all fun type => EventPipeline.admits ifEvent type event recipe.configuration

namespace Compilation

variable (compilation : Compilation)

theorem get?_deriveContext (configuration : Configuration) (name : String) {key : String}
    (other : key ≠ Configuration.contextKey) :
    (compilation.deriveContext configuration name).get? key = configuration.get? key := by
  unfold deriveContext Configuration.withDefaultContext
  split
  · split
    · rfl
    · rw [OrderedMap.get?_insert, if_neg other]
  · rfl

theorem admits_deriveContext (ifEvent type : TypeToken) (event : Event)
    (configuration : Configuration) (name : String) :
    admits ifEvent type event (compilation.deriveContext configuration name) =
      admits ifEvent type event configuration := by
  have other : Builtin.acceptedTypeKey ≠ Configuration.contextKey := by decide
  unfold admits
  rw [compilation.get?_deriveContext configuration name other]

theorem filters_compileRoute (ifEvent : TypeToken) (event : Event) (target : TypeToken)
    (route : String) (controller : ControllerDefinition) :
    (compilation.compileRoute target route controller).filters.all
        (anyVerdict (Recipe.admits ifEvent event)) =
      (controller.admits ifEvent event &&
        (compilation.store.routes target route).all (RouteDefinition.admits ifEvent event)) := by
  have single : ∀ recipe, anyVerdict (Recipe.admits ifEvent event) (.one recipe) =
      recipe.admits ifEvent event := fun recipe => Bool.or_false _
  have routes : ((compilation.store.routes target route).map fun definition =>
        OneOrMany.one (Recipe.mk definition.filter
          (compilation.deriveContext definition.configuration route))).all
        (anyVerdict (Recipe.admits ifEvent event)) =
      (compilation.store.routes target route).all (RouteDefinition.admits ifEvent event) := by
    rw [List.all_map]
    congr 1
    funext definition
    simp only [Function.comp_apply, single, Recipe.admits, admits_deriveContext]
    rfl
  unfold compileRoute filterStack
  rw [List.all_append, routes]
  congr 1
  unfold ControllerDefinition.admits
  cases controller.filter with
  | none => rfl
  | some type =>
    simp only [List.all_cons, List.all_nil, Bool.and_true, single, Recipe.admits,
      admits_deriveContext, Option.all_some]

theorem route?_eq_none {entry : MiddlewareDocument} {priority : Int}
    (named : entry.priority = some priority) : entry.route? = none := by
  unfold MiddlewareDocument.route?
  rw [named]
  rfl

theorem routes_middlewareStack (target : TypeToken) (route : String)
    (controller : ControllerDefinition) :
    (compilation.middlewareStack target route controller).filterMap MiddlewareDocument.route? =
      [(target, route)] := by
  have before : (compilation.entriesBefore target route).filterMap MiddlewareDocument.route? = [] := by
    rw [List.filterMap_eq_nil_iff]
    intro entry member
    obtain ⟨priority, named, _⟩ := compilation.priority_of_mem_entriesBefore member
    exact route?_eq_none named
  have after : (compilation.entriesAfter target route).filterMap MiddlewareDocument.route? = [] := by
    rw [List.filterMap_eq_nil_iff]
    intro entry member
    obtain ⟨priority, named, _⟩ := compilation.priority_of_mem_entriesAfter member
    exact route?_eq_none named
  have handler : (compilation.handlerEntry target route controller).route? = some (target, route) :=
    rfl
  rw [middlewareStack_eq, List.filterMap_append, before, List.filterMap_cons, handler, after]
  rfl

theorem cached_middlewareStack {target : TypeToken} {route : String}
    {controller : ControllerDefinition} {entry : MiddlewareDocument}
    (member : entry ∈ compilation.middlewareStack target route controller) :
    entry.activation.cached = none := by
  rw [middlewareStack_eq] at member
  simp only [entriesBefore, entriesAfter, List.mem_append, List.mem_cons, List.mem_map] at member
  rcases member with (⟨_, _, rfl⟩ | ⟨_, _, rfl⟩) | rfl | ⟨_, _, rfl⟩ | ⟨_, _, rfl⟩ <;> rfl

theorem compile_filter (candidates : List TypeToken) :
    compilation.compile (candidates.filter compilation.store.isController) =
      compilation.compile candidates := by
  unfold compile
  congr 1
  induction candidates with
  | nil => rfl
  | cons target rest ih =>
    rw [List.filter_cons, List.flatMap_cons]
    by_cases controls : compilation.store.isController target = true
    · rw [if_pos controls, List.flatMap_cons, ih]
    · have nothing : compilation.compileCandidate target = [] := by
        unfold compileCandidate
        rw [if_neg controls]
      rw [if_neg controls, ih, nothing, List.nil_append]

theorem mem_compile_iff {candidates : List TypeToken} {document : PipelineDocument} :
    document ∈ compilation.compile candidates ↔
      ∃ target ∈ candidates, ∃ controller ∈ compilation.store.controllers target,
        ∃ route ∈ compilation.routableMembers target,
          compilation.compileRoute target route controller = document := by
  rw [compile_eq]
  simp only [List.mem_flatMap, List.mem_map]

end Compilation

/-! ### From the log -/

def Annotation.filters : Annotation → List TypeToken
  | .controller definition => definition.filter.toList
  | .middleware _ => []
  | .method _ annotations => annotations.filterMap fun note => note.route?.bind (·.filter)

namespace AnnotationLog

def filters (log : AnnotationLog) : List TypeToken :=
  log.flatMap fun entry => entry.2.flatMap Annotation.filters

/-- The members with a route: those in the method table in its order, then the others as they were
annotated. -/
def routable (log : AnnotationLog) (table : List MethodSignature) (target : TypeToken) :
    List String :=
  ((log.members target).filter fun member => !(log.routes target member).isEmpty).mergeSort
    fun a b => decide (Compilation.tablePosition table a ≤ Compilation.tablePosition table b)

/-- The handlers that an event should reach. A handler stands once for every definition of its
controller that accepts the event, if all its own routes accept it too. -/
def routed (log : AnnotationLog) (signatures : TypeToken → List MethodSignature)
    (ifEvent : TypeToken) (event : Event) : List (TypeToken × String) :=
  log.targets.flatMap fun target =>
    (log.controllers target).flatMap fun controller =>
      ((log.routable (signatures target) target).filter fun route =>
        controller.admits ifEvent event &&
          (log.routes target route).all (RouteDefinition.admits ifEvent event)).map (target, ·)

theorem routable_nil (log : AnnotationLog) (target : TypeToken) :
    log.routable [] target =
      (log.members target).filter fun member => !(log.routes target member).isEmpty := by
  apply List.mergeSort_of_pairwise
  apply List.pairwise_of_forall
  intro first second
  rfl

theorem mem_filters_of_applied {log : AnnotationLog} {target : TypeToken} {note : Annotation}
    (applied : note ∈ log.appliedTo target) {type : TypeToken} (asked : type ∈ note.filters) :
    type ∈ log.filters := by
  unfold appliedTo at applied
  obtain ⟨entry, among, inside⟩ := List.mem_flatMap.mp applied
  have listed : entry ∈ log := (List.mem_filter.mp among).1
  exact List.mem_flatMap.mpr ⟨entry, listed, List.mem_flatMap.mpr ⟨note, inside, asked⟩⟩

theorem mem_filters_of_controller {log : AnnotationLog} {target : TypeToken}
    {definition : ControllerDefinition} (declared : definition ∈ log.controllers target)
    {type : TypeToken} (asked : definition.filter = some type) : type ∈ log.filters := by
  obtain ⟨note, applied, same⟩ := List.mem_filterMap.mp declared
  refine mem_filters_of_applied applied ?_
  cases note with
  | controller held =>
    obtain rfl := Option.some.inj same
    exact Option.mem_toList.mpr asked
  | middleware held => cases same
  | method name annotations => cases same

theorem mem_filters_of_route {log : AnnotationLog} {target : TypeToken} {member : String}
    {definition : RouteDefinition} (declared : definition ∈ log.routes target member)
    {type : TypeToken} (asked : definition.filter = some type) : type ∈ log.filters := by
  obtain ⟨part, among, same⟩ := List.mem_filterMap.mp declared
  obtain ⟨note, applied, inside⟩ := List.mem_flatMap.mp among
  obtain ⟨annotations, rfl, declares⟩ := Annotation.method_of_applied inside
  refine mem_filters_of_applied applied (List.mem_filterMap.mpr ⟨part, declares, ?_⟩)
  rw [same]
  exact asked

end AnnotationLog

theorem flatMap_ite_singleton {α β : Type} (keep : α → Bool) (f : α → β) (elements : List α) :
    (elements.flatMap fun element => if keep element then [f element] else []) =
      (elements.filter keep).map f := by
  induction elements with
  | nil => rfl
  | cons first rest ih =>
    rw [List.flatMap_cons, List.filter_cons, ih]
    split
    · rfl
    · rfl

namespace Compilation

variable {compilation : Compilation} {log : AnnotationLog}
  (reflects : compilation.store.Reflects log)

include reflects

theorem routableMembers_eq (target : TypeToken) :
    compilation.routableMembers target = log.routable (compilation.signatures target) target := by
  unfold routableMembers AnnotationLog.routable
  simp only [MetadataStore.hasMetadata_route, reflects.members, reflects.routes]

/-- Documents that were compiled from what the store holds lead an event to the handlers that the log
says. -/
theorem handlers_compile (ifEvent : TypeToken) (event : Event) :
    ((compilation.compile compilation.store.targets).flatMap fun document =>
        if document.filters.all (anyVerdict (Recipe.admits ifEvent event)) then
          document.middleware.filterMap MiddlewareDocument.route? else []) =
      log.routed compilation.signatures ifEvent event := by
  unfold AnnotationLog.routed
  rw [compile_eq, List.flatMap_assoc, reflects.targets]
  congr 1
  funext target
  rw [List.flatMap_assoc, reflects.controllers]
  congr 1
  funext controller
  have stack : ∀ route, (compilation.compileRoute target route controller).middleware.filterMap
      MiddlewareDocument.route? = [(target, route)] :=
    fun route => compilation.routes_middlewareStack target route controller
  rw [List.flatMap_map, routableMembers_eq reflects, ← flatMap_ite_singleton]
  congr 1
  funext route
  rw [filters_compileRoute, stack, reflects.routes]

theorem filters_from_log {candidates : List TypeToken} {document : PipelineDocument}
    (compiled : document ∈ compilation.compile candidates) {entry : OneOrMany Recipe}
    (listed : entry ∈ document.filters) {recipe : Recipe} (member : recipe ∈ entry.toList)
    {type : TypeToken} (named : recipe.type = some type) : type ∈ log.filters := by
  obtain ⟨target, _, controller, declared, route, _, rfl⟩ :=
    compilation.mem_compile_iff.mp compiled
  unfold compileRoute filterStack at listed
  rcases List.mem_append.mp listed with ofController | ofRoute
  · split at ofController
    · next filter asked =>
      rw [List.mem_singleton.mp ofController] at member
      rw [List.mem_singleton.mp member] at named
      obtain rfl := Option.some.inj named
      rw [reflects.controllers] at declared
      exact AnnotationLog.mem_filters_of_controller declared asked
    · cases ofController
  · obtain ⟨definition, attached, rfl⟩ := List.mem_map.mp ofRoute
    rw [List.mem_singleton.mp member] at named
    rw [reflects.routes] at attached
    exact AnnotationLog.mem_filters_of_route attached named

end Compilation

end EventPipeline
