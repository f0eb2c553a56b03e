import Mathlib.Data.List.Nodup
import EventPipeline.Proofs.Compilation.Enumeration

/-! What the documents of one method depend on.

A route is compiled from the controller definitions and the class middleware of its type and from what its own
member carries. One thing more is read: the extractors of every method that stands as middleware around
it. That method may be any method of any type, another one of the same controller included, so that two
stores which agree on a route need not agree on its documents unless they agree on what it borrows. -/

namespace EventPipeline

/-- Two stores agree on what a type and one of its members say themselves about the member's documents. -/
structure MetadataStore.AgreeOnRoute (target : TypeToken) (member : String)
    (store other : MetadataStore) : Prop where
  controllers : store.controllers target = other.controllers target
  classMiddleware : store.middleware target none = other.middleware target none
  routes : store.routes target member = other.routes target member
  memberMiddleware : store.middleware target (some member) = other.middleware target (some member)
  extractors : store.extractors target member = other.extractors target member

/-- The document runs the member of the type as its handler. -/
def PipelineDocument.isFor (target : TypeToken) (member : String) (document : PipelineDocument) : Bool :=
  document.handler?.any fun handler =>
    decide (handler.activation.target = some target ∧ handler.activation.method = member)

namespace Compilation

/-! ### One route in two stores -/

section Reading

variable {signatures : TypeToken → List MethodSignature} {options : CompilerOptions}
  {store other : MetadataStore}

theorem extractorRecipes_congr {target : TypeToken} {method : String}
    (same : store.extractors target method = other.extractors target method) :
    extractorRecipes ⟨signatures, store, options⟩ target method =
      extractorRecipes ⟨signatures, other, options⟩ target method := by
  unfold extractorRecipes
  simp only [same]
  rfl

theorem map_around_inj {α β : Type} {f g : α → β} {middle : β} {before after : List α} :
    before.map f ++ middle :: after.map f = before.map g ++ middle :: after.map g ↔
      ∀ element ∈ before ++ after, f element = g element := by
  constructor
  · intro same
    obtain ⟨front, back⟩ := List.append_inj same (by rw [List.length_map, List.length_map])
    obtain ⟨_, rest⟩ := List.cons.inj back
    intro element among
    rcases List.mem_append.mp among with here | there
    · exact List.map_inj_left.mp front element here
    · exact List.map_inj_left.mp rest element there
  · intro same
    have front := List.map_inj_left.mpr fun element here => same element (List.mem_append_left _ here)
    have back := List.map_inj_left.mpr fun element there => same element (List.mem_append_right _ there)
    rw [front, back]

variable {target : TypeToken} {member : String} (agree : store.AgreeOnRoute target member other)

include agree

theorem filterStack_congr (controller : ControllerDefinition) :
    filterStack ⟨signatures, store, options⟩ target member controller =
      filterStack ⟨signatures, other, options⟩ target member controller := by
  unfold filterStack
  simp only [← agree.routes]
  rfl

/-- Stacks have the same entries at the same places, so they are equal when all borrowed recipes are. -/
theorem middlewareStack_eq_iff (controller : ControllerDefinition) :
    middlewareStack ⟨signatures, store, options⟩ target member controller =
        middlewareStack ⟨signatures, other, options⟩ target member controller ↔
      ∀ definition ∈ declaredMiddleware ⟨signatures, store, options⟩ target member,
        extractorRecipes ⟨signatures, store, options⟩ definition.type definition.method =
          extractorRecipes ⟨signatures, other, options⟩ definition.type definition.method := by
  have handler : handlerEntry ⟨signatures, store, options⟩ target member controller =
      handlerEntry ⟨signatures, other, options⟩ target member controller := by
    unfold handlerEntry
    rw [extractorRecipes_congr agree.extractors]
  have entry : ∀ definition,
      declaredEntry ⟨signatures, store, options⟩ definition =
          declaredEntry ⟨signatures, other, options⟩ definition ↔
        extractorRecipes ⟨signatures, store, options⟩ definition.type definition.method =
          extractorRecipes ⟨signatures, other, options⟩ definition.type definition.method := by
    intro definition
    simp [declaredEntry]
  have parts : ∀ definition,
      definition ∈ (early (store.middleware target none) ++
          early (store.middleware target (some member))) ++
        (late (store.middleware target (some member)) ++ late (store.middleware target none)) ↔
      definition ∈ declaredMiddleware ⟨signatures, store, options⟩ target member := by
    intro definition
    have ofClass := (early_append_late_perm (store.middleware target none)).mem_iff (a := definition)
    have ofMember := (early_append_late_perm (store.middleware target (some member))).mem_iff
      (a := definition)
    simp only [declaredMiddleware, List.mem_append] at ofClass ofMember ⊢
    rw [← ofClass, ← ofMember]
    tauto
  rw [middlewareStack_eq, middlewareStack_eq, handler]
  simp only [entriesBefore, entriesAfter, ← agree.classMiddleware, ← agree.memberMiddleware,
    ← List.map_append, map_around_inj, entry, parts]

theorem compileRoute_eq_iff (controller : ControllerDefinition) :
    compileRoute ⟨signatures, store, options⟩ target member controller =
        compileRoute ⟨signatures, other, options⟩ target member controller ↔
      ∀ definition ∈ declaredMiddleware ⟨signatures, store, options⟩ target member,
        extractorRecipes ⟨signatures, store, options⟩ definition.type definition.method =
          extractorRecipes ⟨signatures, other, options⟩ definition.type definition.method := by
  unfold compileRoute
  rw [PipelineDocument.mk.injEq, middlewareStack_eq_iff agree, filterStack_congr agree]
  simp

end Reading

/-! ### The documents of one member -/

section Documents

variable (compilation : Compilation)

def documentsFor (target : TypeToken) (member : String) (candidates : List TypeToken) :
    List PipelineDocument :=
  (compilation.compile candidates).filter (·.isFor target member)

/-- The documents of a member under each controller definition, if it carries a route. -/
def documentsOnce (target : TypeToken) (member : String) : List PipelineDocument :=
  if member ∈ compilation.routableMembers target then
    (compilation.store.controllers target).map (compilation.compileRoute target member)
  else []

theorem isFor_compileRoute (target type : TypeToken) (member route : String)
    (controller : ControllerDefinition) :
    (compilation.compileRoute type route controller).isFor target member =
      decide (type = target ∧ route = member) := by
  unfold PipelineDocument.isFor
  rw [handler?_compileRoute]
  simp [handlerEntry]

theorem filter_eq_of_nodup {names : List String} (distinct : names.Nodup) (wanted : String) :
    names.filter (fun name => decide (name = wanted)) = if wanted ∈ names then [wanted] else [] := by
  rw [List.filter_eq]
  split
  · next among => rw [List.count_eq_one_of_mem distinct among, List.replicate_one]
  · next absent => rw [List.count_eq_zero_of_not_mem absent, List.replicate_zero]

theorem flatMap_only {α : Type} (target : TypeToken) (elements : List α) (candidates : List TypeToken) :
    (candidates.flatMap fun type => if type = target then elements else []) =
      (List.replicate (candidates.count target) elements).flatten := by
  induction candidates with
  | nil => rfl
  | cons type rest ih =>
    rw [List.flatMap_cons, ih]
    by_cases here : type = target
    · subst here
      rw [if_pos rfl, List.count_cons_self, List.replicate_succ, List.flatten_cons]
    · rw [if_neg here, List.nil_append, List.count_cons_of_ne here]

theorem documentsFor_eq {target : TypeToken} (member : String)
    (distinct : (compilation.routableMembers target).Nodup) (candidates : List TypeToken) :
    compilation.documentsFor target member candidates =
      (List.replicate (candidates.count target) (compilation.documentsOnce target member)).flatten := by
  unfold documentsFor
  rw [compile_eq, List.filter_flatMap, ← flatMap_only]
  congr 1
  funext type
  rw [List.filter_flatMap]
  -- Of its own type the filter keeps one document for each controller definition, of another type none.
  by_cases here : type = target
  · subst here
    have kept : ∀ controller,
        ((compilation.routableMembers type).map fun route =>
            compilation.compileRoute type route controller).filter (·.isFor type member) =
          if member ∈ compilation.routableMembers type then
            [compilation.compileRoute type member controller]
          else [] := by
      intro controller
      have wanted : (fun route =>
          (compilation.compileRoute type route controller).isFor type member) =
            fun route => decide (route = member) := by
        funext route
        rw [isFor_compileRoute]
        simp
      rw [List.filter_map, Function.comp_def, wanted, filter_eq_of_nodup distinct]
      split
      · rfl
      · rfl
    rw [if_pos rfl, documentsOnce]
    simp only [kept]
    split
    · rw [← List.map_eq_flatMap]
    · simp
  · have none_kept : ∀ controller,
        ((compilation.routableMembers type).map fun route =>
            compilation.compileRoute type route controller).filter (·.isFor target member) = [] := by
      intro controller
      rw [List.filter_eq_nil_iff]
      intro document among
      obtain ⟨route, _, rfl⟩ := List.mem_map.mp among
      rw [isFor_compileRoute]
      simp [here]
    rw [if_neg here, List.flatMap_eq_nil_iff]
    exact fun controller _ => none_kept controller

end Documents

variable {compilation : Compilation} {log : AnnotationLog}

theorem mem_routableMembers_iff (reflects : compilation.store.Reflects log) {target : TypeToken}
    {member : String} :
    member ∈ compilation.routableMembers target ↔ compilation.store.routes target member ≠ [] := by
  rw [routableMembers_eq_routedMembers reflects, AnnotationLog.mem_routedMembers_iff, reflects.routes]
  exact ⟨And.right, fun routed => ⟨AnnotationLog.mem_members_of_routes routed, routed⟩⟩

end Compilation

/-- The documents of a member depend on its surroundings only. Let two stores agree on the controller
definitions and the class middleware of its type and on its own routes, middleware and extractors. Then the
member is routable in both or in neither, and it is compiled alike just when the methods around it have
equal extractor recipes. So when the stores agree on the extractors of these methods as well, any two lists
of candidates that have the type equally often yield the same documents for the member, in the same order:
one for each time and each controller definition. -/
theorem documents_local (signatures : TypeToken → List MethodSignature) (options : CompilerOptions)
    (own otherOwn : TypeToken → List Annotation) (calls otherCalls : List MetadataStore.Call)
    (target : TypeToken) (member : String)
    (agree : (MetadataStore.ofCalls own calls).AgreeOnRoute target member
      (MetadataStore.ofCalls otherOwn otherCalls)) :
    let first : Compilation := ⟨signatures, MetadataStore.ofCalls own calls, options⟩
    let second : Compilation := ⟨signatures, MetadataStore.ofCalls otherOwn otherCalls, options⟩
    (member ∈ first.routableMembers target ↔ member ∈ second.routableMembers target) ∧
    (∀ controller, first.compileRoute target member controller =
        second.compileRoute target member controller ↔
      ∀ definition ∈ first.declaredMiddleware target member,
        first.extractorRecipes definition.type definition.method =
          second.extractorRecipes definition.type definition.method) ∧
    ((∀ definition ∈ first.declaredMiddleware target member,
        first.store.extractors definition.type definition.method =
          second.store.extractors definition.type definition.method) →
      ∀ candidates otherCandidates : List TypeToken,
        candidates.count target = otherCandidates.count target →
          first.documentsFor target member candidates =
            second.documentsFor target member otherCandidates ∧
          (member ∈ first.routableMembers target →
            first.documentsFor target member candidates =
              (List.replicate (candidates.count target)
                ((first.store.controllers target).map fun controller =>
                  first.compileRoute target member controller)).flatten)) := by
  intro first second
  have reflects : first.store.Reflects (MetadataStore.applications own [] calls) :=
    MetadataStore.ofCalls_reflects own calls
  have otherReflects : second.store.Reflects (MetadataStore.applications otherOwn [] otherCalls) :=
    MetadataStore.ofCalls_reflects otherOwn otherCalls
  have routable : member ∈ first.routableMembers target ↔ member ∈ second.routableMembers target := by
    have routes : first.store.routes target member = second.store.routes target member := agree.routes
    rw [Compilation.mem_routableMembers_iff reflects, Compilation.mem_routableMembers_iff otherReflects,
      routes]
  refine ⟨routable, Compilation.compileRoute_eq_iff agree, ?_⟩
  intro borrowed candidates otherCandidates often
  have compiled : ∀ controller, first.compileRoute target member controller =
      second.compileRoute target member controller := by
    intro controller
    rw [Compilation.compileRoute_eq_iff agree]
    exact fun definition among => Compilation.extractorRecipes_congr (borrowed definition among)
  have listed := first.documentsFor_eq member
    (Compilation.nodup_routableMembers reflects target) candidates
  have otherListed := second.documentsFor_eq member
    (Compilation.nodup_routableMembers otherReflects target) otherCandidates
  have once : first.documentsOnce target member = second.documentsOnce target member := by
    have controllers : first.store.controllers target = second.store.controllers target :=
      agree.controllers
    unfold Compilation.documentsOnce
    rw [controllers, funext compiled]
    simp only [routable]
  constructor
  · rw [listed, otherListed, once, often]
  · intro routed
    rw [listed, Compilation.documentsOnce, if_pos routed]

/-! ### A controller that is its own middleware -/

def quay : TypeToken := ⟨0, "harbour::QuayController"⟩
def crane : TypeToken := ⟨1, "harbour::CraneController"⟩
def scale : TypeToken := ⟨2, "harbour::Scale"⟩

def quayAnnotations (weighing : List MemberAnnotation) : List Annotation :=
  [.controller .perCall, .controller ⟨true, some scale, OrderedMap.empty⟩,
    .method "moor" [.route .unfiltered, .middleware (.before quay "weigh"), .parameter (.untyped 1)],
    .method "weigh" weighing]

def quietHarbour : List MetadataStore.Call :=
  [.annotate quay (quayAnnotations [.parameter (.typed 0 scale)])]

def busyHarbour : List MetadataStore.Call :=
  [.annotate crane [.controller .perCall, .method "moor" [.route .unfiltered]],
    .annotate quay [.method "cast" [.route (.guarded scale), .parameter (.untyped 0)]],
    .register quay]

def busyOwn : TypeToken → List Annotation :=
  fun _ => quayAnnotations [.parameter (.typed 0 scale)]

theorem documents_of_quay :
    (MetadataStore.ofCalls (fun _ => []) quietHarbour).AgreeOnRoute quay "moor"
      (MetadataStore.ofCalls busyOwn busyHarbour) ∧
    let quiet : Compilation :=
      ⟨fun _ => [], MetadataStore.ofCalls (fun _ => []) quietHarbour, .standard⟩
    let busy : Compilation := ⟨fun _ => [], MetadataStore.ofCalls busyOwn busyHarbour, .standard⟩
    quiet.documentsFor quay "moor" [quay] = busy.documentsFor quay "moor" [crane, quay] ∧
    (quiet.documentsFor quay "moor" [quay]).length = 2 ∧
    busy.store.targets = [crane, quay] ∧ busy.store.members quay = ["cast", "moor", "weigh"] := by
  have agree : (MetadataStore.ofCalls (fun _ => []) quietHarbour).AgreeOnRoute quay "moor"
      (MetadataStore.ofCalls busyOwn busyHarbour) :=
    ⟨by decide, by decide, by decide, by decide, by decide⟩
  obtain ⟨_, _, documents⟩ := documents_local (fun _ => []) .standard (fun _ => []) busyOwn quietHarbour
    busyHarbour quay "moor" agree
  obtain ⟨same, counted⟩ := documents (by decide) [quay] [crane, quay] (by decide)
  refine ⟨agree, same, ?_, by decide, by decide⟩
  have routed : "moor" ∈ Compilation.routableMembers
      ⟨fun _ => [], MetadataStore.ofCalls (fun _ => []) quietHarbour, .standard⟩ quay := by
    rw [Compilation.mem_routableMembers_iff (MetadataStore.ofCalls_reflects _ _)]
    decide
  rw [counted routed]
  decide

/-- Agreement on the route alone is not enough: two harbours that differ in how ships are weighed have
different documents for mooring. -/
example :
    let own : MetadataStore := .ofCalls (fun _ => []) quietHarbour
    let other : MetadataStore := .ofCalls (fun _ => []) [.annotate quay (quayAnnotations [])]
    own.controllers quay = other.controllers quay ∧
    own.middleware quay none = other.middleware quay none ∧
    own.memberRecord quay "moor" = other.memberRecord quay "moor" ∧
    Compilation.compileRoute ⟨fun _ => [], own, .standard⟩ quay "moor" .perCall ≠
      Compilation.compileRoute ⟨fun _ => [], other, .standard⟩ quay "moor" .perCall := by
  decide

end EventPipeline
