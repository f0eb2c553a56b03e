import Mathlib.Data.List.Forall2
import EventPipeline.Proofs.Compilation.Grouping
import EventPipeline.Proofs.Compilation.MiddlewareStack

/-! Where context names come from.

A recipe carries the configuration of its definition. When the options ask for it, a context name is filled
in: that of the controller for its own filter, that of the method for the filters of its routes, and that
of the parameter for an extractor. Nothing is ever overwritten and nothing else is touched, so that two
compilations that differ in this option differ in nothing but the names that are filled in. -/

namespace EventPipeline

open Json

/-! ### Names -/

theorem Configuration.get?_withDefaultContext (configuration : Configuration) (name key : String) :
    (configuration.withDefaultContext name).get? key =
      (configuration.get? key).or (if key = contextKey then some (.string name) else none) := by
  unfold withDefaultContext OrderedMap.contains
  by_cases same : key = contextKey
  · subst same
    rw [if_pos rfl]
    cases held : configuration.get? contextKey with
    | some value => simp [held]
    | none => simp
  · rw [if_neg same, Option.or_none]
    split
    · rfl
    · rw [OrderedMap.get?_insert, if_neg same]

/-- The short name of a controller without a suffix, as long as something is left of it; else the whole
name. -/
def NamesController (suffix shortName name : String) : Prop :=
  name ≠ "" ∧ shortName = name ++ suffix ∨
    name = shortName ∧ ∀ rest, rest ≠ "" → shortName ≠ rest ++ suffix

theorem stripSuffix_names (name suffix : String) :
    NamesController suffix name (Compilation.stripSuffix name suffix) := by
  have lengths : ∀ rest, name = rest ++ suffix → name.length - suffix.length = rest.length := by
    rintro rest rfl
    rw [String.length_append]
    omega
  simp only [Compilation.stripSuffix]
  split
  · next strips =>
    obtain ⟨⟨front, shape⟩, kept⟩ := strips
    have divided : name = String.ofList front ++ suffix := by
      rw [← String.toList_inj, String.toList_append, String.toList_ofList, shape]
    have short : name.length - suffix.length = front.length := by
      rw [lengths _ divided, String.length_ofList]
    have taken : name.toList.take (name.length - suffix.length) = front := by
      rw [short, ← shape, List.take_left]
    refine .inl ⟨?_, ?_⟩
    · intro empty
      rw [taken] at empty
      have nothing := congrArg String.length empty
      rw [String.length_ofList] at nothing
      rw [short, nothing] at kept
      exact Nat.lt_irrefl 0 kept
    · rw [taken]
      exact divided
  · next whole =>
    refine .inr ⟨rfl, ?_⟩
    intro rest nonempty same
    apply whole
    refine ⟨⟨rest.toList, by rw [same, String.toList_append]⟩, ?_⟩
    rw [lengths rest same]
    exact Nat.pos_of_ne_zero fun nothing => nonempty (String.length_eq_zero_iff.mp nothing)

/-- The name of a parameter in the first signature of a method, if it has one. -/
def NamesParameter (table : List MethodSignature) (method : String) (index : Nat) (name : String) :
    Prop :=
  name ≠ "" ∧ ∃ before signature after, table = before ++ signature :: after ∧
    signature.name = method ∧ (∀ other ∈ before, other.name ≠ method) ∧
    signature.parameters[index]? = some name

theorem names_parameter_iff (table : List MethodSignature) (method : String) (index : Nat)
    (name : String) :
    (findSignature? table method).bind (·.parameterName? index) = some name ↔
      NamesParameter table method index name := by
  unfold findSignature? NamesParameter
  constructor
  · intro found
    obtain ⟨signature, first, named⟩ := Option.bind_eq_some_iff.mp found
    obtain ⟨right, before, after, shape, earlier⟩ := List.find?_eq_some_iff_append.mp first
    unfold MethodSignature.parameterName? at named
    obtain ⟨listed, visible⟩ := Option.filter_eq_some_iff.mp named
    refine ⟨?_, before, signature, after, shape, beq_iff_eq.mp right, ?_, listed⟩
    · rintro rfl
      cases visible
    · intro other among same
      simpa [same] using earlier other among
  · rintro ⟨nonempty, before, signature, after, shape, right, earlier, listed⟩
    refine Option.bind_eq_some_iff.mpr ⟨signature, ?_, ?_⟩
    · refine List.find?_eq_some_iff_append.mpr ⟨beq_iff_eq.mpr right, before, after, shape, ?_⟩
      intro other among
      simpa using earlier other among
    · unfold MethodSignature.parameterName?
      refine Option.filter_eq_some_iff.mpr ⟨listed, ?_⟩
      simpa [String.isEmpty_iff] using nonempty

/-! ### Provisions -/

/-- What a definition says of its recipe, and the context that the recipe is for. -/
structure Provision where
  type : Option TypeToken
  configuration : Configuration
  context : Option String

/-- A recipe with the configuration of its definition. When names are derived, the context is filled in
unless the definition says something of it. -/
structure Provision.Gives (derives : Bool) (provision : Provision) (recipe : Recipe) : Prop where
  type : recipe.type = provision.type
  verbatim : derives = false → recipe.configuration = provision.configuration
  named : derives = true → ∀ key, recipe.configuration.get? key =
    (provision.configuration.get? key).or
      (if key = Configuration.contextKey then provision.context.map .string else none)

def Recipe.unnamed (recipe : Recipe) : Recipe :=
  { recipe with configuration := recipe.configuration.erase Configuration.contextKey }

def Provision.unnamed (provision : Provision) : Recipe :=
  ⟨provision.type, provision.configuration.erase Configuration.contextKey⟩

theorem Provision.Gives.unnamed {derives : Bool} {provision : Provision} {recipe : Recipe}
    (gives : provision.Gives derives recipe) : recipe.unnamed = provision.unnamed := by
  have same : recipe.configuration.erase Configuration.contextKey =
      provision.configuration.erase Configuration.contextKey := by
    cases derives with
    | false => rw [gives.verbatim rfl]
    | true =>
      apply OrderedMap.ext_get?
      intro key
      rw [OrderedMap.get?_erase, OrderedMap.get?_erase, gives.named rfl]
      by_cases context : key = Configuration.contextKey
      · rw [if_pos context, if_pos context]
      · rw [if_neg context, if_neg context, if_neg context, Option.or_none]
  unfold Recipe.unnamed Provision.unnamed
  rw [gives.type, same]

def MiddlewareDocument.unnamed (document : MiddlewareDocument) : MiddlewareDocument :=
  { document with
    extractors := document.extractors.mapValues fun _ entry => entry.map Recipe.unnamed }

def PipelineDocument.unnamed (document : PipelineDocument) : PipelineDocument :=
  ⟨document.middleware.map MiddlewareDocument.unnamed,
    document.filters.map (OneOrMany.map Recipe.unnamed)⟩

/-- What a document is compiled for. -/
structure Route where
  target : TypeToken
  controller : ControllerDefinition
  member : String

namespace Compilation

variable (compilation : Compilation)

def routes (candidates : List TypeToken) : List Route :=
  candidates.flatMap fun target =>
    (compilation.store.controllers target).flatMap fun controller =>
      (compilation.routableMembers target).map fun member => ⟨target, controller, member⟩

theorem compile_eq_map_routes (candidates : List TypeToken) :
    compilation.compile candidates =
      (compilation.routes candidates).map fun route =>
        compilation.compileRoute route.target route.member route.controller := by
  unfold routes
  rw [compile_eq]
  simp only [List.map_flatMap, List.map_map, Function.comp_def]

/-- The filters of a route: the controller's own, if it has one, and then those of the member as they
were declared. -/
def filterProvisions (route : Route) : List Provision :=
  (route.controller.filter.map fun filter =>
      ⟨some filter, route.controller.configuration,
        some (compilation.controllerContext route.target)⟩).toList ++
    (compilation.store.routes route.target route.member).map fun definition =>
      ⟨definition.filter, definition.configuration, some route.member⟩

/-- Only an extractor that has a type is for a context. -/
def parameterProvision (target : TypeToken) (method : String) (definition : ExtractorDefinition) :
    Provision :=
  ⟨definition.type, definition.configuration,
    if definition.type.isSome then
      (findSignature? (compilation.signatures target) method).bind
        (·.parameterName? definition.index.toNat)
    else none⟩

theorem gives_deriveContext (type : Option TypeToken) (configuration : Configuration) (name : String) :
    Provision.Gives compilation.options.deriveContextNames ⟨type, configuration, some name⟩
      ⟨type, compilation.deriveContext configuration name⟩ := by
  refine ⟨rfl, ?_, ?_⟩
  · intro off
    simp only [deriveContext, off, Bool.false_eq_true, ↓reduceIte]
  · intro on key
    simp only [deriveContext, on, ↓reduceIte, Configuration.get?_withDefaultContext, Option.map_some]

theorem gives_definition (derives : Bool) (type : Option TypeToken) (configuration : Configuration) :
    Provision.Gives derives ⟨type, configuration, none⟩ ⟨type, configuration⟩ := by
  refine ⟨rfl, fun _ => rfl, ?_⟩
  intro _ key
  simp

theorem gives_parameterRecipe (target : TypeToken) (method : String)
    (definition : ExtractorDefinition) :
    (compilation.parameterProvision target method definition).Gives
      compilation.options.deriveContextNames
      (compilation.parameterRecipe target method definition) := by
  unfold parameterProvision parameterRecipe extractorRecipe
  cases typed : definition.type with
  | none => exact gives_definition ..
  | some type =>
    simp only [Option.isSome_some, ↓reduceIte]
    cases (findSignature? (compilation.signatures target) method).bind
        (·.parameterName? definition.index.toNat) with
    | none => exact gives_definition ..
    | some name => exact compilation.gives_deriveContext ..

theorem context_parameterProvision (target : TypeToken) (method : String)
    (definition : ExtractorDefinition) (name : String) :
    (compilation.parameterProvision target method definition).context = some name ↔
      definition.type ≠ none ∧
        NamesParameter (compilation.signatures target) method definition.index.toNat name := by
  unfold parameterProvision
  cases definition.type with
  | none => simp
  | some type => simp [names_parameter_iff]

end Compilation

/-- What a document carries for its route: a single recipe for each filter, and for every parameter of
every step the recipes of the definitions that are for it. -/
structure Route.Describes (compilation : Compilation) (route : Route) (document : PipelineDocument) :
    Prop where
  handler : ∃ handler, document.handler? = some handler ∧
    handler.activation.target = some route.target ∧ handler.activation.method = route.member
  filters : List.Forall₂
    (fun provision entry => ∃ recipe, entry = OneOrMany.one recipe ∧
      provision.Gives compilation.options.deriveContextNames recipe)
    (compilation.filterProvisions route) document.filters
  extractors : ∀ entry ∈ document.middleware, ∃ type, entry.activation.target = some type ∧
    ∀ index, ∃ recipes, entry.extractors.get? index = OneOrMany.ofList? recipes ∧
      List.Forall₂ (Provision.Gives compilation.options.deriveContextNames)
        ((compilation.definitionsFor type entry.activation.method index).map
          (compilation.parameterProvision type entry.activation.method)) recipes

namespace Compilation

variable (compilation : Compilation)

/-! ### What the documents carry -/

theorem extractors_of_mem_middlewareStack {target : TypeToken} {member : String}
    {controller : ControllerDefinition} {entry : MiddlewareDocument}
    (among : entry ∈ compilation.middlewareStack target member controller) :
    ∃ type, entry.activation.target = some type ∧
      entry.extractors = compilation.extractorRecipes type entry.activation.method := by
  rw [middlewareStack_eq, List.mem_append, List.mem_cons] at among
  rcases among with before | rfl | after
  · rcases List.mem_append.mp before with front | front
    all_goals
      obtain ⟨definition, _, rfl⟩ := List.mem_map.mp front
      exact ⟨definition.type, rfl, rfl⟩
  · exact ⟨target, rfl, rfl⟩
  · rcases List.mem_append.mp after with back | back
    all_goals
      obtain ⟨definition, _, rfl⟩ := List.mem_map.mp back
      exact ⟨definition.type, rfl, rfl⟩

theorem gives_filterStack (route : Route) :
    List.Forall₂
      (fun provision entry => ∃ recipe, entry = OneOrMany.one recipe ∧
        provision.Gives compilation.options.deriveContextNames recipe)
      (compilation.filterProvisions route)
      (compilation.filterStack route.target route.member route.controller) := by
  unfold filterProvisions filterStack
  refine List.rel_append ?_ ?_
  · cases route.controller.filter with
    | none => exact .nil
    | some filter => exact .cons ⟨_, rfl, compilation.gives_deriveContext ..⟩ .nil
  · rw [List.forall₂_map_left_iff, List.forall₂_map_right_iff, List.forall₂_same]
    intro definition _
    exact ⟨_, rfl, compilation.gives_deriveContext ..⟩

theorem describes_compileRoute (route : Route) :
    route.Describes compilation
      (compilation.compileRoute route.target route.member route.controller) := by
  refine ⟨?_, compilation.gives_filterStack route, ?_⟩
  · exact ⟨_, compilation.handler?_compileRoute .., rfl, rfl⟩
  · intro entry among
    obtain ⟨type, targeted, recipes⟩ := compilation.extractors_of_mem_middlewareStack among
    refine ⟨type, targeted, fun index => ⟨(compilation.definitionsFor type entry.activation.method
      index).map (compilation.parameterRecipe type entry.activation.method), ?_, ?_⟩⟩
    · rw [recipes, get?_extractorRecipes]
    · rw [List.forall₂_map_left_iff, List.forall₂_map_right_iff, List.forall₂_same]
      intro definition _
      exact compilation.gives_parameterRecipe ..

/-! ### Apart from names -/

def plain : Compilation :=
  { compilation with options := { compilation.options with deriveContextNames := false } }

theorem unnamed_filterStack (route : Route) :
    (compilation.filterStack route.target route.member route.controller).map
        (OneOrMany.map Recipe.unnamed) =
      (compilation.filterProvisions route).map fun provision => .one provision.unnamed := by
  have given := compilation.gives_filterStack route
  generalize compilation.filterStack route.target route.member route.controller = stack at given ⊢
  generalize compilation.filterProvisions route = provisions at given ⊢
  induction given with
  | nil => rfl
  | cons first _ ih =>
    obtain ⟨recipe, rfl, gives⟩ := first
    rw [List.map_cons, List.map_cons, ih, OneOrMany.map, gives.unnamed]

theorem unnamed_extractorRecipes (target : TypeToken) (method : String) :
    (compilation.extractorRecipes target method).mapValues (fun _ entry => entry.map Recipe.unnamed) =
      (compilation.plain.extractorRecipes target method).mapValues
        fun _ entry => entry.map Recipe.unnamed := by
  have provided : ∀ (compilation : Compilation) index,
      ((compilation.extractorRecipes target method).mapValues fun _ entry =>
          entry.map Recipe.unnamed).get? index =
        OneOrMany.ofList? ((compilation.definitionsFor target method index).map fun definition =>
          (compilation.parameterProvision target method definition).unnamed) := by
    intro compilation index
    rw [OrderedMap.get?_mapValues, get?_extractorRecipes, OneOrMany.map_ofList?, List.map_map]
    congr 1
    apply List.map_congr_left
    intro definition _
    exact (compilation.gives_parameterRecipe target method definition).unnamed
  apply OrderedMap.ext_get?
  intro index
  rw [provided, provided]
  rfl

theorem unnamed_middlewareStack (route : Route) :
    (compilation.middlewareStack route.target route.member route.controller).map
        MiddlewareDocument.unnamed =
      (compilation.plain.middlewareStack route.target route.member route.controller).map
        MiddlewareDocument.unnamed := by
  have declared : MiddlewareDocument.unnamed ∘ compilation.declaredEntry =
      MiddlewareDocument.unnamed ∘ compilation.plain.declaredEntry := by
    funext definition
    unfold Function.comp MiddlewareDocument.unnamed declaredEntry
    rw [unnamed_extractorRecipes]
  have handler : (compilation.handlerEntry route.target route.member route.controller).unnamed =
      (compilation.plain.handlerEntry route.target route.member route.controller).unnamed := by
    unfold MiddlewareDocument.unnamed handlerEntry
    rw [unnamed_extractorRecipes]
  simp only [middlewareStack_eq, entriesBefore, entriesAfter, List.map_append, List.map_map,
    List.map_cons, declared, handler]
  rfl

theorem unnamed_compileRoute (route : Route) :
    (compilation.compileRoute route.target route.member route.controller).unnamed =
      (compilation.plain.compileRoute route.target route.member route.controller).unnamed := by
  unfold PipelineDocument.unnamed compileRoute
  rw [unnamed_middlewareStack, unnamed_filterStack, unnamed_filterStack]
  rfl

end Compilation

/-- Context names are derived from a controller for its own filter, from a member for the filters of its
routes, and from the first signature of a method for the typed extractors of its parameters. A document
carries the recipes of its route, each with the configuration of its definition: as it is when no names
are derived, and otherwise with the name where the definition has no such entry, whatever that entry
holds. Whether names are derived makes no other difference to the documents. -/
theorem context_names_derived (signatures : TypeToken → List MethodSignature) (store : MetadataStore)
    (suffix : String) (candidates : List TypeToken) :
    let compilation (derives : Bool) : Compilation := ⟨signatures, store, ⟨suffix, derives⟩⟩
    ((compilation true).compile candidates).map PipelineDocument.unnamed =
        ((compilation false).compile candidates).map PipelineDocument.unnamed ∧
      (∀ derives, List.Forall₂ (Route.Describes (compilation derives))
        ((compilation derives).routes candidates) ((compilation derives).compile candidates)) ∧
      (∀ derives target, NamesController suffix target.shortName
        ((compilation derives).controllerContext target)) ∧
      ∀ derives target method definition name,
        ((compilation derives).parameterProvision target method definition).context = some name ↔
          definition.type ≠ none ∧
            NamesParameter (signatures target) method definition.index.toNat name := by
  intro compilation
  refine ⟨?_, ?_, fun _ target => stripSuffix_names .., ?_⟩
  · rw [Compilation.compile_eq_map_routes, Compilation.compile_eq_map_routes, List.map_map,
      List.map_map]
    apply List.map_congr_left
    intro route _
    exact (compilation true).unnamed_compileRoute route
  · intro derives
    rw [Compilation.compile_eq_map_routes, List.forall₂_map_right_iff, List.forall₂_same]
    intro route _
    exact (compilation derives).describes_compileRoute route
  · intro derives target method definition name
    exact (compilation derives).context_parameterProvision target method definition name

end EventPipeline
