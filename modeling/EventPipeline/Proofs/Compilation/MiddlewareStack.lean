import EventPipeline.Compilation

/-! The order of a middleware stack.

Around the handler stand the class middleware and the middleware of the route, each split by the
sign of its priorities. The split keeps the order of declaration, loses nothing and repeats nothing,
and the handler is the one entry without a priority. -/

namespace EventPipeline.Compilation

variable (compilation : Compilation)

/-- What runs before the handler, in the order of declaration. -/
def early (definitions : List MiddlewareDefinition) : List MiddlewareDefinition :=
  definitions.filter fun definition => decide (definition.priority ≤ 0)

/-- What runs after the handler, in the order of declaration. -/
def late (definitions : List MiddlewareDefinition) : List MiddlewareDefinition :=
  definitions.filter fun definition => decide (0 < definition.priority)

theorem phases_eq (definitions : List MiddlewareDefinition) :
    phases definitions = (early definitions, late definitions) := by
  have opposite : (fun definition : MiddlewareDefinition => !definition.isBefore) =
      fun definition => decide (0 < definition.priority) := by
    funext definition
    by_cases after : 0 < definition.priority
    · have above : ¬ definition.priority ≤ 0 := by omega
      simp [MiddlewareDefinition.isBefore, after, above]
    · have below : definition.priority ≤ 0 := by omega
      simp [MiddlewareDefinition.isBefore, after, below]
  unfold phases early late
  rw [List.partition_eq_filter_filter]
  exact congrArg (fun p => (definitions.filter (·.isBefore), definitions.filter p)) opposite

theorem early_append_late_perm (definitions : List MiddlewareDefinition) :
    (early definitions ++ late definitions).Perm definitions := by
  have split := congrArg (fun parts => parts.1 ++ parts.2) (phases_eq definitions)
  simp only [phases, List.partition_eq_filter_filter] at split
  rw [← split]
  exact List.filter_append_perm _ definitions

def declaredEntry (definition : MiddlewareDefinition) : MiddlewareDocument where
  activation := ⟨some definition.type, definition.method, definition.configuration,
    definition.singleton, none⟩
  extractors := compilation.extractorRecipes definition.type definition.method
  priority := some definition.priority

def handlerEntry (target : TypeToken) (route : String) (controller : ControllerDefinition) :
    MiddlewareDocument where
  activation := ⟨some target, route, OrderedMap.empty, controller.singleton, none⟩
  extractors := compilation.extractorRecipes target route
  priority := none

def declaredMiddleware (target : TypeToken) (route : String) : List MiddlewareDefinition :=
  compilation.store.middleware target none ++ compilation.store.middleware target (some route)

def entriesBefore (target : TypeToken) (route : String) : List MiddlewareDocument :=
  (early (compilation.store.middleware target none)).map compilation.declaredEntry ++
    (early (compilation.store.middleware target (some route))).map compilation.declaredEntry

def entriesAfter (target : TypeToken) (route : String) : List MiddlewareDocument :=
  (late (compilation.store.middleware target (some route))).map compilation.declaredEntry ++
    (late (compilation.store.middleware target none)).map compilation.declaredEntry

theorem middlewareStack_eq (target : TypeToken) (route : String)
    (controller : ControllerDefinition) :
    compilation.middlewareStack target route controller =
      compilation.entriesBefore target route ++
        compilation.handlerEntry target route controller ::
          compilation.entriesAfter target route := by
  unfold middlewareStack entriesBefore entriesAfter
  simp only [phases_eq, List.map_append, MetadataStore.middleware]
  rfl

theorem priority_of_mem_entriesBefore {target : TypeToken} {route : String}
    {entry : MiddlewareDocument} (member : entry ∈ compilation.entriesBefore target route) :
    ∃ priority, entry.priority = some priority ∧ priority ≤ 0 := by
  simp only [entriesBefore, early, List.mem_append, List.mem_map, List.mem_filter,
    decide_eq_true_eq] at member
  rcases member with ⟨definition, ⟨_, below⟩, rfl⟩ | ⟨definition, ⟨_, below⟩, rfl⟩
  · exact ⟨definition.priority, rfl, below⟩
  · exact ⟨definition.priority, rfl, below⟩

theorem priority_of_mem_entriesAfter {target : TypeToken} {route : String}
    {entry : MiddlewareDocument} (member : entry ∈ compilation.entriesAfter target route) :
    ∃ priority, entry.priority = some priority ∧ 0 < priority := by
  simp only [entriesAfter, late, List.mem_append, List.mem_map, List.mem_filter,
    decide_eq_true_eq] at member
  rcases member with ⟨definition, ⟨_, above⟩, rfl⟩ | ⟨definition, ⟨_, above⟩, rfl⟩
  · exact ⟨definition.priority, rfl, above⟩
  · exact ⟨definition.priority, rfl, above⟩

theorem entries_perm (target : TypeToken) (route : String) :
    (compilation.entriesBefore target route ++ compilation.entriesAfter target route).Perm
      ((compilation.declaredMiddleware target route).map compilation.declaredEntry) := by
  have ofClass := (early_append_late_perm (compilation.store.middleware target none)).map
    compilation.declaredEntry
  have ofRoute := (early_append_late_perm (compilation.store.middleware target (some route))).map
    compilation.declaredEntry
  rw [List.map_append] at ofClass ofRoute
  unfold entriesBefore entriesAfter declaredMiddleware
  rw [List.map_append]
  refine List.Perm.trans ?_ (ofClass.append ofRoute)
  -- Only the late entries of the class move: to the end, behind everything of the route.
  rw [List.append_assoc, List.append_assoc]
  refine List.Perm.append_left _ ?_
  rw [← List.append_assoc]
  exact List.perm_append_comm

section Handler

variable (target : TypeToken) (route : String) (controller : ControllerDefinition)

theorem priority_eq_none_iff {index : Nat} {entry : MiddlewareDocument}
    (found : (compilation.middlewareStack target route controller)[index]? = some entry) :
    entry.priority = none ↔ index = (compilation.entriesBefore target route).length := by
  rw [middlewareStack_eq] at found
  rcases Nat.lt_trichotomy index (compilation.entriesBefore target route).length with
    before | at_ | after
  · rw [List.getElem?_append_left before] at found
    obtain ⟨priority, named, _⟩ :=
      compilation.priority_of_mem_entriesBefore (List.mem_of_getElem? found)
    simp only [named, reduceCtorEq, false_iff]
    omega
  · subst at_
    rw [List.getElem?_append_right (Nat.le_refl _), Nat.sub_self, List.getElem?_cons_zero] at found
    obtain rfl := Option.some.inj found
    simp [handlerEntry]
  · rw [List.getElem?_append_right (Nat.le_of_lt after)] at found
    obtain ⟨offset, same⟩ : ∃ offset,
        index - (compilation.entriesBefore target route).length = offset + 1 :=
      ⟨index - (compilation.entriesBefore target route).length - 1, by omega⟩
    rw [same, List.getElem?_cons_succ] at found
    obtain ⟨priority, named, _⟩ :=
      compilation.priority_of_mem_entriesAfter (List.mem_of_getElem? found)
    simp only [named, reduceCtorEq, false_iff]
    omega

theorem handler?_compileRoute :
    (compilation.compileRoute target route controller).handler? =
      some (compilation.handlerEntry target route controller) := by
  have none_before : (compilation.entriesBefore target route).find? (·.priority.isNone) = none := by
    rw [List.find?_eq_none]
    intro entry member
    obtain ⟨priority, named, _⟩ := compilation.priority_of_mem_entriesBefore member
    simp [named]
  unfold PipelineDocument.handler? compileRoute
  rw [middlewareStack_eq, List.find?_append, none_before, Option.none_or]
  rfl

end Handler

/-- A candidate without controller definitions has no documents, so that being a controller need not
be asked for. -/
theorem compile_eq (candidates : List TypeToken) :
    compilation.compile candidates =
      candidates.flatMap fun target =>
        (compilation.store.controllers target).flatMap fun controller =>
          (compilation.routableMembers target).map fun route =>
            compilation.compileRoute target route controller := by
  unfold compile
  rw [List.map_flatMap]
  congr 1
  funext target
  unfold compileCandidate
  split
  · simp only [List.map_flatMap, List.map_map, Function.comp_def]
  · next plain =>
    rw [Bool.not_eq_true] at plain
    rw [(compilation.store.isController_eq_false_iff target).mp plain]
    rfl

/-- Every compiled stack is the early middleware of the class, the early middleware of the route,
the handler, the late middleware of the route and the late middleware of the class, each in the
order of declaration. The handler is the one entry without a priority, and it is found as such. -/
theorem compiled_stack_order (candidates : List TypeToken) :
    (compilation.compile candidates).map (fun document => (document.middleware, document.handler?)) =
        (candidates.flatMap fun target =>
          (compilation.store.controllers target).flatMap fun controller =>
            (compilation.routableMembers target).map fun route =>
              ((early (compilation.store.middleware target none)).map compilation.declaredEntry ++
                (early (compilation.store.middleware target (some route))).map
                  compilation.declaredEntry ++
                compilation.handlerEntry target route controller ::
                  ((late (compilation.store.middleware target (some route))).map
                      compilation.declaredEntry ++
                    (late (compilation.store.middleware target none)).map
                      compilation.declaredEntry),
                some (compilation.handlerEntry target route controller))) ∧
      ∀ target route controller,
        let stack := (compilation.compileRoute target route controller).middleware
        stack.Perm (compilation.handlerEntry target route controller ::
            (compilation.declaredMiddleware target route).map compilation.declaredEntry) ∧
          ∀ (index : Nat) (entry : MiddlewareDocument), stack[index]? = some entry →
            (entry.priority = none ↔ index = (early (compilation.store.middleware target none) ++
              early (compilation.store.middleware target (some route))).length) := by
  constructor
  · rw [compile_eq, List.map_flatMap]
    congr 1
    funext target
    rw [List.map_flatMap]
    congr 1
    funext controller
    rw [List.map_map]
    apply List.map_congr_left
    intro route _
    have stack := compilation.middlewareStack_eq target route controller
    have handler := compilation.handler?_compileRoute target route controller
    simp only [Function.comp_apply, handler]
    exact congrArg (·, _) stack
  · intro target route controller
    constructor
    · show (compilation.middlewareStack target route controller).Perm _
      rw [middlewareStack_eq]
      exact List.perm_middle.trans ((compilation.entries_perm target route).cons _)
    · intro index entry found
      rw [compilation.priority_eq_none_iff target route controller found]
      simp [entriesBefore]

end EventPipeline.Compilation
