import EventPipeline.Proofs.Compilation.Grouping
import EventPipeline.Proofs.Dispatch.Live
import EventPipeline.Proofs.Dispatch.Recipes

/-! The extractors of a step, and what they were made for.

The recipes of a method are grouped by parameter, and a dispatcher puts an instance in the place of each. So
every extractor of a step stands for one definition of the method, and the definitions are met by ascending
index, those of one index as they were declared. This stays so when the dispatcher is used. Where a
definition has no type there is no dispatcher: building it fails there, if not before. -/

namespace EventPipeline

variable {σ υ α β γ κ : Type}

/-! ### Groups -/

section Groups

variable [LT κ] [DecidableEq κ]

theorem OrderedMap.filter_spread [KeyOrder κ] {entries : List (κ × β)}
    (ordered : entries.Pairwise fun a b => a.1 < b.1) {spread : κ × β → List γ} {tag : γ → κ}
    (tagged : ∀ entry, ∀ element ∈ spread entry, tag element = entry.1) (key : κ) :
    (entries.flatMap spread).filter (fun element => decide (tag element = key)) =
      ((entries.lookup key).map fun held => spread (key, held)).getD [] := by
  induction entries with
  | nil => rfl
  | cons entry rest ih =>
    obtain ⟨other, held⟩ := entry
    obtain ⟨above, later⟩ := List.pairwise_cons.mp ordered
    rw [List.flatMap_cons, List.filter_append, ih later, lookup_entry]
    by_cases here : key = other
    · subst here
      have stays : (spread (key, held)).filter (fun element => decide (tag element = key)) =
          spread (key, held) :=
        List.filter_eq_self.mpr fun element among => decide_eq_true (tagged (key, held) element among)
      rw [stays, if_pos rfl, lookup_eq_none_of_below above]
      simp
    · have leaves : (spread (other, held)).filter (fun element => decide (tag element = key)) = [] :=
        List.filter_eq_nil_iff.mpr fun element among same =>
          here ((of_decide_eq_true same).symm.trans (tagged (other, held) element among))
      rw [leaves, if_neg here, List.nil_append]

omit [LT κ] in
theorem lookup_related {R : α → β → Prop} {entries : List (κ × α)} {others : List (κ × β)}
    (paired : List.Forall₂ (fun one other => one.1 = other.1 ∧ R one.2 other.2) entries others)
    (key : κ) : Option.Rel R (entries.lookup key) (others.lookup key) := by
  induction paired with
  | nil => exact .none
  | @cons entry other entries others here _ ih =>
    obtain ⟨first, held⟩ := entry
    obtain ⟨second, made⟩ := other
    obtain ⟨rfl, related⟩ := here
    rw [OrderedMap.lookup_entry, OrderedMap.lookup_entry]
    by_cases same : key = first
    · rw [if_pos same, if_pos same]
      exact .some related
    · rw [if_neg same, if_neg same]
      exact ih

end Groups

theorem OneOrMany.eq_ofList?_of_related {R : α → β → Prop} {entries : List α}
    {other : Option (OneOrMany β)}
    (related : Option.Rel (OneOrMany.Related R) (OneOrMany.ofList? entries) other) :
    ∃ others, List.Forall₂ R entries others ∧ other = OneOrMany.ofList? others := by
  match entries with
  | [] =>
    cases related
    exact ⟨[], .nil, rfl⟩
  | [entry] =>
    cases related with
    | some related =>
      cases related with
      | one related => exact ⟨[_], .cons related .nil, rfl⟩
  | first :: second :: rest =>
    cases related with
    | some related =>
      cases related with
      | many related =>
        rcases related with _ | ⟨here, _ | ⟨next, later⟩⟩
        exact ⟨_ :: _ :: _, .cons here (.cons next later), rfl⟩

/-! ### Posts -/

/-- The extractors of a step, each with the definition that it stands for: by ascending index, and those
of one index as they were declared. -/
structure Step.Staffed (compilation : Compilation) (type : TypeToken) (method : String)
    (staff : List (ExtractorDefinition × InstanceId)) (step : Step) : Prop where
  ascending : staff.Pairwise fun one other => one.1.index ≤ other.1.index
  declared : ∀ index, (staff.filter fun post => decide (post.1.index = index)).map (·.1) =
    compilation.definitionsFor type method index
  placed : ∀ index, step.extractors.get? index = OneOrMany.ofList?
    ((staff.filter fun post => decide (post.1.index = index)).map (·.2))

def Compilation.parameterDemand (compilation : Compilation) (type : TypeToken) (method : String)
    (definition : ExtractorDefinition) : Demand :=
  ⟨.extractor, compilation.parameterRecipe type method definition⟩

namespace Step

variable (compilation : Compilation) (type : TypeToken) (method : String) (step : Step)

def staff : List (ExtractorDefinition × InstanceId) :=
  step.extractors.entries.flatMap fun slot =>
    (compilation.definitionsFor type method slot.1).zip slot.2.toList

variable {compilation type method step} {entry : MiddlewareDocument}

theorem index_of_mem_definitionsFor {index : UInt64} {definition : ExtractorDefinition}
    (among : definition ∈ compilation.definitionsFor type method index) : definition.index = index :=
  of_decide_eq_true (List.mem_filter.mp among).2

section Posts

variable (recipes : entry.extractors = compilation.extractorRecipes type method)
  (paired : List.Forall₂ (fun (slot : UInt64 × OneOrMany Recipe) (made : UInt64 × OneOrMany InstanceId) =>
    slot.1 = made.1 ∧ OneOrMany.Related (fun _ _ => True) slot.2 made.2)
      entry.extractors.entries step.extractors.entries)

include recipes paired

theorem extractors_for (index : UInt64) :
    ∃ ids, ids.length = (compilation.definitionsFor type method index).length ∧
      step.extractors.get? index = OneOrMany.ofList? ids := by
  have related := lookup_related paired index
  rw [recipes] at related
  change Option.Rel _ ((compilation.extractorRecipes type method).get? index) _ at related
  rw [compilation.get?_extractorRecipes] at related
  obtain ⟨ids, alike, shape⟩ := OneOrMany.eq_ofList?_of_related related
  refine ⟨ids, ?_, shape⟩
  rw [← alike.length_eq, List.length_map]

theorem length_toList {slot : UInt64 × OneOrMany InstanceId} (among : slot ∈ step.extractors.entries) :
    slot.2.toList.length = (compilation.definitionsFor type method slot.1).length := by
  obtain ⟨ids, length, shape⟩ := extractors_for recipes paired slot.1
  rw [OneOrMany.toList_of_ofList? (shape.symm.trans (OrderedMap.get?_of_mem among)), length]

theorem staff_for (index : UInt64) :
    ∃ ids, ids.length = (compilation.definitionsFor type method index).length ∧
      step.extractors.get? index = OneOrMany.ofList? ids ∧
      (step.staff compilation type method).filter (fun post => decide (post.1.index = index)) =
        (compilation.definitionsFor type method index).zip ids := by
  obtain ⟨ids, length, shape⟩ := extractors_for recipes paired index
  refine ⟨ids, length, shape, ?_⟩
  have tagged : ∀ slot : UInt64 × OneOrMany InstanceId,
      ∀ post ∈ (compilation.definitionsFor type method slot.1).zip slot.2.toList,
        post.1.index = slot.1 :=
    fun slot post among => index_of_mem_definitionsFor (List.of_mem_zip among).1
  have found : step.extractors.entries.lookup index = OneOrMany.ofList? ids := shape
  unfold staff
  rw [OrderedMap.filter_spread step.extractors.ordered tagged, found]
  match ids with
  | [] => rw [List.zip_nil_right]; rfl
  | [id] => rfl
  | first :: second :: rest => rfl

theorem staffed : step.Staffed compilation type method (step.staff compilation type method) := by
  refine ⟨?_, ?_, ?_⟩
  · refine List.pairwise_flatMap.mpr ⟨?_, step.extractors.ordered.imp ?_⟩
    · intro slot _
      apply List.pairwise_of_forall_mem_list
      intro one here other there
      rw [index_of_mem_definitionsFor (List.of_mem_zip here).1,
        index_of_mem_definitionsFor (List.of_mem_zip there).1]
      exact UInt64.le_refl _
    · intro slot behind below one here other there
      rw [index_of_mem_definitionsFor (List.of_mem_zip here).1,
        index_of_mem_definitionsFor (List.of_mem_zip there).1]
      exact UInt64.le_of_lt below
  · intro index
    obtain ⟨ids, length, _, posts⟩ := staff_for recipes paired index
    rw [posts, List.map_fst_zip (Nat.le_of_eq length.symm)]
  · intro index
    obtain ⟨ids, length, shape, posts⟩ := staff_for recipes paired index
    rw [posts, List.map_snd_zip (Nat.le_of_eq length), shape]

theorem map_staff_indexes :
    (step.staff compilation type method).map (fun post => (post.1.index, post.2)) =
      step.extractors.entries.flatMap fun slot => slot.2.toList.map (slot.1, ·) := by
  unfold staff
  rw [List.map_flatMap]
  apply List.flatMap_congr
  intro slot among
  calc ((compilation.definitionsFor type method slot.1).zip slot.2.toList).map
        (fun post => (post.1.index, post.2))
      = ((compilation.definitionsFor type method slot.1).zip slot.2.toList).map
          (fun post => (slot.1, post.2)) := by
        apply List.map_congr_left
        intro post here
        rw [index_of_mem_definitionsFor (List.of_mem_zip here).1]
    _ = (((compilation.definitionsFor type method slot.1).zip slot.2.toList).map (·.2)).map
          (slot.1, ·) := (List.map_map ..).symm
    _ = slot.2.toList.map (slot.1, ·) := by
        rw [List.map_snd_zip (Nat.le_of_eq (length_toList recipes paired among))]

theorem map_staff_instances : (step.staff compilation type method).map (·.2) = step.instances := by
  have indexed := congrArg (List.map (·.2)) (map_staff_indexes recipes paired)
  unfold instances
  rw [List.map_map, List.map_flatMap] at indexed
  simpa [Function.comp_def] using indexed

theorem map_staff_demands :
    (step.staff compilation type method).map (fun post =>
      compilation.parameterDemand type method post.1) = entry.demands := by
  have keys : entry.extractors.entries.map (·.1) = step.extractors.entries.map (·.1) :=
    map_eq_map_of_paired (paired.imp fun _ _ related => related.1)
  have wanted : ∀ slot ∈ entry.extractors.entries, slot.2.demands .extractor =
      (compilation.definitionsFor type method slot.1).map
        (compilation.parameterDemand type method) := by
    intro slot among
    have found := OrderedMap.get?_of_mem among
    rw [recipes, compilation.get?_extractorRecipes] at found
    rw [OneOrMany.demands, OneOrMany.toList_of_ofList? found, List.map_map]
    rfl
  have held : ∀ slot ∈ step.extractors.entries,
      ((compilation.definitionsFor type method slot.1).zip slot.2.toList).map
          (fun post => compilation.parameterDemand type method post.1) =
        (compilation.definitionsFor type method slot.1).map
          (compilation.parameterDemand type method) := by
    intro slot among
    have firsts := List.map_fst_zip (Nat.le_of_eq (length_toList recipes paired among).symm)
    conv_rhs => rw [← firsts, List.map_map]
    rfl
  unfold staff MiddlewareDocument.demands
  rw [List.map_flatMap, List.flatMap_congr held, List.flatMap_congr wanted,
    ← List.flatMap_map (f := Prod.fst) (g := fun index =>
      (compilation.definitionsFor type method index).map (compilation.parameterDemand type method)),
    ← List.flatMap_map (f := Prod.fst) (g := fun index =>
      (compilation.definitionsFor type method index).map (compilation.parameterDemand type method)),
    keys]

end Posts

end Step

/-! ### Places -/

namespace Action

variable {State Error : Type} {visit : α → Action State Error β} {elements : List α}
  {values : List β} {state last : State}

theorem of_forEach_ok {index : Nat} {element : α} (listed : elements[index]? = some element)
    (ran : Action.forEach visit elements state = (.ok values, last)) :
    ∃ early value between reached,
      Action.forEach visit (elements.take index) state = (.ok early, between) ∧
        visit element between = (.ok value, reached) ∧ values[index]? = some value := by
  induction elements generalizing index state values with
  | nil => cases listed
  | cons first rest ih =>
    obtain ⟨value, between, here, later⟩ := of_bind_ok ran
    obtain ⟨others, reached, there, done⟩ := of_bind_ok later
    cases done
    cases index with
    | zero =>
      cases listed
      exact ⟨[], value, state, between, rfl, here, rfl⟩
    | succ index =>
      obtain ⟨early, found, before, behind, front, visited, placed⟩ := ih listed there
      refine ⟨value :: early, found, before, behind, ?_, visited, placed⟩
      rw [List.take_succ_cons]
      simp only [Action.forEach, Action.bind, here, front, Action.pure]

end Action

def PipelineDocument.demandsBefore (document : PipelineDocument) (column : Nat) : List Demand :=
  document.filters.flatMap (OneOrMany.demands .filter) ++
    (document.middleware.take column).flatMap MiddlewareDocument.demands

section Build

variable [Inhabited σ] {catalogue : Catalogue σ υ} {world after : World σ υ}
  {documents : List PipelineDocument} {row column : Nat} {document : PipelineDocument}
  {entry : MiddlewareDocument}

theorem made_of_forEach (visit : α → Action (World σ υ) FactoryError β) {demands : α → List Demand}
    {instances : β → List InstanceId}
    (made : ∀ element world value after, visit element world = (.ok value, after) →
      Makes catalogue (demands element) (instances value) world after)
    {elements : List α} {values : List β}
    (ran : Action.forEach visit elements world = (.ok values, after)) :
    Makes catalogue (elements.flatMap demands) (values.flatMap instances) world after :=
  (makes_of_forEach visit (R := fun _ _ => True)
    (fun element world value after ran => ⟨made element world value after ran, trivial⟩) ran).1

theorem Pipeline.build_places {pipeline : Pipeline} (stacked : document.middleware[column]? = some entry)
    (ran : Pipeline.build catalogue document world = (.ok pipeline, after)) :
    ∃ step ids between reached, pipeline.steps[column]? = some step ∧
      Makes catalogue (document.demandsBefore column) ids world between ∧
      Step.build catalogue entry between = (.ok step, reached) := by
  obtain ⟨filters, between, first, later⟩ := Action.of_bind_ok ran
  obtain ⟨steps, reached, second, done⟩ := Action.of_bind_ok later
  cases done
  obtain ⟨early, step, before, behind, front, built, placed⟩ := Action.of_forEach_ok stacked second
  have filtered := made_of_forEach (instantiate catalogue .filter)
    (fun _ _ _ _ ran => (instantiate_makes ran).1) first
  have stepped := made_of_forEach (Step.build catalogue)
    (fun _ _ _ _ ran => (Step.build_makes ran).1) front
  exact ⟨step, _, before, behind, placed, filtered.append stepped, built⟩

/-- The step of an entry stands in its place, and its instances are made after those of all entries
before it. -/
theorem Dispatcher.build_places {dispatcher : Dispatcher} (listed : documents[row]? = some document)
    (stacked : document.middleware[column]? = some entry)
    (ran : Dispatcher.build catalogue documents world = (.ok dispatcher, after)) :
    ∃ pipeline step ids between reached, dispatcher.pipelines[row]? = some pipeline ∧
      pipeline.steps[column]? = some step ∧
      Makes catalogue ((documents.take row).flatMap PipelineDocument.demands ++
        document.demandsBefore column) ids world between ∧
      Step.build catalogue entry between = (.ok step, reached) := by
  obtain ⟨pipelines, reached, first, later⟩ := Action.of_bind_ok ran
  cases later
  obtain ⟨early, pipeline, before, behind, front, built, placed⟩ :=
    Action.of_forEach_ok listed (Action.of_mapError_ok first)
  have above := made_of_forEach (Pipeline.build catalogue)
    (fun _ _ _ _ ran => (Pipeline.build_makes ran).1) front
  obtain ⟨step, ids, between, last, stands, left, made⟩ := Pipeline.build_places stacked built
  exact ⟨pipeline, step, _, between, last, placed, stands, above.append left, made⟩

end Build

/-! ### Where building fails -/

section Failing

variable [Inhabited σ] {catalogue : Catalogue σ υ} {world between after : World σ υ}
  {error : FactoryError}

/-- One recipe after another gets its instance, up to one for which there is none. -/
def Fails (catalogue : Catalogue σ υ) (demands : List Demand) (error : FactoryError)
    (world after : World σ υ) : Prop :=
  ∃ earlier demand later ids between, demands = earlier ++ demand :: later ∧
    Makes catalogue earlier ids world between ∧
    Factory.create catalogue demand.recipe demand.view false between = (.error error, after)

theorem Fails.ahead {demands : List Demand} (fails : Fails catalogue demands error world after)
    (others : List Demand) : Fails catalogue (demands ++ others) error world after := by
  obtain ⟨earlier, demand, later, ids, between, rfl, made, failed⟩ := fails
  exact ⟨earlier, demand, later ++ others, ids, between, by simp, made, failed⟩

theorem Makes.fails {demands others : List Demand} {ids : List InstanceId}
    (made : Makes catalogue demands ids world between)
    (fails : Fails catalogue others error between after) :
    Fails catalogue (demands ++ others) error world after := by
  obtain ⟨earlier, demand, later, more, reached, rfl, onward, failed⟩ := fails
  exact ⟨demands ++ earlier, demand, later, _, reached, by simp, made.append onward, failed⟩

theorem fails_of_forEach (visit : α → Action (World σ υ) FactoryError β) {demands : α → List Demand}
    {instances : β → List InstanceId}
    (made : ∀ element world value after, visit element world = (.ok value, after) →
      Makes catalogue (demands element) (instances value) world after)
    (failed : ∀ element world error after, visit element world = (.error error, after) →
      Fails catalogue (demands element) error world after)
    {elements : List α} (ran : Action.forEach visit elements world = (.error error, after)) :
    Fails catalogue (elements.flatMap demands) error world after := by
  induction elements generalizing world with
  | nil => cases ran
  | cons element rest ih =>
    rcases Action.of_bind_error ran with first | ⟨value, between, here, later⟩
    · exact (failed element world error after first).ahead _
    · rcases Action.of_bind_error later with second | ⟨values, reached, there, done⟩
      · exact (made element world value between here).fails (ih second)
      · cases done

theorem instantiate_fails {view : View} {entry : OneOrMany Recipe}
    (ran : instantiate catalogue view entry world = (.error error, after)) :
    Fails catalogue (entry.demands view) error world after := by
  have single : ∀ recipe world error after,
      Factory.create catalogue recipe view false world = (.error error, after) →
        Fails catalogue [⟨view, recipe⟩] error world after :=
    fun recipe world error after failed =>
      ⟨[], ⟨view, recipe⟩, [], [], world, rfl, ⟨[], .done world, rfl, rfl⟩, failed⟩
  cases entry with
  | one recipe =>
    rcases Action.of_bind_error ran with first | ⟨id, between, here, done⟩
    · exact single recipe world error after first
    · cases done
  | many recipes =>
    rcases Action.of_bind_error ran with first | ⟨ids, between, here, done⟩
    · have fails := fails_of_forEach (Factory.create catalogue · view false)
        (fun _ _ _ _ created => create_makes created) single first
      rwa [← List.map_eq_flatMap] at fails
    · cases done

theorem Step.build_fails {document : MiddlewareDocument}
    (ran : Step.build catalogue document world = (.error error, after)) :
    Fails catalogue document.demands error world after := by
  have made : ∀ (slot : UInt64 × OneOrMany Recipe) (world : World σ υ)
      (held : UInt64 × OneOrMany InstanceId) after,
      (do
        let created ← instantiate catalogue .extractor slot.2
        pure (slot.1, created) : Action (World σ υ) FactoryError _) world = (.ok held, after) →
        Makes catalogue (slot.2.demands .extractor) held.2.toList world after := by
    intro slot world held after ran
    obtain ⟨created, between, here, done⟩ := Action.of_bind_ok ran
    cases done
    exact (instantiate_makes here).1
  rcases Action.of_bind_error ran with first | ⟨slots, between, here, done⟩
  · rcases Action.of_bind_error first with filled | ⟨entries, between, here, done⟩
    · refine fails_of_forEach _ made ?_ filled
      intro slot world error after ran
      rcases Action.of_bind_error ran with refused | ⟨created, between, here, done⟩
      · exact instantiate_fails refused
      · cases done
    · cases done
  · cases done

theorem Pipeline.build_fails {document : PipelineDocument}
    (ran : Pipeline.build catalogue document world = (.error error, after)) :
    Fails catalogue document.demands error world after := by
  rcases Action.of_bind_error ran with first | ⟨filters, between, here, later⟩
  · exact (fails_of_forEach (instantiate catalogue .filter)
      (fun _ _ _ _ ran => (instantiate_makes ran).1) (fun _ _ _ _ => instantiate_fails) first).ahead _
  · have filtered := made_of_forEach (instantiate catalogue .filter)
      (fun _ _ _ _ ran => (instantiate_makes ran).1) here
    rcases Action.of_bind_error later with second | ⟨steps, reached, there, done⟩
    · exact filtered.fails (fails_of_forEach (Step.build catalogue)
        (fun _ _ _ _ ran => (Step.build_makes ran).1) (fun _ _ _ _ => Step.build_fails) second)
    · cases done

theorem Dispatcher.build_fails {documents : List PipelineDocument} {error : DispatchError}
    (ran : Dispatcher.build catalogue documents world = (.error error, after)) :
    ∃ cause, error = .ofFactory cause ∧
      Fails catalogue (documents.flatMap PipelineDocument.demands) cause world after := by
  rcases Action.of_bind_error ran with first | ⟨pipelines, between, here, later⟩
  · obtain ⟨cause, rfl, failed⟩ := Action.of_mapError_error first
    exact ⟨cause, rfl, fails_of_forEach (Pipeline.build catalogue)
      (fun _ _ _ _ ran => (Pipeline.build_makes ran).1) (fun _ _ _ _ => Pipeline.build_fails) failed⟩
  · cases later

theorem Makes.typed {demands : List Demand} {ids : List InstanceId}
    (made : Makes catalogue demands ids world after) :
    ∀ demand ∈ demands, demand.recipe.type ≠ none := by
  obtain ⟨served, creations, rfl, rfl⟩ := made
  induction creations with
  | done world => exact fun _ among => (List.not_mem_nil among).elim
  | @next world between after demand id rest created _ ih =>
    intro other among untyped
    rcases List.mem_cons.mp among with rfl | behind
    · unfold Factory.create Factory.createInstance at created
      rw [untyped] at created
      cases created
    · exact ih other behind untyped

/-- Building fails at a recipe: those before it have their instances, and this one gets none. -/
def Dispatcher.FailsAt (catalogue : Catalogue σ υ) (documents : List PipelineDocument)
    (world : World σ υ) (earlier : List Demand) (demand : Demand) (error : FactoryError) : Prop :=
  ∃ ids between after, Makes catalogue earlier ids world between ∧
    Factory.create catalogue demand.recipe demand.view false between = (.error error, after) ∧
    Dispatcher.build catalogue documents world = (.error (.ofFactory error), after)

theorem Dispatcher.failsAt_untyped {documents : List PipelineDocument} {earlier later : List Demand}
    {demand : Demand} (untyped : demand.recipe.type = none)
    (listed : documents.flatMap PipelineDocument.demands = earlier ++ demand :: later)
    (world : World σ υ) :
    Dispatcher.FailsAt catalogue documents world earlier demand .missingType ∨
      ∃ before first between error, earlier = before ++ first :: between ∧
        Dispatcher.FailsAt catalogue documents world before first error := by
  rcases ran : Dispatcher.build catalogue documents world with ⟨error | dispatcher, after⟩
  · obtain ⟨cause, rfl, before, first, rest, ids, reached, shape, made, failed⟩ :=
      Dispatcher.build_fails ran
    have missing : first = demand → cause = .missingType := by
      rintro rfl
      unfold Factory.create Factory.createInstance at failed
      rw [untyped] at failed
      cases failed
      rfl
    -- The recipe that failed cannot stand behind the untyped one, which would have got its instance.
    rcases List.append_eq_append_iff.mp (listed.symm.trans shape) with
      ⟨gap, longer, same⟩ | ⟨gap, shorter, same⟩
    · cases gap with
      | nil =>
        obtain ⟨rfl, _⟩ := List.cons.inj same
        rw [List.append_nil] at longer
        obtain rfl := missing rfl
        exact .inl ⟨ids, reached, after, longer ▸ made, failed, ran⟩
      | cons other gap =>
        obtain ⟨rfl, _⟩ := List.cons.inj same
        refine absurd untyped (made.typed demand ?_)
        rw [longer]
        exact List.mem_append_right _ (List.mem_cons_self ..)
    · cases gap with
      | nil =>
        obtain ⟨rfl, _⟩ := List.cons.inj same
        rw [List.append_nil] at shorter
        obtain rfl := missing rfl
        exact .inl ⟨ids, reached, after, shorter ▸ made, failed, ran⟩
      | cons other gap =>
        obtain ⟨rfl, _⟩ := List.cons.inj same
        exact .inr ⟨before, first, gap, cause, shorter, ids, reached, after, made, failed, ran⟩
  · obtain ⟨reached, made, _⟩ := Dispatcher.build_makes ran
    refine absurd untyped (made.typed demand ?_)
    rw [listed]
    exact List.mem_append_right _ (List.mem_cons_self ..)

end Failing

end EventPipeline
