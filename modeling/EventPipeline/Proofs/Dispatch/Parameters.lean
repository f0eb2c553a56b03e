import EventPipeline.Builtin.Extractors
import EventPipeline.Proofs.Compilation.ContextNames
import EventPipeline.Proofs.Dispatch.Staffing

/-! From definitions to arguments.

When a step runs, its extractors are asked as they stand, up to the first that fails. If all of them answer,
a parameter with one extractor receives its value, a parameter with several the array of theirs, and a
parameter without any receives nothing. Only then the method is invoked, with what the parameters have
received. -/

namespace EventPipeline

open Json

variable {σ υ : Type}

/-! ### Asking in turn -/

/-- The extractor of a parameter gives a value. -/
def Deed.answer (post : UInt64 × InstanceId) (value : Value) : Deed :=
  .extracted post.1.toNat post.2 (.ok value)

inductive Consulting :
    List (UInt64 × InstanceId) → List Deed → Except DispatchError (List Value) → Prop where
  | answered (posts : List (UInt64 × InstanceId)) (values : List Value)
      (each : values.length = posts.length) :
      Consulting posts (List.zipWith Deed.answer posts values) (.ok values)
  | failed (answering : List (UInt64 × InstanceId)) (values : List Value)
      (each : values.length = answering.length) (post : UInt64 × InstanceId)
      (unasked : List (UInt64 × InstanceId)) (cause : Cause) :
      Consulting (answering ++ post :: unasked)
        (List.zipWith Deed.answer answering values ++ [.extracted post.1.toNat post.2 (.error cause)])
        (.error (.extraction post.1.toNat cause))

namespace Consulting

variable {posts others : List (UInt64 × InstanceId)} {deeds more : List Deed} {values : List Value}
  {result : Except DispatchError (List Value)} {error : DispatchError}

theorem length_eq (consulting : Consulting posts deeds (.ok values)) : values.length = posts.length := by
  cases consulting with
  | answered _ _ each => exact each

theorem append (first : Consulting posts deeds (.ok values)) (later : Consulting others more result) :
    Consulting (posts ++ others) (deeds ++ more) (result.map (values ++ ·)) := by
  cases first with
  | answered _ _ each =>
    cases later with
    | answered _ found all =>
      have joined := answered (posts ++ others) (values ++ found) (by simp [each, all])
      rwa [List.zipWith_append each.symm] at joined
    | failed answering found all post unasked cause =>
      have joined := failed (posts ++ answering) (values ++ found) (by simp [each, all]) post unasked cause
      rwa [List.zipWith_append each.symm, List.append_assoc, List.append_assoc] at joined

theorem failed_ahead (first : Consulting posts deeds (.error error))
    (others : List (UInt64 × InstanceId)) : Consulting (posts ++ others) deeds (.error error) := by
  cases first with
  | failed answering values each post unasked cause =>
    rw [List.append_assoc, List.cons_append]
    exact failed answering values each post (unasked ++ others) cause

theorem single {index : UInt64} {extractor after : InstanceId} {answer : Except DispatchError Value}
    (extraction : Extraction index.toNat extractor deeds answer after) :
    Consulting [(index, extractor)] deeds (answer.map ([·])) := by
  cases extraction with
  | asked answer =>
    cases answer with
    | error cause => exact failed [] [] rfl (index, extractor) [] cause
    | ok value => exact answered [(index, extractor)] [value] rfl

theorem members {index : UInt64} {extractors after : List InstanceId}
    (course : InTurn (Extraction index.toNat) extractors deeds result after) :
    Consulting (extractors.map (index, ·)) deeds result := by
  induction course with
  | done => exact answered [] [] rfl
  | next first _ ih => exact (single first).append ih
  | failed first => exact (single first).failed_ahead _

end Consulting

/-! ### What the parameters receive -/

/-- What a parameter receives: nothing, the value of its one extractor, or the array of the values of
several. -/
def Slots.received : List Value → Option Value
  | [] => none
  | [value] => some value
  | first :: second :: rest => some (.array (first :: second :: rest))

theorem Slots.received_eq_none_iff {values : List Value} : Slots.received values = none ↔ values = [] := by
  match values with
  | [] => simp [received]
  | [value] => simp [received]
  | first :: second :: rest => simp [received]

/-- The posts of all parameters, by ascending index. -/
def postsOf (entries : List (UInt64 × OneOrMany InstanceId)) : List (UInt64 × InstanceId) :=
  entries.flatMap fun slot => slot.2.toList.map (slot.1, ·)

def valuesFor (index : UInt64) (posts : List (UInt64 × InstanceId)) (values : List Value) : List Value :=
  ((posts.zip values).filter fun answer => decide (answer.1.1 = index)).map (·.2)

theorem valuesFor_append {index : UInt64} {posts others : List (UInt64 × InstanceId)}
    {values more : List Value} (each : values.length = posts.length) :
    valuesFor index (posts ++ others) (values ++ more) =
      valuesFor index posts values ++ valuesFor index others more := by
  unfold valuesFor
  rw [List.zip_append each.symm, List.filter_append, List.map_append]

theorem valuesFor_same {index : UInt64} {posts : List (UInt64 × InstanceId)} {values : List Value}
    (each : values.length = posts.length) (same : ∀ post ∈ posts, post.1 = index) :
    valuesFor index posts values = values := by
  unfold valuesFor
  rw [List.filter_eq_self.mpr, List.map_snd_zip (Nat.le_of_eq each)]
  exact fun answer among => decide_eq_true (same answer.1 (List.of_mem_zip among).1)

theorem valuesFor_other {index : UInt64} {posts : List (UInt64 × InstanceId)} {values : List Value}
    (apart : ∀ post ∈ posts, post.1 ≠ index) : valuesFor index posts values = [] := by
  unfold valuesFor
  rw [List.filter_eq_nil_iff.mpr, List.map_nil]
  exact fun answer among same => apart answer.1 (List.of_mem_zip among).1 (of_decide_eq_true same)

/-- Entries that are no compositions of less than two. -/
def Grouped (entries : List (UInt64 × OneOrMany InstanceId)) : Prop :=
  ∀ slot ∈ entries, OneOrMany.ofList? slot.2.toList = some slot.2

theorem Filling.consults {slot after : UInt64 × OneOrMany InstanceId} {deeds : List Deed}
    {result : Except DispatchError (UInt64 × Value)} (course : Filling slot deeds result after)
    (grouped : OneOrMany.ofList? slot.2.toList = some slot.2) :
    ∃ answers, Consulting (slot.2.toList.map (slot.1, ·)) deeds answers ∧
      ((∃ error, answers = .error error ∧ result = .error error) ∨
        ∃ values value, answers = .ok values ∧ result = .ok (slot.1, value) ∧
          Slots.received values = some value) := by
  cases course with
  | @one index extractor _ result course =>
    refine ⟨_, Consulting.single course, ?_⟩
    cases result with
    | error error => exact .inl ⟨error, rfl, rfl⟩
    | ok value => exact .inr ⟨[value], value, rfl, rfl, rfl⟩
  | @many index extractors _ result course =>
    have consulting := Consulting.members course
    refine ⟨result, consulting, ?_⟩
    cases result with
    | error error => exact .inl ⟨error, rfl, rfl⟩
    | ok values =>
      refine .inr ⟨values, .array values, rfl, rfl, ?_⟩
      have length := consulting.length_eq
      match extractors, grouped, values with
      | first :: second :: rest, _, value :: other :: more => rfl
      | first :: second :: rest, _, [] => cases length
      | first :: second :: rest, _, [value] => cases length

theorem consults_of_fillings {entries others : List (UInt64 × OneOrMany InstanceId)} {deeds : List Deed}
    {result : Except DispatchError (List (UInt64 × Value))}
    (course : InTurn Filling entries deeds result others)
    (ascending : entries.Pairwise fun a b => a.1 < b.1) (grouped : Grouped entries) :
    ∃ answers, Consulting (postsOf entries) deeds answers ∧
      ((∃ error, answers = .error error ∧ result = .error error) ∨
        ∃ values filled, answers = .ok values ∧ result = .ok filled ∧
          ∀ index, filled.lookup index = Slots.received (valuesFor index (postsOf entries) values)) := by
  induction course with
  | done => exact ⟨.ok [], .answered [] [] rfl, .inr ⟨[], [], rfl, rfl, fun _ => rfl⟩⟩
  | @next slot after rest others deeds more value result first later ih =>
    obtain ⟨above, onward⟩ := List.pairwise_cons.mp ascending
    obtain ⟨answers, consulting, ⟨error, _, wrong⟩ | ⟨values, found, rfl, same, received⟩⟩ :=
      first.consults (grouped slot (List.mem_cons_self ..))
    · cases wrong
    · cases same
      obtain ⟨answers, consultings, outcome⟩ :=
        ih onward fun other among => grouped other (List.mem_cons_of_mem _ among)
      refine ⟨_, consulting.append consultings, ?_⟩
      rcases outcome with ⟨error, rfl, rfl⟩ | ⟨others, filled, rfl, rfl, each⟩
      · exact .inl ⟨error, rfl, rfl⟩
      · refine .inr ⟨values ++ others, (slot.1, found) :: filled, rfl, rfl, ?_⟩
        intro index
        show ((slot.1, found) :: filled).lookup index =
          Slots.received (valuesFor index (slot.2.toList.map (slot.1, ·) ++ postsOf rest) _)
        rw [valuesFor_append consulting.length_eq, OrderedMap.lookup_entry]
        -- The values of this entry are all for one parameter, and none behind it are for the same.
        by_cases here : index = slot.1
        · subst here
          have own : ∀ post ∈ slot.2.toList.map (slot.1, ·), post.1 = slot.1 := by
            intro post among
            obtain ⟨id, _, rfl⟩ := List.mem_map.mp among
            rfl
          have apart : ∀ post ∈ postsOf rest, post.1 ≠ slot.1 := by
            intro post among same
            obtain ⟨other, there, inside⟩ := List.mem_flatMap.mp among
            obtain ⟨id, _, rfl⟩ := List.mem_map.mp inside
            exact KeyOrder.irrefl slot.1 (same ▸ above other there : slot.1 < slot.1)
          rw [if_pos rfl, valuesFor_same consulting.length_eq own, valuesFor_other apart,
            List.append_nil, received]
        · have apart : ∀ post ∈ slot.2.toList.map (slot.1, ·), post.1 ≠ index := by
            intro post among same
            obtain ⟨id, _, rfl⟩ := List.mem_map.mp among
            exact here same.symm
          rw [if_neg here, valuesFor_other apart, List.nil_append, each]
  | @failed slot after rest deeds error first =>
    obtain ⟨answers, consulting, ⟨cause, rfl, same⟩ | ⟨values, found, _, wrong, _⟩⟩ :=
      first.consults (grouped slot (List.mem_cons_self ..))
    · cases same
      exact ⟨_, consulting.failed_ahead _, .inl ⟨error, rfl, rfl⟩⟩
    · cases wrong

/-- The slots of a step whose extractors have all answered. -/
structure Slots.Receive (arity : Nat) (staff : List (ExtractorDefinition × InstanceId))
    (values : List Value) (slots : Slots) : Prop where
  length : slots.length = arity
  each : ∀ index : UInt64, index.toNat < arity → slots[index.toNat]? = some (received
    (((staff.zip values).filter fun answer => decide (answer.1.1.index = index)).map (·.2)))
  vacant : ∀ index : UInt64, index.toNat < arity →
    (slots[index.toNat]? = some none ↔ ∀ post ∈ staff, post.1.index ≠ index)

theorem valuesFor_staff (index : UInt64) (staff : List (ExtractorDefinition × InstanceId))
    (values : List Value) :
    valuesFor index (staff.map fun post => (post.1.index, post.2)) values =
      ((staff.zip values).filter fun answer => decide (answer.1.1.index = index)).map (·.2) := by
  unfold valuesFor
  rw [List.zip_map_left, List.filter_map, List.map_map]
  rfl

theorem Slots.receive_place {arity : Nat} {staff : List (ExtractorDefinition × InstanceId)}
    {values : List Value} {filled : List (UInt64 × Value)} (length : values.length = staff.length)
    (each : ∀ index, filled.lookup index =
      received (valuesFor index (staff.map fun post => (post.1.index, post.2)) values)) :
    Slots.Receive arity staff values (Slots.place arity filled) := by
  have placed : ∀ index : UInt64, index.toNat < arity →
      (Slots.place arity filled)[index.toNat]? = some (received
        (((staff.zip values).filter fun answer => decide (answer.1.1.index = index)).map (·.2))) := by
    intro index below
    rw [place, List.getElem?_map, List.getElem?_range below, Option.map_some, UInt64.ofNat_toNat, each,
      valuesFor_staff]
  refine ⟨by simp [place], placed, ?_⟩
  intro index below
  rw [placed index below, Option.some_inj, received_eq_none_iff, List.map_eq_nil_iff,
    List.filter_eq_nil_iff]
  constructor
  · intro none post among same
    rw [← List.map_fst_zip (Nat.le_of_eq length.symm)] at among
    obtain ⟨answer, there, rfl⟩ := List.mem_map.mp among
    exact none answer there (decide_eq_true same)
  · intro none answer there same
    exact none answer.1 (List.of_mem_zip there).1 (of_decide_eq_true same)

/-! ### The turn of a step -/

section Turn

variable [Inhabited σ] (catalogue : Catalogue σ υ) (event : Event)

def Step.act (slots : Slots) : Action (Step × RunState σ υ) DispatchError Value :=
  Action.bind (Step.activate catalogue slots) fun value =>
    Action.bind (Action.within (·.2) (fun run visited => (visited.1, run)) checkDeadline) fun _ =>
      Action.pure value

/-- A step asks its extractors one after another. It ends with the first that fails; otherwise it goes on
to its method, with what the parameters have received. -/
def Step.TakesTurn (arity : Nat) (staff : List (ExtractorDefinition × InstanceId)) (step : Step)
    (run : RunState σ υ) : Prop :=
  ∃ deeds answers after, Performed catalogue event run deeds after ∧
    Consulting (staff.map fun post => (post.1.index, post.2)) deeds answers ∧
    match answers with
    | .error error => Step.run catalogue event (step, run) = (.error error, (step, after))
    | .ok values => ∃ slots, Slots.Receive arity staff values slots ∧
        Step.run catalogue event (step, run) = Step.act catalogue slots (step, after)

theorem Step.run_of_slots {step : Step} {run : RunState σ υ} {slots : Slots}
    (filled : (step.slots catalogue event run.world).1 = .ok slots) :
    Step.run catalogue event (step, run) = Step.act catalogue slots
      (step, { run with world := (step.slots catalogue event run.world).2 }) := by
  simp only [Step.run, RunState.onWorld, Action.within_apply, filled, Step.act, Action.bind]
  rcases Step.activate catalogue slots
    (step, { run with world := (step.slots catalogue event run.world).2 }) with
    ⟨error | value, used, later⟩
  · rfl
  · rcases checked : checkDeadline later with ⟨error | _, last⟩
    · simp only [checked]
    · simp only [checked, Action.pure]

theorem Step.takesTurn {step : Step} {staff : List (ExtractorDefinition × InstanceId)}
    (reaches : step.reached = step.extractors.entries) (grouped : Grouped step.extractors.entries)
    (posts : (staff.map fun post => (post.1.index, post.2)) = postsOf step.extractors.entries)
    (run : RunState σ υ) :
    step.TakesTurn catalogue event step.document.arity.toNat staff run := by
  obtain ⟨deeds, result, aside, extraction, slots⟩ := step.slots_fill catalogue event run.world
  rw [reaches] at extraction
  obtain ⟨answers, consulting, outcome⟩ :=
    consults_of_fillings extraction step.extractors.ordered grouped
  rw [← posts] at consulting outcome
  refine ⟨deeds, answers, _, aside run.context, consulting, ?_⟩
  rcases outcome with ⟨error, rfl, rfl⟩ | ⟨values, filled, rfl, rfl, received⟩
  · simp only [Step.run, RunState.onWorld, Action.within_apply, slots, Except.map]
  · have length : values.length = staff.length := by
      rw [consulting.length_eq, List.length_map]
    exact ⟨_, Slots.receive_place length received, Step.run_of_slots catalogue event slots⟩

omit [Inhabited σ] catalogue event in
theorem sweep_failed {State Error α β : Type} {visit : Action (α × State) Error β} {front back : List α}
    {element used : α} {shared between after : State} {values : List β} {others : List α}
    {error : Error} (led : Action.sweep visit (front, shared) = (.ok values, (others, between)))
    (failed : visit (element, between) = (.error error, (used, after))) :
    Action.sweep visit (front ++ element :: back, shared) =
      (.error error, (others ++ used :: back, after)) := by
  induction front generalizing shared values others with
  | nil =>
    simp only [Action.sweep, Prod.mk.injEq, Except.ok.injEq] at led
    obtain ⟨rfl, rfl, rfl⟩ := led
    simp only [List.nil_append, Action.sweep, failed]
  | cons first rest ih =>
    simp only [List.cons_append, Action.sweep] at led ⊢
    rcases seen : visit (first, shared) with ⟨error | value, visited, reached⟩
    · simp only [seen, Prod.mk.injEq, reduceCtorEq, false_and] at led
    · rcases swept : Action.sweep visit (rest, reached) with ⟨error | found, behind, last⟩
      · simp only [seen, swept, Except.map, Prod.mk.injEq, reduceCtorEq, false_and] at led
      · simp only [seen, swept, Except.map, Prod.mk.injEq, Except.ok.injEq] at led
        obtain ⟨_, rfl, rfl⟩ := led
        simp only [ih swept, Except.map, List.cons_append]

theorem Pipeline.run_failed {pipeline : Pipeline} {column : Nat} {step used : Step} {world : World σ υ}
    {responses : List Value} {visited : List Step} {run after : RunState σ υ} {error : DispatchError}
    (stands : pipeline.steps[column]? = some step)
    (led : Action.sweep (Step.run catalogue event) (pipeline.steps.take column, ⟨world, .empty⟩) =
      (.ok responses, (visited, run)))
    (failed : Step.run catalogue event (step, run) = (.error error, (used, after))) :
    Pipeline.run catalogue event (pipeline, world) = (.error error,
      ({ pipeline with steps := visited ++ used :: pipeline.steps.drop (column + 1) },
        after.world)) := by
  obtain ⟨inside, rfl⟩ := List.getElem?_eq_some_iff.mp stands
  have shape : pipeline.steps = pipeline.steps.take column ++
      pipeline.steps[column] :: pipeline.steps.drop (column + 1) := by
    rw [← List.drop_eq_getElem_cons inside, List.take_append_drop]
  have swept := @sweep_failed _ _ _ _ _ _ (pipeline.steps.drop (column + 1)) _ _ _ _ _ _ _ _ led failed
  rw [← shape] at swept
  simp only [Pipeline.run, swept]
  rfl

end Turn

/-! ### Definitions and arguments -/

section Steps

variable [Inhabited σ] {catalogue : Catalogue σ υ} {compilation : Compilation} {type : TypeToken}
  {method : String} {entry : MiddlewareDocument} {step current : Step} {world after : World σ υ}

omit [Inhabited σ] in
theorem bounded_keys (recipes : entry.extractors = compilation.extractorRecipes type method)
    (bounded : ∀ definition ∈ compilation.store.extractors type method,
      definition.index.toNat + 1 < UInt64.size) :
    ∀ index ∈ entry.extractors.keys, index.toNat + 1 < UInt64.size := by
  intro index among
  rw [recipes, compilation.mem_keys_extractorRecipes] at among
  obtain ⟨definition, declared, rfl⟩ := among
  exact bounded definition declared

omit [Inhabited σ] in
theorem mem_demands (recipes : entry.extractors = compilation.extractorRecipes type method)
    {definition : ExtractorDefinition}
    (declared : definition ∈ compilation.store.extractors type method) :
    compilation.parameterDemand type method definition ∈ entry.demands := by
  have keyed : definition.index ∈ entry.extractors.keys := by
    rw [recipes]
    exact (compilation.mem_keys_extractorRecipes type method).mpr ⟨definition, declared, rfl⟩
  obtain ⟨slot, among, same⟩ := List.mem_map.mp keyed
  have found := OrderedMap.get?_of_mem among
  rw [recipes, compilation.get?_extractorRecipes] at found
  refine List.mem_flatMap.mpr ⟨slot, among, List.mem_map.mpr
    ⟨compilation.parameterRecipe type method definition, ?_, rfl⟩⟩
  rw [OneOrMany.toList_of_ofList? found]
  exact List.mem_map_of_mem (List.mem_filter.mpr ⟨declared, decide_eq_true same.symm⟩)

theorem Step.serves (recipes : entry.extractors = compilation.extractorRecipes type method)
    (bounded : ∀ definition ∈ compilation.store.extractors type method,
      definition.index.toNat + 1 < UInt64.size)
    (built : Step.build catalogue entry world = (.ok step, after)) (same : current.fresh = step.fresh) :
    current.Staffed compilation type method (step.staff compilation type method) ∧
      ∀ event (run : RunState σ υ), current.TakesTurn catalogue event entry.arity.toNat
        (step.staff compilation type method) run := by
  have paired := (Step.build_makes built).2
  have document : step.document = entry := (Step.build_built built).document
  have extractors : current.extractors = step.extractors := by
    show current.fresh.extractors = step.fresh.extractors
    rw [same]
  have indexes : current.document.extractors = entry.extractors := by
    rw [← document]
    show current.fresh.document.extractors = step.fresh.document.extractors
    rw [same]
  have staff : current.staff compilation type method = step.staff compilation type method := by
    unfold Step.staff
    rw [extractors]
  rw [← extractors] at paired
  have arity : entry.arity = current.document.arity := by
    unfold MiddlewareDocument.arity
    rw [indexes]
  have keys : current.extractors.keys = current.document.extractors.keys := by
    rw [indexes]
    exact (map_eq_map_of_paired (paired.imp fun _ _ related => related.1)).symm
  have grouped : Grouped current.extractors.entries := by
    intro slot among
    obtain ⟨ids, _, shape⟩ := Step.extractors_for recipes paired slot.1
    have found := shape.symm.trans (OrderedMap.get?_of_mem among)
    rw [OneOrMany.toList_of_ofList? found, found]
  rw [← staff, arity]
  refine ⟨Step.staffed recipes paired, fun event run => ?_⟩
  apply Step.takesTurn catalogue event _ grouped (Step.map_staff_indexes recipes paired) run
  exact Step.reached_eq keys (indexes ▸ bounded_keys recipes bounded)

end Steps

/-- The recipes of a method are grouped by parameter, as its definitions were declared, and so are the
recipes of every entry of a compiled document. A dispatcher with such an entry makes an instance for each
definition, and keeps them for as long as it is used. When the step runs, its extractors are asked by
ascending index, those of one index as they were declared; if one fails, the run fails with it, and
otherwise the method is given a slot for every index below the arity. No dispatcher is built for an entry
with an extractor that has no type. -/
theorem parameters_reach_arguments [Inhabited σ] (catalogue : Catalogue σ υ) (compilation : Compilation)
    (type : TypeToken) (method : String)
    (bounded : ∀ definition ∈ compilation.store.extractors type method,
      definition.index.toNat + 1 < UInt64.size) :
    (∀ index, (index ∈ (compilation.extractorRecipes type method).keys ↔
        ∃ definition ∈ compilation.store.extractors type method, definition.index = index) ∧
      (compilation.extractorRecipes type method).get? index = OneOrMany.ofList?
        ((compilation.definitionsFor type method index).map
          (compilation.parameterRecipe type method))) ∧
    (∀ candidates, ∀ document ∈ compilation.compile candidates, ∀ entry ∈ document.middleware,
      ∃ target, entry.activation.target = some target ∧
        entry.extractors = compilation.extractorRecipes target entry.activation.method) ∧
    ∀ (documents : List PipelineDocument) (row column : Nat) (document : PipelineDocument)
      (entry : MiddlewareDocument), documents[row]? = some document →
      document.middleware[column]? = some entry →
      entry.extractors = compilation.extractorRecipes type method →
        (∀ definition ∈ compilation.store.extractors type method,
          definition.index.toNat < entry.arity.toNat) ∧
        (∀ (world after : World σ υ) (dispatcher : Dispatcher),
          Dispatcher.build catalogue documents world = (.ok dispatcher, after) →
          ∃ staff ids between reached,
            Makes catalogue ((documents.take row).flatMap PipelineDocument.demands ++
              document.demandsBefore column) ids world between ∧
            Makes catalogue (staff.map fun post => compilation.parameterDemand type method post.1)
              (staff.map (·.2)) between reached ∧
            ∀ calls, ∃ pipeline step,
              (dispatcher.used catalogue calls).pipelines[row]? = some pipeline ∧
              pipeline.steps[column]? = some step ∧ step.Staffed compilation type method staff ∧
              ∀ event, (∀ run, step.TakesTurn catalogue event entry.arity.toNat staff run) ∧
                ∀ world responses visited run error used after,
                  Action.sweep (Step.run catalogue event) (pipeline.steps.take column, ⟨world, .empty⟩) =
                    (.ok responses, (visited, run)) →
                  Step.run catalogue event (step, run) = (.error error, (used, after)) →
                  Pipeline.run catalogue event (pipeline, world) = (.error error,
                    ({ pipeline with steps := visited ++ used :: pipeline.steps.drop (column + 1) },
                      after.world))) ∧
        ∀ definition ∈ compilation.store.extractors type method, definition.type = none →
          compilation.parameterDemand type method definition ∈
            documents.flatMap PipelineDocument.demands ∧
          ∀ earlier later (world : World σ υ), documents.flatMap PipelineDocument.demands =
            earlier ++ compilation.parameterDemand type method definition :: later →
              Dispatcher.FailsAt catalogue documents world earlier
                (compilation.parameterDemand type method definition) .missingType ∨
              ∃ before first between error, earlier = before ++ first :: between ∧
                Dispatcher.FailsAt catalogue documents world before first error := by
  refine ⟨fun index => ⟨compilation.mem_keys_extractorRecipes type method,
    compilation.get?_extractorRecipes type method index⟩, ?_, ?_⟩
  · intro candidates document compiled entry among
    rw [Compilation.compile_eq_map_routes, List.mem_map] at compiled
    obtain ⟨route, _, rfl⟩ := compiled
    exact compilation.extractors_of_mem_middlewareStack among
  · intro documents row column document entry listed stacked recipes
    refine ⟨?_, ?_, ?_⟩
    · intro definition declared
      apply MiddlewareDocument.toNat_lt_arity (bounded_keys recipes bounded)
      rw [recipes]
      exact (compilation.mem_keys_extractorRecipes type method).mpr ⟨definition, declared, rfl⟩
    · intro world after dispatcher ran
      obtain ⟨pipeline, step, ids, between, reached, placed, stands, before, built⟩ :=
        Dispatcher.build_places listed stacked ran
      obtain ⟨made, paired⟩ := Step.build_makes built
      refine ⟨step.staff compilation type method, ids, between, reached, before, ?_, ?_⟩
      · rw [Step.map_staff_demands recipes paired, Step.map_staff_instances recipes paired]
        exact made
      · intro calls
        obtain ⟨later, current, there, here, same⟩ :=
          Dispatcher.step_of_fresh (dispatcher.fresh_used catalogue calls) placed stands
        obtain ⟨staffed, turns⟩ := Step.serves recipes bounded built same
        refine ⟨later, current, there, here, staffed, fun event => ⟨turns event, ?_⟩⟩
        intro world responses visited run error used after led failed
        exact Pipeline.run_failed catalogue event here led failed
    · intro definition declared untyped
      have missing : (compilation.parameterDemand type method definition).recipe.type = none :=
        (compilation.gives_parameterRecipe type method definition).type.trans untyped
      refine ⟨?_, fun earlier later world shape => Dispatcher.failsAt_untyped missing shape world⟩
      refine List.mem_flatMap.mpr ⟨document, List.mem_of_getElem? listed, ?_⟩
      refine List.mem_append_right _ (List.mem_flatMap.mpr ⟨entry, List.mem_of_getElem? stacked, ?_⟩)
      exact mem_demands recipes declared

/-! ### Three definitions for two parameters -/

def meter : TypeToken := ⟨0, "Meter"⟩

def dial : TypeToken := ⟨1, "Dial"⟩

def meterCatalogue : Catalogue Unit Unit := fun _ => Builtin.eventType ()

def meterStore : MetadataStore :=
  MetadataStore.empty.annotate meter [.method "read"
    [.parameter ⟨2, some dial, OrderedMap.empty⟩, .parameter ⟨0, some dial, OrderedMap.empty⟩,
      .parameter ⟨2, some dial, OrderedMap.empty⟩]]

def meterCompilation : Compilation := ⟨fun _ => [], meterStore, .standard⟩

def meterEntry : MiddlewareDocument := meterCompilation.handlerDocument meter "read" .perCall

def meterStep : Step := ⟨meterEntry, OrderedMap.ofList [(0, .one 0), (2, .many [1, 2])]⟩

def meterDispatcher : Dispatcher := ⟨[⟨[], [meterStep]⟩]⟩

theorem parameters_of_meter :
    (∀ definition ∈ meterCompilation.store.extractors meter "read",
      definition.index.toNat + 1 < UInt64.size) ∧
    (Dispatcher.build meterCatalogue [⟨[meterEntry], []⟩] (World.start ())).1 = .ok meterDispatcher ∧
    ∃ staff, meterStep.Staffed meterCompilation meter "read" staff ∧
      ∀ event run, meterStep.TakesTurn meterCatalogue event 3 staff run := by
  have bounded : ∀ definition ∈ meterCompilation.store.extractors meter "read",
      definition.index.toNat + 1 < UInt64.size := by decide
  have built : (Dispatcher.build meterCatalogue [⟨[meterEntry], []⟩] (World.start ())).1 =
      .ok meterDispatcher := by decide +kernel
  obtain ⟨_, _, steps⟩ := parameters_reach_arguments meterCatalogue meterCompilation meter "read" bounded
  obtain ⟨_, serves, _⟩ := steps [⟨[meterEntry], []⟩] 0 0 _ meterEntry rfl rfl rfl
  obtain ⟨staff, _, _, _, _, _, used⟩ := serves (World.start ()) _ meterDispatcher (Prod.ext built rfl)
  obtain ⟨pipeline, step, placed, stands, staffed, turns⟩ := used []
  cases placed
  cases stands
  exact ⟨bounded, built, staff, staffed, fun event => (turns event).1⟩

end EventPipeline
