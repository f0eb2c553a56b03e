import EventPipeline.Builtin.Extractors
import EventPipeline.Builtin.Middleware
import EventPipeline.Proofs.Dispatch.Manned
import EventPipeline.Proofs.Dispatch.Twin

/-! Pipelines without memory.

Where every unit asks for a new instance each time, a dispatch leaves nothing behind that a later one could
see: the dispatcher is as it was built, its filters and extractors are as they were made, and what else has
been bound, merged, logged or shared does not tell. So a dispatcher that has been used comes to the same as
one that has just been built, over whatever world. -/

namespace EventPipeline

open Json

variable {σ υ α β : Type} [Inhabited σ]

/-- Documents whose units are not shared, over types that are constructed without dependencies, filters and
extractors that leave the part of themselves alone that they answer by, and methods that are functions of
their instance, their arguments and the run's context. -/
structure Memoryless (catalogue : Catalogue σ υ) (part : Instance σ → β)
    (documents : List PipelineDocument) : Prop where
  perCall : ∀ document ∈ documents, ∀ entry ∈ document.middleware, entry.activation.shared = false
  unattached : Unattached catalogue documents
  filters : ∀ document ∈ documents, ∀ key ∈ document.keys, key.view = .filter →
    Unmoved part (accepts catalogue) key.type
  extractors : ∀ document ∈ documents, ∀ key ∈ document.keys, key.view = .extractor →
    Unmoved part (extract catalogue) key.type
  methods : ∀ document ∈ documents, ∀ entry ∈ document.middleware, ∀ type,
    entry.activation.target = some type → Functional catalogue type entry.activation.method

def Meets (served reserved : List (Demand × InstanceId)) (view : View) (id twin : InstanceId) : Prop :=
  ∃ recipe, (⟨view, recipe⟩, id) ∈ served ∧ (⟨view, recipe⟩, twin) ∈ reserved

/-- Two worlds that stand ready for one list of documents, at times that are apart by a delay. -/
structure World.Abreast (catalogue : Catalogue σ υ) (part : Instance σ → β)
    (documents : List PipelineDocument) (served reserved : List (Demand × InstanceId)) (delay : Int)
    (world other : World σ υ) : Prop where
  manned : world.Manned catalogue part documents served
  remanned : other.Manned catalogue part documents reserved
  clocks : world.clock.Apart delay other.clock

variable {catalogue : Catalogue σ υ} {part : Instance σ → β} {documents : List PipelineDocument}
  {served reserved : List (Demand × InstanceId)} {delay : Int}

/-! ### Side by side -/

section Abreast

theorem evaluate_twin (listed : ∀ pair ∈ served, pair.1 ∈ documents.flatMap PipelineDocument.demands)
    {evaluate : InstanceId → Event → Action (World σ υ) Cause α} (evaluates : Evaluates evaluate)
    {view : View} (unmoved : ∀ document ∈ documents, ∀ key ∈ document.keys, key.view = view →
      Unmoved part evaluate key.type)
    (event : Event) {id twin : InstanceId} (meets : Meets served reserved view id twin) :
    Action.Twin (World.Abreast catalogue part documents served reserved delay) (evaluate id event)
      (evaluate twin event) := by
  obtain ⟨recipe, post, repost⟩ := meets
  have still : ∀ type, recipe.type = some type → Unmoved part evaluate type := by
    intro type named
    obtain ⟨document, declared, among⟩ := PipelineDocument.mem_keys_of_demand (listed _ post) named
    exact unmoved document declared ⟨type, view⟩ among rfl
  refine Action.Twin.of_eq fun world other ⟨manned, remanned, clocks⟩ => ?_
  obtain ⟨held, product, one, has, type, same⟩ := manned.posts _ post
  obtain ⟨_, again, two, also, retype, resame⟩ := remanned.posts _ repost
  obtain rfl := product.unique again world
  have alike := (still held.type product.named).answered event id twin one two world other type retype
    (same.trans resame.symm) has also
  refine ⟨alike, manned.evaluated evaluates post still event,
    remanned.evaluated evaluates repost still event, ?_⟩
  rw [evaluates.clock, evaluates.clock]
  exact clocks

theorem create_abreast (unattached : Unattached catalogue documents) {key : BindingKey}
    (needed : ∃ document ∈ documents, key ∈ document.keys) (configuration : Configuration)
    {world other : World σ υ}
    (abreast : World.Abreast catalogue part documents served reserved delay world other) :
    ∃ after behind, World.Abreast catalogue part documents served reserved delay after behind ∧
      ((∃ error,
        Factory.createInstance catalogue (some key.type) key.view configuration false world =
          (.error error, after) ∧
        Factory.createInstance catalogue (some key.type) key.view configuration false other =
          (.error error, behind)) ∨
      ∃ id twin held, held.type = key.type ∧
        Factory.createInstance catalogue (some key.type) key.view configuration false world =
          (.ok id, after) ∧
        Factory.createInstance catalogue (some key.type) key.view configuration false other =
          (.ok twin, behind) ∧
        after.Has id held ∧ behind.Has twin held ∧
        (∀ pair ∈ served, id ≠ pair.2) ∧ ∀ pair ∈ reserved, twin ≠ pair.2) := by
  obtain ⟨manned, remanned, clocks⟩ := abreast
  obtain ⟨outcome, standalone, settled, still⟩ := manned.isOpen.creates unattached needed configuration
  obtain ⟨again, restandalone, resettled, restill⟩ :=
    remanned.isOpen.creates unattached needed configuration
  obtain rfl := standalone.unique restandalone catalogue world
  refine ⟨_, _, ⟨manned.created settled still, remanned.created resettled restill, ?_⟩, ?_⟩
  · rw [settled.clock, resettled.clock]
    exact clocks
  · cases outcome with
    | error error =>
      exact .inl ⟨.resolution error, Prod.ext settled.answer rfl, Prod.ext resettled.answer rfl⟩
    | ok blueprint =>
      exact .inr ⟨world.nextId, other.nextId, blueprint.instance key configuration, rfl,
        Prod.ext settled.answer rfl, Prod.ext resettled.answer rfl, settled.made blueprint rfl,
        resettled.made blueprint rfl, fun _ => manned.ne_nextId, fun _ => remanned.ne_nextId⟩

theorem invoke_abreast {type : TypeToken} {method : String} (functional : Functional catalogue type method)
    (slots : Slots) {cutoff recutoff : Option (Cutoff DispatchError)}
    (cutoffs : Option.Rel (Cutoff.Apart delay) cutoff recutoff) {id twin : InstanceId}
    {held : Instance σ} (typed : held.type = type) {run other : RunState σ υ}
    (has : run.world.Has id held) (also : other.world.Has twin held)
    (new : ∀ pair ∈ served, id ≠ pair.2) (renew : ∀ pair ∈ reserved, twin ≠ pair.2)
    (paired : RunState.Paired (World.Abreast catalogue part documents served reserved delay)
      (RunContext.Apart delay) run other) :
    ∃ outcome after behind, invokeWithin catalogue cutoff id method slots run = (outcome, after) ∧
      invokeWithin catalogue recutoff twin method slots other = (outcome, behind) ∧
      RunState.Paired (World.Abreast catalogue part documents served reserved delay) (RunContext.Apart delay)
        after behind := by
  obtain ⟨⟨manned, remanned, clocks⟩, contexts⟩ := paired
  obtain ⟨same, apart⟩ := functional delay held slots cutoff recutoff id twin run other typed has also
    cutoffs ⟨clocks, contexts⟩
  exact ⟨_, _, (invokeWithin catalogue recutoff twin method slots other).2, rfl,
    Prod.ext same.symm rfl, ⟨manned.invoked new cutoff method slots run.context,
      remanned.invoked renew recutoff method slots other.context, apart.clock⟩, apart.context⟩

theorem ActivationUnit.obtain_perCall {unit : ActivationUnit} (perCall : unit.shared = false)
    (world : World σ υ) :
    ActivationUnit.obtain catalogue (unit, world) =
      ((Factory.createInstance catalogue unit.target .component unit.configuration false world).1, unit,
        (Factory.createInstance catalogue unit.target .component unit.configuration false world).2) := by
  simp only [ActivationUnit.obtain, perCall, Bool.false_eq_true, if_false]

theorem Step.activate_perCall {step : Step} (perCall : step.document.activation.shared = false)
    (slots : Slots) (run : RunState σ υ) :
    Step.activate catalogue slots (step, run) =
      match Factory.createInstance catalogue step.document.activation.target .component
          step.document.activation.configuration false
          { run.world with clock := (cutoffOf run.context.deadline run.world.clock).2 } with
      | (.error error, world) =>
        (.error (.activation (.ofFactory error)), (step, ⟨world, run.context⟩))
      | (.ok target, world) =>
        match invokeWithin catalogue (cutoffOf run.context.deadline run.world.clock).1 target
            step.document.activation.method slots ⟨world, run.context⟩ with
        | (outcome, after) =>
          (outcome >>= fun answer => answer.mapError fun error => .activation (.invoke error),
            (step, after)) := by
  simp only [Step.activate, ActivationUnit.activateWithin, ActivationUnit.obtain_perCall perCall,
    RunState.changeClock]
  rcases Factory.createInstance catalogue step.document.activation.target .component
    step.document.activation.configuration false
    { run.world with clock := (cutoffOf run.context.deadline run.world.clock).2 } with
    ⟨error | target, world⟩
  · rfl
  · simp only
    rcases invokeWithin catalogue (cutoffOf run.context.deadline run.world.clock).1 target
      step.document.activation.method slots ⟨world, run.context⟩ with ⟨error | error | value, after⟩
    · rfl
    · rfl
    · rfl

end Abreast

namespace Memoryless

variable (memoryless : Memoryless catalogue part documents)

include memoryless

theorem activate_twin {E : InstanceId → InstanceId → Prop} {step twin : Step}
    (alike : Step.Twin E (fun entry => ∃ document ∈ documents, entry ∈ document.middleware) step twin)
    (slots : Slots) :
    Action.Twin (Action.Beside (RunState.Paired
        (World.Abreast catalogue part documents served reserved delay) (RunContext.Apart delay)) step twin)
      (Step.activate catalogue slots) (Step.activate catalogue slots) := by
  obtain ⟨document, declared, stacked⟩ := alike.fit
  have perCall := memoryless.perCall document declared step.document stacked
  rintro _ _ (@⟨run, other, ⟨manned, remanned, clocks⟩, contexts⟩)
  obtain ⟨cutoffs, started⟩ := cutoffOf_apart contexts.deadline clocks
  rw [Step.activate_perCall perCall, Step.activate_perCall (alike.document ▸ perCall), alike.document]
  cases named : step.document.activation.target with
  | none =>
    exact ⟨_, _, _, rfl, rfl, .both ⟨⟨manned.retime _, remanned.retime _, started⟩, contexts⟩⟩
  | some type =>
    obtain ⟨after, behind, abreast, made⟩ := create_abreast memoryless.unattached
      ⟨document, declared, PipelineDocument.mem_keys_of_target stacked named⟩
      step.document.activation.configuration ⟨manned.retime _, remanned.retime _, started⟩
    rcases made with ⟨error, failed, refailed⟩ |
      ⟨id, twin, held, typed, made, remade, has, also, new, renew⟩
    · simp only [failed, refailed]
      exact ⟨_, _, _, rfl, rfl, .both ⟨abreast, contexts⟩⟩
    · have functional := memoryless.methods document declared step.document stacked type named
      obtain ⟨outcome, _, _, ran, reran, still⟩ :=
        @invoke_abreast σ υ β _ catalogue part documents served reserved delay _ _ functional slots _ _
          cutoffs id twin held typed ⟨after, run.context⟩ ⟨behind, other.context⟩ has also new renew
          ⟨abreast, contexts⟩
      simp only [made, remade, ran, reran]
      exact ⟨_, _, _, rfl, rfl, .both still⟩

theorem carried (event : Event)
    (listed : ∀ pair ∈ served, pair.1 ∈ documents.flatMap PipelineDocument.demands) :
    Carried catalogue event (Meets served reserved .filter) (Meets served reserved .extractor)
      (fun entry => ∃ document ∈ documents, entry ∈ document.middleware) delay
      (World.Abreast catalogue part documents served reserved delay) where
  asked _ _ := evaluate_twin listed (accepts_evaluates catalogue) memoryless.filters event
  extracted _ _ := evaluate_twin listed (extract_evaluates catalogue) memoryless.extractors event
  activated slots _ _ alike := memoryless.activate_twin alike slots
  clocks _ _ abreast := abreast.clocks
  ticked _ _ _ _ abreast clocks := ⟨abreast.manned.retime _, abreast.remanned.retime _, clocks⟩
  reported _ _ entry abreast :=
    ⟨abreast.manned.report entry, abreast.remanned.report entry, abreast.clocks⟩

end Memoryless

/-! ### From documents to dispatchers -/

theorem twins_of_posted {pipelines repipelines : List Pipeline}
    (posted : List.Forall₂ (Pipeline.Posted fun demand id => (demand, id) ∈ served) documents pipelines)
    (reposted : List.Forall₂ (Pipeline.Posted fun demand id => (demand, id) ∈ reserved) documents
      repipelines) :
    List.Forall₂ (Pipeline.Twin (Meets served reserved .filter) (Meets served reserved .extractor)
      fun entry => ∃ document ∈ documents, entry ∈ document.middleware) pipelines repipelines := by
  apply paired_meet posted reposted
  intro document declared pipeline twin one two
  have meet : ∀ view recipe id other, (⟨view, recipe⟩, id) ∈ served →
      ((⟨view, recipe⟩ : Demand), other) ∈ reserved → Meets served reserved view id other :=
    fun view recipe id other post repost => ⟨recipe, post, repost⟩
  constructor
  · apply paired_meet one.filters two.filters
    exact fun entry _ made remade related again => related.meet again (meet .filter)
  · apply paired_meet one.steps two.steps
    intro entry stacked step other made remade
    refine ⟨remade.document.trans made.document.symm,
      ⟨document, declared, made.document.symm ▸ stacked⟩, ?_⟩
    refine fun index => lookup_related (paired_meet made.extractors remade.extractors ?_) index
    exact fun slot _ held reheld one two =>
      ⟨one.1.symm.trans two.1, one.2.meet two.2 (meet .extractor)⟩

/-- A dispatcher and its world after some events, each dispatched at a time of its own. -/
def Dispatcher.after (catalogue : Catalogue σ υ) :
    List (Event × Clock) → Dispatcher × World σ υ → Dispatcher × World σ υ
  | [], held => held
  | (event, clock) :: rest, (dispatcher, world) =>
      Dispatcher.after catalogue rest
        (Dispatcher.dispatch catalogue event (dispatcher, { world with clock })).2

namespace Memoryless

variable (memoryless : Memoryless catalogue part documents)

include memoryless

theorem after_manned {dispatcher : Dispatcher}
    (listed : ∀ pair ∈ served, pair.1 ∈ documents.flatMap PipelineDocument.demands)
    (posted : List.Forall₂ (Pipeline.Posted fun demand id => (demand, id) ∈ served) documents
      dispatcher.pipelines)
    (calls : List (Event × Clock)) {world : World σ υ}
    (manned : world.Manned catalogue part documents served) :
    ∃ used, Dispatcher.after catalogue calls (dispatcher, world) = (dispatcher, used) ∧
      used.Manned catalogue part documents served := by
  induction calls generalizing world with
  | nil => exact ⟨world, rfl, manned⟩
  | cons call rest ih =>
    obtain ⟨event, clock⟩ := call
    -- A dispatcher is a twin of itself, so that one run beside itself shows what it leaves.
    have itself : World.Abreast catalogue part documents served served 0 { world with clock }
        { world with clock } := ⟨manned.retime clock, manned.retime clock, .refl clock⟩
    obtain ⟨outcome, _, _, ran, _, ⟨abreast⟩⟩ :=
      (memoryless.carried event listed).dispatch (twins_of_posted posted posted) _ _ (.both itself)
    obtain ⟨used, run, still⟩ := ih abreast.manned
    refine ⟨used, ?_, still⟩
    rw [Dispatcher.after, ran]
    exact run

end Memoryless

/-- A dispatcher over memoryless documents forgets. After any dispatches, whatever came of them, it is as it
was built; a new one can be built over the same documents, in the world that is left or in any other that
shares none of their types; and every event comes to the same on both, with the same outcomes or the same
error, when the clock is read at the same intervals. -/
theorem dispatch_forgets (memoryless : Memoryless catalogue part documents) {dispatcher : Dispatcher}
    {start ready : World σ υ} (isOpen : start.Open documents)
    (built : Dispatcher.build catalogue documents start = (.ok dispatcher, ready))
    (calls : List (Event × Clock)) :
    ∃ used, Dispatcher.after catalogue calls (dispatcher, ready) = (dispatcher, used) ∧
      used.Open documents ∧
      ∀ elsewhere : World σ υ, elsewhere.Open documents → ∃ fresh anew,
        Dispatcher.build catalogue documents elsewhere = (.ok fresh, anew) ∧
        ∀ event delay (clock later : Clock), clock.Apart delay later →
          (Dispatcher.dispatch catalogue event (dispatcher, { used with clock })).1 =
            (Dispatcher.dispatch catalogue event (fresh, { anew with clock := later })).1 := by
  have unattached := memoryless.unattached
  obtain ⟨served, demands, posted, manned⟩ := Dispatcher.build_mans unattached part isOpen built
  have listed : ∀ pair ∈ served, pair.1 ∈ documents.flatMap PipelineDocument.demands :=
    fun pair among => demands ▸ List.mem_map_of_mem among
  obtain ⟨used, run, still⟩ := memoryless.after_manned listed posted calls manned
  refine ⟨used, run, still.isOpen, fun elsewhere alsoOpen => ?_⟩
  obtain ⟨fresh, anew, rebuilt⟩ := Dispatcher.build_again unattached isOpen built alsoOpen
  obtain ⟨reserved, _, reposted, remanned⟩ := Dispatcher.build_mans unattached part alsoOpen rebuilt
  refine ⟨fresh, anew, rebuilt, fun event delay clock later clocks => ?_⟩
  have abreast : World.Abreast catalogue part documents served reserved delay { used with clock }
      { anew with clock := later } := ⟨still.retime clock, remanned.retime later, clocks⟩
  exact ((memoryless.carried event listed).dispatch (twins_of_posted posted reposted)).outcome_eq
    (.both abreast)

/-! ### A toll road -/

/-- A filter that goes by its configuration, and privately counts how often it is asked. -/
def tallying : Behaviour Nat Nat :=
  { Behaviour.plain (some OrderedMap.empty) 0 with
    accepts := fun event => do
      let count ← OwnScript.state
      .ask (.setState (count + 1)) fun _ => do
        let properties ← OwnScript.properties
        return .ok (Builtin.namesType (properties.getD OrderedMap.empty) event.type) }

/-- Answers how often the instance was called before, after as long as the argument says, and counts all calls
on whatever instance in what is shared. -/
def tillMethod (slots : Slots) : MethodScript Nat Nat (Except InvokeError Value) := do
  let calls ← MethodScript.state
  MethodScript.setState (calls + 1)
  let total ← MethodScript.shared
  MethodScript.setShared (total + 1)
  match slots.valueOrNull 0 with
  | .int duration => do
      MethodScript.wait duration.toNat
      return .ok (.int calls)
  | _ => return .error (.handler (.ofMessage "no duration"))

def turnstile : TypeToken := ⟨0, "Turnstile"⟩

def fare : TypeToken := ⟨1, "Fare"⟩

def timer : TypeToken := ⟨2, "Timer"⟩

def till : TypeToken := ⟨3, "Till"⟩

def tollCatalogue : Catalogue Nat Nat := fun type =>
  if type = turnstile then tallying
  else if type = fare then Builtin.eventData 0
  else if type = timer then Builtin.Timeout.behaviour 0
  else { Behaviour.plain none 0 with invoke := fun _ => tillMethod }

def timerEntry : MiddlewareDocument :=
  ⟨.build (some timer) (OrderedMap.ofList [(Builtin.Timeout.budgetKey, .int 1)])
    Builtin.Timeout.methodName false, OrderedMap.empty, some 0⟩

def tillEntry : MiddlewareDocument :=
  ⟨.build (some till) OrderedMap.empty "take" false,
    OrderedMap.ofList [(0, .one ⟨some fare, OrderedMap.empty⟩)], none⟩

def tollDocument : PipelineDocument :=
  ⟨[timerEntry, tillEntry],
    [.one ⟨some turnstile, OrderedMap.ofList [(Builtin.acceptedTypeKey, .string "toll")]⟩]⟩

def toll (data : Value) : Event := Event.ofType "toll" data

theorem turnstile_accepts {id : InstanceId} {held : Instance Nat} {world : World Nat Nat}
    (type : held.type = turnstile) (has : world.Has id held) (event : Event) :
    accepts tollCatalogue id event world =
      (.ok (Builtin.namesType (held.properties.getD OrderedMap.empty) event.type),
        world.changeInstance id fun found => { found with state := held.state + 1 }) := by
  have counted := has.changeOwn fun found => { found with state := held.state + 1 }
  have asked : accepts tollCatalogue id event world =
      (.ok (Builtin.namesType (((world.changeInstance id fun found =>
          { found with state := (world.instanceAt id).state + 1 }).instanceAt id).properties.getD
            OrderedMap.empty) event.type),
        world.changeInstance id fun found =>
          { found with state := (world.instanceAt id).state + 1 }) := by
    unfold accepts
    rw [show (world.instanceAt id).type = turnstile from has.instanceAt ▸ type]
    rfl
  rw [asked, has.instanceAt, counted.instanceAt]

theorem turnstile_unmoved :
    Unmoved (fun held : Instance Nat => held.properties) (accepts tollCatalogue) turnstile where
  kept event id held world type has := by
    rw [turnstile_accepts type has]
    exact ⟨_, has.changeOwn _, rfl⟩
  answered event id twin held other world elsewhere type retype same has also := by
    rw [turnstile_accepts type has, turnstile_accepts retype also, same]

theorem fare_extract {id : InstanceId} {held : Instance Nat} {world : World Nat Nat}
    (type : held.type = fare) (has : world.Has id held) (event : Event) :
    extract tollCatalogue id event world = (.ok event.data, world) := by
  unfold extract
  rw [has.instanceAt, type]
  rfl

theorem fare_unmoved :
    Unmoved (fun held : Instance Nat => held.properties) (extract tollCatalogue) fare where
  kept event id held world type has := by
    rw [fare_extract type has]
    exact ⟨held, has, rfl⟩
  answered event id twin held other world elsewhere type retype same has also := by
    rw [fare_extract type has, fare_extract retype also]

theorem timer_functional : Functional tollCatalogue timer Builtin.Timeout.methodName := by
  apply functional_of_alike
  intro delay slots
  refine .common (.own .properties) trivial fun properties => ?_
  refine .setDeadline _ fun one other apart => ?_
  exact .log _ _ (.done _)

theorem till_functional : Functional tollCatalogue till "take" := by
  apply functional_of_alike
  intro delay slots
  refine .common (.own .state) trivial fun calls => ?_
  refine .common (.own (.setState (calls + 1))) trivial fun _ => ?_
  refine .shared fun total other => ?_
  refine .setShared (total + 1) (other + 1) ?_
  split
  · exact .common (.wait _) trivial fun _ => .done _
  · exact .done _

theorem toll_memoryless :
    Memoryless tollCatalogue (fun held : Instance Nat => held.properties) [tollDocument] where
  perCall := by decide +kernel
  unattached _ _ key _ := by
    unfold tollCatalogue
    split_ifs
    all_goals exact ⟨_, .done⟩
  filters document among := by
    obtain rfl := List.mem_singleton.mp among
    have only : ∀ key ∈ tollDocument.keys, key.view = .filter → key.type = turnstile := by
      decide +kernel
    exact fun key needed view => only key needed view ▸ turnstile_unmoved
  extractors document among := by
    obtain rfl := List.mem_singleton.mp among
    have only : ∀ key ∈ tollDocument.keys, key.view = .extractor → key.type = fare := by
      decide +kernel
    exact fun key needed view => only key needed view ▸ fare_unmoved
  methods document among entry stacked type target := by
    obtain rfl := List.mem_singleton.mp among
    rcases List.mem_pair.mp stacked with rfl | rfl
    · cases target
      exact timer_functional
    · cases target
      exact till_functional

def tollDispatcher : Dispatcher :=
  ⟨[⟨[.one 0], [⟨timerEntry, OrderedMap.empty⟩, ⟨tillEntry, OrderedMap.ofList [(0, .one 1)]⟩]⟩]⟩

def tollStart : World Nat Nat := World.start 0

def tollReady : World Nat Nat := (Dispatcher.build tollCatalogue [tollDocument] tollStart).2

def tollElsewhere : World Nat Nat :=
  ContainerCall.run tollCatalogue (World.start 7) (.bind ⟨turnstile, .filter⟩ .transient)

/-- One toll is taken, one cannot be, and one takes too long. -/
def tollCalls : List (Event × Clock) :=
  [(toll (.int 5), .start), (toll .null, ⟨10, []⟩), (toll (.int 2000000), ⟨20, [1]⟩)]

theorem toll_forgotten :
    tollStart.Open [tollDocument] ∧
    Memoryless tollCatalogue (fun held : Instance Nat => held.properties) [tollDocument] ∧
    Dispatcher.build tollCatalogue [tollDocument] tollStart = (.ok tollDispatcher, tollReady) ∧
    tollCalls.map (fun call =>
      (Dispatcher.dispatch tollCatalogue call.1 (tollDispatcher, { tollReady with clock := call.2 })).1) =
        [.ok [⟨[.null, .int 0], OrderedMap.empty⟩],
          .error (.activation (.invoke (.handler (.ofMessage "no duration")))),
          .error (.timeout 1000000)] ∧
    ∃ used fresh anew,
      Dispatcher.after tollCatalogue tollCalls (tollDispatcher, tollReady) = (tollDispatcher, used) ∧
      Dispatcher.build tollCatalogue [tollDocument] tollElsewhere = (.ok fresh, anew) ∧
      (Dispatcher.dispatch tollCatalogue (toll (.int 5))
          (tollDispatcher, { used with clock := ⟨100, [3]⟩ })).1 =
        (Dispatcher.dispatch tollCatalogue (toll (.int 5)) (fresh, { anew with clock := ⟨0, [3]⟩ })).1 := by
  have isOpen : tollStart.Open [tollDocument] :=
    ⟨World.furnished_unbound tollStart, by decide +kernel⟩
  have alsoOpen : tollElsewhere.Open [tollDocument] :=
    ⟨(World.furnished_unbound (World.start 7)).bind ⟨turnstile, .filter⟩ .transient, by decide +kernel⟩
  have built : Dispatcher.build tollCatalogue [tollDocument] tollStart = (.ok tollDispatcher, tollReady) :=
    Prod.ext (by decide +kernel) rfl
  obtain ⟨used, run, _, rebuilds⟩ := dispatch_forgets toll_memoryless isOpen built tollCalls
  obtain ⟨fresh, anew, rebuilt, alike⟩ := rebuilds tollElsewhere alsoOpen
  refine ⟨isOpen, toll_memoryless, built, by decide +kernel, used, fresh, anew, run, rebuilt, ?_⟩
  exact alike (toll (.int 5)) (-100) _ _ ⟨by decide, rfl⟩

end EventPipeline
