import EventPipeline.Proofs.Builtin.Filters
import EventPipeline.Proofs.Routing.Answers
import EventPipeline.Proofs.Routing.Compiled

/-! Routing from end to end.

A store that any calls have built is compiled, a dispatcher is built over an empty container, and an
event is dispatched. The handlers that run are then those that the calls say, in the order in which
they say it: no instance has picked up a configuration that is not its own. -/

namespace EventPipeline

open Json

variable {σ υ : Type} [Inhabited σ] {catalogue : Catalogue σ υ} {event : Event}

/-- The type of the recipe, if it has one, judges events as it should. -/
def Recipe.Judged (catalogue : Catalogue σ υ) (ifEvent : TypeToken) (recipe : Recipe) : Prop :=
  ∀ type, recipe.type = some type → (catalogue type).Judges (EventPipeline.admits ifEvent type)

theorem Performed.answers {first last : RunState σ υ} {deeds : List Deed}
    (performed : Performed catalogue event first deeds last) (ifEvent : TypeToken)
    (unused : ∀ deed ∈ deeds, deed.Unused) :
    ∀ deed ∈ deeds, deed.Answers
      (fun recipe id => recipe.Judged catalogue ifEvent ∧ Serves catalogue first.world recipe id)
      (Recipe.admits ifEvent event) := by
  intro deed member
  cases deed with
  | asked filter answer =>
    intro recipe served
    obtain ⟨judged, type, named, serves⟩ := served
    obtain ⟨passive, blueprint, plain, judges⟩ := judged type named
    have has := serves blueprint plain passive
    have admitted : recipe.admits ifEvent event =
        admits ifEvent type event recipe.configuration := by
      unfold Recipe.admits
      rw [named, Option.all_some]
    rw [admitted]
    refine performed.answered passive (by simp) unused has ?_ member
    intro world still
    have script := judges event recipe.configuration filter world (by rw [still.instanceAt])
    unfold accepts
    rw [still.instanceAt]
    revert script
    rcases Script.run (World.answerOwn filter) ((catalogue type).accepts event) world with
      ⟨cause | outcome, after⟩
    · intro script
      cases script
    · intro script
      exact Except.ok.inj script
  | _ => exact trivial

theorem judged_of_builtin {ifEvent anyEvent : TypeToken} {first second : σ}
    (looking : catalogue ifEvent = Builtin.ifEventIs first)
    (accepting : catalogue anyEvent = Builtin.anyEvent second) {type : TypeToken}
    (builtin : type = ifEvent ∨ type = anyEvent) :
    (catalogue type).Judges (admits ifEvent type) := by
  unfold admits
  by_cases same : type = ifEvent
  · subst same
    simp only [if_true]
    rw [looking]
    exact Builtin.ifEventIs_judges first
  · obtain rfl := builtin.resolve_left same
    simp only [if_neg same]
    rw [accepting]
    exact Builtin.anyEvent_judges second

/-- Whatever calls have built the store, as long as all filters are of the two built-in types: the
default loader and the compiler yield documents, and a dispatcher that is built from them over an
empty container runs exactly the handlers that the calls say, unless a step fails. -/
theorem routing_exact {ifEvent anyEvent : TypeToken} {first second : σ}
    (looking : catalogue ifEvent = Builtin.ifEventIs first)
    (accepting : catalogue anyEvent = Builtin.anyEvent second)
    (own : TypeToken → List Annotation) (calls : List MetadataStore.Call)
    (builtin : ∀ type ∈ (MetadataStore.applications own [] calls).filters,
      type = ifEvent ∨ type = anyEvent)
    (options : CompilerOptions) (signatures : TypeToken → List MethodSignature)
    (sources : ControllerLoader.Sources) :
    ∃ documents,
      (Framework.definitions ⟨.registered, options⟩ signatures sources
        (MetadataStore.ofCalls own calls)).1 = .ok documents ∧
      ∀ (world built : World σ υ) (dispatcher : Dispatcher), world.container = .empty →
        Dispatcher.build catalogue documents world = (.ok dispatcher, built) → ∀ event : Event,
          (∃ trace offers used final, dispatcher.Course catalogue event built trace offers used final ∧
            Dispatcher.dispatch catalogue event (dispatcher, built) =
              Dispatcher.conclude event used final.world offers) ∧
          ∀ trace offers used final, dispatcher.Course catalogue event built trace offers used final →
            (∀ deed ∈ trace, deed.IsQuestion ∨ deed.failure? = none) →
              (∃ offered, offers = .ok offered) ∧
              trace.filterMap (Deed.handler? final.world) =
                (MetadataStore.applications own [] calls).routed signatures ifEvent event := by
  let compilation : Compilation := ⟨signatures, MetadataStore.ofCalls own calls, options⟩
  have reflects : compilation.store.Reflects (MetadataStore.applications own [] calls) :=
    MetadataStore.ofCalls_reflects own calls
  refine ⟨compilation.compile (compilation.store.targets.filter compilation.store.isController),
    rfl, ?_⟩
  -- The loader leaves out only what has no documents.
  rw [compilation.compile_filter]
  intro world built dispatcher empty ran event
  refine ⟨Dispatcher.dispatch_courses catalogue event dispatcher built, ?_⟩
  intro trace offers used final course smooth
  have unshared : world.container.Unshared := empty ▸ Container.empty_unshared
  have typed : built.Typed := by
    have kept := @Dispatcher.build_keeps σ υ _ catalogue World.Typed
      (fun recipe view => createInstance_keeps_typed recipe.type view recipe.configuration false)
      (fun world _ typed => typed.steady ⟨rfl, rfl⟩)
      (compilation.compile compilation.store.targets) world (World.typed_of_empty empty)
    rw [ran] at kept
    exact kept
  have served : List.Forall₂ (Pipeline.Built fun recipe id =>
      recipe.Judged catalogue ifEvent ∧ Serves catalogue built recipe id)
      (compilation.compile compilation.store.targets) dispatcher.pipelines := by
    have judged : ∀ document ∈ compilation.compile compilation.store.targets,
        ∀ entry ∈ document.filters, ∀ recipe ∈ entry.toList, recipe.Judged catalogue ifEvent := by
      intro document compiled entry listed recipe member type named
      have asked := Compilation.filters_from_log reflects compiled listed member named
      exact judged_of_builtin looking accepting (builtin type asked)
    -- Each filter stands for its own recipe, and the recipe for a judging type.
    have paired := (List.forall₂_and_left _ _).mpr ⟨judged, build_serves unshared ran⟩
    exact paired.imp fun document pipeline ⟨known, made⟩ => made.and_left known
  have unused : ∀ deed ∈ trace, deed.Unused := by
    refine course.unused served ?_
    intro document compiled entry stacked
    obtain ⟨target, _, controller, _, route, _, rfl⟩ := compilation.mem_compile_iff.mp compiled
    exact compilation.cached_middlewareStack stacked
  have answers := course.performed.answers ifEvent unused
  obtain ⟨offered, rfl⟩ := course.ends_well served answers smooth
  refine ⟨⟨offered, rfl⟩, ?_⟩
  have obtains := course.performed.obtains unused typed
  rw [course.handlers served fun deed member => ⟨answers deed member, obtains deed member⟩]
  exact Compilation.handlers_compile reflects ifEvent event

/-! ### A shop with two counters -/

def shopGate : TypeToken := ⟨0, "Gate"⟩
def shopDoor : TypeToken := ⟨1, "Door"⟩
def shopFloor : TypeToken := ⟨2, "Floor"⟩

def shopCatalogue : Catalogue Unit Unit := fun type =>
  if type = shopGate then Builtin.ifEventIs ()
  else if type = shopDoor then Builtin.anyEvent ()
  else { Behaviour.plain none () with invoke := fun _ _ => .done (.ok .null) }

def shopFor (type : String) : Configuration :=
  OrderedMap.ofList [(Builtin.acceptedTypeKey, .string type)]

def shopCounters : List ControllerDefinition :=
  [⟨false, some shopDoor, OrderedMap.empty⟩, ⟨true, some shopGate, shopFor "return"⟩]

def shopOwn (_ : TypeToken) : List Annotation :=
  shopCounters.map .controller ++
    [.method "sell" [.route ⟨some shopGate, shopFor "sale"⟩, .route ⟨some shopDoor, OrderedMap.empty⟩]]

def shopCalls : List MetadataStore.Call :=
  [.register shopFloor,
    .annotate shopFloor [.method "count" [.route ⟨some shopDoor, OrderedMap.empty⟩]],
    .register shopFloor]

def shopCompilation : Compilation :=
  ⟨fun _ => [], MetadataStore.ofCalls shopOwn shopCalls, .standard⟩

def shopDocuments : List PipelineDocument :=
  shopCounters.flatMap fun counter =>
    ["sell", "count"].map fun route => shopCompilation.compileRoute shopFloor route counter

theorem compile_shop : shopCompilation.compile [shopFloor] = shopDocuments := by
  have members : shopCompilation.routableMembers shopFloor = ["sell", "count"] := by
    rw [Compilation.routableMembers_eq (MetadataStore.ofCalls_reflects shopOwn shopCalls)]
    exact (AnnotationLog.routable_nil _ shopFloor).trans (by decide +kernel)
  have counters : shopCompilation.store.controllers shopFloor = shopCounters := by decide +kernel
  rw [Compilation.compile_eq, List.flatMap_singleton, members, counters]
  rfl

def shopWorld : World Unit Unit :=
  (Dispatcher.build shopCatalogue shopDocuments (World.start ())).2

def shopDispatcher : Dispatcher :=
  (Dispatcher.build shopCatalogue shopDocuments (World.start ())).1.toOption.getD ⟨[]⟩

/-- A return is counted at both counters and sold at none. -/
theorem routing_of_shop :
    ∃ trace offers used final,
      shopDispatcher.Course shopCatalogue (.ofType "return" .null) shopWorld trace offers used final ∧
      trace.filterMap (Deed.handler? final.world) = [(shopFloor, "count"), (shopFloor, "count")] := by
  have built : Dispatcher.build shopCatalogue shopDocuments (World.start ()) =
      (.ok shopDispatcher, shopWorld) := Prod.ext (by decide +kernel) rfl
  have served : (Dispatcher.dispatch shopCatalogue (.ofType "return" .null)
      (shopDispatcher, shopWorld)).1 =
        .ok [⟨[.null], OrderedMap.empty⟩, ⟨[.null], OrderedMap.empty⟩] := by decide +kernel
  obtain ⟨documents, compiled, exact_⟩ := @routing_exact Unit Unit _ shopCatalogue shopGate shopDoor
    () () rfl rfl shopOwn shopCalls (by decide +kernel) .standard (fun _ => []) ⟨shopOwn, []⟩
  obtain rfl : shopDocuments = documents := by
    have candidates : shopCompilation.store.targets = [shopFloor] := by decide +kernel
    rw [← compile_shop, ← candidates, ← Compilation.compile_filter]
    exact Except.ok.inj compiled
  obtain ⟨⟨trace, offers, used, final, course, outcome⟩, routed⟩ :=
    exact_ (World.start ()) shopWorld shopDispatcher rfl built (.ofType "return" .null)
  refine ⟨trace, offers, used, final, course, ?_⟩
  have ends : Conclusive trace offers :=
    course.order.conclusive fun _ _ _ _ => PipelineCourse.conclusive
  have calm : ∀ deed ∈ trace, deed.failure? = none := by
    rw [← ends.ok_iff]
    rw [outcome] at served
    cases offers with
    | error error => cases served
    | ok offered => exact ⟨offered, rfl⟩
  obtain ⟨_, handlers⟩ := routed trace offers used final course fun deed member =>
    .inr (calm deed member)
  have members := AnnotationLog.routable_nil (MetadataStore.applications shopOwn [] shopCalls)
  unfold AnnotationLog.routed at handlers
  simp only [members] at handlers
  rw [handlers]
  decide +kernel

end EventPipeline
