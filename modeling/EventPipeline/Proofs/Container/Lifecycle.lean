import EventPipeline.Proofs.Container.Carrying
import EventPipeline.Proofs.Container.Registration

/-! Lifecycles of keys.

The first creation for a key binds it and logs that, before anything is built, so it stays bound when building
fails. Every later creation is served under that lifecycle, and logs it when it has asked for another. What the
factory logs of lifecycles is therefore known from the calls alone: it does not depend on what constructors do,
as long as user code logs no such entries itself. -/

namespace EventPipeline

variable {σ υ α ε : Type}

/-! ### What user code logs -/

theorem Script.Avoids.of_never {Request : Type} {Answer : Request → Type} {bad : Request → Prop}
    (never : ∀ request, ¬ bad request) (script : Script Request Answer α) : script.Avoids bad := by
  induction script with
  | done value => exact .done value
  | ask request next ih => exact .ask request next (never request) ih

structure Catalogue.LogsOnly (catalogue : Catalogue σ υ) (fine : LogEntry → Prop) : Prop where
  constructors : ∀ type, (catalogue type).construct.Avoids fun request =>
    ∃ entry, request = .log entry ∧ ¬ fine entry
  methods : ∀ type method slots, ((catalogue type).invoke method slots).Avoids fun request =>
    ∃ entry, request = .own (.log entry) ∧ ¬ fine entry

theorem Catalogue.logsOnly_any (catalogue : Catalogue σ υ) : catalogue.LogsOnly fun _ => True where
  constructors _ := .of_never (fun _ ⟨_, _, refused⟩ => refused trivial) _
  methods _ _ _ := .of_never (fun _ ⟨_, _, refused⟩ => refused trivial) _

/-- A log has gone on from here with such entries. -/
def World.Tells (fine : LogEntry → Prop) (base : List LogEntry) (world : World σ υ) : Prop :=
  ∃ told, world.log = base ++ told ∧ ∀ entry ∈ told, fine entry

namespace World.Tells

variable {fine : LogEntry → Prop} {base : List LogEntry} {world : World σ υ}

theorem refl (fine : LogEntry → Prop) (world : World σ υ) : world.Tells fine world.log :=
  ⟨[], (List.append_nil _).symm, fun _ among => (List.not_mem_nil among).elim⟩

theorem report (tells : world.Tells fine base) {entry : LogEntry} (allowed : fine entry) :
    (world.report entry).Tells fine base := by
  obtain ⟨told, same, each⟩ := tells
  refine ⟨told ++ [entry], ?_, ?_⟩
  · rw [World.report, same, List.append_assoc]
  · intro other among
    rcases List.mem_append.mp among with before | last
    · exact each other before
    · rw [List.mem_singleton.mp last]
      exact allowed

variable [Inhabited σ] {catalogue : Catalogue σ υ}

theorem answerOwn (tells : world.Tells fine base) (self : InstanceId) {request : OwnRequest σ υ}
    (allowed : ¬ ∃ entry, request = .log entry ∧ ¬ fine entry) :
    (@World.answerOwn σ υ _ ε self request world).2.Tells fine base := by
  cases request with
  | log entry =>
    apply tells.report
    by_contra refused
    exact allowed ⟨entry, rfl, refused⟩
  | _ => exact tells

theorem invokeWithin (only : catalogue.LogsOnly fine) {run : RunState σ υ}
    (tells : run.world.Tells fine base) (cutoff : Option (Cutoff ε)) (target : InstanceId)
    (method : String) (slots : Slots) :
    (invokeWithin catalogue cutoff target method slots run).2.world.Tells fine base := by
  have kept : ∀ (request : MethodRequest σ υ) (state : RunState σ υ),
      (¬ ∃ entry, request = .own (.log entry) ∧ ¬ fine entry) →
        state.Inside (World.Tells fine base) →
          (answerMethod cutoff target request state).2.Inside (World.Tells fine base) := by
    intro request state allowed holds
    cases request with
    | own request =>
      exact World.Tells.answerOwn holds target fun ⟨entry, same, refused⟩ =>
        allowed ⟨entry, congrArg _ same, refused⟩
    | wait duration => exact waitWithin_keeps (fun _ _ told => told) cutoff duration state holds
    | _ => exact holds
  exact (only.methods _ method slots).run_keeps kept run tells

theorem answerConstructor {request : BindingKey → Action (World σ υ) ResolutionError InstanceId}
    (only : catalogue.LogsOnly fine)
    (kept : ∀ key world, World.Tells fine base world → (request key world).2.Tells fine base)
    (asked : ConstructRequest σ υ) (world : World σ υ)
    (allowed : ¬ ∃ entry, asked = .log entry ∧ ¬ fine entry) (tells : world.Tells fine base) :
    (@answerConstructor σ υ ε _ catalogue request asked world).2.Tells fine base := by
  cases asked with
  | resolve key => exact kept key world tells
  | invoke dependency method slots =>
    have inRun : (RunState.mk world .empty).world.Tells fine base := tells
    show (invoke catalogue dependency method slots ⟨world, .empty⟩).2.world.Tells fine base
    rw [invoke_snd]
    exact inRun.invokeWithin only none dependency method slots
  | log entry =>
    apply tells.report
    by_contra refused
    exact allowed ⟨entry, rfl, refused⟩
  | _ => exact tells

theorem enduring (only : catalogue.LogsOnly fine) (base : List LogEntry) :
    Enduring catalogue (World.Tells fine base) where
  constructed _ kept type world tells :=
    (only.constructors type).run_keeps (World.Tells.answerConstructor only kept) world tells
  added _ _ tells := tells
  filled _ _ _ tells := tells

omit [Inhabited σ] in
theorem weaken (tells : world.Tells fine base) (other : LogEntry → Prop)
    (weaker : ∀ entry, fine entry → other entry) : world.Tells other base := by
  obtain ⟨told, same, each⟩ := tells
  exact ⟨told, same, fun entry among => weaker entry (each entry among)⟩

theorem configure (tells : world.Tells fine base) (id : InstanceId) (configuration : Configuration) :
    (Factory.configure id configuration world).Tells
      (fun entry => fine entry ∨ ∃ configuration, entry = Factory.ignoredEntry configuration) base := by
  have weaker := tells.weaken (fun entry =>
    fine entry ∨ ∃ configuration, entry = Factory.ignoredEntry configuration) fun _ => .inl
  unfold Factory.configure
  split
  · exact weaker
  · split
    · exact weaker
    · exact weaker.report (.inr ⟨configuration, rfl⟩)

end World.Tells

/-! ### What the factory logs -/

/-- What a creation logs of the lifecycle of a key, given the one that the key has been bound with. -/
def Factory.notices (key : BindingKey) (requested : Scope) : Option Scope → List LogEntry
  | none => [Factory.boundEntry key requested]
  | some held => if held = requested then [] else [Factory.conflictEntry key requested held]

def LogEntry.onLifecycle (entry : LogEntry) : Bool :=
  entry.message == "bound type" ||
    entry.message == "type is already bound with another lifecycle; keeping the first binding"

theorem Factory.onLifecycle_of_notice {key : BindingKey} {requested : Scope} {held : Option Scope}
    {entry : LogEntry} (noticed : entry ∈ Factory.notices key requested held) :
    entry.onLifecycle = true := by
  cases held with
  | none =>
    rw [List.mem_singleton.mp noticed]
    rfl
  | some held =>
    by_cases same : held = requested
    · rw [Factory.notices, if_pos same] at noticed
      cases noticed
    · rw [Factory.notices, if_neg same] at noticed
      rw [List.mem_singleton.mp noticed]
      rfl

theorem World.Tells.filter_onLifecycle {base : List LogEntry} {world : World σ υ}
    (tells : world.Tells (fun entry => entry.onLifecycle = false) base) :
    world.log.filter LogEntry.onLifecycle = base.filter LogEntry.onLifecycle := by
  obtain ⟨told, same, silent⟩ := tells
  have none : told.filter LogEntry.onLifecycle = [] :=
    List.filter_eq_nil_iff.mpr fun entry among => by simp [silent entry among]
  rw [same, List.filter_append, none, List.append_nil]

section Creating

variable [Inhabited σ] {catalogue : Catalogue σ υ} {fine : LogEntry → Prop}

/-- What a creation logs: first of the lifecycle, then what is built tells. -/
theorem createInstance_tells (only : catalogue.LogsOnly fine) (type : TypeToken) (view : View)
    (configuration : Configuration) (shared : Bool) (world : World σ υ) :
    (Factory.createInstance catalogue (some type) view configuration shared world).2.Tells
      (fun entry => fine entry ∨ ∃ configuration, entry = Factory.ignoredEntry configuration)
      (world.log ++ Factory.notices ⟨type, view⟩ (.ofShared shared)
        (world.container.scopeOf? ⟨type, view⟩)) := by
  have noticed : (Factory.ensureBound ⟨type, view⟩ (.ofShared shared) world).log = world.log ++
      Factory.notices ⟨type, view⟩ (.ofShared shared) (world.container.scopeOf? ⟨type, view⟩) := by
    rw [Factory.log_ensureBound]
    cases world.container.scopeOf? ⟨type, view⟩ <;> rfl
  have resolved := (World.Tells.enduring only _).resolve ⟨type, view⟩ _ (.refl fine
    (Factory.ensureBound ⟨type, view⟩ (.ofShared shared) world))
  rw [noticed] at resolved
  rw [Factory.createInstance_some]
  revert resolved
  rcases resolve catalogue ⟨type, view⟩
    (Factory.ensureBound ⟨type, view⟩ (.ofShared shared) world) with ⟨error | created, after⟩
  · exact fun resolved => resolved.weaken _ fun _ => .inl
  · exact fun resolved => resolved.configure created configuration

theorem createInstance_failed {type : TypeToken} {view : View} {configuration : Configuration}
    {shared : Bool} {world after : World σ υ} {error : FactoryError}
    (ran : Factory.createInstance catalogue (some type) view configuration shared world =
      (.error error, after)) :
    ∃ cause, error = .resolution cause ∧
      resolve catalogue ⟨type, view⟩ (Factory.ensureBound ⟨type, view⟩ (.ofShared shared) world) =
        (.error cause, after) := by
  rw [Factory.createInstance_some] at ran
  rcases outcome : resolve catalogue ⟨type, view⟩
    (Factory.ensureBound ⟨type, view⟩ (.ofShared shared) world) with ⟨cause | created, reached⟩
  · rw [outcome] at ran
    cases ran
    exact ⟨cause, rfl, rfl⟩
  · rw [outcome] at ran
    cases ran

end Creating

namespace RegistryCall

variable [Inhabited σ]

/-- What a call logs of lifecycles, given the bindings that were wanted before it. -/
def notices (known : List Binding) : RegistryCall σ → List LogEntry
  | .create (some type) view _ shared => Factory.notices ⟨type, view⟩ (.ofShared shared)
      ((known.find? (·.key = ⟨type, view⟩)).map (·.scope))
  | _ => []

def allNotices (known : List Binding) : List (RegistryCall σ) → List LogEntry
  | [] => []
  | call :: rest => call.notices known ++ allNotices (known ++ call.wanted?.toList) rest

section Binding

variable {catalogue : Catalogue σ υ} {call : RegistryCall σ} {binding : Binding}
  (wants : call.wanted? = some binding) (world : World σ υ)

include wants

theorem bindings_of_wanted :
    (call.run catalogue world).container.bindings =
      if world.container.scopeOf? binding.key = none then world.container.bindings ++ [binding]
      else world.container.bindings := by
  have same : world.container.isBound binding.key = (world.container.scopeOf? binding.key).isSome :=
    Option.isSome_map.symm
  rw [bindings_run, wants]
  simp only [Container.register, same]
  cases world.container.scopeOf? binding.key <;> rfl

theorem scopeOf?_onward (later : List (RegistryCall σ)) :
    (runAll catalogue later (call.run catalogue world)).container.scopeOf? binding.key =
      some ((world.container.scopeOf? binding.key).getD binding.scope) := by
  rw [Container.scopeOf?, binding?_runAll, binding?_run, wants, Container.scopeOf?]
  cases world.container.binding? binding.key <;> simp

end Binding

section Log

variable {catalogue : Catalogue σ υ} (quiet : catalogue.LogsOnly fun entry => entry.onLifecycle = false)

include quiet

theorem lifecycle_run (call : RegistryCall σ) {world : World σ υ} {known : List Binding}
    (table : ∀ key, world.container.binding? key = known.find? (·.key = key)) :
    (call.run catalogue world).log.filter LogEntry.onLifecycle =
      world.log.filter LogEntry.onLifecycle ++ call.notices known := by
  cases call with
  | direct call =>
    rw [show notices known (.direct call) = [] from rfl, List.append_nil]
    cases call with
    | bind key scope => rfl
    | bindValue type properties state => rfl
    | resolve key =>
      exact ((World.Tells.enduring quiet _).resolve key world (.refl _ world)).filter_onLifecycle
  | create type view configuration shared =>
    cases type with
    | none => exact (List.append_nil _).symm
    | some type =>
      have tells := createInstance_tells quiet type view configuration shared world
      have silent : ∀ entry : LogEntry,
          (entry.onLifecycle = false ∨ ∃ configuration, entry = Factory.ignoredEntry configuration) →
            entry.onLifecycle = false := by
        rintro entry (silent | ⟨configuration, rfl⟩)
        · exact silent
        · rfl
      have all : ∀ held, (Factory.notices ⟨type, view⟩ (.ofShared shared) held).filter
          LogEntry.onLifecycle = Factory.notices ⟨type, view⟩ (.ofShared shared) held :=
        fun held => List.filter_eq_self.mpr fun _ => Factory.onLifecycle_of_notice
      show (Factory.createInstance catalogue (some type) view configuration shared world).2.log.filter
        LogEntry.onLifecycle = _
      rw [(tells.weaken _ silent).filter_onLifecycle, List.filter_append, all, Container.scopeOf?, table]
      rfl

theorem lifecycle_runAll (calls : List (RegistryCall σ)) {world : World σ υ} {known : List Binding}
    (table : ∀ key, world.container.binding? key = known.find? (·.key = key)) :
    (runAll catalogue calls world).log.filter LogEntry.onLifecycle =
      world.log.filter LogEntry.onLifecycle ++ allNotices known calls := by
  induction calls generalizing world known with
  | nil => exact (List.append_nil _).symm
  | cons call rest ih =>
    have onward : ∀ key, (call.run catalogue world).container.binding? key =
        (known ++ call.wanted?.toList).find? (·.key = key) := by
      intro key
      rw [binding?_run, table, List.find?_append]
    show (runAll catalogue rest (call.run catalogue world)).log.filter _ = _
    rw [ih onward, lifecycle_run quiet call table, List.append_assoc]
    rfl

end Log

end RegistryCall

/-- How an instance is come by under a lifecycle: a shared key keeps one for all its uses, and any other use
has an instance that was not there before. -/
def World.Serves (scope : Scope) (key : BindingKey) (world after : World σ υ) (id : InstanceId) : Prop :=
  match scope with
  | .shared => after.container.cell? key = some id ∧
      ∀ held, world.container.cell? key = some held → held = id
  | .transient => world.nextId ≤ id

theorem createInstance_serves [Inhabited σ] {catalogue : Catalogue σ υ} {type : TypeToken} {view : View}
    {configuration : Configuration} {shared : Bool} {world after : World σ υ} {id : InstanceId}
    (furnished : world.Furnished)
    (ran : Factory.createInstance catalogue (some type) view configuration shared world = (.ok id, after)) :
    World.Serves ((world.container.scopeOf? ⟨type, view⟩).getD (.ofShared shared)) ⟨type, view⟩ world after
      id := by
  have grows := createInstance_grows catalogue (some type) view configuration shared world
  rw [ran] at grows
  obtain ⟨known, reached, same, delivery, rfl⟩ := createInstance_delivery furnished ran
  obtain rfl := Option.some.inj same
  have scope : (Factory.ensureBound ⟨type, view⟩ (.ofShared shared) world).container.scopeOf?
      ⟨type, view⟩ = some ((world.container.scopeOf? ⟨type, view⟩).getD (.ofShared shared)) := by
    rw [Factory.container_ensureBound, Container.scopeOf?, Container.bind, Container.binding?_register,
      if_pos rfl, Container.scopeOf?]
    cases world.container.binding? ⟨type, view⟩ <;> rfl
  rcases served : (world.container.scopeOf? ⟨type, view⟩).getD (.ofShared shared) with _ | _
  · rw [served] at scope
    have new := (delivery.new (by rw [scope]; simp)).1
    rwa [Factory.nextId_ensureBound] at new
  · rw [served] at scope
    have kept : (Factory.configure id configuration reached).container.cell? ⟨type, view⟩ = some id := by
      rw [(configure_steady ..).container]
      exact delivery.cell scope
    refine ⟨kept, fun held full => ?_⟩
    have still := grows.cells _ held full
    exact Option.some.inj (still.symm.trans kept)

/-- In every history of registrations, factory creations and resolutions, a creation without a type fails and
leaves everything as it is. Any other one finds its key as the calls before have bound it. If they have not, it
binds the key once, with the lifecycle it asks for; if they have, it changes no binding. Either way the key has
its lifecycle from then on, whatever becomes of the construction, and what is created is served under it. What
the creation logs begins with the notice that the key was bound, or that it had another lifecycle, or with
neither; all else comes from user code or says that a configuration was ignored. A creation that fails ends in
the resolution, as it would with any other configuration. Where user code logs nothing on lifecycles, the log of
the history has just the notices that follow from the calls. -/
theorem lifecycles_reported [Inhabited σ] (catalogue : Catalogue σ υ) (start : World σ υ)
    (calls : List (RegistryCall σ)) :
    let world := RegistryCall.runAll catalogue calls start.unbound
    let wanted := calls.filterMap (·.wanted?)
    (∀ view configuration shared,
      Factory.createInstance catalogue none view configuration shared world = (.error .missingType, world)) ∧
    (∀ type view configuration shared,
      let key : BindingKey := ⟨type, view⟩
      let requested := Scope.ofShared shared
      let held := (wanted.find? (·.key = key)).map (·.scope)
      let ran := Factory.createInstance catalogue (some type) view configuration shared world
      (held = none → ran.2.container.bindings =
        world.container.bindings ++ [⟨key, requested, .constructor key.type key.form⟩]) ∧
      (held ≠ none → ran.2.container.bindings = world.container.bindings) ∧
      (∀ later, (RegistryCall.runAll catalogue later ran.2).container.scopeOf? key =
        some (held.getD requested)) ∧
      (∃ told, ran.2.log = world.log ++ Factory.notices key requested held ++ told ∧
        ∀ fine, catalogue.LogsOnly fine → ∀ entry ∈ told,
          fine entry ∨ ∃ configuration, entry = Factory.ignoredEntry configuration) ∧
      (∀ id, ran.1 = .ok id → World.Serves (held.getD requested) key world ran.2 id) ∧
      ∀ error, ran.1 = .error error → ∃ cause, error = .resolution cause ∧
        resolve catalogue key (Factory.ensureBound key requested world) = (.error cause, ran.2) ∧
        ∀ other, Factory.createInstance catalogue (some type) view other shared world = ran) ∧
    ((catalogue.LogsOnly fun entry => entry.onLifecycle = false) →
      world.log.filter LogEntry.onLifecycle =
        start.log.filter LogEntry.onLifecycle ++ RegistryCall.allNotices [] calls) := by
  intro world wanted
  have furnished : world.Furnished :=
    RegistryCall.furnished_runAll catalogue calls (World.furnished_unbound start)
  have table : ∀ key, world.container.binding? key = wanted.find? (·.key = key) :=
    fun key => RegistryCall.binding?_runAll catalogue calls start.unbound key
  refine ⟨fun _ _ _ => rfl, ?_, fun quiet => ?_⟩
  · intro type view configuration shared key requested held ran
    have scope : world.container.scopeOf? key = held := congrArg (Option.map _) (table key)
    let call : RegistryCall σ := .create (some type) view configuration shared
    have wants : call.wanted? = some ⟨key, requested, .constructor key.type key.form⟩ := rfl
    refine ⟨?_, ?_, ?_, ?_, ?_, ?_⟩
    · intro unbound
      exact (RegistryCall.bindings_of_wanted wants world).trans (if_pos (scope.trans unbound))
    · intro bound
      apply (RegistryCall.bindings_of_wanted wants world).trans (if_neg _)
      exact fun unbound => bound (scope.symm.trans unbound)
    · intro later
      rw [← scope]
      exact RegistryCall.scopeOf?_onward wants world later
    · obtain ⟨told, same, _⟩ := createInstance_tells catalogue.logsOnly_any type view configuration shared world
      rw [scope] at same
      refine ⟨told, same, fun fine only => ?_⟩
      obtain ⟨others, again, each⟩ := createInstance_tells only type view configuration shared world
      rw [scope] at again
      rw [List.append_cancel_left (same.symm.trans again)]
      exact each
    · intro id answered
      have serves := createInstance_serves furnished (Prod.ext answered rfl)
      rwa [scope] at serves
    · intro error failed
      obtain ⟨cause, rfl, ended⟩ := createInstance_failed (Prod.ext failed rfl)
      refine ⟨cause, rfl, ended, fun other => ?_⟩
      rw [Factory.createInstance_some, ended]
      exact Prod.ext failed.symm rfl
  · have empty : ∀ key, start.unbound.container.binding? key = ([] : List Binding).find? (·.key = key) :=
      fun _ => rfl
    exact RegistryCall.lifecycle_runAll quiet calls empty

/-- A lamp is asked for as shared and then, whether or not it could be built, twice as not shared; a call without
a type comes in between. -/
example :
    let lamp : TypeToken := ⟨0, "field::Lamp"⟩
    let ask (type : Option TypeToken) (shared : Bool) : RegistryCall Unit :=
      .create type .component OrderedMap.empty shared
    RegistryCall.allNotices [] [ask (some lamp) true, ask (some lamp) false, ask none true,
        ask (some lamp) false] =
      [Factory.boundEntry ⟨lamp, .component⟩ .shared,
        Factory.conflictEntry ⟨lamp, .component⟩ .transient .shared,
        Factory.conflictEntry ⟨lamp, .component⟩ .transient .shared] := by
  rfl

end EventPipeline
