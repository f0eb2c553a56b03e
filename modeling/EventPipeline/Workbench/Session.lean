import EventPipeline.Dispatcher
import EventPipeline.Framework
import EventPipeline.Workbench.Fixture

/-! Sessions at the workbench: one metadata store and one container, and everything that has been
made from them so far, each kind numbered from zero. -/

namespace EventPipeline.Workbench

open Json

structure Assembly where
  framework : Framework
  isolated : Bool

structure Session where
  wiring : Wiring
  store : MetadataStore
  world : World Internals Ambience
  shown : List InstanceId
  contexts : List (String × RunContext)
  units : List ActivationUnit
  documents : List (List PipelineDocument)
  dispatchers : List Dispatcher
  assemblies : List Assembly

namespace Session

variable {ε α β : Type}

def start (wiring : Wiring) : Session where
  wiring := wiring
  store := .empty
  world := .start .quiet
  shown := []
  contexts := []
  units := []
  documents := []
  dispatchers := []
  assemblies := []

def quieten (session : Session) : Session :=
  { session with
    world := { session.world with
      log := []
      shared := { session.world.shared with lines := [] } } }

def lines (session : Session) : List String := session.world.shared.lines

def log (session : Session) : List LogEntry := session.world.log

def append (list : List α) (element : α) : Nat × List α := (list.length, list ++ [element])

def onWorld (action : Action (World Internals Ambience) ε α) : Action Session ε α :=
  Action.within (·.world) (fun world session => { session with world }) action

def report (entries : List LogEntry) (session : Session) : Session :=
  { session with world := { session.world with log := session.world.log ++ entries } }

/-! ### Instances -/

def present (id : InstanceId) (session : Session) : Nat × Session :=
  match session.shown.findIdx? (· = id) with
  | some index => (index, session)
  | none =>
      let (index, shown) := append session.shown id
      (index, { session with shown })

def shownInstance (session : Session) (index : Nat) : InstanceId :=
  session.shown[index]?.getD session.world.nextId

/-- The properties of an instance as they are shown. An instance in its own form has all that it
holds to show, also what it was told and exposes to nobody. -/
def properties (session : Session) (id : InstanceId) : Option Properties :=
  let held := session.world.instanceAt id
  match held.form with
  | .concrete _ => some (held.properties.getD held.state.settings)
  | _ => held.properties

def description (session : Session) (id : InstanceId) : Value :=
  (session.world.instanceAt id).state.describe

/-! ### The container -/

def bind (key : BindingKey) (scope : Scope) (session : Session) : Bool × Session :=
  (session.world.container.admits key,
    { session with world := session.world.changeContainer (·.bind key scope) })

def bindProbe (fixture : Fixture) (session : Session) : Bool × Session :=
  let (internals, shared) := Probe.number fixture.label [] session.world.shared
  let world := { session.world with shared }
  if world.container.admits ⟨fixture.type, .concrete⟩ then
    let properties :=
      match fixture.role with
      | .probe hasProperties _ => Fixture.probeProperties hasProperties
      | _ => none
    let given := world.nextId
    let added := world.add ⟨fixture.type, .concrete fixture.type, properties, internals⟩
    (true, { session with world := added.changeContainer (·.bindGiven fixture.type given) })
  else (false, { session with world })

variable (bench : Bench)

def catalogue (session : Session) : Catalogue Internals Ambience :=
  bench.catalogue session.wiring

def resolve (key : BindingKey) : Action Session ResolutionError InstanceId := fun session =>
  onWorld (EventPipeline.resolve (session.catalogue bench) key) session

def create (type : Option TypeToken) (view : View) (configuration : Configuration)
    (shared : Bool) : Action Session FactoryError InstanceId := fun session =>
  onWorld
    (Factory.createInstance (session.catalogue bench) type view configuration shared) session

def configure (id : InstanceId) (configuration : Configuration) (session : Session) : Session :=
  { session with world := Factory.configure id configuration session.world }

/-! ### Running things -/

def context (session : Session) (name : String) : RunContext :=
  (session.contexts.lookup name).getD .empty

def keepContext (name : String) (context : RunContext) (session : Session) : Session :=
  { session with contexts := (name, context) :: session.contexts.filter (·.1 ≠ name) }

/-- Runs an action in a named context, which it changes, or in a new one that is then forgotten. -/
def inContext (name : Option String) (action : Action (RunState Internals Ambience) ε α) :
    Action Session ε α := fun session =>
  let context :=
    match name with
    | some name => session.context name
    | none => .empty
  let (outcome, after) := action ⟨session.world, context⟩
  let session := { session with world := after.world }
  match name with
  | some name => (outcome, session.keepContext name after.context)
  | none => (outcome, session)

def invoke (id : InstanceId) (method : String) (slots : Slots) (context : Option String) :
    Action Session InvokeError Value := fun session =>
  inContext context (EventPipeline.invoke (session.catalogue bench) id method slots) session

def accepts (id : InstanceId) (event : Event) : Action Session Cause Bool := fun session =>
  onWorld (EventPipeline.accepts (session.catalogue bench) id event) session

def extract (id : InstanceId) (event : Event) : Action Session Cause Value := fun session =>
  onWorld (EventPipeline.extract (session.catalogue bench) id event) session

/-! ### Activation units -/

inductive UnitPlace where
  | alone (index : Nat)
  | step (documents document step : Nat)
deriving DecidableEq, Repr

def unitAt? (session : Session) : UnitPlace → Option ActivationUnit
  | .alone index => session.units[index]?
  | .step documents document step => do
      let compiled ← session.documents[documents]?
      let plan ← compiled[document]?
      let entry ← plan.middleware[step]?
      return entry.activation

def putUnit (unit : ActivationUnit) (session : Session) : UnitPlace → Session
  | .alone index => { session with units := session.units.set index unit }
  | .step documents document step =>
      { session with
        documents := session.documents.modify documents fun compiled =>
          compiled.modify document fun plan =>
            { plan with
              middleware := plan.middleware.modify step fun entry =>
                { entry with activation := unit } } }

def addUnit (unit : ActivationUnit) (session : Session) : Nat × Session :=
  let (index, units) := append session.units unit
  (index, { session with units })

def activate (place : UnitPlace) (unit : ActivationUnit) (slots : Slots)
    (context : Option String) : Action Session ActivationError Value := fun session =>
  let run : Action (RunState Internals Ambience) Empty
      (Except ActivationError Value × ActivationUnit) := fun before =>
    let (outcome, (used, after)) :=
      ActivationUnit.activate (session.catalogue bench) slots (unit, before)
    (.ok (outcome, used), after)
  match inContext context run session with
  | (.ok (outcome, used), after) => (outcome, after.putUnit used place)

def obtain (place : UnitPlace) (unit : ActivationUnit) :
    Action Session FactoryError InstanceId := fun session =>
  let (outcome, (used, world)) :=
    ActivationUnit.obtain (session.catalogue bench) (unit, session.world)
  (outcome, { session with world }.putUnit used place)

/-! ### Metadata -/

def annotate (type : TypeToken) (annotations : List Annotation) (session : Session) : Session :=
  { session with store := session.store.annotate type annotations }

def register (type : TypeToken) (session : Session) : Session :=
  { session with store := session.store.register bench.sources.own type }

/-! ### Pipelines -/

def addDocuments (compiled : List PipelineDocument) (session : Session) : Nat × Session :=
  let (index, documents) := append session.documents compiled
  (index, { session with documents })

def compilation (options : CompilerOptions) (session : Session) : Compilation :=
  ⟨bench.signatures, session.store, options⟩

def compile (options : CompilerOptions) (candidates : List TypeToken) (session : Session) :
    List PipelineDocument × Session :=
  let compilation := session.compilation bench options
  (compilation.compile candidates, session.report (compilation.compileLog candidates))

def assemble (assembly : Assembly) (session : Session) : Nat × Session :=
  let (index, assemblies) := append session.assemblies assembly
  (index, { session with assemblies })

def load (loader : ControllerLoader) : Action Session Cause (List TypeToken) := fun session =>
  let (loaded, store, entries) := loader.load bench.sources session.store
  (loaded, { session with store }.report entries)

/-- The documents of a framework. An isolated one compiles over a store of its own, where nothing is
annotated; unless its loader was chosen it loads from there, too. -/
def definitions (assembly : Assembly) : Action Session LoadError (List PipelineDocument) :=
  fun session =>
    let framework := assembly.framework
    if assembly.isolated then
      match framework.loader with
      | .registered =>
          let (documents, _, entries) :=
            framework.definitions bench.signatures bench.sources .empty
          (documents, session.report entries)
      | loader =>
          let (loaded, store, loading) := loader.load bench.sources session.store
          let (documents, compiling) := framework.compileLoaded bench.signatures .empty loaded
          (documents, { session with store }.report (loading ++ compiling))
    else
      let (documents, store, entries) :=
        framework.definitions bench.signatures bench.sources session.store
      (documents, { session with store }.report entries)

/-- Builds a dispatcher. The documents are used up, whether it succeeds or not. -/
def buildDispatcher (documents : Nat) : Action Session DispatchError (Nat × Dispatcher) :=
  fun session =>
    let compiled := session.documents[documents]?.getD []
    let used := { session with documents := session.documents.set documents [] }
    match onWorld (Dispatcher.build (session.catalogue bench) compiled) used with
    | (.error error, after) => (.error error, after)
    | (.ok dispatcher, after) =>
        let (index, dispatchers) := append after.dispatchers dispatcher
        (.ok (index, dispatcher), { after with dispatchers })

def dispatch (dispatcher : Nat) (event : Event) :
    Action Session DispatchError (List DispatchOutcome) := fun session =>
  let held := session.dispatchers[dispatcher]?.getD ⟨[]⟩
  let (outcome, (used, world)) :=
    Dispatcher.dispatch (session.catalogue bench) event (held, session.world)
  (outcome, { session with world, dispatchers := session.dispatchers.set dispatcher used })

end Session

end EventPipeline.Workbench
