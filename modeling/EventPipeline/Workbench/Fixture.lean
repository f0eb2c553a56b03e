import EventPipeline.Builtin.Extractors
import EventPipeline.Builtin.Filters
import EventPipeline.Builtin.Middleware
import EventPipeline.Builtin.Rehearsal
import EventPipeline.Loader
import EventPipeline.Workbench.Clerk
import EventPipeline.Workbench.Probe

/-! Fixtures: the types that a workbench is equipped with. -/

namespace EventPipeline.Workbench

open Json

inductive Role where
  | probe (properties : Bool) (signatures : List MethodSignature)
  | clerk
  | counter
  | failing
  | logging
  | timeout
  | ifEventIs
  | anyEvent
  | neverMatch
  | eventData
  | eventType
  | routeData
  | fullEvent
  | dispatchContext
  | constant
deriving DecidableEq, Repr

structure Fixture where
  label : String
  type : TypeToken
  role : Role
deriving DecidableEq, Repr

namespace Fixture

def probeProperties (hasProperties : Bool) : Option Properties :=
  if hasProperties then some OrderedMap.empty else none

def behaviour (fixture : Fixture) (wishes : List Wish) : Behaviour Internals Ambience :=
  match fixture.role with
  | .probe hasProperties signatures =>
      Probe.behaviour fixture.label fixture.type.name (probeProperties hasProperties) signatures
        wishes
  | .clerk => Clerk.behaviour fixture.type.name default
  | .counter =>
      Builtin.Counter.behaviour Internals.calls (fun calls held => { held with calls }) default
  | .failing => Builtin.failing default
  | .logging => Builtin.Logging.behaviour (Shape.expected .optionalText) default
  | .timeout => Builtin.Timeout.behaviour default
  | .ifEventIs => Builtin.ifEventIs default
  | .anyEvent => Builtin.anyEvent default
  | .neverMatch => Builtin.neverMatch default
  | .eventData => Builtin.eventData default
  | .eventType => Builtin.eventType default
  | .routeData => Builtin.routeData default
  | .fullEvent => Builtin.fullEvent default
  | .dispatchContext => Builtin.dispatchContext default
  | .constant => Builtin.constant default

end Fixture

abbrev Wiring := List (String × List Wish)

structure Bench where
  fixtures : List Fixture
  annotations : List (TypeToken × List Annotation)
  submissions : List TypeToken

namespace Bench

def fixtureOf? (bench : Bench) (type : TypeToken) : Option Fixture :=
  bench.fixtures.find? (·.type = type)

/-- A type that is no fixture does nothing. -/
def catalogue (bench : Bench) (wiring : Wiring) : Catalogue Internals Ambience := fun type =>
  match bench.fixtureOf? type with
  | some fixture => fixture.behaviour ((wiring.lookup fixture.label).getD [])
  | none => Behaviour.plain none default

def signatures (bench : Bench) (type : TypeToken) : List MethodSignature :=
  (bench.catalogue [] type).signatures

/-- The method table of a type as seen under a view. Only components are invoked by method. -/
def signaturesAs (bench : Bench) (view : View) (type : TypeToken) : List MethodSignature :=
  match view with
  | .component => bench.signatures type
  | _ => []

def sources (bench : Bench) : ControllerLoader.Sources where
  own type := (bench.annotations.lookup type).getD []
  submissions := bench.submissions

end Bench

end EventPipeline.Workbench
