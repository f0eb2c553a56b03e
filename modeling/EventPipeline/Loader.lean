import EventPipeline.Error
import EventPipeline.LogEntry
import EventPipeline.Metadata.Store

/-! Controller loaders supply the candidates of a compilation. -/

namespace EventPipeline

open Json

inductive ControllerLoader where
  | explicit (controllers : List TypeToken)
  /-- Every controller in the store, in the order in which types were first touched. -/
  | registered
  | discovering (wanted : String → Bool)
  | failing (cause : Cause)

def dropRepeats : List TypeToken → List TypeToken
  | [] => []
  | [last] => [last]
  | first :: second :: rest =>
      if first = second then dropRepeats (second :: rest)
      else first :: dropRepeats (second :: rest)

namespace ControllerLoader

def defaultSuffix : String := "Controller"

def endsAsController (shortName : String) : Bool :=
  decide (defaultSuffix.toList <:+ shortName.toList)

structure Sources where
  own : TypeToken → List Annotation
  submissions : List TypeToken

/-- Registers the submitted types one after another. A type is kept when its name is wanted and it
is a controller once it is registered; registering the others comes after that is decided. -/
def discover (own : TypeToken → List Annotation) (wanted : String → Bool) :
    List TypeToken → MetadataStore → List TypeToken × MetadataStore
  | [], store => ([], store)
  | type :: rest, store =>
      let registered := store.register own type
      let (others, last) := discover own wanted rest registered
      if wanted type.shortName && registered.isController type then (type :: others, last)
      else (others, last)

def byName (types : List TypeToken) : List TypeToken :=
  types.mergeSort fun a b => decide (a.name ≤ b.name)

def discoveredEntry (found : List TypeToken) : LogEntry :=
  LogEntry.ofFields .debug "discovered controllers" [("discovered", .int found.length)]

def load (sources : Sources) (store : MetadataStore) :
    ControllerLoader → Except Cause (List TypeToken) × MetadataStore × List LogEntry
  | .explicit controllers => (.ok controllers, store, [])
  | .registered => (.ok (store.targets.filter store.isController), store, [])
  | .discovering wanted =>
      let (kept, last) := discover sources.own wanted sources.submissions store
      let found := dropRepeats (byName kept)
      (.ok found, last, [discoveredEntry found])
  | .failing cause => (.error cause, store, [])

end ControllerLoader

end EventPipeline
