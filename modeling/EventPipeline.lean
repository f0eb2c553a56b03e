import EventPipeline.ActivationUnit
import EventPipeline.Agreement
import EventPipeline.Arguments
import EventPipeline.Behaviour
import EventPipeline.Builtin.Extractors
import EventPipeline.Builtin.Filters
import EventPipeline.Builtin.Middleware
import EventPipeline.Builtin.Own
import EventPipeline.Builtin.Rehearsal
import EventPipeline.Clock
import EventPipeline.Compilation
import EventPipeline.CompilerOptions
import EventPipeline.Configuration
import EventPipeline.Container.Basic
import EventPipeline.Container.Resolution
import EventPipeline.Decimal.Shortest
import EventPipeline.Dispatcher
import EventPipeline.Document
import EventPipeline.Effect.Action
import EventPipeline.Effect.Script
import EventPipeline.Error
import EventPipeline.Event
import EventPipeline.Factory
import EventPipeline.Failure
import EventPipeline.Framework
import EventPipeline.Invocation
import EventPipeline.Json.Decoder
import EventPipeline.Json.Number
import EventPipeline.Json.Object
import EventPipeline.Json.Printer
import EventPipeline.Json.Reader
import EventPipeline.Json.Value
import EventPipeline.Loader
import EventPipeline.LogEntry
import EventPipeline.Metadata.Definition
import EventPipeline.Metadata.Store
import EventPipeline.MethodTable
import EventPipeline.OrderedMap
import EventPipeline.Response
import EventPipeline.RunContext
import EventPipeline.Text.Ranges
import EventPipeline.Text.Word
import EventPipeline.Text.NamedClass
import EventPipeline.Text.ByteSequence
import EventPipeline.Text.Duration
import EventPipeline.Text.Literal
import EventPipeline.Text.Markless
import EventPipeline.Text.Unassigned
import EventPipeline.Text.Pattern
import EventPipeline.Text.Pattern.Reduced
import EventPipeline.Text.Pattern.Layout
import EventPipeline.Text.Pattern.Bounds
import EventPipeline.Text.Pattern.Reader
import EventPipeline.TypeToken
import EventPipeline.Workbench.Clerk
import EventPipeline.Workbench.Fixture
import EventPipeline.Workbench.Handles
import EventPipeline.Workbench.Probe
import EventPipeline.Workbench.Session
import EventPipeline.Workbench.Shape
import EventPipeline.World
import EventPipeline.Json.Access
import EventPipeline.Workbench.Declaration
import EventPipeline.Workbench.ReturnShape
import EventPipeline.Workbench.Summary
import EventPipeline.Proofs.Compilation.MiddlewareStack
import EventPipeline.Proofs.World.Steady
import EventPipeline.Proofs.Container.Dependencies
import EventPipeline.Proofs.Container.Construction
import EventPipeline.Proofs.Container.Calls
import EventPipeline.Proofs.Container.Resolvability
import EventPipeline.Proofs.Dispatch.Course
import EventPipeline.Proofs.Dispatch.Order
import EventPipeline.Proofs.Dispatch.Slots
import EventPipeline.Proofs.Dispatch.Building
import EventPipeline.Proofs.Dispatch.Runs
import EventPipeline.Proofs.Dispatch.Live
import EventPipeline.Proofs.Dispatch.Failure
import EventPipeline.Proofs.Metadata.History
import EventPipeline.Proofs.World.Passive
import EventPipeline.Proofs.Container.Creation
import EventPipeline.Proofs.Routing.Answers
import EventPipeline.Proofs.Routing.Verdicts
import EventPipeline.Proofs.Builtin.Filters
import EventPipeline.Proofs.Routing.Compiled
import EventPipeline.Proofs.Container.Typing
import EventPipeline.Proofs.Routing.Exact
import EventPipeline.Proofs.Container.Runs
import EventPipeline.Proofs.Container.Path
import EventPipeline.Proofs.Container.Furnished
import EventPipeline.Proofs.Container.Sharing
import EventPipeline.Proofs.Container.Requests
import EventPipeline.Proofs.Container.Chronicle
import EventPipeline.Proofs.Container.Delivery
import EventPipeline.Proofs.Activation.Obtaining
import EventPipeline.Proofs.Activation.Roster
import EventPipeline.Proofs.Activation.Configured
import EventPipeline.Proofs.Compilation.Enumeration
import EventPipeline.Proofs.Metadata.Recorded
import EventPipeline.Proofs.Dispatch.Deadlines
import EventPipeline.Proofs.Container.Carrying
import EventPipeline.Proofs.Dispatch.Recipes
import EventPipeline.Proofs.Compilation.Grouping
import EventPipeline.Proofs.Compilation.ContextNames
import EventPipeline.Proofs.Loading.Discovery
import EventPipeline.Proofs.Dispatch.Staffing
import EventPipeline.Proofs.Dispatch.Parameters
import EventPipeline.Proofs.Dispatch.Changes
import EventPipeline.Proofs.Dispatch.Threading
import EventPipeline.Proofs.Compilation.Locality
import EventPipeline.Proofs.Compilation.Interleaving
import EventPipeline.Proofs.Container.Registration
import EventPipeline.Proofs.Effect.Twin
import EventPipeline.Proofs.World.Apart
import EventPipeline.Proofs.Container.Standalone
import EventPipeline.Proofs.Dispatch.Posts
import EventPipeline.Proofs.Dispatch.Manned
import EventPipeline.Proofs.Dispatch.Twin
import EventPipeline.Proofs.Dispatch.Memoryless
import EventPipeline.Proofs.Dispatch.Arity
import EventPipeline.Proofs.Container.Alike
import EventPipeline.Proofs.Dispatch.Procurement
import EventPipeline.Proofs.Container.Lifecycle
import EventPipeline.Proofs.Failure.Origin
import EventPipeline.Proofs.Dispatch.Surfacing
import EventPipeline.Proofs.Loading.Repetition
import EventPipeline.Proofs.Invocation.Declared
import EventPipeline.Proofs.Event.Envelope
import EventPipeline.Proofs.Configuration.Merging
import EventPipeline.Proofs.Compilation.ShortNames
import EventPipeline.Proofs.Container.Clients
import EventPipeline.Proofs.Container.ReadBack
