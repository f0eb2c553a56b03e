import EventPipeline.Compilation
import EventPipeline.Loader

/-! A framework ties a controller loader to the compiler. -/

namespace EventPipeline

open Json

structure Framework where
  loader : ControllerLoader
  options : CompilerOptions

namespace Framework

def standard : Framework := ⟨.registered, .standard⟩

def loadedEntry (candidates : List TypeToken) : LogEntry :=
  LogEntry.ofFields .debug "loaded controller candidates" [("candidates", .int candidates.length)]

/-- Documents of loaded candidates, and what compiling them reports. When loading failed nothing is
compiled. -/
def compileLoaded (framework : Framework) (signatures : TypeToken → List MethodSignature)
    (store : MetadataStore) :
    Except Cause (List TypeToken) → Except LoadError (List PipelineDocument) × List LogEntry
  | .error cause => (.error ⟨cause⟩, [])
  | .ok candidates =>
      let compilation : Compilation := ⟨signatures, store, framework.options⟩
      (.ok (compilation.compile candidates),
        loadedEntry candidates :: compilation.compileLog candidates)

def definitions (framework : Framework) (signatures : TypeToken → List MethodSignature)
    (sources : ControllerLoader.Sources) (store : MetadataStore) :
    Except LoadError (List PipelineDocument) × MetadataStore × List LogEntry :=
  let (loaded, last, loading) := framework.loader.load sources store
  let (documents, compiling) := framework.compileLoaded signatures last loaded
  (documents, last, loading ++ compiling)

end Framework

end EventPipeline
