import EventPipeline.RunContext

/-! Handles on run contexts. A handle may be copied; the copies share one context. -/

namespace EventPipeline.Workbench

structure Handles where
  contexts : List RunContext
  targets : List Nat

namespace Handles

def start : Handles := ⟨[.empty], [0]⟩

def target (handles : Handles) (handle : Nat) : Nat := handles.targets[handle]?.getD 0

def context (handles : Handles) (handle : Nat) : RunContext :=
  handles.contexts[handles.target handle]?.getD .empty

/-- Changes the context of a handle, and so that of all its copies. -/
def put (handles : Handles) (handle : Nat) (context : RunContext) : Handles :=
  { handles with contexts := handles.contexts.set (handles.target handle) context }

def addNew (handles : Handles) : Nat × Handles :=
  (handles.targets.length,
    ⟨handles.contexts ++ [.empty], handles.targets ++ [handles.contexts.length]⟩)

def copy (handles : Handles) (handle : Nat) : Nat × Handles :=
  (handles.targets.length,
    { handles with targets := handles.targets ++ [handles.target handle] })

def same (handles : Handles) (first second : Nat) : Bool :=
  handles.target first == handles.target second

end Handles

end EventPipeline.Workbench
