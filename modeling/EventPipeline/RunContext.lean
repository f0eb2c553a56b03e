import EventPipeline.Json.Object

/-! The context of one pipeline run: the values that steps leave for the steps after them, and the
deadline for the rest of the run. -/

namespace EventPipeline

open Json

/-- The moment by which a run has to finish, and the budget it was derived from, in nanoseconds. -/
structure Deadline where
  expiry : Nat
  budget : Nat
deriving DecidableEq, Repr

namespace Deadline

def after (now budget : Nat) : Deadline := ⟨now + budget, budget⟩

def remaining (deadline : Deadline) (now : Nat) : Nat := deadline.expiry - now

def isExpired (deadline : Deadline) (now : Nat) : Bool := decide (deadline.expiry ≤ now)

/-- Of a deadline in place and a new one, the earlier; the one in place when they agree. -/
def keepEarlier (held : Option Deadline) (candidate : Deadline) : Deadline :=
  match held with
  | some existing => if existing.expiry ≤ candidate.expiry then existing else candidate
  | none => candidate

end Deadline

structure RunContext where
  values : Object
  deadline : Option Deadline
deriving DecidableEq, Inhabited

namespace RunContext

def empty : RunContext := ⟨OrderedMap.empty, none⟩

def insert (context : RunContext) (key : String) (value : Value) : RunContext :=
  { context with values := context.values.insert key value }

def remove (context : RunContext) (key : String) : RunContext :=
  { context with values := context.values.erase key }

def setDeadline (context : RunContext) (now budget : Nat) : RunContext :=
  { context with
    deadline := some (Deadline.keepEarlier context.deadline (Deadline.after now budget)) }

end RunContext

end EventPipeline
