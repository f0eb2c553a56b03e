import EventPipeline.World

/-! Running a method of an instance against the context of a run.

A method that waits may be cut off: when the timer of a cutoff rings before the wait is over, the
method ends there, with the error of the cutoff, and nothing of it happens any more. A timer never
rings before the moment of its cutoff, and a wait that is over just when it rings is not cut off. -/

namespace EventPipeline

open Json

variable {σ υ ε : Type}

structure RunState (σ υ : Type) where
  world : World σ υ
  context : RunContext

namespace RunState

def changeClock (run : RunState σ υ) (clock : Clock) : RunState σ υ :=
  { run with world := { run.world with clock } }

def changeContext (run : RunState σ υ) (context : RunContext) : RunState σ υ :=
  { run with context }

def onWorld {α : Type} (action : Action (World σ υ) ε α) : Action (RunState σ υ) ε α :=
  Action.within (·.world) (fun world run => { run with world }) action

def setDeadline (budget : Nat) : Action (RunState σ υ) ε Deadline := fun run =>
  let clock := run.world.clock.read
  (.ok (Deadline.keepEarlier run.context.deadline (Deadline.after clock.now budget)),
    (run.changeClock clock).changeContext (run.context.setDeadline clock.now budget))

end RunState

/-- The moment at which a waiting method is cut off, and the error that it then ends with. -/
structure Cutoff (ε : Type) where
  moment : Nat
  error : ε

/-- Lets time pass, but not beyond a cutoff. The timer of a cutoff may be late; what passes between
its moment and the end of the method is the next pause of the clock. -/
def waitWithin (cutoff : Option (Cutoff ε)) (duration : Nat) : Action (RunState σ υ) ε Unit :=
  fun run =>
    let clock := run.world.clock
    match cutoff with
    | some limit =>
        let rung := (clock.reach limit.moment).read
        if rung.now < clock.now + duration then (.error limit.error, run.changeClock rung)
        else (.ok (), run.changeClock { rung with now := clock.now + duration })
    | none => (.ok (), run.changeClock (clock.pass duration))

variable [Inhabited σ]

def answerMethod (cutoff : Option (Cutoff ε)) (self : InstanceId) :
    (request : MethodRequest σ υ) → Action (RunState σ υ) ε request.Answer
  | .own request => RunState.onWorld (World.answerOwn self request)
  | .insert key value => fun run =>
      (.ok (run.context.values.get? key), run.changeContext (run.context.insert key value))
  | .remove key => fun run =>
      (.ok (run.context.values.get? key), run.changeContext (run.context.remove key))
  | .values => Action.view (·.context.values)
  | .setDeadline budget => RunState.setDeadline budget
  | .deadline => Action.view (·.context.deadline)
  | .wait duration => waitWithin cutoff duration

/-- Invokes a method of an instance by name. The outer failure is that of the cutoff, the inner one
the method's own. -/
def invokeWithin (catalogue : Catalogue σ υ) (cutoff : Option (Cutoff ε)) (target : InstanceId)
    (method : String) (slots : Slots) : Action (RunState σ υ) ε (Except InvokeError Value) :=
  fun run =>
    ((catalogue (run.world.instanceAt target).type).invoke method slots).run
      (answerMethod cutoff target) run

def invoke (catalogue : Catalogue σ υ) (target : InstanceId) (method : String) (slots : Slots) :
    Action (RunState σ υ) InvokeError Value := do
  let outcome ← invokeWithin catalogue none target method slots
  Action.ofExcept outcome

def accepts (catalogue : Catalogue σ υ) (filter : InstanceId) (event : Event) :
    Action (World σ υ) Cause Bool := fun world =>
  match ((catalogue (world.instanceAt filter).type).accepts event).run
      (World.answerOwn filter) world with
  | (.ok outcome, after) => (outcome, after)
  | (.error cause, after) => (.error cause, after)

def extract (catalogue : Catalogue σ υ) (extractor : InstanceId) (event : Event) :
    Action (World σ υ) Cause Value := fun world =>
  match ((catalogue (world.instanceAt extractor).type).extract event).run
      (World.answerOwn extractor) world with
  | (.ok outcome, after) => (outcome, after)
  | (.error cause, after) => (.error cause, after)

end EventPipeline
