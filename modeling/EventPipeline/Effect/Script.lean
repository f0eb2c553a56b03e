import EventPipeline.Effect.Action

/-! Scripts: what user code does, as a tree of requests.

A script asks its surroundings for one thing at a time and goes on as the answer tells it. It makes
finitely many requests on every path, and it can touch nothing but what its requests offer. -/

namespace EventPipeline

inductive Script (Request : Type) (Answer : Request → Type) (α : Type) : Type where
  | done (value : α)
  | ask (request : Request) (next : Answer request → Script Request Answer α)

namespace Script

variable {Request : Type} {Answer : Request → Type} {α β : Type} {State Error : Type}

protected def bind : Script Request Answer α → (α → Script Request Answer β) →
    Script Request Answer β
  | .done value, next => next value
  | .ask request continue_, next => .ask request fun answer => (continue_ answer).bind next

instance : Monad (Script Request Answer) where
  pure := .done
  bind := Script.bind

def run (answer : (request : Request) → Action State Error (Answer request)) :
    Script Request Answer α → Action State Error α
  | .done value => Action.pure value
  | .ask request next => Action.bind (answer request) fun reply => (next reply).run answer

@[simp] theorem run_done (answer : (request : Request) → Action State Error (Answer request))
    (value : α) (s : State) : run answer (.done value) s = (.ok value, s) := rfl

theorem run_ask (answer : (request : Request) → Action State Error (Answer request))
    (request : Request) (next : Answer request → Script Request Answer α) (s : State) :
    run answer (.ask request next) s =
      match answer request s with
      | (.ok reply, after) => run answer (next reply) after
      | (.error error, after) => (.error error, after) := by
  simp only [run, Action.bind]
  rcases answer request s with ⟨reply | reply, after⟩ <;> rfl

theorem run_bind (answer : (request : Request) → Action State Error (Answer request))
    (script : Script Request Answer α) (next : α → Script Request Answer β) (s : State) :
    run answer (script.bind next) s =
      match run answer script s with
      | (.ok value, after) => run answer (next value) after
      | (.error error, after) => (.error error, after) := by
  induction script generalizing s with
  | done value => rfl
  | ask request continue_ ih =>
      simp only [Script.bind, run_ask]
      rcases answer request s with ⟨reply | reply, after⟩
      · rfl
      · exact ih reply after

/-- What every answer keeps, a run keeps. -/
theorem run_keeps {answer : (request : Request) → Action State Error (Answer request)}
    {Holds : State → Prop}
    (kept : ∀ request s, Holds s → Holds (answer request s).2)
    (script : Script Request Answer α) (s : State) (holds : Holds s) :
    Holds (run answer script s).2 := by
  induction script generalizing s with
  | done value => exact holds
  | ask request next ih =>
      have answered := kept request s holds
      rw [run_ask]
      revert answered
      rcases answer request s with ⟨reply | reply, after⟩ <;> intro answered
      · exact answered
      · exact ih reply after answered

end Script

end EventPipeline
