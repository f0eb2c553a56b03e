/-! Computations over a state that survives failure: what a failing computation has done before it
fails stays done. -/

namespace EventPipeline

def Action (State Error Result : Type) : Type := State → Except Error Result × State

namespace Action

variable {State Inner Error Other α β : Type}

protected def pure (value : α) : Action State Error α := fun state => (.ok value, state)

protected def bind (first : Action State Error α) (next : α → Action State Error β) :
    Action State Error β := fun state =>
  match first state with
  | (.ok value, after) => next value after
  | (.error error, after) => (.error error, after)

instance : Monad (Action State Error) where
  pure := Action.pure
  bind := Action.bind

def fail (error : Error) : Action State Error α := fun state => (.error error, state)

def state : Action State Error State := fun state => (.ok state, state)

def modify (change : State → State) : Action State Error Unit := fun state =>
  (.ok (), change state)

def view (part : State → α) : Action State Error α := fun state => (.ok (part state), state)

def ofExcept (outcome : Except Error α) : Action State Error α := fun state => (outcome, state)

def attempt (action : Action State Error α) : Action State Other (Except Error α) := fun state =>
  let (outcome, after) := action state
  (.ok outcome, after)

def mapError (wrap : Error → Other) (action : Action State Error α) : Action State Other α :=
  fun state =>
    let (outcome, after) := action state
    (outcome.mapError wrap, after)

def within (part : State → Inner) (put : Inner → State → State)
    (action : Action Inner Error α) : Action State Error α := fun state =>
  let (outcome, after) := action (part state)
  (outcome, put after state)

/-- Runs an action on every element of a list in turn, next to a state they share. The first
failure ends the run; the elements after it are left as they were. -/
def sweep (visit : Action (α × State) Error β) : Action (List α × State) Error (List β)
  | ([], shared) => (.ok [], ([], shared))
  | (element :: rest, shared) =>
      match visit (element, shared) with
      | (.error error, (visited, after)) => (.error error, (visited :: rest, after))
      | (.ok value, (visited, after)) =>
          match sweep visit (rest, after) with
          | (outcome, (others, last)) => (outcome.map (value :: ·), (visited :: others, last))

@[simp] theorem pure_apply (value : α) (s : State) :
    (pure value : Action State Error α) s = (.ok value, s) := rfl

theorem bind_apply (first : Action State Error α) (next : α → Action State Error β) (s : State) :
    (first >>= next) s =
      match first s with
      | (.ok value, after) => next value after
      | (.error error, after) => (.error error, after) := rfl

@[simp] theorem fail_apply (error : Error) (s : State) :
    (fail error : Action State Error α) s = (.error error, s) := rfl

@[simp] theorem state_apply (s : State) :
    (state : Action State Error State) s = (.ok s, s) := rfl

@[simp] theorem modify_apply (change : State → State) (s : State) :
    (modify change : Action State Error Unit) s = (.ok (), change s) := rfl

@[simp] theorem view_apply (part : State → α) (s : State) :
    (view part : Action State Error α) s = (.ok (part s), s) := rfl

@[simp] theorem ofExcept_apply (outcome : Except Error α) (s : State) :
    (ofExcept outcome : Action State Error α) s = (outcome, s) := rfl

@[simp] theorem attempt_apply (action : Action State Error α) (s : State) :
    (attempt action : Action State Other (Except Error α)) s =
      (.ok (action s).1, (action s).2) := rfl

@[simp] theorem mapError_apply (wrap : Error → Other) (action : Action State Error α) (s : State) :
    mapError wrap action s = ((action s).1.mapError wrap, (action s).2) := rfl

@[simp] theorem within_apply (part : State → Inner) (put : Inner → State → State)
    (action : Action Inner Error α) (s : State) :
    within part put action s = ((action (part s)).1, put (action (part s)).2 s) := rfl

end Action

end EventPipeline
