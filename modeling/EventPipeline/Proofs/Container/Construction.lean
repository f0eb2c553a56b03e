import EventPipeline.Proofs.Container.Dependencies
import EventPipeline.Proofs.World.Steady

/-! Constructors that resolve a fixed list of keys.

Such a constructor asks for its keys one after another, goes on as long as they are delivered, and
passes the first failure on unchanged. Between its requests it may do whatever else a constructor
may. Building an instance with it then fails as its first failing key does, and else succeeds. -/

namespace EventPipeline

variable {σ υ ε : Type}

/-- The script ends with this failure and resolves nothing any more. -/
inductive Raises (error : ResolutionError) :
    ConstructScript σ υ (Except ResolutionError (Blueprint σ)) → Prop where
  | done : Raises error (.done (.error error))
  | other (asked : ConstructRequest σ υ)
      (next : asked.Answer → ConstructScript σ υ (Except ResolutionError (Blueprint σ)))
      (plain : ∀ key, asked ≠ .resolve key) (raises : ∀ answer, Raises error (next answer)) :
      Raises error (.ask asked next)

/-- The script resolves these keys in this order and adds no failure of its own. -/
inductive Requests :
    ConstructScript σ υ (Except ResolutionError (Blueprint σ)) → List BindingKey → Prop where
  | built (blueprint : Blueprint σ) : Requests (.done (.ok blueprint)) []
  | resolve (key : BindingKey) (rest : List BindingKey)
      (next : Except ResolutionError InstanceId →
        ConstructScript σ υ (Except ResolutionError (Blueprint σ)))
      (delivered : ∀ id, Requests (next (.ok id)) rest)
      (failed : ∀ error, Raises error (next (.error error))) :
      Requests (.ask (.resolve key) next) (key :: rest)
  | other (asked : ConstructRequest σ υ) (keys : List BindingKey)
      (next : asked.Answer → ConstructScript σ υ (Except ResolutionError (Blueprint σ)))
      (plain : ∀ key, asked ≠ .resolve key) (requests : ∀ answer, Requests (next answer) keys) :
      Requests (.ask asked next) keys

namespace World

/-- There is an instance of this number, and it is held in this form. -/
def Shows (world : World σ υ) (id : InstanceId) (form : Form) : Prop :=
  ∃ held, world.instances[id]? = some held ∧ held.form = form

theorem Shows.steady {before after : World σ υ} (steady : Steady before after) {id : InstanceId}
    {form : Form} (shows_ : before.Shows id form) : after.Shows id form := by
  obtain ⟨held, found, rfl⟩ := shows_
  obtain ⟨kept, there, kind⟩ := steady.instance? found
  exact ⟨kept, there, congrArg Prod.snd kind⟩

theorem Shows.add {world : World σ υ} {id : InstanceId} {form : Form}
    (shows_ : world.Shows id form) (made : Instance σ) : (world.add made).Shows id form := by
  obtain ⟨held, found, rfl⟩ := shows_
  obtain ⟨inside, _⟩ := List.getElem?_eq_some_iff.mp found
  exact ⟨held, by rw [World.add, List.getElem?_append_left inside]; exact found, rfl⟩

theorem shows_add_nextId (world : World σ υ) (made : Instance σ) :
    (world.add made).Shows world.nextId made.form :=
  ⟨made, by simp [World.add, World.nextId], rfl⟩

variable [Inhabited σ]

theorem Shows.form_eq {world : World σ υ} {id : InstanceId} {form : Form}
    (shows_ : world.Shows id form) : (world.instanceAt id).form = form := by
  obtain ⟨held, found, rfl⟩ := shows_
  simp [World.instanceAt, World.instance?, found]

end World

/-- A request for a key has come out as foretold: with this failure, or with an instance in the form
of the key. -/
def Foretold (key : BindingKey) (fault : Option ResolutionError)
    (result : Except ResolutionError InstanceId × World σ υ) : Prop :=
  match fault with
  | some error => result.1 = .error error
  | none => ∃ id, result.1 = .ok id ∧ result.2.Shows id key.form

def Delivers (Holds : World σ υ → Prop) (key : BindingKey) (fault : Option ResolutionError)
    (action : Action (World σ υ) ResolutionError InstanceId) : Prop :=
  ∀ world, Holds world → Holds (action world).2 ∧ Foretold key fault (action world)

variable [Inhabited σ] {catalogue : Catalogue σ υ} {Holds : World σ υ → Prop}
  {request : BindingKey → Action (World σ υ) ResolutionError InstanceId}

theorem answerConstructor_plain {asked : ConstructRequest σ υ} (plain : ∀ key, asked ≠ .resolve key)
    (world : World σ υ) : ∃ reply after,
      @answerConstructor σ υ ε _ catalogue request asked world = (.ok reply, after) ∧
        world.Steady after := by
  cases asked with
  | resolve key => exact absurd rfl (plain key)
  | isBound key => exact ⟨_, world, rfl, .refl world⟩
  | invoke dependency method slots =>
    refine ⟨_, _, rfl, ?_⟩
    show World.Steady world (EventPipeline.invoke catalogue dependency method slots
      ⟨world, .empty⟩).2.world
    rw [invoke_snd]
    exact invokeWithin_steady catalogue none dependency method slots ⟨world, .empty⟩
  | inspect dependency => exact ⟨_, world, rfl, .refl world⟩
  | shared => exact ⟨_, world, rfl, .refl world⟩
  | setShared shared => exact ⟨(), _, rfl, ⟨rfl, rfl⟩⟩
  | log entry => exact ⟨(), _, rfl, ⟨rfl, rfl⟩⟩

theorem Raises.run {error : ResolutionError}
    {script : ConstructScript σ υ (Except ResolutionError (Blueprint σ))}
    (raises : Raises error script) (world : World σ υ) : ∃ after,
      script.run (@answerConstructor σ υ ε _ catalogue request) world = (.ok (.error error), after) ∧
        world.Steady after := by
  induction raises generalizing world with
  | done => exact ⟨world, rfl, .refl world⟩
  | other asked next plain _ ih =>
    obtain ⟨reply, between, answered, first⟩ :=
      @answerConstructor_plain σ υ ε _ catalogue request _ plain world
    obtain ⟨after, ran, second⟩ := ih reply between
    refine ⟨after, ?_, first.trans second⟩
    rw [Script.run_ask, answered]
    exact ran

theorem Requests.run {script : ConstructScript σ υ (Except ResolutionError (Blueprint σ))}
    {keys : List BindingKey} (requests : Requests script keys)
    (steadily : ∀ before after, World.Steady before after → Holds before → Holds after)
    {fault : BindingKey → Option ResolutionError}
    (delivers : ∀ key ∈ keys, Delivers Holds key (fault key) (request key))
    (world : World σ υ) (holds : Holds world) : ∃ outcome after,
      script.run (@answerConstructor σ υ ε _ catalogue request) world = (.ok outcome, after) ∧
        Holds after ∧
          match keys.findSome? fault with
          | some error => outcome = .error error
          | none => ∃ blueprint, outcome = .ok blueprint := by
  induction requests generalizing world with
  | built blueprint => exact ⟨_, world, rfl, holds, blueprint, rfl⟩
  | resolve key rest next delivered failed ih =>
    obtain ⟨kept, answered⟩ := delivers key (List.mem_cons_self ..) world holds
    rw [Script.run_ask]
    simp only [answerConstructor, Action.attempt_apply, List.findSome?_cons]
    cases foreseen : fault key with
    | none =>
      rw [foreseen] at answered
      obtain ⟨id, got, _⟩ := answered
      rw [got]
      exact ih id (fun other member => delivers other (List.mem_cons_of_mem _ member)) _ kept
    | some error =>
      rw [foreseen] at answered
      rw [show (request key world).1 = .error error from answered]
      obtain ⟨after, ran, steady⟩ :=
        @Raises.run σ υ ε _ catalogue request _ _ (failed error) (request key world).2
      exact ⟨_, after, ran, steadily _ _ steady kept, rfl⟩
  | other asked keys next plain _ ih =>
    obtain ⟨reply, between, answered, steady⟩ :=
      @answerConstructor_plain σ υ ε _ catalogue request _ plain world
    rw [Script.run_ask, answered]
    exact ih reply delivers between (steadily _ _ steady holds)

theorem construct_delivers {type : TypeToken} {keys : List BindingKey}
    (requests : Requests (catalogue type).construct keys)
    (steadily : ∀ before after, World.Steady before after → Holds before → Holds after)
    (making : ∀ world made, Holds world → Holds (world.add made))
    {fault : BindingKey → Option ResolutionError}
    (delivers : ∀ key ∈ keys, Delivers Holds key (fault key) (request key))
    {key : BindingKey} :
    Delivers Holds key (keys.findSome? fault) (construct catalogue request type key.form) := by
  intro world holds
  obtain ⟨outcome, after, ran, kept, told⟩ :=
    @Requests.run σ υ ResolutionError _ catalogue _ _ _ _ requests steadily fault delivers world holds
  unfold construct
  rw [Action.bind_apply, ran]
  cases found : keys.findSome? fault with
  | some error =>
    rw [found] at told
    subst told
    exact ⟨kept, rfl⟩
  | none =>
    rw [found] at told
    obtain ⟨blueprint, rfl⟩ := told
    exact ⟨making _ _ kept, after.nextId, rfl, after.shows_add_nextId _⟩

end EventPipeline
