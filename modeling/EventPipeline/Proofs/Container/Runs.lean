import EventPipeline.Proofs.Container.Construction

/-! Resolutions, incident by incident.

A resolver carries the path of the keys under construction. It puts a key on the path before the
constructor behind it runs, and takes the last key off when the constructor has ended, well or badly;
every request that is made meanwhile goes through the same resolver. This is written down here as a
relation between a task, the resolver before and after it, and what happens in between. Each request
has exactly one end, which is that of `request`, and leaves the path as it was. -/

namespace EventPipeline

variable {σ υ : Type}

def World.keep (world : World σ υ) (scope : Scope) (key : BindingKey) (built : InstanceId) :
    World σ υ :=
  match scope with
  | .transient => world
  | .shared => world.changeContainer (·.fill key built)

/-- A resolver at work: the keys under construction, from the root, and the world. -/
structure Resolver (σ υ : Type) where
  path : List BindingKey
  world : World σ υ

namespace Resolver

def push (resolver : Resolver σ υ) (key : BindingKey) : Resolver σ υ :=
  { resolver with path := resolver.path ++ [key] }

def pop (resolver : Resolver σ υ) : Resolver σ υ :=
  { resolver with path := resolver.path.dropLast }

def add (resolver : Resolver σ υ) (made : Instance σ) : Resolver σ υ :=
  { resolver with world := resolver.world.add made }

def keep (resolver : Resolver σ υ) (scope : Scope) (key : BindingKey) (built : InstanceId) :
    Resolver σ υ :=
  { resolver with world := resolver.world.keep scope key built }

def cycle (resolver : Resolver σ υ) (key : BindingKey) : ResolutionError :=
  .circular ((resolver.path ++ [key]).map (·.name))

end Resolver

/-- How a request is met: it fails by itself, or gets the instance that a shared binding holds, or
its key comes under construction. -/
inductive Reception where
  | refused (error : ResolutionError)
  | held (id : InstanceId)
  | entered
deriving DecidableEq

/-- What happens in a resolution. -/
inductive Incident where
  /-- A request, by the constructor of a key or from outside, while the keys of a path are under
  construction. -/
  | requested (requester : Option BindingKey) (path : List BindingKey) (key : BindingKey)
      (reception : Reception)
  /-- The constructor of the last key of the path has made an instance. -/
  | built (path : List BindingKey) (key : BindingKey) (id : InstanceId)
  | answered (path : List BindingKey) (key : BindingKey)
      (answer : Except ResolutionError InstanceId)

/-- What a resolver is at: a request, or the rest of a constructor that builds for a key. -/
inductive Task (σ υ : Type) where
  | resolve (requester : Option BindingKey) (key : BindingKey)
  | construct (key : BindingKey) (type : TypeToken) (form : Form)
      (script : ConstructScript σ υ (Except ResolutionError (Blueprint σ)))

variable [Inhabited σ]

/-- A task is done by a resolver: all that happens, what comes of it, and the resolver after it. -/
inductive Runs (catalogue : Catalogue σ υ) : Task σ υ → Resolver σ υ → List Incident →
    Except ResolutionError InstanceId → Resolver σ υ → Prop where
  | circular {resolver : Resolver σ υ} {key : BindingKey} (requester : Option BindingKey)
      (onPath : key ∈ resolver.path) :
      Runs catalogue (.resolve requester key) resolver
        [.requested requester resolver.path key (.refused (resolver.cycle key)),
          .answered resolver.path key (.error (resolver.cycle key))]
        (.error (resolver.cycle key)) resolver
  | unbound {resolver : Resolver σ υ} {key : BindingKey} (requester : Option BindingKey)
      (fresh : key ∉ resolver.path) (missing : resolver.world.container.binding? key = none) :
      Runs catalogue (.resolve requester key) resolver
        [.requested requester resolver.path key (.refused (.unbound key.name)),
          .answered resolver.path key (.error (.unbound key.name))]
        (.error (.unbound key.name)) resolver
  | held {resolver : Resolver σ υ} {key : BindingKey} {binding : Binding} {id : InstanceId}
      (requester : Option BindingKey) (fresh : key ∉ resolver.path)
      (found : resolver.world.container.binding? key = some binding)
      (shared : binding.scope = .shared) (full : resolver.world.container.cell? key = some id) :
      Runs catalogue (.resolve requester key) resolver
        [.requested requester resolver.path key (.held id),
          .answered resolver.path key (readAs key id resolver.world).1]
        (readAs key id resolver.world).1 resolver
  | spent {resolver : Resolver σ υ} {key : BindingKey} {binding : Binding}
      (requester : Option BindingKey) (fresh : key ∉ resolver.path)
      (found : resolver.world.container.binding? key = some binding)
      (vacant : binding.scope = .shared → resolver.world.container.cell? key = none)
      (given : binding.provider = .given) :
      Runs catalogue (.resolve requester key) resolver
        [.requested requester resolver.path key .entered,
          .answered resolver.path key (.error (.unbound key.name))]
        (.error (.unbound key.name)) resolver
  | failed {resolver after : Resolver σ υ} {key : BindingKey} {binding : Binding}
      {type : TypeToken} {form : Form} {incidents : List Incident} {error : ResolutionError}
      (requester : Option BindingKey) (fresh : key ∉ resolver.path)
      (found : resolver.world.container.binding? key = some binding)
      (vacant : binding.scope = .shared → resolver.world.container.cell? key = none)
      (provider : binding.provider = .constructor type form)
      (construction : Runs catalogue (.construct key type form (catalogue type).construct)
        (resolver.push key) incidents (.error error) after) :
      Runs catalogue (.resolve requester key) resolver
        (.requested requester resolver.path key .entered :: incidents ++
          [.answered after.pop.path key (.error error)])
        (.error error) after.pop
  | built {resolver after : Resolver σ υ} {key : BindingKey} {binding : Binding}
      {type : TypeToken} {form : Form} {incidents : List Incident} {id : InstanceId}
      (requester : Option BindingKey) (fresh : key ∉ resolver.path)
      (found : resolver.world.container.binding? key = some binding)
      (vacant : binding.scope = .shared → resolver.world.container.cell? key = none)
      (provider : binding.provider = .constructor type form)
      (construction : Runs catalogue (.construct key type form (catalogue type).construct)
        (resolver.push key) incidents (.ok id) after) :
      Runs catalogue (.resolve requester key) resolver
        (.requested requester resolver.path key .entered :: incidents ++
          [.built after.path key id,
            .answered after.pop.path key (readAs key id after.world).1])
        (readAs key id after.world).1 (after.keep binding.scope key id).pop
  | raised {resolver : Resolver σ υ} (key : BindingKey) (type : TypeToken) (form : Form)
      (error : ResolutionError) :
      Runs catalogue (.construct key type form (.done (.error error))) resolver [] (.error error)
        resolver
  | made {resolver : Resolver σ υ} (key : BindingKey) (type : TypeToken) (form : Form)
      (blueprint : Blueprint σ) :
      Runs catalogue (.construct key type form (.done (.ok blueprint))) resolver []
        (.ok resolver.world.nextId)
        (resolver.add ⟨type, form, blueprint.properties, blueprint.state⟩)
  | asked {resolver between after : Resolver σ υ} {key wanted : BindingKey} {type : TypeToken}
      {form : Form} {next : Except ResolutionError InstanceId →
        ConstructScript σ υ (Except ResolutionError (Blueprint σ))}
      {incidents more : List Incident} {answer result : Except ResolutionError InstanceId}
      (nested : Runs catalogue (.resolve (some key) wanted) resolver incidents answer between)
      (later : Runs catalogue (.construct key type form (next answer)) between more result after) :
      Runs catalogue (.construct key type form (.ask (.resolve wanted) next)) resolver
        (incidents ++ more) result after
  /-- Whatever else a constructor asks for, no request is made for it. -/
  | other {resolver after : Resolver σ υ} {key : BindingKey} {type : TypeToken} {form : Form}
      {asked : ConstructRequest σ υ} {next : asked.Answer →
        ConstructScript σ υ (Except ResolutionError (Blueprint σ))}
      {reply : asked.Answer} {between : World σ υ} {incidents : List Incident}
      {result : Except ResolutionError InstanceId} (plain : ∀ key, asked ≠ .resolve key)
      (answered : ∀ request, @answerConstructor σ υ ResolutionError _ catalogue request asked
        resolver.world = (.ok reply, between))
      (later : Runs catalogue (.construct key type form (next reply))
        { resolver with world := between } incidents result after) :
      Runs catalogue (.construct key type form (.ask asked next)) resolver incidents result after

/-! ### The end of a run -/

def building (catalogue : Catalogue σ υ)
    (request : BindingKey → Action (World σ υ) ResolutionError InstanceId) (type : TypeToken)
    (form : Form) (script : ConstructScript σ υ (Except ResolutionError (Blueprint σ))) :
    Action (World σ υ) ResolutionError InstanceId := do
  let outcome ← script.run (answerConstructor catalogue request)
  let blueprint ← Action.ofExcept outcome
  let id ← Action.view World.nextId
  Action.modify (·.add ⟨type, form, blueprint.properties, blueprint.state⟩)
  pure id

/-- What a task comes to, over a table of bindings and under the keys of a path. -/
def Task.action (catalogue : Catalogue σ υ) (table : List Binding) (path : List BindingKey) :
    Task σ υ → Action (World σ υ) ResolutionError InstanceId
  | .resolve _ key => request catalogue table path key
  | .construct _ type form script =>
      building catalogue (request catalogue table path) type form script

section Building

variable {catalogue : Catalogue σ υ}
  {request : BindingKey → Action (World σ υ) ResolutionError InstanceId} {type : TypeToken}
  {form : Form}

theorem building_ask_resolve (wanted : BindingKey)
    (next : Except ResolutionError InstanceId →
      ConstructScript σ υ (Except ResolutionError (Blueprint σ))) (world : World σ υ) :
    building catalogue request type form (.ask (.resolve wanted) next) world =
      building catalogue request type form (next (request wanted world).1)
        (request wanted world).2 := rfl

theorem building_ask {asked : ConstructRequest σ υ} {reply : asked.Answer}
    {world between : World σ υ}
    (answered : @answerConstructor σ υ ResolutionError _ catalogue request asked world =
      (.ok reply, between))
    (next : asked.Answer → ConstructScript σ υ (Except ResolutionError (Blueprint σ))) :
    building catalogue request type form (.ask asked next) world =
      building catalogue request type form (next reply) between := by
  unfold building
  rw [Action.bind_apply, Script.run_ask, answered]
  rfl

end Building

theorem answerConstructor_of_plain {catalogue : Catalogue σ υ} {asked : ConstructRequest σ υ}
    (plain : ∀ key, asked ≠ .resolve key) (world : World σ υ) : ∃ reply after,
      ∀ request, @answerConstructor σ υ ResolutionError _ catalogue request asked world =
        (.ok reply, after) := by
  obtain ⟨reply, after, answered, _⟩ := @answerConstructor_plain σ υ ResolutionError _
    catalogue (fun key => Action.fail (.unbound key.name)) asked plain world
  refine ⟨reply, after, ?_⟩
  intro request
  cases asked with
  | resolve key => exact absurd rfl (plain key)
  | _ => exact answered

theorem steady_of_answered {catalogue : Catalogue σ υ} {asked : ConstructRequest σ υ}
    {reply : asked.Answer} {world between : World σ υ} (plain : ∀ key, asked ≠ .resolve key)
    (answered : ∀ request, @answerConstructor σ υ ResolutionError _ catalogue request asked world =
      (.ok reply, between)) : world.Steady between := by
  obtain ⟨_, after, same, steady⟩ := @answerConstructor_plain σ υ ResolutionError _
    catalogue (fun key => Action.fail (.unbound key.name)) asked plain world
  obtain ⟨_, rfl⟩ := Prod.mk.inj (same.symm.trans (answered _))
  exact steady

section Keep

omit [Inhabited σ]

variable (world : World σ υ) (scope : Scope) (key : BindingKey) (built : InstanceId)

@[simp] theorem World.bindings_keep :
    (world.keep scope key built).container.bindings = world.container.bindings := by
  cases scope with
  | transient => rfl
  | shared => exact Container.bindings_fill ..

@[simp] theorem World.instances_keep :
    (world.keep scope key built).instances = world.instances := by
  cases scope <;> rfl

end Keep

section Requests

variable {catalogue : Catalogue σ υ} {table : List Binding} {path : List BindingKey}
  {key : BindingKey} {binding : Binding} {world after : World σ υ}

theorem provide_constructor {request : BindingKey → Action (World σ υ) ResolutionError InstanceId}
    {type : TypeToken} {form : Form} (provider : binding.provider = .constructor type form) :
    provide catalogue request binding = construct catalogue request type form := by
  unfold provide
  rw [provider]

theorem resolveKey_of_provided {built : InstanceId} (fresh : key ∉ path)
    (found : table.find? (·.key = key) = some binding)
    (vacant : binding.scope = .shared → world.container.cell? key = none)
    (provided : provide catalogue (request catalogue table (path ++ [key])) binding world =
      (.ok built, after)) :
    resolveKey catalogue table path key world = (.ok built, after.keep binding.scope key built) := by
  rw [resolveKey_of_bound fresh found]
  cases scope : binding.scope with
  | transient => exact provided
  | shared => simp only [cached, vacant scope, provided, World.keep]

theorem resolveKey_of_unprovided {error : ResolutionError} (fresh : key ∉ path)
    (found : table.find? (·.key = key) = some binding)
    (vacant : binding.scope = .shared → world.container.cell? key = none)
    (provided : provide catalogue (request catalogue table (path ++ [key])) binding world =
      (.error error, after)) :
    resolveKey catalogue table path key world = (.error error, after) := by
  rw [resolveKey_of_bound fresh found]
  cases scope : binding.scope with
  | transient => exact provided
  | shared => simp only [cached, vacant scope, provided]

theorem request_of_error {error : ResolutionError}
    (failed : resolveKey catalogue table path key world = (.error error, after)) :
    request catalogue table path key world = (.error error, after) := by
  unfold request Action.bind
  rw [failed]

theorem request_of_ok {id : InstanceId}
    (resolved : resolveKey catalogue table path key world = (.ok id, after)) :
    request catalogue table path key world = ((readAs key id after).1, after) := by
  unfold request Action.bind
  rw [resolved]
  simp only [readAs]
  split <;> rfl

omit [Inhabited σ] in
theorem readAs_congr [Inhabited σ] {other : World σ υ} (same : other.instances = world.instances)
    (id : InstanceId) : (readAs key id other).1 = (readAs key id world).1 := by
  unfold readAs World.instanceAt World.instance?
  rw [same]
  split <;> rfl

end Requests

namespace Runs

variable {catalogue : Catalogue σ υ} {task : Task σ υ} {before after : Resolver σ υ}
  {incidents : List Incident} {result : Except ResolutionError InstanceId}

theorem path_eq (run : Runs catalogue task before incidents result after) :
    after.path = before.path := by
  induction run with
  | failed _ _ _ _ _ _ ih => simp [Resolver.pop, ih, Resolver.push]
  | built _ _ _ _ _ _ ih => simp [Resolver.pop, Resolver.keep, ih, Resolver.push]
  | asked _ _ first second => exact second.trans first
  | other _ _ _ ih => exact ih
  | _ => rfl

theorem bindings_eq (run : Runs catalogue task before incidents result after) :
    after.world.container.bindings = before.world.container.bindings := by
  induction run with
  | failed _ _ _ _ _ _ ih => exact ih
  | built _ _ _ _ _ _ ih =>
    simp only [Resolver.pop, Resolver.keep, World.bindings_keep]
    exact ih
  | asked _ _ first second => exact second.trans first
  | other plain answered _ ih =>
    have steady := steady_of_answered plain answered
    rw [ih, steady.container]
  | _ => rfl

theorem sound (run : Runs catalogue task before incidents result after) :
    task.action catalogue before.world.container.bindings before.path before.world =
      (result, after.world) := by
  induction run with
  | circular requester onPath =>
    apply request_of_error
    rw [resolveKey_of_mem onPath]
    rfl
  | unbound requester fresh missing =>
    apply request_of_error
    rw [resolveKey_of_unbound fresh missing]
    rfl
  | held requester fresh found shared full =>
    apply request_of_ok
    rw [resolveKey_of_bound fresh found, shared]
    simp only [cached, full]
  | @spent resolver key binding requester fresh found vacant given =>
    obtain ⟨_, rfl⟩ := find?_mem_and_key found
    refine request_of_error (resolveKey_of_unprovided fresh found vacant ?_)
    simp only [provide, given, Action.fail_apply]
  | failed requester fresh found vacant provider construction ih =>
    refine request_of_error (resolveKey_of_unprovided fresh found vacant ?_)
    rw [provide_constructor provider]
    exact ih
  | built requester fresh found vacant provider construction ih =>
    have kept := resolveKey_of_provided fresh found vacant
      ((congrFun (provide_constructor provider) _).trans ih)
    refine (request_of_ok kept).trans ?_
    rw [readAs_congr (World.instances_keep ..)]
    rfl
  | raised key type form error => rfl
  | made key type form blueprint => rfl
  | asked nested later first second =>
    show building _ _ _ _ _ _ = _
    have answered : request catalogue _ _ _ _ = _ := first
    rw [building_ask_resolve, answered]
    rw [nested.bindings_eq, nested.path_eq] at second
    exact second
  | other plain answered later ih =>
    show building _ _ _ _ _ _ = _
    rw [building_ask (answered _)]
    rw [(steady_of_answered plain answered).container] at ih
    exact ih

end Runs

/-! ### Every task ends -/

section Total

variable {catalogue : Catalogue σ υ} {table : List Binding} {path : List BindingKey}

theorem construct_runs (requests : ∀ requester key (world : World σ υ),
      world.container.bindings = table → ∃ incidents result after,
        Runs catalogue (.resolve requester key) ⟨path, world⟩ incidents result after)
    (key : BindingKey) (type : TypeToken) (form : Form)
    (script : ConstructScript σ υ (Except ResolutionError (Blueprint σ))) (world : World σ υ)
    (same : world.container.bindings = table) : ∃ incidents result after,
      Runs catalogue (.construct key type form script) ⟨path, world⟩ incidents result after := by
  induction script generalizing world with
  | done outcome =>
    cases outcome with
    | error error => exact ⟨_, _, _, .raised key type form error⟩
    | ok blueprint => exact ⟨_, _, _, .made key type form blueprint⟩
  | ask asked next ih =>
    by_cases resolving : ∃ wanted, asked = .resolve wanted
    · obtain ⟨wanted, rfl⟩ := resolving
      obtain ⟨incidents, answer, ⟨pathAfter, between⟩, nested⟩ :=
        requests (some key) wanted world same
      obtain rfl : pathAfter = path := nested.path_eq
      obtain ⟨more, result, after, later⟩ := ih answer between (nested.bindings_eq.trans same)
      exact ⟨_, _, _, .asked nested later⟩
    · have plain : ∀ key, asked ≠ .resolve key := fun key is => resolving ⟨key, is⟩
      obtain ⟨reply, between, answered⟩ :=
        @answerConstructor_of_plain σ υ _ catalogue asked plain world
      have steady := steady_of_answered plain answered
      obtain ⟨incidents, result, after, later⟩ :=
        ih reply between ((congrArg Container.bindings steady.container).trans same)
      exact ⟨_, _, _, .other plain answered later⟩

/-- Every request comes to an end: nested requests go one key further along the path. -/
theorem resolve_runs (requester : Option BindingKey) (key : BindingKey) (world : World σ υ)
    (same : world.container.bindings = table) : ∃ incidents result after,
      Runs catalogue (.resolve requester key) ⟨path, world⟩ incidents result after := by
  have entering : ∀ {path : List BindingKey} {key : BindingKey} {binding : Binding}
      {requester : Option BindingKey} {world : World σ υ}, world.container.bindings = table →
      key ∉ path → table.find? (·.key = key) = some binding →
      (∀ requester nested (world : World σ υ), world.container.bindings = table →
        ∃ incidents result after, Runs catalogue (.resolve requester nested)
          ⟨path ++ [key], world⟩ incidents result after) →
      (binding.scope = .shared → world.container.cell? key = none) →
      ∃ incidents result after,
        Runs catalogue (.resolve requester key) ⟨path, world⟩ incidents result after := by
    intro path key binding requester world same fresh found nested vacant
    have bound : world.container.binding? key = some binding := by
      rw [← found, ← same]
      rfl
    cases provider : binding.provider with
    | given => exact ⟨_, _, _, .spent requester fresh bound vacant provider⟩
    | constructor type form =>
      obtain ⟨incidents, result, after, construction⟩ :=
        construct_runs nested key type form (catalogue type).construct world same
      cases result with
      | error error =>
        exact ⟨_, _, _, .failed requester fresh bound vacant provider construction⟩
      | ok id => exact ⟨_, _, _, .built requester fresh bound vacant provider construction⟩
  -- The recursion is that of resolving: a constructor at work leaves one binding fewer that is not on
  -- the path, and what it asks for starts from that path.
  induction path, key using resolveKey.induct catalogue table generalizing requester world with
  | case1 path key onPath => exact ⟨_, _, _, .circular requester onPath⟩
  | case2 path key fresh unbound =>
    refine ⟨_, _, _, .unbound requester fresh ?_⟩
    rw [← unbound, ← same]
    rfl
  | case3 path key fresh binding found transient ih =>
    refine entering same fresh found (fun requester nested => ih nested requester) ?_
    intro shared
    simp [transient] at shared
  | case4 path key fresh binding found shared ih =>
    cases full : world.container.cell? key with
    | some id =>
      refine ⟨_, _, _, .held requester fresh ?_ shared full⟩
      rw [← found, ← same]
      rfl
    | none =>
      exact entering same fresh found (fun requester nested => ih nested requester) fun _ => full

end Total

/-- Every task ends in one way, whatever constructors do: as the function says that resolves keys,
and with the path that was there before. -/
theorem runs_iff (catalogue : Catalogue σ υ) (task : Task σ υ) (before : Resolver σ υ)
    (result : Except ResolutionError InstanceId) (after : Resolver σ υ) :
    (∃ incidents, Runs catalogue task before incidents result after) ↔
      after.path = before.path ∧
        task.action catalogue before.world.container.bindings before.path before.world =
          (result, after.world) := by
  constructor
  · rintro ⟨incidents, run⟩
    exact ⟨run.path_eq, run.sound⟩
  · rintro ⟨samePath, ends⟩
    obtain ⟨incidents, other, reached, run⟩ : ∃ incidents other reached,
        Runs catalogue task before incidents other reached := by
      cases task with
      | resolve requester key => exact resolve_runs requester key before.world rfl
      | construct key type form script =>
        exact construct_runs (fun requester nested world => resolve_runs requester nested world) key
          type form script before.world rfl
    obtain ⟨rfl, sameWorld⟩ := Prod.mk.inj (ends.symm.trans run.sound)
    have same : reached = after := by
      cases reached
      cases after
      cases sameWorld
      cases samePath.trans run.path_eq.symm
      rfl
    exact ⟨incidents, same ▸ run⟩

theorem runs_of_resolve (catalogue : Catalogue σ υ) (key : BindingKey) (world : World σ υ) :
    ∃ incidents, Runs catalogue (.resolve none key) ⟨[], world⟩ incidents
      (resolve catalogue key world).1 ⟨[], (resolve catalogue key world).2⟩ :=
  (runs_iff catalogue (.resolve none key) ⟨[], world⟩ _ ⟨[], _⟩).mpr ⟨rfl, rfl⟩

end EventPipeline
