import EventPipeline.Proofs.Container.Sharing

/-! Requests, from outside and from within a construction.

Whatever comes up in a resolution finds the keys under construction without instances. So a request
that fails leaves its own key without one, and a request that finds its key without one has the
constructor of the key run. -/

namespace EventPipeline

variable {σ υ : Type} [Inhabited σ]

variable {catalogue : Catalogue σ υ}

/-- The tasks that come up while a task is done, with the resolver that each of them finds. -/
inductive Arises (catalogue : Catalogue σ υ) :
    Task σ υ → Resolver σ υ → Task σ υ → Resolver σ υ → Prop where
  | self (task : Task σ υ) (resolver : Resolver σ υ) : Arises catalogue task resolver task resolver
  | entered {inner : Task σ υ} {resolver found : Resolver σ υ} {key : BindingKey}
      {binding : Binding} {type : TypeToken} {form : Form} (requester : Option BindingKey)
      (fresh : key ∉ resolver.path)
      (bound : resolver.world.container.binding? key = some binding)
      (vacant : binding.scope = .shared → resolver.world.container.cell? key = none)
      (provider : binding.provider = .constructor type form)
      (within : Arises catalogue (.construct key type form (catalogue type).construct)
        (resolver.push key) inner found) :
      Arises catalogue (.resolve requester key) resolver inner found
  | nested {inner : Task σ υ} {resolver found : Resolver σ υ} {key wanted : BindingKey}
      {type : TypeToken} {form : Form} {next : Except ResolutionError InstanceId →
        ConstructScript σ υ (Except ResolutionError (Blueprint σ))}
      (within : Arises catalogue (.resolve (some key) wanted) resolver inner found) :
      Arises catalogue (.construct key type form (.ask (.resolve wanted) next)) resolver inner found
  | asked {inner : Task σ υ} {resolver between found : Resolver σ υ} {key wanted : BindingKey}
      {type : TypeToken} {form : Form} {next : Except ResolutionError InstanceId →
        ConstructScript σ υ (Except ResolutionError (Blueprint σ))}
      {incidents : List Incident} {answer : Except ResolutionError InstanceId}
      (run : Runs catalogue (.resolve (some key) wanted) resolver incidents answer between)
      (within : Arises catalogue (.construct key type form (next answer)) between inner found) :
      Arises catalogue (.construct key type form (.ask (.resolve wanted) next)) resolver inner found
  | other {inner : Task σ υ} {resolver found : Resolver σ υ} {key : BindingKey} {type : TypeToken}
      {form : Form} {asked : ConstructRequest σ υ} {next : asked.Answer →
        ConstructScript σ υ (Except ResolutionError (Blueprint σ))}
      {reply : asked.Answer} {between : World σ υ} (plain : ∀ key, asked ≠ .resolve key)
      (answered : ∀ request, @answerConstructor σ υ ResolutionError _ catalogue request asked
        resolver.world = (.ok reply, between))
      (within : Arises catalogue (.construct key type form (next reply))
        { resolver with world := between } inner found) :
      Arises catalogue (.construct key type form (.ask asked next)) resolver inner found

theorem Arises.finds_sound {task inner : Task σ υ} {resolver found : Resolver σ υ}
    (arises : Arises catalogue task resolver inner found) (sound : resolver.Sound)
    (suited : task.Suited) : found.Sound := by
  induction arises with
  | self => exact sound
  | entered _ fresh bound vacant provider _ ih =>
    exact ih (sound.push bound vacant) (sound.furnished.kind_of_vacant bound vacant provider)
  | nested _ ih => exact ih sound trivial
  | asked run _ ih => exact ih (run.leaves_sound sound trivial) suited
  | other plain answered _ ih => exact ih (sound.steady (steady_of_answered plain answered)) suited

def Constructs (catalogue : Catalogue σ υ) (requester : Option BindingKey) (key : BindingKey)
    (before : Resolver σ υ) (incidents : List Incident) : Prop :=
  ∃ inner outcome reached rest,
    Runs catalogue (.construct key key.type key.form (catalogue key.type).construct)
      (before.push key) inner outcome reached ∧
    incidents = .requested requester before.path key .entered :: inner ++ rest

variable {requester : Option BindingKey} {key : BindingKey} {before after : Resolver σ υ}
  {incidents : List Incident} {result : Except ResolutionError InstanceId}

namespace Runs

theorem answered (run : Runs catalogue (.resolve requester key) before incidents result after) :
    .answered before.path key result ∈ incidents := by
  obtain ⟨reception, between, rfl, _⟩ := run.bracketed
  exact List.mem_append_right _ (List.mem_singleton_self _)

/-- A request that fails leaves the cell of its own key empty. -/
theorem cell_of_failed (run : Runs catalogue (.resolve requester key) before incidents result after)
    (sound : before.Sound) {error : ResolutionError} (failed : result = .error error) :
    after.world.container.cell? key = none := by
  have furnished := sound.furnished
  cases run with
  | circular _ onPath => exact sound.empty key onPath
  | unbound _ _ missing => exact furnished.cell_of_unbound missing
  | held _ _ found shared full =>
    rw [(furnished.cells _ _ full).1.readAs] at failed
    cases failed
  | spent _ _ found vacant _ => exact furnished.vacant found vacant
  | failed _ fresh found vacant _ construction =>
    exact construction.spares_own (furnished.vacant found vacant)
  | @built _ reached _ _ _ _ _ id _ fresh found vacant provider construction =>
    -- An instance of the key's own kind is read back, so this end is no failure.
    obtain ⟨rfl, rfl⟩ := furnished.kind_of_vacant found vacant provider
    have made : reached.world.MadeFor key id := construction.made_kind id rfl
    rw [made.readAs] at failed
    cases failed

theorem new_of_unshared
    (run : Runs catalogue (.resolve requester key) before incidents result after)
    (unshared : before.world.container.scopeOf? key ≠ some .shared) {id : InstanceId}
    (answered : result = .ok id) : before.world.instance? id = none := by
  have listed : id ∈ incidents.filterMap (Incident.answer? key) :=
    List.mem_filterMap.mpr ⟨_, run.answered, by simp [answered, Incident.answer?]⟩
  exact List.getElem?_eq_none ((run.ascends unshared).within id listed).1

/-- A request for a bound key without an instance runs the constructor of the key. -/
theorem constructs (run : Runs catalogue (.resolve requester key) before incidents result after)
    (furnished : before.world.Furnished) (fresh : key ∉ before.path)
    (bound : before.world.container.isBound key = true)
    (empty : before.world.container.cell? key = none) :
    Constructs catalogue requester key before incidents := by
  cases run with
  | circular _ onPath => exact absurd onPath fresh
  | unbound _ _ missing => simp [Container.isBound, missing] at bound
  | held _ _ _ _ full => simp [empty] at full
  | spent _ _ found vacant given => exact absurd given (furnished.not_given_of_vacant found vacant)
  | failed _ _ found vacant provider construction =>
    obtain ⟨rfl, rfl⟩ := furnished.kind_of_vacant found vacant provider
    exact ⟨_, _, _, _, construction, rfl⟩
  | built _ _ found vacant provider construction =>
    obtain ⟨rfl, rfl⟩ := furnished.kind_of_vacant found vacant provider
    exact ⟨_, _, _, _, construction, rfl⟩

end Runs

end EventPipeline
