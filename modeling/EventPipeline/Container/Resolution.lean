import EventPipeline.Invocation

/-! Resolving a key to an instance.

A resolution carries the path of the keys whose constructors are running. A key that is requested
while it is on the path is a cycle. Every nested request goes one key further along bound keys that
are not on the path, so a resolution ends whatever the constructors do. -/

namespace EventPipeline

open Json

variable {σ υ ε : Type} [Inhabited σ]

def answerConstructor
    (catalogue : Catalogue σ υ)
    (request : BindingKey → Action (World σ υ) ResolutionError InstanceId) :
    (asked : ConstructRequest σ υ) → Action (World σ υ) ε asked.Answer
  | .resolve key => Action.attempt (request key)
  | .isBound key => Action.view (·.container.isBound key)
  | .invoke dependency method slots => fun world =>
      let (outcome, after) := invoke catalogue dependency method slots ⟨world, .empty⟩
      (.ok outcome, after.world)
  | .inspect dependency => Action.view fun world => (world.instanceAt dependency).state
  | .shared => Action.view (·.shared)
  | .setShared shared => Action.modify fun world => { world with shared }
  | .log entry => Action.modify (·.report entry)

/-- Runs the constructor of a type. The instance is made only when the constructor succeeds. -/
def construct (catalogue : Catalogue σ υ)
    (request : BindingKey → Action (World σ υ) ResolutionError InstanceId)
    (type : TypeToken) (form : Form) : Action (World σ υ) ResolutionError InstanceId := do
  let outcome ← (catalogue type).construct.run (answerConstructor catalogue request)
  let blueprint ← Action.ofExcept outcome
  let id ← Action.view World.nextId
  Action.modify (·.add ⟨type, form, blueprint.properties, blueprint.state⟩)
  pure id

def provide (catalogue : Catalogue σ υ)
    (request : BindingKey → Action (World σ υ) ResolutionError InstanceId) (binding : Binding) :
    Action (World σ υ) ResolutionError InstanceId :=
  match binding.provider with
  | .constructor type form => construct catalogue request type form
  | .given => Action.fail (.unbound binding.key.name)

/-- The instance of a shared binding, built by `make` when its cell is empty. A failure leaves the
cell empty. -/
def cached (key : BindingKey) (make : Action (World σ υ) ResolutionError InstanceId) :
    Action (World σ υ) ResolutionError InstanceId := fun world =>
  match world.container.cell? key with
  | some held => (.ok held, world)
  | none =>
      match make world with
      | (.ok built, after) => (.ok built, after.changeContainer (·.fill key built))
      | (.error error, after) => (.error error, after)

def readAs (key : BindingKey) (id : InstanceId) :
    Action (World σ υ) ResolutionError InstanceId := fun world =>
  if (world.instanceAt id).form = key.form then (.ok id, world)
  else (.error (.typeMismatch key.name), world)

def unvisited (table : List Binding) (path : List BindingKey) : Nat :=
  (table.filter fun binding => decide (binding.key ∉ path)).length

theorem unvisited_push {table : List Binding} {path : List BindingKey} {binding : Binding}
    (bound : binding ∈ table) (fresh : binding.key ∉ path) :
    unvisited table (path ++ [binding.key]) < unvisited table path := by
  unfold unvisited
  have shrinks : (table.filter fun other => decide (other.key ∉ path ++ [binding.key])) =
      (table.filter fun other => decide (other.key ∉ path)).filter
        fun other => decide (other.key ≠ binding.key) := by
    rw [List.filter_filter]
    congr 1
    funext other
    by_cases same : other.key = binding.key <;> simp [same]
  rw [shrinks]
  apply List.length_filter_lt_length_iff_exists.mpr
  exact ⟨binding, List.mem_filter.mpr ⟨bound, by simpa using fresh⟩, by simp⟩

theorem find?_mem_and_key {table : List Binding} {key : BindingKey} {binding : Binding}
    (found : table.find? (·.key = key) = some binding) :
    binding ∈ table ∧ binding.key = key :=
  ⟨List.mem_of_find?_eq_some found, by simpa using List.find?_some found⟩

/-- Resolves a key that is requested while the keys of `path` are under construction. Constructors
never bind, so the table of bindings stays the same throughout. -/
def resolveKey (catalogue : Catalogue σ υ) (table : List Binding) (path : List BindingKey)
    (key : BindingKey) : Action (World σ υ) ResolutionError InstanceId :=
  if _onPath : key ∈ path then
    Action.fail (.circular ((path ++ [key]).map (·.name)))
  else
    match _found : table.find? (·.key = key) with
    | none => Action.fail (.unbound key.name)
    | some binding =>
        let make := provide catalogue
          (fun nested => Action.bind (resolveKey catalogue table (path ++ [key]) nested)
            (readAs nested)) binding
        match binding.scope with
        | .transient => make
        | .shared => cached key make
termination_by unvisited table path
decreasing_by
  obtain ⟨bound, same⟩ := find?_mem_and_key _found
  subst same
  exact unvisited_push bound _onPath

def request (catalogue : Catalogue σ υ) (table : List Binding) (path : List BindingKey)
    (key : BindingKey) : Action (World σ υ) ResolutionError InstanceId :=
  Action.bind (resolveKey catalogue table path key) (readAs key)

theorem resolveKey_of_mem {catalogue : Catalogue σ υ} {table : List Binding}
    {path : List BindingKey} {key : BindingKey} (onPath : key ∈ path) :
    resolveKey catalogue table path key =
      Action.fail (.circular ((path ++ [key]).map (·.name))) := by
  rw [resolveKey, dif_pos onPath]

theorem resolveKey_of_unbound {catalogue : Catalogue σ υ} {table : List Binding}
    {path : List BindingKey} {key : BindingKey} (fresh : key ∉ path)
    (unbound : table.find? (·.key = key) = none) :
    resolveKey catalogue table path key = Action.fail (.unbound key.name) := by
  rw [resolveKey, dif_neg fresh]
  split
  · rfl
  · next binding found => simp [unbound] at found

theorem resolveKey_of_bound {catalogue : Catalogue σ υ} {table : List Binding}
    {path : List BindingKey} {key : BindingKey} {binding : Binding} (fresh : key ∉ path)
    (bound : table.find? (·.key = key) = some binding) :
    resolveKey catalogue table path key =
      match binding.scope with
      | .transient => provide catalogue (request catalogue table (path ++ [key])) binding
      | .shared => cached key (provide catalogue (request catalogue table (path ++ [key])) binding) := by
  rw [resolveKey, dif_neg fresh]
  split
  · next unbound => simp [unbound] at bound
  · next other found =>
    obtain rfl := Option.some.inj (found.symm.trans bound)
    rfl

def resolve (catalogue : Catalogue σ υ) (key : BindingKey) :
    Action (World σ υ) ResolutionError InstanceId := fun world =>
  request catalogue world.container.bindings [] key world

end EventPipeline
