import EventPipeline.Behaviour

/-! The binding table.

A container holds at most one binding for a key. The first registration of a key wins: a later one
changes nothing and says so. A shared binding keeps the instance it has built in a cell. -/

namespace EventPipeline

/-- The lifecycle of a binding: a new instance for every resolution, or one instance for all. -/
inductive Scope where
  | transient
  | shared
deriving DecidableEq, Repr

namespace Scope

def ofShared (shared : Bool) : Scope := if shared then .shared else .transient

def name : Scope → String
  | .transient => "Transient"
  | .shared => "Shared"

end Scope

/-- Where the instances of a binding come from: a constructor, whose instances are held in one form,
or a value that was given, which can never be built again. -/
inductive Provider where
  | constructor (type : TypeToken) (form : Form)
  | given
deriving DecidableEq, Repr

structure Binding where
  key : BindingKey
  scope : Scope
  provider : Provider
deriving DecidableEq, Repr

structure Container where
  bindings : List Binding
  cells : List (BindingKey × InstanceId)
deriving DecidableEq, Repr, Inhabited

namespace Container

def empty : Container := ⟨[], []⟩

def binding? (container : Container) (key : BindingKey) : Option Binding :=
  container.bindings.find? (·.key = key)

def isBound (container : Container) (key : BindingKey) : Bool :=
  (container.binding? key).isSome

/-- Whether a registration of the key takes effect, which is what it reports to its caller. -/
def admits (container : Container) (key : BindingKey) : Bool := !container.isBound key

def scopeOf? (container : Container) (key : BindingKey) : Option Scope :=
  (container.binding? key).map (·.scope)

def size (container : Container) : Nat := container.bindings.length

def cell? (container : Container) (key : BindingKey) : Option InstanceId :=
  container.cells.lookup key

def diagnostic (container : Container) : String :=
  "\x7b" ++ ", ".intercalate (container.bindings.map fun binding =>
    Text.literal binding.key.name ++ ": " ++ binding.scope.name) ++ "\x7d"

def fill (container : Container) (key : BindingKey) (built : InstanceId) : Container :=
  match container.cell? key with
  | some _ => container
  | none => { container with cells := (key, built) :: container.cells }

def register (container : Container) (binding : Binding) : Container :=
  if container.isBound binding.key then container
  else { container with bindings := container.bindings ++ [binding] }

def bind (container : Container) (key : BindingKey) (scope : Scope) : Container :=
  container.register ⟨key, scope, .constructor key.type key.form⟩

def bindGiven (container : Container) (type : TypeToken) (given : InstanceId) : Container :=
  let key : BindingKey := ⟨type, .concrete⟩
  if container.isBound key then container
  else (container.register ⟨key, .shared, .given⟩).fill key given

@[simp] theorem bindings_fill (container : Container) (key : BindingKey) (built : InstanceId) :
    (container.fill key built).bindings = container.bindings := by
  unfold fill
  split <;> rfl

theorem cell?_fill (container : Container) (key wanted : BindingKey) (built : InstanceId) :
    (container.fill key built).cell? wanted =
      (container.cell? wanted).or (if wanted = key then some built else none) := by
  unfold fill
  split
  · next held full =>
    by_cases same : wanted = key
    · simp [same, full]
    · simp [same]
  · next vacant =>
    unfold cell? at vacant ⊢
    by_cases same : wanted = key
    · subst same
      simp [vacant]
    · simp [same, List.lookup_cons, beq_false_of_ne same]

@[simp] theorem cells_register (container : Container) (binding : Binding) :
    (container.register binding).cells = container.cells := by
  unfold register
  split <;> rfl

theorem binding?_register (container : Container) (binding : Binding) (key : BindingKey) :
    (container.register binding).binding? key =
      (container.binding? key).or (if binding.key = key then some binding else none) := by
  unfold register isBound
  split
  · next bound =>
    by_cases same : binding.key = key
    · subst same
      obtain ⟨held, found⟩ := Option.isSome_iff_exists.mp bound
      simp [found]
    · simp [same]
  · unfold binding?
    by_cases same : binding.key = key
    · simp [List.find?_append, same]
    · simp [List.find?_append, same]

end Container

end EventPipeline
