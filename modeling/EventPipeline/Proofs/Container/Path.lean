import Mathlib.Data.List.Nodup
import Mathlib.Data.List.Perm.Subperm
import EventPipeline.Proofs.Container.Runs

/-! The path of a resolver.

At any moment of a resolution the keys under construction are bound and differ from each other, and
each of them has been requested by the constructor of the one before it. There are never more of them
than there are bindings. A request fails as a cycle when its key is among them, and only then. -/

namespace EventPipeline

variable {σ υ : Type}

def Incident.path : Incident → List BindingKey
  | .requested _ path key .entered => path ++ [key]
  | .requested _ path _ _ => path
  | .built path _ _ => path
  | .answered path _ _ => path

/-- Keys that can be under construction together. -/
structure Underway (table : List Binding) (path : List BindingKey) : Prop where
  distinct : path.Nodup
  bound : ∀ key ∈ path, IsBound table key

namespace Underway

variable {table : List Binding} {path : List BindingKey}

theorem nil (table : List Binding) : Underway table [] := ⟨List.nodup_nil, by simp⟩

theorem push (underway : Underway table path) {key : BindingKey} (fresh : key ∉ path)
    (bound : IsBound table key) : Underway table (path ++ [key]) where
  distinct := by
    rw [List.nodup_append]
    refine ⟨underway.distinct, List.nodup_singleton key, ?_⟩
    rintro earlier listed last here rfl
    rw [List.mem_singleton] at here
    exact fresh (here ▸ listed)
  bound := by
    intro other listed
    rcases List.mem_append.mp listed with before | here
    · exact underway.bound other before
    · rw [List.mem_singleton.mp here]
      exact bound

theorem length_le (underway : Underway table path) : path.length ≤ table.length := by
  have listed : path ⊆ table.map (·.key) := by
    intro key member
    obtain ⟨binding, found⟩ := Option.isSome_iff_exists.mp (underway.bound key member)
    obtain ⟨among, same⟩ := find?_mem_and_key found
    exact List.mem_map.mpr ⟨binding, among, same⟩
  calc path.length ≤ (table.map (·.key)).length :=
        (List.subperm_of_subset underway.distinct listed).length_le
    _ = table.length := List.length_map ..

end Underway

/-- Every key of a path was under construction from the beginning, or has come to be since, when the
constructor of the key before it requested it. -/
def Traced (origin : List BindingKey) (incidents : List Incident) (path : List BindingKey) : Prop :=
  ∀ earlier key, earlier ++ [key] <+: path → earlier ++ [key] <+: origin ∨
    .requested earlier.getLast? earlier key .entered ∈ incidents

namespace Traced

variable {origin path : List BindingKey} {incidents more : List Incident}

theorem origin_self (origin : List BindingKey) (incidents : List Incident) :
    Traced origin incidents origin :=
  fun _ _ listed => .inl listed

theorem mono (traced : Traced origin incidents path) (within : incidents ⊆ more) :
    Traced origin more path :=
  fun earlier key listed => (traced earlier key listed).imp_right fun member => within member

theorem entered {key : BindingKey} (traced : Traced (origin ++ [key]) incidents path)
    (requested : .requested origin.getLast? origin key .entered ∈ incidents) :
    Traced origin incidents path := by
  intro earlier other listed
  rcases traced earlier other listed with before | since
  · rcases List.prefix_concat_iff.mp before with here | there
    · obtain ⟨rfl, same⟩ := List.append_inj' here rfl
      obtain rfl : other = key := by simpa using same
      exact .inr requested
    · exact .inl there
  · exact .inr since

end Traced

/-- A request is made by the constructor of the last key of the path, and it fails by itself as a
cycle when its key is on the path, and only then. -/
def Incident.Fair : Incident → Prop
  | .requested requester path key reception =>
      requester = path.getLast? ∧ ∀ names, reception = .refused (.circular names) ↔
        key ∈ path ∧ names = (path ++ [key]).map (·.name)
  | _ => True

/-- An incident in a run that begins with the keys of `origin` under construction. -/
structure Incident.Orderly (table : List Binding) (origin : List BindingKey)
    (incidents : List Incident) (incident : Incident) : Prop where
  begins : origin <+: incident.path
  underway : Underway table incident.path
  traced : Traced origin incidents incident.path
  fair : incident.Fair

namespace Incident.Orderly

variable {table : List Binding} {origin : List BindingKey} {incidents more : List Incident}
  {incident : Incident}

theorem mono (orderly : incident.Orderly table origin incidents) (within : incidents ⊆ more) :
    incident.Orderly table origin more :=
  { orderly with traced := orderly.traced.mono within }

theorem entered {key : BindingKey} (orderly : incident.Orderly table (origin ++ [key]) incidents)
    (requested : .requested origin.getLast? origin key .entered ∈ incidents) :
    incident.Orderly table origin incidents :=
  { orderly with
    begins := (List.prefix_append ..).trans orderly.begins
    traced := orderly.traced.entered requested }

theorem still (underway : Underway table origin) (same : incident.path = origin)
    (fair : incident.Fair) : incident.Orderly table origin incidents where
  begins := same ▸ List.prefix_refl origin
  underway := same ▸ underway
  traced := same ▸ Traced.origin_self origin incidents
  fair := fair

theorem brief {requester : Option BindingKey} {path : List BindingKey} {key : BindingKey}
    {reception : Reception} {answer : Except ResolutionError InstanceId}
    (underway : Underway table path) (outside : reception ≠ .entered)
    (fair : (Incident.requested requester path key reception).Fair) :
    ∀ incident ∈ [Incident.requested requester path key reception, .answered path key answer],
      incident.Orderly table path incidents := by
  have same : (Incident.requested requester path key reception).path = path := by
    cases reception with
    | entered => exact absurd rfl outside
    | _ => rfl
  intro incident member
  rcases List.mem_pair.mp member with rfl | rfl
  · exact still underway same fair
  · exact still underway rfl trivial

theorem around {path : List BindingKey} {key : BindingKey} {inner last : List Incident}
    (underway : Underway table path) (fresh : key ∉ path) (bound : IsBound table key)
    (inside : ∀ incident ∈ inner, incident.Orderly table (path ++ [key]) inner)
    (closing : ∀ incident ∈ last,
      incident.Fair ∧ (incident.path = path ∨ incident.path = path ++ [key])) :
    ∀ incident ∈ .requested path.getLast? path key .entered :: inner ++ last,
      incident.Orderly table path (.requested path.getLast? path key .entered :: inner ++ last) := by
  have requested : .requested path.getLast? path key .entered ∈
      .requested path.getLast? path key .entered :: inner ++ last := List.mem_cons_self ..
  have entering : ∀ incident : Incident, incident.path = path ++ [key] → incident.Fair →
      incident.Orderly table path (.requested path.getLast? path key .entered :: inner ++ last) :=
    fun incident same fair => (still (underway.push fresh bound) same fair).entered requested
  have within : inner ⊆ .requested path.getLast? path key .entered :: inner ++ last :=
    fun incident member => List.mem_append_left _ (List.mem_cons_of_mem _ member)
  intro incident member
  rcases List.mem_append.mp member with early | closes
  · rcases List.mem_cons.mp early with rfl | nested
    · exact entering _ rfl ⟨rfl, by simp [fresh]⟩
    · exact ((inside incident nested).mono within).entered requested
  · obtain ⟨fair, out | back⟩ := closing incident closes
    · exact still underway out fair
    · exact entering incident back fair

end Incident.Orderly

def Task.StandsAt (path : List BindingKey) : Task σ υ → Prop
  | .resolve requester _ => requester = path.getLast?
  | .construct key _ _ _ => path.getLast? = some key

variable [Inhabited σ] {catalogue : Catalogue σ υ} {task : Task σ υ} {before after : Resolver σ υ}
  {incidents : List Incident} {result : Except ResolutionError InstanceId}

theorem Runs.orderly (run : Runs catalogue task before incidents result after)
    (stands : task.StandsAt before.path)
    (underway : Underway before.world.container.bindings before.path) :
    ∀ incident ∈ incidents,
      incident.Orderly before.world.container.bindings before.path incidents := by
  induction run with
  | circular requester onPath =>
    refine .brief underway (by simp) ⟨stands, fun names => ?_⟩
    simp only [Resolver.cycle, Reception.refused.injEq, ResolutionError.circular.injEq, onPath,
      true_and]
    exact eq_comm
  | unbound requester fresh missing =>
    exact .brief underway (by simp) ⟨stands, by simp [fresh]⟩
  | held requester fresh found shared full =>
    exact .brief underway (by simp) ⟨stands, by simp [fresh]⟩
  | spent requester fresh found vacant given =>
    obtain rfl : requester = _ := stands
    refine @Incident.Orderly.around _ _ _ [] [_] underway fresh (Option.isSome_of_eq_some found)
      (fun _ member => (List.not_mem_nil member).elim) ?_
    intro incident member
    rw [List.mem_singleton.mp member]
    exact ⟨trivial, .inl rfl⟩
  | failed requester fresh found vacant provider construction ih =>
    obtain rfl : requester = _ := stands
    have bound : IsBound _ _ := Option.isSome_of_eq_some found
    have inside := ih (by simp [Task.StandsAt, Resolver.push]) (underway.push fresh bound)
    refine .around underway fresh bound inside ?_
    intro incident member
    rw [List.mem_singleton.mp member]
    refine ⟨trivial, .inl ?_⟩
    simp [Incident.path, Resolver.pop, construction.path_eq, Resolver.push]
  | built requester fresh found vacant provider construction ih =>
    obtain rfl : requester = _ := stands
    have bound : IsBound _ _ := Option.isSome_of_eq_some found
    have inside := ih (by simp [Task.StandsAt, Resolver.push]) (underway.push fresh bound)
    refine .around underway fresh bound inside ?_
    intro incident member
    rcases List.mem_pair.mp member with rfl | rfl
    · exact ⟨trivial, .inr construction.path_eq⟩
    · refine ⟨trivial, .inl ?_⟩
      simp [Incident.path, Resolver.pop, construction.path_eq, Resolver.push]
  | raised key type form error => exact fun _ member => (List.not_mem_nil member).elim
  | made key type form blueprint => exact fun _ member => (List.not_mem_nil member).elim
  | asked nested later first second =>
    -- A nested request gives the path back, so that what comes behind it starts where it started.
    rw [nested.path_eq, nested.bindings_eq] at second
    intro incident member
    rcases List.mem_append.mp member with early | late
    · exact (first (Eq.symm stands) underway incident early).mono (List.subset_append_left ..)
    · exact (second stands underway incident late).mono (List.subset_append_right ..)
  | other plain answered later ih =>
    rw [(steady_of_answered plain answered).container] at ih
    exact ih stands underway

/-- The incidents of a request stand between the request and its answer, both made with the path that
was there before. A request that fails by itself has nothing between. -/
theorem Runs.bracketed {requester : Option BindingKey} {key : BindingKey}
    (run : Runs catalogue (.resolve requester key) before incidents result after) :
    ∃ reception between, incidents = .requested requester before.path key reception :: between ++
        [.answered before.path key result] ∧
      ∀ error, reception = .refused error → between = [] ∧ result = .error error := by
  cases run with
  | circular requester onPath => exact ⟨_, [], rfl, by simp⟩
  | unbound requester fresh missing => exact ⟨_, [], rfl, by simp⟩
  | held requester fresh found shared full => exact ⟨_, [], rfl, by simp⟩
  | spent requester fresh found vacant given => exact ⟨_, [], rfl, by simp⟩
  | @failed _ reached _ _ _ _ inner error requester fresh found vacant provider construction =>
    have same : reached.pop.path = before.path := by
      simp [Resolver.pop, construction.path_eq, Resolver.push]
    exact ⟨.entered, inner, by rw [same], by simp⟩
  | @built _ reached _ _ _ _ inner id requester fresh found vacant provider construction =>
    have same : reached.pop.path = before.path := by
      simp [Resolver.pop, construction.path_eq, Resolver.push]
    exact ⟨.entered, inner ++ [.built reached.path key id], by simp [same], by simp⟩

/-- Every resolution ends, in the one way that `resolve` says, whatever constructors do with the
failures of their requests. A request, nested or not, leaves the path as it was. At every moment the
keys under construction are no more than there are bindings, bound, different from each other, and
requested one by the constructor of the other. A request fails by itself as a cycle exactly when its
key is under construction, and then it names all keys under construction and its own; another view of
a type, or another type of the same name, makes no cycle. -/
theorem resolver_path_discipline (catalogue : Catalogue σ υ) (world : World σ υ)
    (key : BindingKey) :
    (∀ result after,
      (∃ incidents, Runs catalogue (.resolve none key) ⟨[], world⟩ incidents result after) ↔
        after.path = [] ∧ resolve catalogue key world = (result, after.world)) ∧
    (∀ requester wanted before incidents answer after,
      Runs catalogue (.resolve requester wanted) before incidents answer after →
        after.path = before.path ∧ ∃ reception between,
          incidents = .requested requester before.path wanted reception :: between ++
              [.answered before.path wanted answer] ∧
            ∀ error, reception = .refused error → between = [] ∧ answer = .error error) ∧
    ∀ incidents result after,
      Runs catalogue (.resolve none key) ⟨[], world⟩ incidents result after →
        (∀ incident ∈ incidents,
          incident.path.length ≤ world.container.size ∧ incident.path.Nodup ∧
          (∀ other ∈ incident.path, world.container.isBound other = true) ∧
          ∀ earlier other later, incident.path = earlier ++ other :: later →
            .requested earlier.getLast? earlier other .entered ∈ incidents) ∧
        ∀ requester path wanted reception,
          .requested requester path wanted reception ∈ incidents →
            requester = path.getLast? ∧
            (∀ names, reception = .refused (.circular names) ↔
              wanted ∈ path ∧ names = (path ++ [wanted]).map (·.name)) ∧
            ((∀ other ∈ path, other.type.id = wanted.type.id → other.view ≠ wanted.view) →
              ∀ names, reception ≠ .refused (.circular names)) := by
  refine ⟨fun result after => runs_iff catalogue (.resolve none key) ⟨[], world⟩ result after,
    fun _ _ _ _ _ _ run => ⟨run.path_eq, run.bracketed⟩, ?_⟩
  intro incidents result after run
  have orderly := run.orderly rfl (Underway.nil _)
  constructor
  · intro incident member
    have here := orderly incident member
    refine ⟨here.underway.length_le, here.underway.distinct, here.underway.bound, ?_⟩
    intro earlier other later same
    have listed : earlier ++ [other] <+: incident.path := ⟨later, by simp [same]⟩
    rcases here.traced earlier other listed with before | since
    · simp at before
    · exact since
  · intro requester path wanted reception member
    obtain ⟨made, circular⟩ := (orderly _ member).fair
    refine ⟨made, circular, ?_⟩
    intro apart names refused
    obtain ⟨onPath, _⟩ := (circular names).mp refused
    exact apart wanted onPath rfl rfl

end EventPipeline
