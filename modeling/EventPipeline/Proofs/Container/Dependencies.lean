import EventPipeline.Container.Resolution
import Mathlib.Logic.Relation

/-! The dependency graph of a binding table.

A bound key needs the keys that the constructor behind it resolves; a given value needs nothing. Laid
out depth first, in the order of declaration, the needs of a key give the requests of its resolution
as they come when nothing has been built before. A request fails by itself when its key is under
construction or is not bound. -/

namespace EventPipeline

/-- The keys that the constructor of each type resolves, in the order in which it does. -/
abbrev Dependencies := TypeToken → List BindingKey

variable (depends : Dependencies) (table : List Binding)

def Provider.needs : Provider → List BindingKey
  | .constructor type _ => depends type
  | .given => []

def needsOf (key : BindingKey) : List BindingKey :=
  match table.find? (·.key = key) with
  | some binding => binding.provider.needs depends
  | none => []

def Needs (key other : BindingKey) : Prop := other ∈ needsOf depends table key

def IsBound (key : BindingKey) : Prop := (table.find? (·.key = key)).isSome = true

/-- One request: the keys under construction, from the root, and the key that is requested. -/
structure Visit where
  path : List BindingKey
  key : BindingKey
deriving DecidableEq

def Visit.fault? (visit : Visit) : Option ResolutionError :=
  if visit.key ∈ visit.path then some (.circular ((visit.path ++ [visit.key]).map (·.name)))
  else if (table.find? (·.key = visit.key)).isSome then none
  else some (.unbound visit.key.name)

/-- All requests that a request leads to, itself included, depth first. -/
def visits (path : List BindingKey) (key : BindingKey) : List Visit :=
  ⟨path, key⟩ ::
    if _onPath : key ∈ path then []
    else
      match _found : table.find? (·.key = key) with
      | none => []
      | some binding => (binding.provider.needs depends).flatMap (visits (path ++ [key]))
termination_by unvisited table path
decreasing_by
  obtain ⟨bound, same⟩ := find?_mem_and_key _found
  subst same
  exact unvisited_push bound _onPath

/-- The failure of the first request that fails by itself. -/
def firstFault (path : List BindingKey) (key : BindingKey) : Option ResolutionError :=
  (visits depends table path key).findSome? (Visit.fault? table)

/-- Everything that a key leads to is bound, and it leads to no cycle. -/
structure Sound (key : BindingKey) : Prop where
  bound : ∀ other, Relation.ReflTransGen (Needs depends table) key other → IsBound table other
  acyclic : ∀ other, Relation.ReflTransGen (Needs depends table) key other →
    ¬ Relation.TransGen (Needs depends table) other other

variable {depends table}

theorem firstFault_of_mem {path : List BindingKey} {key : BindingKey} (onPath : key ∈ path) :
    firstFault depends table path key = some (.circular ((path ++ [key]).map (·.name))) := by
  unfold firstFault
  rw [visits]
  simp [Visit.fault?, onPath]

theorem firstFault_of_unbound {path : List BindingKey} {key : BindingKey} (fresh : key ∉ path)
    (unbound : table.find? (·.key = key) = none) :
    firstFault depends table path key = some (.unbound key.name) := by
  unfold firstFault
  rw [visits]
  simp [Visit.fault?, fresh, unbound]

theorem firstFault_of_bound {path : List BindingKey} {key : BindingKey} {binding : Binding}
    (fresh : key ∉ path) (bound : table.find? (·.key = key) = some binding) :
    firstFault depends table path key =
      (binding.provider.needs depends).findSome? (firstFault depends table (path ++ [key])) := by
  unfold firstFault
  rw [visits, dif_neg fresh]
  split
  · next unbound => simp [unbound] at bound
  · next other found =>
    obtain rfl := Option.some.inj (found.symm.trans bound)
    have fine : Visit.fault? table ⟨path, key⟩ = none := by simp [Visit.fault?, fresh, bound]
    rw [List.findSome?_cons, fine]
    simp only
    induction other.provider.needs depends with
    | nil => rfl
    | cons first rest ih =>
      rw [List.flatMap_cons, List.findSome?_append, List.findSome?_cons, ih]
      cases (visits depends table (path ++ [key]) first).findSome? (Visit.fault? table) <;> rfl

theorem needsOf_of_bound {key : BindingKey} {binding : Binding}
    (bound : table.find? (·.key = key) = some binding) :
    needsOf depends table key = binding.provider.needs depends := by
  unfold needsOf
  rw [bound]

theorem Sound.of_leads {key other : BindingKey} (sound : Sound depends table key)
    (leads : Relation.ReflTransGen (Needs depends table) key other) : Sound depends table other :=
  ⟨fun last reached => sound.bound last (leads.trans reached),
    fun last reached => sound.acyclic last (leads.trans reached)⟩

/-- A request fails by itself nowhere below a sound key, as long as the keys under construction lead
to it: one of them could be requested again only on a cycle. -/
theorem firstFault_of_sound (path : List BindingKey) (key : BindingKey)
    (leads : ∀ earlier ∈ path, Relation.TransGen (Needs depends table) earlier key)
    (sound : Sound depends table key) : firstFault depends table path key = none := by
  induction path, key using visits.induct table with
  | case1 path key ih =>
    -- A key on the path would need itself, and what can be resolved lies on no cycle.
    have fresh : key ∉ path := fun onPath => sound.acyclic key .refl (leads key onPath)
    obtain ⟨binding, found⟩ := Option.isSome_iff_exists.mp (sound.bound key .refl)
    rw [firstFault_of_bound fresh found, List.findSome?_eq_none_iff]
    intro other member
    have needed : Needs depends table key other := by
      unfold Needs
      rw [needsOf_of_bound found]
      exact member
    apply ih fresh binding found other
    · intro earlier listed
      rcases List.mem_append.mp listed with before | here
      · exact (leads earlier before).tail needed
      · rw [List.mem_singleton.mp here]
        exact .single needed
    · exact sound.of_leads (.single needed)

theorem of_firstFault_eq_none {path : List BindingKey} {key : BindingKey}
    (faultless : firstFault depends table path key = none) :
    key ∉ path ∧ IsBound table key ∧ ∀ other, Needs depends table key other →
      firstFault depends table (path ++ [key]) other = none := by
  have fresh : key ∉ path := by
    intro onPath
    simp [firstFault_of_mem onPath] at faultless
  cases found : table.find? (·.key = key) with
  | none => simp [firstFault_of_unbound fresh found] at faultless
  | some binding =>
    rw [firstFault_of_bound fresh found, List.findSome?_eq_none_iff] at faultless
    refine ⟨fresh, by simp [IsBound, found], fun other needed => faultless other ?_⟩
    unfold Needs at needed
    rwa [needsOf_of_bound found] at needed

theorem faultless_along {path : List BindingKey} {key other : BindingKey}
    (faultless : firstFault depends table path key = none)
    (leads : Relation.TransGen (Needs depends table) key other) :
    ∃ longer, (∀ earlier ∈ path ++ [key], earlier ∈ longer) ∧
      firstFault depends table longer other = none := by
  induction leads using Relation.TransGen.head_induction_on generalizing path with
  | single needed =>
    exact ⟨path ++ [_], fun _ listed => listed, (of_firstFault_eq_none faultless).2.2 _ needed⟩
  | head needed _ ih =>
    obtain ⟨longer, kept, fine⟩ := ih ((of_firstFault_eq_none faultless).2.2 _ needed)
    exact ⟨longer, fun earlier listed => kept earlier (List.mem_append_left _ listed), fine⟩

theorem sound_of_firstFault {path : List BindingKey} {key : BindingKey}
    (faultless : firstFault depends table path key = none) : Sound depends table key := by
  have reached : ∀ other, Relation.ReflTransGen (Needs depends table) key other →
      ∃ longer, firstFault depends table longer other = none := by
    intro other leads
    rcases Relation.reflTransGen_iff_eq_or_transGen.mp leads with same | further
    · exact ⟨path, same ▸ faultless⟩
    · obtain ⟨longer, _, fine⟩ := faultless_along faultless further
      exact ⟨longer, fine⟩
  constructor
  · intro other leads
    obtain ⟨longer, fine⟩ := reached other leads
    exact (of_firstFault_eq_none fine).2.1
  · intro other leads cycle
    obtain ⟨longer, fine⟩ := reached other leads
    obtain ⟨longest, kept, again⟩ := faultless_along fine cycle
    exact (of_firstFault_eq_none again).1 (kept other (by simp))

/-- From the root, no request fails exactly when the key is sound. -/
theorem firstFault_eq_none_iff (key : BindingKey) :
    firstFault depends table [] key = none ↔ Sound depends table key :=
  ⟨sound_of_firstFault, firstFault_of_sound [] key (by simp)⟩

/-! ### More bindings -/

theorem find?_append_of_bound {key : BindingKey} (bound : IsBound table key) (more : List Binding) :
    (table ++ more).find? (·.key = key) = table.find? (·.key = key) := by
  obtain ⟨binding, found⟩ := Option.isSome_iff_exists.mp bound
  rw [List.find?_append, found]
  rfl

theorem needs_append_iff {key other : BindingKey} (bound : IsBound table key)
    (more : List Binding) :
    Needs depends (table ++ more) key other ↔ Needs depends table key other := by
  unfold Needs needsOf
  rw [find?_append_of_bound bound]

theorem Sound.leads_append {key other : BindingKey} (sound : Sound depends table key)
    {more : List Binding} (leads : Relation.ReflTransGen (Needs depends (table ++ more)) key other) :
    Relation.ReflTransGen (Needs depends table) key other := by
  induction leads with
  | refl => exact .refl
  | tail _ needed ih =>
    exact ih.tail ((needs_append_iff (sound.bound _ ih) more).mp needed)

theorem Sound.append {key : BindingKey} (sound : Sound depends table key) (more : List Binding) :
    Sound depends (table ++ more) key := by
  constructor
  · intro other leads
    have bound := sound.bound other (sound.leads_append leads)
    unfold IsBound
    rw [find?_append_of_bound bound]
    exact bound
  · intro other leads cycle
    have here := sound.of_leads (sound.leads_append leads)
    obtain ⟨next, needed, back⟩ := Relation.TransGen.head'_iff.mp cycle
    have first := (needs_append_iff (here.bound other .refl) more).mp needed
    have rest := (here.of_leads (.single first)).leads_append back
    exact here.acyclic other .refl (.head' first rest)

end EventPipeline
