import EventPipeline.Proofs.Container.Furnished
import EventPipeline.Proofs.Container.Path

/-! What a resolution does to the cells.

A cell that is empty is filled when the constructor of its key has made an instance, and by nothing
else; while the key is under construction no other request can get there first. So the requests of a
shared key fail, as often as they may, until one construction of it is completed, and from then on
they are answered with its instance. The requests of any other key are answered with instances that
have not been there before, one behind the other. -/

namespace EventPipeline

variable {σ υ : Type}

namespace Incident

def subject? : Incident → Option BindingKey
  | .requested .. => none
  | .built _ key _ => some key
  | .answered _ key _ => some key

/-- The constructor of the key has made an instance. -/
def builds (key : BindingKey) : Incident → Bool
  | .built _ other _ => other = key
  | _ => false

def answer? (key : BindingKey) : Incident → Option InstanceId
  | .answered _ other (.ok id) => if other = key then some id else none
  | _ => none

end Incident

/-- What incidents say of a shared key, between two contents of its cell: requests fail as long as the
cell is empty, an instance gets into it by a construction or from outside, and then it is served. -/
inductive Shares (key : BindingKey) :
    Option InstanceId → List Incident → Option InstanceId → Prop where
  | nil (cell : Option InstanceId) : Shares key cell [] cell
  | aside {cell after : Option InstanceId} {incident : Incident} {incidents : List Incident}
      (elsewhere : incident.subject? ≠ some key) (rest : Shares key cell incidents after) :
      Shares key cell (incident :: incidents) after
  | failed {after : Option InstanceId} {incidents : List Incident} (path : List BindingKey)
      (error : ResolutionError) (rest : Shares key none incidents after) :
      Shares key none (.answered path key (.error error) :: incidents) after
  | built {after : Option InstanceId} {incidents : List Incident} (path : List BindingKey)
      (id : InstanceId) (rest : Shares key (some id) incidents after) :
      Shares key none (.built path key id :: incidents) after
  | valued {after : Option InstanceId} {incidents : List Incident} (id : InstanceId)
      (rest : Shares key (some id) incidents after) : Shares key none incidents after
  | served {after : Option InstanceId} {incidents : List Incident} {id : InstanceId}
      (path : List BindingKey) (rest : Shares key (some id) incidents after) :
      Shares key (some id) (.answered path key (.ok id) :: incidents) after

namespace Shares

variable {key : BindingKey} {cell between after : Option InstanceId}
  {incidents more : List Incident} {id : InstanceId}

theorem append (first : Shares key cell incidents between) (second : Shares key between more after) :
    Shares key cell (incidents ++ more) after := by
  induction first with
  | nil => exact second
  | aside elsewhere _ ih => exact .aside elsewhere (ih second)
  | failed path error _ ih => exact .failed path error (ih second)
  | built path id _ ih => exact .built path id (ih second)
  | valued id _ ih => exact .valued id (ih second)
  | served path _ ih => exact .served path (ih second)

theorem countP_builds_le (shares : Shares key cell incidents after) :
    cell.toList.length + incidents.countP (Incident.builds key) ≤ 1 := by
  induction shares with
  | nil cell => cases cell <;> simp
  | @aside _ _ incident _ elsewhere _ ih =>
    have idle : incident.builds key = false := by
      cases incident with
      | built path other id =>
        refine decide_eq_false ?_
        rintro rfl
        exact elsewhere rfl
      | _ => rfl
    rw [List.countP_cons_of_neg (by simp [idle])]
    exact ih
  | failed path error _ ih => simpa [Incident.builds] using ih
  | built path id _ ih =>
    rw [List.countP_cons_of_pos (by simp [Incident.builds])]
    simpa [Nat.add_comm] using ih
  | valued id _ ih => exact Nat.le_trans (Nat.add_le_add_right (by simp) _) ih
  | served path _ ih => simpa [Incident.builds] using ih

theorem keeps (shares : Shares key cell incidents after) (held : cell = some id) :
    after = some id := by
  induction shares with
  | nil => exact held
  | aside _ _ ih => exact ih held
  | failed => cases held
  | built => cases held
  | valued => cases held
  | served _ _ ih => exact ih held

theorem eq_of_given (shares : Shares key cell incidents after) {path : List BindingKey}
    (given : .built path key id ∈ incidents ∨ .answered path key (.ok id) ∈ incidents) :
    after = some id := by
  induction shares with
  | nil => simp at given
  | aside elsewhere _ ih =>
    refine ih (given.imp ?_ ?_)
    all_goals
      intro member
      rcases List.mem_cons.mp member with rfl | later
      · exact absurd rfl elsewhere
      · exact later
  | failed path error _ ih => exact ih (by simpa using given)
  | built path made rest ih =>
    rcases given with here | answered
    · rcases List.mem_cons.mp here with same | later
      · cases same
        exact rest.keeps rfl
      · exact ih (.inl later)
    · exact ih (.inr (by simpa using answered))
  | valued made _ ih => exact ih given
  | served path rest ih =>
    rcases given with built | here
    · exact ih (.inl (by simpa using built))
    · rcases List.mem_cons.mp here with same | later
      · cases same
        exact rest.keeps rfl
      · exact ih (.inr later)

theorem not_failed (shares : Shares key cell incidents after) (held : cell = some id)
    (path : List BindingKey) (error : ResolutionError) :
    .answered path key (.error error) ∉ incidents := by
  induction shares with
  | nil => simp
  | aside elsewhere _ ih =>
    intro member
    rcases List.mem_cons.mp member with rfl | later
    · exact elsewhere rfl
    · exact ih held later
  | failed => cases held
  | built => cases held
  | valued => cases held
  | served _ _ ih => simpa using ih held

theorem failures_first (shares : Shares key cell incidents after) :
    incidents.Pairwise fun earlier later =>
      (∃ path id, earlier = .built path key id ∨ earlier = .answered path key (.ok id)) →
        ∀ path error, later ≠ .answered path key (.error error) := by
  induction shares with
  | nil => exact .nil
  | aside elsewhere _ ih =>
    refine List.pairwise_cons.mpr ⟨?_, ih⟩
    rintro _ _ ⟨path, id, rfl | rfl⟩
    · exact absurd rfl elsewhere
    · exact absurd rfl elsewhere
  | failed path error _ ih =>
    refine List.pairwise_cons.mpr ⟨?_, ih⟩
    rintro _ _ ⟨path, id, same | same⟩
    · cases same
    · cases same
  | built path id rest ih =>
    refine List.pairwise_cons.mpr ⟨?_, ih⟩
    rintro later member _ path error rfl
    exact rest.not_failed rfl path error member
  | valued id rest ih => exact ih
  | served path rest ih =>
    refine List.pairwise_cons.mpr ⟨?_, ih⟩
    rintro later member _ path error rfl
    exact rest.not_failed rfl path error member

end Shares

/-- Numbers of instances that are made one after another, between two counts of instances. -/
structure Ascends (first : Nat) (ids : List InstanceId) (limit : Nat) : Prop where
  ordered : ids.Pairwise (· < ·)
  within : ∀ id ∈ ids, first ≤ id ∧ id < limit
  le : first ≤ limit

namespace Ascends

variable {first between limit : Nat} {ids more : List InstanceId}

theorem nil (le : first ≤ limit) : Ascends first [] limit := ⟨.nil, by simp, le⟩

theorem append (early : Ascends first ids between) (late : Ascends between more limit) :
    Ascends first (ids ++ more) limit where
  ordered := by
    refine List.pairwise_append.mpr ⟨early.ordered, late.ordered, ?_⟩
    intro id earlier other later
    exact Nat.lt_of_lt_of_le (early.within id earlier).2 (late.within other later).1
  within := by
    intro id member
    rcases List.mem_append.mp member with earlier | later
    · exact ⟨(early.within id earlier).1, Nat.lt_of_lt_of_le (early.within id earlier).2 late.le⟩
    · exact ⟨Nat.le_trans early.le (late.within id later).1, (late.within id later).2⟩
  le := Nat.le_trans early.le late.le

theorem last {id : InstanceId} (ids : Ascends first more id) (inside : id < limit) :
    Ascends first (more ++ [id]) limit := by
  refine ids.append ⟨List.pairwise_singleton _ _, ?_, Nat.le_of_lt inside⟩
  intro other member
  rw [List.mem_singleton.mp member]
  exact ⟨Nat.le_refl _, inside⟩

theorem mono (ids : Ascends first more between) (le : between ≤ limit) :
    Ascends first more limit := by
  rw [← List.append_nil more]
  exact ids.append (.nil le)

end Ascends

variable [Inhabited σ]

theorem readAs_eq_ok {key : BindingKey} {id read : InstanceId} {world : World σ υ}
    (answered : (readAs key id world).1 = .ok read) : read = id := by
  unfold readAs at answered
  split at answered
  · exact (Except.ok.inj answered).symm
  · cases answered

/-- A constructor builds instances of the kind that its key is to have. -/
def Task.Suited : Task σ υ → Prop
  | .resolve _ _ => True
  | .construct key type form _ => type = key.type ∧ form = key.form

def Task.Made (result : Except ResolutionError InstanceId) (after : World σ υ) : Task σ υ → Prop
  | .resolve _ _ => True
  | .construct _ type form _ => ∀ id, result = .ok id →
      after.OfType type id ∧ after.Shows id form

def Task.limit (result : Except ResolutionError InstanceId) (after : World σ υ) : Task σ υ → Nat
  | .resolve _ _ => after.nextId
  | .construct .. =>
      match result with
      | .ok id => id
      | .error _ => after.nextId

namespace Runs

variable {catalogue : Catalogue σ υ} {task : Task σ υ} {before after : Resolver σ υ}
  {incidents : List Incident} {result : Except ResolutionError InstanceId}

theorem grows (run : Runs catalogue task before incidents result after) :
    before.world.Grows after.world := by
  induction run with
  | failed _ _ _ _ _ _ ih => exact ih
  | built _ _ _ _ _ _ ih => exact ih.trans (.keep ..)
  | made => exact .add ..
  | asked _ _ first second => exact first.trans second
  | other plain answered _ ih =>
    exact (World.Grows.ofSteady (steady_of_answered plain answered)).trans ih
  | _ => exact .refl _

theorem spares (run : Runs catalogue task before incidents result after) {key : BindingKey}
    (onPath : key ∈ before.path) :
    after.world.container.cell? key = before.world.container.cell? key := by
  induction run with
  | failed _ _ _ _ _ _ ih => exact ih (List.mem_append_left _ onPath)
  | @built _ _ other _ _ _ _ _ _ fresh _ _ _ _ ih =>
    have apart : key ≠ other := fun same => fresh (same ▸ onPath)
    simp only [Resolver.pop, Resolver.keep, World.cell?_keep, apart, and_false, if_false,
      Option.or_none]
    exact ih (List.mem_append_left _ onPath)
  | asked nested _ first second => exact (second (nested.path_eq ▸ onPath)).trans (first onPath)
  | other plain answered _ ih =>
    have same := (steady_of_answered plain answered).container
    exact (ih onPath).trans (congrArg (·.cell? key) same)
  | _ => rfl

theorem spares_own {resolver : Resolver σ υ} {key : BindingKey}
    (construction : Runs catalogue task (resolver.push key) incidents result after)
    (empty : resolver.world.container.cell? key = none) :
    after.world.container.cell? key = none :=
  (construction.spares (List.mem_append_right _ (List.mem_singleton_self key))).trans empty

theorem made_kind (run : Runs catalogue task before incidents result after) :
    task.Made result after.world := by
  induction run with
  | raised => rintro _ ⟨⟩
  | made key type form blueprint =>
    rintro _ ⟨⟩
    exact ⟨World.ofType_add_nextId .., World.shows_add_nextId ..⟩
  | asked _ _ _ second => exact second
  | other _ _ _ ih => exact ih
  | _ => trivial

/-- What a cell holds was there before, or has been built for its key, which is shared. -/
theorem cell_origin (run : Runs catalogue task before incidents result after) {key : BindingKey}
    {id : InstanceId} (held : after.world.container.cell? key = some id) :
    before.world.container.cell? key = some id ∨
      before.world.container.scopeOf? key = some .shared ∧ ∃ path, .built path key id ∈ incidents := by
  induction run with
  | failed _ _ _ _ _ _ ih =>
    rcases ih held with there | ⟨shared, path, member⟩
    · exact .inl there
    · exact .inr ⟨shared, path, by simp [member]⟩
  | @built resolver reached other binding _ _ _ made _ _ found _ _ _ ih =>
    simp only [Resolver.pop, Resolver.keep, World.cell?_keep, Option.or_eq_some_iff] at held
    rcases held with there | ⟨_, here⟩
    · rcases ih there with before | ⟨shared, path, member⟩
      · exact .inl before
      · exact .inr ⟨shared, path, by simp [member]⟩
    · split at here
      · next same =>
        obtain ⟨shared, rfl⟩ := same
        obtain rfl := Option.some.inj here
        have scope : resolver.world.container.scopeOf? key = some binding.scope :=
          congrArg (Option.map _) found
        exact .inr ⟨scope.trans (congrArg some shared), reached.path, by simp⟩
      · cases here
  | asked nested _ first second =>
    rcases second held with between | ⟨shared, path, member⟩
    · rcases first between with there | ⟨shared, path, member⟩
      · exact .inl there
      · exact .inr ⟨shared, path, List.mem_append_left _ member⟩
    · rw [Container.scopeOf?, Container.binding?, nested.bindings_eq] at shared
      exact .inr ⟨shared, path, List.mem_append_right _ member⟩
  | other plain answered _ ih =>
    have same := (steady_of_answered plain answered).container
    rcases ih held with there | built
    · exact .inl ((congrArg (·.cell? key) same).symm.trans there)
    · exact .inr (same ▸ built)
  | _ => exact .inl held

theorem furnished (run : Runs catalogue task before incidents result after)
    (furnished : before.world.Furnished) (suited : task.Suited) : after.world.Furnished := by
  induction run with
  | failed _ _ found vacant provider _ ih =>
    exact ih furnished (furnished.kind_of_vacant found vacant provider)
  | @built _ _ key binding _ _ _ id _ _ found vacant provider construction ih =>
    obtain ⟨rfl, rfl⟩ := furnished.kind_of_vacant found vacant provider
    have bound : Container.scopeOf? _ key = some binding.scope := congrArg (Option.map _) found
    exact (ih furnished ⟨rfl, rfl⟩).keep (construction.made_kind id rfl)
      (construction.grows.scopeOf?_eq bound)
  | made => exact furnished.add _
  | asked _ _ first second => exact second (first furnished trivial) suited
  | other plain answered _ ih =>
    exact ih (furnished.steady (steady_of_answered plain answered)) suited
  | _ => exact furnished

end Runs

/-- A furnished world in which no key under construction has an instance. -/
structure Resolver.Sound (resolver : Resolver σ υ) : Prop where
  furnished : resolver.world.Furnished
  empty : ∀ key ∈ resolver.path, resolver.world.container.cell? key = none

namespace Resolver.Sound

variable {resolver : Resolver σ υ} {world : World σ υ}

omit [Inhabited σ] in
theorem outside (furnished : world.Furnished) : (⟨[], world⟩ : Resolver σ υ).Sound :=
  ⟨furnished, by simp⟩

omit [Inhabited σ] in
theorem push (sound : resolver.Sound) {key : BindingKey} {binding : Binding}
    (found : resolver.world.container.binding? key = some binding)
    (vacant : binding.scope = .shared → resolver.world.container.cell? key = none) :
    (resolver.push key).Sound where
  furnished := sound.furnished
  empty := by
    intro other onPath
    rcases List.mem_append.mp onPath with before | here
    · exact sound.empty other before
    · obtain rfl := List.mem_singleton.mp here
      exact sound.furnished.vacant found vacant

omit [Inhabited σ] in
theorem steady (sound : resolver.Sound) (same : resolver.world.Steady world) :
    ({ resolver with world } : Resolver σ υ).Sound where
  furnished := sound.furnished.steady same
  empty := by
    rw [same.container]
    exact sound.empty

end Resolver.Sound

namespace Runs

variable {catalogue : Catalogue σ υ} {task : Task σ υ} {before after : Resolver σ υ}
  {incidents : List Incident} {result : Except ResolutionError InstanceId}

theorem leaves_sound (run : Runs catalogue task before incidents result after)
    (sound : before.Sound) (suited : task.Suited) : after.Sound where
  furnished := run.furnished sound.furnished suited
  empty := by
    intro key onPath
    rw [run.path_eq] at onPath
    exact (run.spares onPath).trans (sound.empty key onPath)

theorem shares (run : Runs catalogue task before incidents result after) (sound : before.Sound)
    (suited : task.Suited) {key : BindingKey}
    (shared : before.world.container.scopeOf? key ≠ some .transient) :
    Shares key (before.world.container.cell? key) incidents (after.world.container.cell? key) := by
  have answered : ∀ {cell : Option InstanceId} {path : List BindingKey} {other : BindingKey}
      {error : ResolutionError}, (other = key → cell = none) →
      Shares key cell [.answered path other (.error error)] cell := by
    intro cell path other error empty
    by_cases own : other = key
    · rw [empty own, own]
      exact .failed _ _ (.nil _)
    · exact .aside (by simpa [Incident.subject?] using own) (.nil _)
  induction run with
  | circular requester onPath =>
    refine .aside (by simp [Incident.subject?]) (answered ?_)
    rintro rfl
    exact sound.empty _ onPath
  | unbound requester fresh missing =>
    refine .aside (by simp [Incident.subject?]) (answered ?_)
    rintro rfl
    exact sound.furnished.cell_of_unbound missing
  | @held resolver other binding id requester fresh found _ full =>
    refine .aside (by simp [Incident.subject?]) ?_
    rw [(sound.furnished.cells other id full).1.readAs]
    by_cases own : other = key
    · subst own
      rw [full]
      exact .served _ (.nil _)
    · exact .aside (by simpa [Incident.subject?] using own) (.nil _)
  | spent requester fresh found vacant _ =>
    refine .aside (by simp [Incident.subject?]) (answered ?_)
    rintro rfl
    exact sound.furnished.vacant found vacant
  | failed requester fresh found vacant provider construction ih =>
    have inside := ih (sound.push found vacant)
      (sound.furnished.kind_of_vacant found vacant provider) shared
    -- The key was on the path while its constructor ran, so nothing has filled its cell.
    refine .aside (by simp [Incident.subject?]) (inside.append (answered ?_))
    rintro rfl
    exact construction.spares_own (sound.furnished.vacant found vacant)
  | @built resolver reached other binding _ _ _ id requester fresh found vacant provider construction
      ih =>
    obtain ⟨rfl, rfl⟩ := sound.furnished.kind_of_vacant found vacant provider
    have inside := ih (sound.push found vacant) ⟨rfl, rfl⟩ shared
    have made : reached.world.MadeFor other id := construction.made_kind id rfl
    refine .aside (by simp [Incident.subject?]) (inside.append ?_)
    rw [made.readAs]
    simp only [Resolver.pop, Resolver.keep, World.cell?_keep]
    by_cases own : other = key
    · -- The key was on the path all the time, so its cell is still empty and is filled here.
      subst own
      have scope : binding.scope = .shared := by
        rw [Container.scopeOf?, found] at shared
        cases same : binding.scope with
        | transient => exact absurd (congrArg some same) shared
        | shared => rfl
      have still : reached.world.container.cell? other = none :=
        construction.spares_own (sound.furnished.vacant found vacant)
      simp only [still, scope, true_and, if_true, Option.none_or]
      exact .built _ _ (.served _ (.nil _))
    · have apart : key ≠ other := fun same => own same.symm
      simp only [apart, and_false, if_false, Option.or_none]
      exact .aside (by simpa [Incident.subject?] using own)
        (.aside (by simpa [Incident.subject?] using own) (.nil _))
  | raised => exact .nil _
  | made => exact .nil _
  | asked nested _ first second =>
    refine (first sound trivial shared).append
      (second (nested.leaves_sound sound trivial) suited ?_)
    simpa only [Container.scopeOf?, Container.binding?, nested.bindings_eq] using shared
  | other plain reply _ ih =>
    have steady := steady_of_answered plain reply
    have cells := ih (sound.steady steady) suited (by rwa [steady.container])
    rwa [steady.container] at cells

theorem ascends (run : Runs catalogue task before incidents result after) {key : BindingKey}
    (unshared : before.world.container.scopeOf? key ≠ some .shared) :
    Ascends before.world.nextId (incidents.filterMap (Incident.answer? key))
      (task.limit result after.world) := by
  induction run with
  | @held resolver other binding id requester fresh found shared full =>
    have apart : other ≠ key := by
      rintro rfl
      rw [Container.scopeOf?, found] at unshared
      exact unshared (congrArg some shared)
    have silent : List.filterMap (Incident.answer? key)
        [.requested requester resolver.path other (.held id),
          .answered resolver.path other (readAs other id resolver.world).1] = [] := by
      cases (readAs other id resolver.world).1 <;>
        simp [Incident.answer?, List.filterMap_cons, apart]
    rw [silent]
    exact .nil (Nat.le_refl _)
  | @failed resolver reached other _ _ _ inner error requester fresh found vacant provider
      construction ih =>
    have early : Ascends resolver.world.nextId _ reached.world.nextId := ih unshared
    simpa [Incident.answer?, List.filterMap_cons, Task.limit, Resolver.pop] using early
  | @built resolver reached other binding _ _ inner id requester fresh found vacant provider
      construction ih =>
    -- What the constructor has been given while it ran is older than what it makes at its end.
    have early : Ascends resolver.world.nextId _ id := ih unshared
    obtain ⟨⟨held, there, _⟩, _⟩ := construction.made_kind id rfl
    have inside : id < (reached.keep binding.scope other id).pop.world.nextId := by
      simpa [Resolver.pop, Resolver.keep, World.nextId] using (List.getElem?_eq_some_iff.mp there).1
    show Ascends _ _ (reached.keep binding.scope other id).pop.world.nextId
    simp only [List.cons_append, List.filterMap_cons, List.filterMap_append, List.filterMap_nil]
    cases read : (readAs other id reached.world).1 with
    | error error => simpa [Incident.answer?] using early.mono (Nat.le_of_lt inside)
    | ok got =>
      obtain rfl := readAs_eq_ok read
      by_cases own : other = key
      · simpa [Incident.answer?, own] using early.last inside
      · simpa [Incident.answer?, own] using early.mono (Nat.le_of_lt inside)
  | asked nested _ first second =>
    rw [List.filterMap_append]
    refine (first unshared).append (second ?_)
    simpa only [Container.scopeOf?, Container.binding?, nested.bindings_eq] using unshared
  | other plain reply _ ih =>
    have steady := steady_of_answered plain reply
    have later := ih (by rwa [steady.container])
    rwa [steady.nextId_eq] at later
  | _ => exact .nil (Nat.le_refl _)

end Runs

theorem resolve_grows (catalogue : Catalogue σ υ) (key : BindingKey) (world : World σ υ) :
    world.Grows (resolve catalogue key world).2 := by
  obtain ⟨_, run⟩ := runs_of_resolve catalogue key world
  exact run.grows

theorem World.Furnished.resolve {world : World σ υ} (furnished : world.Furnished)
    (catalogue : Catalogue σ υ) (key : BindingKey) :
    (EventPipeline.resolve catalogue key world).2.Furnished := by
  obtain ⟨_, run⟩ := runs_of_resolve catalogue key world
  exact run.furnished furnished trivial

end EventPipeline
