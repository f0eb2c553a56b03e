import EventPipeline.Proofs.Activation.Obtaining
import EventPipeline.Proofs.Container.Chronicle

/-! Units over one container, used in any order.

Which instance an activation runs on is settled in two places. The container settles it for a type
that is bound as shared; a shared unit settles it for itself with its first success. So a shared unit
stays with its instance under every binding, and only units of a type that is bound as shared meet
in one. -/

namespace EventPipeline

open Json

variable {σ υ ε : Type}

/-- Units, the world they are used in, and what their activations have come by so far, each with the
number of its unit. -/
structure Roster (σ υ : Type) where
  units : List ActivationUnit
  world : World σ υ
  obtained : List (Nat × Except FactoryError InstanceId)

inductive UnitCall (σ ε : Type) where
  | activate (index : Nat) (slots : Slots) (context : RunContext) (cutoff : Option (Cutoff ε))
  | create (type : Option TypeToken) (view : View) (configuration : Configuration) (shared : Bool)
  | container (call : ContainerCall σ)

/-- What the activations of one unit have come by. -/
def Roster.results (roster : Roster σ υ) (index : Nat) : List (Except FactoryError InstanceId) :=
  roster.obtained.filterMap fun (used, result) => if used = index then some result else none

variable [Inhabited σ]

def UnitCall.run (catalogue : Catalogue σ υ) (roster : Roster σ υ) :
    UnitCall σ ε → Roster σ υ
  | .activate index slots context cutoff =>
      match roster.units[index]? with
      | none => roster
      | some unit =>
          let (used, after) := (ActivationUnit.activateWithin catalogue cutoff slots
            (unit, ⟨roster.world, context⟩)).2
          { units := roster.units.set index used
            world := after.world
            obtained := roster.obtained ++
              [(index, (ActivationUnit.obtain catalogue (unit, roster.world)).1)] }
  | .create type view configuration shared =>
      { roster with
        world := (Factory.createInstance catalogue type view configuration shared roster.world).2 }
  | .container call => { roster with world := call.run catalogue roster.world }

def Roster.after (catalogue : Catalogue σ υ) (start : World σ υ) (units : List ActivationUnit)
    (calls : List (UnitCall σ ε)) : Roster σ υ :=
  calls.foldl (UnitCall.run catalogue) ⟨units.map ActivationUnit.fresh, start.unbound, []⟩

/-! ### One unit -/

/-- What a shared unit keeps agrees with what its activations have come by. -/
def Tallies (cached : Option InstanceId) (results : List (Except FactoryError InstanceId)) : Prop :=
  match cached with
  | none => ∃ failures : List FactoryError, results = failures.map .error
  | some id => ∃ (failures : List FactoryError) (count : Nat),
      results = failures.map .error ++ List.replicate (count + 1) (.ok id)

namespace ActivationUnit

structure Served (unit : ActivationUnit) (world : World σ υ)
    (results : List (Except FactoryError InstanceId)) : Prop where
  made : ∀ id, .ok id ∈ results → ∃ type, unit.target = some type ∧
    world.container.isBound ⟨type, .component⟩ = true ∧ world.MadeFor ⟨type, .component⟩ id ∧
    (world.container.scopeOf? ⟨type, .component⟩ = some .shared →
      world.container.cell? ⟨type, .component⟩ = some id)
  kept : unit.shared = true → Tallies unit.cached results
  unkept : unit.shared = false → unit.cached = none
  ascends : unit.shared = false → ∀ type, unit.target = some type →
    world.container.scopeOf? ⟨type, .component⟩ ≠ some .shared →
      Ascends 0 (results.filterMap Except.toOption) world.nextId

namespace Served

variable {catalogue : Catalogue σ υ} {unit used : ActivationUnit} {world after reached : World σ υ}
  {results : List (Except FactoryError InstanceId)} {result : Except FactoryError InstanceId}
  {id : InstanceId}

omit [Inhabited σ] in
theorem fresh (unit : ActivationUnit) (world : World σ υ) : unit.fresh.Served world [] where
  made _ member := by cases member
  kept _ := ⟨[], rfl⟩
  unkept _ := rfl
  ascends _ _ _ _ := .nil (Nat.zero_le _)

omit [Inhabited σ] in
theorem mem_of_cached (served : unit.Served world results) (held : unit.cached = some id) :
    .ok id ∈ results := by
  cases shared : unit.shared with
  | false => simp [served.unkept shared] at held
  | true =>
    have kept := served.kept shared
    rw [held] at kept
    obtain ⟨failures, count, rfl⟩ := kept
    exact List.mem_append_right _ (List.mem_replicate.mpr ⟨Nat.succ_ne_zero _, rfl⟩)

omit [Inhabited σ] in
theorem onward (served : unit.Served world results) (grows : world.Grows after) :
    unit.Served after results where
  made := by
    intro id member
    obtain ⟨type, target, bound, made, cell⟩ := served.made id member
    refine ⟨type, target, grows.isBound bound, grows.kinds _ _ made, ?_⟩
    intro shared
    exact grows.cells _ _ (cell (grows.scopeOf?_of_bound bound shared))
  kept := served.kept
  unkept := served.unkept
  ascends := by
    intro unshared type target apart
    exact (served.ascends unshared type target (mt grows.scopeOf?_eq apart)).mono grows.count

theorem obtain (served : unit.Served world results) (furnished : world.Furnished)
    (ran : ActivationUnit.obtain catalogue (unit, world) = (result, used, reached)) :
    used.Served reached (results ++ [result]) := by
  have grows : world.Grows reached := by
    have grows := obtain_grows catalogue unit world
    rwa [ran] at grows
  have later := served.onward grows
  -- Obtaining fails, finds what the unit keeps, or creates; only a creation can change what is kept.
  cases obtaining furnished ran with
  | @failed error _ unheld =>
    refine ⟨?_, ?_, later.unkept, ?_⟩
    · intro id member
      exact later.made id (by simpa using member)
    · intro shared
      have kept := later.kept shared
      rw [unheld shared] at kept ⊢
      obtain ⟨failures, rfl⟩ := kept
      exact ⟨failures ++ [error], by simp⟩
    · intro unshared type target apart
      simpa [Except.toOption, List.filterMap_cons] using later.ascends unshared type target apart
  | @kept id shared held =>
    refine ⟨?_, ?_, later.unkept, ?_⟩
    · intro other member
      rcases List.mem_append.mp member with before | here
      · exact later.made other before
      · obtain rfl : other = id := by simpa using here
        exact later.made other (later.mem_of_cached held)
    · intro _
      have kept := later.kept shared
      rw [held] at kept ⊢
      obtain ⟨failures, count, rfl⟩ := kept
      exact ⟨failures, count + 1, by simp [List.replicate_succ']⟩
    · intro unshared
      simp [shared] at unshared
  | @created type id between unheld target delivery =>
    have bound := furnished.ensureBound ⟨type, .component⟩ (.ofShared unit.shared)
    have same := configure_steady id unit.configuration between
    have made := (delivery.madeFor bound).steady same
    refine ⟨?_, ?_, ?_, ?_⟩
    · intro other member
      rcases List.mem_append.mp member with before | here
      · simpa using later.made other before
      · obtain rfl : other = id := by simpa using here
        refine ⟨type, by simpa using target, same.container ▸ delivery.isBound, made, ?_⟩
        rw [same.container, delivery.scopeOf?_eq]
        exact delivery.cell
    · intro shared
      rw [shared_keep] at shared
      have kept := later.kept shared
      rw [unheld shared] at kept
      obtain ⟨failures, rfl⟩ := kept
      rw [keep, if_pos shared]
      exact ⟨failures, 0, rfl⟩
    · intro unshared
      rw [shared_keep] at unshared
      rw [keep, if_neg (by simp [unshared])]
      exact served.unkept unshared
    · -- All that was obtained before is older than the constructor's run.
      intro unshared known named apart
      rw [shared_keep] at unshared
      rw [target_keep] at named
      obtain rfl := Option.some.inj (target.symm.trans named)
      have early := served.ascends unshared type target (mt grows.scopeOf?_eq apart)
      rw [same.container, delivery.scopeOf?_eq] at apart
      have new := (delivery.new apart).1
      rw [Factory.nextId_ensureBound] at new
      rw [List.filterMap_append]
      exact (early.mono new).last made.lt_nextId

end Served

end ActivationUnit

/-! ### All units -/

namespace Roster

/-- What holds after every history. -/
structure Sound (roster : Roster σ υ) : Prop where
  furnished : roster.world.Furnished
  served : ∀ (index : Nat) (unit : ActivationUnit), roster.units[index]? = some unit →
    unit.Served roster.world (roster.results index)
  apart : ∀ (first second : Nat) (unit other : ActivationUnit) (id : InstanceId) (type : TypeToken),
    first ≠ second → roster.units[first]? = some unit → roster.units[second]? = some other →
    unit.target = some type → other.target = some type →
    unit.cached = some id → other.cached = some id →
      roster.world.container.scopeOf? ⟨type, .component⟩ = some .shared

namespace Sound

variable {catalogue : Catalogue σ υ} {roster : Roster σ υ} {index : Nat}
  {unit used : ActivationUnit} {result : Except FactoryError InstanceId} {reached after : World σ υ}

omit [Inhabited σ] in
theorem onward (sound : roster.Sound) (furnished : after.Furnished)
    (grows : roster.world.Grows after) : { roster with world := after }.Sound where
  furnished := furnished
  served index unit found := (sound.served index unit found).onward grows
  apart first second unit other id type differ here there target named kept also :=
    grows.scopeOf?_eq
      (sound.apart first second unit other id type differ here there target named kept also)

theorem meets (sound : roster.Sound) (found : roster.units[index]? = some unit)
    (ran : ActivationUnit.obtain catalogue (unit, roster.world) = (result, used, reached))
    {second : Nat} {other : ActivationUnit} {id : InstanceId} {type : TypeToken}
    (differ : index ≠ second) (there : roster.units[second]? = some other)
    (target : used.target = some type) (named : other.target = some type)
    (kept : used.cached = some id) (also : other.cached = some id) :
    reached.container.scopeOf? ⟨type, .component⟩ = some .shared := by
  have grows := ActivationUnit.obtain_grows catalogue unit roster.world
  rw [ran] at grows
  have known := sound.served second other there
  have own := sound.served index unit found
  cases ActivationUnit.obtaining sound.furnished ran with
  | failed _ =>
    exact grows.scopeOf?_eq
      (sound.apart index second unit other id type differ found there target named kept also)
  | kept _ _ =>
    exact grows.scopeOf?_eq
      (sound.apart index second unit other id type differ found there target named kept also)
  | @created created new between _ goal delivery =>
    rw [ActivationUnit.target_keep] at target
    obtain rfl := Option.some.inj (goal.symm.trans target)
    obtain ⟨_, _, _, made, _⟩ := known.made id (known.mem_of_cached also)
    rw [(configure_steady new unit.configuration between).container, delivery.scopeOf?_eq]
    -- A new instance would be younger than the one that the other unit keeps.
    by_contra apart
    have late := (delivery.new apart).1
    rw [Factory.nextId_ensureBound] at late
    cases shared : unit.shared with
    | false =>
      rw [ActivationUnit.keep, if_neg (by simp [shared]), own.unkept shared] at kept
      cases kept
    | true =>
      rw [ActivationUnit.keep, if_pos shared] at kept
      obtain rfl : new = id := Option.some.inj kept
      exact absurd made.lt_nextId (Nat.not_lt.mpr late)

omit [Inhabited σ] in
theorem results_concat (roster : Roster σ υ) (units : List ActivationUnit) (world : World σ υ)
    (index other : Nat) (result : Except FactoryError InstanceId) :
    (⟨units, world, roster.obtained ++ [(index, result)]⟩ : Roster σ υ).results other =
      roster.results other ++ if index = other then [result] else [] := by
  by_cases same : index = other <;> simp [results, List.filterMap_append, same]

theorem activate (sound : roster.Sound) (found : roster.units[index]? = some unit)
    (ran : ActivationUnit.obtain catalogue (unit, roster.world) = (result, used, reached))
    (steady : reached.Steady after) :
    (⟨roster.units.set index used, after, roster.obtained ++ [(index, result)]⟩ :
      Roster σ υ).Sound := by
  have furnished := ActivationUnit.furnished_obtain sound.furnished catalogue unit
  have grows := ActivationUnit.obtain_grows catalogue unit roster.world
  rw [ran] at furnished grows
  have onward : roster.world.Grows after := grows.trans (.ofSteady steady)
  obtain ⟨inside, _⟩ := List.getElem?_eq_some_iff.mp found
  have own : ∀ {other : ActivationUnit}, (roster.units.set index used)[index]? = some other →
      used = other := by
    intro other there
    rw [List.getElem?_set_self inside] at there
    exact Option.some.inj there
  have rest : ∀ {second : Nat} {other : ActivationUnit}, index ≠ second →
      (roster.units.set index used)[second]? = some other → roster.units[second]? = some other := by
    intro second other differ there
    rwa [List.getElem?_set_ne differ] at there
  have meeting := @meets σ υ _ catalogue roster index unit used result reached sound found ran
  refine ⟨furnished.steady steady, ?_, ?_⟩
  · intro second other there
    rw [results_concat]
    by_cases same : index = second
    · subst same
      obtain rfl := own there
      rw [if_pos rfl]
      exact ((sound.served index unit found).obtain sound.furnished ran).onward (.ofSteady steady)
    · rw [if_neg same, List.append_nil]
      exact (sound.served second other (rest same there)).onward onward
  · intro first second one other id type differ here there target named kept also
    rw [steady.container]
    by_cases left : index = first
    · subst left
      obtain rfl := own here
      exact meeting differ (rest differ there) target named kept also
    · by_cases right : index = second
      · subst right
        obtain rfl := own there
        exact meeting left (rest left here) named target also kept
      · exact grows.scopeOf?_eq (sound.apart first second one other id type differ (rest left here)
          (rest right there) target named kept also)

theorem run (sound : roster.Sound) (catalogue : Catalogue σ υ) (call : UnitCall σ ε) :
    (call.run catalogue roster).Sound := by
  cases call with
  | activate index slots context cutoff =>
    cases found : roster.units[index]? with
    | none =>
      simp only [UnitCall.run, found]
      exact sound
    | some unit =>
      rcases ran : ActivationUnit.obtain catalogue (unit, roster.world) with ⟨result, used, reached⟩
      obtain ⟨after, same, steady⟩ := @ActivationUnit.activateWithin_steady σ υ ε _ catalogue unit
        used reached result ⟨roster.world, context⟩ ran cutoff slots
      simp only [UnitCall.run, found, same, ran]
      exact sound.activate found ran steady
  | create type view configuration shared =>
    exact sound.onward (sound.furnished.createInstance ..) (createInstance_grows ..)
  | container call =>
    exact sound.onward (ContainerCall.run_furnished catalogue call sound.furnished)
      (ContainerCall.run_grows catalogue call _)

theorem runAll (sound : roster.Sound) (catalogue : Catalogue σ υ) (calls : List (UnitCall σ ε)) :
    (calls.foldl (UnitCall.run catalogue) roster).Sound := by
  induction calls generalizing roster with
  | nil => exact sound
  | cons call rest ih => exact ih (sound.run catalogue call)

omit [Inhabited σ] in
theorem start (world : World σ υ) (units : List ActivationUnit) :
    (⟨units.map ActivationUnit.fresh, world.unbound, []⟩ : Roster σ υ).Sound := by
  have fresh : ∀ {index : Nat} {unit : ActivationUnit},
      (units.map ActivationUnit.fresh)[index]? = some unit →
        ∃ built : ActivationUnit, unit = built.fresh := by
    intro index unit found
    rw [List.getElem?_map, Option.map_eq_some_iff] at found
    obtain ⟨built, _, rfl⟩ := found
    exact ⟨built, rfl⟩
  refine ⟨World.furnished_unbound world, ?_, ?_⟩
  · intro index unit found
    obtain ⟨built, rfl⟩ := fresh found
    exact .fresh built _
  · intro first second unit other id type _ here _ _ _ kept
    obtain ⟨built, rfl⟩ := fresh here
    cases kept

end Sound

theorem after_sound (catalogue : Catalogue σ υ) (start : World σ υ) (units : List ActivationUnit)
    (calls : List (UnitCall σ ε)) : (Roster.after catalogue start units calls).Sound :=
  (Sound.start start units).runAll catalogue calls

end Roster

/-- After any history: a shared unit keeps nothing as long as its activations have come by nothing, and
from the first instance on all of them run on that one, configured again and without a resolution. A
unit that is not shared keeps nothing; under a transient binding each of its activations runs on an
instance that the constructor has just made, and under a shared binding on the one that the container
holds. Two shared units of a type that both keep an instance keep the same one exactly when the type
is bound as shared. -/
theorem instance_identity (catalogue : Catalogue σ υ) (start : World σ υ)
    (units : List ActivationUnit) (calls : List (UnitCall σ ε)) :
    let roster := Roster.after catalogue start units calls
    (∀ index unit, roster.units[index]? = some unit → unit.shared = true →
      (unit.cached = none →
        ∃ failures : List FactoryError, roster.results index = failures.map .error) ∧
      ∀ id, unit.cached = some id →
        (∃ (failures : List FactoryError) (count : Nat),
          roster.results index = failures.map .error ++ List.replicate (count + 1) (.ok id)) ∧
        ∀ (cutoff : Option (Cutoff ε)) slots context,
          ActivationUnit.activateWithin catalogue cutoff slots (unit, ⟨roster.world, context⟩) =
            ActivationUnit.runOn catalogue cutoff slots id
              (unit, ⟨Factory.configure id unit.configuration roster.world, context⟩)) ∧
    (∀ index unit, roster.units[index]? = some unit → unit.shared = false →
      unit.cached = none ∧
      ∀ type, unit.target = some type →
        (roster.world.container.scopeOf? ⟨type, .component⟩ = some .transient →
          ((roster.results index).filterMap Except.toOption).Pairwise (· < ·)) ∧
        (roster.world.container.scopeOf? ⟨type, .component⟩ = some .shared →
          ∀ id, .ok id ∈ roster.results index →
            roster.world.container.cell? ⟨type, .component⟩ = some id) ∧
        ∀ id used reached,
          ActivationUnit.obtain catalogue (unit, roster.world) = (.ok id, used, reached) →
            (∀ (cutoff : Option (Cutoff ε)) slots context,
              ActivationUnit.activateWithin catalogue cutoff slots
                  (unit, ⟨roster.world, context⟩) =
                ActivationUnit.runOn catalogue cutoff slots id (unit, ⟨reached, context⟩)) ∧
            (reached.container.scopeOf? ⟨type, .component⟩ = some .transient →
              roster.world.instance? id = none ∧
              ∃ blueprint between,
                constructing catalogue ⟨type, .component⟩
                    (Factory.ensureBound ⟨type, .component⟩ .transient roster.world) =
                  (.ok (.ok blueprint), between) ∧
                id = between.nextId) ∧
            (reached.container.scopeOf? ⟨type, .component⟩ = some .shared →
              reached.container.cell? ⟨type, .component⟩ = some id)) ∧
    ∀ (first second : Nat) one other type id also, first ≠ second →
      roster.units[first]? = some one → roster.units[second]? = some other →
      one.shared = true → other.shared = true →
      one.target = some type → other.target = some type →
      one.cached = some id → other.cached = some also →
        (id = also ↔ roster.world.container.scopeOf? ⟨type, .component⟩ = some .shared) := by
  intro roster
  have sound : roster.Sound := Roster.after_sound catalogue start units calls
  refine ⟨?_, ?_, ?_⟩
  · intro index unit found shared
    have kept := (sound.served index unit found).kept shared
    constructor
    · intro none
      rwa [none] at kept
    · intro id held
      rw [held] at kept
      refine ⟨kept, ?_⟩
      intro cutoff slots context
      apply ActivationUnit.activateWithin_of_obtained
      simp only [ActivationUnit.obtain, shared, held, if_true]
  · intro index unit found unshared
    have served := sound.served index unit found
    refine ⟨served.unkept unshared, ?_⟩
    intro type target
    refine ⟨?_, ?_, ?_⟩
    · intro transient
      exact (served.ascends unshared type target (by simp [transient])).ordered
    · intro shared id member
      obtain ⟨known, named, _, _, cell⟩ := served.made id member
      obtain rfl := Option.some.inj (target.symm.trans named)
      exact cell shared
    · intro id used reached ran
      cases ActivationUnit.obtaining sound.furnished ran with
      | kept shared _ => simp [unshared] at shared
      | @created known _ between _ named delivery =>
        obtain rfl := Option.some.inj (target.symm.trans named)
        have same := configure_steady id unit.configuration between
        rw [ActivationUnit.keep, if_neg (by simp [unshared])] at ran
        refine ⟨fun cutoff slots _ => ActivationUnit.activateWithin_of_obtained ran cutoff slots, ?_⟩
        rw [same.container, delivery.scopeOf?_eq]
        refine ⟨?_, delivery.cell⟩
        intro transient
        obtain ⟨new, made⟩ := delivery.new (by rw [transient]; decide)
        rw [unshared] at made
        rw [Factory.nextId_ensureBound] at new
        exact ⟨List.getElem?_eq_none new, made⟩
  · intro first second one other type id also differ here there oneShared otherShared target named
      kept held
    constructor
    · rintro rfl
      exact sound.apart first second one other id type differ here there target named kept held
    · intro shared
      have left := sound.served first one here
      have right := sound.served second other there
      obtain ⟨_, known, _, _, cell⟩ := left.made id (left.mem_of_cached kept)
      obtain ⟨_, learnt, _, _, same⟩ := right.made also (right.mem_of_cached held)
      obtain rfl := Option.some.inj (target.symm.trans known)
      obtain rfl := Option.some.inj (named.symm.trans learnt)
      exact Option.some.inj ((cell shared).symm.trans (same shared))

end EventPipeline
