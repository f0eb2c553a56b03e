import EventPipeline.Proofs.Container.Creation
import EventPipeline.Proofs.Routing.Verdicts

/-! What filters answer in the course of a dispatch, and what units obtain.

The filters of a dispatcher that was built over an empty container have instances of their own. A
passive one is configured once, when it is built, and stays as it is from then on. So it answers every
question in the course of a dispatch as its recipe says. Units that are used for the first time create
instances of their types, which keep these types to the end. -/

namespace EventPipeline

open Json

variable {σ υ : Type} [Inhabited σ]

/-! ### From recipes to instances -/

/-- The instance of a passive type that is constructed without dependencies is as its recipe says. -/
def Serves (catalogue : Catalogue σ υ) (world : World σ υ) (recipe : Recipe) (id : InstanceId) :
    Prop :=
  ∃ type, recipe.type = some type ∧
    ∀ blueprint, (catalogue type).construct = .done (.ok blueprint) → (catalogue type).Passive →
      world.Has id
        ⟨type, .filter, blueprint.properties.map (·.merge recipe.configuration), blueprint.state⟩

theorem build_serves {catalogue : Catalogue σ υ} {documents : List PipelineDocument}
    {dispatcher : Dispatcher} {world after : World σ υ} (unshared : world.container.Unshared)
    (ran : Dispatcher.build catalogue documents world = (.ok dispatcher, after)) :
    List.Forall₂ (Pipeline.Built (Serves catalogue after)) documents dispatcher.pipelines := by
  have kept : ∀ recipe view, Action.Keeps (fun world : World σ υ => world.container.Unshared)
      (Factory.create catalogue recipe view false) :=
    fun recipe view => createInstance_keeps_unshared recipe.type view recipe.configuration
  refine Dispatcher.build_built (R := Serves catalogue) kept ?_ ?_ unshared ?_ ran
  · intro recipe world made after unshared ran
    unfold Factory.create at ran
    cases named : recipe.type with
    | none =>
      rw [named] at ran
      cases ran
    | some type =>
      rw [named] at ran
      exact ⟨type, named, fun blueprint plain _ => create_plain plain unshared ran⟩
  · intro recipe view other id world ⟨unshared, type, named, served⟩
    refine ⟨kept recipe view world unshared, type, named, ?_⟩
    intro blueprint plain passive
    exact (createInstance_lasts passive recipe.type view recipe.configuration world
      ⟨unshared, served blueprint plain passive⟩).2
  · intro world entry other id served
    exact served

/-! ### Along a trace -/

/-- The deed does not take up an instance that a unit has obtained earlier. -/
def Deed.Unused : Deed → Prop
  | .obtained unit _ _ => unit.cached = none
  | _ => True

theorem Dispatcher.Course.unused {catalogue : Catalogue σ υ} {event : Event}
    {dispatcher used : Dispatcher} {world : World σ υ} {trace : List Deed}
    {offers : Except DispatchError (List (Option DispatchOutcome))} {final : RunState σ υ}
    (course : dispatcher.Course catalogue event world trace offers used final)
    {R : Recipe → InstanceId → Prop} {documents : List PipelineDocument}
    (built : List.Forall₂ (Pipeline.Built R) documents dispatcher.pipelines)
    (untouched : ∀ document ∈ documents, ∀ entry ∈ document.middleware,
      entry.activation.cached = none) :
    ∀ deed ∈ trace, deed.Unused := by
  apply course.order.every (P := Deed.Unused)
  intro pipeline among deeds result used course
  obtain ⟨document, declared, made⟩ := exists_of_paired built among
  apply course.every (P := Deed.Unused)
  · exact fun _ _ _ _ _ => trivial
  · exact trivial
  · exact fun _ => trivial
  · intro step member deeds result used course
    obtain ⟨entry, stacked, stepped⟩ := exists_of_paired made.steps member
    have fresh : step.document.activation.cached = none := by
      rw [stepped.document]
      exact untouched document declared entry stacked
    exact course.every (P := Deed.Unused) (fun _ _ _ => trivial) (fun _ => trivial)
      (fun _ _ => fresh) (fun _ _ _ _ => trivial) fun _ => trivial

section Frames

variable {catalogue : Catalogue σ υ} {event : Event}

theorem ActivationUnit.obtain_unused {unit : ActivationUnit} (unused : unit.cached = none)
    (world : World σ υ) :
    ((ActivationUnit.obtain catalogue (unit, world)).1,
        (ActivationUnit.obtain catalogue (unit, world)).2.2) =
      Factory.createInstance catalogue unit.target .component unit.configuration unit.shared
        world := by
  simp only [ActivationUnit.obtain, unused]
  rcases Factory.createInstance catalogue unit.target .component unit.configuration unit.shared
    world with ⟨error | created, after⟩
  · split
    · rfl
    · rfl
  · split
    · rfl
    · rfl

theorem Deed.Leads.keeps {Holds : World σ υ → Prop} {deed : Deed} {before after : RunState σ υ}
    (leads : deed.Leads catalogue event before after) (unused : deed.Unused)
    (asked : ∀ filter, Action.Keeps Holds (accepts catalogue filter event))
    (extracted : ∀ extractor, Action.Keeps Holds (extract catalogue extractor event))
    (invoked : ∀ cutoff target method slots (run : RunState σ υ), Holds run.world →
      Holds (@invokeWithin σ υ DispatchError _ catalogue cutoff target method slots run).2.world)
    (ticked : ∀ world clock, Holds world → Holds { world with clock })
    (created : ∀ type configuration shared, Action.Keeps Holds
      (Factory.createInstance catalogue type .component configuration shared))
    (holds : Holds before.world) : Holds after.world := by
  cases deed with
  | asked filter answer =>
    obtain rfl : (RunState.onWorld (accepts catalogue filter event) before).2 = after :=
      congrArg Prod.snd leads
    exact asked filter before.world holds
  | opened =>
    obtain rfl : after = before.changeContext .empty := leads
    exact holds
  | extracted index extractor answer =>
    obtain rfl : (RunState.onWorld (extract catalogue extractor event) before).2 = after :=
      congrArg Prod.snd leads
    exact extracted extractor before.world holds
  | timed cutoff =>
    obtain ⟨clock, _, rfl⟩ := leads
    exact ticked before.world clock holds
  | obtained unit answer used =>
    obtain ⟨world, made, rfl⟩ := leads
    have creating := @ActivationUnit.obtain_unused σ υ _ catalogue unit unused before.world
    have kept := created unit.target unit.configuration unit.shared before.world holds
    rw [← creating, made] at kept
    exact kept
  | invoked entry target slots cutoff answer =>
    obtain rfl : (invokeWithin catalogue cutoff target entry.activation.method slots before).2 =
        after := congrArg Prod.snd leads
    exact invoked cutoff target entry.activation.method slots before holds
  | checked answer =>
    obtain rfl : (checkDeadline before).2 = after := congrArg Prod.snd leads
    unfold checkDeadline
    split
    · exact holds
    · simp only
      split
      · exact ticked _ _ holds
      · exact ticked _ _ holds
  | closed values =>
    obtain ⟨_, rfl⟩ := leads
    exact holds

theorem Deed.Leads.keeps_steadily {Holds : World σ υ → Prop} {deed : Deed}
    {before after : RunState σ υ} (leads : deed.Leads catalogue event before after)
    (unused : deed.Unused)
    (steadily : ∀ before after, World.Steady before after → Holds before → Holds after)
    (created : ∀ type configuration shared, Action.Keeps Holds
      (Factory.createInstance catalogue type .component configuration shared))
    (holds : Holds before.world) : Holds after.world := by
  refine leads.keeps unused ?_ ?_ ?_ ?_ created holds
  · exact fun filter world => steadily _ _ (accepts_steady catalogue filter event world)
  · exact fun extractor world => steadily _ _ (extract_steady catalogue extractor event world)
  · exact fun cutoff target method slots run =>
      steadily _ _ (invokeWithin_steady catalogue cutoff target method slots run)
  · exact fun world clock => steadily world _ ⟨rfl, rfl⟩

theorem Performed.keeps {Holds : World σ υ → Prop} {first last : RunState σ υ} {deeds : List Deed}
    (performed : Performed catalogue event first deeds last)
    (each : ∀ deed ∈ deeds, ∀ before after : RunState σ υ,
      deed.Leads catalogue event before after → Holds before.world → Holds after.world)
    (holds : Holds first.world) : Holds last.world := by
  induction performed with
  | nothing state => exact holds
  | @deed before between after deed rest leads _ ih =>
    have kept := each deed (List.mem_cons_self ..) before between leads holds
    exact ih (fun other member => each other (List.mem_cons_of_mem _ member)) kept

end Frames

/-! ### Answers -/

section Answers

variable {catalogue : Catalogue σ υ} {event : Event} {id : InstanceId} {held : Instance σ}
  (passive : (catalogue held.type).Passive) (apart : held.form ≠ .component)

include passive apart

theorem Deed.Leads.has {deed : Deed} {before after : RunState σ υ}
    (leads : deed.Leads catalogue event before after) (unused : deed.Unused)
    (has : before.world.Has id held) : after.world.Has id held := by
  refine leads.keeps unused ?_ ?_ ?_ ?_ ?_ has
  · exact fun filter world has => has.accepts passive filter event
  · exact fun extractor world has => has.extract passive extractor event
  · exact fun cutoff target method slots run has =>
      has.invokeWithin passive cutoff target method slots
  · exact fun world clock has => has
  · exact fun type configuration shared world has =>
      createInstance_spares passive apart has type configuration shared

/-- Every question to a passive instance finds it as it was at the start. -/
theorem Performed.answered {first last : RunState σ υ} {deeds : List Deed}
    (performed : Performed catalogue event first deeds last)
    (unused : ∀ deed ∈ deeds, deed.Unused) (has : first.world.Has id held)
    {verdict : Except Cause Bool}
    (settled : ∀ world : World σ υ, world.Has id held →
      (accepts catalogue id event world).1 = verdict)
    {answer : Except Cause Bool} (asked : .asked id answer ∈ deeds) : answer = verdict := by
  induction performed with
  | nothing state => cases asked
  | @deed before between after deed rest leads _ ih =>
    have kept := leads.has passive apart (unused deed (List.mem_cons_self ..)) has
    rcases List.mem_cons.mp asked with rfl | later
    · have here : (RunState.onWorld (accepts catalogue id event) before).1 = answer :=
        congrArg Prod.fst leads
      rw [← here]
      exact settled before.world has
    · exact ih (fun other member => unused other (List.mem_cons_of_mem _ member)) kept later

end Answers

/-! ### Types -/

section Types

variable {catalogue : Catalogue σ υ} {event : Event}

theorem Deed.Leads.settles {unit used : ActivationUnit} {target : InstanceId}
    {before after : RunState σ υ}
    (leads : (Deed.obtained unit (.ok target) used).Leads catalogue event before after)
    (unused : unit.cached = none) (typed : before.world.Typed) :
    ∃ type, unit.target = some type ∧ after.world.OfType type target := by
  obtain ⟨world, made, rfl⟩ := leads
  have creating := @ActivationUnit.obtain_unused σ υ _ catalogue unit unused before.world
  rw [made] at creating
  cases named : unit.target with
  | none =>
    rw [named] at creating
    cases creating
  | some type =>
    have settled := @createInstance_settles σ υ _ catalogue type .component
      unit.configuration unit.shared before.world typed
    rw [named] at creating
    rw [← creating] at settled
    exact ⟨type, rfl, settled.2⟩

theorem Performed.obtains {first last : RunState σ υ} {deeds : List Deed}
    (performed : Performed catalogue event first deeds last)
    (unused : ∀ deed ∈ deeds, deed.Unused) (typed : first.world.Typed) :
    ∀ deed ∈ deeds, deed.Obtains last.world := by
  induction performed with
  | nothing state => exact fun _ member => (List.not_mem_nil member).elim
  | @deed before between after deed rest leads performed ih =>
    have unusedHere := unused deed (List.mem_cons_self ..)
    have unusedLater : ∀ other ∈ rest, other.Unused :=
      fun other member => unused other (List.mem_cons_of_mem _ member)
    have still : between.world.Typed :=
      leads.keeps_steadily unusedHere (fun _ _ same typed => typed.steady same)
        (fun type configuration shared => createInstance_keeps_typed type .component configuration
          shared) typed
    intro other member
    rcases List.mem_cons.mp member with rfl | later
    · cases other with
      | obtained unit answer used =>
        cases answer with
        | error error => exact trivial
        | ok target =>
          obtain ⟨type, named, ofType⟩ := leads.settles unusedHere typed
          -- It is of this type when it is obtained, and no later deed changes that.
          have kept : after.world.OfType type target := by
            refine performed.keeps (fun deed among before after leads ofType => ?_) ofType
            exact leads.keeps_steadily (unusedLater deed among)
              (fun _ _ same ofType => ofType.steady same)
              (fun other configuration shared => createInstance_keeps_type type target other
                .component configuration shared) ofType
          show unit.target = some (after.world.instanceAt target).type
          rw [named, kept.type_eq]
      | _ => exact trivial
    · exact ih unusedLater still other later

end Types

end EventPipeline
