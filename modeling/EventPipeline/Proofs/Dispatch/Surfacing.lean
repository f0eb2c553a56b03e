import EventPipeline.Proofs.Container.Lifecycle
import EventPipeline.Proofs.Dispatch.Deadlines
import EventPipeline.Proofs.Dispatch.Staffing
import EventPipeline.Proofs.Dispatch.Threading
import EventPipeline.Proofs.Failure.Origin

/-! What a caller sees of a failure.

The container fails while an instance is created, and a method or its arguments fail while a unit is activated.
A dispatcher passes both on as they are. Filters and extractors fail as user code only, and then the dispatcher
says which of them it was and puts their failure below. -/

namespace EventPipeline

open Json

variable {σ υ : Type} [Inhabited σ] {catalogue : Catalogue σ υ}

/-! ### Creations and activations -/

theorem createInstance_carries {type : Option TypeToken} {view : View} {configuration : Configuration}
    {shared : Bool} {world after : World σ υ} {error : FactoryError}
    (ran : Factory.createInstance catalogue type view configuration shared world = (.error error, after)) :
    type = none ∧ error = .missingType ∨ ∃ known cause, type = some known ∧
      (resolve catalogue ⟨known, view⟩
        (Factory.ensureBound ⟨known, view⟩ (.ofShared shared) world)).1 = .error cause ∧
      (Failure.factory error).Carries (.resolution cause) := by
  cases type with
  | none =>
    cases ran
    exact .inl ⟨rfl, rfl⟩
  | some known =>
    obtain ⟨cause, rfl, failed⟩ := createInstance_failed ran
    exact .inr ⟨known, cause, rfl, congrArg Prod.fst failed, Failure.carries_of_origin rfl⟩

namespace ActivationUnit

variable {unit used : ActivationUnit} {slots : Slots} {run : RunState σ υ}

theorem obtain_failed {world after : World σ υ} {error : FactoryError}
    (ran : obtain catalogue (unit, world) = (.error error, (used, after))) :
    Factory.createInstance catalogue unit.target .component unit.configuration unit.shared world =
      (.error error, after) := by
  unfold obtain at ran
  simp only at ran
  rcases made : Factory.createInstance catalogue unit.target .component unit.configuration unit.shared world
    with ⟨cause | id, reached⟩
  · rw [made] at ran
    split at ran
    · split at ran
      · cases ran
      · cases ran
        rfl
    · cases ran
      rfl
  · rw [made] at ran
    split at ran
    · split at ran
      · cases ran
      · cases ran
    · cases ran

theorem activate_fst (slots : Slots) (unit : ActivationUnit) (run : RunState σ υ) :
    (activate catalogue slots (unit, run)).1 =
      match obtain catalogue (unit, run.world) with
      | (.error cause, _) => .error (.ofFactory cause)
      | (.ok target, (used, world)) =>
          match (@invokeWithin σ υ ActivationError _ catalogue none target used.method slots
            { run with world }).1 with
          | .error error => .error error
          | .ok outcome => outcome.mapError .invoke := by
  unfold activate
  rw [Action.bind_apply]
  unfold activateWithin
  simp only
  rcases obtain catalogue (unit, run.world) with ⟨cause | target, used, world⟩
  · rfl
  · simp only
    rcases invokeWithin catalogue none target used.method slots { run with world } with
      ⟨error | outcome, after⟩
    · rfl
    · rfl

theorem activate_carries {error : ActivationError}
    (failed : (activate catalogue slots (unit, run)).1 = .error error) :
    (∃ cause, (Factory.createInstance catalogue unit.target .component unit.configuration unit.shared
        run.world).1 = .error cause ∧
      (Failure.activation error).Carries (.factory cause) ∧ error.handler? = none) ∨
    ∃ target used world cause, obtain catalogue (unit, run.world) = (.ok target, (used, world)) ∧
      (@invokeWithin σ υ ActivationError _ catalogue none target used.method slots
        { run with world }).1 = .ok (.error cause) ∧
      (Failure.activation error).Carries (.invoke cause) ∧ error.handler? = cause.handler? := by
  rw [activate_fst] at failed
  rcases obtained : obtain catalogue (unit, run.world) with ⟨cause | target, used, world⟩
  · rw [obtained] at failed
    cases failed
    refine .inl ⟨cause, congrArg Prod.fst (obtain_failed obtained), Failure.carries_of_origin ?_, ?_⟩
    · cases cause <;> rfl
    · cases cause <;> rfl
  · rw [obtained] at failed
    simp only at failed
    rcases ran : @invokeWithin σ υ ActivationError _ catalogue none target used.method slots
      { run with world } with ⟨cut | outcome, after⟩
    · obtain ⟨limit, unlimited, _⟩ := invokeWithin_error ran
      cases unlimited
    · rw [ran] at failed
      cases outcome with
      | ok value => cases failed
      | error cause =>
        cases failed
        exact .inr ⟨target, used, world, cause, rfl, congrArg Prod.fst ran,
          Failure.carries_of_origin rfl, rfl⟩

theorem activate_of_body {target : InstanceId} {world : World σ υ} {cause : InvokeError}
    (obtained : obtain catalogue (unit, run.world) = (.ok target, (used, world)))
    (ran : (@invokeWithin σ υ ActivationError _ catalogue none target used.method slots
      { run with world }).1 = .ok (.error cause)) :
    (activate catalogue slots (unit, run)).1 = .error (.invoke cause) := by
  rw [activate_fst, obtained]
  simp only
  rw [ran]
  rfl

end ActivationUnit

/-! ### Dispatches -/

/-- How the failure of a dispatch shows what has failed last. -/
def Deed.Shows (error : DispatchError) : Deed → Prop
  | .asked _ (.error cause) =>
      error = .filter cause ∧ error.toCause = ⟨"filter failed", cause.chain⟩ ∧ error.handler? = none
  | .extracted index _ (.error cause) =>
      error = .extraction index cause ∧
        error.toCause = ⟨"extractor for argument " ++ toString index ++ " failed", cause.chain⟩ ∧
        error.handler? = none
  | .obtained _ (.error cause) _ =>
      (Failure.dispatch error).Carries (.factory cause) ∧ error.handler? = none
  | .invoked _ _ _ _ (.ok (.error cause)) =>
      (Failure.dispatch error).Carries (.invoke cause) ∧ error.handler? = cause.handler?
  | .invoked _ _ _ _ (.error _) => ∃ budget, error = .timeout budget
  | .checked (.error _) => ∃ budget, error = .timeout budget
  | _ => False

theorem PipelineCourse.timed {pipeline used : Pipeline} {deeds : List Deed}
    {result : Except DispatchError (Option DispatchOutcome)}
    (course : PipelineCourse pipeline deeds result used) : ∀ deed ∈ deeds, Timed deeds deed := by
  have asking : ∀ {asked more : List Deed} {verdict},
      Matching pipeline.filters asked verdict → ∀ deed ∈ asked, Timed more deed :=
    fun filters => filters.every fun _ _ _ _ _ => trivial
  intro deed member
  cases course with
  | unasked filters => exact asking filters deed member
  | passed filters => exact asking filters deed member
  | failed filters run =>
    rcases List.mem_append.mp member with early | late
    · exact asking filters deed early
    · rcases List.mem_cons.mp late with rfl | running
      · trivial
      · apply (timed_in_turn (fun _ _ _ _ => StepCourse.timed) run deed running).mono
        exact List.Subset.trans (List.subset_cons_self ..) (List.subset_append_right ..)
  | ran values filters run =>
    rcases List.mem_append.mp member with early | late
    · exact asking filters deed early
    · rcases List.mem_cons.mp late with rfl | running
      · trivial
      · rcases List.mem_append.mp running with acting | last
        · apply (timed_in_turn (fun _ _ _ _ => StepCourse.timed) run deed acting).mono
          apply List.Subset.trans (List.subset_append_left ..)
          exact List.Subset.trans (List.subset_cons_self ..) (List.subset_append_right ..)
        · rw [List.mem_singleton.mp last]
          trivial

theorem shows_of_failed {event : Event} {before after : RunState σ υ} {earlier : List Deed} {last : Deed}
    {error : DispatchError} (performed : Performed catalogue event before (earlier ++ [last]) after)
    (timed : Timed (earlier ++ [last]) last) (failed : last.failure? = some error) :
    last.Shows error := by
  obtain ⟨between, first, second⟩ := performed.split
  cases second with
  | deed leads later =>
    cases last with
    | asked filter answer =>
      cases answer with
      | error cause =>
        cases failed
        exact ⟨rfl, rfl, rfl⟩
      | ok accepted => cases failed
    | opened => cases failed
    | extracted index extractor answer =>
      cases answer with
      | error cause =>
        cases failed
        exact ⟨rfl, rfl, rfl⟩
      | ok value => cases failed
    | timed cutoff => cases failed
    | obtained unit answer used =>
      cases answer with
      | error cause =>
        cases failed
        cases cause <;> exact ⟨Failure.carries_of_origin rfl, rfl⟩
      | ok target => cases failed
    | invoked entry target slots cutoff answer =>
      rcases answer with cut | cause | value
      · cases failed
        -- It was cut off with the error of a cutoff, and that was read off a deadline before it began.
        obtain ⟨limit, rfl, rfl, _⟩ := invokeWithin_error leads
        have among : .timed (some limit) ∈ earlier := by
          rcases List.mem_append.mp timed with there | here
          · exact there
          · cases List.mem_singleton.mp here
        obtain ⟨front, rest, rfl⟩ := List.append_of_mem among
        obtain ⟨start, _, onward⟩ := first.split
        cases onward with
        | deed reads _ =>
          obtain ⟨clock, read, _⟩ := reads
          obtain ⟨held, _, budget, _⟩ := cutoffOf_eq_some read
          exact ⟨held.budget, budget⟩
      · cases failed
        exact ⟨Failure.carries_of_origin rfl, rfl⟩
      · cases failed
    | checked answer =>
      cases answer with
      | error found =>
        cases failed
        obtain ⟨held, _, rfl, _⟩ := checkDeadline_error leads
        exact ⟨held.budget, rfl⟩
      | ok passed => cases failed
    | closed values => cases failed

/-- A failure of the container, of an argument, of a method name or of a method body says the same, causes
included, on every way up through the layers, and can be told from the last error; a failed construction lists
below itself whatever it was nested in. So it is for creations, for activations, for the building of a
dispatcher and for dispatches. A dispatch adds one layer of its own around the failure of a filter or of an
extractor, and nothing around any other. The handler's error is the failure of the method body where that is
what has failed, and else there is none. -/
theorem failures_surface (catalogue : Catalogue σ υ) :
    ((∀ error, (Failure.resolution error).CarriedAlong
        (List.Sublist · [.factory, .activation, .dispatch])) ∧
      (∀ error, (Failure.argument error).CarriedAlong (· <+: [.invoke, .activation, .dispatch])) ∧
      (∀ cause, (Failure.body cause).CarriedAlong (· <+: [.invoke, .activation, .dispatch])) ∧
      ∀ component method, (Failure.invoke (.unknownMethod component method)).CarriedAlong
        (· <+: [.activation, .dispatch])) ∧
    (∀ names innermost, (ResolutionError.within names innermost).toCause.chain =
      names.map (fun name => "failed to construct `" ++ name ++ "`") ++ innermost.toCause.chain) ∧
    (∀ (error : ActivationError) cause,
      error.handler? = some cause ↔ (Failure.activation error).origin = .body cause) ∧
    (∀ type view configuration shared (world : World σ υ) error,
      (Factory.createInstance catalogue type view configuration shared world).1 = .error error →
        type = none ∧ error = .missingType ∨ ∃ known cause, type = some known ∧
          (resolve catalogue ⟨known, view⟩
            (Factory.ensureBound ⟨known, view⟩ (.ofShared shared) world)).1 = .error cause ∧
          (Failure.factory error).Carries (.resolution cause)) ∧
    (∀ unit slots (run : RunState σ υ),
      (∀ error, (ActivationUnit.activate catalogue slots (unit, run)).1 = .error error →
        (∃ cause, (Factory.createInstance catalogue unit.target .component unit.configuration unit.shared
            run.world).1 = .error cause ∧
          (Failure.activation error).Carries (.factory cause) ∧ error.handler? = none) ∨
        ∃ target used world cause,
          ActivationUnit.obtain catalogue (unit, run.world) = (.ok target, (used, world)) ∧
          (@invokeWithin σ υ ActivationError _ catalogue none target used.method slots
            { run with world }).1 = .ok (.error cause) ∧
          (Failure.activation error).Carries (.invoke cause) ∧ error.handler? = cause.handler?) ∧
      ∀ target used world cause,
        ActivationUnit.obtain catalogue (unit, run.world) = (.ok target, (used, world)) →
        (@invokeWithin σ υ ActivationError _ catalogue none target used.method slots
          { run with world }).1 = .ok (.error cause) →
          (ActivationUnit.activate catalogue slots (unit, run)).1 = .error (.invoke cause)) ∧
    (∀ documents (world after : World σ υ) error,
      Dispatcher.build catalogue documents world = (.error error, after) →
        ∃ cause, Fails catalogue (documents.flatMap PipelineDocument.demands) cause world after ∧
          (Failure.dispatch error).Carries (.factory cause) ∧ error.handler? = none) ∧
    ∀ event dispatcher (world : World σ υ) error,
      (Dispatcher.dispatch catalogue event (dispatcher, world)).1 = .error error →
        ∃ earlier last offers used final,
          dispatcher.Course catalogue event world (earlier ++ [last]) offers used final ∧
          (∀ deed ∈ earlier, deed.failure? = none) ∧ last.Shows error := by
  refine ⟨⟨?_, ?_, ?_, ?_⟩, ResolutionError.chain_within, fun _ _ => ActivationError.handler?_iff, ?_, ?_,
    ?_, ?_⟩
  · exact fun error => Failure.carriedAlong_of_ways (Failure.ways_of_resolution error)
  · intro error
    exact Failure.carriedAlong_of_ways (Failure.ways_of_invoked fun layer => by cases layer <;> rfl)
  · intro cause
    exact Failure.carriedAlong_of_ways (Failure.ways_of_invoked fun layer => by cases layer <;> rfl)
  · exact fun component method => Failure.carriedAlong_of_ways (Failure.ways_of_invoke _)
  · intro type view configuration shared world error failed
    exact createInstance_carries (Prod.ext failed rfl)
  · intro unit slots run
    exact ⟨fun error => ActivationUnit.activate_carries,
      fun target used world cause => ActivationUnit.activate_of_body⟩
  · intro documents world after error ran
    obtain ⟨cause, rfl, fails⟩ := Dispatcher.build_fails ran
    refine ⟨cause, fails, Failure.carries_of_origin ?_, ?_⟩
    · cases cause <;> rfl
    · cases cause <;> rfl
  · intro event dispatcher world error failed
    obtain ⟨trace, offers, used, final, course, outcome⟩ :=
      Dispatcher.dispatch_courses catalogue event dispatcher world
    have ends := course.order.conclusive fun _ _ _ _ => PipelineCourse.conclusive
    rw [outcome] at failed
    cases offers with
    | ok offered => cases failed
    | error found =>
      cases failed
      obtain ⟨earlier, last, rfl, calm, failing⟩ := ends
      have timed := timed_in_turn (fun _ _ _ _ => PipelineCourse.timed) course.order last
        (List.mem_append_right _ (List.mem_singleton_self last))
      exact ⟨earlier, last, _, used, final, course, calm,
        shows_of_failed course.performed timed failing⟩

end EventPipeline
