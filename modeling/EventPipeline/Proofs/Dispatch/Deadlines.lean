import EventPipeline.Proofs.Dispatch.Failure
import EventPipeline.Proofs.Dispatch.Timeline

/-! No run outlives its deadline.

A run reads its deadline at two places. Before a step is activated it becomes the moment at which a
waiting method is cut off, and after every step the clock must not have come to it. Whatever limits the
steps ask for, a run that succeeds has its last check before all of them, and a run that times out does so
because of one of them, when its time has come. -/

namespace EventPipeline

open Json

variable {σ υ α β ε : Type}

/-! ### Methods that are cut off -/

theorem waitWithin_error {cutoff : Option (Cutoff ε)} {duration : Nat} {run after : RunState σ υ}
    {error : ε} (ran : waitWithin cutoff duration run = (.error error, after)) :
    ∃ limit, cutoff = some limit ∧ error = limit.error ∧ limit.moment ≤ after.world.clock.now := by
  unfold waitWithin at ran
  cases cutoff with
  | none => cases ran
  | some limit =>
    simp only at ran
    split at ran
    · cases ran
      have reached : limit.moment ≤ (run.world.clock.reach limit.moment).now := Nat.le_max_right ..
      exact ⟨limit, rfl, rfl, reached.trans (Clock.now_le_read _)⟩
    · cases ran

section Methods

variable [Inhabited σ]

theorem invokeWithin_error {catalogue : Catalogue σ υ} {cutoff : Option (Cutoff ε)}
    {target : InstanceId} {method : String} {slots : Slots} {run after : RunState σ υ} {error : ε}
    (ran : invokeWithin catalogue cutoff target method slots run = (.error error, after)) :
    ∃ limit, cutoff = some limit ∧ error = limit.error ∧ limit.moment ≤ after.world.clock.now := by
  obtain ⟨request, before, answered⟩ := Script.exists_of_run_error ran
  cases request with
  | own request => cases request <;> cases answered
  | insert key value => cases answered
  | remove key => cases answered
  | values => cases answered
  | setDeadline budget => cases answered
  | deadline => cases answered
  | wait duration => exact waitWithin_error answered

end Methods

theorem cutoffOf_eq_some {deadline : Option Deadline} {clock after : Clock}
    {cutoff : Cutoff DispatchError} (timed : cutoffOf deadline clock = (some cutoff, after)) :
    ∃ held, deadline = some held ∧ cutoff.error = .timeout held.budget ∧
      held.expiry ≤ cutoff.moment := by
  cases deadline with
  | none => cases timed
  | some held =>
    cases timed
    have onward := Clock.now_le_read clock.read
    refine ⟨held, rfl, rfl, ?_⟩
    show held.expiry ≤ clock.read.read.now + (held.expiry - clock.read.now)
    omega

theorem checkDeadline_error {run after : RunState σ υ} {error : DispatchError}
    (ran : checkDeadline run = (.error error, after)) :
    ∃ held, run.context.deadline = some held ∧ error = .timeout held.budget ∧
      held.expiry ≤ after.world.clock.now := by
  cases effective : run.context.deadline with
  | none => cases (checkDeadline_of_none effective).symm.trans ran
  | some held =>
    have check := (checkDeadline_of_some effective).symm.trans ran
    split at check
    · next expired =>
      cases check
      exact ⟨held, rfl, rfl, of_decide_eq_true expired⟩
    · cases check

theorem lt_expiry_of_checkDeadline {run after : RunState σ υ} {held : Deadline}
    (effective : run.context.deadline = some held) (ran : checkDeadline run = (.ok (), after)) :
    run.world.clock.read.now < held.expiry := by
  have check := (checkDeadline_of_some effective).symm.trans ran
  split at check
  · cases check
  · next ahead =>
    have not_due : ¬ held.expiry ≤ run.world.clock.read.now := mt decide_eq_true ahead
    omega

/-! ### The order of a step -/

/-- A method runs under a cutoff that was read for it. -/
def Timed (deeds : List Deed) : Deed → Prop
  | .invoked _ _ _ cutoff _ => .timed cutoff ∈ deeds
  | _ => True

theorem Timed.mono {deeds more : List Deed} (included : deeds ⊆ more) {deed : Deed}
    (timed : Timed deeds deed) : Timed more deed := by
  cases deed with
  | invoked entry target slots cutoff answer => exact included timed
  | _ => trivial

theorem Activation.timed {slots : Slots} {step used : Step} {deeds : List Deed}
    {result : Except DispatchError Value} (course : Activation slots step deeds result used) :
    ∀ deed ∈ deeds, Timed deeds deed := by
  cases course <;> simp [Timed]

theorem StepCourse.timed {step used : Step} {deeds : List Deed} {result : Except DispatchError Value}
    (course : StepCourse step deeds result used) : ∀ deed ∈ deeds, Timed deeds deed := by
  have extracting : ∀ {deeds more : List Deed} {result},
      InTurn Filling step.reached deeds result step.reached → ∀ deed ∈ deeds, Timed more deed :=
    fun extraction => extraction.every fun _ _ _ _ _ filling => filling.every fun _ _ _ => trivial
  intro deed member
  cases course with
  | unextracted extraction => exact extracting extraction deed member
  | failed extraction activation =>
    rcases List.mem_append.mp member with early | late
    · exact extracting extraction deed early
    · exact (activation.timed deed late).mono (List.subset_append_right ..)
  | checked check extraction activation =>
    rcases List.mem_append.mp member with early | late
    · exact extracting extraction deed early
    · rcases List.mem_append.mp late with acting | last
      · apply (activation.timed deed acting).mono
        exact List.Subset.trans (List.subset_append_left ..) (List.subset_append_right ..)
      · rw [List.mem_singleton.mp last]
        trivial

theorem timed_in_turn {Part : α → List Deed → Except DispatchError β → α → Prop}
    (each : ∀ element deeds result after, Part element deeds result after →
      ∀ deed ∈ deeds, Timed deeds deed)
    {elements others : List α} {deeds : List Deed} {result : Except DispatchError (List β)}
    (course : InTurn Part elements deeds result others) : ∀ deed ∈ deeds, Timed deeds deed := by
  induction course with
  | done => exact fun _ member => (List.not_mem_nil member).elim
  | next first _ ih =>
    intro deed member
    rcases List.mem_append.mp member with early | late
    · exact (each _ _ _ _ first deed early).mono (List.subset_append_left ..)
    · exact (ih deed late).mono (List.subset_append_right ..)
  | failed first => exact each _ _ _ _ first

theorem timed_of_steps {steps others : List Step} {deeds : List Deed}
    {result : Except DispatchError (List Value)} (course : InTurn StepCourse steps deeds result others) :
    ∀ deed ∈ deeds, Timed deeds deed :=
  timed_in_turn (fun _ _ _ _ => StepCourse.timed) course

theorem StepCourse.ends_checked {step used : Step} {deeds : List Deed} {value : Value}
    (course : StepCourse step deeds (.ok value) used) :
    ∃ earlier, deeds = earlier ++ [.checked (.ok ())] := by
  generalize same : Except.ok value = result at course
  cases course with
  | unextracted extraction => cases same
  | failed extraction activation => cases same
  | @checked used deeds more values found check extraction activation =>
    cases check with
    | error error => cases same
    | ok _ => exact ⟨deeds ++ more, (List.append_assoc ..).symm⟩

theorem ends_checked_of_steps {steps others : List Step} {deeds : List Deed} {values : List Value}
    (course : InTurn StepCourse steps deeds (.ok values) others) :
    deeds = [] ∨ ∃ earlier, deeds = earlier ++ [.checked (.ok ())] := by
  generalize same : Except.ok values = result at course
  induction course generalizing values with
  | done => exact .inl rfl
  | @next element after rest others deeds more value result first later ih =>
    cases result with
    | error error => cases same
    | ok found =>
      rcases ih rfl with rfl | ⟨earlier, rfl⟩
      · rw [List.append_nil]
        exact .inr first.ends_checked
      · exact .inr ⟨deeds ++ earlier, (List.append_assoc ..).symm⟩
  | failed first => cases same

/-! ### Checks and cutoffs on a time line -/

namespace Timeline

variable [Inhabited σ] {catalogue : Catalogue σ υ} {event : Event} {before last : Moment σ υ}
  {deeds : List Deed} {moments : List (Moment σ υ)}

/-- A check that is passed reads a time before every limit that has been asked for. -/
theorem in_time (timeline : Timeline catalogue event before (deeds ++ [.checked (.ok ())]) moments last)
    (start : before.Faithful) {limit : Limit} (among : limit ∈ last.made) :
    ∃ early between, Timeline catalogue event before deeds early between ∧
      between.state.world.clock.read.now < limit.expiry := by
  obtain ⟨early, between, late, first, second⟩ := timeline.split
  refine ⟨early, between, first, ?_⟩
  cases second with
  | deed inside leads later =>
    cases later
    have made : limit ∈ between.made := by
      rcases List.mem_append.mp among with held | asked
      · exact held
      · cases asked
    obtain ⟨deadline, effective, sooner⟩ := Limit.earliest_of_mem made
    have ahead := lt_expiry_of_checkDeadline ((first.effective start).trans effective) leads
    omega

theorem cutoff_of_limit (timeline : Timeline catalogue event before deeds moments last)
    (start : before.Faithful) {cutoff : Cutoff DispatchError} (timed : .timed (some cutoff) ∈ deeds) :
    ∃ limit ∈ last.made, cutoff.error = .timeout limit.budget ∧ limit.expiry ≤ cutoff.moment := by
  obtain ⟨earlier, rest, rfl⟩ := List.append_of_mem timed
  obtain ⟨early, between, late, first, second⟩ := timeline.split
  have grown := second.grows.1
  cases second with
  | deed inside leads later =>
    obtain ⟨clock, reads, _⟩ := leads
    obtain ⟨held, effective, error, late⟩ := cutoffOf_eq_some reads
    obtain ⟨limit, among, rfl⟩ :=
      Limit.exists_of_earliest ((first.effective start).symm.trans effective)
    exact ⟨limit, grown.subset among, error, late⟩

theorem out_of_time {deed : Deed} (timeline : Timeline catalogue event before (deeds ++ [deed]) moments last)
    (start : before.Faithful) (timed : Timed (deeds ++ [deed]) deed) {budget : Nat}
    (failed : deed.failure? = some (.timeout budget)) :
    ∃ limit ∈ last.made, limit.budget = budget ∧ limit.expiry ≤ last.state.world.clock.now := by
  have cutoffs : ∀ {cutoff : Cutoff DispatchError}, .timed (some cutoff) ∈ deeds ++ [deed] →
      ∃ limit ∈ last.made, cutoff.error = .timeout limit.budget ∧ limit.expiry ≤ cutoff.moment :=
    fun among => timeline.cutoff_of_limit start among
  obtain ⟨early, between, late, first, second⟩ := timeline.split
  have grown := second.grows.1
  cases second with
  | deed inside leads later =>
    cases later
    -- Only a method that is cut off and a check of the deadline itself fail with a timeout.
    cases deed with
    | asked filter answer => cases answer <;> cases failed
    | opened => cases failed
    | extracted index extractor answer => cases answer <;> cases failed
    | timed cutoff => cases failed
    | obtained unit answer used => cases answer <;> cases failed
    | invoked entry target slots cutoff answer =>
      rcases answer with error | error | value
      · cases failed
        obtain ⟨limit, rfl, cause, reached⟩ := invokeWithin_error leads
        obtain ⟨made, among, error, late⟩ := cutoffs timed
        cases cause.trans error
        exact ⟨made, among, rfl, late.trans reached⟩
      · cases failed
      · cases failed
    | checked answer =>
      rcases answer with error | passed
      · cases failed
        obtain ⟨held, effective, cause, expired⟩ := checkDeadline_error leads
        obtain ⟨limit, among, rfl⟩ :=
          Limit.exists_of_earliest ((first.effective start).symm.trans effective)
        cases cause
        exact ⟨limit, grown.subset among, rfl, expired⟩
      · cases failed
    | closed values => cases failed

theorem expired {answer : Except DispatchError Unit} {rest : List Deed} {between : Moment σ υ}
    {early : List (Moment σ υ)} {deadline : Deadline}
    (timeline : Timeline catalogue event before (deeds ++ .checked answer :: rest) moments last)
    (first : Timeline catalogue event before deeds early between)
    (held : between.state.context.deadline = some deadline)
    (expired : deadline.isExpired between.state.world.clock.read.now = true) :
    answer = .error (.timeout deadline.budget) := by
  obtain ⟨_, reached, _, again, second⟩ := timeline.split
  obtain rfl := first.unique again
  cases second with
  | deed inside leads later =>
    have check := congrArg Prod.fst ((checkDeadline_of_some held).symm.trans leads)
    rw [if_pos expired] at check
    exact check.symm

end Timeline

/-! ### Runs -/

section Runs

variable [Inhabited σ]

/-- At every moment of a run the deadline in effect is that of the limit with the earliest expiry, the
first of them on a tie, among all that its steps have asked for; so it never moves later. When the run has
an outcome, the last thing it does is a check that reads a time before each of these limits. When it times
out, one of them has the budget that is reported and has expired by then. And a check that finds the
deadline passed is the end of the run: no extractor and no method follows it. -/
theorem run_within_limits (catalogue : Catalogue σ υ) (event : Event) (pipeline : Pipeline)
    (world : World σ υ) :
    ∃ trace moments last result steps,
      Timeline catalogue event (.start world) trace moments last ∧
      InTurn StepCourse pipeline.steps trace result steps ∧
      Pipeline.run catalogue event (pipeline, world) =
        (result.map fun responses => ⟨responses, last.state.context.values⟩,
          ({ pipeline with steps }, last.state.world)) ∧
      (∀ moment ∈ moments, moment.state.context.deadline = Limit.earliest moment.made) ∧
      (moments.Pairwise fun earlier later =>
        Deadline.NotLater earlier.state.context.deadline later.state.context.deadline) ∧
      (∀ outcome, (Pipeline.run catalogue event (pipeline, world)).1 = .ok outcome →
        ∀ limit ∈ last.made, ∃ earlier early between, trace = earlier ++ [.checked (.ok ())] ∧
          Timeline catalogue event (.start world) earlier early between ∧
          between.state.world.clock.read.now < limit.expiry) ∧
      (∀ budget, (Pipeline.run catalogue event (pipeline, world)).1 = .error (.timeout budget) →
        ∃ limit ∈ last.made, limit.budget = budget ∧ limit.expiry ≤ last.state.world.clock.now) ∧
      ∀ earlier answer rest early between deadline, trace = earlier ++ .checked answer :: rest →
        Timeline catalogue event (.start world) earlier early between →
        between.state.context.deadline = some deadline →
        deadline.isExpired between.state.world.clock.read.now = true →
        rest = [] ∧ (Pipeline.run catalogue event (pipeline, world)).1 =
          .error (.timeout deadline.budget) := by
  obtain ⟨trace, final, result, steps, performed, course, outcome⟩ :=
    Pipeline.run_courses catalogue event pipeline world
  have inside : ∀ deed ∈ trace, deed ≠ .opened :=
    course.every fun _ _ _ _ _ step => step.every (fun _ _ _ => nofun) (fun _ => nofun)
      (fun _ _ => nofun) (fun _ _ _ _ => nofun) (fun _ => nofun)
  obtain ⟨moments, last, timeline, rfl⟩ := Timeline.of_performed performed inside []
  have start : (Moment.start world).Faithful := rfl
  have faithful := (timeline.faithful start).1
  have ends := course.conclusive fun _ _ _ _ => StepCourse.conclusive
  refine ⟨trace, moments, last, result, steps, timeline, course, outcome, faithful, ?_, ?_, ?_, ?_⟩
  · exact timeline.ordered.imp_of_mem fun here there before =>
      before.notLater (faithful _ here) (faithful _ there)
  · intro values succeeded limit among
    rw [outcome] at succeeded
    cases result with
    | error error => cases succeeded
    | ok responses =>
      rcases ends_checked_of_steps course with rfl | ⟨earlier, rfl⟩
      · cases timeline
        cases among
      · obtain ⟨early, between, first, ahead⟩ := timeline.in_time start among
        exact ⟨earlier, early, between, rfl, first, ahead⟩
  · intro budget failed
    rw [outcome] at failed
    cases result with
    | ok responses => cases failed
    | error error =>
      cases failed
      obtain ⟨earlier, deed, rfl, _, failing⟩ := ends
      have timed := timed_of_steps course deed (List.mem_append_right _ (List.mem_singleton_self deed))
      exact timeline.out_of_time start timed failing
  · rintro earlier answer rest early between deadline rfl first held expired
    have failed := timeline.expired first held expired
    obtain ⟨nothing, error⟩ := ends.of_failed (congrArg Deed.failure? (congrArg Deed.checked failed))
    rw [outcome, error]
    exact ⟨nothing, rfl⟩

end Runs

def haste : Catalogue Unit Unit := fun _ =>
  { Behaviour.plain none () with
    invoke := fun _ _ => do
      let _ ← MethodScript.setDeadline 5
      let _ ← MethodScript.setDeadline 9
      return .ok .null }

def hasteStep : Step :=
  ⟨⟨.build (some ⟨0, "Haste"⟩) OrderedMap.empty "start" true, OrderedMap.empty, none⟩,
    OrderedMap.empty⟩

def hasteRun (pause : Nat) : Except DispatchError DispatchOutcome :=
  (Pipeline.run haste .blank (⟨[], [hasteStep]⟩, { World.start () with clock := ⟨0, [0, 1, pause]⟩ })).1

example : hasteRun 3 = .ok ⟨[.null], OrderedMap.empty⟩ ∧ hasteRun 4 = .error (.timeout 5) := by
  decide +kernel

end EventPipeline
