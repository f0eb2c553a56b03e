import EventPipeline.Proofs.Effect.Twin
import EventPipeline.Proofs.World.Passive

/-! Two runs at different times.

A run that starts later than another by some delay, with the same pauses, sees every reading of the clock
that much later and every deadline as well. How much time remains, whether a deadline has passed and which
of two comes first are then the same in both. So a method that looks at its own instance, at its arguments
and at the context, and at times only through what remains of them, comes to the same in both. -/

namespace EventPipeline

open Json

variable {σ υ ε α : Type} {delay : Int}

/-! ### Clocks and deadlines -/

structure Clock.Apart (delay : Int) (earlier later : Clock) : Prop where
  now : (later.now : Int) = earlier.now + delay
  pauses : later.pauses = earlier.pauses

structure Deadline.Apart (delay : Int) (earlier later : Deadline) : Prop where
  expiry : (later.expiry : Int) = earlier.expiry + delay
  budget : later.budget = earlier.budget

structure Cutoff.Apart (delay : Int) (earlier later : Cutoff ε) : Prop where
  moment : (later.moment : Int) = earlier.moment + delay
  error : later.error = earlier.error

structure RunContext.Apart (delay : Int) (earlier later : RunContext) : Prop where
  values : later.values = earlier.values
  deadline : Option.Rel (Deadline.Apart delay) earlier.deadline later.deadline

structure RunState.Apart (delay : Int) (earlier later : RunState σ υ) : Prop where
  clock : earlier.world.clock.Apart delay later.world.clock
  context : earlier.context.Apart delay later.context

theorem Clock.Apart.refl (clock : Clock) : clock.Apart 0 clock := ⟨(Int.add_zero _).symm, rfl⟩

namespace Clock.Apart

variable {earlier later : Clock}

theorem read (apart : earlier.Apart delay later) : earlier.read.Apart delay later.read := by
  obtain ⟨now, pauses⟩ := apart
  obtain ⟨early, _ | ⟨pause, rest⟩⟩ := earlier
  · obtain ⟨late, _⟩ := later
    cases pauses
    exact ⟨now, rfl⟩
  · obtain ⟨late, _⟩ := later
    cases pauses
    refine ⟨?_, rfl⟩
    simp only [Clock.read] at now ⊢
    omega

theorem pass (apart : earlier.Apart delay later) (duration : Nat) :
    (earlier.pass duration).Apart delay (later.pass duration) := by
  refine ⟨?_, apart.pauses⟩
  have now := apart.now
  simp only [Clock.pass]
  omega

theorem reach (apart : earlier.Apart delay later) {moment other : Nat}
    (moments : (other : Int) = moment + delay) :
    (earlier.reach moment).Apart delay (later.reach other) := by
  refine ⟨?_, apart.pauses⟩
  have now := apart.now
  simp only [Clock.reach]
  omega

end Clock.Apart

namespace Deadline.Apart

variable {earlier later : Deadline} {clock other : Clock}

theorem after (clocks : clock.Apart delay other) (budget : Nat) :
    (Deadline.after clock.now budget).Apart delay (Deadline.after other.now budget) := by
  refine ⟨?_, rfl⟩
  have now := clocks.now
  simp only [Deadline.after]
  omega

theorem remaining_eq (apart : earlier.Apart delay later) (clocks : clock.Apart delay other) :
    later.remaining other.now = earlier.remaining clock.now := by
  have expiry := apart.expiry
  have now := clocks.now
  simp only [Deadline.remaining]
  omega

theorem isExpired_eq (apart : earlier.Apart delay later) (clocks : clock.Apart delay other) :
    later.isExpired other.now = earlier.isExpired clock.now := by
  have expiry := apart.expiry
  have now := clocks.now
  simp only [Deadline.isExpired, decide_eq_decide]
  omega

theorem keepEarlier (apart : earlier.Apart delay later) {held other : Option Deadline}
    (already : Option.Rel (Deadline.Apart delay) held other) :
    (Deadline.keepEarlier held earlier).Apart delay (Deadline.keepEarlier other later) := by
  cases already with
  | none => exact apart
  | @some first second before =>
    have order : second.expiry ≤ later.expiry ↔ first.expiry ≤ earlier.expiry := by
      have one := before.expiry
      have two := apart.expiry
      omega
    simp only [Deadline.keepEarlier, order]
    split
    · exact before
    · exact apart

end Deadline.Apart

namespace RunContext.Apart

variable {earlier later : RunContext}

theorem empty (delay : Int) : RunContext.empty.Apart delay .empty := ⟨rfl, .none⟩

theorem insert (apart : earlier.Apart delay later) (key : String) (value : Value) :
    (earlier.insert key value).Apart delay (later.insert key value) :=
  ⟨congrArg (·.insert key value) apart.values, apart.deadline⟩

theorem remove (apart : earlier.Apart delay later) (key : String) :
    (earlier.remove key).Apart delay (later.remove key) :=
  ⟨congrArg (·.erase key) apart.values, apart.deadline⟩

end RunContext.Apart

theorem cutoffOf_apart {deadline other : Option Deadline} {clock later : Clock}
    (deadlines : Option.Rel (Deadline.Apart delay) deadline other) (clocks : clock.Apart delay later) :
    Option.Rel (Cutoff.Apart delay) (cutoffOf deadline clock).1 (cutoffOf other later).1 ∧
      (cutoffOf deadline clock).2.Apart delay (cutoffOf other later).2 := by
  cases deadlines with
  | none => exact ⟨.none, clocks⟩
  | @some first second apart =>
    have started := clocks.read.read
    refine ⟨.some ⟨?_, congrArg DispatchError.timeout apart.budget⟩, started⟩
    have now := started.now
    simp only [apart.remaining_eq clocks.read]
    omega

/-! ### What takes time -/

namespace RunState.Apart

variable {earlier later : RunState σ υ}

theorem changeClock (apart : earlier.Apart delay later) {clock other : Clock}
    (clocks : clock.Apart delay other) :
    (earlier.changeClock clock).Apart delay (later.changeClock other) :=
  ⟨clocks, apart.context⟩

theorem waitWithin (apart : earlier.Apart delay later) {cutoff other : Option (Cutoff ε)}
    (cutoffs : Option.Rel (Cutoff.Apart delay) cutoff other) (duration : Nat) :
    ∃ outcome clock beside, EventPipeline.waitWithin cutoff duration earlier =
        (outcome, earlier.changeClock clock) ∧
      EventPipeline.waitWithin other duration later = (outcome, later.changeClock beside) ∧
      clock.Apart delay beside := by
  cases cutoffs with
  | none => exact ⟨.ok (), _, _, rfl, rfl, apart.clock.pass duration⟩
  | @some limit twin limits =>
    have rung := (apart.clock.reach limits.moment).read
    have order : (later.world.clock.reach twin.moment).read.now < later.world.clock.now + duration ↔
        (earlier.world.clock.reach limit.moment).read.now < earlier.world.clock.now + duration := by
      have one := rung.now
      have two := apart.clock.now
      omega
    simp only [EventPipeline.waitWithin, order, limits.error]
    split
    · exact ⟨_, _, _, rfl, rfl, rung⟩
    · exact ⟨_, _, _, rfl, rfl, (apart.clock.pass duration).now, rung.pauses⟩

theorem checkDeadline (apart : earlier.Apart delay later) :
    ∃ outcome clock beside, EventPipeline.checkDeadline earlier = (outcome, earlier.changeClock clock) ∧
      EventPipeline.checkDeadline later = (outcome, later.changeClock beside) ∧
      clock.Apart delay beside := by
  unfold EventPipeline.checkDeadline
  match earlier.context.deadline, later.context.deadline, apart.context.deadline with
  | none, none, _ => exact ⟨.ok (), _, _, rfl, rfl, apart.clock⟩
  | some first, some second, .some deadlines =>
    have clocks := apart.clock.read
    simp only [deadlines.isExpired_eq clocks, deadlines.budget]
    split
    · exact ⟨_, _, _, rfl, rfl, clocks⟩
    · exact ⟨_, _, _, rfl, rfl, clocks⟩

end RunState.Apart

/-! ### Methods -/

def MethodRequest.Common : MethodRequest σ υ → Prop
  | .own .shared => False
  | .setDeadline _ => False
  | .deadline => False
  | _ => True

/-- Scripts of two runs of one method. They make the same requests and go on alike; what they are told of
deadlines differs by the delay, what user code shares may differ at will, and so may what they make of it:
what they share themselves and what they log. -/
inductive MethodScript.Alike (delay : Int) : MethodScript σ υ α → MethodScript σ υ α → Prop where
  | done (value : α) : Alike delay (.done value) (.done value)
  | common (request : MethodRequest σ υ) {next later : request.Answer → MethodScript σ υ α}
      (common : request.Common) (alike : ∀ answer, Alike delay (next answer) (later answer)) :
      Alike delay (.ask request next) (.ask request later)
  | setDeadline (budget : Nat) {next later : Deadline → MethodScript σ υ α}
      (alike : ∀ one other, one.Apart delay other → Alike delay (next one) (later other)) :
      Alike delay (.ask (.setDeadline budget) next) (.ask (.setDeadline budget) later)
  | deadline {next later : Option Deadline → MethodScript σ υ α}
      (alike : ∀ one other, Option.Rel (Deadline.Apart delay) one other →
        Alike delay (next one) (later other)) :
      Alike delay (.ask .deadline next) (.ask .deadline later)
  | shared {next later : υ → MethodScript σ υ α}
      (alike : ∀ one other, Alike delay (next one) (later other)) :
      Alike delay (.ask (.own .shared) next) (.ask (.own .shared) later)
  | setShared (one other : υ) {next later : Unit → MethodScript σ υ α}
      (alike : Alike delay (next ()) (later ())) :
      Alike delay (.ask (.own (.setShared one)) next) (.ask (.own (.setShared other)) later)
  | log (one other : LogEntry) {next later : Unit → MethodScript σ υ α}
      (alike : Alike delay (next ()) (later ())) :
      Alike delay (.ask (.own (.log one)) next) (.ask (.own (.log other)) later)

theorem World.Has.changeOwn {world : World σ υ} {id : InstanceId} {held : Instance σ}
    (has : world.Has id held) (change : Instance σ → Instance σ) :
    (world.changeInstance id change).Has id (change held) := by
  have changed : (world.instances.modify id change)[id]? = some (change held) := by
    rw [List.getElem?_modify_eq]
    exact congrArg (Option.map change) has
  exact changed

/-- Two instances hold the same, in runs that are apart by a delay. -/
def RunState.Holding (delay : Int) (id twin : InstanceId) (run later : RunState σ υ) : Prop :=
  ∃ held, run.world.Has id held ∧ later.world.Has twin held ∧ run.Apart delay later

section Methods

variable [Inhabited σ]

/-- What a method answers or fails with, what it leaves in the context and how much time it takes depend on
what its instance holds, on its arguments and on the context alone. -/
def Functional (catalogue : Catalogue σ υ) (type : TypeToken) (method : String) : Prop :=
  ∀ (delay : Int) (held : Instance σ) (slots : Slots) (cutoff other : Option (Cutoff DispatchError))
    (target twin : InstanceId) (run later : RunState σ υ), held.type = type →
    run.world.Has target held → later.world.Has twin held →
    Option.Rel (Cutoff.Apart delay) cutoff other → run.Apart delay later →
    (invokeWithin catalogue cutoff target method slots run).1 =
        (invokeWithin catalogue other twin method slots later).1 ∧
      (invokeWithin catalogue cutoff target method slots run).2.Apart delay
        (invokeWithin catalogue other twin method slots later).2

variable {cutoff other : Option (Cutoff ε)} {id twin : InstanceId}

theorem answerMethod_twin (cutoffs : Option.Rel (Cutoff.Apart delay) cutoff other)
    {request : MethodRequest σ υ} (common : request.Common) :
    Action.Twin (RunState.Holding delay id twin) (answerMethod cutoff id request)
      (answerMethod other twin request) := by
  rintro run later ⟨held, has, also, apart⟩
  cases request with
  | own request =>
    cases request with
    | properties =>
      refine ⟨.ok held.properties, _, _, ?_, ?_, held, has, also, apart⟩
      · exact congrArg (fun found : Instance σ => (Except.ok found.properties, run)) has.instanceAt
      · exact congrArg (fun found : Instance σ => (Except.ok found.properties, later)) also.instanceAt
    | setProperty key value =>
      exact ⟨.ok (), _, _, rfl, rfl, _, has.changeOwn _, also.changeOwn _, apart.clock,
        apart.context⟩
    | state =>
      refine ⟨.ok held.state, _, _, ?_, ?_, held, has, also, apart⟩
      · exact congrArg (fun found : Instance σ => (Except.ok found.state, run)) has.instanceAt
      · exact congrArg (fun found : Instance σ => (Except.ok found.state, later)) also.instanceAt
    | setState state => exact ⟨.ok (), _, _, rfl, rfl, _, has.changeOwn _, also.changeOwn _, apart.clock,
        apart.context⟩
    | shared => exact common.elim
    | setShared shared => exact ⟨.ok (), _, _, rfl, rfl, held, has, also, apart.clock, apart.context⟩
    | log entry => exact ⟨.ok (), _, _, rfl, rfl, held, has, also, apart.clock, apart.context⟩
  | insert key value =>
    refine ⟨.ok (run.context.values.get? key), _, later.changeContext (later.context.insert key value), rfl,
      ?_, held, has, also, apart.clock, apart.context.insert key value⟩
    rw [← apart.context.values]
    rfl
  | remove key =>
    refine ⟨.ok (run.context.values.get? key), _, later.changeContext (later.context.remove key), rfl,
      ?_, held, has, also, apart.clock, apart.context.remove key⟩
    rw [← apart.context.values]
    rfl
  | values =>
    refine ⟨.ok run.context.values, _, _, rfl, ?_, held, has, also, apart⟩
    rw [← apart.context.values]
    rfl
  | setDeadline budget => exact common.elim
  | deadline => exact common.elim
  | wait duration =>
    obtain ⟨outcome, clock, beside, ran, reran, clocks⟩ := apart.waitWithin cutoffs duration
    exact ⟨outcome, _, _, ran, reran, held, has, also, apart.changeClock clocks⟩

theorem MethodScript.Alike.run_twin (cutoffs : Option.Rel (Cutoff.Apart delay) cutoff other)
    {script rescript : MethodScript σ υ α} (alike : MethodScript.Alike delay script rescript) :
    Action.Twin (RunState.Holding delay id twin) (script.run (answerMethod cutoff id))
      (rescript.run (answerMethod other twin)) := by
  induction alike with
  | done value => exact Action.Twin.pure value
  | common request common _ ih => exact (answerMethod_twin cutoffs common).bind ih
  | setDeadline budget _ ih =>
    rintro run later ⟨held, has, also, apart⟩
    have clocks := apart.clock.read
    have deadlines := (Deadline.Apart.after clocks budget).keepEarlier apart.context.deadline
    exact ih _ _ deadlines _ _
      ⟨held, has, also, clocks, apart.context.values, .some deadlines⟩
  | deadline _ ih =>
    rintro run later ⟨held, has, also, apart⟩
    exact ih _ _ apart.context.deadline run later ⟨held, has, also, apart⟩
  | shared _ ih =>
    rintro run later ⟨held, has, also, apart⟩
    exact ih _ _ run later ⟨held, has, also, apart⟩
  | setShared one other _ ih =>
    rintro run later ⟨held, has, also, apart⟩
    exact ih _ _ ⟨held, has, also, apart.clock, apart.context⟩
  | log one other _ ih =>
    rintro run later ⟨held, has, also, apart⟩
    exact ih _ _ ⟨held, has, also, apart.clock, apart.context⟩

theorem functional_of_alike {catalogue : Catalogue σ υ} {type : TypeToken} {method : String}
    (alike : ∀ delay slots, MethodScript.Alike delay ((catalogue type).invoke method slots)
      ((catalogue type).invoke method slots)) : Functional catalogue type method := by
  rintro delay held slots cutoff other target twin run later rfl has also cutoffs apart
  have came := (alike delay slots).run_twin cutoffs run later ⟨held, has, also, apart⟩
  obtain ⟨outcome, after, behind, ran, reran, _, _, _, still⟩ := came
  unfold invokeWithin
  rw [has.instanceAt, also.instanceAt, ran, reran]
  exact ⟨rfl, still⟩

end Methods

end EventPipeline
