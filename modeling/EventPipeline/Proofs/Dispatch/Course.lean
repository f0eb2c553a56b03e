import Mathlib.Data.List.Forall2
import EventPipeline.Dispatcher

/-! The course of a dispatch.

What a dispatch does to its surroundings is a list of deeds: filters and extractors are asked, the
clock is read, instances are obtained, methods are invoked. Two things are said of such a list, apart
from each other. It is performed when every deed happens in the state that the deeds before it have
left. It is in order when it goes through pipelines, filters, steps and extractors as they stand in the
dispatcher, and stops where something fails. -/

namespace EventPipeline

open Json

variable {σ υ α β γ δ : Type}

/-- One deed, with what came of it. -/
inductive Deed where
  | asked (filter : InstanceId) (answer : Except Cause Bool)
  | opened
  | extracted (index : Nat) (extractor : InstanceId) (answer : Except Cause Value)
  | timed (cutoff : Option (Cutoff DispatchError))
  | obtained (unit : ActivationUnit) (answer : Except FactoryError InstanceId)
      (used : ActivationUnit)
  | invoked (entry : MiddlewareDocument) (target : InstanceId) (slots : Slots)
      (cutoff : Option (Cutoff DispatchError)) (answer : Except DispatchError (Except InvokeError Value))
  | checked (answer : Except DispatchError Unit)
  | closed (values : Object)

namespace Deed

/-- The failure of the dispatch that this deed amounts to. -/
def failure? : Deed → Option DispatchError
  | .asked _ (.error cause) => some (.filter cause)
  | .extracted index _ (.error cause) => some (.extraction index cause)
  | .obtained _ (.error error) _ => some (.activation (.ofFactory error))
  | .invoked _ _ _ _ (.error error) => some error
  | .invoked _ _ _ _ (.ok (.error error)) => some (.activation (.invoke error))
  | .checked (.error error) => some error
  | _ => none

def response? : Deed → Option Value
  | .invoked _ _ _ _ (.ok (.ok value)) => some value
  | _ => none

def refusal (filter : InstanceId) : Deed := .asked filter (.ok false)

variable [Inhabited σ]

def Leads (catalogue : Catalogue σ υ) (event : Event) (before : RunState σ υ) :
    Deed → RunState σ υ → Prop
  | .asked filter answer, after =>
      RunState.onWorld (accepts catalogue filter event) before = (answer, after)
  | .opened, after => after = before.changeContext .empty
  | .extracted _ extractor answer, after =>
      RunState.onWorld (extract catalogue extractor event) before = (answer, after)
  | .timed cutoff, after =>
      ∃ clock, cutoffOf before.context.deadline before.world.clock = (cutoff, clock) ∧
        after = before.changeClock clock
  | .obtained unit answer used, after =>
      ∃ world, ActivationUnit.obtain catalogue (unit, before.world) = (answer, (used, world)) ∧
        after = { before with world }
  | .invoked entry target slots cutoff answer, after =>
      invokeWithin catalogue cutoff target entry.activation.method slots before = (answer, after)
  | .checked answer, after => checkDeadline before = (answer, after)
  | .closed values, after => values = before.context.values ∧ after = before

end Deed

/-- Every deed leads from the state that the deeds before it have left to that of the deeds after
it. -/
inductive Performed [Inhabited σ] (catalogue : Catalogue σ υ) (event : Event) :
    RunState σ υ → List Deed → RunState σ υ → Prop where
  | nothing (state : RunState σ υ) : Performed catalogue event state [] state
  | deed {before between after : RunState σ υ} {deed : Deed} {rest : List Deed}
      (first : deed.Leads catalogue event before between)
      (later : Performed catalogue event between rest after) :
      Performed catalogue event before (deed :: rest) after

/-! ### Order -/

/-- The members of a filter entry are asked in order, up to the first that accepts or fails. -/
inductive Asking : List InstanceId → List Deed → Except DispatchError Bool → Prop where
  | accepted (refusing : List InstanceId) (filter : InstanceId) (unasked : List InstanceId) :
      Asking (refusing ++ filter :: unasked)
        (refusing.map Deed.refusal ++ [.asked filter (.ok true)]) (.ok true)
  | refused (refusing : List InstanceId) :
      Asking refusing (refusing.map Deed.refusal) (.ok false)
  | failed (refusing : List InstanceId) (filter : InstanceId) (unasked : List InstanceId)
      (cause : Cause) :
      Asking (refusing ++ filter :: unasked)
        (refusing.map Deed.refusal ++ [.asked filter (.error cause)]) (.error (.filter cause))

/-- Filter entries are gone through in order, up to the first without an accepting member. -/
inductive Matching : List (OneOrMany InstanceId) → List Deed → Except DispatchError Bool → Prop where
  | matched : Matching [] [] (.ok true)
  | accepted {entry : OneOrMany InstanceId} {rest : List (OneOrMany InstanceId)}
      {deeds more : List Deed} {result : Except DispatchError Bool}
      (first : Asking entry.toList deeds (.ok true)) (later : Matching rest more result) :
      Matching (entry :: rest) (deeds ++ more) result
  | unmatched {entry : OneOrMany InstanceId} {rest : List (OneOrMany InstanceId)} {deeds : List Deed}
      (first : Asking entry.toList deeds (.ok false)) : Matching (entry :: rest) deeds (.ok false)
  | failed {entry : OneOrMany InstanceId} {rest : List (OneOrMany InstanceId)} {deeds : List Deed}
      {error : DispatchError} (first : Asking entry.toList deeds (.error error)) :
      Matching (entry :: rest) deeds (.error error)

/-- The elements of a list are gone through in order, up to the first that fails; those behind it are
left as they were. -/
inductive InTurn (Part : α → List Deed → Except DispatchError β → α → Prop) :
    List α → List Deed → Except DispatchError (List β) → List α → Prop where
  | done : InTurn Part [] [] (.ok []) []
  | next {element after : α} {rest others : List α} {deeds more : List Deed} {value : β}
      {result : Except DispatchError (List β)} (first : Part element deeds (.ok value) after)
      (later : InTurn Part rest more result others) :
      InTurn Part (element :: rest) (deeds ++ more) (result.map (value :: ·)) (after :: others)
  | failed {element after : α} {rest : List α} {deeds : List Deed} {error : DispatchError}
      (first : Part element deeds (.error error) after) :
      InTurn Part (element :: rest) deeds (.error error) (after :: rest)

inductive Extraction (index : Nat) :
    InstanceId → List Deed → Except DispatchError Value → InstanceId → Prop where
  | asked (extractor : InstanceId) (answer : Except Cause Value) :
      Extraction index extractor [.extracted index extractor answer]
        (answer.mapError (.extraction index)) extractor

/-- The extractors of one parameter: a single one gives its value, a composition the array of its
values. -/
inductive Filling : UInt64 × OneOrMany InstanceId → List Deed → Except DispatchError (UInt64 × Value) →
    UInt64 × OneOrMany InstanceId → Prop where
  | one {index : UInt64} {extractor : InstanceId} {deeds : List Deed}
      {result : Except DispatchError Value}
      (course : Extraction index.toNat extractor deeds result extractor) :
      Filling (index, .one extractor) deeds (result.map (index, ·)) (index, .one extractor)
  | many {index : UInt64} {extractors : List InstanceId} {deeds : List Deed}
      {result : Except DispatchError (List Value)}
      (course : InTurn (Extraction index.toNat) extractors deeds result extractors) :
      Filling (index, .many extractors) deeds
        (result.map fun values => (index, .array values)) (index, .many extractors)

/-- Values in the slots of their parameters; a slot without a value stays empty. -/
def Slots.place (arity : Nat) (values : List (UInt64 × Value)) : Slots :=
  (List.range arity).map fun index => values.lookup (UInt64.ofNat index)

/-- The extractors that a step gets to: those that stand below its arity. -/
def Step.reached (step : Step) : List (UInt64 × OneOrMany InstanceId) :=
  step.extractors.entries.filter fun entry =>
    decide (entry.1.toNat < step.document.arity.toNat)

def Step.keep (step : Step) (activation : ActivationUnit) : Step :=
  { step with document := { step.document with activation } }

/-- The instance of a step is obtained and its method invoked, under the deadline of the run. A unit
that is used stays the unit that was built. -/
inductive Activation (slots : Slots) :
    Step → List Deed → Except DispatchError Value → Step → Prop where
  | unobtained {step : Step} {used : ActivationUnit} (cutoff : Option (Cutoff DispatchError))
      (error : FactoryError) (alike : used.fresh = step.document.activation.fresh) :
      Activation slots step [.timed cutoff, .obtained step.document.activation (.error error) used]
        (.error (.activation (.ofFactory error))) (step.keep used)
  | cutOff {step : Step} {used : ActivationUnit} (cutoff : Option (Cutoff DispatchError))
      (target : InstanceId) (error : DispatchError)
      (alike : used.fresh = step.document.activation.fresh) :
      Activation slots step
        [.timed cutoff, .obtained step.document.activation (.ok target) used,
          .invoked step.document target slots cutoff (.error error)]
        (.error error) (step.keep used)
  | failed {step : Step} {used : ActivationUnit} (cutoff : Option (Cutoff DispatchError))
      (target : InstanceId) (error : InvokeError)
      (alike : used.fresh = step.document.activation.fresh) :
      Activation slots step
        [.timed cutoff, .obtained step.document.activation (.ok target) used,
          .invoked step.document target slots cutoff (.ok (.error error))]
        (.error (.activation (.invoke error))) (step.keep used)
  | returned {step : Step} {used : ActivationUnit} (cutoff : Option (Cutoff DispatchError))
      (target : InstanceId) (value : Value)
      (alike : used.fresh = step.document.activation.fresh) :
      Activation slots step
        [.timed cutoff, .obtained step.document.activation (.ok target) used,
          .invoked step.document target slots cutoff (.ok (.ok value))]
        (.ok value) (step.keep used)

/-- A step asks the extractors it gets to, by ascending index. Only then its instance is obtained and its
method invoked, and last of all the deadline is checked. -/
inductive StepCourse : Step → List Deed → Except DispatchError Value → Step → Prop where
  | unextracted {step : Step} {deeds : List Deed} {error : DispatchError}
      (extraction : InTurn Filling step.reached deeds (.error error) step.reached) :
      StepCourse step deeds (.error error) step
  | failed {step used : Step} {deeds more : List Deed} {values : List (UInt64 × Value)}
      {error : DispatchError}
      (extraction : InTurn Filling step.reached deeds (.ok values) step.reached)
      (activation : Activation (.place step.document.arity.toNat values) step more (.error error)
        used) :
      StepCourse step (deeds ++ more) (.error error) used
  | checked {step used : Step} {deeds more : List Deed} {values : List (UInt64 × Value)}
      {value : Value} (check : Except DispatchError Unit)
      (extraction : InTurn Filling step.reached deeds (.ok values) step.reached)
      (activation : Activation (.place step.document.arity.toNat values) step more (.ok value)
        used) :
      StepCourse step (deeds ++ (more ++ [.checked check])) (check.map fun _ => value) used

/-- A pipeline whose filters do not all accept does nothing more; else its steps run in order, in a
context of their own. -/
inductive PipelineCourse :
    Pipeline → List Deed → Except DispatchError (Option DispatchOutcome) → Pipeline → Prop where
  | unasked {pipeline : Pipeline} {deeds : List Deed} {error : DispatchError}
      (filters : Matching pipeline.filters deeds (.error error)) :
      PipelineCourse pipeline deeds (.error error) pipeline
  | passed {pipeline : Pipeline} {deeds : List Deed}
      (filters : Matching pipeline.filters deeds (.ok false)) :
      PipelineCourse pipeline deeds (.ok none) pipeline
  | failed {pipeline : Pipeline} {deeds more : List Deed} {error : DispatchError}
      {steps : List Step} (filters : Matching pipeline.filters deeds (.ok true))
      (run : InTurn StepCourse pipeline.steps more (.error error) steps) :
      PipelineCourse pipeline (deeds ++ .opened :: more) (.error error) { pipeline with steps }
  | ran {pipeline : Pipeline} {deeds more : List Deed} {responses : List Value} {steps : List Step}
      (values : Object) (filters : Matching pipeline.filters deeds (.ok true))
      (run : InTurn StepCourse pipeline.steps more (.ok responses) steps) :
      PipelineCourse pipeline (deeds ++ .opened :: (more ++ [.closed values]))
        (.ok (some ⟨responses, values⟩)) { pipeline with steps }

/-- The trace of a dispatch: performed from the world at its start, in the order of the dispatcher.
The outcomes are those of the pipelines that have one. -/
structure Dispatcher.Course [Inhabited σ] (catalogue : Catalogue σ υ) (event : Event)
    (dispatcher : Dispatcher) (world : World σ υ) (trace : List Deed)
    (offers : Except DispatchError (List (Option DispatchOutcome))) (used : Dispatcher)
    (final : RunState σ υ) : Prop where
  performed : Performed catalogue event ⟨world, .empty⟩ trace final
  order : InTurn PipelineCourse dispatcher.pipelines trace offers used.pipelines

/-! ### What is gone through in turn -/

namespace InTurn

variable {Part : α → List Deed → Except DispatchError β → α → Prop} {elements others : List α}
  {deeds : List Deed} {result : Except DispatchError (List β)}

theorem related (course : InTurn Part elements deeds result others) {R : α → β → Prop}
    (each : ∀ element deeds value after, Part element deeds (.ok value) after → R element value) :
    ∀ values, result = .ok values → List.Forall₂ R elements values := by
  induction course with
  | done =>
    intro values same
    cases same
    exact .nil
  | @next element after rest others deeds more value result first later ih =>
    intro values same
    cases result with
    | error error => cases same
    | ok found =>
      cases same
      exact .cons (each element deeds value after first) (ih found rfl)
  | failed first =>
    intro values same
    cases same

theorem map_eq (course : InTurn Part elements deeds result others) {f : α → γ}
    (each : ∀ element deeds result after, Part element deeds result after → f after = f element) :
    others.map f = elements.map f := by
  induction course with
  | done => rfl
  | next first _ ih => rw [List.map_cons, List.map_cons, each _ _ _ _ first, ih]
  | failed first => rw [List.map_cons, List.map_cons, each _ _ _ _ first]

theorem every {P : Deed → Prop} (course : InTurn Part elements deeds result others)
    (each : ∀ element ∈ elements, ∀ deeds result after, Part element deeds result after →
      ∀ deed ∈ deeds, P deed) :
    ∀ deed ∈ deeds, P deed := by
  induction course with
  | done => exact fun _ member => (List.not_mem_nil member).elim
  | next first _ ih =>
    intro deed member
    rcases List.mem_append.mp member with here | later
    · exact each _ (List.mem_cons_self ..) _ _ _ first deed here
    · exact ih (fun element among => each element (List.mem_cons_of_mem _ among)) deed later
  | failed first => exact each _ (List.mem_cons_self ..) _ _ _ first

theorem gathered {view : Deed → Option γ} {shown : β → List γ}
    (course : InTurn Part elements deeds result others)
    (each : ∀ element deeds value after, Part element deeds (.ok value) after →
      deeds.filterMap view = shown value) :
    ∀ values, result = .ok values → deeds.filterMap view = values.flatMap shown := by
  induction course with
  | done =>
    intro values same
    cases same
    rfl
  | @next element after rest others deeds more value result first later ih =>
    intro values same
    cases result with
    | error error => cases same
    | ok found =>
      cases same
      rw [List.filterMap_append, each element deeds value after first, ih found rfl,
        List.flatMap_cons]
  | failed first =>
    intro values same
    cases same

theorem gathered_along {S : δ → α → Prop} {Fits : Deed → Prop} {view : Deed → Option γ}
    {shown : δ → List γ} (course : InTurn Part elements deeds result others)
    (each : ∀ source element deeds value after, S source element → (∀ deed ∈ deeds, Fits deed) →
      Part element deeds (.ok value) after → deeds.filterMap view = shown source) :
    ∀ sources values, List.Forall₂ S sources elements → (∀ deed ∈ deeds, Fits deed) →
      result = .ok values → deeds.filterMap view = sources.flatMap shown := by
  induction course with
  | done =>
    intro sources values paired _ _
    cases paired
    rfl
  | @next element after rest others deeds more value result first later ih =>
    intro sources values paired fits same
    cases result with
    | error error => cases same
    | ok found =>
      cases paired with
      | @cons source _ sources _ here there =>
        have fitsFirst : ∀ deed ∈ deeds, Fits deed :=
          fun deed member => fits deed (List.mem_append_left _ member)
        have fitsLater : ∀ deed ∈ more, Fits deed :=
          fun deed member => fits deed (List.mem_append_right _ member)
        rw [List.filterMap_append, each source element deeds value after here fitsFirst first,
          ih sources found there fitsLater rfl, List.flatMap_cons]
  | failed first =>
    intro sources values _ _ same
    cases same

end InTurn

/-! ### What happens in a course -/

section Every

variable {P : Deed → Prop} {deeds : List Deed}

theorem Asking.every {filters : List InstanceId} {result : Except DispatchError Bool}
    (course : Asking filters deeds result)
    (asked : ∀ filter ∈ filters, ∀ answer, P (.asked filter answer)) :
    ∀ deed ∈ deeds, P deed := by
  have refusals : ∀ {refusing : List InstanceId}, refusing ⊆ filters →
      ∀ deed ∈ refusing.map Deed.refusal, P deed := by
    intro refusing among deed member
    obtain ⟨filter, early, rfl⟩ := List.mem_map.mp member
    exact asked filter (among early) _
  intro deed member
  cases course with
  | accepted refusing filter unasked =>
    rcases List.mem_append.mp member with early | last
    · exact refusals (List.subset_append_left ..) deed early
    · rw [List.mem_singleton.mp last]
      exact asked filter (List.mem_append_right _ (List.mem_cons_self ..)) _
  | refused => exact refusals (List.Subset.refl _) deed member
  | failed refusing filter unasked cause =>
    rcases List.mem_append.mp member with early | last
    · exact refusals (List.subset_append_left ..) deed early
    · rw [List.mem_singleton.mp last]
      exact asked filter (List.mem_append_right _ (List.mem_cons_self ..)) _

theorem Matching.every {entries : List (OneOrMany InstanceId)} {result : Except DispatchError Bool}
    (course : Matching entries deeds result)
    (asked : ∀ entry ∈ entries, ∀ filter ∈ entry.toList, ∀ answer, P (.asked filter answer)) :
    ∀ deed ∈ deeds, P deed := by
  induction course with
  | matched => exact fun _ member => (List.not_mem_nil member).elim
  | accepted first _ ih =>
    intro deed member
    rcases List.mem_append.mp member with here | later
    · exact first.every (asked _ (List.mem_cons_self ..)) deed here
    · exact ih (fun entry among => asked entry (List.mem_cons_of_mem _ among)) deed later
  | unmatched first => exact first.every (asked _ (List.mem_cons_self ..))
  | failed first => exact first.every (asked _ (List.mem_cons_self ..))

theorem Filling.every {entry after : UInt64 × OneOrMany InstanceId}
    {result : Except DispatchError (UInt64 × Value)} (course : Filling entry deeds result after)
    (extracted : ∀ index extractor answer, P (.extracted index extractor answer)) :
    ∀ deed ∈ deeds, P deed := by
  have asking : ∀ {index extractor deeds result after}, Extraction index extractor deeds result after →
      ∀ deed ∈ deeds, P deed := by
    intro index extractor deeds result after course deed member
    cases course with
    | asked answer =>
      rw [List.mem_singleton.mp member]
      exact extracted index extractor answer
  cases course with
  | one course => exact asking course
  | many course => exact course.every fun _ _ _ _ _ => asking

theorem Activation.every {slots : Slots} {step used : Step} {result : Except DispatchError Value}
    (course : Activation slots step deeds result used) (timed : ∀ cutoff, P (.timed cutoff))
    (obtained : ∀ answer used, P (.obtained step.document.activation answer used))
    (invoked : ∀ target slots cutoff answer,
      P (.invoked step.document target slots cutoff answer)) :
    ∀ deed ∈ deeds, P deed := by
  cases course <;> simp [timed, obtained, invoked]

theorem StepCourse.every {step used : Step} {result : Except DispatchError Value}
    (course : StepCourse step deeds result used)
    (extracted : ∀ index extractor answer, P (.extracted index extractor answer))
    (timed : ∀ cutoff, P (.timed cutoff))
    (obtained : ∀ answer used, P (.obtained step.document.activation answer used))
    (invoked : ∀ target slots cutoff answer,
      P (.invoked step.document target slots cutoff answer))
    (checked : ∀ answer, P (.checked answer)) :
    ∀ deed ∈ deeds, P deed := by
  have extracting : ∀ {deeds result}, InTurn Filling step.reached deeds result step.reached →
      ∀ deed ∈ deeds, P deed :=
    fun extraction => extraction.every fun _ _ _ _ _ filling => filling.every extracted
  intro deed member
  cases course with
  | unextracted extraction => exact extracting extraction deed member
  | failed extraction activation =>
    rcases List.mem_append.mp member with early | late
    · exact extracting extraction deed early
    · exact activation.every timed obtained invoked deed late
  | checked check extraction activation =>
    rcases List.mem_append.mp member with early | late
    · exact extracting extraction deed early
    · rcases List.mem_append.mp late with acting | last
      · exact activation.every timed obtained invoked deed acting
      · rw [List.mem_singleton.mp last]
        exact checked check

theorem PipelineCourse.every {pipeline used : Pipeline}
    {result : Except DispatchError (Option DispatchOutcome)}
    (course : PipelineCourse pipeline deeds result used)
    (asked : ∀ entry ∈ pipeline.filters, ∀ filter ∈ entry.toList, ∀ answer,
      P (.asked filter answer))
    (opened : P .opened) (closed : ∀ values, P (.closed values))
    (stepped : ∀ step ∈ pipeline.steps, ∀ deeds result used, StepCourse step deeds result used →
      ∀ deed ∈ deeds, P deed) :
    ∀ deed ∈ deeds, P deed := by
  intro deed member
  cases course with
  | unasked filters => exact filters.every asked deed member
  | passed filters => exact filters.every asked deed member
  | failed filters run =>
    rcases List.mem_append.mp member with asking | later
    · exact filters.every asked deed asking
    · rcases List.mem_cons.mp later with rfl | inside
      · exact opened
      · exact run.every stepped deed inside
  | ran values filters run =>
    rcases List.mem_append.mp member with asking | later
    · exact filters.every asked deed asking
    · rcases List.mem_cons.mp later with rfl | inside
      · exact opened
      · rcases List.mem_append.mp inside with acting | last
        · exact run.every stepped deed acting
        · rw [List.mem_singleton.mp last]
          exact closed values

end Every

end EventPipeline
