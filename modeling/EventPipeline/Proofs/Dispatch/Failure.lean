import EventPipeline.Builtin.Filters
import EventPipeline.Proofs.Dispatch.Live

/-! Where a dispatch ends.

A dispatch that fails ends with the deed that has failed, and reports its failure; one that succeeds
has had no failure at all. Then every pipeline that matched has an outcome, with what each of its
steps has returned. -/

namespace EventPipeline

open Json

variable {α β γ σ υ : Type}

/-- Of the deeds that a result comes from, none has failed before the last, and the last has failed
just when the result is a failure, which is then the same. -/
def Conclusive (deeds : List Deed) : Except DispatchError β → Prop
  | .ok _ => ∀ deed ∈ deeds, deed.failure? = none
  | .error error => ∃ earlier last, deeds = earlier ++ [last] ∧
      (∀ deed ∈ earlier, deed.failure? = none) ∧ last.failure? = some error

namespace Conclusive

theorem map {deeds : List Deed} {result : Except DispatchError β} (f : β → γ)
    (ends : Conclusive deeds result) : Conclusive deeds (result.map f) := by
  cases result with
  | ok value => exact ends
  | error error => exact ends

theorem after {calm more : List Deed} {result : Except DispatchError β}
    (before : ∀ deed ∈ calm, deed.failure? = none) (ends : Conclusive more result) :
    Conclusive (calm ++ more) result := by
  cases result with
  | ok value =>
    intro deed member
    rcases List.mem_append.mp member with first | later
    · exact before deed first
    · exact ends deed later
  | error error =>
    obtain ⟨earlier, last, rfl, calmly, failing⟩ := ends
    refine ⟨calm ++ earlier, last, (List.append_assoc ..).symm, ?_, failing⟩
    intro deed member
    rcases List.mem_append.mp member with first | later
    · exact before deed first
    · exact calmly deed later

theorem cons {deed : Deed} {deeds : List Deed} {result : Except DispatchError β}
    (calm : deed.failure? = none) (ends : Conclusive deeds result) :
    Conclusive (deed :: deeds) result := by
  refine @after _ [deed] deeds result ?_ ends
  intro other member
  rw [List.mem_singleton.mp member]
  exact calm

theorem single {deed : Deed} {error : DispatchError} (failing : deed.failure? = some error) :
    Conclusive [deed] (.error error : Except DispatchError β) :=
  ⟨[], deed, rfl, fun _ member => (List.not_mem_nil member).elim, failing⟩

theorem of_failed {earlier rest : List Deed} {deed : Deed} {result : Except DispatchError β}
    {error : DispatchError} (ends : Conclusive (earlier ++ deed :: rest) result)
    (failing : deed.failure? = some error) : rest = [] ∧ result = .error error := by
  have among : deed ∈ earlier ++ deed :: rest := List.mem_append_right _ (List.mem_cons_self ..)
  cases result with
  | ok value =>
    rw [ends deed among] at failing
    cases failing
  | error other =>
    obtain ⟨calm, last, shape, calmly, failed⟩ := ends
    rcases List.eq_nil_or_concat rest with rfl | ⟨front, end_, rfl⟩
    · obtain rfl := List.singleton_inj.mp (List.append_inj_right' shape rfl)
      rw [failing] at failed
      cases failed
      exact ⟨rfl, rfl⟩
    · have whole : (earlier ++ deed :: front) ++ [end_] = calm ++ [last] := by
        rw [List.append_assoc, List.cons_append, ← List.concat_eq_append]
        exact shape
      have before := List.append_inj_left' whole rfl
      have quiet := calmly deed (before ▸ List.mem_append_right _ (List.mem_cons_self ..))
      rw [failing] at quiet
      cases quiet

theorem ok_iff {deeds : List Deed} {result : Except DispatchError β}
    (ends : Conclusive deeds result) :
    (∃ value, result = .ok value) ↔ ∀ deed ∈ deeds, deed.failure? = none := by
  cases result with
  | ok value => exact ⟨fun _ => ends, fun _ => ⟨value, rfl⟩⟩
  | error error =>
    obtain ⟨earlier, last, rfl, _, failing⟩ := ends
    constructor
    · rintro ⟨value, same⟩
      cases same
    · intro calm
      have quiet := calm last (List.mem_append_right _ (List.mem_singleton_self last))
      rw [failing] at quiet
      cases quiet

theorem error_iff {deeds : List Deed} {result : Except DispatchError β} {error : DispatchError}
    (ends : Conclusive deeds result) :
    result = .error error ↔ ∃ earlier last, deeds = earlier ++ [last] ∧
      (∀ deed ∈ earlier, deed.failure? = none) ∧ last.failure? = some error := by
  cases result with
  | ok value =>
    constructor
    · intro same
      cases same
    · rintro ⟨earlier, last, rfl, _, failing⟩
      have quiet := ends last (List.mem_append_right _ (List.mem_singleton_self last))
      rw [failing] at quiet
      cases quiet
  | error other =>
    constructor
    · intro same
      cases same
      exact ends
    · rintro ⟨earlier, last, shape, _, failing⟩
      obtain ⟨others, final, same, _, failed⟩ := ends
      rw [shape] at same
      obtain rfl := List.singleton_inj.mp (List.append_inj_right' same rfl)
      rw [failing] at failed
      cases failed
      rfl

end Conclusive

section Courses

variable {Part : α → List Deed → Except DispatchError β → α → Prop} {elements others : List α}
  {deeds : List Deed} {result : Except DispatchError (List β)}

theorem InTurn.conclusive (course : InTurn Part elements deeds result others)
    (each : ∀ element deeds result after, Part element deeds result after → Conclusive deeds result) :
    Conclusive deeds result := by
  induction course with
  | done => exact fun _ member => (List.not_mem_nil member).elim
  | @next element after rest others deeds more value result first later ih =>
    exact (ih.map (value :: ·)).after (each element deeds (.ok value) after first)
  | failed first => exact each _ _ _ _ first

end Courses

/-! ### Filters -/

theorem refusal_calm {refusing : List InstanceId} :
    ∀ deed ∈ refusing.map Deed.refusal, deed.failure? = none := by
  intro deed member
  obtain ⟨filter, _, rfl⟩ := List.mem_map.mp member
  rfl

theorem Asking.conclusive {filters : List InstanceId} {deeds : List Deed}
    {result : Except DispatchError Bool} (course : Asking filters deeds result) :
    Conclusive deeds result := by
  cases course with
  | accepted refusing filter unasked =>
    have accepting : Conclusive [.asked filter (.ok true)] (.ok true) := by
      intro deed member
      obtain rfl := List.mem_singleton.mp member
      rfl
    exact accepting.after refusal_calm
  | refused => exact refusal_calm
  | failed refusing filter unasked cause => exact (Conclusive.single rfl).after refusal_calm

theorem Matching.conclusive {entries : List (OneOrMany InstanceId)} {deeds : List Deed}
    {result : Except DispatchError Bool} (course : Matching entries deeds result) :
    Conclusive deeds result := by
  induction course with
  | matched => exact fun _ member => (List.not_mem_nil member).elim
  | accepted first _ ih => exact ih.after first.conclusive
  | unmatched first => exact first.conclusive
  | failed first => exact first.conclusive

/-! ### Extractors -/

theorem Extraction.conclusive {index : Nat} {extractor after : InstanceId} {deeds : List Deed}
    {result : Except DispatchError Value} (course : Extraction index extractor deeds result after) :
    Conclusive deeds result := by
  cases course with
  | asked answer =>
    cases answer with
    | error cause => exact Conclusive.single rfl
    | ok value =>
      intro deed member
      obtain rfl := List.mem_singleton.mp member
      rfl

theorem Filling.conclusive {entry after : UInt64 × OneOrMany InstanceId} {deeds : List Deed}
    {result : Except DispatchError (UInt64 × Value)} (course : Filling entry deeds result after) :
    Conclusive deeds result := by
  cases course with
  | one course => exact course.conclusive.map _
  | many course => exact (course.conclusive fun _ _ _ _ => Extraction.conclusive).map _

/-! ### Steps, pipelines and dispatches -/

theorem Activation.conclusive {slots : Slots} {step used : Step} {deeds : List Deed}
    {result : Except DispatchError Value} (course : Activation slots step deeds result used) :
    Conclusive deeds result := by
  cases course with
  | unobtained cutoff error alike =>
    exact ⟨[.timed cutoff], _, rfl, by simp [Deed.failure?], rfl⟩
  | cutOff cutoff target error alike =>
    exact ⟨[.timed cutoff, .obtained _ (.ok target) _], _, rfl, by simp [Deed.failure?], rfl⟩
  | failed cutoff target error alike =>
    exact ⟨[.timed cutoff, .obtained _ (.ok target) _], _, rfl, by simp [Deed.failure?], rfl⟩
  | returned cutoff target value alike =>
    intro deed member
    simp only [List.mem_cons, List.not_mem_nil, or_false] at member
    rcases member with rfl | rfl | rfl
    · rfl
    · rfl
    · rfl

theorem StepCourse.conclusive {step used : Step} {deeds : List Deed}
    {result : Except DispatchError Value} (course : StepCourse step deeds result used) :
    Conclusive deeds result := by
  cases course with
  | unextracted extraction => exact extraction.conclusive fun _ _ _ _ => Filling.conclusive
  | failed extraction activation =>
    exact activation.conclusive.after (extraction.conclusive fun _ _ _ _ => Filling.conclusive)
  | checked check extraction activation =>
    have checks : Conclusive [.checked check] check := by
      cases check with
      | error error => exact Conclusive.single rfl
      | ok _ =>
        intro deed member
        obtain rfl := List.mem_singleton.mp member
        rfl
    exact ((checks.map _).after activation.conclusive).after
      (extraction.conclusive fun _ _ _ _ => Filling.conclusive)

theorem PipelineCourse.conclusive {pipeline used : Pipeline} {deeds : List Deed}
    {result : Except DispatchError (Option DispatchOutcome)}
    (course : PipelineCourse pipeline deeds result used) : Conclusive deeds result := by
  cases course with
  | unasked filters => exact filters.conclusive
  | passed filters => exact filters.conclusive
  | failed filters run =>
    have steps := run.conclusive fun _ _ _ _ => StepCourse.conclusive
    have opened := Conclusive.cons (rfl : Deed.opened.failure? = none) steps
    exact opened.after filters.conclusive
  | @ran deeds more responses steps values filters run =>
    have closed : Conclusive [.closed values] (.ok responses) := by
      intro deed member
      obtain rfl := List.mem_singleton.mp member
      rfl
    have steps := closed.after (run.conclusive fun _ _ _ _ => StepCourse.conclusive)
    have opened := Conclusive.cons (rfl : Deed.opened.failure? = none) steps
    exact opened.after filters.conclusive

theorem StepCourse.responds {step used : Step} {deeds : List Deed} {value : Value}
    (course : StepCourse step deeds (.ok value) used) :
    deeds.filterMap Deed.response? = [value] := by
  generalize same : Except.ok value = result at course
  cases course with
  | unextracted extraction => cases same
  | failed extraction activation => cases same
  | @checked used deeds more values found check extraction activation =>
    cases check with
    | error error => cases same
    | ok _ =>
      cases same
      have silent : deeds.filterMap Deed.response? = [] := by
        rw [List.filterMap_eq_nil_iff]
        exact extraction.every fun _ _ _ _ _ filling => filling.every fun _ _ _ => rfl
      rw [List.filterMap_append, silent]
      cases activation with
      | returned cutoff target value alike => rfl

def responsesOf (offer : Option DispatchOutcome) : List Value := offer.elim [] (·.responses)

theorem PipelineCourse.responds {pipeline used : Pipeline} {deeds : List Deed}
    {offer : Option DispatchOutcome} (course : PipelineCourse pipeline deeds (.ok offer) used) :
    deeds.filterMap Deed.response? = responsesOf offer := by
  have unasked : ∀ {deeds : List Deed} {result : Except DispatchError Bool},
      Matching pipeline.filters deeds result → deeds.filterMap Deed.response? = [] := by
    intro deeds result filters
    rw [List.filterMap_eq_nil_iff]
    exact filters.every fun _ _ _ _ _ => rfl
  cases course with
  | passed filters => exact unasked filters
  | @ran deeds more responses steps values filters run =>
    have given := run.gathered (fun _ _ _ _ => StepCourse.responds) responses rfl
    rw [List.flatMap_singleton'] at given
    rw [List.filterMap_append, unasked filters]
    show (more ++ [Deed.closed values]).filterMap Deed.response? = responses
    rw [List.filterMap_append, given]
    exact List.append_nil responses

/-- An outcome has one response for every step of its pipeline. -/
def OneForEach (pipeline : Pipeline) (offer : Option DispatchOutcome) : Prop :=
  ∀ outcome, offer = some outcome → outcome.responses.length = pipeline.steps.length

theorem PipelineCourse.one_for_each {pipeline used : Pipeline} {deeds : List Deed}
    {offer : Option DispatchOutcome} (course : PipelineCourse pipeline deeds (.ok offer) used) :
    OneForEach pipeline offer := by
  intro outcome same
  cases course with
  | passed filters => cases same
  | ran values filters run =>
    cases same
    have paired := run.related (R := fun _ _ => True) (fun _ _ _ _ _ => trivial) _ rfl
    exact paired.length_eq.symm

theorem flatMap_responsesOf (offered : List (Option DispatchOutcome)) :
    offered.flatMap responsesOf = (offered.filterMap id).flatMap (·.responses) := by
  induction offered with
  | nil => rfl
  | cons offer rest ih =>
    cases offer with
    | none => exact ih
    | some outcome =>
      rw [List.flatMap_cons, ih]
      rfl

section Dispatches

variable [Inhabited σ] {catalogue : Catalogue σ υ} {documents : List PipelineDocument}

/-- Pipelines are considered in the order of their documents. For each the filters are asked, up to
the first entry that accepts nothing; when all of them accept, the steps run in the order of the
stack, extractors first. The first failure ends the dispatch and is its result; without a failure
there is an outcome for every pipeline that has matched, with a response from each of its steps. -/
theorem dispatch_in_order (bounded : ∀ document ∈ documents, document.Bounded)
    {dispatcher : Dispatcher} (live : Dispatcher.Live catalogue documents dispatcher)
    (event : Event) (world : World σ υ) :
    List.Forall₂ (Pipeline.Built Stands) (documents.map PipelineDocument.fresh)
        dispatcher.fresh.pipelines ∧
      dispatcher.Reaching ∧
      ∃ trace offers used final,
        dispatcher.Course catalogue event world trace offers used final ∧
        Dispatcher.dispatch catalogue event (dispatcher, world) =
          Dispatcher.conclude event used final.world offers ∧
        ((∃ outcomes, (Dispatcher.dispatch catalogue event (dispatcher, world)).1 = .ok outcomes) ↔
          ∀ deed ∈ trace, deed.failure? = none) ∧
        (∀ error, (Dispatcher.dispatch catalogue event (dispatcher, world)).1 = .error error ↔
          ∃ earlier last, trace = earlier ++ [last] ∧ (∀ deed ∈ earlier, deed.failure? = none) ∧
            last.failure? = some error) ∧
        ∀ outcomes, (Dispatcher.dispatch catalogue event (dispatcher, world)).1 = .ok outcomes →
          trace.filterMap Deed.response? = outcomes.flatMap (·.responses) ∧
          ∃ offered, offers = .ok offered ∧ outcomes = offered.filterMap id ∧
            List.Forall₂ OneForEach dispatcher.pipelines offered := by
  have built := live.built_fresh
  obtain ⟨trace, offers, used, final, course, outcome⟩ :=
    Dispatcher.dispatch_courses catalogue event dispatcher world
  have ends : Conclusive trace offers :=
    course.order.conclusive fun _ _ _ _ => PipelineCourse.conclusive
  have result : (Dispatcher.dispatch catalogue event (dispatcher, world)).1 =
      offers.map (·.filterMap id) := by
    rw [outcome]
    cases offers with
    | error error => rfl
    | ok offered => rfl
  have concludes := ends.map (·.filterMap id)
  refine ⟨built, Dispatcher.reaching_of_built bounded built, trace, offers, used, final, course, outcome, ?_, ?_, ?_⟩
  · rw [result]
    exact concludes.ok_iff
  · intro error
    rw [result]
    exact concludes.error_iff
  · intro outcomes same
    rw [result] at same
    cases offers with
    | error error => cases same
    | ok offered =>
      cases same
      have given := course.order.gathered (fun _ _ _ _ => PipelineCourse.responds) offered rfl
      rw [flatMap_responsesOf] at given
      exact ⟨given, offered, rfl, rfl,
        course.order.related (fun _ _ _ _ => PipelineCourse.one_for_each) offered rfl⟩

end Dispatches

/-! ### A dispatch that fails in its second pipeline -/

def deskVisitor : TypeToken := ⟨0, "Visitor"⟩
def deskClerk : TypeToken := ⟨1, "Clerk"⟩
def deskLedger : TypeToken := ⟨2, "Ledger"⟩

def tornPage : Cause := .ofMessage "a page is torn out"

/-- Every visitor is let in, the clerk nods, and the ledger cannot be read. -/
def deskCatalogue : Catalogue Unit Unit := fun type =>
  if type = deskVisitor then Builtin.anyEvent ()
  else if type = deskLedger then
    { Behaviour.plain none () with extract := fun _ => .done (.error tornPage) }
  else { Behaviour.plain none () with invoke := fun _ _ => .done (.ok (.bool true)) }

def deskStep (method : String) (extractors : OrderedMap UInt64 (OneOrMany Recipe)) :
    MiddlewareDocument :=
  ⟨.build (some deskClerk) OrderedMap.empty method true, extractors, none⟩

def deskLedgers : OrderedMap UInt64 (OneOrMany Recipe) :=
  OrderedMap.ofList [(1, .one ⟨some deskLedger, OrderedMap.empty⟩)]

def deskDocuments : List PipelineDocument :=
  [⟨[deskStep "greet" OrderedMap.empty], [.one ⟨some deskVisitor, OrderedMap.empty⟩]⟩,
    ⟨[deskStep "register" deskLedgers], [.one ⟨some deskVisitor, OrderedMap.empty⟩]⟩]

def deskDispatcher : Dispatcher :=
  ⟨[⟨[.one 0], [⟨deskStep "greet" OrderedMap.empty, OrderedMap.empty⟩]⟩,
    ⟨[.one 1], [⟨deskStep "register" deskLedgers, OrderedMap.ofList [(1, .one 2)]⟩]⟩]⟩

def deskWorld : World Unit Unit :=
  (Dispatcher.build deskCatalogue deskDocuments (World.start ())).2

theorem dispatch_of_desk :
    (∀ document ∈ deskDocuments, document.Bounded) ∧
      Dispatcher.Live deskCatalogue deskDocuments deskDispatcher ∧
      ∃ trace offers used final,
        deskDispatcher.Course deskCatalogue .blank deskWorld trace offers used final ∧
        ∃ earlier last, trace = earlier ++ [last] ∧ (∀ deed ∈ earlier, deed.failure? = none) ∧
          last.failure? = some (.extraction 1 tornPage) := by
  have small : deskDocuments.all fun document => document.middleware.all fun entry =>
      entry.extractors.keys.all fun index => index.toNat + 1 < UInt64.size := by decide +kernel
  have bounded : ∀ document ∈ deskDocuments, document.Bounded := by
    simp only [List.all_eq_true, decide_eq_true_eq] at small
    exact small
  have live : Dispatcher.Live deskCatalogue deskDocuments deskDispatcher :=
    .built (World.start ()) (by decide +kernel)
  have failed : (Dispatcher.dispatch deskCatalogue .blank (deskDispatcher, deskWorld)).1 =
      .error (.extraction 1 tornPage) := by
    decide +kernel
  obtain ⟨_, _, trace, offers, used, final, course, _, _, errors, _⟩ :=
    dispatch_in_order bounded live .blank deskWorld
  exact ⟨bounded, live, trace, offers, used, final, course, (errors _).mp failed⟩

end EventPipeline
