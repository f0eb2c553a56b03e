import EventPipeline.Proofs.Dispatch.Failure

/-! Which handlers run, when filters answer as their recipes say.

Nothing but the order of deeds is used here: a pipeline runs when each of its entries has a member
that accepts, and then every entry of its stack runs, the handler among them. -/

namespace EventPipeline

open Json

variable {S : Recipe → InstanceId → Prop} {verdict : Recipe → Bool}

/-- A question is answered by the verdict on every recipe that its filter stands for. -/
def Deed.Answers (S : Recipe → InstanceId → Prop) (verdict : Recipe → Bool) : Deed → Prop
  | .asked filter answer => ∀ recipe, S recipe filter → answer = .ok (verdict recipe)
  | _ => True

def anyVerdict (verdict : Recipe → Bool) (entry : OneOrMany Recipe) : Bool :=
  entry.toList.any verdict

theorem Asking.verdict_eq {filters : List InstanceId} {recipes : List Recipe} {deeds : List Deed}
    {accepted : Bool} (course : Asking filters deeds (.ok accepted))
    (paired : List.Forall₂ S recipes filters) (answers : ∀ deed ∈ deeds, deed.Answers S verdict) :
    accepted = recipes.any verdict := by
  cases course with
  | accepted refusing filter unasked =>
    have asked : Deed.asked filter (.ok true) ∈
        refusing.map Deed.refusal ++ [.asked filter (.ok true)] :=
      List.mem_append_right _ (List.mem_singleton_self _)
    have among : filter ∈ refusing ++ filter :: unasked :=
      List.mem_append_right _ (List.mem_cons_self ..)
    obtain ⟨recipe, declared, served⟩ := exists_of_paired paired among
    have yes := Except.ok.inj (answers _ asked recipe served)
    exact (List.any_eq_true.mpr ⟨recipe, declared, yes.symm⟩).symm
  | refused =>
    symm
    rw [List.any_eq_false]
    intro recipe declared
    have flipped : List.Forall₂ (flip S) filters recipes := List.Forall₂.flip paired
    obtain ⟨filter, among, served⟩ := exists_of_paired flipped declared
    have refused : Deed.refusal filter ∈ filters.map Deed.refusal := List.mem_map_of_mem among
    have no := Except.ok.inj (answers _ refused recipe served)
    rw [← no]
    exact Bool.false_ne_true

theorem Matching.verdict_eq {entries : List (OneOrMany InstanceId)} {deeds : List Deed}
    {result : Except DispatchError Bool} (course : Matching entries deeds result) :
    ∀ sources accepted, List.Forall₂ (OneOrMany.Related S) sources entries →
      (∀ deed ∈ deeds, deed.Answers S verdict) → result = .ok accepted →
      accepted = sources.all (anyVerdict verdict) := by
  induction course with
  | matched =>
    intro sources accepted paired _ same
    cases paired
    cases same
    rfl
  | @accepted entry rest deeds more result first later ih =>
    intro sources accepted paired answers same
    cases paired with
    | @cons source _ sources _ here there =>
      have yes : true = anyVerdict verdict source := first.verdict_eq here.toList
        fun deed member => answers deed (List.mem_append_left _ member)
      rw [List.all_cons, ← yes, Bool.true_and]
      exact ih sources accepted there
        (fun deed member => answers deed (List.mem_append_right _ member)) same
  | @unmatched entry rest deeds first =>
    intro sources accepted paired answers same
    cases same
    cases paired with
    | @cons source _ sources _ here there =>
      have no : false = anyVerdict verdict source := first.verdict_eq here.toList answers
      rw [List.all_cons, ← no, Bool.false_and]
  | failed first =>
    intro sources accepted _ _ same
    cases same

/-! ### Handlers -/

/-- The type and the method that a stack entry handles a route with, if it does. -/
def MiddlewareDocument.route? (entry : MiddlewareDocument) : Option (TypeToken × String) :=
  if entry.priority.isNone then entry.activation.target.map (·, entry.activation.method) else none

section Handlers

variable {σ υ : Type} [Inhabited σ] {world : World σ υ}

def Deed.handler? (world : World σ υ) : Deed → Option (TypeToken × String)
  | .invoked entry target _ _ _ =>
      if entry.priority.isNone then
        some ((world.instanceAt target).type, entry.activation.method)
      else none
  | _ => none

/-- What is obtained is of the type that the unit is for. -/
def Deed.Obtains (world : World σ υ) : Deed → Prop
  | .obtained unit (.ok target) _ => unit.target = some (world.instanceAt target).type
  | _ => True

theorem Matching.no_handler {entries : List (OneOrMany InstanceId)} {deeds : List Deed}
    {result : Except DispatchError Bool} (course : Matching entries deeds result) :
    deeds.filterMap (Deed.handler? world) = [] := by
  rw [List.filterMap_eq_nil_iff]
  exact course.every fun _ _ _ _ _ => rfl

theorem StepCourse.handler {document : MiddlewareDocument} {step used : Step} {deeds : List Deed}
    {value : Value} (built : Step.Built document step)
    (obtains : ∀ deed ∈ deeds, deed.Obtains world)
    (course : StepCourse step deeds (.ok value) used) :
    deeds.filterMap (Deed.handler? world) = document.route?.toList := by
  generalize same : Except.ok value = result at course
  cases course with
  | unextracted extraction => cases same
  | failed extraction activation => cases same
  | @checked used deeds more values found check extraction activation =>
    cases check with
    | error error => cases same
    | ok _ =>
      have silent : deeds.filterMap (Deed.handler? world) = [] := by
        rw [List.filterMap_eq_nil_iff]
        exact extraction.every fun _ _ _ _ _ filling => filling.every fun _ _ _ => rfl
      rw [List.filterMap_append, silent, ← built.document]
      cases activation with
      | @returned used cutoff target value alike =>
        have named : step.document.activation.target = some (world.instanceAt target).type := by
          refine obtains (.obtained step.document.activation (.ok target) used) ?_
          simp
        simp only [List.cons_append, List.nil_append, List.filterMap_cons, Deed.handler?,
          List.filterMap_nil, MiddlewareDocument.route?, named]
        cases step.document.priority.isNone with
        | true => rfl
        | false => rfl

/-- A deed that is as the recipes of the filters and the types of the units foretell. -/
structure Deed.Foreseen (S : Recipe → InstanceId → Prop) (verdict : Recipe → Bool)
    (world : World σ υ) (deed : Deed) : Prop where
  answers : deed.Answers S verdict
  obtains : deed.Obtains world

/-- A pipeline that ends well has run its whole stack, or nothing when a filter entry has no member
that accepts. -/
theorem PipelineCourse.handlers {document : PipelineDocument} {pipeline used : Pipeline}
    {deeds : List Deed} {offer : Option DispatchOutcome}
    (built : Pipeline.Built S document pipeline)
    (foreseen : ∀ deed ∈ deeds, deed.Foreseen S verdict world)
    (course : PipelineCourse pipeline deeds (.ok offer) used) :
    deeds.filterMap (Deed.handler? world) =
      if document.filters.all (anyVerdict verdict) then
        document.middleware.filterMap MiddlewareDocument.route? else [] := by
  cases course with
  | passed filters =>
    have no := filters.verdict_eq document.filters false built.filters
      (fun deed member => (foreseen deed member).answers) rfl
    rw [filters.no_handler, ← no]
    rfl
  | @ran deeds more responses steps values filters run =>
    have yes := filters.verdict_eq document.filters true built.filters
      (fun deed member => (foreseen deed (List.mem_append_left _ member)).answers) rfl
    have obtains : ∀ deed ∈ more, deed.Obtains world := by
      intro deed member
      refine (foreseen deed (List.mem_append_right _ ?_)).obtains
      exact List.mem_cons_of_mem _ (List.mem_append_left _ member)
    have ran : more.filterMap (Deed.handler? world) =
        document.middleware.flatMap fun entry => entry.route?.toList :=
      run.gathered_along (fun _ _ _ _ _ made obtains course => course.handler made obtains)
        document.middleware responses built.steps obtains rfl
    have entries := List.filterMap_eq_flatMap_toList MiddlewareDocument.route? document.middleware
    rw [List.filterMap_append, filters.no_handler, ← yes, if_pos rfl, entries, ← ran]
    show (more ++ [Deed.closed values]).filterMap (Deed.handler? world) = _
    rw [List.filterMap_append]
    exact List.append_nil _

variable {catalogue : Catalogue σ υ} {event : Event} {documents : List PipelineDocument}
  {dispatcher used : Dispatcher} {trace : List Deed} {final : RunState σ υ}

theorem Dispatcher.Course.handlers {offered : List (Option DispatchOutcome)} {first : World σ υ}
    (course : dispatcher.Course catalogue event first trace (.ok offered) used final)
    (built : List.Forall₂ (Pipeline.Built S) documents dispatcher.pipelines)
    (foreseen : ∀ deed ∈ trace, deed.Foreseen S verdict world) :
    trace.filterMap (Deed.handler? world) =
      documents.flatMap fun document =>
        if document.filters.all (anyVerdict verdict) then
          document.middleware.filterMap MiddlewareDocument.route? else [] :=
  course.order.gathered_along
    (fun _ _ _ _ _ made foreseen course => PipelineCourse.handlers made foreseen course)
    documents offered built foreseen rfl

/-! ### Failures -/

def Deed.IsQuestion (deed : Deed) : Prop := ∃ filter answer, deed = .asked filter answer

def Deed.Serves (S : Recipe → InstanceId → Prop) : Deed → Prop
  | .asked filter _ => ∃ recipe, S recipe filter
  | _ => True

theorem Dispatcher.Course.serves
    {offers : Except DispatchError (List (Option DispatchOutcome))} {first : World σ υ}
    (course : dispatcher.Course catalogue event first trace offers used final)
    (built : List.Forall₂ (Pipeline.Built S) documents dispatcher.pipelines) :
    ∀ deed ∈ trace, deed.Serves S := by
  apply course.order.every (P := Deed.Serves S)
  intro pipeline among deeds result used course
  obtain ⟨document, _, made⟩ := exists_of_paired built among
  apply course.every (P := Deed.Serves S)
  · intro entry listed filter member answer
    obtain ⟨source, _, related⟩ := exists_of_paired made.filters listed
    obtain ⟨recipe, _, served⟩ := exists_of_paired related.toList member
    exact ⟨recipe, served⟩
  · exact trivial
  · exact fun _ => trivial
  · intro step _ deeds result used course
    exact course.every (P := Deed.Serves S) (fun _ _ _ => trivial) (fun _ => trivial)
      (fun _ _ => trivial) (fun _ _ _ _ => trivial) fun _ => trivial

theorem Dispatcher.Course.ends_well
    {offers : Except DispatchError (List (Option DispatchOutcome))} {first : World σ υ}
    (course : dispatcher.Course catalogue event first trace offers used final)
    (built : List.Forall₂ (Pipeline.Built S) documents dispatcher.pipelines)
    (answers : ∀ deed ∈ trace, deed.Answers S verdict)
    (smooth : ∀ deed ∈ trace, deed.IsQuestion ∨ deed.failure? = none) :
    ∃ offered, offers = .ok offered := by
  have ends : Conclusive trace offers :=
    course.order.conclusive fun _ _ _ _ => PipelineCourse.conclusive
  apply ends.ok_iff.mpr
  intro deed member
  rcases smooth deed member with ⟨filter, answer, rfl⟩ | calm
  · obtain ⟨recipe, served⟩ := course.serves built _ member
    rw [answers _ member recipe served]
    rfl
  · exact calm

end Handlers

end EventPipeline
