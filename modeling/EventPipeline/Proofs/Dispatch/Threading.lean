import EventPipeline.Proofs.Dispatch.Changes
import EventPipeline.Proofs.Dispatch.Live

/-! The thread of a context.

A run begins with an empty context, and nothing changes it but what the methods of its steps ask for. So the
context that a method meets is the replay of the changes that the run has made before, in order, and neither
another run nor an earlier dispatch has left anything in it: whatever the components keep for themselves,
they do not share their contexts. -/

namespace EventPipeline

open Json

variable {σ υ : Type}

/-! ### Deeds of one run -/

section Deeds

variable [Inhabited σ] {catalogue : Catalogue σ υ} {event : Event} {before after : RunState σ υ}
  {deeds more : List Deed} {changes : List ContextChange}

/-- Deeds of one run, with the changes that they make to its context. -/
inductive Changing (catalogue : Catalogue σ υ) (event : Event) :
    RunState σ υ → List Deed → List ContextChange → RunState σ υ → Prop where
  | still (state : RunState σ υ) : Changing catalogue event state [] [] state
  | deed {before between after : RunState σ υ} {deed : Deed} {rest : List Deed}
      {changes : List ContextChange} (inside : deed ≠ .opened)
      (leads : deed.Leads catalogue event before between)
      (later : Changing catalogue event between rest changes after) :
      Changing catalogue event before (deed :: rest)
        (changesOf (deed.requests catalogue before) ++ changes) after

namespace Changing

theorem of_performed (performed : Performed catalogue event before deeds after)
    (inside : ∀ deed ∈ deeds, deed ≠ .opened) :
    ∃ changes, Changing catalogue event before deeds changes after := by
  induction performed with
  | nothing state => exact ⟨[], .still state⟩
  | deed leads _ ih =>
    obtain ⟨changes, changing⟩ := ih fun other among => inside other (List.mem_cons_of_mem _ among)
    exact ⟨_, .deed (inside _ (List.mem_cons_self ..)) leads changing⟩

theorem context (changing : Changing catalogue event before deeds changes after) :
    after.context = changes.foldl RunContext.apply before.context := by
  induction changing with
  | still state => rfl
  | deed inside leads _ ih => rw [ih, leads.context inside, List.foldl_append]

end Changing

theorem Performed.split (performed : Performed catalogue event before (deeds ++ more) after) :
    ∃ between, Performed catalogue event before deeds between ∧
      Performed catalogue event between more after := by
  induction deeds generalizing before with
  | nil => exact ⟨before, .nothing before, performed⟩
  | cons deed rest ih =>
    cases performed with
    | deed leads later =>
      obtain ⟨reached, first, second⟩ := ih later
      exact ⟨reached, .deed leads first, second⟩

end Deeds

/-! ### Outcomes -/

def Deed.closed? : Deed → Option Object
  | .closed values => some values
  | _ => none

/-- The context that a pipeline leaves, which has none when it did not match. -/
def contextsOf (offer : Option DispatchOutcome) : List Object := offer.elim [] ([·.context])

theorem PipelineCourse.closes {pipeline used : Pipeline} {deeds : List Deed}
    {offer : Option DispatchOutcome} (course : PipelineCourse pipeline deeds (.ok offer) used) :
    deeds.filterMap Deed.closed? = contextsOf offer := by
  have unasked : ∀ {deeds : List Deed} {result : Except DispatchError Bool},
      Matching pipeline.filters deeds result → deeds.filterMap Deed.closed? = [] := by
    intro deeds result filters
    rw [List.filterMap_eq_nil_iff]
    exact filters.every fun _ _ _ _ _ => rfl
  cases course with
  | passed filters => exact unasked filters
  | @ran deeds more responses steps values filters run =>
    have stepping : more.filterMap Deed.closed? = [] := by
      rw [List.filterMap_eq_nil_iff]
      exact run.every fun _ _ _ _ _ course => course.every (fun _ _ _ => rfl) (fun _ => rfl)
        (fun _ _ => rfl) (fun _ _ _ _ => rfl) fun _ => rfl
    rw [List.filterMap_append, unasked filters]
    show (more ++ [Deed.closed values]).filterMap Deed.closed? = [values]
    rw [List.filterMap_append, stepping]
    rfl

section Runs

variable [Inhabited σ]

end Runs

end EventPipeline
