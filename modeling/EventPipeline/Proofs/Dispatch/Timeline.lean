import EventPipeline.Proofs.Dispatch.Changes

/-! The time line of a run.

While a run goes on, the methods of its steps limit it: each limit is a budget, from the time that the
clock shows when it is asked for. A time line goes through the deeds of a run and, within a method, from
one request to the next; at every moment it tells the limits that have been asked for so far. The deadline
in effect can be read off them: it is that of the limit that expires first, and the first of those that
expire together. -/

namespace EventPipeline

variable {σ υ ε α : Type}

/-- A deadline in effect stays in effect or gives way to an earlier one. -/
def Deadline.NotLater (before after : Option Deadline) : Prop :=
  ∀ held ∈ before, ∃ kept ∈ after, kept.expiry ≤ held.expiry

theorem Limit.earliest_of_prefix {made more : List Limit} (grown : made <+: more) :
    Deadline.NotLater (earliest made) (earliest more) := by
  intro held effective
  obtain ⟨limit, among, rfl⟩ := exists_of_earliest effective
  exact earliest_of_mem (grown.subset among)

def MethodRequest.limit? : MethodRequest σ υ → RunState σ υ → Option Limit
  | .setDeadline budget, run => some ⟨run.world.clock.read.now, budget⟩
  | _, _ => none

/-! ### Moments -/

/-- A state of a run, and the limits that have been asked for before it. -/
structure Moment (σ υ : Type) where
  made : List Limit
  state : RunState σ υ

namespace Moment

def start (world : World σ υ) : Moment σ υ := ⟨[], ⟨world, .empty⟩⟩

def Faithful (moment : Moment σ υ) : Prop :=
  moment.state.context.deadline = Limit.earliest moment.made

/-- A moment at which no limit is forgotten that was asked for at another. -/
def Before (earlier later : Moment σ υ) : Prop := earlier.made <+: later.made

theorem Before.notLater {earlier later : Moment σ υ} (before : earlier.Before later)
    (first : earlier.Faithful) (second : later.Faithful) :
    Deadline.NotLater earlier.state.context.deadline later.state.context.deadline := by
  rw [first, second]
  exact Limit.earliest_of_prefix before

def limits (requests : List (MethodRequest σ υ × RunState σ υ)) : List Limit :=
  requests.filterMap fun (request, state) => request.limit? state

def within (made : List Limit) : List (MethodRequest σ υ × RunState σ υ) → List (Moment σ υ)
  | [] => []
  | (request, state) :: rest => ⟨made, state⟩ :: within (made ++ limits [(request, state)]) rest

theorem limits_cons (asked : MethodRequest σ υ × RunState σ υ)
    (rest : List (MethodRequest σ υ × RunState σ υ)) :
    limits (asked :: rest) = limits [asked] ++ limits rest :=
  List.filterMap_append (l := [asked])

theorem within_between (made : List Limit) (requests : List (MethodRequest σ υ × RunState σ υ)) :
    ∀ moment ∈ within made requests,
      made <+: moment.made ∧ moment.made <+: made ++ limits requests := by
  induction requests generalizing made with
  | nil => exact fun _ among => (List.not_mem_nil among).elim
  | cons asked rest ih =>
    intro moment among
    rw [limits_cons, ← List.append_assoc]
    rcases List.mem_cons.mp among with rfl | later
    · exact ⟨List.prefix_refl made, (List.prefix_append ..).trans (List.prefix_append ..)⟩
    · obtain ⟨above, below⟩ := ih _ moment later
      exact ⟨(List.prefix_append ..).trans above, below⟩

theorem split_within (requests : List (MethodRequest σ υ × RunState σ υ)) {made : List Limit}
    {moment : Moment σ υ} (among : moment ∈ within made requests) :
    ∃ earlier request seen later, requests = earlier ++ (request, seen) :: later ∧
      moment = ⟨made ++ limits earlier, seen⟩ := by
  induction requests generalizing made with
  | nil => cases among
  | cons asked rest ih =>
    rcases List.mem_cons.mp among with rfl | behind
    · exact ⟨[], asked.1, asked.2, rest, rfl, by rw [limits, List.filterMap_nil, List.append_nil]⟩
    · obtain ⟨earlier, request, seen, later, rfl, rfl⟩ := ih behind
      refine ⟨asked :: earlier, request, seen, later, rfl, ?_⟩
      rw [limits_cons asked earlier, List.append_assoc]

theorem limits_eq (requests : List (MethodRequest σ υ × RunState σ υ)) :
    limits requests = RunContext.limits (changesOf requests) := by
  unfold limits RunContext.limits changesOf
  rw [List.filterMap_filterMap]
  congr 1
  funext (request, state)
  cases request <;> rfl

theorem Faithful.changed {made : List Limit} {state after : RunState σ υ}
    {requests : List (MethodRequest σ υ × RunState σ υ)} (faithful : Faithful ⟨made, state⟩)
    (changed : after.context = (changesOf requests).foldl RunContext.apply state.context) :
    Faithful ⟨made ++ limits requests, after⟩ := by
  unfold Faithful at faithful ⊢
  rw [changed, limits_eq]
  exact RunContext.deadline_applied faithful _

theorem within_ordered (made : List Limit) (requests : List (MethodRequest σ υ × RunState σ υ)) :
    (within made requests).Pairwise Before := by
  induction requests generalizing made with
  | nil => exact .nil
  | cons asked rest ih =>
    refine .cons ?_ (ih _)
    intro moment among
    exact (List.prefix_append ..).trans (within_between _ rest moment among).1

end Moment

/-! ### Deeds -/

section Deeds

variable [Inhabited σ]

/-- Deeds that do not begin another run, with all moments from the first to the last. -/
inductive Timeline (catalogue : Catalogue σ υ) (event : Event) :
    Moment σ υ → List Deed → List (Moment σ υ) → Moment σ υ → Prop where
  | still (moment : Moment σ υ) : Timeline catalogue event moment [] [moment] moment
  | deed {before last : Moment σ υ} {after : RunState σ υ} {deed : Deed} {rest : List Deed}
      {moments : List (Moment σ υ)} (inside : deed ≠ .opened)
      (leads : deed.Leads catalogue event before.state after)
      (later : Timeline catalogue event
        ⟨before.made ++ Moment.limits (deed.requests catalogue before.state), after⟩ rest moments last) :
      Timeline catalogue event before (deed :: rest)
        (before :: Moment.within before.made (deed.requests catalogue before.state) ++ moments) last

variable {catalogue : Catalogue σ υ} {event : Event} {before last : Moment σ υ} {deeds : List Deed}
  {moments : List (Moment σ υ)}

theorem Deed.Leads.faithful {deed : Deed} {after : RunState σ υ} (inside : deed ≠ .opened)
    (leads : deed.Leads catalogue event before.state after) (faithful : before.Faithful) :
    (∀ moment ∈ Moment.within before.made (deed.requests catalogue before.state),
        moment.Faithful) ∧
      Moment.Faithful ⟨before.made ++ Moment.limits (deed.requests catalogue before.state), after⟩ := by
  refine ⟨?_, faithful.changed (leads.context inside)⟩
  intro moment among
  obtain ⟨earlier, request, seen, later, shape, rfl⟩ := Moment.split_within _ among
  exact faithful.changed (deed.requests_context before.state earlier request seen later shape)

namespace Timeline

theorem of_performed {first final : RunState σ υ} (performed : Performed catalogue event first deeds final)
    (inside : ∀ deed ∈ deeds, deed ≠ .opened) (made : List Limit) :
    ∃ moments last, Timeline catalogue event ⟨made, first⟩ deeds moments last ∧ last.state = final := by
  induction performed generalizing made with
  | nothing state => exact ⟨_, _, .still ⟨made, state⟩, rfl⟩
  | @deed first between final deed rest leads _ ih =>
    obtain ⟨moments, last, timeline, reached⟩ :=
      ih (fun other among => inside other (List.mem_cons_of_mem _ among))
        (made ++ Moment.limits (deed.requests catalogue first))
    exact ⟨_, last, .deed (inside deed (List.mem_cons_self ..)) leads timeline, reached⟩

/-- The deadline in effect is that of the earliest limit, at every moment. -/
theorem faithful (timeline : Timeline catalogue event before deeds moments last)
    (start : before.Faithful) : (∀ moment ∈ moments, moment.Faithful) ∧ last.Faithful := by
  induction timeline with
  | still moment =>
    refine ⟨?_, start⟩
    intro other among
    rwa [List.mem_singleton.mp among]
  | deed inside leads _ ih =>
    obtain ⟨during, reached⟩ := leads.faithful inside start
    obtain ⟨later, ends⟩ := ih reached
    refine ⟨?_, ends⟩
    intro moment among
    rcases List.mem_append.mp among with early | late
    · rcases List.mem_cons.mp early with rfl | body
      · exact start
      · exact during moment body
    · exact later moment late

theorem effective (timeline : Timeline catalogue event before deeds moments last)
    (start : before.Faithful) : last.state.context.deadline = Limit.earliest last.made :=
  (timeline.faithful start).2

theorem grows (timeline : Timeline catalogue event before deeds moments last) :
    before.Before last ∧ ∀ moment ∈ moments, before.Before moment := by
  induction timeline with
  | still moment =>
    refine ⟨List.prefix_refl _, ?_⟩
    intro other among
    rw [List.mem_singleton.mp among]
    exact List.prefix_refl _
  | deed _ _ _ ih =>
    obtain ⟨ends, later⟩ := ih
    refine ⟨(List.prefix_append ..).trans ends, ?_⟩
    intro moment among
    rcases List.mem_append.mp among with early | late
    · rcases List.mem_cons.mp early with rfl | body
      · exact List.prefix_refl _
      · exact (Moment.within_between _ _ moment body).1
    · exact (List.prefix_append ..).trans (later moment late)

theorem ordered (timeline : Timeline catalogue event before deeds moments last) :
    moments.Pairwise Moment.Before := by
  induction timeline with
  | still moment => exact List.pairwise_singleton ..
  | deed inside leads later ih =>
    have whole := Timeline.deed inside leads later
    refine .cons ?_ (List.pairwise_append.mpr ⟨Moment.within_ordered _ _, ih, ?_⟩)
    · intro moment among
      exact whole.grows.2 moment (List.mem_cons_of_mem _ among)
    · intro early here late there
      exact (Moment.within_between _ _ early here).2.trans (later.grows.2 late there)

theorem split {more : List Deed} (timeline : Timeline catalogue event before (deeds ++ more) moments last) :
    ∃ early between late, Timeline catalogue event before deeds early between ∧
      Timeline catalogue event between more late last := by
  induction deeds generalizing before moments with
  | nil => exact ⟨_, before, moments, .still before, timeline⟩
  | cons deed rest ih =>
    cases timeline with
    | deed inside leads later =>
      obtain ⟨early, between, late, first, second⟩ := ih later
      exact ⟨_, between, late, .deed inside leads first, second⟩

end Timeline

theorem Deed.Leads.unique {deed : Deed} {state after other : RunState σ υ}
    (one : deed.Leads catalogue event state after) (two : deed.Leads catalogue event state other) :
    after = other := by
  cases deed with
  | asked filter answer => exact congrArg Prod.snd (one.symm.trans two)
  | opened => exact one.trans two.symm
  | extracted index extractor answer => exact congrArg Prod.snd (one.symm.trans two)
  | timed cutoff =>
    obtain ⟨clock, reads, rfl⟩ := one
    obtain ⟨other, again, rfl⟩ := two
    cases reads.symm.trans again
    rfl
  | obtained unit answer used =>
    obtain ⟨world, obtains, rfl⟩ := one
    obtain ⟨other, again, rfl⟩ := two
    cases obtains.symm.trans again
    rfl
  | invoked entry target slots cutoff answer => exact congrArg Prod.snd (one.symm.trans two)
  | checked answer => exact congrArg Prod.snd (one.symm.trans two)
  | closed values => exact one.2.trans two.2.symm

theorem Timeline.unique {others : List (Moment σ υ)} {end_ : Moment σ υ}
    (one : Timeline catalogue event before deeds moments last)
    (two : Timeline catalogue event before deeds others end_) : last = end_ := by
  induction one generalizing others with
  | still moment =>
    cases two
    rfl
  | deed inside leads later ih =>
    cases two with
    | deed _ again onward =>
      obtain rfl := leads.unique again
      exact ih onward

end Deeds

end EventPipeline
