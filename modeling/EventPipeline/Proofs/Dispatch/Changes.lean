import Mathlib.Data.List.Induction
import Mathlib.Data.List.MinMax
import EventPipeline.Proofs.Dispatch.Order

/-! What changes the context of a run.

Only a method touches the context, and only by what it asks for: it puts a value there, takes one away or
limits the rest of the run. Everything else that happens in a run leaves the context as it is. So what a
context holds is read off the changes that were asked for, and the deadline in effect is that of the limit
that expires first, and the first of those that expire together. -/

namespace EventPipeline

open Json

variable {σ υ ε α : Type}

/-! ### Requests of a script -/

namespace Script

variable {Request State Error : Type} {Answer : Request → Type}
  {answer : (request : Request) → Action State Error (Answer request)}

/-- The requests that a run of a script makes, each with the state that it meets. -/
def requests (answer : (request : Request) → Action State Error (Answer request)) :
    Script Request Answer α → State → List (Request × State)
  | .done _, _ => []
  | .ask request next, state =>
      (request, state) ::
        match answer request state with
        | (.ok reply, after) => (next reply).requests answer after
        | (.error _, _) => []

theorem exists_of_run_error {script : Script Request Answer α} {state after : State} {error : Error}
    (ran : run answer script state = (.error error, after)) :
    ∃ request before, answer request before = (.error error, after) := by
  induction script generalizing state with
  | done value =>
    rw [run_done] at ran
    cases ran
  | ask request next ih =>
    rw [run_ask] at ran
    split at ran
    · next reply between same => exact ih reply ran
    · next other between same =>
      cases ran
      exact ⟨request, state, same⟩

end Script

/-! ### Limits -/

/-- A limit that a method asks for: a budget, from a time on. -/
structure Limit where
  time : Nat
  budget : Nat
deriving DecidableEq

namespace Limit

def expiry (limit : Limit) : Nat := limit.time + limit.budget

def deadline (limit : Limit) : Deadline := Deadline.after limit.time limit.budget

/-- The deadline of the limit that expires first; of those that expire together, the first one. -/
def earliest (made : List Limit) : Option Deadline := (made.argmin expiry).map deadline

theorem earliest_concat (made : List Limit) (limit : Limit) :
    earliest (made ++ [limit]) = some (Deadline.keepEarlier (earliest made) limit.deadline) := by
  unfold earliest
  rw [List.argmin_concat]
  cases made.argmin expiry with
  | none => rfl
  | some first =>
    by_cases before : limit.expiry < first.expiry
    · have later : ¬ first.deadline.expiry ≤ limit.deadline.expiry := Nat.not_le.mpr before
      simp only [Option.map_some, if_pos before, Deadline.keepEarlier, if_neg later]
    · have earlier : first.deadline.expiry ≤ limit.deadline.expiry := Nat.not_lt.mp before
      simp only [Option.map_some, if_neg before, Deadline.keepEarlier, if_pos earlier]

theorem exists_of_earliest {made : List Limit} {deadline : Deadline}
    (effective : earliest made = some deadline) :
    ∃ limit ∈ made, limit.deadline = deadline := by
  obtain ⟨limit, first, rfl⟩ := Option.map_eq_some_iff.mp effective
  exact ⟨limit, List.argmin_mem first, rfl⟩

theorem earliest_of_mem {made : List Limit} {limit : Limit} (among : limit ∈ made) :
    ∃ deadline, earliest made = some deadline ∧ deadline.expiry ≤ limit.expiry := by
  cases first : made.argmin expiry with
  | none =>
    rw [List.argmin_eq_none.mp first] at among
    cases among
  | some held =>
    refine ⟨held.deadline, ?_, List.le_of_mem_argmin among first⟩
    unfold earliest
    rw [first, Option.map_some]

end Limit

/-! ### Changes -/

/-- What a method does to the context of its run. -/
inductive ContextChange where
  | insert (key : String) (value : Value)
  | remove (key : String)
  | limit (limit : Limit)
deriving DecidableEq

namespace RunContext

def apply (context : RunContext) : ContextChange → RunContext
  | .insert key value => context.insert key value
  | .remove key => context.remove key
  | .limit limit => context.setDeadline limit.time limit.budget

def limits (changes : List ContextChange) : List Limit :=
  changes.filterMap fun
    | .limit limit => some limit
    | _ => none

theorem deadline_apply {context : RunContext} {made : List Limit}
    (effective : context.deadline = Limit.earliest made) (change : ContextChange) :
    (context.apply change).deadline = Limit.earliest (made ++ limits [change]) := by
  cases change with
  | insert key value => exact effective.trans (congrArg Limit.earliest (List.append_nil made).symm)
  | remove key => exact effective.trans (congrArg Limit.earliest (List.append_nil made).symm)
  | limit limit =>
    change some (Deadline.keepEarlier context.deadline limit.deadline) =
      Limit.earliest (made ++ [limit])
    rw [effective, Limit.earliest_concat]

theorem deadline_applied {context : RunContext} {made : List Limit}
    (effective : context.deadline = Limit.earliest made) (changes : List ContextChange) :
    (changes.foldl apply context).deadline = Limit.earliest (made ++ limits changes) := by
  induction changes generalizing context made with
  | nil => exact effective.trans (congrArg Limit.earliest (List.append_nil made).symm)
  | cons change rest ih =>
    have grown : limits (change :: rest) = limits [change] ++ limits rest :=
      List.filterMap_append (l := [change])
    rw [List.foldl_cons, ih (deadline_apply effective change), grown, List.append_assoc]

end RunContext

/-! ### Requests of a method -/

/-- What a request does to the context, if anything. -/
def MethodRequest.change? : MethodRequest σ υ → RunState σ υ → Option ContextChange
  | .insert key value, _ => some (.insert key value)
  | .remove key, _ => some (.remove key)
  | .setDeadline budget, run => some (.limit ⟨run.world.clock.read.now, budget⟩)
  | _, _ => none

def changesOf (requests : List (MethodRequest σ υ × RunState σ υ)) : List ContextChange :=
  requests.filterMap fun (request, state) => request.change? state

theorem changesOf_cons (asked : MethodRequest σ υ × RunState σ υ)
    (rest : List (MethodRequest σ υ × RunState σ υ)) :
    changesOf (asked :: rest) = changesOf [asked] ++ changesOf rest :=
  List.filterMap_append (l := [asked])

theorem waitWithin_context (cutoff : Option (Cutoff ε)) (duration : Nat) (run : RunState σ υ) :
    (waitWithin cutoff duration run).2.context = run.context := by
  unfold waitWithin
  cases cutoff with
  | none => rfl
  | some limit =>
    simp only
    split
    · rfl
    · rfl

theorem checkDeadline_of_some {run : RunState σ υ} {deadline : Deadline}
    (held : run.context.deadline = some deadline) :
    checkDeadline run =
      (if deadline.isExpired run.world.clock.read.now then .error (.timeout deadline.budget)
        else .ok (), run.changeClock run.world.clock.read) := by
  unfold checkDeadline
  rw [held]
  simp only
  split
  · rfl
  · rfl

theorem checkDeadline_of_none {run : RunState σ υ} (free : run.context.deadline = none) :
    checkDeadline run = (.ok (), run) := by
  unfold checkDeadline
  rw [free]

theorem checkDeadline_context (run : RunState σ υ) : (checkDeadline run).2.context = run.context := by
  cases held : run.context.deadline with
  | none => rw [checkDeadline_of_none held]
  | some deadline => rw [checkDeadline_of_some held]; rfl

section Methods

variable [Inhabited σ] (cutoff : Option (Cutoff ε)) (self : InstanceId)

theorem answerMethod_context (request : MethodRequest σ υ) (state : RunState σ υ) :
    (answerMethod cutoff self request state).2.context =
      (changesOf [(request, state)]).foldl RunContext.apply state.context := by
  cases request with
  | wait duration => exact waitWithin_context cutoff duration state
  | own request => rfl
  | insert key value => rfl
  | remove key => rfl
  | values => rfl
  | setDeadline budget => rfl
  | deadline => rfl

theorem script_context (script : MethodScript σ υ α) (state : RunState σ υ) :
    (script.run (answerMethod cutoff self) state).2.context =
      (changesOf (script.requests (answerMethod cutoff self) state)).foldl RunContext.apply
        state.context := by
  induction script generalizing state with
  | done value => rfl
  | ask request next ih =>
    have answered := answerMethod_context cutoff self request state
    rw [Script.run_ask, Script.requests]
    revert answered
    rcases answerMethod cutoff self request state with ⟨error | reply, after⟩
    · exact fun answered => answered
    · intro answered
      rw [changesOf_cons, List.foldl_append, ← answered]
      exact ih reply after

/-- Every request meets the context that those before it have left. -/
theorem script_requests_context (script : MethodScript σ υ α) (state : RunState σ υ) :
    ∀ earlier request seen later,
      script.requests (answerMethod cutoff self) state = earlier ++ (request, seen) :: later →
        seen.context = (changesOf earlier).foldl RunContext.apply state.context := by
  induction script generalizing state with
  | done value =>
    intro earlier request seen later shape
    cases earlier <;> cases shape
  | ask first next ih =>
    intro earlier request seen later shape
    have answered := answerMethod_context cutoff self first state
    rw [Script.requests] at shape
    cases earlier with
    | nil =>
      cases (List.cons.inj shape).1
      rfl
    | cons asked rest =>
      obtain ⟨rfl, onward⟩ := List.cons.inj shape
      revert answered onward
      rcases answerMethod cutoff self first state with ⟨error | reply, after⟩
      · intro _ onward
        cases rest <;> cases onward
      · intro answered onward
        rw [changesOf_cons, List.foldl_append, ← answered]
        exact ih reply after rest request seen later onward

end Methods

/-! ### Deeds -/

section Deeds

variable [Inhabited σ] {catalogue : Catalogue σ υ} {event : Event} {before after : RunState σ υ}

def Deed.requests (catalogue : Catalogue σ υ) (before : RunState σ υ) :
    Deed → List (MethodRequest σ υ × RunState σ υ)
  | .invoked entry target slots cutoff _ =>
      ((catalogue (before.world.instanceAt target).type).invoke entry.activation.method slots).requests
        (answerMethod cutoff target) before
  | _ => []

def Deed.Invokes : Deed → Prop
  | .invoked .. => True
  | _ => False

theorem Deed.Leads.context {deed : Deed} (inside : deed ≠ .opened)
    (leads : deed.Leads catalogue event before after) :
    after.context = (changesOf (deed.requests catalogue before)).foldl RunContext.apply before.context := by
  have untouched : ∀ {reached : RunState σ υ}, reached = after → reached.context = before.context →
      after.context = before.context := by
    rintro _ rfl same
    exact same
  cases deed with
  | asked filter answer => exact untouched (congrArg Prod.snd leads) rfl
  | opened => exact (inside rfl).elim
  | extracted index extractor answer => exact untouched (congrArg Prod.snd leads) rfl
  | timed cutoff =>
    obtain ⟨clock, _, rfl⟩ := leads
    rfl
  | obtained unit answer used =>
    obtain ⟨world, _, rfl⟩ := leads
    rfl
  | invoked entry target slots cutoff answer =>
    obtain rfl : _ = after := congrArg Prod.snd leads
    exact script_context cutoff target _ before
  | checked answer => exact untouched (congrArg Prod.snd leads) (checkDeadline_context before)
  | closed values =>
    obtain ⟨_, rfl⟩ := leads
    rfl

theorem Deed.requests_context (deed : Deed) (state : RunState σ υ) :
    ∀ earlier request seen later,
      deed.requests catalogue state = earlier ++ (request, seen) :: later →
        seen.context = (changesOf earlier).foldl RunContext.apply state.context := by
  intro earlier request seen later shape
  cases deed with
  | invoked entry target slots cutoff answer =>
    exact script_requests_context cutoff target _ state earlier request seen later shape
  | _ => cases earlier <;> cases shape

end Deeds

end EventPipeline
