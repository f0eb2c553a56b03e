import EventPipeline.Proofs.Dispatch.Changes
import EventPipeline.Workbench.Clerk

/-! Invoking declared methods.

The methods of a component and its method table are read off the same declarations. So the table lists
what can be invoked and nothing else. A listed method first produces its parameters, from left to right,
each from its own slot or from the run; the first slot that a parameter refuses ends the invocation before
anything has happened. Otherwise the body runs, once, on what was produced. -/

namespace EventPipeline

open Json

variable {σ υ ε : Type}

theorem Slots.valueOrNull_eq_null_iff (slots : Slots) (index : Nat) :
    slots.valueOrNull index = .null ↔
      slots[index]? = none ∨ slots[index]? = some none ∨ slots[index]? = some (some .null) := by
  unfold valueOrNull value?
  rcases slots[index]? with _ | _ | value
  · simp
  · simp
  · simp

/-! ### Producing parameters -/

namespace Parameter

inductive Declared : Parameter → Prop where
  | decoded {α : Type} (name : String) (refusal : Refusal) (decoder : Decoder α) :
      Declared (.decoded name refusal decoder)
  | runContext (name : String) : Declared (.runContext name)

/-- A parameter takes what its decoder reads in the slot. One that receives the context of the run takes
it whatever the slot holds. -/
inductive Takes (slots : Slots) (index : Nat) :
    (parameter : Parameter) → parameter.Carrier → Prop where
  | decoded {α : Type} {name : String} {refusal : Refusal} {decoder : Decoder α} {value : α}
      (read : decoder (slots.valueOrNull index) = some value) :
      Takes slots index (.decoded name refusal decoder) value
  | runContext {name : String} : Takes slots index (.runContext name) ()

/-- A parameter refuses what its decoder does not read, and the source of the error is what is
said of the value there. -/
inductive Refuses (slots : Slots) (index : Nat) : Parameter → String → Prop where
  | decoded {α : Type} {name : String} {refusal : Refusal} {decoder : Decoder α}
      (unread : decoder (slots.valueOrNull index) = none) :
      Refuses slots index (.decoded name refusal decoder) (refusal (slots.valueOrNull index))

variable {slots : Slots} {index : Nat} {parameter : Parameter}

theorem Takes.produce {value : parameter.Carrier} (takes : parameter.Takes slots index value)
    (method : String) : parameter.produce slots index method = .ok value := by
  cases takes with
  | decoded read =>
    show slots.decode _ _ index method = _
    unfold Slots.decode
    rw [read]
  | runContext => rfl

theorem Refuses.produce {source : String} (refuses : parameter.Refuses slots index source)
    (method : String) : parameter.produce slots index method = .error ⟨index, method, source⟩ := by
  cases refuses with
  | decoded unread =>
    show slots.decode _ _ index method = _
    unfold Slots.decode
    rw [unread]

theorem Declared.takes_or_refuses (declared : parameter.Declared) (slots : Slots) (index : Nat) :
    (∃ value, parameter.Takes slots index value) ∨
      ∃ source, parameter.Refuses slots index source := by
  cases declared with
  | decoded name refusal decoder =>
    cases read : decoder (slots.valueOrNull index) with
    | none => exact .inr ⟨_, .decoded read⟩
    | some value => exact .inl ⟨value, .decoded read⟩
  | runContext name => exact .inl ⟨(), .runContext⟩

end Parameter

/-- Parameters take their values from the slots, one after another from a given index on. -/
inductive Taken (slots : Slots) : Nat → (parameters : List Parameter) → Inputs parameters → Prop where
  | nil (index : Nat) : Taken slots index [] ()
  | cons {index : Nat} {parameter : Parameter} {rest : List Parameter} {value : parameter.Carrier}
      {values : Inputs rest} (first : parameter.Takes slots index value)
      (later : Taken slots (index + 1) rest values) :
      Taken slots index (parameter :: rest) (value, values)

/-- A parameter is the first to refuse its slot when those before it have taken their values. -/
inductive FirstRefused (slots : Slots) : List Parameter → Nat → String → Prop where
  | after {front rest : List Parameter} {parameter : Parameter} {values : Inputs front}
      {source : String} (taken : Taken slots 0 front values)
      (refuses : parameter.Refuses slots front.length source) :
      FirstRefused slots (front ++ parameter :: rest) front.length source

section Producing

variable {slots : Slots} {parameters front rest : List Parameter} {index : Nat} (method : String)

theorem Taken.produceInputs {inputs : Inputs parameters} (taken : Taken slots index parameters inputs) :
    produceInputs slots method index parameters = .ok inputs := by
  induction taken with
  | nil index => rfl
  | cons first later ih =>
    unfold EventPipeline.produceInputs
    rw [first.produce method, ih]

theorem produceInputs_of_refuses {values : Inputs front} {parameter : Parameter} {source : String}
    (taken : Taken slots index front values)
    (refuses : parameter.Refuses slots (index + front.length) source) :
    produceInputs slots method index (front ++ parameter :: rest) =
      .error ⟨index + front.length, method, source⟩ := by
  induction taken with
  | nil index =>
    rw [List.length_nil, Nat.add_zero] at refuses ⊢
    rw [List.nil_append, produceInputs, refuses.produce method]
  | @cons index parameter others _ _ first later ih =>
    have place : index + (parameter :: others).length = index + 1 + others.length := by
      rw [List.length_cons]
      omega
    rw [place] at refuses ⊢
    rw [List.cons_append, produceInputs, first.produce method, ih refuses]

theorem taken_or_refuses (declared : ∀ parameter ∈ parameters, parameter.Declared) (slots : Slots)
    (index : Nat) :
    (∃ inputs, Taken slots index parameters inputs) ∨
      ∃ front parameter rest values source, parameters = front ++ parameter :: rest ∧
        Taken slots index front values ∧
        parameter.Refuses slots (index + front.length) source := by
  induction parameters generalizing index with
  | nil => exact .inl ⟨(), .nil index⟩
  | cons first rest ih =>
    rcases (declared first (List.mem_cons_self ..)).takes_or_refuses slots index with
      ⟨value, takes⟩ | ⟨source, refuses⟩
    · rcases ih (fun other among => declared other (List.mem_cons_of_mem _ among)) (index + 1) with
        ⟨values, taken⟩ | ⟨front, parameter, others, values, source, rfl, taken, refuses⟩
      · exact .inl ⟨(value, values), .cons takes taken⟩
      · refine .inr ⟨first :: front, parameter, others, (value, values), source, rfl,
          .cons takes taken, ?_⟩
        rw [List.length_cons, Nat.add_comm front.length, ← Nat.add_assoc]
        exact refuses
    · exact .inr ⟨[], first, rest, (), source, rfl, .nil index, refuses⟩

theorem taken_or_firstRefused (declared : ∀ parameter ∈ parameters, parameter.Declared)
    (slots : Slots) :
    (∃ inputs, Taken slots 0 parameters inputs) ∨
      ∃ index source, FirstRefused slots parameters index source := by
  rcases taken_or_refuses declared slots 0 with
    taken | ⟨front, parameter, rest, values, source, rfl, taken, refuses⟩
  · exact .inl taken
  · rw [Nat.zero_add] at refuses
    exact .inr ⟨front.length, source, .after taken refuses⟩

theorem FirstRefused.produceInputs {source : String}
    (refused : FirstRefused slots parameters index source) :
    produceInputs slots method 0 parameters = .error ⟨index, method, source⟩ := by
  cases refused with
  | @after front _ _ _ _ taken refuses =>
    rw [← Nat.zero_add front.length] at refuses ⊢
    exact produceInputs_of_refuses method taken refuses

/-- What is produced depends on the slots of the decoded parameters, and on whether they read as
`null`, not on why they do. -/
theorem produceInputs_alike (declared : ∀ parameter ∈ parameters, parameter.Declared)
    {other : Slots} {index : Nat}
    (alike : ∀ offset parameter, parameters[offset]? = some parameter →
      (∃ name, parameter = .runContext name) ∨
        other.valueOrNull (index + offset) = slots.valueOrNull (index + offset)) :
    produceInputs other method index parameters = produceInputs slots method index parameters := by
  induction parameters generalizing index with
  | nil => rfl
  | cons first rest ih =>
    have same : first.produce other index method = first.produce slots index method := by
      cases declared first (List.mem_cons_self ..) with
      | decoded name refusal decoder =>
        rcases alike 0 _ rfl with ⟨context, equal⟩ | equal
        · rw [equal]
        · show other.decode _ _ index method = slots.decode _ _ index method
          unfold Slots.decode
          rw [show other.valueOrNull index = slots.valueOrNull index from equal]
      | runContext name => rfl
    have later := @ih (fun parameter among => declared parameter (List.mem_cons_of_mem _ among))
      (index + 1) (fun offset parameter found => by
        have there := alike (offset + 1) parameter found
        rwa [← Nat.add_assoc, Nat.add_right_comm] at there)
    unfold produceInputs
    rw [same, later]

end Producing

/-! ### Running declared methods -/

theorem Script.requests_bind_done {Request State Error α β : Type} {Answer : Request → Type}
    (answer : (request : Request) → Action State Error (Answer request))
    (script : Script Request Answer α) (conclude : α → β) (state : State) :
    (script.bind fun value => .done (conclude value)).requests answer state =
      script.requests answer state := by
  induction script generalizing state with
  | done value => rfl
  | ask request next ih =>
    simp only [Script.bind, Script.requests]
    rcases answer request state with ⟨error | reply, after⟩
    · rfl
    · simp only [ih]

section Running

variable [Inhabited σ] (cutoff : Option (Cutoff ε)) (target : InstanceId) (run : RunState σ υ)

/-- What becomes of an invocation of a declared method. -/
structure Performs (declared : DeclaredMethod σ υ)
    (invoked : Slots → MethodScript σ υ (Except InvokeError Value)) (slots : Slots) : Prop where
  refused : ∀ index source, FirstRefused slots declared.parameters index source →
    (invoked slots).requests (answerMethod cutoff target) run = [] ∧
      (invoked slots).run (answerMethod cutoff target) run =
        (.ok (.error (.argument ⟨index, declared.name, source⟩)), run)
  performed : ∀ inputs, Taken slots 0 declared.parameters inputs →
    (invoked slots).requests (answerMethod cutoff target) run =
        (declared.body inputs).requests (answerMethod cutoff target) run ∧
      (invoked slots).run (answerMethod cutoff target) run =
        (((declared.body inputs).run (answerMethod cutoff target) run).1.map
          fun outcome => outcome.mapError .handler,
          ((declared.body inputs).run (answerMethod cutoff target) run).2)
  decided : (∃ inputs, Taken slots 0 declared.parameters inputs) ∨
    ∃ index source, FirstRefused slots declared.parameters index source
  /-- Slots that no parameter decodes do not matter. -/
  alike : ∀ other : Slots, (∀ index parameter, declared.parameters[index]? = some parameter →
      (∃ name, parameter = .runContext name) ∨
        other.valueOrNull index = slots.valueOrNull index) →
    invoked other = invoked slots

theorem DeclaredMethod.performs (declared : DeclaredMethod σ υ)
    (kinds : ∀ parameter ∈ declared.parameters, parameter.Declared) (slots : Slots) :
    Performs cutoff target run declared declared.invoke slots where
  refused := by
    intro index source refused
    unfold DeclaredMethod.invoke
    rw [refused.produceInputs]
    exact ⟨rfl, rfl⟩
  performed := by
    intro inputs taken
    unfold DeclaredMethod.invoke
    rw [taken.produceInputs]
    refine ⟨Script.requests_bind_done _ (declared.body inputs) _ run, ?_⟩
    show ((declared.body inputs).bind _).run _ run = _
    rw [Script.run_bind]
    rcases (declared.body inputs).run (answerMethod cutoff target) run with ⟨error | outcome, after⟩
    · rfl
    · rfl
  decided := taken_or_firstRefused kinds slots
  alike := by
    intro other same
    unfold DeclaredMethod.invoke
    rw [produceInputs_alike declared.name kinds fun offset parameter found => by
      rw [Nat.zero_add]
      exact same offset parameter found]

theorem Performs.ne_unknownMethod {declared : DeclaredMethod σ υ}
    {invoked : Slots → MethodScript σ υ (Except InvokeError Value)} {slots : Slots}
    (performs : Performs cutoff target run declared invoked slots) (typeName method : String) :
    ((invoked slots).run (answerMethod cutoff target) run).1 ≠
      .ok (.error (.unknownMethod typeName method)) := by
  rcases performs.decided with ⟨inputs, taken⟩ | ⟨index, source, refused⟩
  · rw [(performs.performed inputs taken).2]
    rcases (declared.body inputs).run (answerMethod cutoff target) run with
      ⟨cut | failed | value, after⟩ <;> exact fun same => nomatch same
  · rw [(performs.refused index source refused).2]
    exact fun same => nomatch same

end Running

namespace MethodTable

theorem find?_signatures (table : MethodTable σ υ) (method : String) :
    findSignature? table.signatures method =
      (table.methods.find? (·.name == method)).map (·.signature) := by
  unfold findSignature? signatures
  rw [List.find?_map]
  rfl

theorem find?_eq_none_iff (table : MethodTable σ υ) (method : String) :
    table.methods.find? (·.name == method) = none ↔
      ∀ signature ∈ table.signatures, signature.name ≠ method := by
  unfold signatures
  simp [DeclaredMethod.signature]

end MethodTable

/-- Whatever is invoked of a component with declared methods, on any arguments and in any run: it answers
that a method is unknown just when its method table lists none of that name, with its own type name, and
nothing happens. A listed method fails at the first parameter that refuses its slot, with the place of that
parameter and what its decoder says of the value, before anything happens; otherwise its body runs once,
on the values of the parameters. Only the slots of decoded parameters matter, and of these only what they
hold; one that is absent, empty or `null` reads as `null`. What is asked of the context, the run's own
context answers. -/
theorem invocations_follow_table [Inhabited σ] (table : MethodTable σ υ)
    (kinds : ∀ declared ∈ table.methods, ∀ parameter ∈ declared.parameters, parameter.Declared)
    (typeName : String) (properties : Option Properties) (state : σ) (method : String)
    (slots : Slots) (cutoff : Option (Cutoff ε)) (target : InstanceId) (run : RunState σ υ) :
    let component := table.behaviour typeName properties state
    let invoked := (component.invoke method slots).run (answerMethod cutoff target) run
    let requests := (component.invoke method slots).requests (answerMethod cutoff target) run
    ((∃ name requested, invoked.1 = .ok (.error (.unknownMethod name requested))) ↔
      ∀ signature ∈ component.signatures, signature.name ≠ method) ∧
    ((∀ signature ∈ component.signatures, signature.name ≠ method) →
      requests = [] ∧ invoked = (.ok (.error (.unknownMethod typeName method)), run)) ∧
    ((∃ signature ∈ component.signatures, signature.name = method) →
      ∃ declared, table.methods.find? (·.name == method) = some declared ∧ declared.name = method ∧
        findSignature? component.signatures method = some declared.signature ∧
        Performs cutoff target run declared (component.invoke method) slots) ∧
    (∀ index, slots.valueOrNull index = .null ↔
      slots[index]? = none ∨ slots[index]? = some none ∨ slots[index]? = some (some .null)) ∧
    invoked.2.context = (changesOf requests).foldl RunContext.apply run.context ∧
    ∀ earlier request seen later, requests = earlier ++ (request, seen) :: later →
      seen.context = (changesOf earlier).foldl RunContext.apply run.context := by
  intro component invoked requests
  have unlisted : (∀ signature ∈ component.signatures, signature.name ≠ method) →
      requests = [] ∧ invoked = (.ok (.error (.unknownMethod typeName method)), run) := by
    intro absent
    have none := (table.find?_eq_none_iff method).mpr absent
    have unknown : component.invoke method slots =
        .done (.error (.unknownMethod typeName method)) := by
      show table.invoke typeName method slots = _
      unfold MethodTable.invoke
      rw [none]
    exact ⟨by simp only [requests, unknown]; rfl, by simp only [invoked, unknown]; rfl⟩
  have listed : (∃ signature ∈ component.signatures, signature.name = method) →
      ∃ declared, table.methods.find? (·.name == method) = some declared ∧ declared.name = method ∧
        findSignature? component.signatures method = some declared.signature ∧
        Performs cutoff target run declared (component.invoke method) slots := by
    rintro ⟨signature, among, named⟩
    cases found : table.methods.find? (·.name == method) with
    | none => exact absurd named ((table.find?_eq_none_iff method).mp found signature among)
    | some declared =>
      have has : declared ∈ table.methods := List.mem_of_find?_eq_some found
      have invokes : component.invoke method = declared.invoke := by
        funext given
        show table.invoke typeName method given = _
        unfold MethodTable.invoke
        rw [found]
      have same : (declared.name == method) = true :=
        @List.find?_some _ (fun held : DeclaredMethod σ υ => held.name == method) _ _ found
      refine ⟨declared, rfl, beq_iff_eq.mp same, ?_, ?_⟩
      · show findSignature? table.signatures method = _
        rw [table.find?_signatures, found]
        rfl
      · rw [invokes]
        exact declared.performs cutoff target run (kinds declared has) slots
  refine ⟨⟨?_, ?_⟩, unlisted, listed, slots.valueOrNull_eq_null_iff,
    script_context cutoff target _ run, script_requests_context cutoff target _ run⟩
  · rintro ⟨name, requested, unknown⟩ signature among named
    obtain ⟨declared, _, _, _, performs⟩ := listed ⟨signature, among, named⟩
    exact performs.ne_unknownMethod cutoff target run name requested unknown
  · intro absent
    exact ⟨typeName, method, by rw [(unlisted absent).2]⟩

/-! ### A clerk -/

namespace Workbench.Clerk

theorem parameters_declared :
    ∀ declared ∈ (table : MethodTable Unit Unit).methods, ∀ parameter ∈ declared.parameters,
      parameter.Declared := by
  simp only [table, add, byte, greet, flag, list, echoOrder, rejected, remember, maybe, nothing,
    name, readPrefix, rawType, List.forall_mem_cons, List.not_mem_nil, false_implies, implies_true,
    and_true]
  exact ⟨⟨.decoded .., .decoded ..⟩, .decoded .., ⟨.decoded .., .decoded ..⟩, .decoded ..,
    .decoded .., .decoded .., .decoded .., ⟨.decoded .., .runContext _, .decoded ..⟩, .decoded ..,
    trivial, trivial, trivial, .decoded .., .decoded ..⟩

def noted : RunState Unit Unit := ⟨World.start (), RunContext.empty.insert "note" (.int 7)⟩

/-- A greeting fails at a title that is no text; a note is remembered in the context of the run, whatever
is in the slot of the context, and `null` when there is nothing to note; and nothing internal is done. -/
theorem clerk_follows_table :
    (∀ declared ∈ (table : MethodTable Unit Unit).methods, ∀ parameter ∈ declared.parameters,
      parameter.Declared) ∧
    let clerk : Behaviour Unit Unit := table.behaviour "Clerk" none ()
    (clerk.invoke "greet" [some (.string "Ann"), some (.bool true)]).run
        (answerMethod (none : Option (Cutoff Unit)) 0) noted =
      (.ok (.error (.argument ⟨1, "greet", "expected a text or null"⟩)), noted) ∧
    (clerk.invoke "remember" [some (.string "note"), some (.bool true), none, some .null]).run
        (answerMethod (none : Option (Cutoff Unit)) 0) noted =
      (.ok (.ok (.int 7)), noted.changeContext (noted.context.insert "note" .null)) ∧
    (clerk.invoke "internal" []).run (answerMethod (none : Option (Cutoff Unit)) 0) noted =
      (.ok (.error (.unknownMethod "Clerk" "internal")), noted) := by
  have follows := fun method slots => invocations_follow_table table parameters_declared "Clerk" none ()
    method slots (none : Option (Cutoff Unit)) 0 noted
  refine ⟨parameters_declared, ?_, ?_, ?_⟩
  · obtain ⟨_, _, listed, _⟩ := follows "greet" [some (.string "Ann"), some (.bool true)]
    obtain ⟨declared, found, _, _, performs⟩ := listed ⟨(greet : DeclaredMethod Unit Unit).signature, by decide, rfl⟩
    obtain rfl : greet = declared := Option.some.inj found
    have taken : Taken [some (.string "Ann"), some (.bool true)] 0 [text "name"] ("Ann", ()) :=
      .cons (.decoded rfl) (.nil 1)
    exact (performs.refused 1 "expected a text or null" (.after taken (.decoded rfl))).2
  · obtain ⟨_, _, listed, _⟩ :=
      follows "remember" [some (.string "note"), some (.bool true), none, some .null]
    obtain ⟨declared, found, _, _, performs⟩ := listed ⟨(remember : DeclaredMethod Unit Unit).signature, by decide, rfl⟩
    obtain rfl : remember = declared := Option.some.inj found
    refine (performs.performed ("note", (), .null, ()) ?_).2
    exact .cons (.decoded rfl) (.cons .runContext (.cons (.decoded rfl) (.nil 3)))
  · obtain ⟨_, unlisted, _⟩ := follows "internal" []
    exact (unlisted (by decide)).2

end Workbench.Clerk

end EventPipeline
