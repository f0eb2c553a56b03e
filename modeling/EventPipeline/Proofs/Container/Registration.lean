import EventPipeline.Proofs.Container.Chronicle
import EventPipeline.Proofs.Container.Delivery
import EventPipeline.Proofs.Metadata.History

/-! Registrations of any kind, in any order.

Three calls bind a key, and creating an instance binds one too, on its first use. They all write one table, and
a value and a constructor may want the same place in it. The table is that of the first registrations: what
comes later is told so, or logs it, and changes nothing. Resolutions in between change no binding, and what
is built for one key is never an instance of another. -/

namespace EventPipeline

open Json

variable {σ υ : Type} [Inhabited σ]

inductive RegistryCall (σ : Type) where
  | direct (call : ContainerCall σ)
  | create (type : Option TypeToken) (view : View) (configuration : Configuration) (shared : Bool)

namespace RegistryCall

def run (catalogue : Catalogue σ υ) (world : World σ υ) : RegistryCall σ → World σ υ
  | .direct call => call.run catalogue world
  | .create type view configuration shared =>
      (Factory.createInstance catalogue type view configuration shared world).2

def runAll (catalogue : Catalogue σ υ) (calls : List (RegistryCall σ)) (world : World σ υ) :
    World σ υ := calls.foldl (run catalogue) world

def key? : RegistryCall σ → Option BindingKey
  | .direct (.bind key _) => some key
  | .direct (.bindValue type _ _) => some ⟨type, .concrete⟩
  | .direct (.resolve key) => some key
  | .create type view _ _ => type.map (⟨·, view⟩)

/-- The binding that a call would register. -/
def wanted? : RegistryCall σ → Option Binding
  | .direct (.bind key scope) => some ⟨key, scope, .constructor key.type key.form⟩
  | .direct (.bindValue type _ _) => some ⟨⟨type, .concrete⟩, .shared, .given⟩
  | .direct (.resolve _) => none
  | .create type view _ shared => type.map fun type =>
      ⟨⟨type, view⟩, .ofShared shared, .constructor type (BindingKey.form ⟨type, view⟩)⟩

/-- What a registration reports. The factory reports nothing, nor does a resolution. -/
def report? (world : World σ υ) : RegistryCall σ → Option Bool
  | .direct (.bind key _) => some (world.container.admits key)
  | .direct (.bindValue type _ _) => some (world.container.admits ⟨type, .concrete⟩)
  | .direct (.resolve _) => none
  | .create .. => none

def answer? (catalogue : Catalogue σ υ) (world : World σ υ) : RegistryCall σ → Option InstanceId
  | .direct (.bind _ _) => none
  | .direct (.bindValue _ _ _) => none
  | .direct (.resolve key) => (resolve catalogue key world).1.toOption
  | .create type view configuration shared =>
      (Factory.createInstance catalogue type view configuration shared world).1.toOption

omit [Inhabited σ] in
theorem key?_of_wanted {call : RegistryCall σ} {binding : Binding} (wanted : call.wanted? = some binding) :
    call.key? = some binding.key := by
  cases call with
  | direct call =>
    cases call with
    | bind key scope => cases wanted; rfl
    | bindValue type properties state => cases wanted; rfl
    | resolve key => cases wanted
  | create type view configuration shared =>
    cases type with
    | none => cases wanted
    | some type => cases wanted; rfl

/-! ### One call -/

section Step

variable (catalogue : Catalogue σ υ) (call : RegistryCall σ) (world : World σ υ)

/-- Whatever else it does, a call registers what it wants and no other binding. -/
theorem bindings_run :
    (call.run catalogue world).container.bindings =
      match call.wanted? with
      | some binding => (world.container.register binding).bindings
      | none => world.container.bindings := by
  cases call with
  | direct call =>
    cases call with
    | bind key scope => rfl
    | bindValue type properties state =>
      show (world.container.bindGiven type world.nextId).bindings = _
      cases bound : world.container.binding? ⟨type, .concrete⟩ with
      | none =>
        rw [Container.bindGiven_of_unbound bound, Container.bindings_fill]
        rfl
      | some held =>
        rw [Container.bindGiven_of_bound bound]
        simp [wanted?, Container.register, Container.isBound, bound]
    | resolve key => exact bindings_resolve catalogue key world
  | create type view configuration shared =>
    cases type with
    | none => rfl
    | some type =>
      have table := bindings_resolve catalogue ⟨type, view⟩
        (Factory.ensureBound ⟨type, view⟩ (.ofShared shared) world)
      rw [Factory.container_ensureBound] at table
      simp only [run, Factory.createInstance_some]
      revert table
      rcases resolve catalogue ⟨type, view⟩
        (Factory.ensureBound ⟨type, view⟩ (.ofShared shared) world) with ⟨error | created, after⟩
      · exact fun table => table
      · intro table
        exact (congrArg Container.bindings (configure_steady ..).container).trans table

theorem binding?_run (key : BindingKey) :
    (call.run catalogue world).container.binding? key =
      (world.container.binding? key).or (call.wanted?.toList.find? (·.key = key)) := by
  unfold Container.binding?
  rw [bindings_run]
  cases call.wanted? with
  | none => simp
  | some binding =>
    have registered := world.container.binding?_register binding key
    unfold Container.binding? at registered
    simp only [Option.toList_some, List.find?_singleton, decide_eq_true_eq]
    exact registered

theorem grows_run : world.Grows (call.run catalogue world) := by
  cases call with
  | direct call => exact call.run_grows catalogue world
  | create type view configuration shared => exact createInstance_grows ..

variable {world} in
theorem furnished_run (furnished : world.Furnished) : (call.run catalogue world).Furnished := by
  cases call with
  | direct call => exact call.run_furnished catalogue furnished
  | create type view configuration shared => exact furnished.createInstance ..

omit [Inhabited σ] in
variable {call world} in
theorem report?_of_wanted {binding : Binding} {reported : Bool} (wanted : call.wanted? = some binding)
    (reports : call.report? world = some reported) : reported = world.container.admits binding.key := by
  cases call with
  | direct call =>
    cases call with
    | bind key scope => cases wanted; exact (Option.some.inj reports).symm
    | bindValue type properties state => cases wanted; exact (Option.some.inj reports).symm
    | resolve key => cases reports
  | create type view configuration shared => cases reports

variable {catalogue call world} in
theorem container_of_refused (refused : call.report? world = some false) :
    (call.run catalogue world).container = world.container := by
  cases call with
  | direct call =>
    cases call with
    | bind key scope =>
      have bound : world.container.isBound key = true := by
        simpa [report?, Container.admits] using refused
      simp [run, ContainerCall.run, World.changeContainer, Container.bind, Container.register, bound]
    | bindValue type properties state =>
      have bound : world.container.isBound ⟨type, .concrete⟩ = true := by
        simpa [report?, Container.admits] using refused
      simp [run, ContainerCall.run, World.changeContainer, Container.bindGiven, World.add, bound]
    | resolve key => cases refused
  | create type view configuration shared => cases refused

end Step

/-! ### A history -/

section History

variable (catalogue : Catalogue σ υ) (calls : List (RegistryCall σ)) (world : World σ υ)

theorem binding?_runAll (key : BindingKey) :
    (runAll catalogue calls world).container.binding? key =
      (world.container.binding? key).or ((calls.filterMap (·.wanted?)).find? (·.key = key)) := by
  induction calls generalizing world with
  | nil => exact Option.or_none.symm
  | cons call rest ih =>
    have wanted : (call :: rest).filterMap (·.wanted?) =
        call.wanted?.toList ++ rest.filterMap (·.wanted?) := by
      rw [List.filterMap_cons]
      cases call.wanted? <;> rfl
    show (runAll catalogue rest (call.run catalogue world)).container.binding? key = _
    rw [ih, binding?_run, wanted, List.find?_append, Option.or_assoc]

omit [Inhabited σ] in
theorem find?_wanted_filter (calls : List (RegistryCall σ)) (key : BindingKey) :
    ((calls.filter fun call => decide (call.key? = some key)).filterMap (·.wanted?)).find?
        (·.key = key) =
      (calls.filterMap (·.wanted?)).find? (·.key = key) := by
  induction calls with
  | nil => rfl
  | cons call rest ih =>
    by_cases named : call.key? = some key
    · rw [List.filter_cons_of_pos (by simpa using named), List.filterMap_cons, List.filterMap_cons]
      cases call.wanted? with
      | none => exact ih
      | some binding => rw [List.find?_cons, List.find?_cons, ih]
    · rw [List.filter_cons_of_neg (by simpa using named), ih, List.filterMap_cons]
      cases wanted : call.wanted? with
      | none => rfl
      | some binding =>
        have apart : binding.key ≠ key := fun same =>
          named ((key?_of_wanted wanted).trans (congrArg some same))
        rw [List.find?_cons_of_neg (by simpa using apart)]

theorem keys_runAll (front : List BindingKey)
    (keys : world.container.bindings.map (·.key) = front.eraseDups) :
    (runAll catalogue calls world).container.bindings.map (·.key) =
      (front ++ (calls.filterMap (·.wanted?)).map (·.key)).eraseDups := by
  induction calls generalizing world front with
  | nil =>
    rw [List.filterMap_nil, List.map_nil, List.append_nil]
    exact keys
  | cons call rest ih =>
    show (runAll catalogue rest (call.run catalogue world)).container.bindings.map (·.key) = _
    have table := bindings_run catalogue call world
    cases wanted : call.wanted? with
    | none =>
      rw [wanted] at table
      rw [List.filterMap_cons_none wanted]
      exact ih _ front ((congrArg (List.map (·.key)) table).trans keys)
    | some binding =>
      rw [wanted] at table
      have touched : (call.run catalogue world).container.bindings.map (·.key) =
          (front ++ [binding.key]).eraseDups := by
        have bound : world.container.isBound binding.key = true ↔ binding.key ∈ front := by
          rw [← List.mem_eraseDups, ← keys, Container.isBound, Container.binding?,
            List.find?_isSome, List.mem_map]
          simp
        rw [table, eraseDups_concat, ← keys]
        simp only [Container.register, bound]
        split
        · rfl
        · exact List.map_append
      rw [List.filterMap_cons_some wanted, List.map_cons, List.append_cons]
      exact ih _ (front ++ [binding.key]) touched

theorem grows_runAll : world.Grows (runAll catalogue calls world) := by
  induction calls generalizing world with
  | nil => exact .refl world
  | cons call rest ih => exact (grows_run catalogue call world).trans (ih _)

variable {world} in
theorem furnished_runAll (furnished : world.Furnished) :
    (runAll catalogue calls world).Furnished := by
  induction calls generalizing world with
  | nil => exact furnished
  | cons call rest ih => exact ih (furnished_run catalogue call furnished)

end History

/-! ### Other keys -/

section Apart

variable {catalogue : Catalogue σ υ} {call : RegistryCall σ} {world : World σ υ} {key : BindingKey}

theorem cell?_register (apart : call.key? ≠ some key) (reports : call.report? world ≠ none) :
    (call.run catalogue world).container.cell? key = world.container.cell? key := by
  cases call with
  | direct call =>
    cases call with
    | bind other scope =>
      simp [run, ContainerCall.run, World.changeContainer, Container.bind, Container.cell?]
    | bindValue type properties state =>
      have different : key ≠ ⟨type, .concrete⟩ := fun same => apart (congrArg some same.symm)
      show (world.container.bindGiven type world.nextId).cell? key = _
      cases bound : world.container.binding? ⟨type, .concrete⟩ with
      | none =>
        rw [Container.bindGiven_of_unbound bound, Container.cell?_fill, if_neg different, Option.or_none]
        simp [Container.cell?]
      | some held => rw [Container.bindGiven_of_bound bound]
    | resolve other => exact absurd rfl reports
  | create type view configuration shared => exact absurd rfl reports

theorem cell?_resolve (furnished : world.Furnished) (other : BindingKey) :
    (resolve catalogue other world).2.container.cell? key = world.container.cell? key ∨
      world.container.cell? key = none ∧ world.container.scopeOf? key = some .shared ∧
        ∃ id, (resolve catalogue other world).2.container.cell? key = some id ∧
          (resolve catalogue other world).2.MadeFor key id := by
  obtain ⟨_, ran⟩ := runs_of_resolve catalogue other world
  cases full : (resolve catalogue other world).2.container.cell? key with
  | none =>
    refine .inl ?_
    cases before : world.container.cell? key with
    | none => rfl
    | some id =>
      rw [ran.grows.cells key id before] at full
      cases full
  | some id =>
    cases before : world.container.cell? key with
    | some held =>
      rw [ran.grows.cells key held before] at full
      exact .inl full.symm
    | none =>
      rcases ran.cell_origin full with there | ⟨shared, _⟩
      · rw [before] at there
        cases there
      · exact .inr ⟨rfl, shared, id, rfl, ((furnished.resolve catalogue other).cells key id full).1⟩

/-- A call that does not name a key leaves its binding and what its cell holds. If the cell is filled, then
in a resolution, with an instance made for the key. -/
theorem run_apart (furnished : world.Furnished) (apart : call.key? ≠ some key) :
    (call.run catalogue world).container.binding? key = world.container.binding? key ∧
      ((call.run catalogue world).container.cell? key = world.container.cell? key ∨
        call.report? world = none ∧ world.container.cell? key = none ∧
          world.container.scopeOf? key = some .shared ∧
            ∃ id, (call.run catalogue world).container.cell? key = some id ∧
              (call.run catalogue world).MadeFor key id) := by
  constructor
  · have elsewhere : call.wanted?.toList.find? (·.key = key) = none := by
      rw [List.find?_eq_none]
      intro binding among same
      have wanted := key?_of_wanted (Option.mem_toList.mp among)
      rw [of_decide_eq_true same] at wanted
      exact apart wanted
    rw [binding?_run, elsewhere, Option.or_none]
  · cases call with
    | direct call =>
      cases call with
      | bind other scope => exact .inl (cell?_register apart (by simp [report?]))
      | bindValue type properties state => exact .inl (cell?_register apart (by simp [report?]))
      | resolve other => exact (cell?_resolve furnished other).imp_right fun filled => ⟨rfl, filled⟩
    | create type view configuration shared =>
      cases type with
      | none => exact .inl rfl
      | some type =>
        -- A creation binds its own key first and resolves it then; only the second can reach another key.
        have different : (⟨type, view⟩ : BindingKey) ≠ key := fun same => apart (congrArg some same)
        have bound := Factory.container_ensureBound ⟨type, view⟩ (.ofShared shared) world
        have cell : (Factory.ensureBound ⟨type, view⟩ (.ofShared shared) world).container.cell? key =
            world.container.cell? key := by
          rw [bound]
          simp [Container.bind, Container.cell?]
        have scope : (Factory.ensureBound ⟨type, view⟩ (.ofShared shared) world).container.scopeOf? key =
            world.container.scopeOf? key := by
          rw [bound, Container.scopeOf?, Container.bind, Container.binding?_register, if_neg different,
            Option.or_none]
          rfl
        have resolved := @cell?_resolve _ _ _ catalogue _ key
          (furnished.ensureBound ⟨type, view⟩ (.ofShared shared)) ⟨type, view⟩
        rw [cell, scope] at resolved
        simp only [run, Factory.createInstance_some, report?, true_and]
        revert resolved
        rcases resolve catalogue ⟨type, view⟩
          (Factory.ensureBound ⟨type, view⟩ (.ofShared shared) world) with ⟨error | created, after⟩
        · exact fun resolved => resolved
        · intro resolved
          have steady := configure_steady created configuration after
          simp only [steady.container]
          refine resolved.imp_right ?_
          rintro ⟨empty, shared, id, full, made⟩
          exact ⟨empty, shared, id, full, made.steady steady⟩

theorem madeFor_answer (furnished : world.Furnished) {id : InstanceId}
    (answered : call.answer? catalogue world = some id) :
    ∃ key, call.key? = some key ∧ (call.run catalogue world).MadeFor key id := by
  cases call with
  | direct call =>
    cases call with
    | bind other scope => cases answered
    | bindValue type properties state => cases answered
    | resolve other =>
      simp only [answer?] at answered
      rcases outcome : resolve catalogue other world with ⟨error | got, after⟩
      · rw [outcome] at answered
        cases answered
      · rw [outcome] at answered
        obtain rfl := Option.some.inj answered
        refine ⟨other, rfl, ?_⟩
        simp only [run, ContainerCall.run, outcome]
        exact (resolve_delivery furnished outcome).madeFor furnished
  | create type view configuration shared =>
    simp only [answer?] at answered
    rcases outcome : Factory.createInstance catalogue type view configuration shared world with
      ⟨error | got, after⟩
    · rw [outcome] at answered
      cases answered
    · rw [outcome] at answered
      obtain rfl := Option.some.inj answered
      obtain ⟨known, reached, rfl, delivery, rfl⟩ := createInstance_delivery furnished outcome
      refine ⟨⟨known, view⟩, rfl, ?_⟩
      simp only [run, outcome]
      exact (delivery.madeFor (furnished.ensureBound ..)).steady (configure_steady ..)

end Apart

end RegistryCall

/-! ### Given values -/

theorem resolve_of_cell {catalogue : Catalogue σ υ} {world : World σ υ} {key : BindingKey}
    {id : InstanceId} (furnished : world.Furnished) (full : world.container.cell? key = some id) :
    resolve catalogue key world = (.ok id, world) := by
  obtain ⟨made, shared⟩ := furnished.cells key id full
  obtain ⟨binding, found, scope⟩ := Option.map_eq_some_iff.mp shared
  have run := @Runs.held _ _ _ catalogue ⟨[], world⟩ key binding id none List.not_mem_nil found scope full
  have answered := run.sound
  rw [made.readAs] at answered
  exact answered

omit [Inhabited σ] in
/-- What the first use of a key logs: that it bound it, or that it found another lifecycle. -/
theorem Factory.log_ensureBound (key : BindingKey) (scope : Scope) (world : World σ υ) :
    (Factory.ensureBound key scope world).log = world.log ++
      match world.container.scopeOf? key with
      | none => [Factory.boundEntry key scope]
      | some held => if held = scope then [] else [Factory.conflictEntry key scope held] := by
  unfold Factory.ensureBound
  cases world.container.scopeOf? key with
  | none => rfl
  | some held =>
    by_cases same : held = scope
    · simp [same]
    · simp only [if_neg same]
      rfl

/-- In every history of registrations, factory creations and resolutions the table is that of the first
registrations: a key has the binding that the first call for it wanted, the same as if no other key had
ever been named, and the size counts the keys. A registration reports whether it is the first of its key. If
it is, its binding stays, and a value that it gives answers every later resolution, which then does
nothing else; if it is not, it changes nothing of the container, and a creation changes no binding and logs
a lifecycle other than the first. A call that does not name a key leaves its binding and what its cell
holds; a resolution may fill the cell of a shared key, but only with an instance made for that key. What
is obtained for a key is made for it, and never what is obtained for another. -/
theorem first_registration_wins (catalogue : Catalogue σ υ) (start : World σ υ)
    (calls : List (RegistryCall σ)) :
    let world := RegistryCall.runAll catalogue calls start.unbound
    let wanted := calls.filterMap (·.wanted?)
    (∀ key,
      world.container.binding? key = wanted.find? (·.key = key) ∧
      world.container.isBound key = decide (key ∈ wanted.map (·.key)) ∧
      world.container.scopeOf? key = (wanted.find? (·.key = key)).map (·.scope) ∧
      world.container.binding? key =
        (RegistryCall.runAll catalogue (calls.filter fun call => decide (call.key? = some key))
          start.unbound).container.binding? key) ∧
    world.container.size = (wanted.map (·.key)).eraseDups.length ∧
    (∀ (call : RegistryCall σ) binding, call.wanted? = some binding →
      let after := call.run catalogue world
      (∀ reported, call.report? world = some reported →
        reported = decide (binding.key ∉ wanted.map (·.key))) ∧
      (binding.key ∉ wanted.map (·.key) → ∀ later,
        (RegistryCall.runAll catalogue later after).container.binding? binding.key = some binding) ∧
      (binding.key ∈ wanted.map (·.key) →
        after.container.bindings = world.container.bindings ∧
        (call.report? world = some false → after.container = world.container))) ∧
    (∀ type properties state, (⟨type, .concrete⟩ : BindingKey) ∉ wanted.map (·.key) →
      let given := (RegistryCall.direct (.bindValue type properties state)).run catalogue world
      given.instance? world.nextId = some ⟨type, .concrete type, properties, state⟩ ∧
      ∀ later,
        let after := RegistryCall.runAll catalogue later given
        resolve catalogue ⟨type, .concrete⟩ after = (.ok world.nextId, after)) ∧
    (∀ key scope, (Factory.ensureBound key scope world).log = world.log ++
      match wanted.find? (·.key = key) with
      | none => [Factory.boundEntry key scope]
      | some first =>
          if first.scope = scope then [] else [Factory.conflictEntry key scope first.scope]) ∧
    (∀ (call : RegistryCall σ) key, call.key? ≠ some key →
      let after := call.run catalogue world
      after.container.binding? key = world.container.binding? key ∧
      (after.container.cell? key = world.container.cell? key ∨
        call.report? world = none ∧ world.container.cell? key = none ∧
          world.container.scopeOf? key = some .shared ∧
            ∃ id, after.container.cell? key = some id ∧ after.MadeFor key id)) ∧
    ∀ (call : RegistryCall σ) id, call.answer? catalogue world = some id →
      ∃ key, call.key? = some key ∧ (call.run catalogue world).MadeFor key id ∧
        ∀ later (other : RegistryCall σ) again,
          other.answer? catalogue
              (RegistryCall.runAll catalogue later (call.run catalogue world)) = some again →
            other.key? ≠ some key → again ≠ id := by
  intro world wanted
  have furnished : world.Furnished :=
    RegistryCall.furnished_runAll catalogue calls (World.furnished_unbound start)
  have table : ∀ key, world.container.binding? key = wanted.find? (·.key = key) :=
    fun key => RegistryCall.binding?_runAll catalogue calls start.unbound key
  have bound : ∀ key, world.container.isBound key = decide (key ∈ wanted.map (·.key)) := by
    intro key
    rw [Container.isBound, table, Bool.eq_iff_iff, List.find?_isSome, decide_eq_true_eq, List.mem_map]
    simp only [decide_eq_true_eq]
  refine ⟨?_, ?_, ?_, ?_, ?_, ?_, ?_⟩
  · intro key
    refine ⟨table key, bound key, congrArg (Option.map _) (table key), ?_⟩
    rw [table, RegistryCall.binding?_runAll, RegistryCall.find?_wanted_filter]
    exact Option.none_or.symm
  · have keys := RegistryCall.keys_runAll catalogue calls start.unbound [] rfl
    rw [Container.size, ← List.length_map (f := (·.key)), keys]
    rfl
  · intro call binding wants after
    refine ⟨?_, ?_, ?_⟩
    · intro reported reports
      rw [RegistryCall.report?_of_wanted wants reports, Container.admits, bound, decide_not]
    · intro fresh later
      have absent : wanted.find? (·.key = binding.key) = none := by
        rw [List.find?_eq_none]
        intro other among same
        exact fresh (List.mem_map.mpr ⟨other, among, of_decide_eq_true same⟩)
      rw [RegistryCall.binding?_runAll, RegistryCall.binding?_run, table, absent, wants]
      simp
    · intro known
      have registered := RegistryCall.bindings_run catalogue call world
      rw [wants] at registered
      simp only [Container.register, bound, decide_eq_true known, ↓reduceIte] at registered
      exact ⟨registered, RegistryCall.container_of_refused⟩
  · intro type properties state fresh given
    have unbound : world.container.binding? ⟨type, .concrete⟩ = none := by
      have free : world.container.isBound ⟨type, .concrete⟩ = false :=
        (bound _).trans (decide_eq_false fresh)
      simpa [Container.isBound] using free
    -- What is not bound has an empty cell, so it is this value that the cell is filled with.
    have full : given.container.cell? ⟨type, .concrete⟩ = some world.nextId := by
      show (world.container.bindGiven type world.nextId).cell? _ = _
      have empty := furnished.cell_of_unbound unbound
      rw [Container.bindGiven_of_unbound unbound, Container.cell?_fill, if_pos rfl, Container.cell?,
        Container.cells_register, show world.container.cells.lookup _ = none from empty, Option.none_or]
    refine ⟨List.getElem?_concat_length, fun later => ?_⟩
    have stands : given.Furnished := RegistryCall.furnished_run catalogue _ furnished
    exact resolve_of_cell (RegistryCall.furnished_runAll catalogue later stands)
      ((RegistryCall.grows_runAll catalogue later given).cells _ _ full)
  · intro key scope
    rw [Factory.log_ensureBound, Container.scopeOf?, table]
    cases wanted.find? (·.key = key) <;> rfl
  · exact fun call key apart => RegistryCall.run_apart furnished apart
  · intro call id answered
    obtain ⟨key, named, made⟩ := RegistryCall.madeFor_answer furnished answered
    refine ⟨key, named, made, ?_⟩
    rintro later other again comes apart rfl
    have between := RegistryCall.grows_runAll catalogue later (call.run catalogue world)
    have onward := between.trans (RegistryCall.grows_run catalogue other _)
    obtain ⟨second, secondNamed, secondMade⟩ := RegistryCall.madeFor_answer
      (RegistryCall.furnished_runAll catalogue later
        (RegistryCall.furnished_run catalogue call furnished)) comes
    exact apart (secondNamed.trans (congrArg some (secondMade.key_eq (onward.kinds key again made))))

example :
    let gate : TypeToken := ⟨0, "field::Gate"⟩
    let other : TypeToken := ⟨1, "field::Gate"⟩
    let container := (((Container.empty.bind ⟨gate, .component⟩ .shared).bind ⟨other, .component⟩
      .transient).bind ⟨gate, .filter⟩ .transient).bind ⟨gate, .component⟩ .transient
    container.scopeOf? ⟨gate, .component⟩ = some .shared ∧
    container.scopeOf? ⟨other, .component⟩ = some .transient ∧
    container.scopeOf? ⟨gate, .filter⟩ = some .transient ∧
    container.admits ⟨gate, .component⟩ = false ∧ container.size = 3 := by
  decide

end EventPipeline
