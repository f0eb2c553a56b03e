import EventPipeline.Proofs.World.Apart

/-! What a history of writes leaves in properties.

Properties are written by the factory, which merges a configuration onto them, and by the methods of
their instance, which set one key at a time. Of all these writes only the last under each key counts. A
whole history comes to the same as merging one configuration, and so do repeated merges. -/

namespace EventPipeline

open Json

variable {σ υ : Type} [Inhabited σ]

/-- One write to properties. -/
inductive Properties.Change where
  | merge (configuration : Configuration)
  | set (key : String) (value : Value)

namespace Properties

namespace Change

def apply (properties : Properties) : Change → Properties
  | .merge configuration => properties.merge configuration
  | .set key value => properties.set key value

def keys : Change → List String
  | .merge configuration => configuration.keys
  | .set key _ => [key]

/-- What a change writes under a key, if it writes there at all. -/
def written (key : String) : Change → Option Value
  | .merge configuration => configuration.get? key
  | .set other value => if key = other then some value else none

def perform (id : InstanceId) (world : World σ υ) : Change → World σ υ
  | .merge configuration => Factory.configure id configuration world
  | .set key value => (@World.answerOwn σ υ _ Cause id (.setProperty key value) world).2

theorem written_eq_none_iff {change : Change} {key : String} :
    change.written key = none ↔ key ∉ change.keys := by
  cases change with
  | merge configuration =>
    show configuration.get? key = none ↔ key ∉ configuration.keys
    rw [OrderedMap.mem_keys_iff, not_not]
  | set other value => simp [written, keys]

theorem get?_apply (properties : Properties) (change : Change) (key : String) :
    (change.apply properties).get? key = (change.written key).or (properties.get? key) := by
  cases change with
  | merge configuration => exact get?_merge properties configuration key
  | set other value =>
    show (properties.insert other value).get? key = _
    rw [OrderedMap.get?_insert, written]
    split
    · rfl
    · rfl

end Change

def after (initial : Properties) (changes : List Change) : Properties :=
  changes.foldl Change.apply initial

/-- What the last change that writes under a key writes there. -/
def lastWritten (changes : List Change) (key : String) : Option Value :=
  changes.reverse.findSome? (·.written key)

theorem lastWritten_cons (change : Change) (later : List Change) (key : String) :
    lastWritten (change :: later) key = (lastWritten later key).or (change.written key) := by
  rw [lastWritten, lastWritten, List.reverse_cons, List.findSome?_append, List.findSome?_singleton]

theorem get?_after (initial : Properties) (changes : List Change) (key : String) :
    (initial.after changes).get? key = (lastWritten changes key).or (initial.get? key) := by
  induction changes generalizing initial with
  | nil => rfl
  | cons change later ih =>
    show ((change.apply initial).after later).get? key = _
    rw [ih, Change.get?_apply, lastWritten_cons, Option.or_assoc]

def total (changes : List Change) : Configuration := Properties.after OrderedMap.empty changes

theorem get?_total (changes : List Change) (key : String) :
    (total changes).get? key = lastWritten changes key := by
  rw [total, get?_after, OrderedMap.get?_empty, Option.or_none]

theorem after_eq_merge (initial : Properties) (changes : List Change) :
    initial.after changes = initial.merge (total changes) := by
  apply OrderedMap.ext_get?
  intro key
  rw [get?_after, get?_merge, get?_total]

theorem lastWritten_eq_some_iff {changes : List Change} {key : String} {value : Value} :
    lastWritten changes key = some value ↔
      ∃ earlier change later, changes = earlier ++ change :: later ∧
        change.written key = some value ∧ ∀ other ∈ later, key ∉ other.keys := by
  unfold lastWritten
  rw [List.findSome?_eq_some_iff]
  constructor
  · intro ⟨back, change, front, shape, wrote, silent⟩
    refine ⟨front.reverse, change, back.reverse, ?_, wrote, ?_⟩
    · simpa using congrArg List.reverse shape
    · intro other among
      exact Change.written_eq_none_iff.mp (silent other (List.mem_reverse.mp among))
  · rintro ⟨earlier, change, later, rfl, wrote, silent⟩
    refine ⟨later.reverse, change, earlier.reverse, by simp, wrote, ?_⟩
    intro other among
    exact Change.written_eq_none_iff.mpr (silent other (List.mem_reverse.mp among))

theorem lastWritten_eq_none_iff {changes : List Change} {key : String} :
    lastWritten changes key = none ↔ ∀ change ∈ changes, key ∉ change.keys := by
  simp [lastWritten, Change.written_eq_none_iff]

theorem after_replicate (initial : Properties) (change : Change) (times : Nat) :
    initial.after (List.replicate (times + 1) change) = change.apply initial := by
  apply OrderedMap.ext_get?
  intro key
  have once : lastWritten (List.replicate (times + 1) change) key = change.written key := by
    simp [lastWritten]
  rw [get?_after, once, Change.get?_apply]

theorem after_swap (initial : Properties) (one other : Change)
    (disjoint : ∀ key ∈ one.keys, key ∉ other.keys) :
    initial.after [one, other] = initial.after [other, one] := by
  apply OrderedMap.ext_get?
  intro key
  show (other.apply (one.apply initial)).get? key = (one.apply (other.apply initial)).get? key
  simp only [Change.get?_apply]
  by_cases among : key ∈ one.keys
  · rw [Change.written_eq_none_iff.mpr (disjoint key among), Option.none_or, Option.none_or]
  · rw [Change.written_eq_none_iff.mpr among, Option.none_or, Option.none_or]

end Properties

omit [Inhabited σ] in
theorem World.Has.changeInstance_eq {world : World σ υ} {id : InstanceId} {held : Instance σ}
    (has : world.Has id held) (change : Instance σ → Instance σ) :
    world.changeInstance id change = world.changeInstance id fun _ => change held := by
  have same : world.instances.modify id change = world.instances.modify id fun _ => change held := by
    apply List.ext_getElem?
    intro other
    rw [List.getElem?_modify, List.getElem?_modify]
    by_cases here : id = other
    · subst here
      have found : world.instances[id]? = some held := has
      simp [found]
    · simp [here]
  exact congrArg (fun instances => { world with instances }) same

namespace Properties.Change

variable {world : World σ υ} {id : InstanceId} {held : Instance σ} {initial : Properties}

theorem perform_eq (has : world.Has id held) (exposed : held.properties = some initial)
    (change : Change) :
    change.perform id world =
      world.changeInstance id fun _ =>
        { held with properties := some (change.apply initial) } := by
  cases change with
  | merge configuration =>
    show Factory.configure id configuration world = _
    unfold Factory.configure
    rw [has.instanceAt, exposed]
    exact has.changeInstance_eq _
  | set key value =>
    refine (has.changeInstance_eq _).trans ?_
    rw [exposed]
    rfl

theorem performAll_eq (has : world.Has id held) (exposed : held.properties = some initial)
    (changes : List Change) :
    changes.foldl (perform id) world =
      world.changeInstance id fun _ =>
        { held with properties := some (initial.after changes) } := by
  induction changes generalizing world held initial with
  | nil =>
    have whole : { held with properties := some (initial.after []) } = held := by
      cases held
      cases exposed
      rfl
    rw [whole, ← has.changeInstance_eq fun found => found]
    have same : world.instances.modify id (fun found => found) = world.instances :=
      List.modify_id ..
    exact congrArg (fun instances => { world with instances }) same.symm
  | cons change later ih =>
    rw [List.foldl_cons, perform_eq has exposed, ih (has.changeOwn _) rfl]
    exact congrArg (fun instances => { world with instances }) (List.modify_modify_eq ..)

end Properties.Change

/-- After any history a key holds what the last set of it, or the last merge of a configuration that has
it, has written there as a whole, and what it held at first if there is none. On an instance whose
properties are so changed nothing else has changed. So merging a configuration again and again is
merging it once, two merges are one, of the first configuration overridden by the second, and they may
change places if they have no key in common. -/
theorem last_write_counts (initial : Properties) (changes : List Properties.Change) :
    (∀ key value, (initial.after changes).get? key = some value ↔
      (∃ earlier change later, changes = earlier ++ change :: later ∧
        change.written key = some value ∧ ∀ other ∈ later, key ∉ other.keys) ∨
      (∀ change ∈ changes, key ∉ change.keys) ∧ initial.get? key = some value) ∧
    (∀ key, (∀ change ∈ changes, key ∉ change.keys) →
      (initial.after changes).get? key = initial.get? key) ∧
    (∀ (world : World σ υ) (id : InstanceId) (held : Instance σ), world.Has id held →
      held.properties = some initial →
      changes.foldl (Properties.Change.perform id) world =
        world.changeInstance id fun _ =>
          { held with properties := some (initial.after changes) }) ∧
    (∀ configuration times,
      initial.after (List.replicate (times + 1) (.merge configuration)) =
        initial.merge configuration) ∧
    (∀ first second : Configuration, ∃ overridden : Configuration,
      (∀ key, overridden.get? key = (second.get? key).or (first.get? key)) ∧
      (initial.merge first).merge second = initial.merge overridden) ∧
    ∀ first second : Configuration, (∀ key ∈ first.keys, key ∉ second.keys) →
      (initial.merge first).merge second = (initial.merge second).merge first := by
  have untouched : ∀ key, (∀ change ∈ changes, key ∉ change.keys) →
      (initial.after changes).get? key = initial.get? key := by
    intro key silent
    rw [Properties.get?_after, Properties.lastWritten_eq_none_iff.mpr silent, Option.none_or]
  refine ⟨?_, untouched, ?_, ?_, ?_, ?_⟩
  · intro key value
    rw [Properties.get?_after, Option.or_eq_some_iff, Properties.lastWritten_eq_some_iff,
      Properties.lastWritten_eq_none_iff]
  · intro world id held has exposed
    exact Properties.Change.performAll_eq has exposed changes
  · intro configuration times
    exact Properties.after_replicate initial (.merge configuration) times
  · intro first second
    refine ⟨Properties.total [.merge first, .merge second], ?_,
      Properties.after_eq_merge initial [.merge first, .merge second]⟩
    intro key
    rw [Properties.get?_total, Properties.lastWritten_cons, Properties.lastWritten_cons]
    rfl
  · intro first second disjoint
    exact Properties.after_swap initial (.merge first) (.merge second) disjoint

example :
    Properties.after
        (OrderedMap.ofList [("a", .int 0), ("nested", .object [("x", .int 1), ("y", .int 2)])])
        [.merge (OrderedMap.ofList [("a", .int 1), ("nested", .object [("x", .int 3)])]),
          .merge OrderedMap.empty, .set "a" (.int 2)] =
      OrderedMap.ofList [("a", .int 2), ("nested", .object [("x", .int 3)])] := by
  decide +kernel

end EventPipeline
