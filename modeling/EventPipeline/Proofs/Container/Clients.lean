import Mathlib.Logic.Relation
import EventPipeline.Proofs.Container.Registration

/-! Containers in the hands of any user code.

A constructor gets at the container that builds it. At any moment it may bind, give a value, use the instances
there are, or have something resolved, through its own resolver or through a new one, and in the end it may fail
with whatever error it likes. So that nothing rests on what constructors do, the container is seen here as a
machine: a step is one thing that it does, or one thing that user code may do to it. Every resolution, every
creation and every call is a run of this machine, and what its steps keep holds whatever the constructors are. -/

namespace EventPipeline

open Json

variable {σ υ : Type}

/-- A provider that has begun: the keys that were under construction when its key was requested, the key, and the
binding it belongs to. -/
structure Frame where
  path : List BindingKey
  key : BindingKey
  binding : Binding

/-- User code at work on a container: the providers that have not ended, the innermost first. -/
structure Scene (σ υ : Type) where
  frames : List Frame
  world : World σ υ

inductive Occurrence where
  | used
  | began (key : BindingKey) (provider : Provider)
  | failed (key : BindingKey) (error : ResolutionError)
  | answered (key : BindingKey) (answer : Except ResolutionError InstanceId)

namespace Scene

def path (scene : Scene σ υ) : List BindingKey :=
  match scene.frames with
  | [] => []
  | frame :: _ => frame.path ++ [frame.key]

/-- A request goes through the resolver at hand or through a new one. -/
def Offers (scene : Scene σ υ) (path : List BindingKey) : Prop := path = scene.path ∨ path = []

variable [Inhabited σ]

/-- One thing that the container does, or that user code does to it. The provider of a shared key may begin again
while it is at work, where a container would wait for ever: to allow more steps does no harm here. -/
inductive Step : Scene σ υ → Occurrence → Scene σ υ → Prop where
  | bind {frames : List Frame} {world : World σ υ} (key : BindingKey) (scope : Scope) :
      Step ⟨frames, world⟩ .used ⟨frames, world.changeContainer (·.bind key scope)⟩
  | give {frames : List Frame} {world : World σ υ} (type : TypeToken)
      (properties : Option Properties) (state : σ) :
      Step ⟨frames, world⟩ .used
        ⟨frames, (world.add ⟨type, .concrete type, properties, state⟩).changeContainer
          (·.bindGiven type world.nextId)⟩
  | use {frames : List Frame} {world after : World σ υ} (steady : world.Steady after) :
      Step ⟨frames, world⟩ .used ⟨frames, after⟩
  | circular {scene : Scene σ υ} {path : List BindingKey} {key : BindingKey}
      (through : scene.Offers path) (onPath : key ∈ path) :
      Step scene (.answered key (.error (.circular ((path ++ [key]).map (·.name))))) scene
  | unbound {scene : Scene σ υ} {path : List BindingKey} {key : BindingKey}
      (through : scene.Offers path) (fresh : key ∉ path)
      (missing : scene.world.container.binding? key = none) :
      Step scene (.answered key (.error (.unbound key.name))) scene
  | held {scene : Scene σ υ} {path : List BindingKey} {key : BindingKey} {binding : Binding}
      {id : InstanceId} (through : scene.Offers path) (fresh : key ∉ path)
      (found : scene.world.container.binding? key = some binding) (shared : binding.scope = .shared)
      (full : scene.world.container.cell? key = some id) :
      Step scene (.answered key (readAs key id scene.world).1) scene
  | begin {frames : List Frame} {world : World σ υ} {path : List BindingKey} {key : BindingKey}
      {binding : Binding} (through : (⟨frames, world⟩ : Scene σ υ).Offers path) (fresh : key ∉ path)
      (found : world.container.binding? key = some binding)
      (vacant : binding.scope = .shared → world.container.cell? key = none) :
      Step ⟨frames, world⟩ (.began key binding.provider) ⟨⟨path, key, binding⟩ :: frames, world⟩
  | spend {frame : Frame} {frames : List Frame} {world : World σ υ}
      (given : frame.binding.provider = .given) :
      Step ⟨frame :: frames, world⟩ (.answered frame.key (.error (.unbound frame.key.name)))
        ⟨frames, world⟩
  | fail {frame : Frame} {frames : List Frame} {world : World σ υ} {type : TypeToken} {form : Form}
      (provider : frame.binding.provider = .constructor type form) (error : ResolutionError) :
      Step ⟨frame :: frames, world⟩ (.failed frame.key error) ⟨frames, world⟩
  | make {frame : Frame} {frames : List Frame} {world : World σ υ} {type : TypeToken} {form : Form}
      (provider : frame.binding.provider = .constructor type form)
      (properties : Option Properties) (state : σ) :
      Step ⟨frame :: frames, world⟩
        (.answered frame.key
          (readAs frame.key world.nextId (world.add ⟨type, form, properties, state⟩)).1)
        ⟨frames, (world.add ⟨type, form, properties, state⟩).keep frame.binding.scope frame.key
          world.nextId⟩

def Follows (scene after : Scene σ υ) : Prop := ∃ occurrence, Step scene occurrence after

def Leads : Scene σ υ → Scene σ υ → Prop := Relation.ReflTransGen Follows

/-- What user code can come to when it begins with a container without bindings. -/
def Reached (start : World σ υ) (scene : Scene σ υ) : Prop := Leads ⟨[], start.unbound⟩ scene

theorem Step.leads {scene after : Scene σ υ} {occurrence : Occurrence}
    (step : scene.Step occurrence after) : scene.Leads after := .single ⟨occurrence, step⟩

end Scene

/-! ### What every step keeps -/

def World.Builds (key : BindingKey) (world : World σ υ) : Prop :=
  ∃ binding, world.container.binding? key = some binding ∧
    binding.provider = .constructor key.type key.form

theorem World.Builds.onward {key : BindingKey} {world after : World σ υ} (builds : world.Builds key)
    (grows : world.Grows after) : after.Builds key := by
  obtain ⟨binding, found, own⟩ := builds
  exact ⟨binding, grows.bindings key binding found, own⟩

/-- A provider at work in this world is a constructor of its own type, and so are all that wait for it. -/
structure Frame.Stands (world : World σ υ) (frame : Frame) : Prop where
  bound : world.container.binding? frame.key = some frame.binding
  builds : ∀ key ∈ frame.path ++ [frame.key], world.Builds key

namespace Frame.Stands

variable {world after : World σ υ} {frame : Frame}

theorem onward (stands : frame.Stands world) (grows : world.Grows after) : frame.Stands after :=
  ⟨grows.bindings _ _ stands.bound, fun key among => (stands.builds key among).onward grows⟩

theorem provider (stands : frame.Stands world) :
    frame.binding.provider = .constructor frame.key.type frame.key.form := by
  obtain ⟨binding, found, own⟩ := stands.builds frame.key
    (List.mem_append_right _ (List.mem_singleton_self _))
  rw [Option.some.inj (stands.bound.symm.trans found)]
  exact own

theorem kind (stands : frame.Stands world) {type : TypeToken} {form : Form}
    (provider : frame.binding.provider = .constructor type form) :
    type = frame.key.type ∧ form = frame.key.form :=
  Provider.constructor.inj (provider.symm.trans stands.provider)

end Frame.Stands

/-- What holds in every scene that user code can come to. -/
structure Scene.Stands (scene : Scene σ υ) : Prop where
  furnished : scene.world.Furnished
  frames : ∀ frame ∈ scene.frames, frame.Stands scene.world

/-- What a step may show. What the container answers is an instance made for the key, a cycle, or that the key is
not bound; only constructors of a key's own type and form begin to run. -/
def Occurrence.Fits (before after : World σ υ) : Occurrence → Prop
  | .used => True
  | .began key provider => provider = .constructor key.type key.form
  | .failed _ _ => True
  | .answered key (.ok id) => after.MadeFor key id
  | .answered key (.error error) =>
      (∃ names, error = .circular names) ∨
        before.container.binding? key = none ∧ error = .unbound key.name

namespace Scene

variable {scene after : Scene σ υ} {occurrence : Occurrence}

theorem Stands.builds_of_offered (stands : scene.Stands) {path : List BindingKey}
    (offered : scene.Offers path) : ∀ key ∈ path, scene.world.Builds key := by
  intro key among
  rcases offered with rfl | rfl
  · unfold Scene.path at among
    split at among
    · cases among
    · next frame rest shape =>
      exact (stands.frames frame (shape ▸ List.mem_cons_self)).builds key among
  · cases among

variable [Inhabited σ]

theorem Step.grows (step : scene.Step occurrence after) : scene.world.Grows after.world := by
  cases step with
  | bind => exact .bind ..
  | give => exact (World.Grows.add ..).trans (.bindGiven ..)
  | use steady => exact .ofSteady steady
  | make => exact (World.Grows.add ..).trans (.keep ..)
  | _ => exact .refl _

theorem Step.furnished (step : scene.Step occurrence after) (stands : scene.Stands) :
    after.world.Furnished := by
  have furnished := stands.furnished
  cases step with
  | bind key scope => exact furnished.bind key scope
  | give type properties state =>
    exact (furnished.add _).bindGiven (World.madeFor_add_nextId _ rfl rfl)
  | use steady => exact furnished.steady steady
  | make provider properties state =>
    have top := stands.frames _ List.mem_cons_self
    obtain ⟨rfl, rfl⟩ := top.kind provider
    exact (furnished.add _).keep (World.madeFor_add_nextId _ rfl rfl) (congrArg (Option.map _) top.bound)
  | _ => exact furnished

theorem Step.stands (step : scene.Step occurrence after) (stands : scene.Stands) : after.Stands where
  furnished := step.furnished stands
  frames := by
    have onward : ∀ frame ∈ scene.frames, frame.Stands after.world :=
      fun frame among => (stands.frames frame among).onward step.grows
    cases step with
    | begin through fresh found vacant =>
      intro frame among
      rcases List.mem_cons.mp among with rfl | before
      · refine ⟨found, fun key listed => ?_⟩
        rcases List.mem_append.mp listed with waiting | own
        · exact stands.builds_of_offered through key waiting
        · rw [List.mem_singleton.mp own]
          exact ⟨_, found, stands.furnished.constructor_of_vacant found vacant⟩
      · exact onward frame before
    | spend => exact fun frame among => onward frame (List.mem_cons_of_mem _ among)
    | fail => exact fun frame among => onward frame (List.mem_cons_of_mem _ among)
    | make => exact fun frame among => onward frame (List.mem_cons_of_mem _ among)
    | _ => exact onward

theorem Step.fits (step : scene.Step occurrence after) (stands : scene.Stands) :
    occurrence.Fits scene.world after.world := by
  cases step with
  | circular => exact .inl ⟨_, rfl⟩
  | unbound _ _ missing => exact .inr ⟨missing, rfl⟩
  | held _ _ _ _ full =>
    have made := (stands.furnished.cells _ _ full).1
    rw [made.readAs]
    exact made
  | begin _ _ found vacant => exact stands.furnished.constructor_of_vacant found vacant
  | spend given =>
    -- A value that was given is in its cell, so its provider has never begun.
    have own := (stands.frames _ List.mem_cons_self).provider
    rw [given] at own
    cases own
  | @make frame _ world _ _ provider properties state =>
    obtain ⟨rfl, rfl⟩ := (stands.frames frame List.mem_cons_self).kind provider
    have made : (world.add ⟨frame.key.type, frame.key.form, properties, state⟩).MadeFor
        frame.key world.nextId := world.madeFor_add_nextId rfl rfl
    rw [made.readAs]
    exact made.keep ..
  | _ => trivial

theorem Reached.stands {start : World σ υ} (reached : scene.Reached start) : scene.Stands := by
  induction reached with
  | refl => exact ⟨World.furnished_unbound start, fun _ among => (List.not_mem_nil among).elim⟩
  | tail _ follows ih =>
    obtain ⟨_, step⟩ := follows
    exact step.stands ih

end Scene

/-! ### What is run by the machine -/

variable [Inhabited σ]

/-- What a task comes to, as steps over the providers that are at work. The last step of a constructor that
makes an instance belongs to the request that it answers. -/
def Task.Plays (frames : List Frame) (before after : World σ υ)
    (result : Except ResolutionError InstanceId) : Task σ υ → Prop
  | .resolve _ _ => Scene.Leads ⟨frames, before⟩ ⟨frames, after⟩
  | .construct _ type form _ => ∃ reached, Scene.Leads ⟨frames, before⟩ ⟨frames, reached⟩ ∧
      match result with
      | .error _ => after = reached
      | .ok id => id = reached.nextId ∧
          ∃ properties state, after = reached.add ⟨type, form, properties, state⟩

section Runs

variable {catalogue : Catalogue σ υ}

theorem Runs.plays {task : Task σ υ} {before after : Resolver σ υ} {incidents : List Incident}
    {result : Except ResolutionError InstanceId}
    (run : Runs catalogue task before incidents result after) (frames : List Frame)
    (same : (⟨frames, before.world⟩ : Scene σ υ).path = before.path) :
    task.Plays frames before.world after.world result := by
  -- For each constructor at work there is a frame, put on when it begins and taken off when it ends.
  induction run generalizing frames with
  | circular requester onPath => exact (Scene.Step.circular (.inl same.symm) onPath).leads
  | unbound requester fresh missing =>
    exact (Scene.Step.unbound (.inl same.symm) fresh missing).leads
  | held requester fresh found shared full =>
    exact (Scene.Step.held (.inl same.symm) fresh found shared full).leads
  | @spent resolver key binding requester fresh found vacant given =>
    have begins := Scene.Step.begin (.inl same.symm) fresh found vacant
    exact begins.leads.trans (Scene.Step.spend given).leads
  | @failed resolver reached key binding type form _ error requester fresh found vacant provider
      construction ih =>
    have begins := Scene.Step.begin (.inl same.symm) fresh found vacant
    obtain ⟨_, inner, rfl⟩ := ih (⟨resolver.path, key, binding⟩ :: frames) rfl
    exact begins.leads.trans (inner.trans (Scene.Step.fail provider error).leads)
  | @built resolver reached key binding type form _ id requester fresh found vacant provider
      construction ih =>
    have begins := Scene.Step.begin (.inl same.symm) fresh found vacant
    obtain ⟨between, inner, rfl, properties, state, made⟩ :=
      ih (⟨resolver.path, key, binding⟩ :: frames) rfl
    simp only [Task.Plays, Resolver.pop, Resolver.keep, made]
    exact begins.leads.trans (inner.trans (Scene.Step.make provider properties state).leads)
  | raised => exact ⟨_, .refl, rfl⟩
  | made => exact ⟨_, .refl, rfl, _, _, rfl⟩
  | asked nested later first second =>
    obtain ⟨reached, inner, ends⟩ := second frames (same.trans nested.path_eq.symm)
    exact ⟨reached, (first frames same).trans inner, ends⟩
  | other plain answered later ih =>
    obtain ⟨reached, inner, ends⟩ := ih frames same
    have uses := @Scene.Step.use _ _ _ frames _ _ (steady_of_answered plain answered)
    exact ⟨reached, uses.leads.trans inner, ends⟩

theorem Arises.plays {task inner : Task σ υ} {resolver found : Resolver σ υ}
    (arises : Arises catalogue task resolver inner found) (frames : List Frame)
    (same : (⟨frames, resolver.world⟩ : Scene σ υ).path = resolver.path) :
    ∃ reached : Scene σ υ, reached.world = found.world ∧ reached.path = found.path ∧
      Scene.Leads ⟨frames, resolver.world⟩ reached := by
  induction arises generalizing frames with
  | self task resolver => exact ⟨_, rfl, same, .refl⟩
  | @entered _ resolver _ key binding _ _ requester fresh bound vacant provider within ih =>
    have begins := Scene.Step.begin (.inl same.symm) fresh bound vacant
    obtain ⟨reached, world, path, inner⟩ := ih (⟨resolver.path, key, binding⟩ :: frames) rfl
    exact ⟨reached, world, path, begins.leads.trans inner⟩
  | nested within ih => exact ih frames same
  | asked run within ih =>
    obtain ⟨reached, world, path, inner⟩ := ih frames (same.trans run.path_eq.symm)
    have first : Scene.Leads _ _ := run.plays frames same
    exact ⟨reached, world, path, first.trans inner⟩
  | other plain answered within ih =>
    obtain ⟨reached, world, path, inner⟩ := ih frames same
    have uses := @Scene.Step.use _ _ _ frames _ _ (steady_of_answered plain answered)
    exact ⟨reached, world, path, uses.leads.trans inner⟩

variable (catalogue)

theorem Scene.leads_resolve (key : BindingKey) (world : World σ υ) :
    Leads ⟨[], world⟩ ⟨[], (resolve catalogue key world).2⟩ := by
  obtain ⟨_, run⟩ := runs_of_resolve catalogue key world
  exact run.plays [] rfl

theorem Scene.leads_ensureBound (key : BindingKey) (scope : Scope) (world : World σ υ) :
    Leads ⟨[], world⟩ ⟨[], Factory.ensureBound key scope world⟩ :=
  (Step.bind key scope).leads.trans (Step.use (Factory.ensureBound_steady key scope world)).leads

theorem RegistryCall.leads (call : RegistryCall σ) (world : World σ υ) :
    Scene.Leads ⟨[], world⟩ ⟨[], call.run catalogue world⟩ := by
  cases call with
  | direct call =>
    cases call with
    | bind key scope => exact (Scene.Step.bind key scope).leads
    | bindValue type properties state => exact (Scene.Step.give type properties state).leads
    | resolve key => exact Scene.leads_resolve catalogue key world
  | create type view configuration shared =>
    cases type with
    | none => exact .refl
    | some type =>
      have resolved := (Scene.leads_ensureBound ⟨type, view⟩ (.ofShared shared) world).trans
        (Scene.leads_resolve catalogue ⟨type, view⟩ _)
      simp only [run, Factory.createInstance_some]
      revert resolved
      rcases resolve catalogue ⟨type, view⟩
        (Factory.ensureBound ⟨type, view⟩ (.ofShared shared) world) with ⟨error | created, after⟩
      · exact fun resolved => resolved
      · exact fun resolved => resolved.trans (Scene.Step.use (configure_steady ..)).leads

theorem Scene.reached_runAll (start : World σ υ) (calls : List (RegistryCall σ)) :
    Reached start ⟨[], RegistryCall.runAll catalogue calls start.unbound⟩ := by
  have onward : ∀ world : World σ υ,
      Leads ⟨[], world⟩ ⟨[], RegistryCall.runAll catalogue calls world⟩ := by
    induction calls with
    | nil => exact fun _ => .refl
    | cons call rest ih => exact fun world => (call.leads catalogue world).trans (ih _)
  exact onward start.unbound

end Runs

end EventPipeline
