import EventPipeline.Proofs.Effect.Keeping

/-! What a dispatcher is built of.

Every recipe is replaced by an instance that was created for it, in its place, and nothing else of a
document changes. What creating keeps, building keeps; and what is true of an instance once it is
created is true of it at the end, as long as creating others leaves it so. -/

namespace EventPipeline

variable {α β γ σ υ : Type}

theorem map_eq_map_of_paired {f : α → γ} {g : β → γ} {left : List α} {right : List β}
    (paired : List.Forall₂ (fun a b => f a = g b) left right) : left.map f = right.map g := by
  rw [← List.forall₂_eq_eq_eq, List.forall₂_map_left_iff, List.forall₂_map_right_iff]
  exact paired

theorem exists_of_paired {R : α → β → Prop} {left : List α} {right : List β}
    (paired : List.Forall₂ R left right) {b : β} (member : b ∈ right) : ∃ a ∈ left, R a b := by
  induction paired with
  | nil => cases member
  | @cons first other left right related _ ih =>
    rcases List.mem_cons.mp member with rfl | later
    · exact ⟨first, List.mem_cons_self .., related⟩
    · obtain ⟨a, among, found⟩ := ih later
      exact ⟨a, List.mem_cons_of_mem _ among, found⟩

/-- Entries of one shape whose members are related one by one. -/
inductive OneOrMany.Related (R : α → β → Prop) : OneOrMany α → OneOrMany β → Prop where
  | one {entry : α} {other : β} (related : R entry other) : Related R (.one entry) (.one other)
  | many {entries : List α} {others : List β} (related : List.Forall₂ R entries others) :
      Related R (.many entries) (.many others)

theorem OneOrMany.Related.imp {R S : α → β → Prop} (each : ∀ a b, R a b → S a b) {entry : OneOrMany α}
    {other : OneOrMany β} (related : OneOrMany.Related R entry other) :
    OneOrMany.Related S entry other := by
  cases related with
  | one related => exact .one (each _ _ related)
  | many related => exact .many (related.imp each)

theorem OneOrMany.Related.toList {R : α → β → Prop} {entry : OneOrMany α} {other : OneOrMany β}
    (related : OneOrMany.Related R entry other) : List.Forall₂ R entry.toList other.toList := by
  cases related with
  | one related => exact .cons related .nil
  | many related => exact related

theorem OneOrMany.Related.and_left {P : α → Prop} {R : α → β → Prop} {entry : OneOrMany α}
    {other : OneOrMany β} (each : ∀ a ∈ entry.toList, P a)
    (related : OneOrMany.Related R entry other) :
    OneOrMany.Related (fun a b => P a ∧ R a b) entry other := by
  cases related with
  | one related => exact .one ⟨each _ (List.mem_singleton_self _), related⟩
  | many related => exact .many ((List.forall₂_and_left _ _).mpr ⟨each, related⟩)

structure Step.Built (document : MiddlewareDocument) (step : Step) : Prop where
  indexes : step.extractors.keys = document.extractors.keys
  document : step.document = document

structure Pipeline.Built (R : Recipe → InstanceId → Prop) (document : PipelineDocument)
    (pipeline : Pipeline) : Prop where
  filters : List.Forall₂ (OneOrMany.Related R) document.filters pipeline.filters
  steps : List.Forall₂ Step.Built document.middleware pipeline.steps

theorem Pipeline.Built.and_left {P : Recipe → Prop} {R : Recipe → InstanceId → Prop}
    {document : PipelineDocument} {pipeline : Pipeline}
    (each : ∀ entry ∈ document.filters, ∀ recipe ∈ entry.toList, P recipe)
    (built : Pipeline.Built R document pipeline) :
    Pipeline.Built (fun recipe id => P recipe ∧ R recipe id) document pipeline := by
  have known := (List.forall₂_and_left _ _).mpr ⟨each, built.filters⟩
  exact ⟨known.imp fun entry other ⟨listed, related⟩ => related.and_left listed, built.steps⟩

section Build

open EventPipeline.Action (Keeps)

variable [Inhabited σ] {catalogue : Catalogue σ υ} {Holds : World σ υ → Prop}

section Keeping

variable (kept : ∀ recipe view, Keeps Holds (Factory.create catalogue recipe view false))

include kept

theorem instantiate_keeps (view : View) (entry : OneOrMany Recipe) :
    Keeps Holds (instantiate catalogue view entry) := by
  cases entry with
  | one recipe => exact (kept recipe view).bind fun _ => Keeps.pure _
  | many recipes => exact (Keeps.forEach (kept · view) recipes).bind fun _ => Keeps.pure _

theorem Step.build_keeps (document : MiddlewareDocument) :
    Keeps Holds (Step.build catalogue document) := by
  have slot : ∀ entry : UInt64 × OneOrMany Recipe, Keeps Holds (do
      let made ← instantiate catalogue .extractor entry.2
      pure (entry.1, made)) :=
    fun entry => (instantiate_keeps kept .extractor entry.2).bind fun _ => Keeps.pure _
  have slots : Keeps Holds (instantiateSlots catalogue document.extractors) :=
    (Keeps.forEach slot document.extractors.entries).bind fun _ => Keeps.pure _
  exact slots.bind fun _ => Keeps.pure _

theorem Pipeline.build_keeps (document : PipelineDocument) :
    Keeps Holds (Pipeline.build catalogue document) :=
  (Keeps.forEach (instantiate_keeps kept .filter) document.filters).bind fun _ =>
    (Keeps.forEach (Step.build_keeps kept) document.middleware).bind fun _ => Keeps.pure _

theorem Dispatcher.build_keeps (reported : ∀ world entry, Holds world → Holds (world.report entry))
    (documents : List PipelineDocument) : Keeps Holds (Dispatcher.build catalogue documents) := by
  have pipelines := (Keeps.forEach (Pipeline.build_keeps kept) documents).mapError
    DispatchError.ofFactory
  refine pipelines.bind fun built => Keeps.bind ?_ fun _ => Keeps.pure _
  exact fun world holds => reported world _ holds

end Keeping

theorem instantiateSlots_keys {recipes : OrderedMap UInt64 (OneOrMany Recipe)}
    {slots : OrderedMap UInt64 (OneOrMany InstanceId)} {world after : World σ υ}
    (ran : instantiateSlots catalogue recipes world = (.ok slots, after)) :
    slots.keys = recipes.keys := by
  obtain ⟨entries, between, each, done⟩ := Action.of_bind_ok ran
  cases done
  have keys : recipes.keys = entries.map (·.1) := by
    apply map_eq_map_of_paired
    apply Action.forEach_paired _ each
    intro entry state made after ran
    obtain ⟨value, between, _, done⟩ := Action.of_bind_ok ran
    cases done
    rfl
  have ascending : entries.Pairwise fun a b => a.1 < b.1 := by
    rw [← List.pairwise_map, ← keys, OrderedMap.keys, List.pairwise_map]
    exact recipes.ordered
  rw [keys, OrderedMap.keys, OrderedMap.entries_ofList ascending]

theorem Step.build_built {document : MiddlewareDocument} {step : Step} {world after : World σ υ}
    (ran : Step.build catalogue document world = (.ok step, after)) : Step.Built document step := by
  obtain ⟨slots, between, each, done⟩ := Action.of_bind_ok ran
  cases done
  exact ⟨instantiateSlots_keys each, rfl⟩

section Relating

open EventPipeline.Action (Lasts)

variable {R : World σ υ → Recipe → InstanceId → Prop}
  (kept : ∀ recipe view, Keeps Holds (Factory.create catalogue recipe view false))
  (created : ∀ recipe world made after, Holds world →
    Factory.create catalogue recipe .filter false world = (.ok made, after) → R after recipe made)
  (lasting : ∀ recipe view, Lasts Holds R (Factory.create catalogue recipe view false))

include kept created lasting

theorem instantiate_related {entry : OneOrMany Recipe} {world after : World σ υ}
    {made : OneOrMany InstanceId} (holds : Holds world)
    (ran : instantiate catalogue .filter entry world = (.ok made, after)) :
    OneOrMany.Related (R after) entry made := by
  cases entry with
  | one recipe =>
    obtain ⟨id, between, first, done⟩ := Action.of_bind_ok ran
    cases done
    exact .one (created recipe world id after holds first)
  | many recipes =>
    obtain ⟨ids, between, each, done⟩ := Action.of_bind_ok ran
    cases done
    exact .many (Action.forEach_related (kept · .filter) created (lasting · .filter) holds each)

omit created in
theorem create_lasts_related (recipe : Recipe) (view : View) :
    Lasts Holds (fun world => OneOrMany.Related (R world))
      (Factory.create catalogue recipe view false) := by
  intro entry made world ⟨holds, related⟩
  exact ⟨kept recipe view world holds, related.imp fun other id held =>
    (lasting recipe view other id world ⟨holds, held⟩).2⟩

theorem Pipeline.build_built {document : PipelineDocument} {pipeline : Pipeline}
    {world after : World σ υ} (holds : Holds world)
    (ran : Pipeline.build catalogue document world = (.ok pipeline, after)) :
    Pipeline.Built (R after) document pipeline := by
  obtain ⟨filters, between, first, later⟩ := Action.of_bind_ok ran
  obtain ⟨steps, last, second, done⟩ := Action.of_bind_ok later
  cases done
  have entries_last := create_lasts_related kept lasting
  have filtered : List.Forall₂ (OneOrMany.Related (R between)) document.filters filters :=
    Action.forEach_related (instantiate_keeps kept .filter)
      (fun entry world made after holds ran =>
        instantiate_related kept created lasting holds ran)
      (fun entry other made =>
        instantiate_keeps (fun recipe view => entries_last recipe view other made) .filter entry)
      holds first
  have holding := Keeps.forEach (instantiate_keeps kept .filter) document.filters world holds
  rw [first] at holding
  have still := Keeps.forEach
    (Step.build_keeps fun recipe view =>
      (entries_last recipe view).all (kept recipe view) document.filters filters)
    document.middleware between ⟨holding, filtered⟩
  rw [second] at still
  have stepped : List.Forall₂ Step.Built document.middleware steps := by
    apply Action.forEach_paired _ second
    exact fun _ _ _ _ built => Step.build_built built
  exact ⟨still.2, stepped⟩

/-- Every pipeline of a dispatcher is built from its document, and so it still is when all the others
are built. -/
theorem Dispatcher.build_built {documents : List PipelineDocument} {dispatcher : Dispatcher}
    {world after : World σ υ} (holds : Holds world)
    (reported : ∀ world entry other id, R world other id → R (World.report world entry) other id)
    (ran : Dispatcher.build catalogue documents world = (.ok dispatcher, after)) :
    List.Forall₂ (Pipeline.Built (R after)) documents dispatcher.pipelines := by
  obtain ⟨pipelines, between, first, later⟩ := Action.of_bind_ok ran
  have each := Action.of_mapError_ok first
  cases later
  have entries_last := create_lasts_related kept lasting
  have built : List.Forall₂ (Pipeline.Built (R between)) documents pipelines := by
    apply Action.forEach_related (Pipeline.build_keeps kept) _ _ holds each
    · intro document world pipeline after holds ran
      exact Pipeline.build_built kept created lasting holds ran
    · intro document other made world ⟨holding, already⟩
      have still := Pipeline.build_keeps (fun recipe view =>
        (entries_last recipe view).all (kept recipe view) other.filters made.filters)
        document world ⟨holding, already.filters⟩
      exact ⟨still.1, still.2, already.steps⟩
  apply built.imp
  intro document pipeline made
  refine ⟨made.filters.imp fun entry other related => ?_, made.steps⟩
  exact related.imp fun recipe id held => reported between _ recipe id held

end Relating

end Build

end EventPipeline
