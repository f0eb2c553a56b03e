import EventPipeline.Proofs.Dispatch.Staffing

/-! Recipes and instances, place by place.

A dispatcher is built by creating one instance after another, in the order in which its documents list their
recipes. Documents and dispatcher have one shape, so what is known of the recipes and the instances as two
flat rows is known of every recipe and the instance that stands in its place. -/

namespace EventPipeline

variable {σ υ α β γ δ : Type}

/-! ### Rows -/

theorem paired_and {R S : α → β → Prop} {left : List α} {right : List β}
    (one : List.Forall₂ R left right) (two : List.Forall₂ S left right) :
    List.Forall₂ (fun a b => R a b ∧ S a b) left right := by
  induction one with
  | nil => exact .nil
  | cons related _ ih =>
    cases two with
    | cons also rest => exact .cons ⟨related, also⟩ (ih rest)

theorem paired_meet {R : α → β → Prop} {S : α → γ → Prop} {T : β → γ → Prop} {middle : List α}
    {left : List β} {right : List γ} (one : List.Forall₂ R middle left)
    (two : List.Forall₂ S middle right) (meet : ∀ a ∈ middle, ∀ b c, R a b → S a c → T b c) :
    List.Forall₂ T left right := by
  induction one generalizing right with
  | nil =>
    cases two
    exact .nil
  | cons related _ ih =>
    cases two with
    | cons also rest =>
      refine .cons (meet _ (List.mem_cons_self ..) _ _ related also) (ih rest ?_)
      exact fun a among => meet a (List.mem_cons_of_mem _ among)

theorem OneOrMany.Related.meet {R : α → β → Prop} {S : α → γ → Prop} {T : β → γ → Prop}
    {entry : OneOrMany α} {left : OneOrMany β} {right : OneOrMany γ}
    (one : OneOrMany.Related R entry left) (two : OneOrMany.Related S entry right)
    (meet : ∀ a b c, R a b → S a c → T b c) : OneOrMany.Related T left right := by
  cases one with
  | one related =>
    cases two with
    | one also => exact .one (meet _ _ _ related also)
  | many related =>
    cases two with
    | many also => exact .many (paired_meet related also fun a _ => meet a)

/-- Of two rows that are related element by element, the parts that two structures of one shape spread
there are related as the structures are, and what is left of the rows is still related. -/
def Unrolls (R : γ → δ → Prop) (spread : α → List γ) (respread : β → List δ) (Shape T : α → β → Prop) :
    Prop :=
  ∀ a b rest others, Shape a b → List.Forall₂ R (spread a ++ rest) (respread b ++ others) →
    T a b ∧ List.Forall₂ R rest others

namespace Unrolls

variable {R : γ → δ → Prop} {spread : α → List γ} {respread : β → List δ} {Shape T : α → β → Prop}

theorem flatMap (unrolls : Unrolls R spread respread Shape T) :
    Unrolls R (List.flatMap spread) (List.flatMap respread) (List.Forall₂ Shape) (List.Forall₂ T) := by
  intro left right rest others shaped row
  induction shaped with
  | nil => exact ⟨.nil, row⟩
  | cons here _ ih =>
    rw [List.flatMap_cons, List.flatMap_cons, List.append_assoc, List.append_assoc] at row
    obtain ⟨first, later⟩ := unrolls _ _ _ _ here row
    obtain ⟨second, left⟩ := ih later
    exact ⟨.cons first second, left⟩

theorem all (unrolls : Unrolls R spread respread Shape T) {left : List α} {right : List β}
    (shaped : List.Forall₂ Shape left right)
    (row : List.Forall₂ R (left.flatMap spread) (right.flatMap respread)) : List.Forall₂ T left right := by
  rw [← List.append_nil (left.flatMap spread), ← List.append_nil (right.flatMap respread)] at row
  exact (unrolls.flatMap left right [] [] shaped row).1

end Unrolls

/-! ### Posts -/

section Posts

variable {P : Demand → InstanceId → Prop}

theorem OneOrMany.unrolls (P : Demand → InstanceId → Prop) (view : View) :
    Unrolls P (OneOrMany.demands view) OneOrMany.toList (OneOrMany.Related fun _ _ => True)
      (OneOrMany.Related fun recipe id => P ⟨view, recipe⟩ id) := by
  intro entry made rest others shaped row
  cases shaped with
  | one _ =>
    cases row with
    | cons here later => exact ⟨.one here, later⟩
  | @many entries ids paired =>
    have each : Unrolls P (fun recipe => [⟨view, recipe⟩]) (fun id => [id]) (fun _ _ => True)
        (fun recipe id => P ⟨view, recipe⟩ id) := by
      rintro recipe id rest others _ (_ | ⟨here, later⟩)
      exact ⟨here, later⟩
    have spread := each.flatMap entries ids rest others paired
    rw [← List.map_eq_flatMap, List.flatMap_singleton'] at spread
    obtain ⟨related, later⟩ := spread row
    exact ⟨.many related, later⟩

/-- Every extractor of a step stands where its recipe does in the document. -/
structure Step.Posted (P : Demand → InstanceId → Prop) (entry : MiddlewareDocument) (step : Step) :
    Prop where
  document : step.document = entry
  extractors : List.Forall₂ (fun (slot : UInt64 × OneOrMany Recipe) (made : UInt64 × OneOrMany InstanceId) =>
    slot.1 = made.1 ∧ OneOrMany.Related (fun recipe id => P ⟨.extractor, recipe⟩ id) slot.2 made.2)
      entry.extractors.entries step.extractors.entries

structure Pipeline.Posted (P : Demand → InstanceId → Prop) (document : PipelineDocument)
    (pipeline : Pipeline) : Prop where
  filters : List.Forall₂ (OneOrMany.Related fun recipe id => P ⟨.filter, recipe⟩ id) document.filters
    pipeline.filters
  steps : List.Forall₂ (Step.Posted P) document.middleware pipeline.steps

theorem Step.unrolls (P : Demand → InstanceId → Prop) :
    Unrolls P MiddlewareDocument.demands Step.instances
      (fun entry step => Step.Built entry step ∧
        List.Forall₂ (fun (slot : UInt64 × OneOrMany Recipe) (made : UInt64 × OneOrMany InstanceId) =>
          slot.1 = made.1 ∧ OneOrMany.Related (fun _ _ => True) slot.2 made.2)
            entry.extractors.entries step.extractors.entries)
      (Step.Posted P) := by
  rintro entry step rest others ⟨built, shaped⟩ row
  have slot : Unrolls P (fun slot : UInt64 × OneOrMany Recipe => slot.2.demands .extractor)
      (fun made : UInt64 × OneOrMany InstanceId => made.2.toList)
      (fun slot made => slot.1 = made.1 ∧ OneOrMany.Related (fun _ _ => True) slot.2 made.2)
      (fun slot made => slot.1 = made.1 ∧
        OneOrMany.Related (fun recipe id => P ⟨.extractor, recipe⟩ id) slot.2 made.2) := by
    rintro slot made rest others ⟨index, shaped⟩ row
    obtain ⟨related, later⟩ := OneOrMany.unrolls P .extractor slot.2 made.2 rest others shaped row
    exact ⟨⟨index, related⟩, later⟩
  obtain ⟨posted, later⟩ := slot.flatMap _ _ rest others shaped row
  exact ⟨⟨built.document, posted⟩, later⟩

theorem Pipeline.unrolls (P : Demand → InstanceId → Prop) :
    Unrolls P PipelineDocument.demands Pipeline.instances
      (fun document pipeline => Pipeline.Shaped document pipeline ∧ Pipeline.Built Stands document pipeline)
      (Pipeline.Posted P) := by
  rintro document pipeline rest others ⟨shaped, built⟩ row
  unfold PipelineDocument.demands Pipeline.instances at row
  rw [List.append_assoc, List.append_assoc] at row
  obtain ⟨filters, later⟩ := (OneOrMany.unrolls P .filter).flatMap _ _ _ _ shaped.filters row
  obtain ⟨steps, last⟩ := (Step.unrolls P).flatMap _ _ _ _ (paired_and built.steps shaped.extractors) later
  exact ⟨⟨filters, steps⟩, last⟩

end Posts

variable [Inhabited σ] {catalogue : Catalogue σ υ} {documents : List PipelineDocument}
  {dispatcher : Dispatcher} {world after : World σ υ}

theorem Dispatcher.build_posted (ran : Dispatcher.build catalogue documents world = (.ok dispatcher, after)) :
    ∃ served reached, Creations catalogue world served reached ∧
      served.map (·.1) = documents.flatMap PipelineDocument.demands ∧
      served.map (·.2) = dispatcher.instances ∧
      List.Forall₂ (Pipeline.Posted fun demand id => (demand, id) ∈ served) documents
        dispatcher.pipelines ∧
      after = reached.report (Dispatcher.readyEntry dispatcher.pipelines) := by
  obtain ⟨reached, ⟨served, creations, demands, ids⟩, shaped, rfl⟩ := Dispatcher.build_makes ran
  refine ⟨served, reached, creations, demands, ids, ?_, rfl⟩
  have row : List.Forall₂ (fun demand id => (demand, id) ∈ served)
      (documents.flatMap PipelineDocument.demands) (dispatcher.pipelines.flatMap Pipeline.instances) := by
    rw [← demands, show dispatcher.pipelines.flatMap Pipeline.instances = served.map (·.2) from ids.symm,
      List.forall₂_map_left_iff, List.forall₂_map_right_iff, List.forall₂_same]
    exact fun pair among => among
  exact (Pipeline.unrolls _).all (paired_and shaped (Dispatcher.build_stands ran)) row

end EventPipeline
