import EventPipeline.Compilation
import EventPipeline.Proofs.Dispatch.Live

/-! How many slots a step looks at.

The arity of a step is the successor of its last index, counted in machine words. So it lies above every
index, and a step gets to all its extractors, unless one of them stands at the greatest word. There the
successor is zero, and none of the extractors is asked, wherever they stand. -/

namespace EventPipeline

open Json

variable {σ υ : Type}

def greatestIndex : UInt64 := 18446744073709551615

theorem ne_greatestIndex_iff {index : UInt64} :
    index ≠ greatestIndex ↔ index.toNat + 1 < UInt64.size := by
  have word := index.toNat_lt
  rw [Ne, ← UInt64.toNat_inj]
  show index.toNat ≠ 18446744073709551615 ↔ index.toNat + 1 < 18446744073709551616
  omega

namespace MiddlewareDocument

variable {document : MiddlewareDocument}

theorem bounded_of_absent (absent : greatestIndex ∉ document.extractors.keys) :
    ∀ index ∈ document.extractors.keys, index.toNat + 1 < UInt64.size := by
  intro index member
  apply ne_greatestIndex_iff.mp
  rintro rfl
  exact absent member

theorem arity_eq_zero (member : greatestIndex ∈ document.extractors.keys) : document.arity = 0 := by
  unfold arity
  split
  · next last entry ends =>
    rcases OrderedMap.le_last ends member with below | same
    · have order := UInt64.lt_iff_toNat_lt.mp below
      have word : last.toNat < 18446744073709551616 := last.toNat_lt
      have greatest : greatestIndex.toNat = 18446744073709551615 := rfl
      simp only at order
      omega
    · simp only at same
      rw [← same]
      rfl
  · rfl

theorem toNat_arity (absent : greatestIndex ∉ document.extractors.keys) {last : UInt64}
    (ends : document.extractors.keys.getLast? = some last) :
    document.arity.toNat = last.toNat + 1 := by
  have member : last ∈ document.extractors.keys := List.mem_of_getLast? ends
  rw [OrderedMap.keys, List.getLast?_map, Option.map_eq_some_iff] at ends
  obtain ⟨⟨index, entry⟩, final, rfl⟩ := ends
  unfold arity
  rw [final]
  simp only
  rw [UInt64.toNat_add]
  exact Nat.mod_eq_of_lt (bounded_of_absent absent _ member)

/-- The arity covers every index just when the greatest word is none of them. -/
theorem covers_iff : (∀ index ∈ document.extractors.keys, index.toNat < document.arity.toNat) ↔
    greatestIndex ∉ document.extractors.keys := by
  constructor
  · intro covers member
    have below := covers greatestIndex member
    rw [arity_eq_zero member] at below
    exact Nat.not_lt_zero _ below
  · exact fun absent index member => toNat_lt_arity (bounded_of_absent absent) member

end MiddlewareDocument

/-- Which extractors a step gets to when it fills its slots: all of them, in turn up to the first that fails,
or none. -/
structure Step.Spans [Inhabited σ] (catalogue : Catalogue σ υ) (entry : MiddlewareDocument) (step : Step) :
    Prop where
  indexes : step.extractors.keys = entry.extractors.keys
  covers : (∀ index ∈ entry.extractors.keys, index.toNat < entry.arity.toNat) ↔
    greatestIndex ∉ entry.extractors.keys
  all : greatestIndex ∉ entry.extractors.keys →
    (∀ last, entry.extractors.keys.getLast? = some last → entry.arity.toNat = last.toNat + 1) ∧
    ∀ event world, ∃ deeds result,
      Aside catalogue event world deeds (step.slots catalogue event world).2 ∧
      InTurn Filling step.extractors.entries deeds result step.extractors.entries ∧
      (step.slots catalogue event world).1 = result.map (Slots.place entry.arity.toNat)
  none : greatestIndex ∈ entry.extractors.keys →
    entry.arity = 0 ∧ ∀ event world, step.slots catalogue event world = (.ok [], world)

section Reach

variable [Inhabited σ] {catalogue : Catalogue σ υ}

theorem Step.Built.spans {entry : MiddlewareDocument} {step : Step} (built : Step.Built entry step) :
    step.Spans catalogue entry := by
  obtain ⟨indexes, rfl⟩ := built
  refine ⟨indexes, MiddlewareDocument.covers_iff, ?_, ?_⟩
  · intro absent
    refine ⟨fun last => MiddlewareDocument.toNat_arity absent, fun event world => ?_⟩
    rw [← Step.reached_eq indexes (MiddlewareDocument.bounded_of_absent absent)]
    exact Step.slots_fill catalogue event step world
  · intro member
    have zero := MiddlewareDocument.arity_eq_zero member
    refine ⟨zero, fun event world => ?_⟩
    unfold Step.slots
    rw [zero]
    rfl

/-- The steps of a dispatcher get to all extractors that stand for the recipes of their entries, as long as
none of these has the greatest index; the arity is then the successor of the last index. Where one has it, the
arity overflows to zero and no extractor of the step is asked. -/
theorem extractors_reached_below_greatest {documents : List PipelineDocument} {dispatcher : Dispatcher}
    {world after : World σ υ} (ran : Dispatcher.build catalogue documents world = (.ok dispatcher, after)) :
    List.Forall₂ (fun document pipeline =>
        List.Forall₂ (fun entry step => step.Spans catalogue entry) document.middleware pipeline.steps)
      documents dispatcher.pipelines := by
  apply (Dispatcher.build_stands ran).imp
  intro document pipeline built
  exact built.steps.imp fun entry step made => made.spans

end Reach

/-! ### A bell at the top -/

def spire : TypeToken := ⟨0, "Spire"⟩

def bell : TypeToken := ⟨1, "Bell"⟩

def crackedBell : Cause := .ofMessage "the bell is cracked"

def spireCatalogue : Catalogue Unit Unit := fun type =>
  if type = bell then { Behaviour.plain none () with extract := fun _ => .done (.error crackedBell) }
  else { Behaviour.plain none () with
    invoke := fun _ slots => .done (.ok (.array (slots.map fun slot => slot.getD .null))) }

def spireStore (indexes : List UInt64) : MetadataStore :=
  MetadataStore.empty.annotate spire [.controller .perCall,
    .method "ring" (.route .unfiltered :: indexes.map fun index => .parameter (.typed index bell))]

def spireEntry (indexes : List UInt64) : MiddlewareDocument :=
  (Compilation.mk (fun _ => []) (spireStore indexes) .standard).handlerDocument spire "ring" .perCall

def spireDispatcher (indexes : List UInt64) (bells : List (UInt64 × OneOrMany InstanceId)) : Dispatcher :=
  ⟨[⟨[], [⟨spireEntry indexes, OrderedMap.ofList bells⟩]⟩]⟩

theorem extractors_of_spire :
    (Dispatcher.build spireCatalogue [⟨[spireEntry [0, 2]], []⟩] (World.start ())).1 =
        .ok (spireDispatcher [0, 2] [(0, .one 0), (2, .one 1)]) ∧
    (spireEntry [0, 2]).arity.toNat = 3 := by
  have built : (Dispatcher.build spireCatalogue [⟨[spireEntry [0, 2]], []⟩] (World.start ())).1 =
      .ok (spireDispatcher [0, 2] [(0, .one 0), (2, .one 1)]) := by decide +kernel
  have spans := extractors_reached_below_greatest (Prod.ext built rfl)
  cases spans with
  | cons here _ =>
    cases here with
    | cons step _ => exact ⟨built, (step.all (by decide +kernel)).1 2 (by decide +kernel)⟩

/-- With a bell at the greatest index the arity overflows, and the first bell is not rung either: the dispatch
succeeds where its extractor would have failed. -/
theorem extractors_dropped :
    (spireEntry [0, greatestIndex]).extractors.keys = [0, greatestIndex] ∧
    (spireEntry [0, greatestIndex]).arity = 0 ∧
    ¬ (∀ index ∈ (spireEntry [0, greatestIndex]).extractors.keys,
      index.toNat < (spireEntry [0, greatestIndex]).arity.toNat) ∧
    (Dispatcher.build spireCatalogue [⟨[spireEntry [0, greatestIndex]], []⟩] (World.start ())).1 =
        .ok (spireDispatcher [0, greatestIndex] [(0, .one 0), (greatestIndex, .one 1)]) ∧
    (Dispatcher.dispatch spireCatalogue .blank
      (spireDispatcher [0, greatestIndex] [(0, .one 0), (greatestIndex, .one 1)],
        (Dispatcher.build spireCatalogue [⟨[spireEntry [0, greatestIndex]], []⟩] (World.start ())).2)).1 =
      .ok [⟨[.array []], OrderedMap.empty⟩] := by
  have indexes : (spireEntry [0, greatestIndex]).extractors.keys = [0, greatestIndex] := by decide +kernel
  have overflow : (spireEntry [0, greatestIndex]).arity = 0 := by decide +kernel
  refine ⟨indexes, overflow, fun covers => ?_, by decide +kernel, by decide +kernel⟩
  -- No number lies below the arity, not even the first index.
  have first := covers 0 (by rw [indexes]; exact List.mem_cons_self)
  rw [overflow] at first
  exact Nat.not_lt_zero _ first

end EventPipeline
