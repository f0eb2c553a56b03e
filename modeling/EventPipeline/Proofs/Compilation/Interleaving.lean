import Mathlib.Data.List.Perm.Basic
import EventPipeline.Proofs.Compilation.Locality
import EventPipeline.Proofs.Metadata.Recorded

/-! How the order of annotations shows in what is compiled.

Annotations of different kinds, of different members and of different types go into different lists, and it
does not matter which of them came first, nor which were made together. The one trace that is left is the
order in which members were first annotated. It orders the routes that the method table does not list; a
listed one stands where the table has it. -/

namespace EventPipeline

/-- The annotations of a type amount to the same lists, however they are interleaved and however those of a
member are divided into blocks. -/
structure MetadataStore.AmountAlike (annotations others : List Annotation) : Prop where
  controllers : annotations.filterMap (·.controller?) = others.filterMap (·.controller?)
  middleware : annotations.filterMap (·.middleware?) = others.filterMap (·.middleware?)
  routes : ∀ member, (annotations.flatMap (·.applied member)).filterMap (·.route?) =
    (others.flatMap (·.applied member)).filterMap (·.route?)
  memberMiddleware : ∀ member, (annotations.flatMap (·.applied member)).filterMap (·.middleware?) =
    (others.flatMap (·.applied member)).filterMap (·.middleware?)
  parameters : ∀ member, (annotations.flatMap (·.applied member)).filterMap (·.parameter?) =
    (others.flatMap (·.applied member)).filterMap (·.parameter?)

/-- The document runs a method that its type's table lists. -/
def PipelineDocument.isListed (signatures : TypeToken → List MethodSignature)
    (document : PipelineDocument) : Bool :=
  document.handler?.any fun handler =>
    handler.activation.target.any fun type =>
      decide (handler.activation.method ∈ (signatures type).map (·.name))

namespace MetadataStore

variable {own otherOwn : TypeToken → List Annotation} {calls otherCalls : List Call}

theorem AmountAlike.agreeOnRoute {target : TypeToken}
    (alike : AmountAlike (applied own calls target) (applied otherOwn otherCalls target))
    (member : String) :
    (ofCalls own calls).AgreeOnRoute target member (ofCalls otherOwn otherCalls) := by
  have reflects := ofCalls_reflects own calls
  have otherReflects := ofCalls_reflects otherOwn otherCalls
  refine ⟨?_, ?_, ?_, ?_, ?_⟩
  · rw [reflects.controllers, otherReflects.controllers]
    exact alike.controllers
  · exact (reflects.classMiddleware target).trans
      (alike.middleware.trans (otherReflects.classMiddleware target).symm)
  · rw [reflects.routes, otherReflects.routes]
    exact alike.routes member
  · have record := congrArg MemberRecord.middleware (reflects.memberRecord target member)
    have otherRecord := congrArg MemberRecord.middleware (otherReflects.memberRecord target member)
    exact record.trans ((alike.memberMiddleware member).trans otherRecord.symm)
  · have record := congrArg MemberRecord.extractors (reflects.memberRecord target member)
    have otherRecord := congrArg MemberRecord.extractors (otherReflects.memberRecord target member)
    exact record.trans ((alike.parameters member).trans otherRecord.symm)

end MetadataStore

namespace Compilation

/-! ### Listed members -/

section Listed

variable {compilation : Compilation} {log : AnnotationLog}

theorem mem_listedNames {table : List MethodSignature} {member : String} :
    member ∈ listedNames table ↔ member ∈ table.map (·.name) := List.mem_eraseDups

theorem listed_routableMembers (reflects : compilation.store.Reflects log) (target : TypeToken) :
    (compilation.routableMembers target).filter (fun member =>
        decide (member ∈ (compilation.signatures target).map (·.name))) =
      (listedNames (compilation.signatures target)).filter fun member =>
        decide (compilation.store.routes target member ≠ []) := by
  rw [routableMembers_eq_routedMembers reflects, AnnotationLog.routedMembers, List.filter_append,
    List.filter_filter, List.filter_filter]
  have unlisted : (log.members target).filter (fun member =>
      decide (member ∈ (compilation.signatures target).map (·.name)) &&
        decide (member ∉ listedNames (compilation.signatures target) ∧ log.routes target member ≠ [])) =
      [] := by
    rw [List.filter_eq_nil_iff]
    intro member _
    simp only [mem_listedNames, Bool.and_eq_true, decide_eq_true_eq, not_and]
    exact fun listed absent => absurd listed absent
  rw [unlisted, List.append_nil]
  apply List.filter_congr
  intro member among
  rw [decide_eq_true (mem_listedNames.mp among), Bool.true_and, reflects.routes]

theorem isListed_compileRoute (target : TypeToken) (route : String) (controller : ControllerDefinition) :
    (compilation.compileRoute target route controller).isListed compilation.signatures =
      decide (route ∈ (compilation.signatures target).map (·.name)) := by
  unfold PipelineDocument.isListed
  rw [handler?_compileRoute]
  simp [handlerEntry]

theorem listed_compile (reflects : compilation.store.Reflects log) (candidates : List TypeToken) :
    (compilation.compile candidates).filter (·.isListed compilation.signatures) =
      candidates.flatMap fun target =>
        (compilation.store.controllers target).flatMap fun controller =>
          ((listedNames (compilation.signatures target)).filter fun member =>
              decide (compilation.store.routes target member ≠ [])).map fun route =>
            compilation.compileRoute target route controller := by
  rw [compile_eq, List.filter_flatMap]
  congr 1
  funext target
  rw [List.filter_flatMap]
  congr 1
  funext controller
  rw [List.filter_map, Function.comp_def, ← listed_routableMembers reflects]
  simp only [isListed_compileRoute]

end Listed

/-! ### Two histories of the same annotations -/

section Alike

variable {signatures : TypeToken → List MethodSignature} {options : CompilerOptions}
  {store other : MetadataStore} (agree : ∀ target member, store.AgreeOnRoute target member other)

include agree

theorem compileRoute_congr (target : TypeToken) (member : String) (controller : ControllerDefinition) :
    compileRoute ⟨signatures, store, options⟩ target member controller =
      compileRoute ⟨signatures, other, options⟩ target member controller := by
  rw [compileRoute_eq_iff (agree target member)]
  exact fun definition _ => extractorRecipes_congr (agree definition.type definition.method).extractors

theorem routableMembers_perm {log otherLog : AnnotationLog} (reflects : store.Reflects log)
    (otherReflects : other.Reflects otherLog) (target : TypeToken) :
    (routableMembers ⟨signatures, store, options⟩ target).Perm
      (routableMembers ⟨signatures, other, options⟩ target) := by
  rw [List.perm_ext_iff_of_nodup (nodup_routableMembers reflects target)
    (nodup_routableMembers otherReflects target)]
  intro member
  rw [mem_routableMembers_iff reflects, mem_routableMembers_iff otherReflects]
  have routes : store.routes target member = other.routes target member := (agree target member).routes
  simp only [routes]

end Alike

end Compilation

/-- Compiling does not tell how annotations were interleaved, nor how they were divided into calls and
method blocks. When two histories apply to every type the same controller definitions and class middleware,
and to every member the same routes, middleware and extractors, each in the same order, they compile to the
same documents in some order; the documents of listed members are the same in the same order, so that all
documents are if every routable member of the candidates is listed. -/
theorem compiled_alike (signatures : TypeToken → List MethodSignature) (options : CompilerOptions)
    (own otherOwn : TypeToken → List Annotation) (calls otherCalls : List MetadataStore.Call)
    (alike : ∀ target, MetadataStore.AmountAlike (MetadataStore.applied own calls target)
      (MetadataStore.applied otherOwn otherCalls target))
    (candidates : List TypeToken) :
    let first : Compilation := ⟨signatures, MetadataStore.ofCalls own calls, options⟩
    let second : Compilation := ⟨signatures, MetadataStore.ofCalls otherOwn otherCalls, options⟩
    ((∀ target ∈ candidates, ∀ member ∈ first.routableMembers target,
        member ∈ (signatures target).map (·.name)) →
      first.compile candidates = second.compile candidates) ∧
    (first.compile candidates).filter (·.isListed signatures) =
      (second.compile candidates).filter (·.isListed signatures) ∧
    (first.compile candidates).Perm (second.compile candidates) := by
  intro first second
  have reflects : first.store.Reflects (MetadataStore.applications own [] calls) :=
    MetadataStore.ofCalls_reflects own calls
  have otherReflects : second.store.Reflects (MetadataStore.applications otherOwn [] otherCalls) :=
    MetadataStore.ofCalls_reflects otherOwn otherCalls
  have agree : ∀ target member, first.store.AgreeOnRoute target member second.store :=
    fun target member => (alike target).agreeOnRoute member
  have compiled : ∀ target member controller, first.compileRoute target member controller =
      second.compileRoute target member controller := Compilation.compileRoute_congr agree
  have controllers : ∀ target, first.store.controllers target = second.store.controllers target :=
    fun target => (agree target "").controllers
  have routes : ∀ target member, first.store.routes target member = second.store.routes target member :=
    fun target member => (agree target member).routes
  have listed : (first.compile candidates).filter (·.isListed signatures) =
      (second.compile candidates).filter (·.isListed signatures) := by
    have left := Compilation.listed_compile reflects candidates
    have right := Compilation.listed_compile otherReflects candidates
    simp only [controllers, routes, compiled] at left
    exact left.trans right.symm
  have permuted : ∀ target,
      (first.routableMembers target).Perm (second.routableMembers target) :=
    Compilation.routableMembers_perm agree reflects otherReflects
  refine ⟨?_, listed, ?_⟩
  · intro allListed
    -- Where every routed member is in the table, the filter keeps all documents.
    have keeps : ∀ (compilation : Compilation), compilation.signatures = signatures →
        (∀ target ∈ candidates, ∀ member ∈ compilation.routableMembers target,
          member ∈ (signatures target).map (·.name)) →
        (compilation.compile candidates).filter (·.isListed signatures) =
          compilation.compile candidates := by
      rintro compilation rfl every
      rw [List.filter_eq_self, Compilation.compile_eq]
      intro document among
      obtain ⟨target, candidate, among⟩ := List.mem_flatMap.mp among
      obtain ⟨controller, _, among⟩ := List.mem_flatMap.mp among
      obtain ⟨route, routed, rfl⟩ := List.mem_map.mp among
      rw [Compilation.isListed_compileRoute]
      exact decide_eq_true (every target candidate route routed)
    have otherListed : ∀ target ∈ candidates, ∀ member ∈ second.routableMembers target,
        member ∈ (signatures target).map (·.name) :=
      fun target candidate member routed =>
        allListed target candidate member ((permuted target).mem_iff.mpr routed)
    rw [← keeps first rfl allListed, listed, keeps second rfl otherListed]
  · rw [Compilation.compile_eq, Compilation.compile_eq]
    apply List.Perm.flatMap_left
    intro target _
    rw [controllers]
    apply List.Perm.flatMap_left
    intro controller _
    simp only [compiled]
    exact (permuted target).map _

/-! ### A mill, described at once and bit by bit -/

def mill : TypeToken := ⟨0, "valley::MillController"⟩
def miller : TypeToken := ⟨1, "valley::Miller"⟩

def millSignatures : TypeToken → List MethodSignature := fun _ => [⟨"sift", []⟩, ⟨"grind", ["grain"]⟩]

def millAtOnce : List MetadataStore.Call :=
  [.annotate mill [.controller .perCall, .middleware (.before miller "wake"),
    .method "grind" [.route .unfiltered, .parameter (.typed 0 miller), .middleware (.after miller "rest")],
    .method "sift" [.route (.guarded miller), .route .unfiltered]]]

def millOwn : TypeToken → List Annotation :=
  fun _ => [.method "grind" [.parameter (.typed 0 miller)], .controller .perCall]

def millBitByBit : List MetadataStore.Call :=
  [.annotate mill [.method "sift" [.route (.guarded miller)]], .register mill,
    .annotate mill [.method "grind" [.middleware (.after miller "rest")],
      .method "sift" [.route .unfiltered], .middleware (.before miller "wake")],
    .register mill, .annotate mill [.method "grind" [], .method "grind" [.route .unfiltered]]]

theorem compiled_of_mill :
    (∀ target, MetadataStore.AmountAlike (MetadataStore.applied (fun _ => []) millAtOnce target)
      (MetadataStore.applied millOwn millBitByBit target)) ∧
    let atOnce : Compilation :=
      ⟨millSignatures, MetadataStore.ofCalls (fun _ => []) millAtOnce, .standard⟩
    let bitByBit : Compilation :=
      ⟨millSignatures, MetadataStore.ofCalls millOwn millBitByBit, .standard⟩
    atOnce.store.members mill ≠ bitByBit.store.members mill ∧
    (∀ target ∈ [mill, miller], ∀ member ∈ atOnce.routableMembers target,
      member ∈ (millSignatures target).map (·.name)) ∧
    atOnce.compile [mill, miller] = bitByBit.compile [mill, miller] := by
  have alike : ∀ target, MetadataStore.AmountAlike
      (MetadataStore.applied (fun _ => []) millAtOnce target)
      (MetadataStore.applied millOwn millBitByBit target) := by
    intro target
    by_cases here : target = mill
    · subst here
      refine ⟨by decide, by decide, ?_, ?_, ?_⟩
      all_goals
        intro member
        by_cases grind : member = "grind"
        · subst grind
          decide
        by_cases sift : member = "sift"
        · subst sift
          decide
        have notes : (MetadataStore.applied (fun _ => []) millAtOnce mill).flatMap (·.applied member) =
            (MetadataStore.applied millOwn millBitByBit mill).flatMap (·.applied member) := by
          simp [MetadataStore.applied, MetadataStore.applications, millAtOnce, millBitByBit, millOwn,
            AnnotationLog.appliedTo, Ne.symm grind, Ne.symm sift]
        rw [notes]
    · have nothing : MetadataStore.applied (fun _ => []) millAtOnce target =
          MetadataStore.applied millOwn millBitByBit target := by
        simp [MetadataStore.applied, MetadataStore.applications, millAtOnce, millBitByBit,
          AnnotationLog.appliedTo, Ne.symm here]
      rw [nothing]
      exact ⟨rfl, rfl, fun _ => rfl, fun _ => rfl, fun _ => rfl⟩
  have listed : ∀ target ∈ [mill, miller], ∀ member ∈ Compilation.routableMembers
      ⟨millSignatures, MetadataStore.ofCalls (fun _ => []) millAtOnce, .standard⟩ target,
      member ∈ (millSignatures target).map (·.name) := by
    intro target among member routed
    have annotated : ∀ target ∈ [mill, miller],
        ∀ member ∈ (MetadataStore.applications (fun _ => []) [] millAtOnce).members target,
          member ∈ (millSignatures target).map (·.name) := by decide
    rw [Compilation.routableMembers_eq_routedMembers
      (MetadataStore.ofCalls_reflects (fun _ => []) millAtOnce)] at routed
    exact annotated target among member (AnnotationLog.mem_routedMembers_iff.mp routed).1
  refine ⟨alike, by decide, listed, ?_⟩
  exact (compiled_alike millSignatures .standard (fun _ => []) millOwn millAtOnce millBitByBit alike
    [mill, miller]).1 listed

/-- Without a table the members stand as they were first annotated, so that both histories show. -/
example :
    AnnotationLog.routedMembers (MetadataStore.applications (fun _ => []) [] millAtOnce) [] mill =
      ["grind", "sift"] ∧
    AnnotationLog.routedMembers (MetadataStore.applications millOwn [] millBitByBit) [] mill =
      ["sift", "grind"] := by
  decide

end EventPipeline
