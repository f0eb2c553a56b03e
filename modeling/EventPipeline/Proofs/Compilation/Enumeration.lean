import EventPipeline.Proofs.Compilation.MiddlewareStack
import EventPipeline.Proofs.Metadata.History

/-! Which documents a compilation yields, and in what order.

There is one document for each candidate, each of its controller definitions and each of its routed
members. The order of the members comes from a stable sort; here it is written down without one. The
members that the method table lists come first, each where its first entry stands, and the others
follow as they were annotated. -/

namespace EventPipeline

/-! ### Sorting by position -/

namespace Compilation

section Position

variable (table : List MethodSignature)

/-- The names in a method table, each where it is first listed. -/
def listedNames : List String := (table.map (·.name)).eraseDups

theorem nodup_listedNames : (listedNames table).Nodup := nodup_eraseDups _

theorem mem_listedNames_iff {member : String} :
    member ∈ listedNames table ↔ tablePosition table member < table.length := by
  unfold listedNames tablePosition
  rw [List.mem_eraseDups, List.findIdx_lt_length]
  simp

theorem tablePosition_of_not_listed {member : String} (absent : member ∉ listedNames table) :
    tablePosition table member = table.length := by
  have bound : tablePosition table member ≤ table.length := List.findIdx_le_length
  have behind := mt (mem_listedNames_iff table).mpr absent
  omega

theorem eq_of_tablePosition_eq {first second : String} (listed : first ∈ listedNames table)
    (same : tablePosition table first = tablePosition table second) : first = second := by
  have inside := (mem_listedNames_iff table).mp listed
  have named : ∀ member (small : tablePosition table member < table.length),
      (table[tablePosition table member]).name = member := by
    intro member small
    have found := @List.findIdx_getElem _ (fun entry : MethodSignature => entry.name == member)
      table small
    exact beq_iff_eq.mp found
  have there : tablePosition table second < table.length := same ▸ inside
  calc first
      = (table[tablePosition table first]).name := (named first inside).symm
    _ = (table[tablePosition table second]).name := by simp only [same]
    _ = second := named second there

theorem tablePosition_append (later : List MethodSignature) {member : String}
    (listed : member ∈ listedNames table) :
    tablePosition (table ++ later) member = tablePosition table member := by
  have inside := (mem_listedNames_iff table).mp listed
  unfold tablePosition at inside ⊢
  rw [List.findIdx_append, if_pos inside]

theorem listedNames_ordered :
    (listedNames table).Pairwise fun first second =>
      tablePosition table first ≤ tablePosition table second := by
  -- From behind: a name that the last row lists for the first time stands behind all others.
  induction table using List.reverseRecOn with
  | nil => exact List.Pairwise.nil
  | append_singleton front last ih =>
    have before : (listedNames front).Pairwise fun first second =>
        tablePosition (front ++ [last]) first ≤ tablePosition (front ++ [last]) second := by
      apply ih.imp_of_mem
      intro first second here there ordered
      rw [tablePosition_append front [last] here, tablePosition_append front [last] there]
      exact ordered
    have grown : listedNames (front ++ [last]) =
        if last.name ∈ front.map (·.name) then listedNames front
        else listedNames front ++ [last.name] := by
      unfold listedNames
      rw [List.map_append, List.map_singleton, eraseDups_concat]
    rw [grown]
    split
    · exact before
    · next fresh =>
      refine List.pairwise_append.mpr ⟨before, List.pairwise_singleton .., ?_⟩
      intro first here second there
      obtain rfl := List.mem_singleton.mp there
      have absent : last.name ∉ listedNames front := by
        unfold listedNames
        rwa [List.mem_eraseDups]
      have inside := (mem_listedNames_iff front).mp here
      have behind := tablePosition_of_not_listed front absent
      have position : tablePosition (front ++ [last]) last.name = front.length := by
        unfold tablePosition at behind ⊢
        rw [List.findIdx_append, behind]
        simp
      rw [tablePosition_append front [last] here, position]
      exact Nat.le_of_lt inside

end Position

theorem eq_filter_append_filter {α : Type} {p : α → Bool} {elements : List α}
    (divided : elements.Pairwise fun first second => p second = true → p first = true) :
    elements = elements.filter p ++ elements.filter fun element => !p element := by
  induction elements with
  | nil => rfl
  | cons first rest ih =>
    obtain ⟨behind, later⟩ := List.pairwise_cons.mp divided
    cases holds : p first with
    | true => simpa [holds] using ih later
    | false =>
      have never : ∀ element ∈ rest, p element = false := by
        intro element among
        cases other : p element with
        | false => rfl
        | true =>
          have front := behind element among other
          rw [holds] at front
          cases front
      have none : rest.filter p = [] := by
        rw [List.filter_eq_nil_iff]
        intro element among
        simp [never element among]
      have all : (rest.filter fun element => !p element) = rest := by
        rw [List.filter_eq_self]
        intro element among
        simp [never element among]
      simp [holds, none, all]

theorem divided_of_sorted {table : List MethodSignature} {sorted : List String}
    (ordered : sorted.Pairwise fun first second =>
      tablePosition table first ≤ tablePosition table second) :
    sorted.Pairwise fun first second =>
      decide (second ∈ listedNames table) = true → decide (first ∈ listedNames table) = true := by
  apply ordered.imp
  intro first second before listed
  have inside := (mem_listedNames_iff table).mp (of_decide_eq_true listed)
  exact decide_eq_true ((mem_listedNames_iff table).mpr (by omega))

theorem unlisted_level (table : List MethodSignature) (members : List String) :
    (members.filter fun member => !decide (member ∈ listedNames table)).Pairwise fun first second =>
      tablePosition table first ≤ tablePosition table second := by
  have absent : ∀ member ∈ members.filter fun member => !decide (member ∈ listedNames table),
      member ∉ listedNames table := by
    intro member among
    simpa using (List.mem_filter.mp among).2
  apply List.pairwise_of_forall_mem_list
  intro first here second there
  have front := tablePosition_of_not_listed table (absent first here)
  have back := tablePosition_of_not_listed table (absent second there)
  exact Nat.le_of_eq (front.trans back.symm)

/-- Members sorted by their positions in a table: the listed ones as the table has them, then the
others as they were. -/
theorem mergeSort_position (table : List MethodSignature) {members : List String}
    (distinct : members.Nodup) :
    (members.mergeSort fun first second =>
        decide (tablePosition table first ≤ tablePosition table second)) =
      (listedNames table).filter (fun name => decide (name ∈ members)) ++
        members.filter fun member => !decide (member ∈ listedNames table) := by
  have trans : ∀ a b c : String,
      decide (tablePosition table a ≤ tablePosition table b) = true →
        decide (tablePosition table b ≤ tablePosition table c) = true →
          decide (tablePosition table a ≤ tablePosition table c) = true := by
    intro a b c
    simp only [decide_eq_true_eq]
    exact Nat.le_trans
  have total : ∀ a b : String, (decide (tablePosition table a ≤ tablePosition table b) ||
      decide (tablePosition table b ≤ tablePosition table a)) = true := by
    intro a b
    simp only [Bool.or_eq_true, decide_eq_true_eq]
    exact Nat.le_total _ _
  have perm := List.mergeSort_perm members fun first second =>
    decide (tablePosition table first ≤ tablePosition table second)
  have sorted := List.pairwise_mergeSort trans total members
  have stable := fun (rest : List String) => @List.sublist_mergeSort _ _ members trans total rest
  generalize (members.mergeSort fun first second =>
    decide (tablePosition table first ≤ tablePosition table second)) = result at perm sorted stable ⊢
  simp only [decide_eq_true_eq] at sorted stable
  rw [eq_filter_append_filter (divided_of_sorted sorted)]
  congr 1
  · -- Listed members are told apart by their positions, so one order of them is sorted.
    apply List.Perm.eq_of_pairwise _ (sorted.filter _) ((listedNames_ordered table).filter _)
    · rw [List.perm_ext_iff_of_nodup ((perm.nodup_iff.mpr distinct).filter _)
        ((nodup_listedNames table).filter _)]
      intro member
      simp only [List.mem_filter, decide_eq_true_eq, perm.mem_iff]
      exact and_comm
    · intro first second here _ one other
      have listed := of_decide_eq_true (List.mem_filter.mp here).2
      exact eq_of_tablePosition_eq table listed (Nat.le_antisymm one other)
  · -- The others have one position, and a stable sort leaves them in their order.
    have kept := (stable _ (unlisted_level table members) List.filter_sublist).filter fun member =>
      !decide (member ∈ listedNames table)
    rw [List.filter_filter] at kept
    simp only [Bool.and_self] at kept
    exact (kept.eq_of_length ((perm.filter _).length_eq).symm).symm

end Compilation

/-! ### Routed members -/

namespace AnnotationLog

/-- The members of a type that carry a route: those in its method table, each where it is first
listed, then the others, each where it was first annotated. -/
def routedMembers (log : AnnotationLog) (table : List MethodSignature) (target : TypeToken) :
    List String :=
  (Compilation.listedNames table).filter (fun name => decide (log.routes target name ≠ [])) ++
    (log.members target).filter fun member =>
      decide (member ∉ Compilation.listedNames table ∧ log.routes target member ≠ [])

theorem mem_members_of_routes {log : AnnotationLog} {target : TypeToken} {member : String}
    (routed : log.routes target member ≠ []) : member ∈ log.members target := by
  obtain ⟨definition, declared⟩ := List.exists_mem_of_ne_nil _ routed
  obtain ⟨part, among, _⟩ := List.mem_filterMap.mp declared
  obtain ⟨note, noted, inside⟩ := List.mem_flatMap.mp among
  rw [members, List.mem_eraseDups]
  obtain ⟨annotations, rfl, _⟩ := Annotation.method_of_applied inside
  exact List.mem_filterMap.mpr ⟨_, noted, rfl⟩

theorem mem_routedMembers_iff {log : AnnotationLog} {table : List MethodSignature}
    {target : TypeToken} {member : String} :
    member ∈ log.routedMembers table target ↔
      member ∈ log.members target ∧ log.routes target member ≠ [] := by
  unfold routedMembers
  simp only [List.mem_append, List.mem_filter, decide_eq_true_eq]
  constructor
  · rintro (⟨_, routed⟩ | ⟨_, _, routed⟩)
    · exact ⟨mem_members_of_routes routed, routed⟩
    · exact ⟨mem_members_of_routes routed, routed⟩
  · rintro ⟨annotated, routed⟩
    by_cases listed : member ∈ Compilation.listedNames table
    · exact .inl ⟨listed, routed⟩
    · exact .inr ⟨annotated, listed, routed⟩

theorem nodup_routedMembers (log : AnnotationLog) (table : List MethodSignature)
    (target : TypeToken) : (log.routedMembers table target).Nodup := by
  refine List.nodup_append.mpr
    ⟨(Compilation.nodup_listedNames table).filter _, (nodup_eraseDups _).filter _, ?_⟩
  intro first listed second unlisted same
  have here := (List.mem_filter.mp listed).1
  have there := (of_decide_eq_true (List.mem_filter.mp unlisted).2).1
  exact there (same ▸ here)

end AnnotationLog

namespace Compilation

variable {compilation : Compilation} {log : AnnotationLog}
  (reflects : compilation.store.Reflects log)

include reflects

theorem routableMembers_eq_routedMembers (target : TypeToken) :
    compilation.routableMembers target =
      log.routedMembers (compilation.signatures target) target := by
  have routed : ∀ member, compilation.store.hasMetadata .route target (some member) =
      decide (log.routes target member ≠ []) := by
    intro member
    rw [MetadataStore.hasMetadata_route, reflects.routes]
    cases log.routes target member <;> simp
  have distinct : ((log.members target).filter fun member =>
      decide (log.routes target member ≠ [])).Nodup := (nodup_eraseDups _).filter _
  unfold routableMembers AnnotationLog.routedMembers
  simp only [routed, reflects.members]
  rw [mergeSort_position _ distinct, List.filter_filter]
  congr 1
  · apply List.filter_congr
    intro name _
    rw [decide_eq_decide, List.mem_filter, decide_eq_true_eq]
    exact ⟨And.right, fun routed => ⟨AnnotationLog.mem_members_of_routes routed, routed⟩⟩
  · apply List.filter_congr
    intro member _
    simp

theorem nodup_routableMembers (target : TypeToken) :
    (compilation.routableMembers target).Nodup := by
  rw [routableMembers_eq_routedMembers reflects]
  exact log.nodup_routedMembers _ target

end Compilation

/-- A compilation yields one document for each candidate that is a controller, as the candidates are
listed, each of its controller definitions in the order of application, and each of its routed members;
the handler of the document is that member, under that definition. A member is routed when it was
annotated with a route, and it is so once: the members in the method table stand first, where they are
first listed, and the others where they were first annotated. -/
theorem documents_enumerated (signatures : TypeToken → List MethodSignature)
    (options : CompilerOptions) (own : TypeToken → List Annotation)
    (calls : List MetadataStore.Call) (candidates : List TypeToken) :
    let compilation : Compilation := ⟨signatures, MetadataStore.ofCalls own calls, options⟩
    let log := MetadataStore.applications own [] calls
    (compilation.compile candidates).map (fun document => (document, document.handler?)) =
        ((candidates.filter fun target => decide (log.controllers target ≠ [])).flatMap fun target =>
          (log.controllers target).flatMap fun controller =>
            (log.routedMembers (signatures target) target).map fun member =>
              (compilation.compileRoute target member controller,
                some (compilation.handlerEntry target member controller))) ∧
      ∀ target,
        (log.routedMembers (signatures target) target).Nodup ∧
        ∀ member, member ∈ log.routedMembers (signatures target) target ↔
          member ∈ log.members target ∧ log.routes target member ≠ [] := by
  intro compilation log
  have reflects : compilation.store.Reflects log := MetadataStore.ofCalls_reflects own calls
  refine ⟨?_, fun target =>
    ⟨log.nodup_routedMembers _ target, fun _ => AnnotationLog.mem_routedMembers_iff⟩⟩
  have skipped : ∀ f : TypeToken → ControllerDefinition →
      List (PipelineDocument × Option MiddlewareDocument),
      ((candidates.filter fun target => decide (log.controllers target ≠ [])).flatMap fun target =>
        (log.controllers target).flatMap (f target)) =
      candidates.flatMap fun target => (log.controllers target).flatMap (f target) := by
    intro f
    induction candidates with
    | nil => rfl
    | cons target rest ih =>
      rw [List.filter_cons, List.flatMap_cons, ← ih]
      cases plain : log.controllers target with
      | nil => simp
      | cons first others => simp [plain]
  rw [skipped, Compilation.compile_eq, List.map_flatMap]
  congr 1
  funext target
  rw [List.map_flatMap, reflects.controllers]
  congr 1
  funext controller
  rw [List.map_map, Compilation.routableMembers_eq_routedMembers reflects]
  apply List.map_congr_left
  intro member _
  rw [Function.comp_apply, Compilation.handler?_compileRoute]

end EventPipeline
