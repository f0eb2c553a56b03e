import EventPipeline.Proofs.Metadata.History

/-! What the store answers after a history of calls.

Every getter reads the annotations that were applied to its target, in the order of application. They
are those of the `annotate` calls, with the target's own annotations among them, once, where it was
first registered. -/

namespace EventPipeline.MetadataStore

/-! ### What calls apply to a target -/

def Call.target : Call → TypeToken
  | .register target => target
  | .annotate target _ => target

def Call.given (target : TypeToken) : Call → List Annotation
  | .register _ => []
  | .annotate other annotations => if other = target then annotations else []

def applied (own : TypeToken → List Annotation) (calls : List Call) (target : TypeToken) :
    List Annotation :=
  (applications own [] calls).appliedTo target

section Applications

variable (own : TypeToken → List Annotation)

theorem appliedTo_of_settled {registered : List TypeToken} {calls : List Call} {target : TypeToken}
    (settled : target ∈ registered ∨ .register target ∉ calls) :
    (applications own registered calls).appliedTo target = calls.flatMap (Call.given target) := by
  induction calls generalizing registered with
  | nil => rfl
  | cons call rest ih =>
    have later : target ∈ registered ∨ .register target ∉ rest :=
      settled.imp_right fun never among => never (List.mem_cons_of_mem _ among)
    cases call with
    | annotate other annotations =>
      rw [applications, AnnotationLog.appliedTo_cons, ih later, List.flatMap_cons, Call.given]
    | register other =>
      rw [applications, List.flatMap_cons, Call.given, List.nil_append]
      split
      · exact ih later
      · next fresh =>
        have apart : other ≠ target := by
          rintro rfl
          exact settled.elim fresh fun never => never (List.mem_cons_self ..)
        rw [AnnotationLog.appliedTo_cons, if_neg apart, List.nil_append]
        exact ih (later.imp_left (List.mem_append_left _))

theorem appliedTo_of_registered {registered : List TypeToken} {front back : List Call}
    {target : TypeToken} (fresh : target ∉ registered) (first : .register target ∉ front) :
    (applications own registered (front ++ .register target :: back)).appliedTo target =
      front.flatMap (Call.given target) ++ own target ++ back.flatMap (Call.given target) := by
  induction front generalizing registered with
  | nil =>
    rw [List.nil_append, applications, if_neg fresh, AnnotationLog.appliedTo_cons, if_pos rfl,
      appliedTo_of_settled own (.inl (List.mem_append_right _ (List.mem_singleton_self target)))]
    rfl
  | cons call rest ih =>
    have later : .register target ∉ rest := fun among => first (List.mem_cons_of_mem _ among)
    cases call with
    | annotate other annotations =>
      rw [List.cons_append, applications, AnnotationLog.appliedTo_cons, ih fresh later, List.flatMap_cons,
        Call.given, List.append_assoc, List.append_assoc, List.append_assoc]
    | register other =>
      have apart : other ≠ target := by
        rintro rfl
        exact first (List.mem_cons_self ..)
      rw [List.cons_append, applications, List.flatMap_cons, Call.given, List.nil_append]
      split
      · exact ih fresh later
      · have still : target ∉ registered ++ [other] := by
          simp [fresh, Ne.symm apart]
        rw [AnnotationLog.appliedTo_cons, if_neg apart, List.nil_append]
        exact ih still later

/-- The types that something was applied to are those that were called for: a registration that
applies nothing comes after one that did. -/
theorem types_applications {registered : List TypeToken} {calls : List Call}
    {touched : List TypeToken} (known : registered ⊆ touched) :
    (touched ++ (applications own registered calls).map (·.1)).eraseDups =
      (touched ++ calls.map Call.target).eraseDups := by
  induction calls generalizing registered touched with
  | nil => rfl
  | cons call rest ih =>
    cases call with
    | annotate other annotations =>
      have next := @ih registered (touched ++ [other]) (List.subset_append_of_subset_left _ known)
      simpa [applications, Call.target] using next
    | register other =>
      by_cases done : other ∈ registered
      · rw [applications, if_pos done, ih known, List.map_cons, Call.target, List.eraseDups_append,
          List.eraseDups_append]
        simp [List.removeAll, known done]
      · have grown : registered ++ [other] ⊆ touched ++ [other] :=
          List.append_subset.mpr ⟨List.subset_append_of_subset_left _ known,
            List.subset_append_right ..⟩
        have next := ih grown
        simpa [applications, done, Call.target] using next

end Applications

/-! ### What the store answers -/

/-- Something of this kind is attached to the type, or to the member that is named. -/
def Attached (store : MetadataStore) (target : TypeToken) : MetadataKind → Option String → Prop
  | .controller, none => store.controllers target ≠ []
  | .controller, some _ => False
  | .middleware, scope => store.middleware target scope ≠ []
  | .route, none => False
  | .route, some member => store.routes target member ≠ []
  | .extractor, none => False
  | .extractor, some member => store.extractors target member ≠ []

theorem hasMetadata_iff (store : MetadataStore) (kind : MetadataKind) (target : TypeToken)
    (scope : Option String) :
    store.hasMetadata kind target scope = true ↔ store.Attached target kind scope := by
  unfold hasMetadata Attached controllers middleware classMiddleware memberMiddleware routes
    extractors memberRecord
  cases store.record? target with
  | none => cases kind <;> cases scope <;> simp [MemberRecord.empty]
  | some record =>
    cases scope with
    | none => cases kind <;> simp
    | some member =>
      cases found : record.member? member with
      | none => cases kind <;> simp [found, MemberRecord.empty]
      | some held => cases kind <;> simp [found]

theorem Reflects.classMiddleware {store : MetadataStore} {log : AnnotationLog}
    (reflects : store.Reflects log) (target : TypeToken) :
    store.classMiddleware target = (log.appliedTo target).filterMap (·.middleware?) := by
  rw [← (reflects.records target).middleware]
  unfold MetadataStore.classMiddleware recordOf
  cases store.record? target with
  | none => rfl
  | some record => rfl

theorem record?_annotate_of_ne (store : MetadataStore) {target other : TypeToken}
    (apart : other ≠ target) (annotations : List Annotation) :
    (store.annotate target annotations).record? other = store.record? other := by
  unfold record? annotate
  rw [find?_absorbInto, TargetRecord.type_ofAnnotations, if_neg apart]

theorem run_elsewhere (own : TypeToken → List Annotation) (store : MetadataStore) (call : Call)
    {other : TypeToken} (apart : other ≠ call.target) :
    (run own store call).record? other = store.record? other ∧
      (run own store call).isRegistered other = store.isRegistered other := by
  cases call with
  | annotate target annotations =>
    exact ⟨store.record?_annotate_of_ne apart annotations, rfl⟩
  | register target =>
    simp only [run, register]
    split
    · exact ⟨rfl, rfl⟩
    · refine ⟨store.record?_annotate_of_ne apart (own target), ?_⟩
      have different : other ≠ target := apart
      simp [isRegistered, annotate, different]

/-- After any history the store is the ordered log of what was applied. Controllers and class
middleware of a type, and routes, middleware and extractors of a member, are those that were applied
to it, in order; members and types stand once, where they were first touched. What was applied are the
annotations of all `annotate` calls and, where a type was first registered, its own. A call leaves
everything that is recorded of other types alone, and metadata is there just when its getter has
something to give. -/
theorem store_is_log (own : TypeToken → List Annotation) (calls : List Call) :
    let store := ofCalls own calls
    (∀ target,
      let annotations := applied own calls target
      store.controllers target = annotations.filterMap (·.controller?) ∧
      store.middleware target none = annotations.filterMap (·.middleware?) ∧
      store.members target = (annotations.filterMap (·.member?)).eraseDups ∧
      (store.members target).Nodup ∧
      ∀ member,
        let notes := annotations.flatMap (·.applied member)
        store.routes target member = notes.filterMap (·.route?) ∧
        store.middleware target (some member) = notes.filterMap (·.middleware?) ∧
        store.extractors target member = notes.filterMap (·.parameter?)) ∧
    store.targets = (calls.map Call.target).eraseDups ∧
    store.targets.Nodup ∧
    (∀ target,
      (.register target ∉ calls → applied own calls target = calls.flatMap (Call.given target)) ∧
      ∀ front back, calls = front ++ .register target :: back → .register target ∉ front →
        applied own calls target =
          front.flatMap (Call.given target) ++ own target ++ back.flatMap (Call.given target)) ∧
    (∀ call other, other ≠ call.target →
      (run own store call).record? other = store.record? other ∧
      (run own store call).isRegistered other = store.isRegistered other) ∧
    ∀ kind target scope,
      store.hasMetadata kind target scope = true ↔ store.Attached target kind scope := by
  intro store
  have reflects : store.Reflects (applications own [] calls) := ofCalls_reflects own calls
  have targets : store.targets = (calls.map Call.target).eraseDups :=
    reflects.targets.trans (types_applications own (List.Subset.refl []))
  refine ⟨?_, targets, ?_, ?_, fun call other apart => run_elsewhere own store call apart,
    store.hasMetadata_iff⟩
  · intro target
    have members := reflects.members target
    refine ⟨reflects.controllers target, reflects.classMiddleware target, members, ?_, ?_⟩
    · rw [members]
      exact nodup_eraseDups _
    · intro member
      have record := reflects.memberRecord target member
      exact ⟨congrArg MemberRecord.routes record, congrArg MemberRecord.middleware record,
        congrArg MemberRecord.extractors record⟩
  · rw [targets]
    exact nodup_eraseDups _
  · intro target
    constructor
    · exact fun never => appliedTo_of_settled own (.inr never)
    · rintro front back rfl first
      exact appliedTo_of_registered own List.not_mem_nil first

end EventPipeline.MetadataStore
