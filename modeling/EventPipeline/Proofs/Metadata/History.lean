import Mathlib.Data.List.Induction
import EventPipeline.Metadata.Store

/-! The store as the log of its annotations.

What a store holds is what has been applied to it, in the order of application. Each level has its
part in this: a member lists what was applied to it, a target lists its members, the store its
targets. -/

namespace EventPipeline

/-! ### First occurrences -/

section Names

variable {α : Type} [DecidableEq α]

theorem eraseDups_concat (front : List α) (last : α) :
    (front ++ [last]).eraseDups =
      if last ∈ front then front.eraseDups else front.eraseDups ++ [last] := by
  rw [List.eraseDups_append]
  by_cases known : last ∈ front
  · simp [known, List.removeAll]
  · simp [known, List.removeAll, List.eraseDups_cons]

theorem eraseDups_append_eraseDups (front later : List α) :
    (front ++ later.eraseDups).eraseDups = (front ++ later).eraseDups := by
  induction later using List.reverseRecOn with
  | nil => rfl
  | append_singleton rest last ih =>
    rw [eraseDups_concat rest last, ← List.append_assoc, eraseDups_concat (front ++ rest) last]
    by_cases known : last ∈ rest
    · rw [if_pos known, if_pos (List.mem_append_right _ known), ih]
    · rw [if_neg known, ← List.append_assoc, eraseDups_concat (front ++ rest.eraseDups) last, ih]
      simp only [List.mem_append, List.mem_eraseDups]

theorem nodup_eraseDups (names : List α) : names.eraseDups.Nodup := by
  induction names using List.reverseRecOn with
  | nil => exact List.nodup_nil
  | append_singleton rest last ih =>
    rw [eraseDups_concat]
    split
    · exact ih
    · next fresh =>
      rw [List.nodup_append]
      refine ⟨ih, List.pairwise_singleton _ last, ?_⟩
      intro other member final among same
      rw [List.mem_singleton.mp among] at same
      exact fresh (same ▸ List.mem_eraseDups.mp member)

end Names

/-! ### Members -/

namespace MemberAnnotation

def route? : MemberAnnotation → Option RouteDefinition
  | .route definition => some definition
  | _ => none

def middleware? : MemberAnnotation → Option MiddlewareDefinition
  | .middleware definition => some definition
  | _ => none

def parameter? : MemberAnnotation → Option ExtractorDefinition
  | .parameter definition => some definition
  | _ => none

end MemberAnnotation

namespace MemberRecord

def ofAnnotations (annotations : List MemberAnnotation) : MemberRecord :=
  ⟨annotations.filterMap (·.route?), annotations.filterMap (·.middleware?),
    annotations.filterMap (·.parameter?)⟩

@[simp] theorem append_empty (record : MemberRecord) : record.append empty = record := by
  simp [append, empty]

@[simp] theorem empty_append (record : MemberRecord) : empty.append record = record := by
  simp [append, empty]

theorem append_assoc (first second third : MemberRecord) :
    (first.append second).append third = first.append (second.append third) := by
  simp [append, List.append_assoc]

theorem ofAnnotations_append (first second : List MemberAnnotation) :
    ofAnnotations (first ++ second) = (ofAnnotations first).append (ofAnnotations second) := by
  simp [ofAnnotations, append]

theorem foldl_apply (record : MemberRecord) (annotations : List MemberAnnotation) :
    annotations.foldl apply record = record.append (ofAnnotations annotations) := by
  induction annotations generalizing record with
  | nil => exact (append_empty record).symm
  | cons note rest ih =>
    have one : record.apply note = record.append (ofAnnotations [note]) := by
      cases note <;>
        simp [apply, append, ofAnnotations, MemberAnnotation.route?, MemberAnnotation.middleware?,
          MemberAnnotation.parameter?]
    have split : note :: rest = [note] ++ rest := rfl
    rw [List.foldl_cons, ih, one, append_assoc, ← ofAnnotations_append, ← split]

end MemberRecord

/-! ### Targets -/

namespace Annotation

def controller? : Annotation → Option ControllerDefinition
  | .controller definition => some definition
  | _ => none

def middleware? : Annotation → Option MiddlewareDefinition
  | .middleware definition => some definition
  | _ => none

def member? : Annotation → Option String
  | .method name _ => some name
  | _ => none

def applied (member : String) : Annotation → List MemberAnnotation
  | .method name annotations => if name = member then annotations else []
  | _ => []

@[simp] theorem applied_controller (member : String) (definition : ControllerDefinition) :
    (controller definition).applied member = [] := rfl

@[simp] theorem applied_middleware (member : String) (definition : MiddlewareDefinition) :
    (middleware definition).applied member = [] := rfl

@[simp] theorem applied_method (member name : String) (annotations : List MemberAnnotation) :
    (method name annotations).applied member = if name = member then annotations else [] := rfl

theorem method_of_applied {note : Annotation} {member : String} {part : MemberAnnotation}
    (among : part ∈ note.applied member) :
    ∃ annotations, note = .method member annotations ∧ part ∈ annotations := by
  cases note with
  | controller definition => cases among
  | middleware definition => cases among
  | method name annotations =>
    rw [applied_method] at among
    split at among
    · next same => exact ⟨annotations, by rw [same], among⟩
    · cases among

end Annotation

namespace TargetRecord

theorem names_changeMember (name : String) (change : MemberRecord → MemberRecord)
    (members : List (String × MemberRecord)) :
    (changeMember name change members).map (·.1) =
      if name ∈ members.map (·.1) then members.map (·.1) else members.map (·.1) ++ [name] := by
  induction members with
  | nil => rfl
  | cons head rest ih =>
    obtain ⟨other, held⟩ := head
    by_cases same : other = name
    · simp [changeMember, same]
    · have different : name ≠ other := Ne.symm same
      simp only [changeMember, if_neg same, List.map_cons, ih, List.mem_cons, different, false_or]
      split
      · rfl
      · rfl

theorem lookup_changeMember (name member : String) (change : MemberRecord → MemberRecord)
    (members : List (String × MemberRecord)) :
    (changeMember name change members).lookup member =
      if member = name then some (change ((members.lookup name).getD .empty))
      else members.lookup member := by
  induction members with
  | nil =>
    by_cases same : member = name
    · simp [changeMember, same]
    · simp [changeMember, same, List.lookup_cons, beq_false_of_ne same]
  | cons head rest ih =>
    obtain ⟨other, held⟩ := head
    by_cases here : other = name
    · subst here
      by_cases same : member = other
      · simp [changeMember, same]
      · simp [changeMember, same, List.lookup_cons, beq_false_of_ne same]
    · by_cases same : member = other
      · subst same
        simp [changeMember, here]
      · have apart : name ≠ other := Ne.symm here
        simp [changeMember, here, List.lookup_cons, beq_false_of_ne same, beq_false_of_ne apart, ih]

/-- A record holds what annotations leave behind, in their order. -/
structure Holds (record : TargetRecord) (annotations : List Annotation) : Prop where
  controllers : record.controllers = annotations.filterMap (·.controller?)
  middleware : record.middleware = annotations.filterMap (·.middleware?)
  names : record.members.map (·.1) = (annotations.filterMap (·.member?)).eraseDups
  member : ∀ name, (record.member? name).getD .empty =
    .ofAnnotations (annotations.flatMap (·.applied name))

theorem empty_holds (type : TypeToken) : (empty type).Holds [] where
  controllers := rfl
  middleware := rfl
  names := rfl
  member _ := rfl

theorem Holds.apply {record : TargetRecord} {annotations : List Annotation}
    (holds : record.Holds annotations) (note : Annotation) :
    (TargetRecord.apply record note).Holds (annotations ++ [note]) := by
  cases note with
  | controller definition =>
    refine ⟨?_, ?_, ?_, ?_⟩
    · simp [TargetRecord.apply, holds.controllers, Annotation.controller?]
    · simp [TargetRecord.apply, holds.middleware, Annotation.middleware?]
    · simp [TargetRecord.apply, holds.names, Annotation.member?]
    · intro name
      simpa [TargetRecord.apply, member?] using holds.member name
  | middleware definition =>
    refine ⟨?_, ?_, ?_, ?_⟩
    · simp [TargetRecord.apply, holds.controllers, Annotation.controller?]
    · simp [TargetRecord.apply, holds.middleware, Annotation.middleware?]
    · simp [TargetRecord.apply, holds.names, Annotation.member?]
    · intro name
      simpa [TargetRecord.apply, member?] using holds.member name
  | method name added =>
    refine ⟨?_, ?_, ?_, ?_⟩
    · simp [TargetRecord.apply, holds.controllers, Annotation.controller?]
    · simp [TargetRecord.apply, holds.middleware, Annotation.middleware?]
    · simp only [TargetRecord.apply, names_changeMember, holds.names, List.mem_eraseDups, List.filterMap_append]
      rw [← eraseDups_concat]
      rfl
    · intro other
      have before := holds.member name
      have elsewhere := holds.member other
      unfold member? at before elsewhere
      simp only [TargetRecord.apply, member?, lookup_changeMember, MemberRecord.foldl_apply, List.flatMap_append,
        List.flatMap_singleton, Annotation.applied_method]
      by_cases same : other = name
      · subst same
        rw [if_pos rfl, if_pos rfl, Option.getD_some, before, MemberRecord.ofAnnotations_append]
      · rw [if_neg same, if_neg (Ne.symm same), List.append_nil, elsewhere]

theorem ofAnnotations_holds (type : TypeToken) (annotations : List Annotation) :
    (ofAnnotations type annotations).Holds annotations := by
  induction annotations using List.reverseRecOn with
  | nil => exact empty_holds type
  | append_singleton rest last ih =>
    unfold ofAnnotations at ih ⊢
    rw [List.foldl_append]
    exact ih.apply last

@[simp] theorem type_ofAnnotations (type : TypeToken) (annotations : List Annotation) :
    (ofAnnotations type annotations).type = type := by
  induction annotations using List.reverseRecOn with
  | nil => rfl
  | append_singleton rest last ih =>
    unfold ofAnnotations at ih ⊢
    rw [List.foldl_append]
    cases last <;> exact ih

def absorbMembers (held others : List (String × MemberRecord)) : List (String × MemberRecord) :=
  others.foldl (fun held (name, member) => changeMember name (·.append member) held) held

theorem names_absorbMembers {held : List (String × MemberRecord)} {front : List String}
    (names : held.map (·.1) = front.eraseDups) (others : List (String × MemberRecord)) :
    (absorbMembers held others).map (·.1) = (front ++ others.map (·.1)).eraseDups := by
  induction others generalizing held front with
  | nil =>
    rw [List.map_nil, List.append_nil]
    exact names
  | cons head rest ih =>
    obtain ⟨name, member⟩ := head
    have touched : (changeMember name (·.append member) held).map (·.1) =
        (front ++ [name]).eraseDups := by
      rw [names_changeMember, names, eraseDups_concat]
      simp only [List.mem_eraseDups]
    have later := ih touched
    rw [List.append_assoc] at later
    exact later

theorem lookup_absorbMembers (held : List (String × MemberRecord))
    {others : List (String × MemberRecord)} (distinct : (others.map (·.1)).Nodup) (name : String) :
    ((absorbMembers held others).lookup name).getD .empty =
      ((held.lookup name).getD .empty).append ((others.lookup name).getD .empty) := by
  induction others generalizing held with
  | nil => exact (MemberRecord.append_empty _).symm
  | cons head rest ih =>
    obtain ⟨other, member⟩ := head
    obtain ⟨fresh, later⟩ := List.nodup_cons.mp distinct
    show ((absorbMembers (changeMember other (·.append member) held) rest).lookup name).getD _ = _
    rw [ih (changeMember other (·.append member) held) later, lookup_changeMember]
    by_cases same : name = other
    · subst same
      have absent : rest.lookup name = none := by
        rw [List.lookup_eq_none_iff]
        intro entry among
        apply bne_iff_ne.mpr
        intro equal
        exact fresh (List.mem_map.mpr ⟨entry, among, equal.symm⟩)
      rw [if_pos rfl, absent, List.lookup_cons_self]
      exact MemberRecord.append_empty _
    · rw [if_neg same, List.lookup_cons, beq_false_of_ne same]

theorem Holds.absorb {record other : TargetRecord} {annotations added : List Annotation}
    (holds : record.Holds annotations) (more : other.Holds added) :
    (TargetRecord.absorb record other).Holds (annotations ++ added) where
  controllers := by
    simp only [TargetRecord.absorb, holds.controllers, more.controllers, List.filterMap_append]
  middleware := by
    simp only [TargetRecord.absorb, holds.middleware, more.middleware, List.filterMap_append]
  names := by
    have together := names_absorbMembers holds.names other.members
    rw [more.names, eraseDups_append_eraseDups, ← List.filterMap_append] at together
    exact together
  member := by
    intro name
    have distinct : (other.members.map (·.1)).Nodup := by
      rw [more.names]
      exact nodup_eraseDups _
    have together := lookup_absorbMembers record.members distinct name
    have first := holds.member name
    have second := more.member name
    unfold member? at first second
    rw [first, second, ← MemberRecord.ofAnnotations_append, ← List.flatMap_append] at together
    exact together

end TargetRecord

/-! ### The store -/

namespace MetadataStore

theorem find?_absorbInto (scratch : TargetRecord) (records : List TargetRecord)
    (target : TypeToken) :
    (absorbInto scratch records).find? (·.type = target) =
      if target = scratch.type then
        some (((records.find? (·.type = scratch.type)).getD (.empty scratch.type)).absorb scratch)
      else records.find? (·.type = target) := by
  induction records with
  | nil =>
    by_cases same : target = scratch.type
    · simp [absorbInto, same, TargetRecord.absorb, TargetRecord.empty]
    · simp [absorbInto, same, TargetRecord.absorb, TargetRecord.empty, Ne.symm same]
  | cons held rest ih =>
    by_cases here : held.type = scratch.type
    · by_cases same : target = scratch.type
      · simp [absorbInto, here, same, TargetRecord.absorb]
      · simp [absorbInto, here, same, TargetRecord.absorb, Ne.symm same]
    · by_cases there : held.type = target
      · have apart : target ≠ scratch.type := fun same => here (there.trans same)
        simp [absorbInto, there, apart]
      · simp [absorbInto, here, there, ih]

theorem types_absorbInto (scratch : TargetRecord) (records : List TargetRecord) :
    (absorbInto scratch records).map (·.type) =
      if scratch.type ∈ records.map (·.type) then records.map (·.type)
      else records.map (·.type) ++ [scratch.type] := by
  induction records with
  | nil => rfl
  | cons held rest ih =>
    by_cases here : held.type = scratch.type
    · simp [absorbInto, here, TargetRecord.absorb]
    · have apart : scratch.type ≠ held.type := Ne.symm here
      simp only [absorbInto, if_neg here, List.map_cons, ih, List.mem_cons, apart, false_or]
      split
      · rfl
      · rfl

end MetadataStore

/-- What has been applied to types, one application after another. -/
abbrev AnnotationLog := List (TypeToken × List Annotation)

namespace AnnotationLog

def appliedTo (log : AnnotationLog) (target : TypeToken) : List Annotation :=
  (log.filter fun entry => decide (entry.1 = target)).flatMap (·.2)

def targets (log : AnnotationLog) : List TypeToken := (log.map (·.1)).eraseDups

def controllers (log : AnnotationLog) (target : TypeToken) : List ControllerDefinition :=
  (log.appliedTo target).filterMap (·.controller?)

def members (log : AnnotationLog) (target : TypeToken) : List String :=
  ((log.appliedTo target).filterMap (·.member?)).eraseDups

def memberRecord (log : AnnotationLog) (target : TypeToken) (member : String) : MemberRecord :=
  .ofAnnotations ((log.appliedTo target).flatMap (·.applied member))

def routes (log : AnnotationLog) (target : TypeToken) (member : String) : List RouteDefinition :=
  (log.memberRecord target member).routes

theorem appliedTo_cons (type target : TypeToken) (annotations : List Annotation)
    (log : AnnotationLog) :
    appliedTo ((type, annotations) :: log) target =
      (if type = target then annotations else []) ++ log.appliedTo target := by
  unfold appliedTo
  by_cases same : type = target <;> simp [same]

theorem appliedTo_concat (log : AnnotationLog) (type target : TypeToken)
    (annotations : List Annotation) :
    appliedTo (log ++ [(type, annotations)]) target =
      log.appliedTo target ++ if target = type then annotations else [] := by
  unfold appliedTo
  by_cases same : target = type
  · simp [List.filter_append, same]
  · simp [List.filter_append, same, Ne.symm same]

end AnnotationLog

namespace MetadataStore

def recordOf (store : MetadataStore) (target : TypeToken) : TargetRecord :=
  (store.record? target).getD (.empty target)

/-- The store holds what has been applied, and nothing else. -/
structure Reflects (store : MetadataStore) (log : AnnotationLog) : Prop where
  targets : store.targets = log.targets
  records : ∀ target, (store.recordOf target).Holds (log.appliedTo target)

section Reading

variable (store : MetadataStore) (target : TypeToken)

theorem controllers_eq : store.controllers target = (store.recordOf target).controllers := by
  unfold controllers recordOf
  cases store.record? target with
  | none => rfl
  | some record => rfl

theorem members_eq : store.members target = (store.recordOf target).members.map (·.1) := by
  unfold members recordOf
  cases store.record? target with
  | none => rfl
  | some record => rfl

theorem memberRecord_eq (member : String) :
    store.memberRecord target member = ((store.recordOf target).member? member).getD .empty := by
  unfold memberRecord recordOf
  cases store.record? target with
  | none => rfl
  | some record => rfl

theorem hasMetadata_route (member : String) :
    store.hasMetadata .route target (some member) = !(store.routes target member).isEmpty := by
  unfold hasMetadata routes memberRecord
  cases store.record? target with
  | none => rfl
  | some record =>
    simp only
    cases record.member? member with
    | none => rfl
    | some held => rfl

end Reading

section Reflects

variable {store : MetadataStore} {log : AnnotationLog} (reflects : store.Reflects log)
  (target : TypeToken)

include reflects

theorem Reflects.controllers : store.controllers target = log.controllers target := by
  rw [controllers_eq]
  exact (reflects.records target).controllers

theorem Reflects.members : store.members target = log.members target := by
  rw [members_eq]
  exact (reflects.records target).names

theorem Reflects.memberRecord (member : String) :
    store.memberRecord target member = log.memberRecord target member := by
  rw [memberRecord_eq, (reflects.records target).member member]
  rfl

theorem Reflects.routes (member : String) :
    store.routes target member = log.routes target member :=
  congrArg MemberRecord.routes (reflects.memberRecord target member)

end Reflects

theorem empty_reflects : empty.Reflects [] where
  targets := rfl
  records target := TargetRecord.empty_holds target

theorem Reflects.annotate {store : MetadataStore} {log : AnnotationLog} (reflects : store.Reflects log)
    (target : TypeToken) (annotations : List Annotation) :
    (store.annotate target annotations).Reflects (log ++ [(target, annotations)]) := by
  constructor
  · have touched := types_absorbInto (TargetRecord.ofAnnotations target annotations) store.records
    have before : store.records.map (·.type) = log.targets := reflects.targets
    rw [TargetRecord.type_ofAnnotations, before] at touched
    unfold AnnotationLog.targets at touched ⊢
    rw [List.map_append, List.map_singleton, eraseDups_concat]
    simp only [List.mem_eraseDups] at touched
    exact touched
  · intro other
    have found := find?_absorbInto (TargetRecord.ofAnnotations target annotations) store.records other
    rw [TargetRecord.type_ofAnnotations] at found
    rw [AnnotationLog.appliedTo_concat]
    unfold recordOf record? MetadataStore.annotate
    rw [found]
    by_cases same : other = target
    · subst same
      rw [if_pos rfl, if_pos rfl, Option.getD_some]
      exact (reflects.records other).absorb (TargetRecord.ofAnnotations_holds other annotations)
    · rw [if_neg same, if_neg same, List.append_nil]
      exact reflects.records other

inductive Call where
  | register (target : TypeToken)
  | annotate (target : TypeToken) (annotations : List Annotation)

def run (own : TypeToken → List Annotation) (store : MetadataStore) : Call → MetadataStore
  | .register target => store.register own target
  | .annotate target annotations => store.annotate target annotations

def ofCalls (own : TypeToken → List Annotation) (calls : List Call) : MetadataStore :=
  calls.foldl (run own) empty

/-- What calls apply when some types are registered already. Registering a type applies its own
annotations, the first time. -/
def applications (own : TypeToken → List Annotation) (registered : List TypeToken) :
    List Call → AnnotationLog
  | [] => []
  | .register target :: rest =>
      if target ∈ registered then applications own registered rest
      else (target, own target) :: applications own (registered ++ [target]) rest
  | .annotate target annotations :: rest =>
      (target, annotations) :: applications own registered rest

theorem Reflects.calls {own : TypeToken → List Annotation} {store : MetadataStore}
    {log : AnnotationLog} (reflects : store.Reflects log) (calls : List Call) :
    (calls.foldl (run own) store).Reflects (log ++ applications own store.registered calls) := by
  induction calls generalizing store log with
  | nil =>
    rw [applications, List.append_nil]
    exact reflects
  | cons call rest ih =>
    cases call with
    | register target =>
      by_cases known : target ∈ store.registered
      · have same : store.register own target = store := by
          unfold register isRegistered
          rw [if_pos (decide_eq_true known)]
        rw [applications, if_pos known, List.foldl_cons, run, same]
        exact ih reflects
      -- A first registration applies the type's own annotations and marks it as registered.
      · have applied : store.register own target =
            { store.annotate target (own target) with
              registered := store.registered ++ [target] } := by
          unfold register isRegistered
          rw [if_neg (by simpa using known)]
          rfl
        have annotated := reflects.annotate target (own target)
        have registered : (store.register own target).Reflects (log ++ [(target, own target)]) := by
          rw [applied]
          exact ⟨annotated.targets, annotated.records⟩
        have next := ih registered
        rw [applications, if_neg known, List.foldl_cons, run]
        rw [List.append_assoc] at next
        rw [applied] at next ⊢
        exact next
    | annotate target annotations =>
      have next := ih (reflects.annotate target annotations)
      rw [List.append_assoc] at next
      exact next

/-- After any history the store is the log of what was applied. -/
theorem ofCalls_reflects (own : TypeToken → List Annotation) (calls : List Call) :
    (ofCalls own calls).Reflects (applications own [] calls) :=
  empty_reflects.calls calls

end MetadataStore

end EventPipeline
