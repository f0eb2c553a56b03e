import Mathlib.Data.List.Destutter
import EventPipeline.Framework
import EventPipeline.Proofs.Compilation.Enumeration
import EventPipeline.Proofs.Loading.Discovery

/-! How often discovering lists a type.

Repetitions are dropped where they stand next to each other, after a stable sort by name. So what is listed of one
name is what was submitted of that name, in the order of submission, less the equal neighbours in it. A type comes
again where another type of its name was submitted in between, and each time that it is listed it is compiled into
the same pipelines. -/

namespace EventPipeline

theorem dropRepeats_eq_destutter (types : List TypeToken) :
    dropRepeats types = types.destutter (· ≠ ·) := by
  fun_induction dropRepeats types with
  | case1 => rfl
  | case2 last => rfl
  | case3 second rest ih =>
    rw [ih, List.destutter_cons', List.destutter_cons', List.destutter'_cons_neg _ (not_not.mpr rfl)]
  | case4 first second rest apart ih =>
    rw [ih, List.destutter_cons', List.destutter_cons', List.destutter'_cons_pos _ apart]

theorem sublist_dropRepeats {part types : List TypeToken} (apart : part.IsChain (· ≠ ·))
    (within : part.Sublist types) : part.Sublist (dropRepeats types) := by
  fun_induction dropRepeats types generalizing part with
  | case1 => exact within
  | case2 last => exact within
  | case3 second rest ih =>
    apply ih apart
    cases within with
    | cons _ later => exact later
    | cons_cons _ later =>
      cases later with
      | cons _ further => exact further.cons_cons _
      | cons_cons _ _ => exact absurd rfl (List.isChain_cons_cons.mp apart).1
  | case4 first second rest different ih =>
    cases within with
    | cons _ later => exact (ih apart later).cons _
    | cons_cons _ later => exact (ih apart.tail later).cons_cons _

/-- What stands twice in a list without equal neighbours has something else in between. -/
theorem exists_between {α : Type} {element : α} {elements : List α}
    (apart : elements.IsChain (· ≠ ·)) (twice : [element, element].Sublist elements) :
    ∃ other, other ≠ element ∧ [element, other, element].Sublist elements := by
  induction elements with
  | nil => cases twice
  | cons first rest ih =>
    cases twice with
    | cons _ later =>
      obtain ⟨other, different, between⟩ := ih apart.tail later
      exact ⟨other, different, between.cons _⟩
    | cons_cons _ again =>
      cases rest with
      | nil => cases again
      | cons second more =>
        have different := (List.isChain_cons_cons.mp apart).1
        have further : element ∈ more :=
          (List.mem_cons.mp (List.singleton_sublist.mp again)).resolve_left different
        exact ⟨second, different.symm,
          ((List.singleton_sublist.mpr further).cons_cons _).cons_cons _⟩

namespace ControllerLoader

def ofName (name : String) (types : List TypeToken) : List TypeToken :=
  types.filter fun type => decide (type.name = name)

section OfName

variable {name : String} {type : TypeToken} {types : List TypeToken}

theorem ofName_cons_of_eq (same : type.name = name) :
    ofName name (type :: types) = type :: ofName name types :=
  List.filter_cons_of_pos (decide_eq_true same)

theorem ofName_cons_of_ne (other : type.name ≠ name) :
    ofName name (type :: types) = ofName name types :=
  List.filter_cons_of_neg (by simpa using other)

theorem mem_ofName : type ∈ ofName name types ↔ type ∈ types ∧ type.name = name := by
  rw [ofName, List.mem_filter, decide_eq_true_eq]

theorem ofName_sublist : (ofName name types).Sublist types := List.filter_sublist

theorem sublist_ofName {part : List TypeToken} (within : part.Sublist types)
    (named : ∀ type ∈ part, type.name = name) : part.Sublist (ofName name types) := by
  have kept := within.filter fun type => decide (type.name = name)
  rwa [List.filter_eq_self.mpr fun type among => decide_eq_true (named type among)] at kept

theorem ofName_eq_nil {passed : TypeToken}
    (sorted : (passed :: type :: types).Pairwise fun first second => first.name ≤ second.name)
    (named : passed.name = name) (other : type.name ≠ name) : ofName name (type :: types) = [] := by
  refine List.eq_nil_iff_forall_not_mem.mpr fun later among => other ?_
  obtain ⟨there, same⟩ := mem_ofName.mp among
  have before : passed.name ≤ type.name := (List.pairwise_cons.mp sorted).1 type List.mem_cons_self
  have behind : type.name ≤ later.name := by
    rcases List.mem_cons.mp there with rfl | further
    · exact String.le_refl _
    · exact (List.pairwise_cons.mp sorted.tail).1 later further
  exact String.le_antisymm (same ▸ behind) (named ▸ before)

theorem ofName_dropRepeats
    (sorted : types.Pairwise fun first second => first.name ≤ second.name) :
    ofName name (dropRepeats types) = dropRepeats (ofName name types) := by
  fun_induction dropRepeats types with
  | case1 => rfl
  | case2 last =>
    by_cases named : last.name = name
    · rw [ofName_cons_of_eq named]
      rfl
    · rw [ofName_cons_of_ne named]
      rfl
  | case3 second rest ih =>
    rw [ih sorted.tail]
    by_cases named : second.name = name
    · rw [ofName_cons_of_eq named, ofName_cons_of_eq named, ofName_cons_of_eq named]
      exact (if_pos rfl).symm
    · rw [ofName_cons_of_ne named, ofName_cons_of_ne named, ofName_cons_of_ne named]
  | case4 first second rest apart ih =>
    by_cases named : first.name = name
    · rw [ofName_cons_of_eq named, ih sorted.tail, ofName_cons_of_eq named]
      by_cases again : second.name = name
      · rw [ofName_cons_of_eq again]
        exact (if_neg apart).symm
      · rw [ofName_eq_nil sorted named again]
        rfl
    · rw [ofName_cons_of_ne named, ih sorted.tail, ofName_cons_of_ne named]

end OfName

/-- Sorting by name leaves the types of one name in their order. -/
theorem ofName_byName (name : String) (types : List TypeToken) :
    ofName name (byName types) = ofName name types := by
  have level : (ofName name types).Pairwise
      fun first second => decide (first.name ≤ second.name) = true := by
    apply List.pairwise_of_forall_mem_list
    intro first here second there
    have one := (mem_ofName.mp here).2
    have other := (mem_ofName.mp there).2
    exact decide_eq_true (one.trans other.symm ▸ String.le_refl _)
  have stable : (ofName name types).Sublist (byName types) :=
    List.sublist_mergeSort name_trans name_total level ofName_sublist
  have kept : (ofName name types).Sublist (ofName name (byName types)) :=
    sublist_ofName stable fun _ among => (mem_ofName.mp among).2
  have perm : (ofName name (byName types)).Perm (ofName name types) :=
    (List.mergeSort_perm types _).filter _
  exact (kept.eq_of_length perm.length_eq.symm).symm

theorem sublist_of_byName {type other : TypeToken} {types : List TypeToken}
    (between : [type, other, type].Sublist (byName types)) :
    other.name = type.name ∧ [type, other, type].Sublist types := by
  have sorted := (byName_sorted types).sublist between
  simp only [List.pairwise_cons, List.mem_cons, List.not_mem_nil, or_false] at sorted
  have same : other.name = type.name :=
    String.le_antisymm (sorted.2.1 type rfl) (sorted.1 other (.inl rfl))
  have kept : [type, other, type].Sublist (ofName type.name (byName types)) :=
    sublist_ofName between (by simp [same])
  rw [ofName_byName] at kept
  exact ⟨same, kept.trans ofName_sublist⟩

section Found

variable (own : TypeToken → List Annotation) (wanted : String → Bool)

theorem foundBy_sublist (store : MetadataStore) (submissions : List TypeToken) :
    (foundBy own wanted store submissions).Sublist
      (byName (wantedControllers own wanted store submissions)) := by
  unfold foundBy
  rw [dropRepeats_eq_destutter]
  exact List.destutter_sublist ..

theorem foundBy_sorted (store : MetadataStore) (submissions : List TypeToken) :
    (foundBy own wanted store submissions).Pairwise
      fun first second => first.name ≤ second.name :=
  (byName_sorted _).sublist (foundBy_sublist own wanted store submissions)

theorem foundBy_apart (store : MetadataStore) (submissions : List TypeToken) :
    (foundBy own wanted store submissions).IsChain (· ≠ ·) := by
  unfold foundBy
  rw [dropRepeats_eq_destutter]
  exact List.isChain_destutter ..

/-- What is listed of one name is what was submitted of it, less what repeats the one before. -/
theorem foundBy_ofName (store : MetadataStore) (submissions : List TypeToken) (name : String) :
    let found := foundBy own wanted store submissions
    ofName name found =
      (ofName name (submissions.filter fun type => decide (type ∈ found))).destutter (· ≠ ·) := by
  intro found
  have kept : submissions.filter (fun type => decide (type ∈ found)) =
      wantedControllers own wanted store submissions := by
    unfold wantedControllers
    apply List.filter_congr
    intro type submitted
    rw [Bool.eq_iff_iff, decide_eq_true_eq, mem_foundBy, Bool.and_eq_true]
    exact and_iff_right submitted
  calc ofName name found
      = dropRepeats (ofName name (byName (wantedControllers own wanted store submissions))) :=
        ofName_dropRepeats (byName_sorted _)
    _ = dropRepeats (ofName name (wantedControllers own wanted store submissions)) := by
        rw [ofName_byName]
    _ = _ := by rw [kept, dropRepeats_eq_destutter]

theorem one_lt_count_foundBy_iff (type : TypeToken) (store : MetadataStore)
    (submissions : List TypeToken) :
    let found := foundBy own wanted store submissions
    1 < found.count type ↔ type ∈ found ∧ ∃ other ∈ found, other.name = type.name ∧ other ≠ type ∧
      [type, other, type].Sublist submissions := by
  intro found
  constructor
  · intro more
    have twice : [type, type].Sublist found := List.replicate_sublist_iff.mpr more
    obtain ⟨other, different, between⟩ :=
      exists_between (foundBy_apart own wanted store submissions) twice
    obtain ⟨same, kept⟩ :=
      sublist_of_byName (between.trans (foundBy_sublist own wanted store submissions))
    exact ⟨twice.subset (by simp), other, between.subset (by simp), same, different,
      kept.trans List.filter_sublist⟩
  · rintro ⟨listed, other, among, same, different, between⟩
    have kept := between.filter fun held => decide (held ∈ found)
    simp only [listed, among, decide_true, List.filter_cons_of_pos, List.filter_nil] at kept
    have apart : [type, other, type].IsChain (· ≠ ·) := by simp [different, different.symm]
    have named : [type, other, type].Sublist (ofName type.name
        (submissions.filter fun held => decide (held ∈ found))) :=
      sublist_ofName kept (by simp [same])
    have again := sublist_dropRepeats apart named
    rw [dropRepeats_eq_destutter, ← foundBy_ofName own wanted store submissions type.name] at again
    calc 1 < [type, other, type].count type := by simp [different]
      _ ≤ found.count type := (again.trans ofName_sublist).count_le type

end Found

end ControllerLoader

theorem Framework.definitions_discovering (own : TypeToken → List Annotation)
    (wanted : String → Bool) (submissions : List TypeToken)
    (signatures : TypeToken → List MethodSignature) (options : CompilerOptions)
    (store : MetadataStore) :
    ((⟨.discovering wanted, options⟩ : Framework).definitions signatures ⟨own, submissions⟩ store).1 =
      .ok ((⟨signatures, store.registerAll own submissions, options⟩ : Compilation).compile
        (ControllerLoader.foundBy own wanted store submissions)) := by
  unfold Framework.definitions
  rw [ControllerLoader.load_discovering]
  rfl

/-- Whatever has been submitted, in any order and with any repetitions: discovering lists the types that are wanted
and are controllers once they are registered, sorted by name; those of one name in the order in which they were
submitted, less each that repeats the one before it. A type comes more than once exactly when another type that is
listed, of the same name, was submitted between two of its submissions. Each time a controller is listed it is
compiled once for each of its definitions and each of its routed members, and no member is routed twice. -/
theorem listed_again_iff_divided (own : TypeToken → List Annotation)
    (calls : List MetadataStore.Call) (wanted : String → Bool) (submissions : List TypeToken)
    (signatures : TypeToken → List MethodSignature) (options : CompilerOptions) :
    let store := MetadataStore.ofCalls own calls
    ∃ found after,
      (ControllerLoader.discovering wanted).load ⟨own, submissions⟩ store =
        (.ok found, after, [ControllerLoader.discoveredEntry found]) ∧
      (∀ type, type ∈ found ↔ type ∈ submissions ∧ wanted type.shortName = true ∧
        (store.register own type).controllers type ≠ []) ∧
      (found.Pairwise fun first second => first.name ≤ second.name) ∧
      (∀ name, ControllerLoader.ofName name found =
        (ControllerLoader.ofName name
          (submissions.filter fun type => decide (type ∈ found))).destutter (· ≠ ·)) ∧
      (∀ type, 1 < found.count type ↔
        type ∈ found ∧ ∃ other ∈ found, other.name = type.name ∧ other ≠ type ∧
          [type, other, type].Sublist submissions) ∧
      let compilation : Compilation := ⟨signatures, after, options⟩
      ((⟨.discovering wanted, options⟩ : Framework).definitions signatures ⟨own, submissions⟩
          store).1 =
        .ok (found.flatMap fun target =>
          (after.controllers target).flatMap fun controller =>
            (compilation.routableMembers target).map fun member =>
              compilation.compileRoute target member controller) ∧
      ∀ target, (compilation.routableMembers target).Nodup := by
  intro store
  refine ⟨_, _, ControllerLoader.load_discovering own wanted submissions store, ?_,
    ControllerLoader.foundBy_sorted own wanted store submissions,
    ControllerLoader.foundBy_ofName own wanted store submissions,
    fun type => ControllerLoader.one_lt_count_foundBy_iff own wanted type store submissions, ?_, ?_⟩
  · intro type
    rw [ControllerLoader.mem_foundBy, ← Bool.not_eq_false (MetadataStore.isController ..),
      MetadataStore.isController_eq_false_iff]
  · rw [Framework.definitions_discovering, Compilation.compile_eq]
  · intro target
    apply Compilation.nodup_routableMembers
    show (store.registerAll own submissions).Reflects _
    rw [MetadataStore.registerAll_ofCalls]
    exact MetadataStore.ofCalls_reflects own _

/-! ### Two types of one name -/

def mapleTwin : TypeToken := ⟨0, "grove::TwinController"⟩
def cedarTwin : TypeToken := ⟨1, "grove::TwinController"⟩

def twinOwn : TypeToken → List Annotation := fun _ =>
  [.controller .perCall, .method "grow" [.route .unfiltered]]

def twinSources : ControllerLoader.Sources := ⟨twinOwn, [mapleTwin, cedarTwin, mapleTwin]⟩

def twinFramework : Framework := ⟨.discovering ControllerLoader.endsAsController, .standard⟩

def twinGrove : Compilation :=
  ⟨fun _ => [], MetadataStore.empty.registerAll twinOwn [mapleTwin, cedarTwin], .standard⟩

def twinPipeline (twin : TypeToken) : PipelineDocument := twinGrove.compileRoute twin "grow" .perCall

theorem foundBy_twins :
    ControllerLoader.foundBy twinOwn ControllerLoader.endsAsController .empty
      [mapleTwin, cedarTwin, mapleTwin] = [mapleTwin, cedarTwin, mapleTwin] := by
  have sought : ControllerLoader.wantedControllers twinOwn ControllerLoader.endsAsController .empty
      [mapleTwin, cedarTwin, mapleTwin] = [mapleTwin, cedarTwin, mapleTwin] := by decide +kernel
  -- Of equal names each order is ascending, so a stable sort changes nothing.
  have sorted : ControllerLoader.byName [mapleTwin, cedarTwin, mapleTwin] =
      [mapleTwin, cedarTwin, mapleTwin] := List.mergeSort_of_pairwise (by decide)
  rw [ControllerLoader.foundBy, sought, sorted]
  decide

theorem compile_twins : twinGrove.compile [mapleTwin, cedarTwin, mapleTwin] =
    [twinPipeline mapleTwin, twinPipeline cedarTwin, twinPipeline mapleTwin] := by
  have members : ∀ twin ∈ [mapleTwin, cedarTwin],
      ((twinGrove.store.members twin).filter fun member =>
        twinGrove.store.hasMetadata .route twin (some member)) = ["grow"] := by decide +kernel
  have routed : ∀ twin ∈ [mapleTwin, cedarTwin], twinGrove.routableMembers twin = ["grow"] := by
    intro twin among
    rw [Compilation.routableMembers, members twin among, List.mergeSort_singleton]
  rw [Compilation.compile_eq]
  simp only [List.flatMap_cons, List.flatMap_nil, routed, List.mem_cons, true_or, or_true]
  rfl

/-- A maple twin that is submitted before and after a cedar twin is listed twice, and so compiled twice. -/
theorem maple_listed_again :
    mapleTwin ≠ cedarTwin ∧ ¬[mapleTwin, cedarTwin, mapleTwin].Nodup ∧
    (twinFramework.loader.load twinSources .empty).1 = .ok [mapleTwin, cedarTwin, mapleTwin] ∧
    (twinFramework.definitions (fun _ => []) twinSources .empty).1 =
      .ok [twinPipeline mapleTwin, twinPipeline cedarTwin, twinPipeline mapleTwin] := by
  refine ⟨by decide, by decide, ?_, ?_⟩
  · rw [← foundBy_twins]
    exact congrArg Prod.fst (ControllerLoader.load_discovering twinOwn _ _ .empty)
  · rw [twinFramework, twinSources, Framework.definitions_discovering, foundBy_twins]
    exact congrArg Except.ok compile_twins

end EventPipeline
