import Mathlib.Logic.Function.Iterate
import EventPipeline.Loader
import EventPipeline.Proofs.Metadata.Recorded

/-! Discovering controllers.

Every submitted type is registered, and some of them are kept. Registering one type changes nothing of
another, so what the store holds of a type in the end depends on whether it was submitted, not on when or
how often; and a type that is kept is kept by its own name and its own annotations. Sorted by name, with
repetitions dropped, the types that are kept are one list for all orders of submission. -/

namespace EventPipeline

/-! ### Registering many types -/

namespace MetadataStore

variable (own : TypeToken → List Annotation) {store other : MetadataStore} {target : TypeToken}

structure AgreeOn (target : TypeToken) (store other : MetadataStore) : Prop where
  record : store.record? target = other.record? target
  registered : store.isRegistered target = other.isRegistered target

theorem AgreeOn.refl (store : MetadataStore) : AgreeOn target store store := ⟨rfl, rfl⟩

theorem AgreeOn.trans {third : MetadataStore} (first : AgreeOn target store other)
    (second : AgreeOn target other third) : AgreeOn target store third :=
  ⟨first.record.trans second.record, first.registered.trans second.registered⟩

theorem AgreeOn.recordOf (agree : AgreeOn target store other) :
    store.recordOf target = other.recordOf target := by
  unfold MetadataStore.recordOf
  rw [agree.record]

theorem AgreeOn.isController (agree : AgreeOn target store other) :
    store.isController target = other.isController target := by
  unfold MetadataStore.isController hasMetadata
  rw [agree.record]

theorem register_of_registered (done : store.isRegistered target = true) :
    store.register own target = store := by
  unfold register
  rw [if_pos done]

theorem isRegistered_register (store : MetadataStore) (target : TypeToken) :
    (store.register own target).isRegistered target = true := by
  by_cases done : store.isRegistered target = true
  · rwa [register_of_registered own done]
  · unfold register
    rw [if_neg done]
    simp [isRegistered]

theorem record?_annotate (store : MetadataStore) (target : TypeToken) (annotations : List Annotation) :
    (store.annotate target annotations).record? target =
      some ((store.recordOf target).absorb (.ofAnnotations target annotations)) := by
  unfold record? annotate recordOf
  rw [find?_absorbInto, TargetRecord.type_ofAnnotations, if_pos rfl]
  rfl

theorem AgreeOn.register (agree : AgreeOn target store other) :
    AgreeOn target (store.register own target) (other.register own target) := by
  by_cases done : store.isRegistered target = true
  · rwa [register_of_registered own done,
      register_of_registered own (agree.registered.symm.trans done)]
  · have fresh : ¬ other.isRegistered target = true := agree.registered ▸ done
    refine ⟨?_, (isRegistered_register ..).trans (isRegistered_register ..).symm⟩
    unfold MetadataStore.register
    rw [if_neg done, if_neg fresh]
    show (store.annotate target (own target)).record? target =
      (other.annotate target (own target)).record? target
    rw [record?_annotate, record?_annotate, agree.recordOf]

theorem register_elsewhere (store : MetadataStore) {first : TypeToken} (apart : target ≠ first) :
    AgreeOn target (store.register own first) store :=
  ⟨(run_elsewhere own store (.register first) apart).1,
    (run_elsewhere own store (.register first) apart).2⟩

theorem register_register (store : MetadataStore) (first target : TypeToken) :
    AgreeOn target ((store.register own first).register own target) (store.register own target) := by
  by_cases same : target = first
  · subst same
    rw [register_of_registered own (isRegistered_register own store target)]
    exact .refl _
  · exact (store.register_elsewhere own same).register own

def registerAll (store : MetadataStore) (types : List TypeToken) : MetadataStore :=
  types.foldl (fun held type => held.register own type) store

/-- What is held of a type after many registrations depends on whether it was among them. -/
theorem registerAll_agree (types : List TypeToken) (store : MetadataStore) (target : TypeToken) :
    AgreeOn target (store.registerAll own types)
      (if target ∈ types then store.register own target else store) := by
  induction types generalizing store with
  | nil => exact .refl _
  | cons first rest ih =>
    have later := ih (store.register own first)
    have once := store.register_register own first target
    refine later.trans ?_
    by_cases again : target ∈ rest
    · rwa [if_pos again, if_pos (List.mem_cons_of_mem _ again)]
    · rw [if_neg again]
      by_cases here : target = first
      · subst here
        rw [if_pos (List.mem_cons_self ..)]
        exact .refl _
      · have never : target ∉ first :: rest := by
          rw [List.mem_cons, not_or]
          exact ⟨here, again⟩
        rw [if_neg never]
        exact store.register_elsewhere own here

theorem registerAll_of_registered {types : List TypeToken}
    (done : ∀ type ∈ types, store.isRegistered type = true) : store.registerAll own types = store := by
  induction types with
  | nil => rfl
  | cons first rest ih =>
    have here := register_of_registered own (done first (List.mem_cons_self ..))
    unfold registerAll at ih ⊢
    rw [List.foldl_cons, here]
    exact ih fun type among => done type (List.mem_cons_of_mem _ among)

theorem isRegistered_registerAll (store : MetadataStore) {types : List TypeToken}
    (member : target ∈ types) : (store.registerAll own types).isRegistered target = true := by
  rw [(store.registerAll_agree own types target).registered, if_pos member]
  exact store.isRegistered_register own target

theorem registerAll_ofCalls (calls : List Call) (types : List TypeToken) :
    (ofCalls own calls).registerAll own types = ofCalls own (calls ++ types.map .register) := by
  unfold registerAll ofCalls
  rw [List.foldl_append, List.foldl_map]
  rfl

theorem register_registerAll (store : MetadataStore) (types : List TypeToken) (target : TypeToken) :
    AgreeOn target ((store.registerAll own types).register own target) (store.register own target) := by
  have again := (store.registerAll_agree own types target).register own
  split at again
  · exact again.trans (store.register_register own target target)
  · exact again

theorem given_registers (types : List TypeToken) (target : TypeToken) :
    (types.map Call.register).flatMap (Call.given target) = [] := by
  rw [List.flatMap_eq_nil_iff]
  intro call member
  obtain ⟨type, _, rfl⟩ := List.mem_map.mp member
  rfl

theorem applied_registers_settled {calls : List Call} {types : List TypeToken} {target : TypeToken}
    (settled : .register target ∈ calls ∨ target ∉ types) :
    applied own (calls ++ types.map .register) target = applied own calls target := by
  have given : (calls ++ types.map Call.register).flatMap (Call.given target) =
      calls.flatMap (Call.given target) := by
    rw [List.flatMap_append, given_registers, List.append_nil]
  unfold applied
  by_cases known : .register target ∈ calls
  · obtain ⟨front, back, rfl, first⟩ := List.eq_append_cons_of_mem known
    rw [List.append_assoc, List.cons_append, appliedTo_of_registered own List.not_mem_nil first,
      appliedTo_of_registered own List.not_mem_nil first, List.flatMap_append, given_registers,
      List.append_nil]
  · have absent : target ∉ types := settled.resolve_left known
    have never : .register target ∉ calls ++ types.map Call.register := by
      simp [known, absent]
    rw [appliedTo_of_settled own (.inr never), appliedTo_of_settled own (.inr known), given]

theorem applied_registers_fresh {calls : List Call} {types : List TypeToken} {target : TypeToken}
    (fresh : .register target ∉ calls) (member : target ∈ types) :
    applied own (calls ++ types.map .register) target = applied own calls target ++ own target := by
  obtain ⟨front, back, rfl, first⟩ := List.eq_append_cons_of_mem member
  have before : .register target ∉ calls ++ front.map Call.register := by
    simp [fresh, first]
  unfold applied
  rw [List.map_append, List.map_cons, ← List.append_assoc,
    appliedTo_of_registered own List.not_mem_nil before, appliedTo_of_settled own (.inr fresh),
    List.flatMap_append, given_registers, given_registers, List.append_nil, List.append_nil]

theorem holds_of_settled {calls : List Call} {types : List TypeToken}
    (settled : .register target ∈ calls ∨ target ∉ types) :
    (((ofCalls own calls).registerAll own types).recordOf target).Holds (applied own calls target) := by
  rw [registerAll_ofCalls, ← applied_registers_settled own settled]
  exact (ofCalls_reflects own _).records target

theorem holds_of_fresh {calls : List Call} {types : List TypeToken}
    (fresh : .register target ∉ calls) (member : target ∈ types) :
    (((ofCalls own calls).registerAll own types).recordOf target).Holds
      (applied own calls target ++ own target) := by
  rw [registerAll_ofCalls, ← applied_registers_fresh own fresh member]
  exact (ofCalls_reflects own _).records target

end MetadataStore

/-! ### Sorting by name -/

theorem mem_dropRepeats {type : TypeToken} {types : List TypeToken} :
    type ∈ dropRepeats types ↔ type ∈ types := by
  fun_induction dropRepeats types with
  | case1 => exact Iff.rfl
  | case2 last => exact Iff.rfl
  | case3 second rest ih => simp [ih]
  | case4 first second rest apart ih => simp only [List.mem_cons, ih]

theorem dropRepeats_ascending {types : List TypeToken}
    (sorted : types.Pairwise fun first second => first.name ≤ second.name)
    (named : ∀ first ∈ types, ∀ second ∈ types, first.name = second.name → first = second) :
    (dropRepeats types).Pairwise fun first second => first.name < second.name := by
  fun_induction dropRepeats types with
  | case1 => exact .nil
  | case2 last => exact List.pairwise_singleton ..
  | case3 second rest ih =>
    exact ih sorted.tail fun first here second there =>
      named first (List.mem_cons_of_mem _ here) second (List.mem_cons_of_mem _ there)
  | case4 first second rest apart ih =>
    obtain ⟨above, later⟩ := List.pairwise_cons.mp sorted
    refine .cons ?_ (ih later fun first here second there =>
      named first (List.mem_cons_of_mem _ here) second (List.mem_cons_of_mem _ there))
    intro type kept
    have among : type ∈ second :: rest := mem_dropRepeats.mp kept
    rcases text_total first.name type.name with below | same | behind
    · exact below
    · -- A repetition further on would have the second type between the two.
      obtain rfl := named first (List.mem_cons_self ..) type (List.mem_cons_of_mem _ among) same
      have next := above second (List.mem_cons_self ..)
      have back : second.name ≤ first.name := by
        rcases List.mem_cons.mp among with here | there
        · exact absurd here apart
        · exact (List.pairwise_cons.mp later).1 first there
      exact absurd (named first (List.mem_cons_self ..) second (by simp)
        (String.le_antisymm next back)) apart
    · exact absurd behind (String.not_lt.mpr (above type among))

theorem eq_of_ascending {types others : List TypeToken}
    (ascending : types.Pairwise fun first second => first.name < second.name)
    (rising : others.Pairwise fun first second => first.name < second.name)
    (same : ∀ type, type ∈ types ↔ type ∈ others) : types = others := by
  have nodup : ∀ {list : List TypeToken},
      (list.Pairwise fun first second => first.name < second.name) → list.Nodup := by
    intro list ordered
    refine ordered.imp ?_
    rintro first _ below rfl
    exact String.lt_irrefl _ below
  have perm : types.Perm others :=
    (List.perm_ext_iff_of_nodup (nodup ascending) (nodup rising)).mpr same
  apply perm.eq_of_pairwise _ ascending rising
  intro first second _ _ below above
  exact absurd (String.lt_trans below above) (String.lt_irrefl _)

namespace ControllerLoader

theorem name_trans (a b c : TypeToken) (front : decide (a.name ≤ b.name) = true)
    (back : decide (b.name ≤ c.name) = true) : decide (a.name ≤ c.name) = true := by
  simp only [decide_eq_true_eq] at front back ⊢
  exact String.le_trans front back

theorem name_total (a b : TypeToken) :
    (decide (a.name ≤ b.name) || decide (b.name ≤ a.name)) = true := by
  simp only [Bool.or_eq_true, decide_eq_true_eq]
  exact String.le_total _ _

theorem byName_sorted (types : List TypeToken) :
    (byName types).Pairwise fun first second => first.name ≤ second.name :=
  (List.pairwise_mergeSort name_trans name_total types).imp of_decide_eq_true

theorem mem_byName {type : TypeToken} {types : List TypeToken} :
    type ∈ byName types ↔ type ∈ types := List.mem_mergeSort

variable (own : TypeToken → List Annotation) (wanted : String → Bool)

/-- The types that are kept, by what each of them is once it is registered alone. -/
def wantedControllers (store : MetadataStore) (types : List TypeToken) : List TypeToken :=
  types.filter fun type => wanted type.shortName && (store.register own type).isController type

theorem discover_eq (types : List TypeToken) (store : MetadataStore) :
    discover own wanted types store =
      (wantedControllers own wanted store types, store.registerAll own types) := by
  induction types generalizing store with
  | nil => rfl
  | cons first rest ih =>
    have later : wantedControllers own wanted (store.register own first) rest =
        wantedControllers own wanted store rest := by
      apply List.filter_congr
      intro type _
      rw [(store.register_register own first type).isController]
    simp only [discover, ih, later]
    unfold wantedControllers MetadataStore.registerAll
    rw [List.filter_cons, List.foldl_cons]
    split
    · rfl
    · rfl

def foundBy (store : MetadataStore) (submissions : List TypeToken) : List TypeToken :=
  dropRepeats (byName (wantedControllers own wanted store submissions))

theorem load_discovering (submissions : List TypeToken) (store : MetadataStore) :
    (discovering wanted).load ⟨own, submissions⟩ store =
      (.ok (foundBy own wanted store submissions), store.registerAll own submissions,
        [discoveredEntry (foundBy own wanted store submissions)]) := by
  simp only [load, discover_eq]
  rfl

theorem mem_foundBy {type : TypeToken} {store : MetadataStore} {submissions : List TypeToken} :
    type ∈ foundBy own wanted store submissions ↔
      type ∈ submissions ∧ wanted type.shortName = true ∧
        (store.register own type).isController type = true := by
  unfold foundBy wantedControllers
  rw [mem_dropRepeats, mem_byName, List.mem_filter, Bool.and_eq_true]

theorem foundBy_ascending (store : MetadataStore) {submissions : List TypeToken}
    (named : ∀ first ∈ submissions, ∀ second ∈ submissions,
      first.name = second.name → first = second) :
    (foundBy own wanted store submissions).Pairwise fun first second => first.name < second.name := by
  have submitted : ∀ type ∈ byName (wantedControllers own wanted store submissions),
      type ∈ submissions :=
    fun type member => (List.mem_filter.mp (mem_byName.mp member)).1
  refine dropRepeats_ascending (byName_sorted _) fun first here second there => ?_
  exact named first (submitted first here) second (submitted second there)

def loadAll (store : MetadataStore) (orders : List (List TypeToken)) : MetadataStore :=
  orders.foldl (fun held submissions => ((discovering wanted).load ⟨own, submissions⟩ held).2.1) store

theorem loadAll_eq (store : MetadataStore) (orders : List (List TypeToken)) :
    loadAll own wanted store orders = store.registerAll own orders.flatten := by
  induction orders generalizing store with
  | nil => rfl
  | cons submissions rest ih =>
    unfold loadAll at ih ⊢
    rw [List.foldl_cons, load_discovering, ih, List.flatten_cons]
    unfold MetadataStore.registerAll
    rw [List.foldl_append]

end ControllerLoader

/-- Discovering finds the submitted types whose short names are wanted and which are controllers once they
are registered, in strict order of their full names. It finds the same types whenever the same types have
been submitted, in any order, with any repetitions, and after any number of earlier loads. It leaves
every submitted type registered, with its own annotations applied once, behind what was applied before, and
every other type as it was; loading again changes nothing of the store. -/
theorem discovery_in_any_order (own : TypeToken → List Annotation) (calls : List MetadataStore.Call)
    (wanted : String → Bool) (submissions : List TypeToken)
    (named : ∀ first ∈ submissions, ∀ second ∈ submissions,
      first.name = second.name → first = second) :
    let store := MetadataStore.ofCalls own calls
    ∃ found,
      (∀ type, type ∈ found ↔ type ∈ submissions ∧ wanted type.shortName = true ∧
        (store.register own type).controllers type ≠ []) ∧
      (found.Pairwise fun first second => first.name < second.name) ∧
      ∀ earlier order, (∀ other ∈ earlier ++ [order], ∀ type, type ∈ other ↔ type ∈ submissions) →
        ∃ before after,
          ControllerLoader.loadAll own wanted store earlier = before ∧
          (ControllerLoader.discovering wanted).load ⟨own, order⟩ before =
            (.ok found, after, [ControllerLoader.discoveredEntry found]) ∧
          (earlier ≠ [] → after = before) ∧
          ∀ target,
            (target ∈ submissions → after.isRegistered target = true) ∧
            MetadataStore.AgreeOn target after
              (if target ∈ submissions then store.register own target else store) ∧
            (.register target ∉ calls → target ∈ submissions →
              (after.recordOf target).Holds
                (MetadataStore.applied own calls target ++ own target)) ∧
            (.register target ∈ calls ∨ target ∉ submissions →
              (after.recordOf target).Holds (MetadataStore.applied own calls target)) := by
  intro store
  refine ⟨ControllerLoader.foundBy own wanted store submissions, ?_,
    ControllerLoader.foundBy_ascending own wanted store named, ?_⟩
  · intro type
    rw [ControllerLoader.mem_foundBy, ← Bool.not_eq_false (MetadataStore.isController ..),
      MetadataStore.isController_eq_false_iff]
  · intro earlier order same
    have last : ∀ type, type ∈ order ↔ type ∈ submissions := same order (by simp)
    have loaded : ∀ type, type ∈ (earlier ++ [order]).flatten ↔ type ∈ submissions := by
      intro type
      constructor
      · intro member
        obtain ⟨other, among, here⟩ := List.mem_flatten.mp member
        exact (same other among type).mp here
      · exact fun member => List.mem_flatten.mpr ⟨order, by simp, (last type).mpr member⟩
    -- A list that ascends strictly is settled by its members, which no earlier load changes.
    have found : ControllerLoader.foundBy own wanted (store.registerAll own earlier.flatten) order =
        ControllerLoader.foundBy own wanted store submissions := by
      apply eq_of_ascending
      · exact ControllerLoader.foundBy_ascending own wanted _ fun first here second there =>
          named first ((last first).mp here) second ((last second).mp there)
      · exact ControllerLoader.foundBy_ascending own wanted store named
      · intro type
        rw [ControllerLoader.mem_foundBy, ControllerLoader.mem_foundBy, last,
          (store.register_registerAll own earlier.flatten type).isController]
    -- The loads one after the other register what one load of all their submissions would.
    have grown : (store.registerAll own earlier.flatten).registerAll own order =
        store.registerAll own (earlier ++ [order]).flatten := by
      rw [← ControllerLoader.loadAll_eq own wanted, ← ControllerLoader.loadAll_eq own wanted]
      unfold ControllerLoader.loadAll
      rw [List.foldl_append, List.foldl_cons, List.foldl_nil, ControllerLoader.load_discovering]
    refine ⟨_, store.registerAll own (earlier ++ [order]).flatten,
      ControllerLoader.loadAll_eq own wanted store earlier, ?_, ?_, ?_⟩
    · rw [ControllerLoader.load_discovering, found, grown]
    · intro before
      obtain ⟨first, rest, rfl⟩ := List.exists_cons_of_ne_nil before
      rw [← grown]
      apply MetadataStore.registerAll_of_registered
      intro type member
      apply store.isRegistered_registerAll own
      have again : type ∈ first := (same first (by simp) type).mpr ((last type).mp member)
      exact List.mem_flatten.mpr ⟨first, List.mem_cons_self .., again⟩
    · intro target
      have agree := store.registerAll_agree own (earlier ++ [order]).flatten target
      refine ⟨fun member => store.isRegistered_registerAll own ((loaded target).mpr member), ?_, ?_, ?_⟩
      · simpa only [loaded target] using agree
      · exact fun fresh member => MetadataStore.holds_of_fresh own fresh ((loaded target).mpr member)
      · exact fun settled =>
          MetadataStore.holds_of_settled own (settled.imp_right (mt (loaded target).mp))

/-! ### Two controllers and an apprentice -/

def fairBaker : TypeToken := ⟨0, "fair::BakerController"⟩
def fairGrocer : TypeToken := ⟨1, "fair::GrocerController"⟩
def fairApprentice : TypeToken := ⟨2, "fair::Apprentice"⟩

def fairOwn : TypeToken → List Annotation := fun _ => [.controller .perCall]

/-- The grocer is annotated and the baker registered before anything is loaded. -/
def fairCalls : List MetadataStore.Call :=
  [.annotate fairGrocer [.method "sell" []], .register fairBaker]

def fairSubmissions : List TypeToken := [fairGrocer, fairApprentice, fairBaker, fairGrocer]

theorem discovery_of_fair :
    (∀ first ∈ fairSubmissions, ∀ second ∈ fairSubmissions,
      first.name = second.name → first = second) ∧
    ∃ found, fairBaker ∈ found ∧ fairGrocer ∈ found ∧ fairApprentice ∉ found ∧
      (found.Pairwise fun first second => first.name < second.name) ∧
      ∃ before,
        ControllerLoader.loadAll fairOwn ControllerLoader.endsAsController
          (.ofCalls fairOwn fairCalls) [fairSubmissions] = before ∧
        (ControllerLoader.discovering ControllerLoader.endsAsController).load
            ⟨fairOwn, [fairApprentice, fairBaker, fairGrocer]⟩ before =
          (.ok found, before, [ControllerLoader.discoveredEntry found]) ∧
        (before.recordOf fairGrocer).Holds [.method "sell" [], .controller .perCall] := by
  have named : ∀ first ∈ fairSubmissions, ∀ second ∈ fairSubmissions,
      first.name = second.name → first = second := by decide
  obtain ⟨found, members, ascending, loads⟩ := discovery_in_any_order fairOwn fairCalls
    ControllerLoader.endsAsController fairSubmissions named
  have orders : ∀ other ∈ [fairSubmissions] ++ [[fairApprentice, fairBaker, fairGrocer]],
      ∀ type, type ∈ other ↔ type ∈ fairSubmissions := by
    intro other among type
    simp only [List.cons_append, List.nil_append, List.mem_cons, List.not_mem_nil, or_false] at among
    rcases among with rfl | rfl
    · exact Iff.rfl
    · simp only [fairSubmissions, List.mem_cons, List.not_mem_nil, or_false]
      tauto
  obtain ⟨before, after, earlier, loaded, still, content⟩ := loads _ _ orders
  obtain rfl := still (by simp)
  refine ⟨named, found, ?_, ?_, ?_, ascending, after, earlier, loaded, ?_⟩
  · exact (members fairBaker).mpr (by decide +kernel)
  · exact (members fairGrocer).mpr (by decide +kernel)
  · exact fun among => absurd ((members fairApprentice).mp among).2.1 (by decide +kernel)
  · exact (content fairGrocer).2.2.1 (by simp [fairCalls, fairGrocer, fairBaker]) (by decide)

end EventPipeline
