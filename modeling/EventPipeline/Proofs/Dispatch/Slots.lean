import EventPipeline.Proofs.Dispatch.Building
import EventPipeline.Proofs.Dispatch.Order

/-! The slots of a step.

A step looks at every index below its arity, its extractors stand at some of them. As long as all of
them are below the arity, going through the indexes is going through the extractors, and an index
without one is passed over. -/

namespace EventPipeline

open Json

variable {σ υ α β State : Type}

theorem Filling.index_eq {entry after : UInt64 × OneOrMany InstanceId} {deeds : List Deed}
    {filled : UInt64 × Value} (course : Filling entry deeds (.ok filled) after) :
    entry.1 = filled.1 := by
  generalize same : Except.ok filled = result at course
  cases course with
  | @one index extractor deeds result course =>
    cases result with
    | error error => cases same
    | ok value =>
      cases same
      rfl
  | @many index extractors deeds result course =>
    cases result with
    | error error => cases same
    | ok values =>
      cases same
      rfl

theorem indexes_of_fillings {entries others : List (UInt64 × OneOrMany InstanceId)}
    {deeds : List Deed} {values : List (UInt64 × Value)}
    (course : InTurn Filling entries deeds (.ok values) others) :
    entries.map (·.1) = values.map (·.1) :=
  map_eq_map_of_paired (course.related (fun _ _ _ _ => Filling.index_eq) values rfl)

section Filling

variable [Inhabited σ] (catalogue : Catalogue σ υ) (event : Event)

theorem extractFor_extracts (index : Nat) (extractor : InstanceId) (world : World σ υ) :
    ∃ deeds, Aside catalogue event world deeds (extractFor catalogue event index extractor world).2 ∧
      Extraction index extractor deeds (extractFor catalogue event index extractor world).1
        extractor :=
  ⟨[.extracted index extractor (extract catalogue extractor event world).1],
    fun _ => .single rfl, .asked extractor (extract catalogue extractor event world).1⟩

theorem slotOf_fills (index : UInt64) (entry : OneOrMany InstanceId) (world : World σ υ) :
    ∃ deeds result,
      Aside catalogue event world deeds
          (slotOf catalogue event index.toNat (some entry) world).2 ∧
        Filling (index, entry) deeds result (index, entry) ∧
        (slotOf catalogue event index.toNat (some entry) world).1 =
          result.map fun filled => some filled.2 := by
  cases entry with
  | one extractor =>
    obtain ⟨deeds, led, course⟩ := extractFor_extracts catalogue event index.toNat extractor world
    have filling := Filling.one course
    simp only [slotOf, Action.bind]
    revert led filling
    rcases extractFor catalogue event index.toNat extractor world with ⟨error | value, after⟩
    · exact fun led filling => ⟨deeds, _, led, filling, rfl⟩
    · exact fun led filling => ⟨deeds, _, led, filling, rfl⟩
  | many extractors =>
    obtain ⟨deeds, led, course⟩ := forEach_in_turn Aside.chains
      (extractFor_extracts catalogue event index.toNat) extractors world
    have filling := Filling.many course
    simp only [slotOf, Action.bind]
    revert led filling
    rcases Action.forEach (extractFor catalogue event index.toNat) extractors world with
      ⟨error | values, after⟩
    · exact fun led filling => ⟨deeds, _, led, filling, rfl⟩
    · exact fun led filling => ⟨deeds, _, led, filling, rfl⟩

def slotsFrom (entries : List (UInt64 × OneOrMany InstanceId)) (first count : Nat) :
    Action (World σ υ) DispatchError Slots :=
  Action.forEach
    (fun index => slotOf catalogue event index (entries.lookup (UInt64.ofNat index)))
    (List.range' first count)

def placeFrom (values : List (UInt64 × Value)) (first count : Nat) : Slots :=
  (List.range' first count).map fun index => values.lookup (UInt64.ofNat index)

theorem slotsFrom_succ (entries : List (UInt64 × OneOrMany InstanceId)) (first count : Nat)
    (world : World σ υ) :
    slotsFrom catalogue event entries first (count + 1) world =
      match slotOf catalogue event first (entries.lookup (UInt64.ofNat first)) world with
      | (.error error, after) => (.error error, after)
      | (.ok slot, after) =>
          ((slotsFrom catalogue event entries (first + 1) count after).1.map (slot :: ·),
            (slotsFrom catalogue event entries (first + 1) count after).2) := by
  unfold slotsFrom
  rw [List.range'_succ]
  simp only [Action.forEach, Action.bind]
  rcases slotOf catalogue event first (entries.lookup (UInt64.ofNat first)) world with
    ⟨error | slot, after⟩
  · rfl
  · simp only
    split
    · next slots last same => rw [same]; rfl
    · next error last same => rw [same]; rfl

omit catalogue event [Inhabited σ] in
theorem lookup_of_ahead {entries : List (UInt64 × α)} {index : Nat} (small : index < UInt64.size)
    (ahead : ∀ key ∈ entries.map (·.1), index < key.toNat) :
    entries.lookup (UInt64.ofNat index) = none := by
  apply OrderedMap.lookup_eq_none_of_below
  intro entry member
  rw [UInt64.lt_iff_toNat_lt, UInt64.toNat_ofNat_of_lt' small]
  exact ahead entry.1 (List.mem_map_of_mem member)

omit catalogue event [Inhabited σ] in
theorem lookup_of_behind {key : UInt64} {held : α} {rest : List (UInt64 × α)} {index : Nat}
    (small : index < UInt64.size) (behind : key.toNat < index) :
    ((key, held) :: rest).lookup (UInt64.ofNat index) = rest.lookup (UInt64.ofNat index) := by
  have different : UInt64.ofNat index ≠ key := by
    intro same
    have value := congrArg UInt64.toNat same
    rw [UInt64.toNat_ofNat_of_lt' small] at value
    omega
  rw [OrderedMap.lookup_entry, if_neg different]

omit [Inhabited σ] in
theorem forEach_congr {f g : α → Action State DispatchError β} {elements : List α}
    (same : ∀ element ∈ elements, f element = g element) :
    Action.forEach f elements = Action.forEach g elements := by
  induction elements with
  | nil => rfl
  | cons element rest ih =>
    have later := ih fun other member => same other (List.mem_cons_of_mem _ member)
    simp only [Action.forEach, same element (List.mem_cons_self ..), later]

omit catalogue event [Inhabited σ] in
theorem ahead_of_ascending {entries : List (UInt64 × α)} {first : Nat}
    (ascending : entries.Pairwise fun a b => a.1 < b.1)
    (inside : ∀ key ∈ entries.map (·.1), first ≤ key.toNat)
    (absent : ¬ ∃ held rest, entries = (UInt64.ofNat first, held) :: rest) :
    ∀ key ∈ entries.map (·.1), first + 1 ≤ key.toNat := by
  cases entries with
  | nil =>
    intro key member
    cases member
  | cons head rest =>
    obtain ⟨above, _⟩ := List.pairwise_cons.mp ascending
    have bound : first ≤ head.1.toNat := inside head.1 (List.mem_cons_self ..)
    have different : head.1.toNat ≠ first := by
      intro same
      apply absent
      exact ⟨head.2, rest, by rw [← same, UInt64.ofNat_toNat]⟩
    intro key member
    rcases List.mem_cons.mp member with rfl | behind
    · exact Nat.lt_of_le_of_ne bound (Ne.symm different)
    · obtain ⟨other, among, rfl⟩ := List.mem_map.mp behind
      have order := UInt64.lt_iff_toNat_lt.mp (above other among)
      omega

theorem slotsFrom_of_behind {key : UInt64} {entry : OneOrMany InstanceId}
    {rest : List (UInt64 × OneOrMany InstanceId)} {first count : Nat}
    (small : first + count ≤ UInt64.size) (behind : key.toNat < first) :
    slotsFrom catalogue event ((key, entry) :: rest) first count =
      slotsFrom catalogue event rest first count := by
  apply forEach_congr
  intro index member
  have bounds := List.mem_range'_1.mp member
  rw [lookup_of_behind (by omega) (by omega)]

omit catalogue event [Inhabited σ] in
theorem placeFrom_of_behind {key : UInt64} {value : Value} {rest : List (UInt64 × Value)}
    {first count : Nat} (small : first + count ≤ UInt64.size) (behind : key.toNat < first) :
    placeFrom ((key, value) :: rest) first count = placeFrom rest first count := by
  apply List.map_congr_left
  intro index member
  have bounds := List.mem_range'_1.mp member
  exact lookup_of_behind (by omega) (by omega)

omit catalogue event [Inhabited σ] in
theorem placeFrom_here {value : Value} {rest : List (UInt64 × Value)} {first count : Nat}
    (small : first + (count + 1) ≤ UInt64.size) :
    placeFrom ((UInt64.ofNat first, value) :: rest) first (count + 1) =
      some value :: placeFrom rest (first + 1) count := by
  have below : (UInt64.ofNat first).toNat < first + 1 := by
    rw [UInt64.toNat_ofNat_of_lt' (by omega)]
    omega
  have later : placeFrom ((UInt64.ofNat first, value) :: rest) (first + 1) count =
      placeFrom rest (first + 1) count := placeFrom_of_behind (by omega) below
  rw [← later]
  simp only [placeFrom, List.range'_succ, List.map_cons, List.lookup_cons_self]

/-- The slots of a range are filled in turn by these extractors; the slots of other indexes stay empty. -/
def Fills (entries : List (UInt64 × OneOrMany InstanceId)) (first count : Nat) : Prop :=
  ∀ world : World σ υ, ∃ deeds result,
    Aside catalogue event world deeds (slotsFrom catalogue event entries first count world).2 ∧
      InTurn Filling entries deeds result entries ∧
      (slotsFrom catalogue event entries first count world).1 =
        result.map fun values => placeFrom values first count

variable {catalogue event}

theorem Fills.empty (first : Nat) : Fills catalogue event [] first 0 :=
  fun world => ⟨[], .ok [], Aside.chains.none world, .done, rfl⟩

theorem Fills.entry {rest : List (UInt64 × OneOrMany InstanceId)} {first count : Nat}
    (small : first + (count + 1) ≤ UInt64.size) (later : Fills catalogue event rest (first + 1) count)
    (entry : OneOrMany InstanceId) :
    Fills catalogue event ((UInt64.ofNat first, entry) :: rest) first (count + 1) := by
  intro world
  have index : (UInt64.ofNat first).toNat = first := UInt64.toNat_ofNat_of_lt' (by omega)
  obtain ⟨deeds, filled, led, filling, slot⟩ :=
    slotOf_fills catalogue event (UInt64.ofNat first) entry world
  rw [index] at led slot
  rw [slotsFrom_succ, List.lookup_cons_self,
    slotsFrom_of_behind catalogue event (by omega) (by omega)]
  rcases outcome : slotOf catalogue event first (some entry) world with ⟨error | found, after⟩
  · rw [outcome] at led slot
    cases filled with
    | ok filled => cases slot
    | error cause =>
      cases slot
      exact ⟨deeds, .error error, led, .failed filling, rfl⟩
  · rw [outcome] at led slot
    cases filled with
    | error cause => cases slot
    | ok filled =>
      cases slot
      obtain ⟨more, result, onward, course, slots⟩ := later after
      refine ⟨deeds ++ more, result.map (filled :: ·), Aside.chains.append led onward,
        .next filling course, ?_⟩
      obtain ⟨key, value⟩ := filled
      obtain rfl : UInt64.ofNat first = key := filling.index_eq
      show (slotsFrom catalogue event rest (first + 1) count after).1.map (some value :: ·) = _
      rw [slots]
      cases result with
      | error error => rfl
      | ok values =>
        simp only [Except.map]
        rw [placeFrom_here small]

theorem Fills.gap {entries : List (UInt64 × OneOrMany InstanceId)} {first count : Nat}
    (small : first < UInt64.size) (ahead : ∀ key ∈ entries.map (·.1), first < key.toNat)
    (later : Fills catalogue event entries (first + 1) count) :
    Fills catalogue event entries first (count + 1) := by
  intro world
  obtain ⟨deeds, result, led, course, slots⟩ := later world
  rw [slotsFrom_succ, lookup_of_ahead small ahead]
  refine ⟨deeds, result, led, course, ?_⟩
  show (slotsFrom catalogue event entries (first + 1) count world).1.map (none :: ·) = _
  rw [slots]
  cases result with
  | error error => rfl
  | ok values =>
    have unfilled : ∀ key ∈ values.map (·.1), first < key.toNat := by
      rw [← indexes_of_fillings course]
      exact ahead
    simp only [Except.map, placeFrom, List.range'_succ, List.map_cons,
      lookup_of_ahead small unfilled]

variable (catalogue event)

theorem slotsFrom_fill {entries : List (UInt64 × OneOrMany InstanceId)} {first count : Nat}
    (ascending : entries.Pairwise fun a b => a.1 < b.1)
    (inside : ∀ key ∈ entries.map (·.1), first ≤ key.toNat ∧ key.toNat < first + count)
    (small : first + count ≤ UInt64.size) : Fills catalogue event entries first count := by
  induction count generalizing entries first with
  | zero =>
    cases entries with
    | nil => exact .empty first
    | cons entry rest =>
      have bounds := inside entry.1 (List.mem_cons_self ..)
      omega
  | succ count ih =>
    have room : first < UInt64.size := by omega
    -- The first index is that of the first entry, or no entry has it and its slot stays empty.
    by_cases here : ∃ entry rest, entries = (UInt64.ofNat first, entry) :: rest
    · obtain ⟨entry, rest, rfl⟩ := here
      obtain ⟨above, later⟩ := List.pairwise_cons.mp ascending
      have index : (UInt64.ofNat first).toNat = first := UInt64.toNat_ofNat_of_lt' room
      have inside_rest : ∀ key ∈ rest.map (·.1),
          first + 1 ≤ key.toNat ∧ key.toNat < first + 1 + count := by
        intro key member
        have bounds := inside key (List.mem_cons_of_mem _ member)
        obtain ⟨other, among, rfl⟩ := List.mem_map.mp member
        have order : (UInt64.ofNat first).toNat < other.1.toNat :=
          UInt64.lt_iff_toNat_lt.mp (above other among)
        omega
      exact (ih later inside_rest (by omega)).entry small entry
    · have ahead : ∀ key ∈ entries.map (·.1), first + 1 ≤ key.toNat :=
        ahead_of_ascending ascending (fun key member => (inside key member).1) here
      have inside_rest : ∀ key ∈ entries.map (·.1),
          first + 1 ≤ key.toNat ∧ key.toNat < first + 1 + count := by
        intro key member
        have bounds := inside key member
        exact ⟨ahead key member, by omega⟩
      exact (ih ascending inside_rest (by omega)).gap room ahead

end Filling

end EventPipeline
