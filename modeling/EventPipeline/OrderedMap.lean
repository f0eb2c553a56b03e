/-! Finite maps with their entries in strictly increasing order of the keys, so that two maps with
the same look-ups are the same map. -/

namespace EventPipeline

class KeyOrder (κ : Type) [LT κ] : Prop where
  irrefl (a : κ) : ¬ a < a
  trans {a b c : κ} : a < b → b < c → a < c
  total (a b : κ) : a < b ∨ a = b ∨ b < a

theorem text_total (a b : String) : a < b ∨ a = b ∨ b < a := by
  by_cases below : a < b
  · exact Or.inl below
  · by_cases above : b < a
    · exact Or.inr (Or.inr above)
    · exact Or.inr (Or.inl (String.le_antisymm above below))

instance : KeyOrder String := ⟨String.lt_irrefl, String.lt_trans, text_total⟩

theorem word_total (a b : UInt64) : a < b ∨ a = b ∨ b < a := by
  rcases Nat.lt_trichotomy a.toNat b.toNat with below | same | above
  · exact Or.inl (UInt64.lt_iff_toNat_lt.mpr below)
  · exact Or.inr (Or.inl (UInt64.toNat_inj.mp same))
  · exact Or.inr (Or.inr (UInt64.lt_iff_toNat_lt.mpr above))

instance : KeyOrder UInt64 := ⟨UInt64.lt_irrefl, UInt64.lt_trans, word_total⟩

variable {κ α β : Type} [LT κ] [DecidableLT κ] [DecidableEq κ]

/-- Entries ordered by key, each key once. -/
structure OrderedMap (κ α : Type) [LT κ] where
  entries : List (κ × α)
  ordered : entries.Pairwise (fun a b => a.1 < b.1)

instance [DecidableEq α] : DecidableEq (OrderedMap κ α) := fun a b =>
  decidable_of_iff (a.entries = b.entries) (by cases a; cases b; simp)

namespace OrderedMap

/-- Changes the entry of one key in an ordered list; `change` is given what the key holds. -/
def alterEntry (key : κ) (change : Option α → α) : List (κ × α) → List (κ × α)
  | [] => [(key, change none)]
  | (other, held) :: rest =>
      if key < other then (key, change none) :: (other, held) :: rest
      else if key = other then (key, change (some held)) :: rest
      else (other, held) :: alterEntry key change rest

theorem key_of_mem_alterEntry {key : κ} {change : Option α → α} {entries : List (κ × α)}
    {entry : κ × α} (member : entry ∈ alterEntry key change entries) :
    entry.1 = key ∨ entry ∈ entries := by
  induction entries with
  | nil =>
      simp only [alterEntry, List.mem_singleton] at member
      exact Or.inl (congrArg Prod.fst member)
  | cons head rest ih =>
      obtain ⟨other, held⟩ := head
      simp only [alterEntry] at member
      split at member
      · rcases List.mem_cons.mp member with first | later
        · exact Or.inl (congrArg Prod.fst first)
        · exact Or.inr later
      · split at member
        · rcases List.mem_cons.mp member with first | later
          · exact Or.inl (congrArg Prod.fst first)
          · exact Or.inr (List.mem_cons_of_mem _ later)
        · rcases List.mem_cons.mp member with first | later
          · exact Or.inr (first ▸ List.mem_cons_self ..)
          · exact (ih later).imp id (List.mem_cons_of_mem _)

theorem alterEntry_ordered [KeyOrder κ] (key : κ) (change : Option α → α)
    {entries : List (κ × α)} (ordered : entries.Pairwise (fun a b => a.1 < b.1)) :
    (alterEntry key change entries).Pairwise (fun a b => a.1 < b.1) := by
  induction entries with
  | nil => simp [alterEntry]
  | cons head rest ih =>
      obtain ⟨other, held⟩ := head
      obtain ⟨first, later⟩ := List.pairwise_cons.mp ordered
      simp only [alterEntry]
      split
      · next below =>
        refine List.pairwise_cons.mpr ⟨?_, ordered⟩
        intro entry member
        rcases List.mem_cons.mp member with here | there
        · subst here
          exact below
        · exact KeyOrder.trans below (first entry there)
      · next notBelow =>
        split
        · next here =>
          subst here
          exact List.pairwise_cons.mpr ⟨first, later⟩
        · next different =>
          have above : other < key := by
            rcases KeyOrder.total key other with less | same | more
            · exact absurd less notBelow
            · exact absurd same different
            · exact more
          refine List.pairwise_cons.mpr ⟨?_, ih later⟩
          intro entry member
          rcases key_of_mem_alterEntry member with new | old
          · exact new ▸ above
          · exact first entry old

def empty : OrderedMap κ α := ⟨[], List.Pairwise.nil⟩

instance : Inhabited (OrderedMap κ α) := ⟨empty⟩

def get? (map : OrderedMap κ α) (key : κ) : Option α := map.entries.lookup key

def contains (map : OrderedMap κ α) (key : κ) : Bool := (map.get? key).isSome

def keys (map : OrderedMap κ α) : List κ := map.entries.map (·.1)

def size (map : OrderedMap κ α) : Nat := map.entries.length

def isEmpty (map : OrderedMap κ α) : Bool := map.entries.isEmpty

def erase (map : OrderedMap κ α) (key : κ) : OrderedMap κ α :=
  ⟨map.entries.filter (·.1 ≠ key), map.ordered.filter _⟩

def mapValues (f : κ → α → β) (map : OrderedMap κ α) : OrderedMap κ β :=
  ⟨map.entries.map fun (key, value) => (key, f key value),
    List.pairwise_map.mpr map.ordered⟩

section Change

variable [KeyOrder κ]

def alter (map : OrderedMap κ α) (key : κ) (change : Option α → α) : OrderedMap κ α :=
  ⟨alterEntry key change map.entries, alterEntry_ordered key change map.ordered⟩

def insert (map : OrderedMap κ α) (key : κ) (value : α) : OrderedMap κ α :=
  map.alter key fun _ => value

def insertAll (map : OrderedMap κ α) (entries : List (κ × α)) : OrderedMap κ α :=
  entries.foldl (fun held entry => held.insert entry.1 entry.2) map

def ofList (entries : List (κ × α)) : OrderedMap κ α := empty.insertAll entries

/-- Writes every entry of `update` over `map`. An update without entries returns at once. -/
def merge (map update : OrderedMap κ α) : OrderedMap κ α :=
  if update.isEmpty then map else map.insertAll update.entries

end Change

omit [DecidableLT κ] in
@[simp] theorem get?_empty (key : κ) : (empty : OrderedMap κ α).get? key = none := rfl

omit [LT κ] [DecidableLT κ] in
theorem lookup_entry (wanted key : κ) (value : α) (rest : List (κ × α)) :
    ((key, value) :: rest).lookup wanted =
      if wanted = key then some value else rest.lookup wanted := by
  rw [List.lookup_cons]
  by_cases same : wanted = key
  · simp [same]
  · simp [same, beq_false_of_ne same]

omit [LT κ] [DecidableLT κ] in
theorem lookup_filter {keep : κ → Bool} {key : κ} (kept : keep key = true)
    (entries : List (κ × α)) :
    (entries.filter fun entry => keep entry.1).lookup key = entries.lookup key := by
  induction entries with
  | nil => rfl
  | cons head rest ih =>
      obtain ⟨other, held⟩ := head
      by_cases same : key = other
      · subst same
        simp [kept]
      · by_cases stays : keep other = true
        · simp [lookup_entry, stays, same, ih]
        · simp [lookup_entry, stays, same, ih]

omit [DecidableLT κ] in
theorem lookup_eq_none_of_below [KeyOrder κ] {key : κ} {entries : List (κ × α)}
    (below : ∀ entry ∈ entries, key < entry.1) : entries.lookup key = none := by
  induction entries with
  | nil => rfl
  | cons head rest ih =>
      obtain ⟨other, held⟩ := head
      have different : key ≠ other := by
        intro same
        exact KeyOrder.irrefl key (same ▸ below (other, held) (List.mem_cons_self ..) : key < key)
      rw [lookup_entry, if_neg different]
      exact ih fun entry member => below entry (List.mem_cons_of_mem _ member)

theorem lookup_alterEntry [KeyOrder κ] (key wanted : κ) (change : Option α → α)
    {entries : List (κ × α)} (ordered : entries.Pairwise (fun a b => a.1 < b.1)) :
    (alterEntry key change entries).lookup wanted =
      if wanted = key then some (change (entries.lookup key)) else entries.lookup wanted := by
  induction entries with
  | nil => simp [alterEntry, lookup_entry]
  | cons head rest ih =>
      obtain ⟨other, held⟩ := head
      obtain ⟨first, later⟩ := List.pairwise_cons.mp ordered
      simp only [alterEntry]
      split
      · next below =>
        have absent : ((other, held) :: rest).lookup key = none := by
          apply lookup_eq_none_of_below
          intro entry member
          rcases List.mem_cons.mp member with here | there
          · subst here
            exact below
          · exact KeyOrder.trans below (first entry there)
        rw [lookup_entry, absent]
      · next notBelow =>
        split
        · next here =>
          subst here
          by_cases same : wanted = key <;> simp [lookup_entry, same]
        · next different =>
          simp only [lookup_entry, ih later]
          by_cases same : wanted = other
          · subst same
            simp [Ne.symm different]
          · simp [same, different]

/-- A change is seen at its own key and nowhere else. -/
@[simp] theorem get?_alter [KeyOrder κ] (map : OrderedMap κ α) (key wanted : κ)
    (change : Option α → α) :
    (map.alter key change).get? wanted =
      if wanted = key then some (change (map.get? key)) else map.get? wanted :=
  lookup_alterEntry key wanted change map.ordered

@[simp] theorem get?_insert [KeyOrder κ] (map : OrderedMap κ α) (key wanted : κ) (value : α) :
    (map.insert key value).get? wanted = if wanted = key then some value else map.get? wanted :=
  get?_alter ..

theorem get?_insertAll [KeyOrder κ] (map : OrderedMap κ α) {entries : List (κ × α)}
    (ascending : entries.Pairwise (fun a b => a.1 < b.1)) (wanted : κ) :
    (map.insertAll entries).get? wanted = (entries.lookup wanted).or (map.get? wanted) := by
  induction entries generalizing map with
  | nil => rfl
  | cons head rest ih =>
      obtain ⟨key, value⟩ := head
      obtain ⟨first, later⟩ := List.pairwise_cons.mp ascending
      show ((map.insert key value).insertAll rest).get? wanted = _
      rw [ih _ later, get?_insert, lookup_entry]
      by_cases same : wanted = key
      · subst same
        rw [lookup_eq_none_of_below first, if_pos rfl, if_pos rfl]
        rfl
      · rw [if_neg same, if_neg same]

theorem get?_insertAll_last [KeyOrder κ] (map : OrderedMap κ α) (entries : List (κ × α))
    (wanted : κ) :
    (map.insertAll entries).get? wanted = (entries.reverse.lookup wanted).or (map.get? wanted) := by
  induction entries generalizing map with
  | nil => rfl
  | cons head rest ih =>
      obtain ⟨key, value⟩ := head
      show ((map.insert key value).insertAll rest).get? wanted = _
      rw [ih, get?_insert, List.reverse_cons, List.lookup_append, lookup_entry, Option.or_assoc]
      by_cases same : wanted = key
      · rw [if_pos same, if_pos same]
        rfl
      · rw [if_neg same, if_neg same]
        rfl

theorem get?_merge [KeyOrder κ] (map update : OrderedMap κ α) (wanted : κ) :
    (map.merge update).get? wanted = (update.get? wanted).or (map.get? wanted) := by
  unfold merge
  split
  · next nothing =>
    have absent : update.get? wanted = none := by
      rw [get?, List.isEmpty_iff.mp nothing]
      rfl
    rw [absent, Option.none_or]
  · exact get?_insertAll map update.ordered wanted

theorem alterEntry_of_above [KeyOrder κ] {key : κ} {change : Option α → α}
    {entries : List (κ × α)} (above : ∀ entry ∈ entries, entry.1 < key) :
    alterEntry key change entries = entries ++ [(key, change none)] := by
  induction entries with
  | nil => rfl
  | cons head rest ih =>
      obtain ⟨other, held⟩ := head
      have below : other < key := above (other, held) (List.mem_cons_self ..)
      have notAbove : ¬ key < other := fun reversed =>
        KeyOrder.irrefl key (KeyOrder.trans reversed below)
      have different : key ≠ other := fun same => KeyOrder.irrefl key (same ▸ below : key < key)
      have later := ih fun entry member => above entry (List.mem_cons_of_mem _ member)
      rw [alterEntry, if_neg notAbove, if_neg different, later]
      rfl

/-- Entries that are in order, behind those of the map, are written behind them. -/
theorem entries_insertAll [KeyOrder κ] {map : OrderedMap κ α} {entries : List (κ × α)}
    (ascending : (map.entries ++ entries).Pairwise (fun a b => a.1 < b.1)) :
    (map.insertAll entries).entries = map.entries ++ entries := by
  induction entries generalizing map with
  | nil => simp [insertAll]
  | cons head rest ih =>
      have above : ∀ entry ∈ map.entries, entry.1 < head.1 := fun entry member =>
        (List.pairwise_append.mp ascending).2.2 entry member head (List.mem_cons_self ..)
      have written : (map.insert head.1 head.2).entries = map.entries ++ [head] :=
        alterEntry_of_above above
      have later : ((map.insert head.1 head.2).entries ++ rest).Pairwise
          (fun a b => a.1 < b.1) := by
        rw [written, List.append_assoc]
        exact ascending
      show ((map.insert head.1 head.2).insertAll rest).entries = _
      rw [ih later, written, List.append_assoc]
      rfl

theorem entries_ofList [KeyOrder κ] {entries : List (κ × α)}
    (ascending : entries.Pairwise (fun a b => a.1 < b.1)) :
    (ofList entries).entries = entries :=
  @entries_insertAll _ _ _ _ _ _ empty _ ascending

@[simp] theorem ofList_entries [KeyOrder κ] (map : OrderedMap κ α) : ofList map.entries = map := by
  have same := entries_ofList map.ordered
  cases written : ofList map.entries with
  | mk entries ordered =>
    rw [written] at same
    cases map
    cases same
    rfl

omit [DecidableLT κ] [DecidableEq κ] in
theorem le_last {map : OrderedMap κ α} {last : κ × α} (ends : map.entries.getLast? = some last)
    {key : κ} (member : key ∈ map.keys) : key < last.1 ∨ key = last.1 := by
  obtain ⟨front, shape⟩ := List.getLast?_eq_some_iff.mp ends
  have ordered := map.ordered
  rw [shape, List.pairwise_append] at ordered
  obtain ⟨entry, among, rfl⟩ := List.mem_map.mp member
  rw [shape, List.mem_append, List.mem_singleton] at among
  rcases among with before | rfl
  · exact Or.inl (ordered.2.2 entry before last (List.mem_singleton_self last))
  · exact Or.inr rfl

omit [DecidableLT κ] in
@[simp] theorem get?_erase (map : OrderedMap κ α) (key wanted : κ) :
    (map.erase key).get? wanted = if wanted = key then none else map.get? wanted := by
  obtain ⟨entries, ordered⟩ := map
  simp only [erase, get?]
  clear ordered
  induction entries with
  | nil => simp
  | cons head rest ih =>
      obtain ⟨other, held⟩ := head
      by_cases gone : other = key
      · subst gone
        simp only [ne_eq, not_true_eq_false, decide_false, Bool.false_eq_true,
          not_false_eq_true, List.filter_cons_of_neg, ih, lookup_entry]
        by_cases same : wanted = other <;> simp [same]
      · simp only [ne_eq, gone, not_false_eq_true, decide_true, List.filter_cons_of_pos,
          lookup_entry, ih]
        by_cases same : wanted = other
        · subst same
          simp [gone]
        · simp [same]

omit [DecidableLT κ] in
theorem entries_ext [KeyOrder κ] {entries others : List (κ × α)}
    (ordered : entries.Pairwise fun a b => a.1 < b.1) (arranged : others.Pairwise fun a b => a.1 < b.1)
    (same : ∀ key, entries.lookup key = others.lookup key) : entries = others := by
  induction entries generalizing others with
  | nil =>
    cases others with
    | nil => rfl
    | cons entry rest => cases (same entry.1).trans List.lookup_cons_self
  | cons entry rest ih =>
    obtain ⟨key, value⟩ := entry
    obtain ⟨above, later⟩ := List.pairwise_cons.mp ordered
    cases others with
    | nil => simpa using same key
    | cons entry others =>
      obtain ⟨other, held⟩ := entry
      obtain ⟨beyond, further⟩ := List.pairwise_cons.mp arranged
      have here := same key
      have there := same other
      simp only [lookup_entry, ↓reduceIte] at here there
      rcases KeyOrder.total key other with below | rfl | behind
      · -- A key that stands before all others of the second list is not found there.
        have absent : others.lookup key = none :=
          lookup_eq_none_of_below fun entry member => KeyOrder.trans below (beyond entry member)
        have apart : key ≠ other := fun equal => KeyOrder.irrefl key (equal ▸ below : key < key)
        rw [if_neg apart, absent] at here
        cases here
      · rw [if_pos rfl] at here
        obtain rfl := Option.some.inj here
        congr 1
        apply ih later further
        intro wanted
        by_cases first : wanted = key
        · subst first
          rw [lookup_eq_none_of_below above, lookup_eq_none_of_below beyond]
        · have found := same wanted
          rwa [lookup_entry, lookup_entry, if_neg first, if_neg first] at found
      · have absent : rest.lookup other = none :=
          lookup_eq_none_of_below fun entry member => KeyOrder.trans behind (above entry member)
        have apart : other ≠ key := fun equal => KeyOrder.irrefl other (equal ▸ behind : other < other)
        rw [if_neg apart, absent] at there
        cases there

omit [DecidableLT κ] in
theorem get?_of_mem [KeyOrder κ] {map : OrderedMap κ α} {entry : κ × α}
    (among : entry ∈ map.entries) : map.get? entry.1 = some entry.2 := by
  obtain ⟨entries, ordered⟩ := map
  unfold get?
  simp only at among ⊢
  induction entries with
  | nil => cases among
  | cons head rest ih =>
    obtain ⟨above, later⟩ := List.pairwise_cons.mp ordered
    rcases List.mem_cons.mp among with rfl | there
    · exact List.lookup_cons_self
    · have apart : entry.1 ≠ head.1 := fun same =>
        KeyOrder.irrefl entry.1 (same ▸ above entry there : entry.1 < entry.1)
      rw [lookup_entry, if_neg apart]
      exact ih later there

omit [DecidableLT κ] in
theorem ext_get? [KeyOrder κ] {map other : OrderedMap κ α}
    (same : ∀ key, map.get? key = other.get? key) : map = other := by
  have equal := entries_ext map.ordered other.ordered same
  cases map
  cases other
  cases equal
  rfl

omit [DecidableLT κ] in
@[simp] theorem get?_mapValues (f : κ → α → β) (map : OrderedMap κ α) (key : κ) :
    (map.mapValues f).get? key = (map.get? key).map (f key) := by
  obtain ⟨entries, ordered⟩ := map
  simp only [mapValues, get?]
  clear ordered
  induction entries with
  | nil => rfl
  | cons head rest ih =>
    obtain ⟨other, held⟩ := head
    rw [List.map_cons, lookup_entry, lookup_entry, ih]
    by_cases here : key = other
    · subst here
      rw [if_pos rfl, if_pos rfl, Option.map_some]
    · rw [if_neg here, if_neg here]

omit [DecidableLT κ] in
theorem mem_keys_iff {map : OrderedMap κ α} {key : κ} :
    key ∈ map.keys ↔ map.get? key ≠ none := by
  unfold keys get?
  rw [ne_eq, List.lookup_eq_none_iff]
  simp

end OrderedMap

end EventPipeline
