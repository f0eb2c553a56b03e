import Mathlib.Data.List.TakeWhile
import EventPipeline.Loader
import EventPipeline.Proofs.Compilation.ContextNames

/-! Short names of qualified types.

The full name of a type is a path of segments, and behind it may stand arguments in angle brackets, with paths
of their own. Its short name is the last segment of its own path, however deep its arguments are nested. The
default of discovery and the context of a controller both look at that segment and at nothing else. -/

namespace EventPipeline

/-- A segment of a path. The characters that end a segment or open arguments do not occur in it. -/
structure Segment where
  text : String
  nonempty : text ≠ ""
  unseparated : ':' ∉ text.toList
  unopened : '<' ∉ text.toList

/-- The name of a type: the segments of its path, and what stands behind the bracket that opens its arguments,
if it has any. -/
structure QualifiedName where
  enclosing : List Segment
  last : Segment
  arguments : Option String

namespace QualifiedName

def path (name : QualifiedName) : String :=
  "::".intercalate ((name.enclosing ++ [name.last]).map (·.text))

def text (name : QualifiedName) : String :=
  match name.arguments with
  | none => name.path
  | some content => name.path ++ "<" ++ content

end QualifiedName

/-! ### The last segment -/

theorem lastSegment_of_unseparated {candidate text : List Char} (unseparated : ':' ∉ text) :
    lastSegment candidate text = candidate := by
  induction text with
  | nil => rfl
  | cons c rest ih =>
    obtain ⟨other, later⟩ := not_or.mp (mt List.mem_cons.mpr unseparated)
    rw [lastSegment, if_neg fun separator => other separator.1.symm]
    exact ih later

/-- Behind a separator the search begins anew. -/
theorem lastSegment_separator {candidate front rest : List Char} (unseparated : ':' ∉ front)
    (begins : rest.head? ≠ some ':') :
    lastSegment candidate (front ++ "::".toList ++ rest) = lastSegment rest rest := by
  induction front generalizing candidate with
  | nil =>
    show lastSegment candidate (':' :: ':' :: rest) = _
    rw [lastSegment, if_pos ⟨rfl, rfl⟩, List.tail_cons, lastSegment, if_neg fun again => begins again.2]
  | cons c front ih =>
    obtain ⟨other, later⟩ := not_or.mp (mt List.mem_cons.mpr unseparated)
    rw [List.cons_append, List.cons_append, lastSegment, if_neg fun separator => other separator.1.symm]
    exact ih later

namespace QualifiedName

variable (name : QualifiedName)

theorem path_enclosed (outer : Segment) :
    ({ name with enclosing := outer :: name.enclosing } : QualifiedName).path =
      outer.text ++ "::" ++ name.path := by
  unfold path
  rw [List.cons_append, List.map_cons, String.intercalate_cons_of_ne_nil (by simp)]

theorem path_unenclosed (last : Segment) (arguments : Option String) :
    (⟨[], last, arguments⟩ : QualifiedName).path = last.text :=
  String.intercalate_singleton

theorem head?_path : name.path.toList.head? ≠ some ':' := by
  have begins : ∀ (segment : Segment) (rest : List Char),
      (segment.text.toList ++ rest).head? ≠ some ':' := by
    intro segment rest
    cases shape : segment.text.toList with
    | nil => exact absurd (String.toList_eq_nil_iff.mp shape) segment.nonempty
    | cons c others =>
      intro colon
      apply segment.unseparated
      rw [shape, ← Option.some.inj colon]
      exact List.mem_cons_self
  obtain ⟨enclosing, last, arguments⟩ := name
  cases enclosing with
  | nil =>
    rw [path_unenclosed, ← List.append_nil last.text.toList]
    exact begins last []
  | cons outer inner =>
    rw [path_enclosed ⟨inner, last, arguments⟩ outer, String.append_assoc, String.toList_append]
    exact begins outer _

theorem lastSegment_path :
    lastSegment name.path.toList name.path.toList = name.last.text.toList := by
  obtain ⟨enclosing, last, arguments⟩ := name
  induction enclosing with
  | nil =>
    rw [path_unenclosed]
    exact lastSegment_of_unseparated last.unseparated
  | cons outer inner ih =>
    rw [path_enclosed ⟨inner, last, arguments⟩ outer, String.toList_append, String.toList_append,
      lastSegment_separator outer.unseparated (head?_path _)]
    exact ih

theorem unopened_path : '<' ∉ name.path.toList := by
  obtain ⟨enclosing, last, arguments⟩ := name
  induction enclosing with
  | nil =>
    rw [path_unenclosed]
    exact last.unopened
  | cons outer inner ih =>
    rw [path_enclosed ⟨inner, last, arguments⟩ outer, String.toList_append, String.toList_append,
      List.mem_append, List.mem_append]
    rintro ((front | separator) | behind)
    · exact outer.unopened front
    · revert separator
      decide
    · exact ih behind

theorem takeWhile_text : name.text.toList.takeWhile (· ≠ '<') = name.path.toList := by
  have own : ∀ c ∈ name.path.toList, decide (c ≠ '<') = true := by
    intro c among
    refine decide_eq_true ?_
    rintro rfl
    exact name.unopened_path among
  unfold text
  cases name.arguments with
  | none => exact List.takeWhile_eq_self_iff.mpr own
  | some content =>
    simp only [String.append_assoc, String.toList_append]
    rw [List.takeWhile_append_of_pos own]
    exact List.append_nil _

theorem shortNameOf_text : shortNameOf name.text = name.last.text := by
  unfold shortNameOf
  simp only [takeWhile_text, lastSegment_path, String.ofList_toList]

end QualifiedName

/-- A type is known by the last segment of its path, whatever its arguments are. Discovery keeps it by default
when that segment ends like a controller. Its context is what stands before the configured suffix in that
segment, when there is something; otherwise, also when the segment is the suffix, it is the whole segment. So a
context is never empty, and a suffix that is repeated goes once. -/
theorem named_by_last_segment (name : QualifiedName) (id : Nat) (compilation : Compilation) :
    let type : TypeToken := ⟨id, name.text⟩
    let own := name.last.text
    let suffix := compilation.options.controllerSuffix
    let context := compilation.controllerContext type
    type.shortName = own ∧
      (ControllerLoader.endsAsController type.shortName = true ↔
        ∃ stem, own = stem ++ ControllerLoader.defaultSuffix) ∧
      (∀ stem, stem ≠ "" → own = stem ++ suffix → context = stem) ∧
      ((∀ stem, stem ≠ "" → own ≠ stem ++ suffix) → context = own) ∧
      context ≠ "" ∧
      (own = context ∨ own = context ++ suffix) := by
  intro type own suffix context
  have short : type.shortName = own := name.shortNameOf_text
  have names : NamesController suffix own context := by
    rw [← short]
    exact stripSuffix_names ..
  refine ⟨short, ?_, ?_, ?_, ?_, ?_⟩
  · rw [short, ControllerLoader.endsAsController, decide_eq_true_eq]
    constructor
    · rintro ⟨front, shape⟩
      refine ⟨String.ofList front, ?_⟩
      rw [← String.toList_inj, String.toList_append, String.toList_ofList, shape]
    · rintro ⟨stem, shape⟩
      exact ⟨stem.toList, by rw [shape, String.toList_append]⟩
  · intro stem nonempty divided
    rcases names with ⟨_, strips⟩ | ⟨_, whole⟩
    · exact (String.append_left_inj suffix).mp (strips.symm.trans divided)
    · exact absurd divided (whole stem nonempty)
  · intro whole
    rcases names with ⟨nonempty, strips⟩ | ⟨same, _⟩
    · exact absurd strips (whole context nonempty)
    · exact same
  · rcases names with ⟨nonempty, _⟩ | ⟨same, _⟩
    · exact nonempty
    · rw [same]
      exact name.last.nonempty
  · rcases names with ⟨_, strips⟩ | ⟨same, _⟩
    · exact .inr strips
    · exact .inl same.symm

/-! ### A controller with arguments -/

def fieldSegment : Segment := ⟨"field", by decide, by decide, by decide⟩
def ecoleSegment : Segment := ⟨"ÉcoleController", by decide, by decide, by decide⟩

def ecoleName : QualifiedName :=
  ⟨[fieldSegment, fieldSegment], ecoleSegment, some "own::Gate<u8>, other::Case>::Controller"⟩

/-- Neither the paths of the arguments nor what follows them counts. -/
theorem ecole_named_by_last_segment :
    ecoleName.text = "field::field::ÉcoleController<own::Gate<u8>, other::Case>::Controller" ∧
    (⟨0, ecoleName.text⟩ : TypeToken).shortName = "ÉcoleController" ∧
    (⟨fun _ => [], .empty, .standard⟩ : Compilation).controllerContext ⟨0, ecoleName.text⟩ = "École" := by
  have named := named_by_last_segment ecoleName 0 ⟨fun _ => [], .empty, .standard⟩
  exact ⟨by decide, named.1, named.2.2.1 "École" (by decide) (by decide)⟩

end EventPipeline
