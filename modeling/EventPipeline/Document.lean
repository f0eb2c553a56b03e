import EventPipeline.ActivationUnit

/-! Pipeline documents: the compiled plan of one route. -/

namespace EventPipeline

structure MiddlewareDocument where
  activation : ActivationUnit
  extractors : OrderedMap UInt64 (OneOrMany Recipe)
  /-- The declared priority; none for the route handler itself. -/
  priority : Option Int
deriving DecidableEq

namespace MiddlewareDocument

def arity (document : MiddlewareDocument) : UInt64 :=
  match document.extractors.entries.getLast? with
  | some (index, _) => index + 1
  | none => 0

/-- Every index lies below the arity, unless it is the greatest machine word. -/
theorem toNat_lt_arity {document : MiddlewareDocument}
    (bounded : ∀ index ∈ document.extractors.keys, index.toNat + 1 < UInt64.size)
    {index : UInt64} (member : index ∈ document.extractors.keys) :
    index.toNat < document.arity.toNat := by
  unfold arity
  split
  · next last entry ends =>
    have among : last ∈ document.extractors.keys :=
      List.mem_map.mpr ⟨_, List.mem_of_getLast? ends, rfl⟩
    have room := bounded last among
    have sum : (last + 1).toNat = last.toNat + 1 := by
      rw [UInt64.toNat_add]
      exact Nat.mod_eq_of_lt room
    rcases OrderedMap.le_last ends member with below | same
    · have order := UInt64.lt_iff_toNat_lt.mp below
      simp only at order
      omega
    · simp only at same
      subst same
      omega
  · next vacant =>
    rw [List.getLast?_eq_none_iff] at vacant
    simp [OrderedMap.keys, vacant] at member

instance : Comparable MiddlewareDocument :=
  ⟨fun document =>
    { document with
      activation := normal document.activation
      extractors := normal document.extractors }⟩

end MiddlewareDocument

structure PipelineDocument where
  /-- In execution order: controller before, route before, handler, route after, controller
  after. -/
  middleware : List MiddlewareDocument
  filters : List (OneOrMany Recipe)
deriving DecidableEq

namespace PipelineDocument

def handlerIndex? (document : PipelineDocument) : Option Nat :=
  document.middleware.findIdx? (·.priority.isNone)

def handler? (document : PipelineDocument) : Option MiddlewareDocument :=
  document.middleware.find? (·.priority.isNone)

instance : Comparable PipelineDocument :=
  ⟨fun document => ⟨normal document.middleware, normal document.filters⟩⟩

end PipelineDocument

end EventPipeline
