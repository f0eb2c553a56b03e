import EventPipeline.Json.Object

/-! When two things count as equal.

Numbers are compared as numbers of their class, so the two zeros among the doubles count as one,
wherever they stand: in a value, in a configuration, in a plan that is built from them. A comparison
first brings both sides into a normal form, from which everything is gone that it does not look at,
and the two agree when these are the same. -/

namespace EventPipeline

open Json

/-- The things that are compared by a normal form. -/
class Comparable (α : Type) where
  normal : α → α

export Comparable (normal)

section

variable {α : Type} [Comparable α] [DecidableEq α]

def agree (a b : α) : Bool := decide (normal a = normal b)

theorem agree_iff {a b : α} : agree a b = true ↔ normal a = normal b := by simp [agree]

@[simp] theorem agree_refl (a : α) : agree a a = true := agree_iff.mpr rfl

theorem agree_comm (a b : α) : agree a b = agree b a := by simp [agree, eq_comm]

theorem agree_trans {a b c : α} (left : agree a b = true) (right : agree b c = true) :
    agree a c = true :=
  agree_iff.mpr ((agree_iff.mp left).trans (agree_iff.mp right))

end

namespace Json.Value

def negativeZero : UInt64 := 0x8000000000000000

def normalBits (bits : UInt64) : UInt64 := if bits = negativeZero then 0 else bits

mutual

def unsigned : Value → Value
  | .double bits => .double (normalBits bits)
  | .array items => .array (unsignedItems items)
  | .object fields => .object (unsignedFields fields)
  | value => value

def unsignedItems : List Value → List Value
  | [] => []
  | item :: items => unsigned item :: unsignedItems items

def unsignedFields : List (String × Value) → List (String × Value)
  | [] => []
  | (key, value) :: fields => (key, unsigned value) :: unsignedFields fields

end

end Json.Value

instance : Comparable Value := ⟨Value.unsigned⟩

instance {α : Type} [Comparable α] : Comparable (Option α) := ⟨Option.map normal⟩

instance {α : Type} [Comparable α] : Comparable (List α) := ⟨List.map normal⟩

instance {κ α : Type} [LT κ] [DecidableLT κ] [DecidableEq κ] [Comparable α] :
    Comparable (OrderedMap κ α) := ⟨OrderedMap.mapValues fun _ => normal⟩

end EventPipeline
