import EventPipeline.Json.Object

/-! Typed readings of JSON values.

A decoder accepts the values of one shape and refuses all others. Integers never come from doubles,
doubles come from any number, and only an optional reading accepts `null` beside its own shape. -/

namespace EventPipeline.Json

/-- A reading of values as `α`; `none` is a refusal. -/
abbrev Decoder (α : Type) := Value → Option α

namespace Decoder

def any : Decoder Value := some

def text : Decoder String := Value.text?

def bool : Decoder Bool := Value.bool?

def integer (low high : Int) : Decoder Int
  | .int value => if low ≤ value ∧ value ≤ high then some value else none
  | _ => none

def capacity (bits : Nat) : Int := (Nat.pow 2 bits : Nat)

def unsigned (bits : Nat) : Decoder Int := integer 0 (capacity bits - 1)

def signed (bits : Nat) : Decoder Int := integer (-capacity (bits - 1)) (capacity (bits - 1) - 1)

/-- Any number, rounded to the nearest double and given by its bits. -/
def double : Decoder UInt64
  | .int value => some (Float.ofInt value).toBits
  | .double bits => some bits
  | _ => none

def unit : Decoder Unit
  | .null => some ()
  | _ => none

def character : Decoder Char
  | .string text =>
      match text.toList with
      | [c] => some c
      | _ => none
  | _ => none

def list {α : Type} (element : Decoder α) : Decoder (List α)
  | .array items => items.mapM element
  | _ => none

def optional {α : Type} (element : Decoder α) : Decoder (Option α)
  | .null => some none
  | value => (element value).map some

def pair {α β : Type} (first : Decoder α) (second : Decoder β) : Decoder (α × β)
  | .array [a, b] => do return (← first a, ← second b)
  | _ => none

def fields {α : Type} (element : Decoder α) : Decoder (List (String × α))
  | .object entries => entries.mapM fun (key, value) => (element value).map (key, ·)
  | _ => none

def required {α : Type} (element : Decoder α) (key : String) (object : Object) : Option α :=
  object.get? key >>= element

/-- A field that has a default when it is missing, but not when it has another shape. -/
def withDefault {α : Type} (element : Decoder α) (key : String) (fallback : α)
    (object : Object) : Option α :=
  match object.get? key with
  | none => some fallback
  | some value => element value

end Decoder

end EventPipeline.Json
