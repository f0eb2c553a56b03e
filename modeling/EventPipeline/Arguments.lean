import EventPipeline.Agreement
import EventPipeline.Error
import EventPipeline.Json.Decoder
import EventPipeline.RunContext

/-! Positional arguments of an invocation. A slot is empty when nothing was extracted for its
parameter; an empty or missing slot reads as `null`. -/

namespace EventPipeline

open Json

abbrev Slots := List (Option Value)

/-- What a decoder says of a value that it does not read. -/
abbrev Refusal := Value → String

namespace Slots

def value? (slots : Slots) (index : Nat) : Option Value := (slots[index]?).join

def valueOrNull (slots : Slots) (index : Nat) : Value := (slots.value? index).getD .null

def decode {α : Type} (slots : Slots) (refusal : Refusal) (decoder : Decoder α) (index : Nat)
    (method : String) : Except ArgumentError α :=
  match decoder (slots.valueOrNull index) with
  | some value => .ok value
  | none => .error ⟨index, method, refusal (slots.valueOrNull index)⟩

end Slots

structure Arguments where
  slots : Slots
  context : RunContext

namespace Arguments

def empty : Arguments := ⟨[], .empty⟩

def ofSlots (slots : Slots) : Arguments := ⟨slots, .empty⟩

def ofValues (values : List Value) : Arguments := .ofSlots (values.map some)

def push (arguments : Arguments) (slot : Option Value) : Arguments :=
  { arguments with slots := arguments.slots ++ [slot] }

def withContext (arguments : Arguments) (context : RunContext) : Arguments :=
  { arguments with context }

/-- Arguments agree when their slots do, whatever run they belong to. -/
def agree (a b : Arguments) : Bool := EventPipeline.agree a.slots b.slots

end Arguments

end EventPipeline
