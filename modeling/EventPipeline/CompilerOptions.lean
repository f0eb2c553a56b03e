import EventPipeline.Json.Decoder

/-! Options of the pipeline compiler. They are read like an event envelope, from an object or from
an array of the fields in order; every field has a default. -/

namespace EventPipeline

open Json

structure CompilerOptions where
  controllerSuffix : String := "Controller"
  deriveContextNames : Bool := true
deriving DecidableEq, Repr, Inhabited

namespace CompilerOptions

def suffixField : String := "controllerSuffix"
def deriveField : String := "deriveContextNames"

def standard : CompilerOptions := {}

def ofObject? (object : Object) : Option CompilerOptions := do
  let suffix ← Decoder.withDefault Decoder.text suffixField standard.controllerSuffix object
  let derives ← Decoder.withDefault Decoder.bool deriveField standard.deriveContextNames object
  return ⟨suffix, derives⟩

def ofValue? : Value → Option CompilerOptions
  | .object fields => ofObject? (OrderedMap.ofList fields)
  | .array [] => some standard
  | .array [suffix] => do return { standard with controllerSuffix := ← Decoder.text suffix }
  | .array [suffix, derives] => do return ⟨← Decoder.text suffix, ← Decoder.bool derives⟩
  | _ => none

end CompilerOptions

end EventPipeline
