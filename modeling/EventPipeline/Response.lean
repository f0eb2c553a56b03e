import EventPipeline.Error
import EventPipeline.Json.Number
import EventPipeline.Json.Object

/-! Turning what a method returns into a response value.

Nothing and an absent value become `null`, a failure becomes the method's error, and a number
without a decimal form, an infinity or a NaN, becomes `null`. -/

namespace EventPipeline

open Json

inductive Returned where
  | nothing
  | value (value : Value)
  | text (text : String)
  | truth (value : Bool)
  | integer (value : Int)
  | single (bits : UInt32)
  | double (bits : UInt64)
  | absent
  | present (returned : Returned)
  | succeeded (returned : Returned)
  | failed (cause : Cause)
  | mapping (entries : List (Value × Value))

namespace Returned

def keyText? : Value → Option String
  | .string content => some content
  | .int number => some (toString number)
  | .bool held => some (if held then "true" else "false")
  | _ => none

/-- Writes a map as an object; a key that is not a text, a number or a truth value is refused. -/
def writeMap (entries : List (Value × Value)) : Except Cause Value :=
  match entries.mapM fun (key, held) => (keyText? key).map (·, held) with
  | some fields => .ok (.ofObject (OrderedMap.ofList fields))
  | none => .error (.ofMessage "key must be a string")

def ofDouble (bits : UInt64) : Value := if Number.isFinite bits then .double bits else .null

def respond : Returned → Except Cause Value
  | .nothing => .ok .null
  | .value held => .ok held
  | .text content => .ok (.string content)
  | .truth held => .ok (.bool held)
  | .integer number => .ok (.int number)
  | .single bits => .ok (ofDouble (Float32.ofBits bits).toFloat.toBits)
  | .double bits => .ok (ofDouble bits)
  | .absent => .ok .null
  | .present returned => returned.respond
  | .succeeded returned => returned.respond
  | .failed cause => .error cause
  | .mapping entries => writeMap entries

end Returned

end EventPipeline
