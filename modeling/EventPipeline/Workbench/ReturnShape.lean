import EventPipeline.Json.Access
import EventPipeline.Response
import EventPipeline.Workbench.Clerk
import EventPipeline.Workbench.Shape

/-! Shapes of what methods return: how a JSON value stands for something returned, and how the
response is shown. -/

namespace EventPipeline.Workbench

open Json

inductive ReturnShape where
  | nothing
  | anything
  | text
  | constant (content : String)
  | truth
  | integer
  | single
  | double
  | order
  /-- Something or nothing, where nothing inside something can be told apart. -/
  | optional (inner : ReturnShape)
  | nullable (inner : ReturnShape)
  /-- A failure with the message under `err`, or a success with the value under `ok`. -/
  | fallible (inner : ReturnShape)
  | keyed
  | keyedByArray
deriving DecidableEq, Repr

namespace ReturnShape

def errorKey : String := "err"
def successKey : String := "ok"

/-- The double that a number, or the name of an infinity, stands for; anything else is no number. -/
def doubleBits : Value → UInt64
  | .int number => (Float.ofInt number).toBits
  | .double bits => bits
  | .string "inf" => (1.0 / 0.0 : Float).toBits
  | .string "-inf" => (-1.0 / 0.0 : Float).toBits
  | _ => (0.0 / 0.0 : Float).toBits

def readOrder (value : Value) : Order :=
  ⟨(value.field "id").integerOrZero, (value.itemsField "tags").map (·.textOrEmpty),
    (value.field "note").text?⟩

def read : ReturnShape → Value → Returned
  | .nothing, _ => .nothing
  | .anything, value => .value value
  | .text, value => .text value.textOrEmpty
  | .constant content, _ => .text content
  | .truth, value => .truth (value.bool?.getD false)
  | .integer, value => .integer value.integerOrZero
  | .single, value => .single (Float.ofBits (doubleBits value)).toFloat32.toBits
  | .double, value => .double (doubleBits value)
  | .order, value => .value (readOrder value).toValue
  | .optional inner, value =>
      match value.ofPresent with
      | some held => .present (inner.read held)
      | none => .absent
  | .nullable _, .null => .absent
  | .nullable inner, value => .present (inner.read value)
  | .fallible inner, value =>
      match value.field? errorKey with
      | some message => .failed (.ofMessage message.textOrEmpty)
      | none => .succeeded (inner.read (value.field successKey))
  | .keyed, value => .mapping [(value, .bool true)]
  | .keyedByArray, value => .mapping [(.array [value], .bool true)]

end ReturnShape

def shownResponse : Value → Value
  | .double bits => Shape.exactDouble bits
  | response => response

end EventPipeline.Workbench
