import EventPipeline.Json.Decoder

/-! The event envelope.

An event is written as an object with three fields. It is read back from that object, where data and
routing data may be missing, or from an array that gives the fields in order. -/

namespace EventPipeline

open Json

structure Event where
  type : String
  data : Value
  routeData : Value
deriving DecidableEq

namespace Event

def typeField : String := "eventType"
def dataField : String := "data"
def routeDataField : String := "routeData"

def blank : Event := ⟨"", .null, .null⟩

def ofType (type : String) (data : Value) : Event := ⟨type, data, .null⟩

def withRouteData (event : Event) (routeData : Value) : Event := { event with routeData }

def toObject (event : Event) : Object :=
  OrderedMap.ofList [(typeField, .string event.type), (dataField, event.data),
    (routeDataField, event.routeData)]

def toValue (event : Event) : Value := Value.ofObject event.toObject

def ofObject? (object : Object) : Option Event := do
  let type ← Decoder.required Decoder.text typeField object
  let data ← Decoder.withDefault Decoder.any dataField .null object
  let routeData ← Decoder.withDefault Decoder.any routeDataField .null object
  return ⟨type, data, routeData⟩

/-- Reads an envelope: an object, or an array of the fields in order whose tail may be missing. -/
def ofValue? : Value → Option Event
  | .object fields => ofObject? (OrderedMap.ofList fields)
  | .array [type] => do return ⟨← Decoder.text type, .null, .null⟩
  | .array [type, data] => do return ⟨← Decoder.text type, data, .null⟩
  | .array [type, data, routeData] => do return ⟨← Decoder.text type, data, routeData⟩
  | _ => none

end Event

end EventPipeline
