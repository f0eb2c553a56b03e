import EventPipeline.Json.Value
import EventPipeline.OrderedMap

/-! JSON objects as finite maps from names to values, ordered by name. -/

namespace EventPipeline.Json

abbrev Object := OrderedMap String Value

namespace Value

def ofObject (object : Object) : Value := .object object.entries

/-- The fields of an object value, ordered by name; a later field of one name wins. -/
def object? : Value → Option Object
  | .object fields => some (OrderedMap.ofList fields)
  | _ => none

end Value

end EventPipeline.Json
