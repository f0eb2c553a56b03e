import EventPipeline.Agreement

/-! Configuration and properties.

A configuration is the declared half of a recipe, a JSON object. Properties are the live half, the
state that an instance exposes so that configuration can be merged onto it. The merge is shallow and
the configuration wins. -/

namespace EventPipeline

open Json

/-- The declared settings of a definition or recipe. -/
abbrev Configuration := Object

/-- The live settings of an instance. -/
abbrev Properties := Object

namespace Configuration

def contextKey : String := "contextName"

def contextName? (configuration : Configuration) : Option String :=
  configuration.get? contextKey >>= Value.text?

/-- Adds a context name unless the entry is there already, whatever it holds. -/
def withDefaultContext (configuration : Configuration) (name : String) : Configuration :=
  if configuration.contains contextKey then configuration
  else configuration.insert contextKey (.string name)

def ofValue? : Value → Option Configuration
  | .null => some OrderedMap.empty
  | value => value.object?

end Configuration

namespace Properties

def merge (properties : Properties) (configuration : Configuration) : Properties :=
  OrderedMap.merge properties configuration

def set (properties : Properties) (key : String) (value : Value) : Properties :=
  properties.insert key value

theorem get?_merge (properties : Properties) (configuration : Configuration) (key : String) :
    (properties.merge configuration).get? key =
      (configuration.get? key).or (properties.get? key) :=
  OrderedMap.get?_merge ..

end Properties

end EventPipeline
