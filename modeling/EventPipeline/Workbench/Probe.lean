import EventPipeline.Builtin.Own
import EventPipeline.Workbench.Shape

/-! Probes: components, filters and extractors that report how they are used.

What a probe's constructor asks the container for is listed as wishes. What a method of a probe does
is said by its name: a verb, and after a colon what the verb is about. -/

namespace EventPipeline.Workbench

open Json

structure Internals where
  label : String
  serial : Nat
  dependencies : List Value
  calls : Nat
  settings : Properties
deriving Inhabited

structure Ambience where
  made : Nat
  lines : List String

namespace Ambience

def quiet : Ambience := ⟨0, []⟩

def note (ambience : Ambience) (line : String) : Ambience :=
  { ambience with lines := ambience.lines ++ [line] }

end Ambience

abbrev Own (α : Type) := OwnScript Internals Ambience α
abbrev Method (α : Type) := MethodScript Internals Ambience α
abbrev Construct (α : Type) := ConstructScript Internals Ambience α

inductive Temper where
  | strict
  /-- It notes the error and goes on. -/
  | tolerant
  /-- It fails with an error of its own, caused by that error. -/
  | wrapping
deriving DecidableEq, Repr

inductive Wish where
  | fail (message : String)
  | check (key : BindingKey)
  | resolve (temper : Temper) (label : String) (key : BindingKey)
deriving DecidableEq, Repr

def fieldsValue (fields : List (String × Value)) : Value := .ofObject (OrderedMap.ofList fields)

namespace Internals

def describe (internals : Internals) : Value :=
  fieldsValue [("type", .string internals.label), ("serial", .int internals.serial),
    ("deps", .array internals.dependencies)]

def tag (internals : Internals) : String :=
  internals.label ++ "#" ++ toString internals.serial

end Internals

namespace Probe

/-! ### Construction -/

def describeMethod : String := "describe"

def learn (label : String) (view : View) (dependency : InstanceId) : Construct Value :=
  match view with
  | .concrete => .ask (ConstructRequest.inspect dependency) fun internals =>
      .done internals.describe
  | .component => .ask (ConstructRequest.invoke dependency describeMethod []) fun outcome =>
      match outcome with
      | .ok description => .done description
      | .error _ => .done .null
  | .filter => .done (fieldsValue [("filter", .string label)])
  | .extractor => .done (fieldsValue [("extractor", .string label)])

def gather (typeName : String) (learned : List Value) :
    List Wish → Construct (Except ResolutionError (List Value))
  | [] => .done (.ok learned)
  | .fail message :: _ => .done (.error (.construction typeName (.ofMessage message)))
  | .check key :: rest =>
      .ask (ConstructRequest.isBound key) fun bound =>
        gather typeName (learned ++ [fieldsValue [("bound", .bool bound)]]) rest
  | .resolve temper label key :: rest =>
      .ask (ConstructRequest.resolve key) fun outcome =>
        match outcome with
        | .ok dependency => do
            let description ← learn label key.view dependency
            gather typeName (learned ++ [description]) rest
        | .error error =>
            match temper with
            | .strict => .done (.error error)
            | .tolerant =>
                gather typeName
                  (learned ++ [fieldsValue [("missing", .string error.message)]]) rest
            | .wrapping => .done (.error (.construction typeName error.toCause))

def number (label : String) (dependencies : List Value) (ambience : Ambience) :
    Internals × Ambience :=
  let internals : Internals := ⟨label, ambience.made + 1, dependencies, 0, OrderedMap.empty⟩
  (internals,
    { ambience with made := ambience.made + 1 }.note ("new " ++ internals.tag))

def construct (label typeName : String) (properties : Option Properties) (wishes : List Wish) :
    Construct (Except ResolutionError (Blueprint Internals)) := do
  let outcome ← gather typeName [] wishes
  match outcome with
  | .error error => return .error error
  | .ok dependencies =>
      .ask ConstructRequest.shared fun ambience =>
        let (internals, after) := number label dependencies ambience
        .ask (ConstructRequest.setShared after) fun _ =>
          .done (.ok ⟨properties, internals⟩)

/-! ### Methods -/

def splitVerb (method : String) : String × Option String :=
  let characters := method.toList
  let verb := characters.takeWhile (· ≠ ':')
  match characters.dropWhile (· ≠ ':') with
  | [] => (method, none)
  | _ :: rest => (String.ofList verb, some (String.ofList rest))

def note (line : String) : Method Unit := do
  let ambience ← MethodScript.shared
  MethodScript.setShared (ambience.note line)

def orNull (value : Option Value) : Value := value.getD .null

def nanoseconds (milliseconds : Nat) : Nat :=
  milliseconds * DispatchError.nanosecondsPerMillisecond

def stallDuration : Nat := nanoseconds 600000

/-- What can be read back: the properties, or what an instance without properties was told. -/
def settings : Method Properties := do
  let properties ← MethodScript.properties
  match properties with
  | some properties => return properties
  | none =>
      let held ← MethodScript.state
      return held.settings

def set (key : String) (value : Value) : Method Unit := do
  let properties ← MethodScript.properties
  match properties with
  | some _ => MethodScript.setProperty key value
  | none =>
      let held ← MethodScript.state
      MethodScript.setState { held with settings := Properties.set held.settings key value }

def report (internals : Internals) (method : String) (slots : Slots) : Value :=
  fieldsValue [("type", .string internals.label), ("serial", .int internals.serial),
    ("call", .int internals.calls), ("method", .string method),
    ("args", .array (slots.map orNull))]

def limitRun (milliseconds : String) : Method Value := do
  let deadline ← MethodScript.setDeadline (nanoseconds (milliseconds.toNat?.getD 0))
  return .int (deadline.budget / DispatchError.nanosecondsPerMillisecond)

def failure (message : String) : Except InvokeError Value := .error (.handler (.ofMessage message))

def perform (internals : Internals) (method : String) (slots : Slots) :
    Method (Except InvokeError Value) := do
  let (verb, rest) := splitVerb method
  let key := rest.getD ""
  let argument := slots.valueOrNull 0
  if verb = describeMethod then return .ok internals.describe
  else if verb = "fail" then return failure (if key.isEmpty then "boom" else key)
  else if verb = "missing" then return .error (.unknownMethod internals.label method)
  else if verb = "config" then
    let held ← settings
    return .ok (.ofObject held)
  else if verb = "property" then
    let held ← settings
    return .ok (orNull (held.get? key))
  else if verb = "set" then
    set key argument
    return .ok .null
  else if verb = "echo" then return .ok argument
  else if verb = "decode" then
    let shape := (Shape.ofWord? key).getD .any
    return (slots.decode shape.expected shape.read 0 method).mapError .argument
  else if verb = "put" then
    let previous ← MethodScript.insert key argument
    return .ok (orNull previous)
  else if verb = "take" then
    let previous ← MethodScript.remove key
    return .ok (orNull previous)
  else if verb = "peek" then
    let values ← MethodScript.values
    return .ok (orNull (values.get? key))
  else if verb = "keys" then
    let values ← MethodScript.values
    return .ok (.ofObject values)
  else if verb = "deadline" then
    let budget ← limitRun key
    return .ok budget
  else if verb = "deadline_fail" then
    let _ ← limitRun key
    return failure "boom"
  else if verb = "stall" then
    MethodScript.wait stallDuration
    return .ok .null
  else return .ok (report internals method slots)

/-- Reports the call unless it only asks for a description, counts it and carries it out. -/
def invoke (method : String) (slots : Slots) : Method (Except InvokeError Value) := do
  let held ← MethodScript.state
  if (splitVerb method).1 ≠ describeMethod then
    note ("call " ++ held.tag ++ "." ++ method)
  let counted := { held with calls := held.calls + 1 }
  MethodScript.setState counted
  perform counted method slots

/-! ### Filters and extractors -/

def textProperty (properties : Properties) (key : String) : Option String :=
  properties.get? key >>= Value.text?

/-- Reports an evaluation under the label that the properties give, and fails when they say so. -/
def evaluate {α : Type} (kind : String) (value : Properties → α) : Own (Except Cause α) := do
  let properties := (← OwnScript.properties).getD OrderedMap.empty
  let ambience ← OwnScript.shared
  OwnScript.setShared
    (ambience.note (kind ++ " " ++ (textProperty properties "label").getD ""))
  match textProperty properties "error" with
  | some message => return .error (.ofMessage message)
  | none => return .ok (value properties)

def acceptance (properties : Properties) : Bool :=
  (properties.get? "result" >>= Value.bool?).getD true

def extraction (properties : Properties) : Value := orNull (properties.get? "value")

def behaviour (label typeName : String) (properties : Option Properties)
    (signatures : List MethodSignature) (wishes : List Wish) : Behaviour Internals Ambience where
  signatures := signatures
  construct := construct label typeName properties wishes
  invoke := invoke
  accepts := fun _ => evaluate "filter" acceptance
  extract := fun _ => evaluate "extract" extraction

end Probe

end EventPipeline.Workbench
