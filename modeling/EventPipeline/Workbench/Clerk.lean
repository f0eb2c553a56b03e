import EventPipeline.Builtin.Own
import EventPipeline.MethodTable
import EventPipeline.Response
import EventPipeline.Workbench.Shape

/-! A component with a method for every kind of parameter: plain, optional, composed and structured
ones, the run's context, and none at all. -/

namespace EventPipeline.Workbench

open Json

structure Order where
  id : Int
  tags : List String
  note : Option String

namespace Order

def idField : String := "orderId"
def tagsField : String := "tags"
def noteField : String := "note"

def decodeId : Decoder Int := Decoder.unsigned 32
def decodeTags : Decoder (List String) := Decoder.list Decoder.text
def decodeNote : Decoder (Option String) := Decoder.optional Decoder.text

/-- The note may be missing from an object, but not from an array. -/
def decode : Decoder Order
  | .object fields => do
      let object : Object := OrderedMap.ofList fields
      let id ← Decoder.required decodeId idField object
      let tags ← Decoder.required decodeTags tagsField object
      let note ← Decoder.withDefault decodeNote noteField none object
      return ⟨id, tags, note⟩
  | .array [id, tags, note] => do return ⟨← decodeId id, ← decodeTags tags, ← decodeNote note⟩
  | _ => none

def toValue (order : Order) : Value :=
  .ofObject (OrderedMap.ofList [(idField, .int order.id),
    (tagsField, .array (order.tags.map .string)),
    (noteField, (order.note.map Value.string).getD .null)])

end Order

namespace Clerk

variable {σ υ : Type}

def answer (value : Value) : MethodScript σ υ (Except Cause Value) := .done (.ok value)

def refuse (message : String) : MethodScript σ υ (Except Cause Value) :=
  .done (.error (.ofMessage message))

abbrev integer64 (name : String) : Parameter :=
  .decoded name (expecting "a 64-bit integer") (Decoder.signed 64)

abbrev text (name : String) : Parameter := .decoded name (expecting "a text") Decoder.text

abbrev anything (name : String) : Parameter := .decoded name (expecting "anything") Decoder.any

abbrev order (name : String) : Parameter := .decoded name (expecting "an order") Order.decode

def add : DeclaredMethod σ υ where
  name := "add"
  parameters := [integer64 "a", integer64 "b"]
  body := fun (a, b, ()) =>
    let sum : Int := a + b
    match Decoder.signed 64 (.int sum) with
    | some sum => answer (.int sum)
    | none => refuse "overflow"

def byte : DeclaredMethod σ υ where
  name := "byte"
  parameters := [.decoded "v" (expecting "an 8-bit integer") (Decoder.unsigned 8)]
  body := fun (v, ()) => answer (.int v)

def greet : DeclaredMethod σ υ where
  name := "greet"
  parameters := [text "name",
    .decoded "title" (expecting "a text or null") (Decoder.optional Decoder.text)]
  body := fun (name, title, ()) =>
    match title with
    | some title => answer (.string (title ++ " " ++ name))
    | none => answer (.string name)

def flag : DeclaredMethod σ υ where
  name := "flag"
  parameters := [.decoded "v" (expecting "true or false") Decoder.bool]
  body := fun (v, ()) => answer (.bool (!v))

def list : DeclaredMethod σ υ where
  name := "list"
  parameters :=
    [.decoded "items" (expecting "an array of integers") (Decoder.list (Decoder.signed 64))]
  body := fun (items, ()) => answer (.array (items.reverse.map .int))

def echoOrder : DeclaredMethod σ υ where
  name := "order"
  parameters := [order "order"]
  body := fun (order, ()) => answer order.toValue

def rejected : DeclaredMethod σ υ where
  name := "rejected"
  parameters := [order "order"]
  body := fun (order, ()) => refuse ("order " ++ toString order.id ++ " was rejected")

def remember : DeclaredMethod σ υ where
  name := "remember"
  parameters := [text "key", .runContext "context", anything "value"]
  body := fun (key, _, value, ()) => do
    let previous ← MethodScript.insert key value
    return .ok (previous.getD .null)

def maybe : DeclaredMethod σ υ where
  name := "maybe"
  parameters :=
    [.decoded "v" (expecting "a 32-bit integer or null") (Decoder.optional (Decoder.unsigned 32))]
  body := fun (v, ()) => answer ((v.map Value.int).getD .null)

def nothing : DeclaredMethod σ υ where
  name := "nothing"
  parameters := []
  body := fun () => answer .null

def name : DeclaredMethod σ υ where
  name := "name"
  parameters := []
  body := fun () => answer (.string "typed")

def readPrefix : DeclaredMethod σ υ where
  name := "prefix"
  parameters := []
  body := fun () => do
    let value ← MethodScript.property "prefix"
    return .ok (((value >>= Value.text?).map Value.string).getD .null)

def rawType : DeclaredMethod σ υ where
  name := "r#type"
  parameters := [anything "in",
    .decoded "" (expecting "an array of two integers") fun value =>
      match value with
      | .array [a, b] => do return (← Decoder.signed 64 a, ← Decoder.signed 64 b)
      | _ => none]
  body := fun (input, (a, b), ()) => answer (.array [input, .int a, .int b])

def table : MethodTable σ υ :=
  ⟨[add, byte, greet, flag, list, echoOrder, rejected, remember, maybe, nothing, name, readPrefix,
    rawType]⟩

def behaviour (typeName : String) (state : σ) : Behaviour σ υ :=
  table.behaviour typeName (some OrderedMap.empty) state

end Clerk

end EventPipeline.Workbench
