import EventPipeline.Arguments

/-! Named shapes that a value can be read as, with the value that the reading yields. -/

namespace EventPipeline.Workbench

open Json

/-- The decoders of the workbench say what they accept, whatever they were given. -/
def expecting (accepted : String) : Refusal := fun _ => "expected " ++ accepted

inductive Shape where
  | any
  | text
  | truth
  | unsigned (bits : Nat)
  | signed (bits : Nat)
  | double
  | unit
  | character
  | integers
  | optionalText
  | pair
  | integerMap
deriving DecidableEq, Repr

namespace Shape

def exactDouble (bits : UInt64) : Value :=
  let digits := Nat.toDigits 16 bits.toNat
  .string ("f64:" ++ String.ofList (List.replicate (16 - digits.length) '0' ++ digits))

def read : Shape → Decoder Value
  | .any => Decoder.any
  | .text => fun value => (Decoder.text value).map .string
  | .truth => fun value => (Decoder.bool value).map .bool
  | .unsigned bits => fun value => (Decoder.unsigned bits value).map .int
  | .signed bits => fun value => (Decoder.signed bits value).map .int
  | .double => fun value => (Decoder.double value).map exactDouble
  | .unit => fun value => (Decoder.unit value).map fun _ => .null
  | .character => fun value => (Decoder.character value).map fun c => .string c.toString
  | .integers => fun value =>
      (Decoder.list (Decoder.signed 64) value).map fun items => .array (items.map .int)
  | .optionalText => fun value =>
      (Decoder.optional Decoder.text value).map fun held => (held.map Value.string).getD .null
  | .pair => fun value =>
      (Decoder.pair (Decoder.signed 64) Decoder.text value).map fun (number, name) =>
        .array [.int number, .string name]
  | .integerMap => fun value =>
      (Decoder.fields (Decoder.signed 64) value).map fun entries =>
        .ofObject (OrderedMap.ofList (entries.map fun (key, number) => (key, .int number)))

def words : Shape → String
  | .any => "anything"
  | .text => "a text"
  | .truth => "true or false"
  | .unsigned _ => "an unsigned integer in range"
  | .signed _ => "an integer in range"
  | .double => "a number"
  | .unit => "null"
  | .character => "a single character"
  | .integers => "an array of integers"
  | .optionalText => "a text or null"
  | .pair => "an array of an integer and a text"
  | .integerMap => "an object of integers"

def expected (shape : Shape) : Refusal := expecting shape.words

def ofWord? (word : String) : Option Shape :=
  [("value", any), ("string", text), ("bool", truth), ("u8", unsigned 8), ("i32", signed 32),
    ("i64", signed 64), ("u64", unsigned 64), ("f64", double), ("unit", unit),
    ("char", character), ("list_i64", integers), ("option_string", optionalText), ("pair", pair),
    ("map_i64", integerMap)].lookup word

end Shape

end EventPipeline.Workbench
