import EventPipeline.Json.Value

/-! Forgiving access to the parts of a value.

A part that is missing, or that is of another kind, is read as the least value of the kind that was
asked for: `null`, the empty text, zero, false or nothing at all. -/

namespace EventPipeline.Json.Value

def field? (value : Value) (key : String) : Option Value :=
  match value with
  | .object fields => fields.lookup key
  | _ => none

def field (value : Value) (key : String) : Value := (value.field? key).getD .null

def textOrEmpty (value : Value) : String := value.text?.getD ""

def integerOrZero : Value → Int
  | .int number => number
  | _ => 0

def naturalOrZero (value : Value) : Nat := value.integerOrZero.toNat

def items : Value → List Value
  | .array items => items
  | _ => []

def fields : Value → List (String × Value)
  | .object fields => fields
  | _ => []

def textField (value : Value) (key : String) : String := (value.field key).textOrEmpty

def naturalField (value : Value) (key : String) : Nat := (value.field key).naturalOrZero

def truthField (value : Value) (key : String) : Bool := (value.field key).bool?.getD false

def itemsField (value : Value) (key : String) : List Value := (value.field key).items

/-! ### Optional values -/

def presentKey : String := "some"

def ofPresent (value : Value) : Option Value := value.field? presentKey

/-- Writes an optional value, so that a present `null` differs from an absent value. -/
def present : Option Value → Value
  | some value => .object [(presentKey, value)]
  | none => .null

def orNull (value : Option Value) : Value := value.getD .null

def ofText? (text : Option String) : Value := orNull (text.map .string)

def ofNatural (number : Nat) : Value := .int number

def ofTexts (texts : List String) : Value := .array (texts.map .string)

@[simp] theorem ofPresent_present (value : Option Value) : ofPresent (present value) = value := by
  cases value <;> simp [present, ofPresent, field?, presentKey]

end EventPipeline.Json.Value
