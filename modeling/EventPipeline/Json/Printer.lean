import EventPipeline.Json.Number
import EventPipeline.Json.Object

/-! Compact JSON text: no blanks, fields in the order they are held, and only the characters
escaped that the grammar forbids inside a string. -/

namespace EventPipeline.Json

namespace Value

def hexDigit (n : Nat) : Char := (Nat.digitChar (n % 16))

def escape (c : Char) : List Char :=
  if c = '"' then ['\\', '"']
  else if c = '\\' then ['\\', '\\']
  else if c = '\n' then ['\\', 'n']
  else if c = '\r' then ['\\', 'r']
  else if c = '\t' then ['\\', 't']
  else if c.toNat = 8 then ['\\', 'b']
  else if c.toNat = 12 then ['\\', 'f']
  else if c.toNat < 32 then
    ['\\', 'u', '0', '0', hexDigit (c.toNat / 16), hexDigit c.toNat]
  else [c]

def quoted (text : String) : String :=
  "\"" ++ String.ofList (text.toList.flatMap escape) ++ "\""

mutual

def render : Value → String
  | .null => "null"
  | .bool true => "true"
  | .bool false => "false"
  | .int value => toString value
  | .double bits => if Number.isFinite bits then Number.doubleText bits else "null"
  | .string text => quoted text
  | .array items => "[" ++ renderItems items ++ "]"
  | .object fields => "\x7b" ++ renderFields fields ++ "\x7d"

def renderItems : List Value → String
  | [] => ""
  | [last] => render last
  | item :: rest => render item ++ "," ++ renderItems rest

def renderFields : List (String × Value) → String
  | [] => ""
  | [(key, value)] => quoted key ++ ":" ++ render value
  | (key, value) :: rest => quoted key ++ ":" ++ render value ++ "," ++ renderFields rest

end

end Value

end EventPipeline.Json
