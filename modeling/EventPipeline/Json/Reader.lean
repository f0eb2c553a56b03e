import EventPipeline.Json.Object

/-! Reading JSON text.

Every reading step returns what is left of the text. The recursion is bounded by a count of steps
that `Value.parse?` takes from the length of the text: each step reads at least one character, so
a text never runs out of steps before it runs out of characters. -/

namespace EventPipeline.Json

namespace Reader

def isBlank (c : Char) : Bool := c = ' ' || c = '\n' || c = '\r' || c = '\t'

def skipBlanks (text : List Char) : List Char := text.dropWhile isBlank

def word? : List Char → List Char → Option (List Char)
  | [], rest => some rest
  | c :: cs, d :: rest => if c = d then word? cs rest else none
  | _ :: _, [] => none

def digitsValue (digits : List Char) : Nat :=
  digits.foldl (fun value c => 10 * value + (c.toNat - '0'.toNat)) 0

def hexValue? (c : Char) : Option Nat :=
  if '0' ≤ c ∧ c ≤ '9' then some (c.toNat - '0'.toNat)
  else if 'a' ≤ c ∧ c ≤ 'f' then some (c.toNat - 'a'.toNat + 10)
  else if 'A' ≤ c ∧ c ≤ 'F' then some (c.toNat - 'A'.toNat + 10)
  else none

def unit? : List Char → Option (Nat × List Char)
  | a :: b :: c :: d :: rest => do
      let a ← hexValue? a
      let b ← hexValue? b
      let c ← hexValue? c
      let d ← hexValue? d
      return (((a * 16 + b) * 16 + c) * 16 + d, rest)
  | _ => none

/-- The character written after a backslash and a `u`: one unit, or a high and a low surrogate. -/
def escapedUnit? (text : List Char) : Option (Char × List Char) := do
  let (unit, rest) ← unit? text
  if 0xd800 ≤ unit ∧ unit < 0xdc00 then
    match rest with
    | '\\' :: 'u' :: rest =>
        let (low, rest) ← unit? rest
        if 0xdc00 ≤ low ∧ low < 0xe000 then
          return (Char.ofNat (0x10000 + (unit - 0xd800) * 0x400 + (low - 0xdc00)), rest)
        else none
    | _ => none
  else if 0xdc00 ≤ unit ∧ unit < 0xe000 then none
  else return (Char.ofNat unit, rest)

def escaped? : List Char → Option (Char × List Char)
  | '"' :: rest => some ('"', rest)
  | '\\' :: rest => some ('\\', rest)
  | '/' :: rest => some ('/', rest)
  | 'b' :: rest => some ('\x08', rest)
  | 'f' :: rest => some ('\x0c', rest)
  | 'n' :: rest => some ('\n', rest)
  | 'r' :: rest => some ('\r', rest)
  | 't' :: rest => some ('\t', rest)
  | 'u' :: rest => escapedUnit? rest
  | _ => none

def string? : Nat → List Char → List Char → Option (String × List Char)
  | 0, _, _ => none
  | _ + 1, _, [] => none
  | _ + 1, gathered, '"' :: rest => some (String.ofList gathered.reverse, rest)
  | fuel + 1, gathered, '\\' :: rest => do
      let (c, rest) ← escaped? rest
      string? fuel (c :: gathered) rest
  | fuel + 1, gathered, c :: rest =>
      if c.toNat < 32 then none else string? fuel (c :: gathered) rest

def fraction? : List Char → Option (Option (List Char) × List Char)
  | '.' :: rest =>
      let digits := rest.takeWhile Char.isDigit
      if digits.isEmpty then none else some (some digits, rest.dropWhile Char.isDigit)
  | rest => some (none, rest)

def exponentDigits? (rest : List Char) : Option (Nat × List Char) :=
  let digits := rest.takeWhile Char.isDigit
  if digits.isEmpty then none else some (digitsValue digits, rest.dropWhile Char.isDigit)

def exponent? : List Char → Option (Option Int × List Char)
  | [] => some (none, [])
  | c :: rest =>
      if c = 'e' ∨ c = 'E' then
        match rest with
        | '-' :: rest => (exponentDigits? rest).map fun (n, rest) => (some (-(n : Int)), rest)
        | '+' :: rest => (exponentDigits? rest).map fun (n, rest) => (some (n : Int), rest)
        | rest => (exponentDigits? rest).map fun (n, rest) => (some (n : Int), rest)
      else some (none, c :: rest)

/-- The bits of the double nearest to `digits * 10 ^ exponent`; none when it overflows. -/
def doubleBits? (negative : Bool) (digits : Nat) (exponent : Int) : Option UInt64 :=
  let magnitude :=
    (Float.ofScientific digits (exponent < 0) exponent.natAbs).toBits
  if (magnitude >>> 52) &&& 0x7ff = 0x7ff then none
  else some (if negative then magnitude ||| 0x8000000000000000 else magnitude)

/-- An integer that fits 64 bits, signed or unsigned, stays an integer; minus zero and anything
larger is a double. -/
def integerValue (negative : Bool) (digits : Nat) : Option Value :=
  if negative then
    if 0 < digits ∧ digits ≤ Nat.pow 2 63 then some (.int (-(digits : Int)))
    else (doubleBits? true digits 0).map .double
  else if digits < Nat.pow 2 64 then some (.int digits)
  else (doubleBits? false digits 0).map .double

def number? (negative : Bool) (text : List Char) : Option (Value × List Char) := do
  let whole := text.takeWhile Char.isDigit
  let rest := text.dropWhile Char.isDigit
  if whole.isEmpty || (whole.length > 1 && whole.head? == some '0') then none
  else
    let (fraction, rest) ← fraction? rest
    let (exponent, rest) ← exponent? rest
    match fraction, exponent with
    | none, none => return (← integerValue negative (digitsValue whole), rest)
    | _, _ =>
        let places := fraction.getD []
        let bits ← doubleBits? negative (digitsValue (whole ++ places))
          (exponent.getD 0 - places.length)
        return (.double bits, rest)

mutual

def value? : Nat → List Char → Option (Value × List Char)
  | 0, _ => none
  | fuel + 1, text =>
      match skipBlanks text with
      | 'n' :: rest => (word? "ull".toList rest).map fun rest => (.null, rest)
      | 't' :: rest => (word? "rue".toList rest).map fun rest => (.bool true, rest)
      | 'f' :: rest => (word? "alse".toList rest).map fun rest => (.bool false, rest)
      | '"' :: rest => (string? (rest.length + 1) [] rest).map fun (s, rest) => (.string s, rest)
      | '-' :: rest => number? true rest
      | '[' :: rest =>
          match skipBlanks rest with
          | ']' :: rest => some (.array [], rest)
          | rest => (items? fuel rest).map fun (items, rest) => (.array items, rest)
      | '\x7b' :: rest =>
          match skipBlanks rest with
          | '\x7d' :: rest => some (.object [], rest)
          | rest => (fields? fuel rest).map fun (fields, rest) =>
              (Value.ofObject (OrderedMap.ofList fields), rest)
      | rest => number? false rest

def items? : Nat → List Char → Option (List Value × List Char)
  | 0, _ => none
  | fuel + 1, text => do
      let (item, rest) ← value? fuel text
      match skipBlanks rest with
      | ']' :: rest => return ([item], rest)
      | ',' :: rest =>
          let (items, rest) ← items? fuel rest
          return (item :: items, rest)
      | _ => none

def fields? : Nat → List Char → Option (List (String × Value) × List Char)
  | 0, _ => none
  | fuel + 1, text =>
      match skipBlanks text with
      | '"' :: rest => do
          let (key, rest) ← string? (rest.length + 1) [] rest
          match skipBlanks rest with
          | ':' :: rest =>
              let (value, rest) ← value? fuel rest
              match skipBlanks rest with
              | '\x7d' :: rest => return ([(key, value)], rest)
              | ',' :: rest =>
                  let (fields, rest) ← fields? fuel rest
                  return ((key, value) :: fields, rest)
              | _ => none
          | _ => none
      | _ => none

end

end Reader

/-- The value written by a whole text, blanks around it allowed. A later field of one name wins. -/
def Value.parse? (text : String) : Option Value :=
  let characters := text.toList
  match Reader.value? (2 * characters.length + 1) characters with
  | some (value, rest) => if (Reader.skipBlanks rest).isEmpty then some value else none
  | none => none

end EventPipeline.Json
