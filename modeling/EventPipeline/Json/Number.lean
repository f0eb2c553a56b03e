import EventPipeline.Decimal.Shortest

/-! The text of JSON numbers.

A double is written with the fewest digits that identify it: positionally when its leading digit
stands between the fifth place after the point and the sixteenth before it, and with an exponent
otherwise, whose sign is always written. A whole double keeps `.0`, which is what tells it from an
integer. -/

namespace EventPipeline.Json.Number

def zeros (count : Nat) : String := String.ofList (List.replicate count '0')

def exponentText (exponent : Int) : String :=
  if exponent < 0 then "e" ++ toString exponent else "e+" ++ toString exponent

/-- Lays out positive digits; `leading` is the decimal exponent of the first digit. -/
def layout (decimal : Decimal.Numeral) : String :=
  let digits := toString decimal.digits
  let leading : Int := digits.length + decimal.exponent - 1
  if 0 ≤ decimal.exponent ∧ leading < 16 then
    digits ++ zeros decimal.exponent.toNat ++ ".0"
  else if 0 ≤ leading ∧ leading < 16 then
    let whole := (leading + 1).toNat
    String.ofList (digits.toList.take whole) ++ "." ++ String.ofList (digits.toList.drop whole)
  else if -5 ≤ leading ∧ leading < 0 then
    "0." ++ zeros (-(leading + 1)).toNat ++ digits
  else
    match digits.toList with
    | first :: second :: rest =>
        String.ofList (first :: '.' :: second :: rest) ++ exponentText leading
    | _ => digits ++ exponentText leading

def doubleText (bits : UInt64) : String :=
  let magnitude := layout (Decimal.Magnitude.ofBits bits).shortest
  if bits >>> 63 == 1 then "-" ++ magnitude else magnitude

def isFinite (bits : UInt64) : Bool := ((bits >>> 52) &&& 0x7ff) != 0x7ff

end EventPipeline.Json.Number
