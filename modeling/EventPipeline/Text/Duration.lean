/-! The text of a duration: whole and fractional parts of the largest unit that fits, among seconds,
milliseconds, microseconds and nanoseconds. -/

namespace EventPipeline.Text

def fractionDigits (width fraction : Nat) : String :=
  let digits := toString fraction
  let padded := List.replicate (width - digits.length) '0' ++ digits.toList
  String.ofList (padded.reverse.dropWhile (· = '0')).reverse

def scaled (nanoseconds width : Nat) (unit : String) : String :=
  let whole := nanoseconds / Nat.pow 10 width
  let fraction := nanoseconds % Nat.pow 10 width
  if fraction = 0 then toString whole ++ unit
  else toString whole ++ "." ++ fractionDigits width fraction ++ unit

def durationText (nanoseconds : Nat) : String :=
  if Nat.pow 10 9 ≤ nanoseconds then scaled nanoseconds 9 "s"
  else if Nat.pow 10 6 ≤ nanoseconds then scaled nanoseconds 6 "ms"
  else if Nat.pow 10 3 ≤ nanoseconds then scaled nanoseconds 3 "µs"
  else toString nanoseconds ++ "ns"

end EventPipeline.Text
