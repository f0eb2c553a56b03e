/-! The shortest decimal that identifies a double.

A finite double stands for every real that rounds to it. Of the decimals in that interval the
fewest digits win; among two with equally many, the closer one; on a tie, the even one. Everything
is decided by exact arithmetic on naturals. -/

namespace EventPipeline.Decimal

structure Magnitude where
  significand : Nat
  exponent : Int
  /-- The neighbour below is half as far away as the neighbour above. -/
  narrow : Bool

structure Numeral where
  digits : Nat
  exponent : Int
deriving DecidableEq, Repr

namespace Magnitude

def ofBits (bits : UInt64) : Magnitude :=
  let biased := ((bits >>> 52) &&& 0x7ff).toNat
  let fraction := (bits &&& 0xfffffffffffff).toNat
  if biased = 0 then ⟨fraction, -1074, false⟩
  else ⟨fraction + Nat.pow 2 52, (biased : Int) - 1075, fraction == 0 && biased != 1⟩

def compareWith (decimal : Numeral) (n : Nat) (binary : Int) : Ordering :=
  compare (decimal.digits * Nat.pow 10 decimal.exponent.toNat * Nat.pow 2 (-binary).toNat)
    (n * Nat.pow 2 binary.toNat * Nat.pow 10 (-decimal.exponent).toNat)

/-- Whether `decimal` lies in the interval of reals that round to `x`. The ends belong to it
exactly when the significand is even. -/
def readsBack (x : Magnitude) (decimal : Numeral) : Bool :=
  let closed := x.significand % 2 == 0
  let below := 4 * x.significand - (if x.narrow then 1 else 2)
  let above := 4 * x.significand + 2
  let low := compareWith decimal below (x.exponent - 2)
  let high := compareWith decimal above (x.exponent - 2)
  (low == .gt || (closed && low == .eq)) && (high == .lt || (closed && high == .eq))

def belowPower (x : Magnitude) (k : Int) : Bool :=
  compareWith ⟨1, k⟩ x.significand x.exponent == .gt

def scale (x : Magnitude) : Int :=
  let estimate := Int.fdiv ((x.significand.log2 + x.exponent) * 30103) 100000
  if x.belowPower estimate then estimate
  else if x.belowPower (estimate + 1) then estimate + 1
  else estimate + 2

/-- The better of the two neighbours of `x` among the multiples of `10 ^ grid`, when one of them
identifies `x`. -/
def onGrid? (x : Magnitude) (grid : Int) : Option Numeral :=
  let numerator := x.significand * Nat.pow 2 x.exponent.toNat * Nat.pow 10 (-grid).toNat
  let denominator := Nat.pow 2 (-x.exponent).toNat * Nat.pow 10 grid.toNat
  let lower := numerator / denominator
  let low : Numeral := ⟨lower, grid⟩
  let high : Numeral := ⟨lower + 1, grid⟩
  match x.readsBack low, x.readsBack high with
  | true, false => some low
  | false, true => some high
  | false, false => none
  | true, true =>
      match compare (2 * numerator) ((2 * lower + 1) * denominator) with
      | .lt => some low
      | .gt => some high
      | .eq => if lower % 2 = 0 then some low else some high

end Magnitude

def Numeral.strip : Nat → Numeral → Numeral
  | 0, decimal => decimal
  | fuel + 1, decimal =>
      if decimal.digits % 10 = 0 && decimal.digits != 0 then
        Numeral.strip fuel ⟨decimal.digits / 10, decimal.exponent + 1⟩
      else decimal

def Magnitude.exact (x : Magnitude) : Numeral :=
  ⟨x.significand * Nat.pow 2 x.exponent.toNat * Nat.pow 5 (-x.exponent).toNat,
    -((-x.exponent).toNat : Int)⟩

def Magnitude.shortest (x : Magnitude) : Numeral :=
  if x.significand = 0 then ⟨0, 0⟩
  else
    let k := x.scale
    let found := (List.range 17).findSome? fun n : Nat => x.onGrid? (k - (n + 1))
    (found.getD x.exact).strip 800

end EventPipeline.Decimal
