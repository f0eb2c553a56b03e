/-! Sets of code points as lists of ranges with both ends. A list is in order when its ranges ascend
and there is a gap between each two; every set has exactly one such list. -/

namespace EventPipeline.Text

abbrev Ranges := List (Nat × Nat)

namespace Ranges

def maxCodePoint : Nat := 0x10ffff

def contains (ranges : Ranges) (c : Char) : Bool :=
  ranges.any fun (low, high) => decide (low ≤ c.toNat ∧ c.toNat ≤ high)

/-- Adds a range to ranges in order. What it touches becomes one range with it. -/
def insert (low high : Nat) : Ranges → Ranges
  | [] => [(low, high)]
  | (first, last) :: rest =>
      if high + 1 < first then (low, high) :: (first, last) :: rest
      else if last + 1 < low then (first, last) :: insert low high rest
      else insert (min low first) (max high last) rest

def union (a b : Ranges) : Ranges := a.foldr (fun (low, high) held => insert low high held) b

def gapsFrom (start : Nat) : Ranges → Ranges
  | [] => if start ≤ maxCodePoint then [(start, maxCodePoint)] else []
  | (low, high) :: rest =>
      if start < low then (start, low - 1) :: gapsFrom (high + 1) rest
      else gapsFrom (high + 1) rest

def complement (ranges : Ranges) : Ranges := gapsFrom 0 ranges

def isAscii (ranges : Ranges) : Bool := ranges.all fun (_, high) => decide (high < 128)

end Ranges

end EventPipeline.Text
