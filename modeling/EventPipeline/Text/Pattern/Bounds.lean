import EventPipeline.Text.Pattern.Layout

/-! How large a pattern may be: it must not nest too deeply, and there must be room for the machines
that read it forwards and backwards. -/

namespace EventPipeline.Text.Pattern

mutual

/-- The levels of nesting. Groups, repetitions, sequences, alternatives and bracketed classes are
one level each, and so is a list of items in a class. -/
def levels : Pattern → Nat
  | .bracketed set => if set.items.length ≤ 1 then 1 else 2
  | .group _ body => levels body + 1
  | .repeated body _ _ => levels body + 1
  | .sequence parts => maxLevels parts + 1
  | .either options => maxLevels options + 1
  | _ => 0

def maxLevels : List Pattern → Nat
  | [] => 0
  | part :: parts => max (levels part) (maxLevels parts)

end

def maxNesting : Nat := 250

def hasRoom (pattern : Reduced) (direction : Direction) : Bool :=
  ((Layout.ofPattern direction pattern).build? .none).isSome

def withinBounds (pattern : Pattern) : Bool :=
  decide (pattern.levels ≤ maxNesting) &&
    [Direction.forwards, .backwards].all (hasRoom (.ofPattern pattern))

end EventPipeline.Text.Pattern
