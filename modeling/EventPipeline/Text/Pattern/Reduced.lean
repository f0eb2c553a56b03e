import EventPipeline.Text.Pattern

/-! Patterns in reduced form, which says the same with less. Neighbouring characters are one
literal, neighbouring sequences one sequence; alternatives of one character, and alternatives of
classes, are one class; parts that all alternatives begin with stand before the choice; and what
takes no character is repeated once at most. -/

namespace EventPipeline.Text

inductive Anchor where
  | start
  | finish
deriving DecidableEq, Repr

inductive Reduced where
  | empty
  | anchored (anchor : Anchor)
  | literal (text : List Char)
  | oneOf (ranges : Ranges)
  | recorded (body : Reduced)
  | repeated (body : Reduced) (least : Nat) (most : Option Nat)
  | sequence (parts : List Reduced)
  | either (options : List Reduced)
deriving Inhabited, Repr

namespace Reduced

mutual

/-- Whether two patterns are the same. Groups whose ends are recorded are never the same, as each is
recorded for itself. -/
def same : Reduced → Reduced → Bool
  | .empty, .empty => true
  | .anchored a, .anchored b => a == b
  | .literal a, .literal b => a == b
  | .oneOf a, .oneOf b => a == b
  | .repeated a least most, .repeated b least' most' => same a b && least == least' && most == most'
  | .sequence a, .sequence b => sameAll a b
  | .either a, .either b => sameAll a b
  | _, _ => false

def sameAll : List Reduced → List Reduced → Bool
  | [], [] => true
  | a :: as, b :: bs => same a b && sameAll as bs
  | _, _ => false

end

mutual

def takesNothing : Reduced → Bool
  | .empty | .anchored _ => true
  | .literal _ | .oneOf _ => false
  | .recorded body => takesNothing body
  | .repeated body _ _ => takesNothing body
  | .sequence parts => allTakeNothing parts
  | .either options => allTakeNothing options

def allTakeNothing : List Reduced → Bool
  | [] => true
  | part :: parts => takesNothing part && allTakeNothing parts

end

mutual

def takesSomething : Reduced → Bool
  | .empty | .anchored _ => false
  | .literal _ => true
  | .oneOf ranges => !ranges.isEmpty
  | .recorded body => takesSomething body
  | .repeated body least _ => decide (0 < least) && takesSomething body
  | .sequence parts => someTakeSomething parts
  | .either options => allTakeSomething options

def someTakeSomething : List Reduced → Bool
  | [] => false
  | part :: parts => takesSomething part || someTakeSomething parts

def allTakeSomething : List Reduced → Bool
  | [] => true
  | option :: options => takesSomething option && allTakeSomething options

end

mutual

/-- Whether the pattern fits only where the anchor stands: at its own first place for the start of a
text, and at its own last place for the end. -/
def holdsTo (anchor : Anchor) : Reduced → Bool
  | .empty | .literal _ | .oneOf _ => false
  | .anchored own => own == anchor
  | .recorded body => holdsTo anchor body
  | .repeated body least _ => decide (0 < least) && holdsTo anchor body
  | .sequence parts =>
      match anchor with
      | .start => firstHoldsTo anchor parts
      | .finish => lastHoldsTo anchor parts
  | .either options => allHoldTo anchor options

def firstHoldsTo (anchor : Anchor) : List Reduced → Bool
  | [] => false
  | part :: parts => holdsTo anchor part || takesNothing part && firstHoldsTo anchor parts

def lastHoldsTo (anchor : Anchor) : List Reduced → Bool
  | [] => false
  | part :: parts => lastHoldsTo anchor parts || allTakeNothing parts && holdsTo anchor part

def allHoldTo (anchor : Anchor) : List Reduced → Bool
  | [] => true
  | option :: options => holdsTo anchor option && allHoldTo anchor options

end

/-! ### Reducing -/

def ofRanges : Ranges → Reduced
  | [(low, high)] => if low = high then .literal [Char.ofNat low] else .oneOf [(low, high)]
  | ranges => .oneOf ranges

def ofRepetition (body : Reduced) (least : Nat) (most : Option Nat) : Reduced :=
  let (least, most) :=
    if takesNothing body then (min least 1, some (min (most.getD 1) 1)) else (least, most)
  if most = some 0 then .empty
  else if least = 1 ∧ most = some 1 then body
  else .repeated body least most

def parts : Reduced → List Reduced
  | .empty => []
  | .sequence parts => parts
  | single => [single]

def options : Reduced → List Reduced
  | .either options => options
  | single => [single]

def join : Reduced → List Reduced → List Reduced
  | .literal first, .literal second :: rest => .literal (first ++ second) :: rest
  | part, rest => part :: rest

def ofParts (subpatterns : List Reduced) : Reduced :=
  match (subpatterns.flatMap parts).foldr join [] with
  | [] => .empty
  | [single] => single
  | parts => .sequence parts

def commonLength : List Reduced → List Reduced → Nat
  | a :: as, b :: bs => if same a b then commonLength as bs + 1 else 0
  | _, _ => 0

def sequences? : List Reduced → Option (List (List Reduced))
  | [] => some []
  | .sequence parts :: rest => (sequences? rest).map (parts :: ·)
  | _ :: _ => none

def characters? : List Reduced → Option Ranges
  | [] => some []
  | .literal [c] :: rest => (characters? rest).map (Ranges.insert c.toNat c.toNat)
  | _ :: _ => none

def classes? : List Reduced → Option Ranges
  | [] => some []
  | .oneOf ranges :: rest => (classes? rest).map ranges.union
  | _ :: _ => none

/-- The choice between alternatives. Each round takes out what they all begin with, so there are no
more rounds than parts. -/
def ofOptions : Nat → List Reduced → Reduced
  | 0, subpatterns => .either subpatterns
  | rounds + 1, subpatterns =>
      match subpatterns.flatMap options with
      | [] => .empty
      | [single] => single
      | first :: rest =>
          let all := first :: rest
          match characters? all, classes? all, sequences? all with
          | some ranges, _, _ => ofRanges ranges
          | none, some ranges, _ => ofRanges ranges
          | none, none, some (one :: others) =>
              let count := others.foldl (fun count other => min count (commonLength one other))
                one.length
              if count = 0 then .either all
              else
                ofParts (one.take count ++
                  [ofOptions rounds ((one :: others).map fun parts => ofParts (parts.drop count))])
          | none, none, _ => .either all

mutual

def size : Reduced → Nat
  | .recorded body => size body + 1
  | .repeated body _ _ => size body + 1
  | .sequence parts => totalSize parts + 1
  | .either options => totalSize options + 1
  | _ => 1

def totalSize : List Reduced → Nat
  | [] => 0
  | part :: parts => size part + totalSize parts

end

mutual

def ofPattern : Pattern → Reduced
  | .empty => .empty
  | .atStart => .anchored .start
  | .atEnd => .anchored .finish
  | .character c => .literal [c]
  | .anyInLine => ofRanges inLineRanges
  | .named cls negated => ofRanges (ClassItem.named cls negated).ranges
  | .bracketed set => ofRanges set.ranges
  | .group true body => .recorded (ofPattern body)
  | .group false body => ofPattern body
  | .repeated body least most => ofRepetition (ofPattern body) least most
  | .sequence parts => ofParts (ofPatterns parts)
  | .either options =>
      let reduced := ofPatterns options
      ofOptions (totalSize reduced + 1) reduced

def ofPatterns : List Pattern → List Reduced
  | [] => []
  | pattern :: patterns => ofPattern pattern :: ofPatterns patterns

end

end Reduced

end EventPipeline.Text
