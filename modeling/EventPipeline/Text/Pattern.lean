import EventPipeline.Text.NamedClass

/-! Patterns over names: literals, classes, anchors, grouping, alternation and counted repetition. A
name matches when the pattern fits somewhere in it, unless anchors say where.

Matching looks at each part of the pattern once. What it finds is the relation between the places of
the text where the part may begin and those where it may end, and the relation of the whole is made
from those of its parts; so a name costs little, however the repetitions nest. -/

namespace EventPipeline.Text

/-- What may stand in a bracketed class: a range with both ends, or a named class or its
complement. -/
inductive ClassItem where
  | range (low high : Char)
  | named (cls : NamedClass) (negated : Bool)
deriving DecidableEq, Repr

def ClassItem.ranges : ClassItem → Ranges
  | .range low high => [(low.toNat, high.toNat)]
  | .named cls false => cls.ranges
  | .named cls true => cls.ranges.complement

structure CharacterSet where
  items : List ClassItem
  negated : Bool
deriving DecidableEq, Repr

def CharacterSet.ranges (set : CharacterSet) : Ranges :=
  let listed : Ranges := set.items.foldr (fun item held => item.ranges.union held) []
  if set.negated then listed.complement else listed

def inLineRanges : Ranges := Ranges.complement [(0xa, 0xa)]

inductive Pattern where
  | empty
  | atStart
  | atEnd
  | character (c : Char)
  | anyInLine
  | named (cls : NamedClass) (negated : Bool)
  | bracketed (set : CharacterSet)
  | group (recorded : Bool) (body : Pattern)
  | repeated (body : Pattern) (least : Nat) (most : Option Nat)
  | sequence (parts : List Pattern)
  | either (options : List Pattern)
deriving Repr

/-- Which places of a text belong together: for every place a row with one mark for every place.
There is a place before each character, and one after the last. -/
abbrev Relation := List (List Bool)

namespace Relation

def ofTest (text : List Char) (holds : Nat → Nat → Bool) : Relation :=
  let places := List.range (text.length + 1)
  places.map fun here => places.map (holds here)

def identity (text : List Char) : Relation := ofTest text fun here there => here == there

def only (text : List Char) (place : Nat) : Relation :=
  ofTest text fun here there => here == place && there == place

def past (text : List Char) (accepts : Char → Bool) : Relation :=
  ofTest text fun here there => there == here + 1 && text[here]?.any accepts

def unionRows (a b : List Bool) : List Bool := List.zipWith (· || ·) a b

def union (a b : Relation) : Relation := List.zipWith unionRows a b

def image (marks : List Bool) (relation : Relation) : List Bool :=
  (marks.zip relation).foldl
    (fun reached (mark, row) => if mark then unionRows reached row else reached)
    (marks.map fun _ => false)

def compose (first second : Relation) : Relation := first.map (image · second)

def rounds (round : Relation) : Nat → Relation → Relation
  | 0, relation => relation
  | count + 1, relation =>
      let next := relation.compose round
      if next = relation then relation else rounds round count next

def roundsUpTo (round : Relation) : Nat → Relation → Relation
  | 0, relation => relation
  | count + 1, relation =>
      let next := relation.union (relation.compose round)
      if next = relation then relation else roundsUpTo round count next

/-- A relation that contains the identity, composed with itself until that changes nothing, for a
number of times at most. -/
def closure : Nat → Relation → Relation
  | 0, relation => relation
  | count + 1, relation =>
      let next := relation.compose relation
      if next = relation then relation else closure count next

end Relation

namespace Pattern

mutual

/-- Where the pattern may end, for every place where it may begin. Each composition of a closure
that matters takes in a further place, so there are no more of them than places. -/
def ends (text : List Char) : Pattern → Relation
  | .empty => .identity text
  | .atStart => .only text 0
  | .atEnd => .only text text.length
  | .character c => .past text (· == c)
  | .anyInLine => .past text inLineRanges.contains
  | .named cls negated => .past text (ClassItem.named cls negated).ranges.contains
  | .bracketed set => .past text set.ranges.contains
  | .group _ body => ends text body
  | .repeated body least most =>
      let round := ends text body
      let required := Relation.rounds round least (.identity text)
      match most with
      | some most => Relation.roundsUpTo round (most - least) required
      | none =>
          let step := (Relation.identity text).union round
          required.compose (Relation.closure (text.length + 1) step)
  | .sequence parts => endsInOrder text parts
  | .either options => endsOfAny text options

def endsInOrder (text : List Char) : List Pattern → Relation
  | [] => .identity text
  | part :: parts => (ends text part).compose (endsInOrder text parts)

def endsOfAny (text : List Char) : List Pattern → Relation
  | [] => .ofTest text fun _ _ => false
  | option :: options => (ends text option).union (endsOfAny text options)

end

def found (pattern : Pattern) (text : String) : Bool :=
  (pattern.ends text.toList).any fun row => row.any id

def ofParts : List Pattern → Pattern
  | [] => .empty
  | [part] => part
  | parts => .sequence parts

def ofOptions : List Pattern → Pattern
  | [] => .empty
  | [option] => option
  | options => .either options

end Pattern

end EventPipeline.Text
