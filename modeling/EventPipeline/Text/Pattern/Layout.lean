import EventPipeline.Text.ByteSequence
import EventPipeline.Text.Pattern.Reduced

/-! The machine that a pattern is made into, as far as its size goes.

The machine reads bytes, in the order of the text or against it. All repetitions are written out in
it. A layout says how many states each part of a pattern has and how much room they need beside
their own; states are numbered in the order in which the layout is carried out, and carrying it out
stops when there is no more room. -/

namespace EventPipeline.Text

inductive Direction where
  | forwards
  | backwards
deriving DecidableEq, Repr

/-- How large a machine has become: its states, and the room of what they hold. -/
structure Extent where
  states : Nat
  held : Nat
deriving DecidableEq, Repr

namespace Extent

def stateRoom : Nat := 32

def branchRoom : Nat := 4

def rangeRoom : Nat := 8

/-- Ten mebibytes. -/
def maxRoom : Nat := 10485760

def none : Extent := ⟨0, 0⟩

def room (extent : Extent) : Nat := stateRoom * extent.states + extent.held

def grow? (extent : Extent) (states held : Nat) : Option Extent :=
  let grown : Extent := ⟨extent.states + states, extent.held + held⟩
  if grown.room ≤ maxRoom then some grown else Option.none

end Extent

inductive Layout where
  | states (count held : Nat)
  | endings (sequences : List (List ByteRange))
  | inOrder (parts : List Layout)
  | times (count : Nat) (body : Layout)
deriving Inhabited, Repr

/-! ### Classes -/

/-- The states of a class that is read forwards, without those written already: each as the ranges
that lead on from it, with the numbers of the states they lead to. -/
abbrev Tails := List (List (ByteRange × Nat))

namespace Tails

def addToGroups (groups : List (ByteRange × List (List ByteRange))) :
    List ByteRange → List (ByteRange × List (List ByteRange))
  | [] => groups
  | range :: rest =>
      match groups with
      | (last, members) :: others =>
          if last = range then (last, rest :: members) :: others
          else (range, [rest]) :: groups
      | [] => [(range, [rest])]

def groups (sequences : List (List ByteRange)) : List (ByteRange × List (List ByteRange)) :=
  (sequences.foldl addToGroups []).reverse.map fun (range, members) => (range, members.reverse)

def number (tails : Tails) (ranges : List (ByteRange × Nat)) : Nat × Tails :=
  match tails.findIdx? (· == ranges) with
  | some index => (tails.length - index, tails)
  | none => (tails.length + 1, ranges :: tails)

def add : Nat → List (List ByteRange) → Tails → Nat × Tails
  | 0, _, tails => (0, tails)
  | depth + 1, sequences, tails =>
      if sequences.all (·.isEmpty) then (0, tails)
      else
        let (ranges, tails) := (groups sequences).foldl
          (fun (ranges, tails) (range, members) =>
            let (next, tails) := add depth members tails
            (ranges ++ [(range, next)], tails))
          ([], tails)
        tails.number ranges

end Tails

def Layout.ofTails (sequences : List (List ByteRange)) : Layout :=
  let (_, tails) := Tails.add 4 sequences []
  .states (tails.length + 1) (Extent.rangeRoom * (tails.map (·.length)).foldl (· + ·) 0)

/-- Endings of sequences that have been written: what was read, before which state, and the state
that reads it. Every ending has a slot, and the later of two in one slot displaces the earlier. -/
abbrev Endings := Array (Option (Nat × ByteRange × Nat))

namespace Endings

def slots : Nat := 1000

def none : Endings := Array.replicate slots Option.none

def mix (held : UInt64) (value : Nat) : UInt64 := (held ^^^ value.toUInt64) * 0x100000001b3

def slot (after : Nat) (range : ByteRange) : Nat :=
  (mix (mix (mix 0xcbf29ce484222325 after) range.1) range.2).toNat % slots

def stateOf? (endings : Endings) (after : Nat) (range : ByteRange) : Option Nat :=
  match endings[slot after range]? with
  | some (some (after', range', state)) =>
      if after' = after ∧ range' = range then some state else Option.none
  | _ => Option.none

def remember (endings : Endings) (after : Nat) (range : ByteRange) (state : Nat) : Endings :=
  endings.setIfInBounds (slot after range) (some (after, range, state))

def write? (endings : Endings) (extent : Extent) (after : Nat) :
    List ByteRange → Option (Endings × Extent)
  | [] => some (endings, extent)
  | range :: rest =>
      match endings.stateOf? after range with
      | some state => write? endings extent state rest
      | Option.none =>
          match extent.grow? 1 0 with
          | Option.none => Option.none
          | some grown =>
              let state := extent.states
              write? (endings.remember after range state) grown state rest

def writeAll? (endings : Endings) (extent : Extent) (after : Nat) :
    List (List ByteRange) → Option Extent
  | [] => some extent
  | sequence :: rest =>
      match endings.write? extent after sequence with
      | Option.none => Option.none
      | some (endings, extent) => writeAll? endings extent after rest

end Endings

/-! ### Choices between literals -/

def segments : List (List Nat) → List (List (List Nat))
  | [] => [[]]
  | [] :: rest => [] :: segments rest
  | (byte :: bytes) :: rest =>
      match segments rest with
      | [] => [[byte :: bytes]]
      | segment :: others => ((byte :: bytes) :: segment) :: others

def followByte (follows : List (Nat × List (List Nat))) :
    List Nat → List (Nat × List (List Nat))
  | [] => follows
  | byte :: bytes =>
      match follows with
      | [] => [(byte, [bytes])]
      | (other, held) :: rest =>
          if other = byte then (other, held ++ [bytes]) :: rest
          else (other, held) :: followByte rest (byte :: bytes)

/-- The states of a choice between literals at one place: one for the choice between the end of a
literal and what may be read there, and one for each group of literals with no end of a literal
between them. A place where all literals have ended has none. -/
def choiceStates : Nat → List (List Nat) → Nat × Nat
  | 0, _ => (0, 0)
  | depth + 1, literals =>
      if literals.all (·.isEmpty) then (0, 0)
      else
        let literals :=
          match literals with
          | [] :: rest => [] :: rest.dropWhile (·.isEmpty)
          | literals => literals
        let segments := segments literals
        segments.foldl
          (fun (states, held) segment =>
            let follows := segment.foldl followByte []
            let (states, held) := follows.foldl
              (fun (states, held) (_, rest) =>
                let (states', held') := choiceStates depth rest
                (states + states', held + held'))
              (states, held)
            match follows with
            | [] => (states, held)
            | [_] => (states + 1, held + Extent.branchRoom)
            | _ =>
                (states + 1, held + Extent.branchRoom + Extent.rangeRoom * follows.length))
          (1, Extent.branchRoom * (segments.length - 1))

def Layout.ofLiterals (literals : List (List Nat)) : Layout :=
  let depth := (literals.map (·.length)).foldl max 0 + 1
  let (count, held) := choiceStates depth literals
  .states (count + 1) held

/-! ### Patterns -/

def bytesOf (text : List Char) : List Nat := text.flatMap fun c => ByteSequence.encode c.toNat

def literals? : List Reduced → Option (List (List Nat))
  | [] => some []
  | .literal text :: rest => (literals? rest).map (bytesOf text :: ·)
  | _ :: _ => none

namespace Layout

def ofRanges (direction : Direction) (ranges : Ranges) : Layout :=
  if ranges.isAscii then .states 2 (Extent.rangeRoom * ranges.length)
  else
    let sequences := ByteSequence.ofRanges ranges
    match direction with
    | .forwards => .ofTails sequences
    | .backwards => .endings sequences

def choice : Layout := .states 1 (2 * Extent.branchRoom)

def state : Layout := .states 1 0

/-- The layout of a repetition. Every round that must or may happen is written out, but when there
is no last one the last that is written leads back to itself. -/
def ofRepetition (body : Layout) (takesSomething : Bool) (least : Nat) : Option Nat → Layout
  | none =>
      if least = 0 then
        if takesSomething then .inOrder [choice, body]
        else .inOrder [body, choice, choice, state]
      else .inOrder [.times least body, choice]
  | some most =>
      if least = 0 ∧ most = 1 then .inOrder [choice, body, state]
      else
        let required := if least = 0 then state else .times least body
        if most ≤ least then required
        else .inOrder [required, state, .times (most - least) (.inOrder [choice, body])]

mutual

def ofReduced (direction : Direction) : Reduced → Layout
  | .empty | .anchored _ => state
  | .literal text => .states (bytesOf text).length 0
  | .oneOf ranges => ofRanges direction ranges
  | .recorded body =>
      match direction with
      | .forwards => .inOrder [state, ofReduced direction body, state]
      | .backwards => ofReduced direction body
  | .repeated body least most =>
      ofRepetition (ofReduced direction body) body.takesSomething least most
  | .sequence parts =>
      match direction with
      | .forwards => .inOrder (ofAll direction parts)
      | .backwards => .inOrder (ofAll direction parts).reverse
  | .either options =>
      match literals? options, direction with
      | some literals, .forwards => .ofLiterals literals
      | some literals, .backwards => .ofLiterals (literals.map (·.reverse))
      | none, _ =>
          .inOrder (ofAll direction options ++
            [.states 2 (Extent.branchRoom * options.length)])

def ofAll (direction : Direction) : List Reduced → List Layout
  | [] => []
  | part :: parts => ofReduced direction part :: ofAll direction parts

end

/-- The layout of a whole pattern. Unless it holds to the place where reading begins, a state that
skips bytes comes before it; and forwards its two ends are recorded. -/
def ofPattern (direction : Direction) (pattern : Reduced) : Layout :=
  let first : Anchor :=
    match direction with
    | .forwards => .start
    | .backwards => .finish
  let skip : Layout :=
    if pattern.holdsTo first then state
    else .inOrder [choice, .states 2 Extent.rangeRoom]
  .inOrder [skip, ofReduced direction (.recorded pattern), state]

/-! ### Carrying out -/

def steps (step : Extent → Option Extent) : Nat → Extent → Option Extent
  | 0, extent => some extent
  | count + 1, extent =>
      match step extent with
      | none => none
      | some grown => steps step count grown

mutual

def build? : Layout → Extent → Option Extent
  | .states count held, extent => extent.grow? count held
  | .endings sequences, extent =>
      match extent.grow? 2 (Extent.branchRoom * sequences.length) with
      | none => none
      | some grown => Endings.none.writeAll? grown (extent.states + 1) sequences
  | .inOrder parts, extent => buildAll? parts extent
  | .times count body, extent => steps (build? body) count extent

def buildAll? : List Layout → Extent → Option Extent
  | [], extent => some extent
  | part :: parts, extent =>
      match build? part extent with
      | none => none
      | some grown => buildAll? parts grown

end

end Layout

end EventPipeline.Text
