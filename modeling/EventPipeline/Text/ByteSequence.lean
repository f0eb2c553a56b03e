import EventPipeline.Text.Ranges

/-! The encoded form of ranges of code points: sequences of byte ranges, in ascending order, such
that a code point is in the range exactly when its bytes fit one of the sequences. -/

namespace EventPipeline.Text

abbrev ByteRange := Nat × Nat

namespace ByteSequence

def encode (c : Nat) : List Nat :=
  if c < 0x80 then [c]
  else if c < 0x800 then [0xc0 + c / 64, 0x80 + c % 64]
  else if c < 0x10000 then [0xe0 + c / 4096, 0x80 + c / 64 % 64, 0x80 + c % 64]
  else [0xf0 + c / 262144, 0x80 + c / 4096 % 64, 0x80 + c / 64 % 64, 0x80 + c % 64]

def blockEnd? (low high block : Nat) : Option Nat :=
  if low / block = high / block then none
  else if low % block ≠ 0 then some (low / block * block + block - 1)
  else if high % block ≠ block - 1 then some (high / block * block - 1)
  else none

/-- The last code point of the first piece of a range that is not one sequence: of one number of
bytes, and whole blocks in every byte after the first that differs. -/
def pieceEnd? (low high : Nat) : Option Nat :=
  match [0x7f, 0x7ff, 0xffff].find? fun last => decide (low ≤ last ∧ last < high) with
  | some last => some last
  | none => if high < 0x80 then none else [64, 4096, 262144].findSome? (blockEnd? low high)

def ofRange (low high : Nat) : List (List ByteRange) :=
  match pieceEnd? low high with
  | none => [(encode low).zip (encode high)]
  | some last =>
      if _inside : low ≤ last ∧ last < high then ofRange low last ++ ofRange (last + 1) high
      else [(encode low).zip (encode high)]
termination_by high - low

def withoutSurrogates (low high : Nat) : Ranges :=
  [(low, min high 0xd7ff), (max low 0xe000, high)].filter fun (first, last) =>
    decide (first ≤ last)

def ofRanges (ranges : Ranges) : List (List ByteRange) :=
  ranges.flatMap fun (low, high) =>
    (withoutSurrogates low high).flatMap fun (first, last) => ofRange first last

end ByteSequence

end EventPipeline.Text
