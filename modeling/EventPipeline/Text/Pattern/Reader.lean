import EventPipeline.Text.Pattern.Bounds

/-! Reading patterns. Every failure is alike: a text is a pattern or it is not. -/

namespace EventPipeline.Text.Pattern

def digitsValue (digits : List Char) : Nat :=
  digits.foldl (fun value c => 10 * value + (c.toNat - '0'.toNat)) 0

def namedClass? : Char → Option (NamedClass × Bool)
  | 'w' => some (.word, false)
  | 'W' => some (.word, true)
  | 'd' => some (.digit, false)
  | 'D' => some (.digit, true)
  | 's' => some (.blank, false)
  | 'S' => some (.blank, true)
  | _ => none

def escapedCharacter? (c : Char) : Option Char :=
  if c = 'n' then some '\n'
  else if c = 't' then some '\t'
  else if c = 'r' then some '\r'
  else if c.isAlphanum then none
  else some c

def classItems? : Nat → List ClassItem → List Char → Option (List ClassItem × List Char)
  | 0, _, _ => none
  | fuel + 1, items, text =>
      match text with
      | [] => none
      | ']' :: rest => some (items, rest)
      | '\\' :: c :: rest =>
          match namedClass? c, rest with
          | some (cls, negated), '-' :: ']' :: _ =>
              classItems? fuel (items ++ [.named cls negated]) rest
          | some _, '-' :: _ => none
          | some (cls, negated), _ => classItems? fuel (items ++ [.named cls negated]) rest
          | none, _ => (escapedCharacter? c).bind fun c => closeRange fuel items c rest
      | c :: rest => closeRange fuel items c rest
where
  closeRange (fuel : Nat) (items : List ClassItem) (low : Char) (rest : List Char) :
      Option (List ClassItem × List Char) :=
    match rest with
    | '-' :: ']' :: _ => classItems? fuel (items ++ [.range low low]) rest
    | '-' :: '\\' :: high :: rest =>
        (escapedCharacter? high).bind fun high =>
          if low ≤ high then classItems? fuel (items ++ [.range low high]) rest else none
    | '-' :: high :: rest =>
        if low ≤ high then classItems? fuel (items ++ [.range low high]) rest else none
    | rest => classItems? fuel (items ++ [.range low low]) rest

/-- A bracketed class after its opening. Hyphens at its beginning stand for themselves, and so does
a closing bracket there. -/
def class? (text : List Char) : Option (Pattern × List Char) :=
  let (negated, text) :=
    match text with
    | '^' :: rest => (true, rest)
    | text => (false, text)
  let hyphens := (text.takeWhile (· = '-')).map fun c => ClassItem.range c c
  let (first, text) :=
    match hyphens, text.dropWhile (· = '-') with
    | [], ']' :: rest => ([ClassItem.range ']' ']'], rest)
    | hyphens, rest => (hyphens, rest)
  (classItems? (text.length + 1) first text).map fun (items, rest) =>
    (.bracketed ⟨items, negated⟩, rest)

/-- A count of a repetition, with blanks around it: at least one digit, and less than 2³². -/
def count? (text : List Char) : Option (Nat × List Char) :=
  let isBlank := blankRanges.contains
  let text := text.dropWhile isBlank
  let digits := text.takeWhile Char.isDigit
  if digits.isEmpty || 4294967296 ≤ digitsValue digits then none
  else some (digitsValue digits, (text.dropWhile Char.isDigit).dropWhile isBlank)

def counts? (text : List Char) : Option (Nat × Option Nat × List Char) :=
  match count? text with
  | some (least, '\x7d' :: rest) => some (least, some least, rest)
  | some (least, ',' :: '\x7d' :: rest) => some (least, none, rest)
  | some (least, ',' :: rest) =>
      match count? rest with
      | some (most, '\x7d' :: rest) => if most < least then none else some (least, some most, rest)
      | _ => none
  | _ => none

/-- What the operators after an atom make of it. A mark for the shorter match changes nothing about
whether there is one. -/
def repetitions? : Nat → Pattern → List Char → Option (Pattern × List Char)
  | 0, _, _ => none
  | fuel + 1, body, text =>
      let shorter := fun (rest : List Char) => if rest.head? = some '?' then rest.tail else rest
      match text with
      | '*' :: rest => repetitions? fuel (.repeated body 0 none) (shorter rest)
      | '+' :: rest => repetitions? fuel (.repeated body 1 none) (shorter rest)
      | '?' :: rest => repetitions? fuel (.repeated body 0 (some 1)) (shorter rest)
      | '\x7b' :: rest =>
          match counts? rest with
          | some (least, most, rest) =>
              repetitions? fuel (.repeated body least most) (shorter rest)
          | none => none
      | text => some (body, text)

mutual

def options? : Nat → List Char → Option (List Pattern × List Char)
  | 0, _ => none
  | fuel + 1, text =>
      match parts? fuel text with
      | none => none
      | some (parts, '|' :: rest) =>
          (options? fuel rest).map fun (options, rest) => (.ofParts parts :: options, rest)
      | some (parts, rest) => some ([.ofParts parts], rest)

def parts? : Nat → List Char → Option (List Pattern × List Char)
  | 0, _ => none
  | _ + 1, [] => some ([], [])
  | fuel + 1, c :: text =>
      if c = '|' ∨ c = ')' then some ([], c :: text)
      else
        match atom? fuel (c :: text) with
        | none => none
        | some (atom, rest) =>
            match repetitions? (rest.length + 1) atom rest with
            | none => none
            | some (part, rest) =>
                (parts? fuel rest).map fun (parts, rest) => (part :: parts, rest)

def atom? : Nat → List Char → Option (Pattern × List Char)
  | 0, _ => none
  | _ + 1, [] => none
  | fuel + 1, c :: rest =>
      if c = '*' ∨ c = '+' ∨ c = '?' ∨ c = '\x7b' then none
      else if c = '^' then some (.atStart, rest)
      else if c = '$' then some (.atEnd, rest)
      else if c = '.' then some (.anyInLine, rest)
      else if c = '[' then class? rest
      else if c = '(' then
        let (recorded, body) :=
          match rest with
          | '?' :: ':' :: rest => (false, rest)
          | rest => (true, rest)
        match options? fuel body with
        | some (options, ')' :: rest) => some (.group recorded (.ofOptions options), rest)
        | _ => none
      else if c = '\\' then
        match rest with
        | [] => none
        | escaped :: rest =>
            match namedClass? escaped with
            | some (cls, negated) => some (.named cls negated, rest)
            | none => (escapedCharacter? escaped).map fun c => (.character c, rest)
      else some (.character c, rest)

end

def ofText? (text : String) : Option Pattern :=
  let characters := text.toList
  match options? (3 * characters.length + 3) characters with
  | some (options, []) =>
      let pattern := ofOptions options
      if pattern.withinBounds then some pattern else none
  | _ => none

end EventPipeline.Text.Pattern
