import HostConsole.Pattern.Escape

/-! Character classes in patterns. -/

namespace HostConsole.Pattern

open Reader

def asciiDigit : CodePoints :=
  .ofRanges [('0', '9')]

def asciiSpace : CodePoints :=
  .ofRanges [('\t', '\r'), (' ', ' ')]

def asciiWord : CodePoints :=
  .ofRanges [('0', '9'), ('A', 'Z'), ('_', '_'), ('a', 'z')]

/-- The sets of ASCII characters that are written `[:name:]`. -/
def asciiSets : List (String × CodePoints) :=
  [("alnum", .ofRanges [('0', '9'), ('A', 'Z'), ('a', 'z')]),
   ("alpha", .ofRanges [('A', 'Z'), ('a', 'z')]),
   ("ascii", .ofRanges [('\x00', '\x7f')]),
   ("blank", .ofRanges [('\t', '\t'), (' ', ' ')]),
   ("cntrl", .ofRanges [('\x00', '\x1f'), ('\x7f', '\x7f')]),
   ("digit", asciiDigit),
   ("graph", .ofRanges [('!', '~')]),
   ("lower", .ofRanges [('a', 'z')]),
   ("print", .ofRanges [(' ', '~')]),
   ("punct", .ofRanges [('!', '/'), (':', '@'), ('[', '\x60'), ('\x7b', '~')]),
   ("space", asciiSpace),
   ("upper", .ofRanges [('A', 'Z')]),
   ("word", asciiWord),
   ("xdigit", .ofRanges [('0', '9'), ('A', 'F'), ('a', 'f')])]

/-- The operator that a doubled character stands for. -/
def setOperator? (c next : Option Char) : Option SetOperator :=
  if c ≠ next then none
  else match c with
    | some '&' => some .inter
    | some '-' => some .diff
    | some '~' => some .symmDiff
    | _ => none

/-- The set that `[:name:]` or `[:^name:]` at the start of a text stands for, whether
it is meant in reverse, and the length of that text. -/
def asciiSet? (ahead : List Char) : Option (CodePoints × Bool × Nat) :=
  match ahead with
  | '[' :: ':' :: rest =>
    let negated := rest.head? = some '^'
    let rest := if negated then rest.drop 1 else rest
    let name := rest.takeWhile (· != ':')
    match rest.dropWhile (· != ':') with
    | ':' :: ']' :: _ =>
      (asciiSets.lookup (String.ofList name)).map fun s =>
        (s, negated, name.length + if negated then 5 else 4)
    | _ => none
  | _ => none

/-- One end of a range, or an item of its own. -/
def readItem : Reader Atom := do
  match ← peek? with
  | some '\\' => readEscape
  | some c =>
    let here ← offset
    advance
    return .letter ⟨c, false, ⟨here, here + 1⟩⟩
  | none => failHere .classUnclosed

/-- A character, a set or a range within a class whose opening ends at `opened`. -/
def readRange (start opened : Nat) : Reader ClassTree := do
  let first ← offset
  let low ← readItem
  let middle ← offset
  skipSpace
  let next ← peek?
  if next.isNone then fail .classUnclosed start opened
  let second ← peekPast?
  if next ≠ some '-' || second = some ']' || second = some '-' then
    match low with
    | .letter l => return .letter l
    | .named s => return .named s
    | _ => fail .classEscapeInvalid first middle
  else
    step
    if (← peek?).isNone then fail .classUnclosed start opened
    let behind ← offset
    let high ← readItem
    let last ← offset
    match low, high with
    | .letter a, .letter b =>
      if a.char ≤ b.char then return .range ⟨first, last⟩ a b
      else fail .classRangeInvalid first last
    | .letter _, _ => fail .classRangeLiteral behind last
    | _, _ => fail .classRangeLiteral first middle

/-- Dashes at the start of a class, which stand for themselves. The fuel bounds their
number. -/
def readDashes : (fuel : Nat) → Reader (List ClassTree)
  | 0 => return []
  | fuel + 1 => do
    if (← peek?) = some '-' then
      let here ← offset
      step
      return .letter ⟨'-', false, ⟨here, here + 1⟩⟩ :: (← readDashes fuel)
    else return []

/-- The opening of a class: its bracket, its negation, and characters that are
literal because they come first. These are items of the class. -/
def readOpening : Reader (Bool × List ClassTree) := do
  let start ← offset
  step
  if (← peek?).isNone then failFrom .classUnclosed start
  let negated := (← peek?) = some '^'
  if negated then
    step
    if (← peek?).isNone then failFrom .classUnclosed start
  let dashes ← readDashes (← get).ahead.length
  if (← peek?).isNone then fail .classUnclosed start start
  if !dashes.isEmpty then return (negated, dashes)
  if (← peek?) = some ']' then
    let first ← offset
    step
    if (← peek?).isNone then failFrom .classUnclosed start
    return (negated, [.letter ⟨']', false, ⟨first, first + 1⟩⟩])
  return (negated, [])

mutual

/-- A class from its opening bracket on. The fuel bounds the characters read. -/
def readClass : (fuel : Nat) → Reader ClassTree
  | 0 => failFrom .classUnclosed 0
  | fuel + 1 => do
    let start ← offset
    let (negated, items) ← readOpening
    let opened ← offset
    let inside ← readClassRest fuel start opened none opened items.reverse
    return .bracketed ⟨start, ← offset⟩ negated inside

/-- The rest of a class: `items` are those since the last operator, the last one first.
The operator and what stands before it are in `before`; the items begin at `place`. -/
def readClassRest : (fuel : Nat) → (start opened : Nat) →
    (before : Option (SetOperator × ClassTree)) → (place : Nat) → (items : List ClassTree) →
    Reader ClassTree
  | 0, start, opened, _, _, _ => fail .classUnclosed start opened
  | fuel + 1, start, opened, before, place, items => do
    skipSpace
    let next ← peek?
    match next, setOperator? next (← peekSecond?) with
    | none, _ => fail .classUnclosed start opened
    | some ']', _ =>
      advance
      return .combine before (.ofItems place items.reverse)
    | some '[', _ =>
      match asciiSet? (← get).ahead with
      | some (s, negated, length) =>
        let first ← offset
        skip length
        let item := ClassTree.named ⟨.ascii s, negated, ⟨first, first + length⟩⟩
        readClassRest fuel start opened before place (item :: items)
      | none =>
        let item ← readClass fuel
        readClassRest fuel start opened before place (item :: items)
    | some _, some o =>
      skip 2
      let left := ClassTree.combine before (.ofItems place items.reverse)
      readClassRest fuel start opened (some (o, left)) (← offset) []
    | some _, none =>
      let item ← readRange start opened
      readClassRest fuel start opened before place (item :: items)

end

end HostConsole.Pattern
