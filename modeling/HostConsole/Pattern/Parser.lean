import HostConsole.Pattern.Class
import HostConsole.Property.Derived

/-! Patterns read from text. A pattern is made of letters, escapes, classes, anchors,
repetitions, alternatives and groups. -/

namespace HostConsole.Pattern

open Reader

/-! ### Repetitions -/

/-- The greatest count that a repetition may name. -/
def countLimit : Nat := 4294967295

/-- Digits with white space around them, and where they stand. The fault of a
missing count is left to the caller to raise. -/
def readCount : Reader (Except Fault Nat) := do
  let _ ← takeWhile Text.isBlank
  let first ← offset
  let ds ← takeSteps Decimal.isDigit
  let last ← offset
  let _ ← takeSteps Text.isBlank
  if ds.isEmpty then return .error (.malformed .repetitionCountEmpty ⟨first, last⟩)
  else if countLimit < Decimal.value ds then
    return .error (.malformed .decimalInvalid ⟨first, last⟩)
  else return .ok (Decimal.value ds)

/-- A mark for the shortest match changes nothing here. -/
def skipLazy : Reader Unit := do
  if (← peek?) = some '?' then advance

/-- Counts in braces, from the opening brace on. -/
def readCounts : Reader (Nat × Option Nat) := do
  let start ← offset
  let unclosed : Reader Unit := do
    if (← peek?).isNone then failFrom .repetitionCountUnclosed start
  step
  unclosed
  let least ← readCount
  unclosed
  let counts ← (do
    if (← peek?) = some ',' then
      step
      unclosed
      if (← peek?) = some '\x7d' then return (← MonadExcept.ofExcept least, none)
      else
        let least ← MonadExcept.ofExcept least
        let greatest ← MonadExcept.ofExcept (← readCount)
        return (least, some greatest)
    else
      let n ← MonadExcept.ofExcept least
      return (n, some n))
  if (← peek?) ≠ some '\x7d' then failFrom .repetitionCountUnclosed start
  step
  skipLazy
  if counts.2.any (· < counts.1) then failFrom .repetitionCountInvalid start
  return counts

/-! ### Groups -/

/-- Letters that names of groups may hold: those of the alphabetic property, and some
more. -/
def nameLetters : CodePoints :=
  Property.alphabetic.union <| .ofRows
    ["2191 1 972 1 127 1 39665 2 2 1 1 1 28 1 24910 26 1387 3 50 2 3172 8 584 44 20676 25 2 25",
     "286 5 6145 8 1289 22 97 115 22733 31 1 22 8 2 53306 6 5986 12 21762 4298"]

/-- Digits that names of groups may hold behind their first character. -/
def nameDigits : CodePoints :=
  (Property.Category.among ["Nd", "Nl", "No"]).union (.range 0x11DE0 0x11DE9)

def isNameStart (c : Char) : Bool :=
  c = '_' || nameLetters.contains c

def isNamePart (c : Char) : Bool :=
  isNameStart c || c ∈ ['.', '[', ']'] || nameDigits.contains c

/-- The name of a group up to its closing mark, from the first character on or not. The
fuel bounds its length. -/
def readNameRest : (isFirst : Bool) → (fuel : Nat) → Reader (List Char)
  | _, 0 => return []
  | isFirst, fuel + 1 => do
    match ← peek? with
    | none | some '>' => return []
    | some c =>
      if !(if isFirst then isNameStart c else isNamePart c) then failNext .groupNameInvalid
      advance
      return c :: (← readNameRest false fuel)

/-- The name of a group, behind its opening mark, and the mark behind it. -/
def readName : Reader Unit := do
  let first ← offset
  let name ← readNameRest true (← get).ahead.length
  let span : Span := ⟨first, ← offset⟩
  if (← peek?).isNone then failHere .groupNameIncomplete
  advance
  if name.isEmpty then fail .groupNameEmpty first first
  match (← get).names.lookup name with
  | some earlier => fail (.groupNameDuplicate earlier) span.first span.last
  | none => modify fun c => { c with names := (name, span) :: c.names }

/-- The letters for settings read so far, the last one first, with the changes they make;
where the negation stands, if it has been read, and whether it came last. -/
structure Flags where
  read : List (Setting × Span)
  negation : Option Span
  endsNegated : Bool
  changes : List Change

/-- The letters for settings in the head of a group. The fuel bounds their number. -/
def readFlagsRest : (fuel : Nat) → Flags → Reader Flags
  | 0, f => return f
  | fuel + 1, f => do
    let here ← offset
    let span : Span := ⟨here, here + 1⟩
    match ← peek? with
    | none => failHere .flagIncomplete
    | some ':' | some ')' =>
      if f.endsNegated then fail .flagDangling (here - 1) here
      return f
    | some '-' =>
      if let some earlier := f.negation then failNext (.flagRepeatedNegation earlier)
      advance
      readFlagsRest fuel { f with negation := some span, endsNegated := true }
    | some c =>
      match Setting.ofLetter? c with
      | none => failNext .flagUnrecognized
      | some x =>
        if let some earlier := f.read.lookup x then failNext (.flagDuplicate earlier)
        advance
        readFlagsRest fuel
          { f with
            read := (x, span) :: f.read
            endsNegated := false
            changes := f.changes ++ [⟨x, f.negation.isNone⟩] }

def changeSettings (changes : List Change) : Reader Unit :=
  modify fun c => { c with settings := changes.foldl .apply c.settings }

/-- What the opening of a group begins. -/
inductive Opening where
  | group (captures : Bool)
  | settings

/-- The opening of a group, of which the parenthesis is behind. Settings that it changes
are in force from here on. -/
def readGroupOpening (start : Nat) : Reader Opening := do
  skipSpace
  let first ← offset
  let ahead := (← get).ahead
  let begins := fun mark : List Char => mark.isPrefixOf ahead
  let lookAround := [['?', '='], ['?', '!'], ['?', '<', '='], ['?', '<', '!']]
  match lookAround.find? begins, [['?', 'P', '<'], ['?', '<']].find? begins with
  | some mark, _ => fail .lookAround start (first + mark.length)
  | none, some mark =>
    skip mark.length
    readName
    return .group true
  | none, none =>
    if !begins ['?'] then return .group true
    advance
    if (← peek?).isNone then fail .groupUnclosed start (start + 1)
    let flags ← readFlagsRest ahead.length ⟨[], none, false, []⟩
    let closes := (← peek?) = some ')'
    advance
    if closes && flags.read.isEmpty && flags.negation.isNone then
      fail .repetitionMissing first first
    changeSettings flags.changes
    return if closes then .settings else .group false

/-! ### Sequences and alternatives -/

/-- What has been read of a group, or of the whole pattern: where it begins, the
alternatives before the last one, where that one begins, and its parts with the places
where they begin, the last part first. -/
structure Pending where
  start : Nat
  before : Option Tree
  place : Nat
  parts : List (Nat × Tree)

namespace Pending

def new (start : Nat) : Pending :=
  ⟨start, none, start, []⟩

def add (s : Pending) (place : Nat) (p : Tree) : Pending :=
  { s with parts := (place, p) :: s.parts }

/-- The last alternative, up to an offset. -/
def last (s : Pending) (offset : Nat) : Tree :=
  .sequence ⟨s.place, offset⟩ (s.parts.reverse.map (·.2))

/-- The last alternative is complete, and the next one begins behind its mark. -/
def next (s : Pending) (offset : Nat) : Pending :=
  let before := match s.before with
    | none => s.last offset
    | some p => .either p (s.last offset)
  ⟨s.start, some before, offset + 1, []⟩

/-- All alternatives, up to an offset. -/
def close (s : Pending) (offset : Nat) : Tree :=
  .alternatives ⟨s.start, offset⟩ s.before (s.last offset)

end Pending

/-- A pattern up to the parenthesis that closes the group opened at `outer`, or up
to the end. The fuel bounds the characters read. -/
def readAlternatives : (fuel : Nat) → (outer : Option Nat) → Pending → Reader Tree
  | 0, _, s => return s.close s.place
  | fuel + 1, outer, s => do
    skipSpace
    let here ← offset
    let repeated (read : Reader (Nat × Option Nat)) : Reader Tree := do
      match s.parts with
      | [] => failHere .repetitionMissing
      | (place, p) :: parts =>
        if !p.isRepeatable then failHere .repetitionMissing
        let (least, greatest) ← read
        let p := .repetition ⟨place, ← offset⟩ least greatest p
        readAlternatives fuel outer { s with parts := (place, p) :: parts }
    let uncounted (least : Nat) (greatest : Option Nat) : Reader Tree :=
      repeated do
        advance
        skipLazy
        return (least, greatest)
    let atom (read : Reader Atom) : Reader Tree := do
      let p ← read
      readAlternatives fuel outer (s.add here (.atom (← get).settings p))
    match ← peek? with
    | none =>
      match outer with
      | some start => fail .groupUnclosed start (start + 1)
      | none => return s.close here
    | some ')' =>
      match outer with
      | some _ =>
        advance
        return s.close here
      | none => failNext .groupUnopened
    | some '(' =>
      let settings := (← get).settings
      advance
      match ← readGroupOpening here with
      | .settings => readAlternatives fuel outer (s.add here .settings)
      | .group captures =>
        let p ← readAlternatives fuel (some here) (.new (← offset))
        modify fun c => { c with settings }
        let p := .group ⟨here, ← offset⟩ captures p
        readAlternatives fuel outer (s.add here p)
    | some '|' =>
      advance
      readAlternatives fuel outer (s.next here)
    | some '[' => atom do return .bracketed (← readClass fuel)
    | some '?' => uncounted 0 (some 1)
    | some '*' => uncounted 0 none
    | some '+' => uncounted 1 none
    | some '\x7b' => repeated readCounts
    | some '\\' => atom readEscape
    | some c =>
      atom do
        advance
        return match c with
          | '.' => .dot ⟨here, here + 1⟩
          | '^' => .anchor .start
          | '$' => .anchor .finish
          | c => .letter ⟨c, false, ⟨here, here + 1⟩⟩

/-- The tree of a pattern. -/
def Tree.ofText (text : List Char) : Except Fault Tree :=
  (readAlternatives (2 * text.length + 2) none (.new 0)).run' ⟨text, 0, .initial, []⟩

end HostConsole.Pattern
