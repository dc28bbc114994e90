import HostConsole.Pattern.Fault
import HostConsole.Text.Blank

/-! Reading a pattern character by character. White space and remarks may be part of
the pattern or not, as its settings say. -/

namespace HostConsole.Pattern

/-- Where reading has come to: the text ahead, the number of characters behind, the
settings in force, and the names of groups so far with their places. -/
structure Cursor where
  ahead : List Char
  offset : Nat
  settings : Settings
  names : List (List Char × Span)

abbrev Reader : Type → Type :=
  StateT Cursor (Except Fault)

/-- The number of characters at the start of a text that are white space or remarks. A
remark goes from a hash sign to the end of its line. -/
def spaceLength : (inRemark : Bool) → List Char → Nat
  | _, [] => 0
  | true, c :: r => 1 + spaceLength (c != '\n') r
  | false, c :: r =>
    if Text.isBlank c then 1 + spaceLength false r
    else if c = '#' then 1 + spaceLength true r
    else 0

/-- The first character of a text that is not white space, nor the first hash sign. -/
def firstSolid? : (hashSeen : Bool) → List Char → Option Char
  | _, [] => none
  | hashSeen, c :: r =>
    if Text.isBlank c then firstSolid? hashSeen r
    else if !hashSeen && c = '#' then firstSolid? true r
    else some c

namespace Reader

def peek? : Reader (Option Char) :=
  return (← get).ahead.head?

/-- The character after the next one. -/
def peekSecond? : Reader (Option Char) :=
  return ((← get).ahead.drop 1).head?

def offset : Reader Nat :=
  return (← get).offset

def skip (n : Nat) : Reader Unit :=
  modify fun c => { c with ahead := c.ahead.drop n, offset := c.offset + min n c.ahead.length }

/-- One character on, or none at the end. -/
def advance : Reader Unit :=
  modify fun c =>
    match c.ahead with
    | [] => c
    | _ :: r => { c with ahead := r, offset := c.offset + 1 }

def isSpaced : Reader Bool :=
  return (← get).settings.has .spaced

/-- On past white space and remarks, if they are no part of the pattern. -/
def skipSpace : Reader Unit := do
  if ← isSpaced then skip (spaceLength false (← get).ahead)

/-- One character on, and past what is no part of the pattern. -/
def step : Reader Unit := do
  advance
  skipSpace

/-- The character after the next one, past white space if that is no part of the
pattern. -/
def peekPast? : Reader (Option Char) := do
  let rest := (← get).ahead.drop 1
  if ← isSpaced then return firstSolid? false rest <|> rest.head? else return rest.head?

/-- The characters from here on that have a property, now behind. -/
def takeWhile (p : Char → Bool) : Reader (List Char) := do
  let taken := (← get).ahead.takeWhile p
  skip taken.length
  return taken

/-- The characters from here on that have a property, without what is no part of the
pattern. The fuel bounds their number. -/
def takeStepsFor (p : Char → Bool) : (fuel : Nat) → Reader (List Char)
  | 0 => return []
  | fuel + 1 => do
    match (← peek?).filter p with
    | none => return []
    | some c =>
      step
      return c :: (← takeStepsFor p fuel)

def takeSteps (p : Char → Bool) : Reader (List Char) := do
  takeStepsFor p (← get).ahead.length

def fail {α : Type} (cause : Cause) (first last : Nat) : Reader α :=
  throw (.malformed cause ⟨first, last⟩)

/-- A fault from an offset up to the cursor. -/
def failFrom {α : Type} (cause : Cause) (first : Nat) : Reader α := do
  fail cause first (← offset)

/-- A fault at the cursor. -/
def failHere {α : Type} (cause : Cause) : Reader α := do
  failFrom cause (← offset)

/-- A fault of the next character alone. -/
def failNext {α : Type} (cause : Cause) : Reader α := do
  let here ← offset
  fail cause here (here + 1)

end Reader

end HostConsole.Pattern
