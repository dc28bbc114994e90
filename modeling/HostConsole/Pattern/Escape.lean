import HostConsole.Pattern.Reader

/-! Escapes in patterns. -/

namespace HostConsole.Pattern

open Reader

def isMeta (c : Char) : Bool :=
  c ∈ ['\\', '.', '+', '*', '?', '(', ')', '|', '[', ']', '\x7b', '\x7d', '^', '$', '#', '&', '-',
    '~']

/-- Characters that may be escaped and then stand for themselves. -/
def isEscapable (c : Char) : Bool :=
  isMeta c || (c.toNat < 0x80 && !c.isAlphanum && c ≠ '<' && c ≠ '>')

def isHexDigit (c : Char) : Bool :=
  c.isDigit || ('a' ≤ c && c ≤ 'f') || ('A' ≤ c && c ≤ 'F')

def hexValue (ds : List Char) : Nat :=
  ds.foldl (fun n c =>
    16 * n +
      if c.isDigit then c.toNat - '0'.toNat
      else if 'a' ≤ c then c.toNat - 'a'.toNat + 10
      else c.toNat - 'A'.toNat + 10) 0

/-- Exactly `count` hexadecimal digits. -/
def readHexDigits : (count : Nat) → Reader (List Char)
  | 0 => return []
  | count + 1 => do
    match ← peek? with
    | none => failHere .escapeIncomplete
    | some c =>
      if isHexDigit c then
        step
        return c :: (← readHexDigits count)
      else failNext .escapeHexInvalidDigit

/-- The character of a hexadecimal code, given where its digits stand. -/
def readHexValue (ds : List Char) (first last : Nat) : Reader Char :=
  let n := hexValue ds
  if n.isValidChar then return Char.ofNat n else fail .escapeHexInvalid first last

/-- A hexadecimal code behind its mark, in braces or of a fixed length. A code of two
digits is one of a byte. -/
def readHex (start count : Nat) : Reader Letter := do
  skipSpace
  let brace ← offset
  match ← peek? with
  | none => failHere .escapeIncomplete
  | some '\x7b' =>
    step
    let ds ← takeSteps isHexDigit
    let last ← offset
    match ← peek? with
    | none => failFrom .escapeIncomplete brace
    | some '\x7d' =>
      step
      if ds.isEmpty then failFrom .escapeHexEmpty brace
      else
        let c ← readHexValue ds (brace + 1) last
        return ⟨c, false, ⟨start, ← offset⟩⟩
    | some _ => failNext .escapeHexInvalidDigit
  | some _ =>
    let ds ← readHexDigits count
    let last ← offset
    let c ← readHexValue ds brace last
    return ⟨c, count = 2, ⟨start, last⟩⟩

/-- A name split where it first holds a mark. -/
def splitAt (mark : List Char) : List Char → Option (List Char × List Char)
  | [] => none
  | c :: r =>
    if mark.isPrefixOf (c :: r) then some ([], (c :: r).drop mark.length)
    else (splitAt mark r).map fun p => (c :: p.1, p.2)

/-- What the text between braces asks for, and whether for its opposite. -/
def setName (text : List Char) : SetName × Bool :=
  match splitAt ['!', '='] text, splitAt [':'] text, splitAt ['='] text with
  | some parts, _, _ => (.propertyValue parts.1 parts.2, true)
  | none, some parts, _ | none, none, some parts => (.propertyValue parts.1 parts.2, false)
  | none, none, none => (.property text, false)

/-- A set of characters named by a property, behind its mark. -/
def readProperty (start : Nat) (negated : Bool) : Reader NamedSet := do
  skipSpace
  match ← peek? with
  | none => failHere .escapeIncomplete
  | some '\x7b' =>
    step
    let text ← takeSteps (· != '\x7d')
    if (← peek?).isNone then failHere .escapeIncomplete
    advance
    let (name, opposite) := setName text
    return ⟨name, negated != opposite, ⟨start, ← offset⟩⟩
  | some '\\' => failNext .propertyInvalid
  | some c =>
    step
    return ⟨.property [c], negated, ⟨start, ← offset⟩⟩

/-- A named boundary in braces behind an escaped `b`, if the braces hold one and no
counts. -/
def readBoundary (start : Nat) : Reader WordEdge := do
  if (← peek?) ≠ some '\x7b' then return .boundary
  let before ← get
  step
  let isLetter := fun c : Char => c.isAlpha || c = '-'
  match ← peek? with
  | none => failFrom .boundaryIncomplete start
  | some c =>
    if !isLetter c then
      set before
      return .boundary
    let first ← offset
    let name ← takeSteps isLetter
    let last ← offset
    if (← peek?) ≠ some '\x7d' then fail .boundaryUnclosed before.offset last
    advance
    match String.ofList name with
    | "start" => return .start
    | "end" => return .finish
    | "start-half" => return .startHalf
    | "end-half" => return .finishHalf
    | _ => fail .boundaryUnrecognized first last

/-- An escape, from its backslash on. -/
def readEscape : Reader Atom := do
  let start ← offset
  advance
  match ← peek? with
  | none => failFrom .escapeIncomplete start
  | some c =>
    if c.isDigit then fail .backreference start ((← offset) + 1)
    advance
    let span : Span := ⟨start, ← offset⟩
    let letter := fun c => Atom.letter ⟨c, false, span⟩
    let set := fun name negated => Atom.named ⟨name, negated, span⟩
    let edge := fun e => Atom.anchor (.word e)
    if isEscapable c then return letter c
    match c with
    | 'x' => return .letter (← readHex start 2)
    | 'u' => return .letter (← readHex start 4)
    | 'U' => return .letter (← readHex start 8)
    | 'p' => return .named (← readProperty start false)
    | 'P' => return .named (← readProperty start true)
    | 'd' => return set .digit false
    | 'D' => return set .digit true
    | 's' => return set .blank false
    | 'S' => return set .blank true
    | 'w' => return set .word false
    | 'W' => return set .word true
    | 'a' => return letter '\x07'
    | 'f' => return letter '\x0C'
    | 't' => return letter '\t'
    | 'n' => return letter '\n'
    | 'r' => return letter '\r'
    | 'v' => return letter '\x0B'
    | 'A' => return .anchor .textStart
    | 'z' => return .anchor .textEnd
    | 'b' => return edge (← readBoundary start)
    | 'B' => return edge .notBoundary
    | '<' => return edge .start
    | '>' => return edge .finish
    | _ => failFrom .escapeUnrecognized start

end HostConsole.Pattern
