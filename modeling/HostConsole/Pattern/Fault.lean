import HostConsole.Number.Decimal
import HostConsole.Pattern.Automaton.Extent
import HostConsole.Pattern.Nesting
import HostConsole.Text.Lines

/-! Why a text is no pattern, and the report that shows where. -/

namespace HostConsole.Pattern

/-- What is wrong with a pattern. -/
inductive Cause where
  | backreference
  | classEscapeInvalid
  | classRangeInvalid
  | classRangeLiteral
  | classUnclosed
  | decimalInvalid
  | escapeHexEmpty
  | escapeHexInvalid
  | escapeHexInvalidDigit
  | escapeIncomplete
  | escapeUnrecognized
  | flagDangling
  | flagDuplicate (earlier : Span)
  | flagIncomplete
  | flagRepeatedNegation (earlier : Span)
  | flagUnrecognized
  | groupNameDuplicate (earlier : Span)
  | groupNameEmpty
  | groupNameIncomplete
  | groupNameInvalid
  | groupUnclosed
  | groupUnopened
  | lookAround
  | nestingExceeded
  | propertyInvalid
  | propertyNotFound
  | propertyValueNotFound
  | repetitionCountEmpty
  | repetitionCountInvalid
  | repetitionCountUnclosed
  | repetitionMissing
  | boundaryUnclosed
  | boundaryUnrecognized
  | boundaryIncomplete
  | textInvalid
  | unicodeNotAllowed
  deriving DecidableEq

def Cause.message : Cause → String
  | .backreference => "backreferences are not supported"
  | .classEscapeInvalid => "invalid escape sequence found in character class"
  | .classRangeInvalid => "invalid character class range, the start must be <= the end"
  | .classRangeLiteral => "invalid range boundary, must be a literal"
  | .classUnclosed => "unclosed character class"
  | .decimalInvalid => "decimal literal invalid"
  | .escapeHexEmpty => "hexadecimal literal empty"
  | .escapeHexInvalid => "hexadecimal literal is not a Unicode scalar value"
  | .escapeHexInvalidDigit => "invalid hexadecimal digit"
  | .escapeIncomplete => "incomplete escape sequence, reached end of pattern prematurely"
  | .escapeUnrecognized => "unrecognized escape sequence"
  | .flagDangling => "dangling flag negation operator"
  | .flagDuplicate _ => "duplicate flag"
  | .flagIncomplete => "expected flag but got end of regex"
  | .flagRepeatedNegation _ => "flag negation operator repeated"
  | .flagUnrecognized => "unrecognized flag"
  | .groupNameDuplicate _ => "duplicate capture group name"
  | .groupNameEmpty => "empty capture group name"
  | .groupNameIncomplete => "unclosed capture group name"
  | .groupNameInvalid => "invalid capture group character"
  | .groupUnclosed => "unclosed group"
  | .groupUnopened => "unopened group"
  | .lookAround => "look-around, including look-ahead and look-behind, is not supported"
  | .nestingExceeded =>
    "exceed the maximum number of nested parentheses/brackets (" ++ Decimal.text nestingLimit ++ ")"
  | .propertyInvalid => "invalid Unicode character class"
  | .propertyNotFound => "Unicode property not found"
  | .propertyValueNotFound => "Unicode property value not found"
  | .repetitionCountEmpty => "repetition quantifier expects a valid decimal"
  | .repetitionCountInvalid => "invalid repetition count range, the start must be <= the end"
  | .repetitionCountUnclosed => "unclosed counted repetition"
  | .repetitionMissing => "repetition operator missing expression"
  | .boundaryUnclosed =>
    "special word boundary assertion is either unclosed or contains an invalid character"
  | .boundaryUnrecognized =>
    "unrecognized special word boundary assertion, valid choices are: start, end, start-half " ++
      "or end-half"
  | .boundaryIncomplete =>
    "found either the beginning of a special word boundary or a bounded repetition on a \\b " ++
      "with an opening brace, but no closing brace"
  | .textInvalid => "pattern can match invalid UTF-8"
  | .unicodeNotAllowed => "Unicode not allowed here"

/-- The earlier part of a pattern that the faulty one is at odds with. -/
def Cause.earlier? : Cause → Option Span
  | .flagDuplicate s | .flagRepeatedNegation s | .groupNameDuplicate s => some s
  | _ => none

/-- Why a text cannot be used as a pattern. -/
inductive Fault where
  | malformed (cause : Cause) (span : Span)
  | oversized
  deriving DecidableEq

/-! ### The report -/

/-- A place in a text, both numbers counted from one. -/
structure Place where
  line : Nat
  column : Nat
  deriving DecidableEq

def Place.ofOffset (text : List Char) (offset : Nat) : Place :=
  let before := text.take offset
  ⟨before.count '\n' + 1, (before.reverse.takeWhile (· != '\n')).length + 1⟩

/-- A part of a text by its places. -/
structure Extract where
  first : Place
  last : Place

namespace Extract

def ofSpan (text : List Char) (s : Span) : Extract :=
  ⟨.ofOffset text s.first, .ofOffset text s.last⟩

def isOnLine (e : Extract) (line : Nat) : Bool :=
  e.first.line = line && e.last.line = line

end Extract

def blanks (n : Nat) : String :=
  String.ofList (List.replicate n ' ')

/-- Marks under the columns of some parts of a line, from left to right, behind a number
of columns. -/
def marks : (column : Nat) → List Extract → String
  | _, [] => ""
  | column, e :: r =>
    let gap := e.first.column - 1 - column
    let width := max 1 (e.last.column - e.first.column)
    blanks gap ++ String.ofList (List.replicate width '^') ++ marks (column + gap + width) r

/-- A pattern in the report, with marks below the parts that lie within one line. Lines
are numbered where there are several. -/
def annotated (text : List Char) (extracts : List Extract) : String :=
  let ls := Text.lines text
  let count := if text.getLast? = some '\n' then ls.length + 1 else ls.length
  let width := if count ≤ 1 then 0 else (Decimal.text count).length
  let margin := fun n =>
    if width = 0 then blanks 4
    else blanks (width - (Decimal.text n).length) ++ Decimal.text n ++ ": "
  let padding := if width = 0 then 4 else width + 2
  String.join (ls.mapIdx fun i l =>
    margin (i + 1) ++ String.ofList l ++ "\n" ++
      match extracts.filter (·.isOnLine (i + 1)) with
      | [] => ""
      | es => blanks padding ++ marks 0 es ++ "\n")

/-- Where a part of several lines begins and ends. -/
def extent (e : Extract) : String :=
  "on line " ++ Decimal.text e.first.line ++ " (column " ++ Decimal.text e.first.column ++
    ") through line " ++ Decimal.text e.last.line ++
    " (column " ++ Decimal.text (e.last.column - 1) ++ ")"

/-- The report on a pattern of several lines is set between rules. -/
def report (pattern : String) (cause : Cause) (span : Span) : String :=
  let text := pattern.toList
  let extracts := (cause.earlier?.toList ++ [span]).map (.ofSpan text)
  let body := annotated text extracts
  let error := "error: " ++ cause.message
  if text.contains '\n' then
    let rule := String.ofList (List.replicate 79 '~') ++ "\n"
    let long := extracts.filter fun e => e.first.line ≠ e.last.line
    let extents := if long.isEmpty then "" else "\n".intercalate (long.map extent) ++ "\n"
    "regex parse error:\n" ++ rule ++ body ++ rule ++ extents ++ error
  else "regex parse error:\n" ++ body ++ error

def Fault.message (pattern : String) : Fault → String
  | .malformed cause span => report pattern cause span
  | .oversized => "Compiled regex exceeds size limit of " ++ Decimal.text sizeLimit ++ " bytes."

end HostConsole.Pattern
