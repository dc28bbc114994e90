import HostConsole.Session.Basic

/-! Completion of the word under the cursor, which may stand inside a nested
call. Positions are counted in bytes of the line's encoding. -/

namespace HostConsole

/-- An operation's name with the listing to show for it. -/
structure Candidate where
  replacement : String
  display : String
  deriving DecidableEq

/-- Where the completed word starts, and what it can become. -/
structure Completion where
  start : Nat
  candidates : List Candidate
  deriving DecidableEq

namespace Completion

/-- The characters that end a word. -/
def isDelimiter (c : Char) : Bool :=
  c = '(' || c = ',' || c = '=' || Text.isBlank c

/-- The characters before a position in bytes. -/
def before (position : Nat) : List Char → List Char
  | [] => []
  | c :: r => if c.utf8Size ≤ position then c :: before (position - c.utf8Size) r else []

def byteLength : List Char → Nat
  | [] => 0
  | c :: r => c.utf8Size + byteLength r

/-- The longest end of a text without a delimiter. -/
def lastWord (s : List Char) : List Char :=
  (s.reverse.takeWhile (!isDelimiter ·)).reverse

def ofLine {H : Host} (s : Session H) (line : String) (position : Nat) : Completion :=
  let text := before position line.toList
  let word := lastWord text
  { start := byteLength text - byteLength word
    candidates := (s.beginning (String.ofList word)).map fun o => ⟨o.name, o.listing⟩ }

end Completion

end HostConsole
