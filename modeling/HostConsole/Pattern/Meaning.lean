import HostConsole.CodePoints.Case
import HostConsole.Pattern.Automaton
import HostConsole.Pattern.Parser
import HostConsole.Property.Lookup

/-! The pattern that a text spells. Its form is read first, then its depth is bounded,
then its sets are looked up, and last its automaton is measured. -/

namespace HostConsole

namespace Pattern

/-! ### Sets -/

/-- A set closed under changes of case, if the settings ask for that. -/
def Settings.withCases (s : Settings) (members : CodePoints) : CodePoints :=
  if !s.has .ignoreCase then members
  else if s.has .unicode then members.withCases
  else members.withAsciiCases

/-- What is not in a set. In ASCII mode it would take bytes that make up no text. -/
def Settings.complement (s : Settings) (span : Span) (members : CodePoints) :
    Except Fault CodePoints :=
  if s.has .unicode then .ok members.complement else .error (.malformed .textInvalid span)

namespace NamedSet

/-- The set that a property has or has not. -/
def ofProperty (s : Settings) (span : Span) (found : Except Property.Missing CodePoints) :
    Except Fault CodePoints :=
  if !s.has .unicode then .error (.malformed .unicodeNotAllowed span)
  else
    match found with
    | .ok members => .ok (s.withCases members)
    | .error .name => .error (.malformed .propertyNotFound span)
    | .error .value => .error (.malformed .propertyValueNotFound span)

/-- The characters that a name stands for. -/
def positive (s : Settings) (n : NamedSet) : Except Fault CodePoints :=
  let ascii := !s.has .unicode
  match n.name with
  | .digit => .ok (if ascii then asciiDigit else Property.digit)
  | .blank => .ok (if ascii then asciiSpace else Property.whiteSpace)
  | .word => .ok (if ascii then asciiWord else Property.word)
  | .ascii members => .ok (s.withCases members)
  | .property name => ofProperty s n.span (Property.ofName name)
  | .propertyValue name value => ofProperty s n.span (Property.ofValue name value)

/-- The characters of a named set. -/
def members (s : Settings) (n : NamedSet) : Except Fault CodePoints := do
  let found ← n.positive s
  if n.negated then s.complement n.span found else return found

end NamedSet

/-- The code point of a letter in a class. Only ASCII is allowed in ASCII mode. -/
def Letter.member (s : Settings) (l : Letter) : Except Fault Nat :=
  if s.has .unicode || l.char.toNat ≤ 0x7F then .ok l.char.toNat
  else .error (.malformed (if l.isByte then .textInvalid else .unicodeNotAllowed) l.span)

/-- The characters of a class. -/
def ClassTree.members (s : Settings) : ClassTree → Except Fault CodePoints
  | .empty _ => .ok .empty
  | .range _ first last => return .range (← first.member s) (← last.member s)
  | .named n => n.members s
  | .beside a b => return (← a.members s).union (← b.members s)
  | .union _ a => a.members s
  | .bracketed span negated a => do
    let found := s.withCases (← a.members s)
    if negated then s.complement span found else return found
  | .combined _ o a b => return o.apply (s.withCases (← a.members s)) (s.withCases (← b.members s))

/-! ### Atoms -/

/-- The assertion of an anchor. -/
def Anchor.assertion (s : Settings) : Anchor → Assertion
  | .start => if s.has .multiline then .lineStart (s.has .returns) else .textStart
  | .finish => if s.has .multiline then .lineEnd (s.has .returns) else .textEnd
  | .textStart => .textStart
  | .textEnd => .textEnd
  | .word e => .word e (!s.has .unicode)

/-- The characters that a dot stands for. -/
def dotSet (s : Settings) : CodePoints :=
  let ends := if s.has .returns then ['\n', '\r'] else ['\n']
  if s.has .dotAll then CodePoints.empty.complement
  else (ends.foldl (fun t c => t.union (.single c)) CodePoints.empty).complement

/-- A letter by itself. The code of a byte beyond ASCII is no character in ASCII mode. -/
def Letter.pattern (s : Settings) (l : Letter) : Except Fault Pattern :=
  if l.isByte && !s.has .unicode && 0x7F < l.char.toNat then
    .error (.malformed .textInvalid l.span)
  else .ok (.char (s.withCases (.single l.char)))

def Atom.pattern (s : Settings) : Atom → Except Fault Pattern
  | .letter l => l.pattern s
  | .dot span =>
    if s.has .unicode then .ok (.char (dotSet s)) else .error (.malformed .textInvalid span)
  | .anchor a => .ok (.assertion (a.assertion s))
  | .named n => return .char (← n.members s)
  | .bracketed c => return .char (← c.members s)

/-! ### Trees -/

/-- The patterns that a tree is a choice between. -/
def Tree.options : Tree → Except Fault (List Pattern)
  | .empty | .settings => .ok [.empty]
  | .atom s a => return [← a.pattern s]
  | .beside p q => return [(alternation (← p.options)).followedBy (alternation (← q.options))]
  | .either p q => return (← p.options) ++ (← q.options)
  | .layer _ p => p.options
  | .group _ captures p => do
    let p := alternation (← p.options)
    return [if captures then .group p else p]
  | .repetition _ least greatest p =>
    return [repeated least greatest (alternation (← p.options))]

end Pattern

/-- The pattern that a text spells. -/
def Pattern.ofText (text : String) : Except Pattern.Fault Pattern := do
  let tree ← Tree.ofText text.toList
  match tree.tooDeep? 0 with
  | some span => throw (.malformed .nestingExceeded span)
  | none =>
    let p := alternation (← tree.options)
    if p.isOversized then throw .oversized else return p

end HostConsole
