import HostConsole.CodePoints.Basic
import HostConsole.Pattern.Basic
import HostConsole.Pattern.Settings

/-! Patterns as they are written: what each part says and where it stands. A sequence
or an alternative is a chain of two-part nodes below one layer that spans the chain. -/

namespace HostConsole.Pattern

/-- The characters from one offset up to another. -/
structure Span where
  first : Nat
  last : Nat
  deriving DecidableEq

/-! ### Sets of characters -/

/-- A character by itself, which may be written as the code of a byte. -/
structure Letter where
  char : Char
  isByte : Bool
  span : Span

/-- What a set goes by: a short name, a name for ASCII characters, or the name of a
property, with a value or not. -/
inductive SetName where
  | digit
  | blank
  | word
  | ascii (members : CodePoints)
  | property (name : List Char)
  | propertyValue (name value : List Char)

/-- A set by name, or its complement. -/
structure NamedSet where
  name : SetName
  negated : Bool
  span : Span

/-- The ways to combine two sets, from left to right. -/
inductive SetOperator where
  | inter
  | diff
  | symmDiff
  deriving DecidableEq

def SetOperator.apply : SetOperator → CodePoints → CodePoints → CodePoints
  | .inter => .inter
  | .diff => .diff
  | .symmDiff => .symmDiff

/-- What stands between the brackets of a class. -/
inductive ClassTree where
  | empty (span : Span)
  | range (span : Span) (first last : Letter)
  | named (s : NamedSet)
  | beside (s t : ClassTree)
  | union (span : Span) (items : ClassTree)
  | bracketed (span : Span) (negated : Bool) (inside : ClassTree)
  | combined (span : Span) (operator : SetOperator) (s t : ClassTree)

namespace ClassTree

def letter (l : Letter) : ClassTree :=
  .range l.span l l

def span : ClassTree → Span
  | .empty s | .range s _ _ | .union s _ | .bracketed s _ _ | .combined s _ _ _ => s
  | .named s => s.span
  | .beside s t => ⟨s.span.first, t.span.last⟩

/-- Items next to each other, or their place if there are none. -/
def ofItems (place : Nat) : List ClassTree → ClassTree
  | [] => .empty ⟨place, place⟩
  | [s] => s
  | s :: r =>
    let items := r.foldl .beside s
    .union items.span items

/-- An operand behind what stands before it, with the operator between them. -/
def combine (before : Option (SetOperator × ClassTree)) (s : ClassTree) : ClassTree :=
  match before with
  | none => s
  | some (o, t) => .combined ⟨t.span.first, s.span.last⟩ o t s

end ClassTree

/-! ### Patterns -/

/-- A condition on a place as it is written. Settings say what it asks for. -/
inductive Anchor where
  | start
  | finish
  | textStart
  | textEnd
  | word (edge : WordEdge)
  deriving DecidableEq

/-- A part of a pattern without parts. -/
inductive Atom where
  | letter (l : Letter)
  | dot (span : Span)
  | anchor (a : Anchor)
  | named (s : NamedSet)
  | bracketed (s : ClassTree)

/-- A pattern as written. The atoms come with the settings at their places; a change of
settings stands where it is made. -/
inductive Tree where
  | empty
  | settings
  | atom (s : Settings) (a : Atom)
  | beside (p q : Tree)
  | either (p q : Tree)
  | layer (span : Span) (p : Tree)
  | group (span : Span) (captures : Bool) (p : Tree)
  | repetition (span : Span) (least : Nat) (greatest : Option Nat) (p : Tree)

namespace Tree

/-- The parts of a sequence in a row. -/
def sequence (span : Span) : List Tree → Tree
  | [] => .empty
  | [p] => p
  | p :: r => .layer span (r.foldl .beside p)

/-- The alternatives before the last one, if any, and the last one. -/
def alternatives (span : Span) (before : Option Tree) (last : Tree) : Tree :=
  match before with
  | none => last
  | some p => .layer span (.either p last)

/-- Whether a part can be repeated. -/
def isRepeatable : Tree → Bool
  | .settings => false
  | _ => true

end Tree

end HostConsole.Pattern
