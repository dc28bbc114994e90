import HostConsole.Pattern.Basic

/-! Alternatives in their simplest form. Characters side by side become one set, and
what all alternatives begin with is taken before them. -/

namespace HostConsole.Pattern

/-! ### Rows and parts -/

/-- The patterns that a pattern is a sequence of. -/
def factors : Pattern → List Pattern
  | .empty => []
  | .seq p q => p.factors ++ q.factors
  | p => [p]

/-- The patterns that a pattern is a choice between. -/
def alternatives : Pattern → List Pattern
  | .alt p q => p.alternatives ++ q.alternatives
  | p => [p]

/-- The characters of a pattern for a single character. -/
def set? : Pattern → Option CodePoints
  | .char s => some s
  | _ => none

/-- The only character that a pattern matches. -/
def letter? (p : Pattern) : Option Char :=
  p.set?.bind CodePoints.only?

def isLetter (p : Pattern) : Bool :=
  p.letter?.isSome

def hasGroup : Pattern → Bool
  | .empty | .char _ | .assertion _ => false
  | .seq p q | .alt p q => p.hasGroup || q.hasGroup
  | .group _ => true
  | .repetition _ _ p => p.hasGroup

/-- The factors of a pattern, letters next to each other taken together. -/
def parts (p : Pattern) : List (List Pattern) :=
  p.factors.splitBy fun a b => a.isLetter && b.isLetter

def ofFactors (ps : List Pattern) : Pattern :=
  ps.foldl followedBy .empty

/-! ### Choices -/

/-- The set that a choice comes to, between letters or between other sets. -/
def unionOf? (ps : List Pattern) : Option CodePoints :=
  let sets := ps.filterMap set?
  if sets.length = ps.length && (ps.all isLetter || !ps.any isLetter) then
    some (sets.foldl .union .empty)
  else none

/-- A choice between patterns none of which is a choice. -/
def choice (ps : List Pattern) : Pattern :=
  match unionOf? ps, ps with
  | some s, _ => .char s
  | none, p :: r => r.foldl .alt p
  | none, [] => .char .empty

/-- The parts that two rows begin with alike. A part with a group is like no other. -/
def commonParts : List (List Pattern) → List (List Pattern) → List (List Pattern)
  | a :: r, b :: s => if a = b && !a.any hasGroup then a :: commonParts r s else []
  | _, _ => []

/-- The parts that all rows begin with alike, if each row has several. -/
def commonStart (rows : List (List (List Pattern))) : List (List Pattern) :=
  match rows with
  | a :: b :: r => if rows.all (1 < ·.length) then (b :: r).foldl commonParts a else []
  | _ => []

/-- A choice between patterns, with what they begin with alike before it. -/
def choiceBehind (start rests : List (List Pattern)) : Pattern :=
  ofFactors (start.flatten ++ [choice (rests.flatMap fun r => (ofFactors r).alternatives)])

/-- A choice between patterns. -/
def alternation (ps : List Pattern) : Pattern :=
  match ps.flatMap alternatives with
  | [p] => p
  | ps =>
    let rows := ps.map parts
    match commonStart rows with
    | [] => choice ps
    | start => choiceBehind start (rows.map fun row => (row.drop start.length).flatten)

end HostConsole.Pattern
