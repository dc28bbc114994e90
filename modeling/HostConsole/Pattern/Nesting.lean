import HostConsole.Pattern.Tree

/-! How deep a pattern nests. Every layer of a tree that holds others counts: classes,
unions and operators in classes, groups, repetitions, sequences and alternatives. -/

namespace HostConsole.Pattern

/-- The greatest number of layers one within another. -/
def nestingLimit : Nat :=
  250

/-- A layer below some others, and then what it holds: the place of the first layer,
in reading order, that lies too deep. -/
def tooDeepFrom (span : Span) (above : Nat) (inside : Nat → Option Span) : Option Span :=
  if nestingLimit ≤ above then some span else inside (above + 1)

def ClassTree.tooDeep? : ClassTree → (above : Nat) → Option Span
  | .empty _, _ | .range _ _ _, _ | .named _, _ => none
  | .beside s t, above => s.tooDeep? above <|> t.tooDeep? above
  | .union span s, above => tooDeepFrom span above s.tooDeep?
  | .bracketed span _ s, above => tooDeepFrom span above s.tooDeep?
  | .combined span _ s t, above =>
    tooDeepFrom span above fun n => s.tooDeep? n <|> t.tooDeep? n

/-- The place of the first layer of a tree that lies too deep, below some layers. -/
def Tree.tooDeep? : Tree → (above : Nat) → Option Span
  | .empty, _ | .settings, _ => none
  | .atom _ (.bracketed s), above => s.tooDeep? above
  | .atom _ _, _ => none
  | .beside p q, above | .either p q, above => p.tooDeep? above <|> q.tooDeep? above
  | .layer span p, above => tooDeepFrom span above p.tooDeep?
  | .group span _ p, above => tooDeepFrom span above p.tooDeep?
  | .repetition span _ _ p, above => tooDeepFrom span above p.tooDeep?

end HostConsole.Pattern
