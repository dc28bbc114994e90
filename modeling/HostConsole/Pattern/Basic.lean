import HostConsole.Property.Derived

/-! Patterns and their meaning on a text. A pattern relates the positions where a
match can begin to those where it can end; here it takes a set of positions to the
set of those reached. -/

namespace HostConsole

/-- What a place between the characters of words and others is to be. -/
inductive Pattern.WordEdge where
  | boundary
  | notBoundary
  | start
  | finish
  | startHalf
  | finishHalf
  deriving DecidableEq

/-- A condition on the characters around a position. Lines may end with line feeds only
or with carriage returns too, and words may be made of ASCII characters only. -/
inductive Pattern.Assertion where
  | textStart
  | textEnd
  | lineStart (withReturns : Bool)
  | lineEnd (withReturns : Bool)
  | word (edge : Pattern.WordEdge) (ascii : Bool)
  deriving DecidableEq

/-- A pattern. A repetition without a greatest count goes on without bound. -/
inductive Pattern where
  | empty
  | char (s : CodePoints)
  | assertion (a : Pattern.Assertion)
  | seq (p q : Pattern)
  | alt (p q : Pattern)
  | group (p : Pattern)
  | repetition (least : Nat) (greatest : Option Nat) (p : Pattern)
  deriving DecidableEq

namespace Pattern

def isWord (ascii : Bool) (c : Char) : Bool :=
  if ascii then c.isAlphanum || c = '_' else Property.word.contains c

/-- Whether a place between two characters, each of a word or not, is such an edge. -/
def WordEdge.holds (e : WordEdge) (wordBefore wordAfter : Bool) : Bool :=
  match e with
  | .boundary => wordBefore != wordAfter
  | .notBoundary => wordBefore == wordAfter
  | .start => !wordBefore && wordAfter
  | .finish => wordBefore && !wordAfter
  | .startHalf => !wordBefore
  | .finishHalf => !wordAfter

/-- Whether an assertion holds between two characters, or at an end of the text. No line
ends between a carriage return and a line feed. -/
def Assertion.holds (a : Assertion) (before after : Option Char) : Bool :=
  match a with
  | .textStart => before.isNone
  | .textEnd => after.isNone
  | .lineStart withReturns =>
    before.isNone || before = some '\n' ||
      (withReturns && before = some '\r' && after ≠ some '\n')
  | .lineEnd withReturns =>
    after.isNone || (withReturns && after = some '\r') ||
      (after = some '\n' && !(withReturns && before = some '\r'))
  | .word edge ascii => edge.holds (before.any (isWord ascii)) (after.any (isWord ascii))

/-! ### Simple forms -/

/-- Whether all matches are empty by the form of the pattern. -/
def isZeroWidth : Pattern → Bool
  | .empty | .assertion _ => true
  | .char _ => false
  | .seq p q | .alt p q => q.isZeroWidth && p.isZeroWidth
  | .group p => p.isZeroWidth
  | .repetition _ greatest p => greatest = some 0 || p.isZeroWidth

/-- A pattern and another one behind it. -/
def followedBy (p q : Pattern) : Pattern :=
  match p, q with
  | .empty, q => q
  | p, .empty => p
  | p, q => .seq p q

/-- A repetition between two counts. To repeat a match without width changes nothing,
so one time is enough. -/
def repeated (least : Nat) (greatest : Option Nat) (p : Pattern) : Pattern :=
  let (least, greatest) :=
    if p.isZeroWidth then (min least 1, some ((greatest.map (min 1)).getD 1))
    else (least, greatest)
  if greatest = some 0 then .empty
  else if least = 1 && greatest = some 1 then p
  else .repetition least greatest p

/-! ### Sets of positions -/

/-- A set of positions in a text: one flag for each, the end included. -/
abbrev Positions := Array Bool

namespace Positions

def full (text : Array Char) : Positions :=
  Array.replicate (text.size + 1) true

def isEmpty (s : Positions) : Bool :=
  !s.any id

def union (s t : Positions) : Positions :=
  s.zipWith (· || ·) t

def diff (s t : Positions) : Positions :=
  s.zipWith (fun a b => a && !b) t

/-- Positions behind a character of a set, from those before it. -/
def step (c : CodePoints) (text : Array Char) (s : Positions) : Positions :=
  #[false] ++ text.zipWith (fun x here => here && c.contains x) s

/-- The positions where an assertion holds. -/
def filter (a : Assertion) (text : Array Char) (s : Positions) : Positions :=
  s.mapIdx fun i here =>
    here && a.holds (if i = 0 then none else text[i - 1]?) text[i]?

/-- Exactly `n` steps, fewer if no position is left before. -/
def steps (f : Positions → Positions) : Nat → Positions → Positions
  | 0, s => s
  | n + 1, s => if s.isEmpty then s else steps f n (f s)

/-- All positions within `n` steps of a frontier, beside those reached already. An
empty frontier ends the search. -/
def closure (f : Positions → Positions) : Nat → (frontier reached : Positions) → Positions
  | 0, _, reached => reached
  | n + 1, frontier, reached =>
    if frontier.isEmpty then reached
    else
      let new := (f frontier).diff reached
      closure f n new (reached.union new)

end Positions

/-! ### Matching -/

/-- How often a pattern is to match in a row. Without a greatest count there is no
bound. -/
structure Counts where
  least : Nat
  greatest : Option Nat
  deriving DecidableEq

namespace Counts

def once : Counts :=
  ⟨1, some 1⟩

/-- The counts of a repetition of a repetition. -/
def of (outer inner : Counts) : Counts :=
  ⟨outer.least * inner.least,
    match outer.greatest, inner.greatest with
    | some 0, _ | _, some 0 => some 0
    | some m, some n => some (m * n)
    | none, _ | _, none => none⟩

/-- Whether the inner counts together take every value between the least and the
greatest one. -/
def areDenseIn (inner outer : Counts) : Bool :=
  inner.least ≤ 1 || outer.greatest = some outer.least

/-- The positions behind some steps, as many as the counts allow. -/
def apply (c : Counts) (f : Positions → Positions) (s : Positions) : Positions :=
  let after := Positions.steps f c.least s
  let more := match c.greatest with
    | some n => n - c.least
    | none => s.size
  Positions.closure f more after after

end Counts

/-- The positions where some matches in a row can end, the first of which begins at one
of the given positions. -/
def reach (text : Array Char) : Pattern → (times : Counts) → Positions → Positions
  | .empty, _, s => s
  | .char c, times, s => times.apply (·.step c text) s
  | .assertion a, times, s => times.apply (·.filter a text) s
  | .seq p q, times, s => times.apply (fun s => reach text q .once (reach text p .once s)) s
  | .alt p q, times, s =>
    times.apply (fun s => (reach text p .once s).union (reach text q .once s)) s
  | .group p, times, s => reach text p times s
  | .repetition least greatest p, times, s =>
    let inner : Counts := ⟨least, greatest⟩
    if inner.areDenseIn times then reach text p (times.of inner) s
    else times.apply (reach text p inner) s

/-- Whether the pattern matches somewhere in a text. -/
def isMatch (p : Pattern) (text : String) : Bool :=
  let cs := text.toList.toArray
  !(reach cs p .once (.full cs)).isEmpty

end Pattern

end HostConsole
