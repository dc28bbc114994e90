import HostConsole.Pattern.Alternation
import HostConsole.Pattern.Automaton.Sets
import HostConsole.Pattern.Automaton.Words

/-! The automata of a pattern: one that reads a text forward, and one that reads it
backward. A pattern is too large if one of them is. -/

namespace HostConsole.Pattern

/-! ### Lengths and ends -/

/-- The number of bytes of the shortest match by the form of a pattern, if it has a
match. -/
def shortest? : Pattern → Option Nat
  | .empty | .assertion _ => some 0
  | .char s => s.ranges.head?.map fun r => (Char.ofNat r.1).utf8Size
  | .seq p q => return (← p.shortest?) + (← q.shortest?)
  | .alt p q => return min (← p.shortest?) (← q.shortest?)
  | .group p => p.shortest?
  | .repetition least _ p => p.shortest?.map (least * ·)

/-- Whether an assertion holds wherever a match begins, by the form of a pattern. -/
def opensWith (a : Assertion) : Pattern → Bool
  | .empty | .char _ => false
  | .assertion b => a = b
  | .seq p q => p.opensWith a || (p.isZeroWidth && q.opensWith a)
  | .alt p q => p.opensWith a && q.opensWith a
  | .group p => p.opensWith a
  | .repetition least _ p => 0 < least && p.opensWith a

/-- Whether an assertion holds wherever a match ends, by the form of a pattern. -/
def closesWith (a : Assertion) : Pattern → Bool
  | .empty | .char _ => false
  | .assertion b => a = b
  | .seq p q => q.closesWith a || (q.isZeroWidth && p.closesWith a)
  | .alt p q => p.closesWith a && q.closesWith a
  | .group p => p.closesWith a
  | .repetition least _ p => 0 < least && p.closesWith a

/-! ### Parts -/

/-- The bytes of a pattern that matches one text only, and not the empty one. -/
def word? (p : Pattern) : Option (List UInt8) :=
  let letters := p.factors.filterMap letter?
  if letters.isEmpty || letters.length < p.factors.length then none
  else some (letters.flatMap String.utf8EncodeChar)

/-- The words that a pattern is a choice between. -/
def words? (p : Pattern) : Option (List (List UInt8)) :=
  p.alternatives.mapM word?

def isChoice : Pattern → Bool
  | .alt _ _ => true
  | _ => false

/-- The states of a repetition, given those for one time. -/
def assembleRepetition (once : Assembly Unit) (canBeEmpty : Bool) (least : Nat) :
    (greatest : Option Nat) → Assembly Unit
  | none =>
    if 0 < least then do
      Assembly.times once least
      Assembly.states 1
      Assembly.links 2
    else if canBeEmpty then do
      once
      Assembly.states 3
      Assembly.links 4
    else do
      Assembly.states 1
      once
      Assembly.links 2
  | some greatest =>
    let optional : Assembly Unit := do
      Assembly.states 1
      once
      Assembly.links 2
    if least = 0 && greatest = 1 then do
      optional
      Assembly.states 1
    else do
      if least = 0 then Assembly.states 1 else Assembly.times once least
      if least < greatest then
        Assembly.states 1
        Assembly.times optional (greatest - least)

/-- The states of a pattern. Within a choice, the alternatives so far make no choice of
their own. -/
def assemble (d : Direction) : (within : Bool) → Pattern → Assembly Unit
  | _, .empty => Assembly.states 1
  | _, .assertion _ => Assembly.states 1
  | _, .char s =>
    match s.only? with
    | some c => Assembly.states c.utf8Size
    | none => assembleSet d s
  | _, .seq p q =>
    match d with
    | .forward => do
      assemble d false p
      assemble d false q
    | .backward => do
      assemble d false q
      assemble d false p
  | within, .alt p q =>
    match if within then none else words? (.alt p q) with
    | some ws => do
      Assembly.states 1
      let ws := if d = .forward then ws else ws.map List.reverse
      assembleWords (ws.foldl (fun n w => max n w.length) 0) ws
    | none => do
      assemble d true p
      assemble d false q
      if p.isChoice then Assembly.links 1
      else
        Assembly.states 2
        Assembly.links 2
  | _, .group p =>
    match d with
    | .forward => do
      Assembly.states 1
      assemble d false p
      Assembly.states 1
    | .backward => assemble d false p
  | _, .repetition least greatest p =>
    assembleRepetition (assemble d false p) (p.shortest?.all (· = 0)) least greatest

/-! ### The whole -/

/-- The states before a pattern. A match may begin anywhere, unless the pattern begins
at an end of the text. -/
def assembleStart (anchored : Bool) : Assembly Unit :=
  if anchored then Assembly.states 1 else Assembly.grow 3 16

/-- The automaton of a pattern. The forward one marks both ends of a match. -/
def automaton (p : Pattern) : (d : Direction) → Assembly Unit
  | .forward => do
    assembleStart (p.opensWith .textStart)
    Assembly.states 1
    assemble .forward false p
    Assembly.states 2
  | .backward => do
    assembleStart (p.closesWith .textEnd)
    assemble .backward false p
    Assembly.states 1

/-- The number of bytes that an automaton takes, if it stays within its limit. -/
def size? (p : Pattern) (d : Direction) : Option Nat :=
  ((p.automaton d).run ⟨0, 0⟩).map fun r => r.2.bytes

def isOversized (p : Pattern) : Bool :=
  (p.size? .forward).isNone || (p.size? .backward).isNone

end HostConsole.Pattern
