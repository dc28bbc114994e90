import HostConsole.CodePoints.Encoding
import HostConsole.Pattern.Automaton.Extent
import Std.Data.HashMap

/-! The part of an automaton that reads a character of a set, byte by byte. Parts that
read the same bytes to the same end are shared as far as a small memory of them goes. -/

namespace HostConsole.Pattern

/-! ### Memory -/

/-- States by what they do. Each description has one of a number of slots; where two
share one, the later displaces the earlier. -/
structure Memory where
  size : Nat
  slots : Std.HashMap Nat (List Nat × Nat)

namespace Memory

/-- An empty memory with a number of slots. -/
def new (size : Nat) : Memory :=
  ⟨size, ∅⟩

/-- A description spread over the numbers of 64 bits. -/
def spread (description : List Nat) : UInt64 :=
  description.foldl (fun h n => (h ^^^ n.toUInt64) * 1099511628211) 14695981039346656037

def slot (m : Memory) (description : List Nat) : Nat :=
  (spread description).toNat % m.size

def find? (m : Memory) (description : List Nat) : Option Nat :=
  match m.slots[m.slot description]? with
  | some (d, state) => if d = description then some state else none
  | none => none

def insert (m : Memory) (description : List Nat) (state : Nat) : Memory :=
  { m with slots := m.slots.insert (m.slot description) (description, state) }

end Memory

/-- A construction that shares states. -/
abbrev Sharing : Type → Type :=
  StateT Memory Assembly

/-- The state of a description, new unless it is remembered. -/
def shared (description : List Nat) (content : Nat) : Sharing Nat := do
  match (← get).find? description with
  | some state => return state
  | none =>
    let state ← Assembly.state content
    modify (·.insert description state)
    return state

/-! ### Sets -/

/-- The state that reads sequences of at most a given length, and the states behind it,
from the last bytes to the first. Sequences in a row with the same first bytes go
through one state. -/
def readRows (behind : Nat) : (length : Nat) → List ByteRow → Sharing Nat
  | 0, _ => return behind
  | length + 1, rows => do
    if rows.all List.isEmpty then return behind
    let groups := rows.splitBy fun a b => a.head? == b.head?
    let ways ← groups.mapM fun group => do
      let next ← readRows behind length (group.map List.tail)
      return match group with
        | ((first, last) :: _) :: _ => [first.toNat, last.toNat, next]
        | _ => []
    shared ways.flatten (8 * groups.length)

/-- The state that reads a sequence from its last byte to its first. -/
def readRowBack (behind : Nat) (row : ByteRow) : Sharing Nat :=
  row.foldlM (fun next r => shared [next, r.1.toNat, r.2.toNat] 0) behind

inductive Direction where
  | forward
  | backward
  deriving DecidableEq

/-- The part that reads a character of a set. A set of ASCII characters takes one state
beside the end. -/
def assembleSet (d : Direction) (s : CodePoints) : Assembly Unit := do
  let ranges := s.ranges
  if ranges.all (·.2 ≤ 0x7F) then
    Assembly.grow 2 (8 * ranges.length)
  else
    match d with
    | .forward =>
      let behind ← Assembly.state 0
      discard <| (readRows behind 4 s.byteRows).run (.new 10000)
    | .backward =>
      Assembly.states 1
      let behind ← Assembly.state 0
      let readAll : Sharing Unit := s.byteRows.forM fun row => do
        discard <| readRowBack behind row
        Assembly.links 1
      discard <| readAll.run (.new 1000)

end HostConsole.Pattern
