/-! The extent of an automaton. Its states need not be kept to know how large it is: it
is enough to count them, and to add up what they hold. -/

namespace HostConsole.Pattern

/-- The greatest number of bytes that an automaton may take. -/
def sizeLimit : Nat :=
  10485760

/-- The states of an automaton, and the bytes they take beside a fixed part each. -/
structure Extent where
  states : Nat
  content : Nat
  deriving DecidableEq

def Extent.bytes (e : Extent) : Nat :=
  32 * e.states + e.content

/-- The construction of an automaton, given up when it grows beyond its limit. -/
abbrev Assembly : Type → Type :=
  StateT Extent Option

namespace Assembly

def grow (states content : Nat) : Assembly Unit := do
  let e ← get
  let e : Extent := { e with states := e.states + states, content := e.content + content }
  if e.bytes ≤ sizeLimit then set e else failure

/-- A new state with some bytes of content, by its number. -/
def state (content : Nat) : Assembly Nat := do
  let e ← get
  grow 1 content
  return e.states

/-- States without content. -/
def states (n : Nat) : Assembly Unit :=
  grow n 0

/-- One more way on from a state with several ones. -/
def links (n : Nat) : Assembly Unit :=
  grow 0 (4 * n)

/-- The same part several times. -/
def times (part : Assembly Unit) : (n : Nat) → Assembly Unit
  | 0 => return
  | n + 1 => do
    part
    times part n

end Assembly

end HostConsole.Pattern
