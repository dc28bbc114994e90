import HostConsole.Demo.Ship
import HostConsole.Pattern.Meaning

/-! A calculator with operations on numbers and texts. It counts its evaluations,
those that fail included. -/

namespace HostConsole.Demo

structure Calculator where
  evaluations : Int32
  deriving DecidableEq

namespace Calculator

def initial : Calculator :=
  ⟨0⟩

/-- The calculator after one more evaluation; the count wraps around. -/
def counted (c : Calculator) : Calculator :=
  ⟨c.evaluations + 1⟩

/-- The sum of two integers, if it is in range. -/
def checkedSum (m n : Int32) : Except Failure Int32 :=
  let sum := m.toInt + n.toInt
  if -Integer.smallest ≤ sum && sum ≤ Integer.greatest then .ok (Int32.ofInt sum)
  else .error (.ofMessage "integer overflow")

/-- Whether a pattern matches somewhere in a text. -/
def matchesText (pattern text : String) : Except Failure Bool :=
  match Pattern.ofText pattern with
  | .ok p => .ok (p.isMatch text)
  | .error f =>
    .error ((Failure.ofMessage (f.message pattern)).within ("invalid pattern '" ++ pattern ++ "'"))

def accessFailure {α : Type} (r : Except AccessFault α) : Except Failure α :=
  r.mapError fun f => .ofMessage f.message

/-- A run that counts as an evaluation, also where it fails. -/
def evaluation {C : Type} (c : Calculator) (r : Except Failure (Value C)) : Reply C Calculator :=
  ⟨c.counted, r.map some⟩

variable {C : Type} [Described C]

/-- The operations of the calculator. -/
def declarations : List (Declaration C Calculator) :=
  [{ name := "Add", parameters := [⟨"a", .int⟩, ⟨"b", .int⟩], marked := true
     body := fun _ a c => evaluation c do
      let m ← accessFailure (a.int 0)
      let n ← accessFailure (a.int 1)
      return .int (← checkedSum m n) },
   { name := "Mul", parameters := [⟨"a", .double⟩, ⟨"b", .double⟩], marked := true
     body := fun _ a c => evaluation c do
      let x ← accessFailure (a.double 0)
      let y ← accessFailure (a.double 1)
      return .double (x * y) },
   { name := "Concat", parameters := [⟨"a", .string⟩, ⟨"b", .string⟩], marked := true
     body := fun _ a c => evaluation c do
      let s ← accessFailure (a.string 0)
      let t ← accessFailure (a.string 1)
      return .string (s ++ t) },
   { name := "Matches", parameters := [⟨"pattern", .string⟩, ⟨"text", .string⟩], marked := true
     body := fun _ a c => evaluation c do
      let pattern ← accessFailure (a.string 0)
      let text ← accessFailure (a.string 1)
      return .bool (← matchesText pattern text) },
   { name := "Echo", parameters := [⟨"value", .any⟩], marked := true
     body := fun _ a c => answer c (a.value 0) },
   { name := "Count", parameters := [], marked := true
     body := fun _ _ c => answer c (.ok (.int c.evaluations)) },
   { name := "Reset", parameters := [], marked := false
     body := fun _ _ _ => change initial (.ok initial) }]

end Calculator

end HostConsole.Demo
