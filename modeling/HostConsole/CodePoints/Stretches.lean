import HostConsole.CodePoints.Basic
import HostConsole.Number.Decimal

/-! Tables of code points. A table is a row of stretches from code point 0 on; each has
a length, and a value where the table gives one. -/

namespace HostConsole

/-- A stretch of code points that share a value. -/
structure Stretch where
  value : String
  length : Nat
  deriving DecidableEq

namespace Stretch

/-- A stretch as tables write it: its value, and its length behind that. -/
def ofText (text : String) : Stretch :=
  let cs := text.toList
  ⟨String.ofList (cs.takeWhile (!Decimal.isDigit ·)),
    Decimal.value (cs.dropWhile (!Decimal.isDigit ·))⟩

/-- The stretches of a table written in rows, with a space between any two in a row. -/
def ofRows (rows : List String) : List Stretch :=
  rows.flatMap fun row => (row.splitOn " ").map ofText

/-- The value at a distance behind the beginning of a table. -/
def valueAt? : (distance : Nat) → List Stretch → Option String
  | _, [] => none
  | n, s :: r => if n < s.length then some s.value else valueAt? (n - s.length) r

end Stretch

namespace CodePoints

/-- The switches of the stretches whose values are wanted, from a point behind one that
is wanted or not. -/
def switchesOfStretches (wanted : String → Bool) :
    (point : Nat) → (inside : Bool) → List Stretch → List Nat
  | _, _, [] => []
  | point, inside, s :: r =>
    if wanted s.value = inside then switchesOfStretches wanted (point + s.length) inside r
    else point :: switchesOfStretches wanted (point + s.length) (!inside) r

/-- The code points whose values are wanted. -/
def ofStretches (wanted : String → Bool) (stretches : List Stretch) : CodePoints :=
  ⟨switchesOfStretches wanted 0 false stretches⟩

/-- The ends of stretches of given lengths, the first of which begins at a point. -/
def endsOfLengths : (point : Nat) → List Nat → List Nat
  | _, [] => []
  | point, n :: r => (point + n) :: endsOfLengths (point + n) r

/-- The set that a table gives by the lengths of the stretches outside and inside in
turn. -/
def ofRows (rows : List String) : CodePoints :=
  ⟨endsOfLengths 0 ((Stretch.ofRows rows).map Stretch.length)⟩

end CodePoints

end HostConsole
