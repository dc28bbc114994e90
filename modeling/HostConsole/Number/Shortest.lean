import HostConsole.Number.Binary
import HostConsole.Number.Decimal

/-! The shortest decimal text of a binary number: the fewest digits that read
back as the same number, and of those the nearest. -/

namespace HostConsole.Binary

/-- The numbers that round to a given one: all between `low` and `high`, in units
of `unit`, the ends included where `closed` says so. The number itself is `mid`. -/
structure Interval where
  low : Nat
  mid : Nat
  high : Nat
  unit : Nat
  closed : Bool

/-- The interval of a positive number. A power of two has its lower neighbour
half as far away as its upper one. -/
def interval (f : Format) (significand scale : Nat) : Interval :=
  let size := Nat.pow 2 scale
  { low := (4 * significand - if significand = f.stride then 1 else 2) * size
    mid := 4 * significand * size
    high := (4 * significand + 2) * size
    unit := 4 * Nat.pow 2 f.unitBits
    closed := significand % 2 == 0 }

/-- A decimal number: `digits` times ten to the power of `exponent`. -/
structure Decimal where
  digits : Nat
  exponent : Int
  deriving DecidableEq

namespace Interval

/-- Whether the point `n / d` lies in the interval. -/
def contains (i : Interval) (n d : Nat) : Bool :=
  if i.closed then i.low * d ≤ n * i.unit && n * i.unit ≤ i.high * d
  else i.low * d < n * i.unit && n * i.unit < i.high * d

/-- The point of a grid that is in the interval and nearest to the number, if
there is one. The grid is the multiples of `up / down`; of two equally near
points the greater is taken. -/
def onGrid (i : Interval) (up down : Nat) : Option Nat :=
  let num := i.mid * down
  let den := i.unit * up
  let below := num / den
  let above := below + 1
  let belowIn := i.contains (below * up) down
  let aboveIn := i.contains (above * up) down
  if belowIn && aboveIn then
    if 2 * (num % den) < den then some below else some above
  else if belowIn then some below
  else if aboveIn then some above
  else none

/-- The first grid with a point in the interval, from ten to the power of
`exponent` on, each grid ten times as fine as the one before. -/
def search (i : Interval) : (grids : Nat) → (exponent : Int) → Decimal
  | 0, exponent => ⟨0, exponent⟩
  | grids + 1, exponent =>
    match i.onGrid (Nat.pow 10 exponent.toNat) (Nat.pow 10 (-exponent).toNat) with
    | some digits => ⟨digits, exponent⟩
    | none => search i grids (exponent - 1)

end Interval

/-- The shortest decimal that reads back as a positive number. The search starts
above the number and ends at the latest on the grid where it is exact. -/
def shortest (f : Format) (significand scale : Nat) : Decimal :=
  let i := interval f significand scale
  let start := (HostConsole.Decimal.write (i.mid / i.unit)).length
  i.search (start + f.unitBits + 3) start

namespace Decimal

/-- A decimal written out in full, without an exponent. -/
def positional (d : Decimal) : List Char :=
  let ds := HostConsole.Decimal.write d.digits
  if 0 ≤ d.exponent then ds ++ List.replicate d.exponent.toNat '0'
  else
    let places := (-d.exponent).toNat
    let padded := List.replicate (places + 1 - ds.length) '0' ++ ds
    let whole := padded.length - places
    padded.take whole ++ '.' :: padded.drop whole

end Decimal

def Number.write (f : Format) : Number → String
  | .nan => "NaN"
  | .infinite negative => if negative then "-inf" else "inf"
  | .finite negative significand scale =>
    let digits := if significand = 0 then ['0'] else (shortest f significand scale).positional
    String.ofList (if negative then '-' :: digits else digits)

end HostConsole.Binary
