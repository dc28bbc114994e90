/-! Whole numbers in decimal digits. -/

namespace HostConsole.Decimal

def isDigit (c : Char) : Bool :=
  '0' ≤ c && c ≤ '9'

def digitValue (c : Char) : Nat :=
  c.toNat - '0'.toNat

def digitChar (d : Nat) : Char :=
  Char.ofNat ('0'.toNat + d)

/-- The digits of a number, the leading one not zero unless the number is. -/
def write (n : Nat) : List Char :=
  if n < 10 then [digitChar n] else write (n / 10) ++ [digitChar (n % 10)]

def text (n : Nat) : String :=
  String.ofList (write n)

/-- The value of a row of digits after digits of value `acc`. -/
def valueFrom (acc : Nat) (ds : List Char) : Nat :=
  ds.foldl (fun n c => 10 * n + digitValue c) acc

def value (ds : List Char) : Nat :=
  valueFrom 0 ds

/-- A whole number with a minus sign where it is negative. -/
def writeInt (n : Int) : List Char :=
  if n < 0 then '-' :: write n.natAbs else write n.natAbs

end HostConsole.Decimal
