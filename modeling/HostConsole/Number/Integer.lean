import HostConsole.Number.Decimal

/-! Integers of 32 bits read from text. The text is read from the left and the
first problem met is the one reported. -/

namespace HostConsole.Integer

/-- The greatest 32-bit integer, and the magnitude of the smallest. -/
def greatest : Nat := 2147483647

def smallest : Nat := 2147483648

/-- Why a text is no 32-bit integer. -/
inductive ReadFault where
  | empty
  | invalidDigit
  | tooLarge
  | tooSmall
  deriving DecidableEq

def ReadFault.message : ReadFault → String
  | .empty => "cannot parse integer from empty string"
  | .invalidDigit => "invalid digit found in string"
  | .tooLarge => "number too large to fit in target type"
  | .tooSmall => "number too small to fit in target type"

/-- Digits after a number `acc`, stopping as soon as the value passes `limit`. -/
def readDigits (limit : Nat) (overflow : ReadFault) (acc : Nat) : List Char → Except ReadFault Nat
  | [] => .ok acc
  | c :: r =>
    if Decimal.isDigit c then
      let next := 10 * acc + Decimal.digitValue c
      if limit < next then .error overflow else readDigits limit overflow next r
    else .error .invalidDigit

/-- At least one digit. -/
def readMagnitude (limit : Nat) (overflow : ReadFault) : List Char → Except ReadFault Nat
  | [] => .error .invalidDigit
  | c :: r => readDigits limit overflow 0 (c :: r)

/-- An optional sign and digits. -/
def read : List Char → Except ReadFault Int32
  | [] => .error .empty
  | '-' :: r => do
    let n ← readMagnitude smallest .tooSmall r
    return Int32.ofInt (-n)
  | '+' :: r => do
    let n ← readMagnitude greatest .tooLarge r
    return Int32.ofInt n
  | c :: r => do
    let n ← readMagnitude greatest .tooLarge (c :: r)
    return Int32.ofInt n

def write (n : Int32) : String :=
  String.ofList (Decimal.writeInt n.toInt)

end HostConsole.Integer
