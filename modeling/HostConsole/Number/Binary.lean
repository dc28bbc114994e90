/-! Binary floating-point formats. A format fixes which numbers there are; the
bits of a number are a plain natural number here, so that rounding is exact
arithmetic on integers. -/

namespace HostConsole.Binary

/-- A format by the bits of its significand, the leading one included, and of
its exponent. -/
structure Format where
  precision : Nat
  exponentBits : Nat
  deriving DecidableEq

namespace Format

def single : Format := ⟨24, 8⟩

def double : Format := ⟨53, 11⟩

/-- The smallest positive number of the format is two to the power of minus this. -/
def unitBits (f : Format) : Nat :=
  Nat.pow 2 (f.exponentBits - 1) - 2 + (f.precision - 1)

/-- The distance between the first bits of two neighbouring exponents. -/
def stride (f : Format) : Nat :=
  Nat.pow 2 (f.precision - 1)

/-- The number of exponents, the one for infinity included. -/
def exponents (f : Format) : Nat :=
  Nat.pow 2 f.exponentBits

def infinityBits (f : Format) : Nat :=
  (f.exponents - 1) * f.stride

def nanBits (f : Format) : Nat :=
  f.infinityBits + f.stride / 2

def signBit (f : Format) : Nat :=
  f.exponents * f.stride

end Format

/-- A number as its bits describe it. A finite one is `significand` times two to
the power of `scale`, in units of the format's smallest number. -/
inductive Number where
  | nan
  | infinite (negative : Bool)
  | finite (negative : Bool) (significand scale : Nat)
  deriving DecidableEq

def ofBits (f : Format) (bits : Nat) : Number :=
  let negative := f.signBit ≤ bits
  let field := bits / f.stride % f.exponents
  let fraction := bits % f.stride
  if field = f.exponents - 1 then
    if fraction = 0 then .infinite negative else .nan
  else if field = 0 then .finite negative fraction 0
  else .finite negative (f.stride + fraction) (field - 1)

/-- A quotient rounded to a whole number, a half going to the even neighbour. -/
def roundHalfEven (num den : Nat) : Nat :=
  let q := num / den
  let r := num % den
  if 2 * r < den then q
  else if den < 2 * r then q + 1
  else if q % 2 = 0 then q else q + 1

/-- The bits of the number nearest to a quotient, infinity for one too large. -/
def nearestBits (f : Format) (num den : Nat) : Nat :=
  let units := num * Nat.pow 2 f.unitBits
  let scale := (Nat.log2 (units / den) + 1) - f.precision
  min (scale * f.stride + roundHalfEven units (den * Nat.pow 2 scale)) f.infinityBits

def withSign (f : Format) (negative : Bool) (bits : Nat) : Nat :=
  if negative then f.signBit + bits else bits

end HostConsole.Binary
