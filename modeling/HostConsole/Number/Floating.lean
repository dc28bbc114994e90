import HostConsole.Number.Shortest

/-! Floating-point numbers read from and written to text. -/

namespace HostConsole.Floating

open Binary

/-- Why a text is no floating-point number. -/
inductive ReadFault where
  | empty
  | invalid
  deriving DecidableEq

def ReadFault.message : ReadFault → String
  | .empty => "cannot parse float from empty string"
  | .invalid => "invalid float literal"

/-- What a text says before it is rounded to a format. A decimal is `digits`
times ten to the power of `exponent`. -/
inductive Literal where
  | nan
  | infinite
  | decimal (digits : Nat) (exponent : Int)
  deriving DecidableEq

/-- A sign, if there is one, and the rest. -/
def readSign : List Char → Bool × List Char
  | '-' :: r => (true, r)
  | '+' :: r => (false, r)
  | s => (false, s)

/-- An exponent mark with its number; no mark stands for exponent zero. -/
def readExponent : List Char → Option Int
  | [] => some 0
  | c :: r =>
    if c = 'e' || c = 'E' then
      let (negative, ds) := readSign r
      if ds.isEmpty || !ds.all Decimal.isDigit then none
      else some (if negative then -(Decimal.value ds : Int) else Decimal.value ds)
    else none

/-- Digits with at most one point among them, then an exponent. -/
def readDecimal (s : List Char) : Option Literal :=
  let whole := s.takeWhile Decimal.isDigit
  let rest := s.dropWhile Decimal.isDigit
  let (places, rest) := match rest with
    | '.' :: r => (r.takeWhile Decimal.isDigit, r.dropWhile Decimal.isDigit)
    | r => ([], r)
  if whole.isEmpty && places.isEmpty then none
  else
    (readExponent rest).map fun e =>
      .decimal (Decimal.value (whole ++ places)) (e - places.length)

def readUnsigned (s : List Char) : Option Literal :=
  match String.ofList (s.map Char.toLower) with
  | "nan" => some .nan
  | "inf" => some .infinite
  | "infinity" => some .infinite
  | _ => readDecimal s

/-- A decimal of more than this many digits before the point is beyond every
format, and one with this many zeros behind it is nearest to zero. -/
def digitRange : Int := 400

/-- The bits of a literal in a format, rounded to nearest. -/
def Literal.bits (f : Format) : Literal → Nat
  | .nan => f.nanBits
  | .infinite => f.infinityBits
  | .decimal digits exponent =>
    if digits = 0 then 0
    else
      let places := (Decimal.write digits).length + exponent
      if digitRange < places then f.infinityBits
      else if places < -digitRange then 0
      else nearestBits f (digits * Nat.pow 10 exponent.toNat) (Nat.pow 10 (-exponent).toNat)

/-- The bits of the number that a text spells. -/
def readBits (f : Format) (s : List Char) : Except ReadFault Nat :=
  if s.isEmpty then .error .empty
  else
    let (negative, r) := readSign s
    match readUnsigned r with
    | some l => .ok (withSign f negative (l.bits f))
    | none => .error .invalid

def readSingle (s : List Char) : Except ReadFault Float32 :=
  (readBits .single s).map fun n => Float32.ofBits (UInt32.ofNat n)

def readDouble (s : List Char) : Except ReadFault Float :=
  (readBits .double s).map fun n => Float.ofBits (UInt64.ofNat n)

def writeSingle (x : Float32) : String :=
  (Binary.ofBits .single x.toBits.toNat).write .single

def writeDouble (x : Float) : String :=
  (Binary.ofBits .double x.toBits.toNat).write .double

end HostConsole.Floating
