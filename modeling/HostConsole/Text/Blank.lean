/-! White space and trimming. A line, an argument and a variable name are all
read without the white space around them, in any script. -/

namespace HostConsole.Text

/-- The code points of white space, as inclusive ranges. -/
def blankRanges : List (Nat × Nat) :=
  [(0x0009, 0x000D), (0x0020, 0x0020), (0x0085, 0x0085), (0x00A0, 0x00A0), (0x1680, 0x1680),
   (0x2000, 0x200A), (0x2028, 0x2029), (0x202F, 0x202F), (0x205F, 0x205F), (0x3000, 0x3000)]

def isBlank (c : Char) : Bool :=
  blankRanges.any fun r => r.1 ≤ c.toNat && c.toNat ≤ r.2

/-- A text of white space only; the empty text is one. -/
def isAllBlank (s : List Char) : Bool :=
  s.all isBlank

def trimLeft (s : List Char) : List Char :=
  s.dropWhile isBlank

def trimRight (s : List Char) : List Char :=
  (trimLeft s.reverse).reverse

/-- A text without the white space at its two ends. -/
def trim (s : List Char) : List Char :=
  trimRight (trimLeft s)

/-- The same on strings. -/
def trimmed (s : String) : String :=
  String.ofList (trim s.toList)

end HostConsole.Text
