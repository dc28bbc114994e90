import HostConsole.Text.LowerCase

/-! Comparison of texts without regard to case. Names of operations and members
of enumerations are looked up this way. -/

namespace HostConsole.Text

/-- Equality up to the case of ASCII letters. -/
def alikeAscii (a b : List Char) : Bool :=
  a.map Char.toLower == b.map Char.toLower

/-- Equality up to case. Most names are plain ASCII, so that comparison goes
first and the folded forms are built only when it fails. -/
def alike (a b : String) : Bool :=
  alikeAscii a.toList b.toList || fold a.toList == fold b.toList

/-- Whether a text begins with another up to case. -/
def beginsAlike (text start : String) : Bool :=
  (fold start.toList).isPrefixOf (fold text.toList)

end HostConsole.Text
