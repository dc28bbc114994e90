import HostConsole.Property.Category
import HostConsole.Property.Tables
import HostConsole.Property.WordBreak

/-! Properties that follow from others. -/

namespace HostConsole.Property

/-! ### Case -/

def lowercase : CodePoints :=
  (Category.among ["Ll"]).union otherLowercase

def uppercase : CodePoints :=
  (Category.among ["Lu"]).union otherUppercase

def cased : CodePoints :=
  (lowercase.union uppercase).union (Category.among ["Lt"])

def changesWhenCasemapped : CodePoints :=
  (changesWhenLowercased.union changesWhenUppercased).union changesWhenTitlecased

/-- Characters that do not end a word for the purposes of case. -/
def caseIgnorable : CodePoints :=
  (Category.among ["Mn", "Me", "Cf", "Lm", "Sk"]).union
    (.ofStretches (["MB", "ML", "SQ"].contains ·) WordBreak.stretches)

/-! ### Words and names -/

def alphabetic : CodePoints :=
  (cased.union (Category.among ["Lm", "Lo", "Nl"])).union otherAlphabetic

/-- Characters of words: letters, marks, digits, connectors and joiners. -/
def word : CodePoints :=
  (alphabetic.union (Category.among ["Mn", "Mc", "Me", "Nd", "Pc"])).union joinControl

def digit : CodePoints :=
  Category.among ["Nd"]

/-- Characters that patterns and programs reserve, which no name holds. -/
def reserved : CodePoints :=
  patternSyntax.union patternWhiteSpace

def idStart : CodePoints :=
  ((Category.among ["Lu", "Ll", "Lt", "Lm", "Lo", "Nl"]).union otherIdStart).diff reserved

def idContinue : CodePoints :=
  ((idStart.union (Category.among ["Mn", "Mc", "Nd", "Pc"])).union otherIdContinue).diff reserved

/-- Characters whose compatibility forms are not names where they are. -/
def unstableNames : CodePoints :=
  .ofRows ["890 1 11552 2 52161 6 406 2 116 1 1 1 1 1 1 1 1 1 1 1 1 1 1 1"]

def xidStart : CodePoints :=
  idStart.diff (unstableNames.union (.ofRows ["3635 1 127 1 61674 2"]))

def xidContinue : CodePoints :=
  idContinue.diff unstableNames

def math : CodePoints :=
  (Category.among ["Sm"]).union otherMath

/-! ### Graphemes -/

def graphemeExtend : CodePoints :=
  (Category.among ["Mn", "Me"]).union otherGraphemeExtend

def graphemeBase : CodePoints :=
  ((Category.among ["Cc", "Cf", "Cs", "Co", "Cn", "Zl", "Zp"]).union graphemeExtend).complement

/-- Characters that are not shown where a font lacks them. Formats that frame a text
or build up signs are shown. -/
def defaultIgnorable : CodePoints :=
  let framing := CodePoints.range 0xFFF9 0xFFFB
  let joining := CodePoints.range 0x13430 0x1343F
  ((otherDefaultIgnorableCodePoint.union (Category.among ["Cf"])).union variationSelector).diff
    (((whiteSpace.union framing).union joining).union prependedConcatenationMark)

end HostConsole.Property
