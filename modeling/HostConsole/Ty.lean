import HostConsole.Text.Alike
import HostConsole.Text.Blank
import HostConsole.Text.Quoted

/-! Declared types of parameters. -/

namespace HostConsole

/-- A type of named members, in their declared spelling and order. -/
structure Enumeration where
  name : String
  members : List String
  deriving DecidableEq

namespace Enumeration

/-- The first member that a text spells up to case. White space around the text
does not count; around a member it does. -/
def find? (e : Enumeration) (text : String) : Option String :=
  e.members.find? (Text.alike · (Text.trimmed text))

end Enumeration

/-- The type of a parameter. Objects belong to a type by its name alone, and are
never read from text. -/
inductive Ty where
  | any
  | int
  | float
  | double
  | bool
  | string
  | enum (e : Enumeration)
  | object (name : String)
  deriving DecidableEq

namespace Ty

def name : Ty → String
  | .any => "any"
  | .int => "int"
  | .float => "float"
  | .double => "double"
  | .bool => "bool"
  | .string => "string"
  | .enum e => e.name
  | .object name => name

/-- The type in full, with the members of an enumeration. -/
def describe : Ty → String
  | .any => "Any"
  | .int => "Int"
  | .float => "Float"
  | .double => "Double"
  | .bool => "Bool"
  | .string => "Str"
  | .enum e =>
    "Enum(EnumType \x7b name: " ++ Text.quoted e.name ++ ", members: [" ++
      ", ".intercalate (e.members.map Text.quoted) ++ "] \x7d)"
  | .object name => "Object(" ++ Text.quoted name ++ ")"

end Ty

/-- A named and typed position in an argument list. -/
structure Parameter where
  name : String
  type : Ty
  deriving DecidableEq

namespace Parameter

def text (p : Parameter) : String :=
  p.name ++ " : " ++ p.type.name

def describe (p : Parameter) : String :=
  "Param \x7b name: " ++ Text.quoted p.name ++ ", ty: " ++ p.type.describe ++ " \x7d"

end Parameter

end HostConsole
