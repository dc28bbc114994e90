import HostConsole.Number.Floating
import HostConsole.Number.Integer
import HostConsole.Ty

/-! Values: what operations take and give, and what variables hold. Hosts bring
values of their own, which the console passes on and never looks into. -/

namespace HostConsole

/-- What the console knows of a host's own values: the name of their type and
their text. -/
class Described (C : Type) where
  typeName : C → String
  text : C → String

/-- What tells objects apart: the run of an operation that made the object, and
its place among those made in that run. -/
structure Identity where
  run : Nat
  slot : Nat
  deriving DecidableEq

/-- A host's own value with its identity. -/
structure Object (C : Type) where
  id : Identity
  content : C

/-- A value. A member carries the name of its enumeration only, so that it fits
every enumeration of that name. -/
inductive Value (C : Type) where
  | int (n : Int32)
  | float (x : Float32)
  | double (x : Float)
  | bool (b : Bool)
  | string (s : String)
  | member (typeName name : String)
  | object (o : Object C)

namespace Value

variable {C : Type}

/-- Equality as the console sees it: numbers by value, so that no number equals
one that is not a number, and objects by identity. -/
def same : Value C → Value C → Bool
  | .int m, .int n => m == n
  | .float x, .float y => x == y
  | .double x, .double y => x == y
  | .bool a, .bool b => a == b
  | .string s, .string t => s == t
  | .member s a, .member t b => s == t && a == b
  | .object o, .object p => o.id == p.id
  | _, _ => false

def string? : Value C → Option String
  | .string s => some s
  | _ => none

variable [Described C]

def typeName : Value C → String
  | .int _ => "int"
  | .float _ => "float"
  | .double _ => "double"
  | .bool _ => "bool"
  | .string _ => "string"
  | .member typeName _ => typeName
  | .object o => Described.typeName o.content

/-- Whether a value already is of a type. -/
def hasType : Value C → Ty → Bool
  | _, .any => true
  | .int _, .int => true
  | .float _, .float => true
  | .double _, .double => true
  | .bool _, .bool => true
  | .string _, .string => true
  | .member typeName _, .enum e => typeName == e.name
  | .object o, .object name => Described.typeName o.content == name
  | _, _ => false

def text : Value C → String
  | .int n => Integer.write n
  | .float x => Floating.writeSingle x
  | .double x => Floating.writeDouble x
  | .bool b => if b then "true" else "false"
  | .string s => s
  | .member _ name => name
  | .object o => Described.text o.content

/-- A value's text together with its type. -/
def describe : Value C → String
  | .string s => "Str(" ++ Text.quoted s ++ ")"
  | .member typeName name => "Enum(" ++ typeName ++ "::" ++ name ++ ")"
  | .object o =>
    "Object(" ++ Described.typeName o.content ++ ": " ++ Described.text o.content ++ ")"
  | v => v.typeName ++ "(" ++ v.text ++ ")"

end Value

end HostConsole
