import HostConsole.Value

/-! The arguments that an operation's body receives, and typed access to them. -/

namespace HostConsole

structure Arguments (C : Type) where
  values : List (Value C)

/-- Why an argument cannot be had at the type asked for. -/
inductive AccessFault where
  | missing (index : Nat)
  | mismatch (index : Nat) (typeName text expected : String)
  | foreignObject (index : Nat) (typeName : String)
  deriving DecidableEq

namespace AccessFault

def message : AccessFault → String
  | .missing index => "missing argument " ++ Decimal.text index
  | .mismatch index typeName text expected =>
    "argument " ++ Decimal.text index ++ " is " ++ typeName ++ " '" ++ text ++ "', expected " ++
      expected
  | .foreignObject index typeName => "argument " ++ Decimal.text index ++ " is a " ++ typeName

end AccessFault

namespace Arguments

variable {C : Type}

def size (a : Arguments C) : Nat :=
  a.values.length

def isEmpty (a : Arguments C) : Bool :=
  a.values.isEmpty

/-- Equality of all values, as the console sees it. -/
def same (a b : Arguments C) : Bool :=
  a.size == b.size && (a.values.zip b.values).all fun p => p.1.same p.2

def value (a : Arguments C) (index : Nat) : Except AccessFault (Value C) :=
  match a.values[index]? with
  | some v => .ok v
  | none => .error (.missing index)

variable [Described C]

def text (a : Arguments C) : String :=
  ", ".intercalate (a.values.map Value.text)

def describe (a : Arguments C) : String :=
  "Args \x7b values: [" ++ ", ".intercalate (a.values.map Value.describe) ++ "] \x7d"

/-- The argument at an index as `view` shows it, where it does. -/
def get {α : Type} (expected : String) (view : Value C → Option α) (a : Arguments C) (index : Nat) :
    Except AccessFault α := do
  let v ← a.value index
  match view v with
  | some x => return x
  | none => throw (.mismatch index v.typeName v.text expected)

def int : Arguments C → Nat → Except AccessFault Int32 :=
  get "int" fun | .int n => some n | _ => none

def float : Arguments C → Nat → Except AccessFault Float32 :=
  get "float" fun | .float x => some x | _ => none

def double : Arguments C → Nat → Except AccessFault Float :=
  get "double" fun | .double x => some x | _ => none

def bool : Arguments C → Nat → Except AccessFault Bool :=
  get "bool" fun | .bool b => some b | _ => none

def string : Arguments C → Nat → Except AccessFault String :=
  get "string" fun | .string s => some s | _ => none

def member : Arguments C → Nat → Except AccessFault String :=
  get "enum" fun | .member _ name => some name | _ => none

/-- The object at an index, where it is of the host type that `view` looks for. -/
def object {α : Type} (view : C → Option α) (a : Arguments C) (index : Nat) :
    Except AccessFault α := do
  let o ← get "object" (fun | .object o => some o | _ => none) a index
  match view o.content with
  | some x => return x
  | none => throw (.foreignObject index (Described.typeName o.content))

end Arguments

end HostConsole
