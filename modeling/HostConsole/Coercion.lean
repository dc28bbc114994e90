import HostConsole.Fault
import HostConsole.Value

/-! Coercion of arguments to the types of their parameters. A value that is of
its type already is kept; a text is read as the type says; nothing else changes. -/

namespace HostConsole

/-- A truth value, its case and the white space around it aside. -/
def readBool (text : String) : Option Bool :=
  let word := Text.trim text.toList
  if Text.alikeAscii word "true".toList then some true
  else if Text.alikeAscii word "false".toList then some false
  else none

variable {C : Type}

/-- A text read as a type. -/
def coerceText (text : String) (type : Ty) : Except Fault (Value C) :=
  let word := Text.trim text.toList
  match type with
  | .any | .string => .ok (.string text)
  | .int => match Integer.read word with
    | .ok n => .ok (.int n)
    | .error e => .error (.coercion text type (.integer e))
  | .float => match Floating.readSingle word with
    | .ok x => .ok (.float x)
    | .error e => .error (.coercion text type (.floating e))
  | .double => match Floating.readDouble word with
    | .ok x => .ok (.double x)
    | .error e => .error (.coercion text type (.floating e))
  | .bool => match readBool text with
    | some b => .ok (.bool b)
    | none => .error (.coercion text type .notBool)
  | .enum e => match e.find? text with
    | some name => .ok (.member e.name name)
    | none => .error (.coercion text type (.notMember e.members))
  | .object _ => .error (.unsupportedType text type)

variable [Described C]

def coerce (v : Value C) (type : Ty) : Except Fault (Value C) :=
  if v.hasType type then .ok v
  else match v with
    | .string text => coerceText text type
    | v => .error (.coercion v.text type (.ofType v.typeName))

/-- Arguments paired with parameters, from position `index` on. The first that
does not fit ends the coercion. -/
def coerceFrom (index : Nat) :
    List (Option (Value C)) → List Parameter → Except Fault (List (Value C))
  | none :: _, p :: _ => .error (.nullArgument index p.type)
  | some v :: vs, p :: ps => do
    let w ← coerce v p.type
    let ws ← coerceFrom (index + 1) vs ps
    return w :: ws
  | _, _ => .ok []

def coerceAll (vs : List (Option (Value C))) (ps : List Parameter) :
    Except Fault (List (Value C)) :=
  coerceFrom 0 vs ps

end HostConsole
